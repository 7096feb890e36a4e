import Mathlib
import RestGateway.Proofs.Gateway.Headers
import RestGateway.Proofs.Search
import RestGateway.Proofs.Wire

/-! The one thing that can keep a call from becoming a request or a refusal, or a request from
having an outcome, is the room for headers. It is exhausted exactly when there are as many names as
there is room for before the last header is put. -/
namespace RestGateway

/-- There is no room left when the last header of the call is to be put. -/
def Call.IsOverfull (c : Call) : Prop := Headers.IsOverfull c.names

lemma Call.forwardedHeaders?_eq_none_iff {c : Call} :
    c.forwardedHeaders? = none ↔ c.IsOverfull := c.follows_forwardedHeaders?.eq_none_iff

namespace Headers

lemma isName_lower {key : String} (h : isName key = true) : isName (lower key) = true := by
  have hlist : (lower key).toList = key.toList.map Char.toLower := String.toList_ofList
  have hchar (c : Char) (hc : isNameChar c = true) : isNameChar c.toLower = true := by
    by_cases hu : c.isUpper = true
    · have halpha : c.toLower.isAlpha = true := by
        rw [Char.isAlpha_toLower_eq_isAlpha, Char.isAlpha, hu, Bool.true_or]
      rw [isNameChar, Char.isAlphanum, halpha]
      rfl
    · rwa [Char.toLower_eq_of_not_isUpper hu]
  simp only [isName, Bool.and_eq_true, Bool.not_eq_true', String.isEmpty_eq_false_iff,
    decide_eq_true_eq, ← String.length_toList, ← String.toList_eq_nil_iff, ne_eq, hlist,
    List.length_map, List.map_eq_nil_iff, List.all_map, List.all_eq_true] at h ⊢
  exact ⟨⟨h.1.1, fun c hc => hchar c (h.1.2 c hc)⟩, h.2⟩

lemma lower_lower (s : String) : lower (lower s) = lower s := by
  rw [lower, lower, String.toList_ofList, List.map_map]
  congr 1
  exact List.map_congr_left fun c _ => Char.toLower_toLower_eq_toLower c

end Headers

namespace Call

/-- A name in small letters and a value, as headers can have them. -/
structure IsLegal (header : String × String) : Prop where
  name : Headers.isName header.1 = true
  lower : Headers.lower header.1 = header.1
  value : Headers.isValue header.2 = true

/-- Whatever is put is fit to be a header. -/
lemma isLegal_of_mem {c : Call} {header : String × String}
    (h : header ∈ c.callerHeaders ++ c.identifiers) : IsLegal header := by
  rcases List.mem_append.mp h with hm | hm
  · obtain ⟨⟨key, value⟩, hk, rfl⟩ := List.mem_map.mp hm
    obtain ⟨-, hname, hvalue⟩ := isForwarded_iff.mp (List.mem_filter.mp hk).2
    exact ⟨Headers.isName_lower hname, Headers.lower_lower key, hvalue⟩
  · simp only [identifiers, List.mem_append] at hm
    rcases hm with (hm | hm) | hm
    all_goals
      obtain ⟨hname, hvalue⟩ := isLegal_of_mem_identifier hm
      exact ⟨by rw [hname]; decide, by rw [hname]; decide, hvalue⟩

end Call

/-! ### Calls that come to nothing -/

namespace Gateway

/-- The call gets as far as its headers: it has entries, and with them a path and a URL. -/
def ReachesHeaders (g : Gateway) (c : Call) : Prop :=
  ∃ payload url, c.entries = .ok payload ∧ (g.bound c payload).rejected = [] ∧
    g.base.join (g.bound c payload).path = .ok url

/-- The call has a request, and there is no room left when the last header of the request is to be
put, those of the client included. -/
def IsCrowded (g : Gateway) (d : Downstream) (c : Call) : Prop :=
  ∃ o, g.prepare c = .ok o ∧ Headers.IsOverfull (putNames d o)

/-- A preparation ends with a request or a refusal. -/
def IsSettled (g : Gateway) (c : Call) : Prop :=
  (∃ o, g.prepare c = .ok o) ∨ ∃ e, g.prepare c = .error (.refused e)

section
variable {g : Gateway} {c : Call}

lemma prepare_eq_tooManyHeaders_iff :
    g.prepare c = .error .tooManyHeaders ↔ g.ReachesHeaders c ∧ c.IsOverfull := by
  constructor
  · intro h
    rcases he : c.entries with reason | payload
    · simp [prepare_of_entries_error he] at h
    by_cases hr : (g.bound c payload).rejected = []
    · rcases hj : g.base.join (g.bound c payload).path with e | url
      · simp [prepare_of_join_error he hr hj] at h
      · refine ⟨⟨payload, url, he, hr, hj⟩, ?_⟩
        rw [prepare_of_join he hr hj] at h
        cases hh : c.forwardedHeaders? with
        | none => exact Call.forwardedHeaders?_eq_none_iff.mp hh
        | some headers => simp [hh] at h
    · simp [prepare_of_rejected he hr] at h
  · rintro ⟨⟨payload, url, he, hr, hj⟩, hover⟩
    rw [prepare_of_join he hr hj, Call.forwardedHeaders?_eq_none_iff.mpr hover]

lemma isSettled_iff : g.IsSettled c ↔ ¬(g.ReachesHeaders c ∧ c.IsOverfull) := by
  rw [← prepare_eq_tooManyHeaders_iff, IsSettled]
  rcases g.prepare c with (e | _) | o <;> simp

lemma exists_run?_iff (d : Downstream) :
    (∃ outcome sent, g.run? d c = some (outcome, sent)) ↔
      ¬(g.ReachesHeaders c ∧ c.IsOverfull) ∧ ¬g.IsCrowded d c := by
  rw [← prepare_eq_tooManyHeaders_iff, IsCrowded]
  cases ho : g.prepare c with
  | error stop => cases stop <;> simp [run?, ho]
  | ok o =>
    have hsend : g.send? d o = none ↔ _ := send?_eq_none_iff (isClean_of_prepare ho)
    rw [run?_of_prepare ho]
    cases hs : g.send? d o <;> simp_all

lemma not_isCrowded_of_fits (h : c.Fits) (d : Downstream) : ¬g.IsCrowded d c :=
  ((exists_run?_iff d).mp (g.exists_run? d h)).2

/-- A call that takes all the room leaves none for the client. -/
lemma isCrowded_of_full (d : Downstream) {o : Outbound} (ho : g.prepare c = .ok o)
    (hhttp : Config.isHttp o.target.scheme = true)
    (hfull : Headers.room ≤ c.names.toFinset.card) : g.IsCrowded d c := by
  refine ⟨o, ho, hfull.trans (Finset.card_le_card fun name hname => ?_)⟩
  rw [← keys_of_prepare ho, List.mem_toFinset] at hname
  rw [List.mem_toFinset, putNames, if_pos hhttp]
  split_ifs <;> simp_all [Outbound.connectedNames, Outbound.namedNames, Outbound.builtNames]

end

/-- A call becomes a request or a refusal unless it gets as far as its headers and there is no room
for them, and has an outcome, whether it is executed or undone, unless there is no room for them or
for those that the client puts beside them. Every other step can be taken: the template is cut
between characters only, and what is put is fit to be a header. -/
theorem settled_unless_overfull (g : Gateway) (d : Downstream) (c : Call) :
    (g.IsSettled c ↔ ¬(g.ReachesHeaders c ∧ c.IsOverfull)) ∧
      ((∃ outcome sent, g.execute? d c = some (outcome, sent)) ↔
        ¬(g.ReachesHeaders c ∧ c.IsOverfull) ∧ ¬g.IsCrowded d c) ∧
      ((∃ outcome sent, g.compensate? d c = some (outcome, sent)) ↔
        ¬(g.ReachesHeaders (g.plan c) ∧ (g.plan c).IsOverfull) ∧ ¬g.IsCrowded d (g.plan c)) ∧
      (∀ header ∈ c.callerHeaders ++ c.identifiers, Call.IsLegal header) ∧
      Template.search? (g.routes.resolve c.method).template.toList =
        some (Template.pieces (g.routes.resolve c.method).template) :=
  ⟨isSettled_iff, exists_run?_iff d, exists_run?_iff d, fun _ => Call.isLegal_of_mem,
    Template.search?_eq_scan _⟩

/-! ### A call with an identifier, and calls with many headers -/

def tracedCall : Call := { ordersCall with correlationId := some "7" }

theorem traced_call_settled : ∃ g, ofConfig {} id = .ok g ∧ g.IsSettled tracedCall ∧
    ("x-correlation-id", "7") ∈ tracedCall.callerHeaders ++ tracedCall.identifiers ∧
    Call.IsLegal ("x-correlation-id", "7") ∧ ¬tracedCall.IsOverfull ∧
    ∃ outcome sent, g.execute? (.answering fun _ => .silent) tracedCall =
      some (outcome, sent) := by
  obtain ⟨g, hg⟩ := exists_usual id
  obtain ⟨hsettled, hexecute, -, hlegal, -⟩ :=
    settled_unless_overfull g (.answering fun _ => .silent) tracedCall
  have hfits : tracedCall.Fits := by decide +kernel
  have hroom : ¬tracedCall.IsOverfull := Headers.not_isOverfull_of_card_lt hfits.card_lt
  have hmem : ("x-correlation-id", "7") ∈
      tracedCall.callerHeaders ++ tracedCall.identifiers := by decide
  exact ⟨g, hg, hsettled.mpr fun h => hroom h.2, hmem, hlegal _ hmem, hroom,
    hexecute.mpr ⟨fun h => hroom h.2, not_isCrowded_of_fits hfits _⟩⟩

/-- All words of one length in two letters, in ascending order. -/
def words : Nat → List (List Char)
  | 0 => [[]]
  | n + 1 => (words n).map ('B' :: ·) ++ (words n).map ('a' :: ·)

lemma length_words (n : Nat) : (words n).length = 2 ^ n := by
  induction n with
  | zero => rfl
  | succ n ih =>
    rw [words, List.length_append, List.length_map, List.length_map, ih, pow_succ]
    omega

lemma of_mem_words {n : Nat} {w : List Char} (h : w ∈ words n) :
    w.length = n ∧ ∀ c ∈ w, c = 'B' ∨ c = 'a' := by
  induction n generalizing w with
  | zero =>
    rw [List.mem_singleton.mp h]
    simp
  | succ n ih =>
    rw [words, List.mem_append, List.mem_map, List.mem_map] at h
    obtain ⟨v, hv, rfl⟩ | ⟨v, hv, rfl⟩ := h
    · obtain ⟨hlen, hchars⟩ := ih hv
      exact ⟨by simp [hlen], List.forall_mem_cons.mpr ⟨Or.inl rfl, hchars⟩⟩
    · obtain ⟨hlen, hchars⟩ := ih hv
      exact ⟨by simp [hlen], List.forall_mem_cons.mpr ⟨Or.inr rfl, hchars⟩⟩

lemma pairwise_words (n : Nat) : (words n).Pairwise (· < ·) := by
  induction n with
  | zero => exact List.pairwise_singleton _ _
  | succ n ih =>
    have hcons (c : Char) : ((words n).map (c :: ·)).Pairwise (· < ·) :=
      List.pairwise_map.mpr (ih.imp fun hlt => List.cons_lt_cons_iff.mpr (Or.inr ⟨rfl, hlt⟩))
    refine List.pairwise_append.mpr ⟨hcons 'B', hcons 'a', ?_⟩
    rintro v hv w hw
    obtain ⟨v, -, rfl⟩ := List.mem_map.mp hv
    obtain ⟨w, -, rfl⟩ := List.mem_map.mp hw
    exact List.cons_lt_cons_iff.mpr (Or.inl (by decide))

/-- So many names of fifteen letters. -/
def manyNames (n : Nat) : List (List Char) := (words 15).take n

def manyHeaders (n : Nat) : Dict String := (manyNames n).map fun w => (String.ofList w, "")

def manyCall (n : Nat) : Call := { ordersCall with headers := manyHeaders n }

section
variable {n : Nat}

lemma of_mem_manyNames {w : List Char} (h : w ∈ manyNames n) :
    w.length = 15 ∧ ∀ c ∈ w, c = 'B' ∨ c = 'a' :=
  of_mem_words ((List.take_sublist _ _).subset h)

lemma pairwise_manyNames (n : Nat) : (manyNames n).Pairwise (· < ·) :=
  (pairwise_words 15).sublist (List.take_sublist _ _)

lemma manyHeaders_ascending (n : Nat) : (manyHeaders n).Ascending := by
  rw [Dict.Ascending, Dict.keys, manyHeaders, List.map_map]
  refine List.pairwise_map.mpr ((pairwise_manyNames n).imp fun {v w} hlt => ?_)
  change String.ofList v < String.ofList w
  rwa [String.lt_iff_toList_lt, String.toList_ofList, String.toList_ofList]

lemma isForwarded_many {w : List Char} (h : w ∈ manyNames n) :
    Call.isForwarded (String.ofList w) "" = true := by
  obtain ⟨hlen, hchars⟩ := of_mem_manyNames h
  refine Call.isForwarded_iff.mpr ⟨fun hr => ?_, ?_, by decide⟩
  · -- none of the reserved names has fifteen letters
    have hlower : (Headers.lower (String.ofList w)).toList.length = 15 := by
      rw [Headers.lower, String.toList_ofList, List.length_map, String.toList_ofList, hlen]
    have hnone : ∀ name ∈ Call.reservedHeaders, name.toList.length ≠ 15 := by decide
    exact hnone _ hr hlower
  · have hall : w.all Headers.isNameChar = true := by
      refine List.all_eq_true.mpr fun c hc => ?_
      rcases hchars c hc with rfl | rfl <;> decide
    have hne : w ≠ [] := by
      rintro rfl
      simp at hlen
    simp [Headers.isName, hall, hne, hlen, Headers.longestName]

lemma names_many (n : Nat) :
    (manyCall n).names = (manyNames n).map fun w => Headers.lower (String.ofList w) := by
  have hall : (manyHeaders n).filter (fun header => Call.isForwarded header.1 header.2) =
      manyHeaders n := by
    refine List.filter_eq_self.mpr fun header hm => ?_
    obtain ⟨w, hw, rfl⟩ := List.mem_map.mp hm
    exact isForwarded_many hw
  have hidentifiers : (manyCall n).identifiers = [] := rfl
  rw [Call.names, hidentifiers, List.append_nil]
  change (((manyHeaders n).filter fun header => Call.isForwarded header.1 header.2).map _).map _ = _
  rw [hall, manyHeaders, List.map_map, List.map_map]
  rfl

lemma lower_injOn_many {v w : List Char} (hv : v ∈ manyNames n) (hw : w ∈ manyNames n)
    (h : Headers.lower (String.ofList v) = Headers.lower (String.ofList w)) : v = w := by
  have hback {u : List Char} (hu : u ∈ manyNames n) :
      ((Headers.lower (String.ofList u)).toList.map fun c => if c = 'b' then 'B' else c) = u := by
    rw [Headers.lower, String.toList_ofList, String.toList_ofList, List.map_map]
    refine (List.map_congr_left fun c hc => ?_).trans (List.map_id u)
    rcases (of_mem_manyNames hu).2 c hc with rfl | rfl <;> decide
  rw [← hback hv, h, hback hw]

lemma nodup_names_many (n : Nat) : (manyCall n).names.Nodup := by
  have hnodup : (manyNames n).Nodup := (pairwise_manyNames n).imp fun hlt => hlt.ne
  rw [names_many]
  exact hnodup.map_on fun v hv w hw => lower_injOn_many hv hw

lemma length_names_many (h : n ≤ 2 ^ 15) : (manyCall n).names.length = n := by
  rw [names_many, List.length_map, manyNames, List.length_take, length_words]
  exact min_eq_left h

lemma manyCall_isOverfull_iff (h : n ≤ 2 ^ 15) :
    (manyCall n).IsOverfull ↔ Headers.room ≤ n - 1 := by
  have hnodup := (nodup_names_many n).sublist (List.dropLast_sublist _)
  rw [Call.IsOverfull, Headers.IsOverfull, List.toFinset_card_of_nodup hnodup,
    List.length_dropLast, length_names_many h]

end

lemma reachesHeaders_many {g : Gateway} (hg : ofConfig {} id = .ok g) (n : Nat) :
    g.ReachesHeaders (manyCall n) := by
  have ho : g.prepare ordersCall = .ok ordersRequest := prepare_usual hg rfl [] rfl rfl rfl
  obtain ⟨payload, url, -, he, hr, hj, -⟩ := exists_of_prepare_eq_ok ho
  exact ⟨payload, url, he, hr, hj⟩

/-- A call can be read, and neither its request nor an outcome comes of it. -/
theorem many_headers_stop : ({} : Config).isValid = true ∧ ∃ g, ofConfig {} id = .ok g ∧
    (∃ text, Call.decode text = .ok (manyCall (Headers.room + 1))) ∧
    g.prepare (manyCall (Headers.room + 1)) = .error .tooManyHeaders ∧
    ∀ d : Downstream, g.execute? d (manyCall (Headers.room + 1)) = none ∧
      g.compensate? d (manyCall (Headers.room + 1)) = none := by
  obtain ⟨g, hg⟩ := exists_usual id
  have hexact : (manyCall (Headers.room + 1)).IsExact :=
    ⟨.null, manyHeaders_ascending _, by simp [manyCall, ordersCall, Call.ofMethod]⟩
  have hoverfull : (manyCall (Headers.room + 1)).IsOverfull :=
    (manyCall_isOverfull_iff (by decide)).mpr (le_refl Headers.room)
  have hstop := prepare_eq_tooManyHeaders_iff.mpr ⟨reachesHeaders_many hg _, hoverfull⟩
  have hrun (d : Downstream) : g.run? d (manyCall (Headers.room + 1)) = none := by
    rw [run?, hstop]
  have hplan : g.plan = id := by
    obtain ⟨base, probe, -, -, rfl⟩ := eq_of_ofConfig hg
    rfl
  refine ⟨Config.default_isValid, g, hg, ⟨_, Call.decode_without_payload hexact⟩, hstop,
    fun d => ⟨hrun d, ?_⟩⟩
  rw [compensate?, hplan]
  exact hrun d

/-- With one header less there is a request, but no room for the headers of the client. -/
theorem full_headers_stop : ∃ g, ofConfig {} id = .ok g ∧
    (∃ o, g.prepare (manyCall Headers.room) = .ok o) ∧
    ∀ d : Downstream, g.IsCrowded d (manyCall Headers.room) ∧
      g.execute? d (manyCall Headers.room) = none := by
  obtain ⟨g, hg⟩ := exists_usual id
  have hroom : ¬(manyCall Headers.room).IsOverfull := by
    rw [manyCall_isOverfull_iff (by decide)]
    decide
  obtain ⟨headers, hh⟩ := Option.ne_none_iff_exists'.mp
    (Call.forwardedHeaders?_eq_none_iff.not.mpr hroom)
  have ho := prepare_usual hg (c := manyCall Headers.room) rfl [] rfl rfl hh
  have hhttp : Config.isHttp ordersRequest.target.scheme = true := by decide +kernel
  have hfull : Headers.room ≤ (manyCall Headers.room).names.toFinset.card := by
    rw [List.toFinset_card_of_nodup (nodup_names_many _), length_names_many (by decide)]
  have hcrowded (d : Downstream) := isCrowded_of_full d ho hhttp hfull
  refine ⟨g, hg, ⟨_, ho⟩, fun d => ⟨hcrowded d, Option.eq_none_iff_forall_not_mem.mpr ?_⟩⟩
  rintro ⟨outcome, sent⟩ hrun
  exact ((exists_run?_iff d).mp ⟨outcome, sent, hrun⟩).2 (hcrowded d)

end Gateway

end RestGateway
