import Mathlib
import RestGateway.Proofs.Json.Literal
import RestGateway.Proofs.PlainSegment
import RestGateway.Proofs.Url.Host
import RestGateway.Proofs.Wire

/-! Two calls that differ in one integer of the path go to different URLs, unless both integers are
beyond what is kept exactly and are rounded to one number. -/
namespace RestGateway.Gateway
open Template (Segment ofSegments boundSegments)

section
variable {g : Gateway} {c : Call} {segments : List Segment} (hplain : ∀ s ∈ segments, s.IsPlain)
include hplain

lemma whole_of_plain : ∀ segment ∈ segments.map Segment.pieces, ∀ p ∈ segment, p.IsWhole := by
  rw [List.forall_mem_map]
  exact fun s hs => Segment.whole_of_isPlain (hplain s hs)

variable (hroute : g.routes.table.find? c.method = some (ofSegments (segments.map Segment.pieces)))
include hroute

lemma path_bound (payload : Dict Json) : (g.bound c payload).path.toList =
    (Url.Path.segments (boundSegments payload segments)).text := by
  rw [bound, template_of_find? hroute, Template.bind_path_ofSegments (whole_of_plain hplain),
    List.map_map]
  rfl

lemma use_ne_rejected {payload : Dict Json} (hr : (g.bound c payload).rejected = []) {name : String}
    (hn : .parameter name ∈ segments) : Template.use payload name ≠ .rejected := by
  rw [bound, template_of_find? hroute] at hr
  refine Template.bind_rejected_eq_nil_iff.mp hr name ?_
  rw [Template.pieces_ofSegments (whole_of_plain hplain), Template.mem_names_joinPieces]
  exact ⟨_, List.mem_map_of_mem hn, Segment.mem_names_pieces.mpr rfl⟩

lemma use_ne_rejected_of_prepare {payload : Dict Json} (he : c.entries = .ok payload) {o : Outbound}
    (ho : g.prepare c = .ok o) {name : String} (hn : .parameter name ∈ segments) :
    Template.use payload name ≠ .rejected := by
  obtain ⟨payload', -, -, he', hr, -⟩ := exists_of_prepare_eq_ok ho
  rw [he, Except.ok.injEq] at he'
  exact use_ne_rejected hplain hroute (he' ▸ hr) hn

/-- The URL of a request has the bound segments behind the directory of the base, as they are
written. -/
theorem IsSound.url_text (hg : g.IsSound) (hne : segments ≠ []) {payload : Dict Json}
    (he : c.entries = .ok payload)
    (hstill : ∀ name, .parameter name ∈ segments → payload.find? name = none →
      ¬Template.Strays name) {o : Outbound} (ho : g.prepare c = .ok o) :
    o.url.text = String.ofList (g.base.scheme ++ ':' :: (g.base.authorityText ++
      (Url.Path.segments g.base.directory).text ++ Url.Zone.path.writeAll
        (Url.withoutLines (Url.Path.segments (boundSegments payload segments)).text))) := by
  obtain ⟨payload', url, headers, he', hr, hj, -, rfl⟩ := exists_of_prepare_eq_ok ho
  rw [he, Except.ok.injEq] at he'
  subst he'
  refine hg.base.text_join (by simpa [boundSegments] using hne) ?_
    (path_bound hplain hroute payload) hj
  rw [boundSegments, List.forall_mem_map]
  intro s hs
  refine Segment.still_of_isPlain (hplain s hs) (fun name hn => ?_) fun name hn => ?_
  · exact use_ne_rejected hplain hroute hr (hn ▸ hs)
  · exact hstill name (hn ▸ hs)

end

/-! ### Two requests -/

/-- The texts of two requests for one method, which agree but for one entry of the payload. It is an
integer literal in each of them. -/
structure Twins (p : String) (i j : Literal) (s t : String) (c d : Call) (P Q : Dict Json) :
    Prop where
  first : Call.decode s = .ok c
  second : Call.decode t = .ok d
  method : d.method = c.method
  entries : c.entries = .ok P
  entries' : d.entries = .ok Q
  others : ∀ key, key ≠ p → P.find? key = Q.find? key
  literal : ∃ v, Json.parse (String.ofList i.text) = .ok v ∧ P.find? p = some v
  literal' : ∃ v, Json.parse (String.ofList j.text) = .ok v ∧ Q.find? p = some v

lemma rendered_number (m : Number) : (Json.number m).rendered.toList = m.text := by
  change (String.ofList m.text).toList = _
  rw [String.toList_ofList]

lemma boundText_number {payload : Dict Json} {name : String} (hn : name ≠ "") {m : Number}
    (hv : payload.find? name = some (.number m)) (hr : Template.use payload name ≠ .rejected) :
    Template.boundText payload (.placeholder name.toList) =
      Form.encode (Percent.escape 0x20) (Json.number m).rendered := by
  refine Template.boundText_of_find? (fun h => hn (String.toList_eq_nil_iff.mp h))
    (by rwa [String.ofList_toList]) fun hd => hr ?_
  exact Template.use_eq_rejected_iff.mpr ⟨hn, _, hv, hd⟩

section
variable {g : Gateway} {segments : List Segment} {p : String} {i j : Literal} {s t : String}
  {c d : Call} {P Q : Dict Json} {o o' : Outbound}

/-- The integer can be told from the URL, as far as reading has kept it. -/
theorem IsSound.url_text_eq_iff (hg : g.IsSound) (hplain : ∀ s ∈ segments, s.IsPlain)
    (hp : p ≠ "") (hmem : .parameter p ∈ segments) (h : Twins p i j s t c d P Q)
    (hroute : g.routes.table.find? c.method = some (ofSegments (segments.map Segment.pieces)))
    (hstill : ∀ name, .parameter name ∈ segments → P.find? name = none → ¬Template.Strays name)
    (ho : g.prepare c = .ok o) (ho' : g.prepare d = .ok o') :
    o.url.text = o'.url.text ↔
      Json.parse (String.ofList i.text) = Json.parse (String.ofList j.text) := by
  obtain ⟨v, hi, hv⟩ := h.literal
  obtain ⟨w, hj, hw⟩ := h.literal'
  obtain ⟨m, hm, rfl⟩ := Literal.parse_text_iff.mp hi
  obtain ⟨n, hn, rfl⟩ := Literal.parse_text_iff.mp hj
  have hroute' : g.routes.table.find? d.method =
      some (ofSegments (segments.map Segment.pieces)) := by rwa [h.method]
  have hstill' : ∀ name, .parameter name ∈ segments → Q.find? name = none →
      ¬Template.Strays name := by
    intro name hname hnone
    have hne : name ≠ p := by
      rintro rfl
      simp [hw] at hnone
    exact hstill name hname (by rwa [h.others name hne])
  have hne : segments ≠ [] := List.ne_nil_of_mem hmem
  rw [hg.url_text hplain hroute hne h.entries hstill ho,
    hg.url_text hplain hroute' hne h.entries' hstill' ho', String.ofList_inj, List.append_right_inj,
    List.cons.injEq, List.append_right_inj, hi, hj]
  constructor
  · -- the first place of the entry comes behind the same segments in both
    rintro ⟨-, hwrite⟩
    obtain ⟨before, after, hsegments, hfirst⟩ := List.eq_append_cons_of_mem hmem
    have hbefore : boundSegments P before = boundSegments Q before :=
      Template.boundSegments_congr fun name hname => h.others name fun hn =>
        hfirst (hn ▸ hname)
    have hsplit (payload : Dict Json) : boundSegments payload segments =
        boundSegments payload before ++ Template.boundText payload (.placeholder p.toList) ::
          boundSegments payload after := by
      simp [hsegments, boundSegments, Segment.pieces]
    rw [hsplit, hsplit, hbefore,
      boundText_number hp hv (use_ne_rejected_of_prepare hplain hroute h.entries ho hmem),
      boundText_number hp hw (use_ne_rejected_of_prepare hplain hroute' h.entries' ho' hmem)]
      at hwrite
    have hcode := Url.segment_eq_of_writeAll_eq
      (fun c hc => Form.isSegmentChar_of_mem_encode hc)
      (fun c hc => Form.isSegmentChar_of_mem_encode hc) hwrite
    have hbytes := congrArg (fun cs => Url.utf8Text? (Percent.decode cs)) hcode
    simp only [Form.decode_encode, Url.utf8Text?_utf8, rendered_number, Option.some.injEq] at hbytes
    rw [Literal.number_eq_of_text_eq hm hn hbytes]
  · intro heq
    have hmn : Json.number m = .number n := Except.ok.inj heq
    have hall : ∀ name, .parameter name ∈ segments → P.find? name = Q.find? name := by
      intro name _
      by_cases hname : name = p
      · rw [hname, hv, hw, hmn]
      · exact h.others name hname
    rw [Template.boundSegments_congr hall]
    exact ⟨rfl, rfl⟩

/-- Requests of a valid configuration that differ in one integer of the path go to different URLs,
unless both integers are beyond what is kept exactly and are read as one number. A placeholder that
is left without a value must not have dots between slashes or backslashes in its name. -/
theorem integers_told_apart {cfg : Config} (hc : cfg.isValid = true) {plan : Call → Call}
    (hg : ofConfig cfg plan = .ok g) (hplain : ∀ s ∈ segments, s.IsPlain) (hp : p ≠ "")
    (hmem : .parameter p ∈ segments) (h : Twins p i j s t c d P Q) (hne : i.value ≠ j.value)
    (hroute : cfg.routing.routes.find? c.method =
      some (ofSegments (segments.map Segment.pieces)))
    (hstill : ∀ name, .parameter name ∈ segments → P.find? name = none → ¬Template.Strays name)
    (ho : g.prepare c = .ok o) (ho' : g.prepare d = .ok o') :
    (o.url.text = o'.url.text ↔
        Json.parse (String.ofList i.text) = Json.parse (String.ofList j.text)) ∧
      (Json.parse (String.ofList i.text) = Json.parse (String.ofList j.text) →
        ¬i.IsExact ∧ ¬j.IsExact) := by
  have hfind : g.routes.table.find? c.method =
      some (ofSegments (segments.map Segment.pieces)) := by
    rwa [routes_of_ofConfig hg]
  refine ⟨(sound_of_ofConfig hc hg).url_text_eq_iff hplain hp hmem h hfind hstill ho ho', ?_⟩
  obtain ⟨v, hi, -⟩ := h.literal
  obtain ⟨w, hj, -⟩ := h.literal'
  obtain ⟨m, hm, rfl⟩ := Literal.parse_text_iff.mp hi
  obtain ⟨n, hn, rfl⟩ := Literal.parse_text_iff.mp hj
  intro heq
  rw [hi, hj, Except.ok.injEq, Json.number.injEq] at heq
  exact Literal.not_exact_of_number_eq hm hn heq hne

end

/-! ### Texts with an integer -/

/-- A call with an integer of any size among the entries of its payload. -/
def withInteger (c : Call) (d : Dict Json) (p : String) (n : Int) : Call :=
  { c with payload := .object (d.insert p (.number (.integer n))) }

/-- The texts of two calls that differ in an integer only are twins. -/
theorem twins_of_integers {c : Call} (hheaders : c.headers.Ascending)
    (htimeout : ∀ n ∈ c.timeoutMillis, (n : Int) ≤ Json.greatestInteger) {d : Dict Json}
    (hd : (Json.object d).IsExact) (hdepth : Json.depthOfMembers d ≤ 125) (p : String)
    {k l : Int} {m n : Number} (hm : (Literal.ofInt k).number? = some m)
    (hn : (Literal.ofInt l).number? = some n) :
    Twins p (.ofInt k) (.ofInt l) (withInteger c d p k).text (withInteger c d p l).text
      { c with payload := .object (d.insert p (.number m)) }
      { c with payload := .object (d.insert p (.number n)) }
      (d.insert p (.number m)) (d.insert p (.number n)) where
  first := Call.decode_text_of_readsBack (c := withInteger c d p k) hheaders htimeout
    (Literal.readsBack_insert hd hdepth p hm)
  second := Call.decode_text_of_readsBack (c := withInteger c d p l) hheaders htimeout
    (Literal.readsBack_insert hd hdepth p hn)
  method := rfl
  entries := rfl
  entries' := rfl
  others key hkey := by rw [Dict.find?_insert, Dict.find?_insert, if_neg hkey, if_neg hkey]
  literal := ⟨_, Literal.parse_text_iff.mpr ⟨m, hm, rfl⟩, by rw [Dict.find?_insert, if_pos rfl]⟩
  literal' := ⟨_, Literal.parse_text_iff.mpr ⟨n, hn, rfl⟩, by rw [Dict.find?_insert, if_pos rfl]⟩

lemma twins_of_method (method p : String) {k l : Int} {m n : Number}
    (hm : (Literal.ofInt k).number? = some m) (hn : (Literal.ofInt l).number? = some n) :
    Twins p (.ofInt k) (.ofInt l) (withInteger (.ofMethod method) [] p k).text
      (withInteger (.ofMethod method) [] p l).text
      { Call.ofMethod method with payload := .object [(p, .number m)] }
      { Call.ofMethod method with payload := .object [(p, .number n)] }
      [(p, .number m)] [(p, .number n)] :=
  twins_of_integers Dict.ascending_nil (by simp [Call.ofMethod])
    (.object Dict.ascending_nil (by simp)) (by decide) p hm hn

/-! ### Users with large numbers -/

def greatestId : Int := 18446744073709551615

/-- The number that is nearest to the first integers behind the greatest one that is kept. -/
def roundedId : Number := .float ⟨false, 0x10000000000000, 12⟩

lemma number?_greatestId : (Literal.ofInt greatestId).number? = some (.integer greatestId) := by
  decide

lemma number?_roundedId :
    (Literal.ofInt (greatestId + 1)).number? = some roundedId ∧
      (Literal.ofInt (greatestId + 2)).number? = some roundedId := by
  decide

lemma userSegments_plain : ∀ s ∈ userSegments, s.IsPlain := by
  simp [userSegments, Segment.IsPlain, Template.IsBraceless, Template.isWordChar, Text.isLetter]

lemma userSegments_given {payload : Dict Json} {v : Json} (hv : payload.find? "user_id" = some v)
    (name : String) (hn : .parameter name ∈ userSegments) (hnone : payload.find? name = none) :
    ¬Template.Strays name := by
  have hname : name = "user_id" := by simpa [userSegments] using hn
  simp [hname, hv] at hnone

lemma exists_userRequest {g : Gateway} (hg : ofConfig {} id = .ok g) {m : Number}
    (hr : (Template.bind (({} : Config).routing.toRoutes.resolve "GetUser").template
      [("user_id", .number m)]).rejected = []) :
    ∃ o, g.prepare { Call.ofMethod "GetUser" with payload := .object [("user_id", .number m)] } =
      .ok o := by
  refine (sound_of_ofConfig Config.default_isValid hg).exists_prepare rfl ?_ rfl
  rw [bound, routes_of_ofConfig hg]
  exact hr

/-- The greatest integer that is kept and the next one go to different URLs. -/
theorem neighbours_told_apart : ∃ g o o', ofConfig {} id = .ok g ∧
    g.prepare { Call.ofMethod "GetUser" with
      payload := .object [("user_id", .number (.integer greatestId))] } = .ok o ∧
    g.prepare { Call.ofMethod "GetUser" with
      payload := .object [("user_id", .number roundedId)] } = .ok o' ∧
    o.url.text ≠ o'.url.text := by
  obtain ⟨g, hg⟩ := exists_usual id
  obtain ⟨o, ho⟩ := exists_userRequest hg (m := .integer greatestId) (by decide)
  obtain ⟨o', ho'⟩ := exists_userRequest hg (m := roundedId) (by decide)
  have htwins := twins_of_method "GetUser" "user_id" number?_greatestId number?_roundedId.1
  have hboth := integers_told_apart Config.default_isValid hg userSegments_plain (by decide)
    (by decide) htwins (by simp) userRoute_find? (userSegments_given rfl) ho ho'
  refine ⟨g, o, o', hg, ho, ho', fun heq => ?_⟩
  exact (hboth.2 (hboth.1.mp heq)).1 (by decide)

/-! ### Integers that collide -/

/-- A valid configuration, a mapped method and two texts of requests to it that differ in one
integer of the path, and lead to one URL. -/
def Collide (cfg : Config) (segments : List Segment) (p : String) (i j : Literal) (s t : String) :
    Prop :=
  cfg.isValid = true ∧ (∀ s ∈ segments, s.IsPlain) ∧ .parameter p ∈ segments ∧ i.value ≠ j.value ∧
    ∃ c d P Q g o o', Twins p i j s t c d P Q ∧
      cfg.routing.routes.find? c.method = some (ofSegments (segments.map Segment.pieces)) ∧
      ofConfig cfg id = .ok g ∧ g.prepare c = .ok o ∧ g.prepare d = .ok o' ∧
      o.url.text = o'.url.text

/-- Two integers behind the greatest one that is kept. -/
lemma users_collide : Collide {} userSegments "user_id" (.ofInt (greatestId + 1))
    (.ofInt (greatestId + 2)) (withInteger (.ofMethod "GetUser") [] "user_id" (greatestId + 1)).text
    (withInteger (.ofMethod "GetUser") [] "user_id" (greatestId + 2)).text := by
  obtain ⟨g, hg⟩ := exists_usual id
  obtain ⟨o, ho⟩ := exists_userRequest hg (m := roundedId) (by decide)
  have htwins := twins_of_method "GetUser" "user_id" number?_roundedId.1 number?_roundedId.2
  exact ⟨Config.default_isValid, userSegments_plain, by decide, by simp, _, _, _, _, g,
    o, o, htwins, userRoute_find?, hg, ho, ho, rfl⟩

def partSegments : List Segment :=
  [.fixed "x".toList, .parameter "p", .parameter "a\\..\\..\\b"]

def blankSegments : List Segment := [.fixed "x".toList, .parameter ""]

def partRouting : Config.Routing :=
  { routes := [("GetBlank", "/x/\x7b\x7d"),
      ("GetPart", "/x/\x7bp\x7d/\x7ba\\..\\..\\b\x7d")] }

lemma partConfig_isValid : ({ routing := partRouting } : Config).isValid = true :=
  Config.isValid_routing Config.default_isValid (by decide +kernel)

lemma partSegments_plain : ∀ s ∈ partSegments, s.IsPlain := by
  simp [partSegments, Segment.IsPlain, Template.IsBraceless, Template.isWordChar, Text.isLetter]

lemma blankSegments_plain : ∀ s ∈ blankSegments, s.IsPlain := by
  simp [blankSegments, Segment.IsPlain, Template.IsBraceless, Template.isWordChar, Text.isLetter]

lemma partRoute_find? : partRouting.routes.find? "GetPart" =
    some (ofSegments (partSegments.map Segment.pieces)) := by
  have h : "/x/\x7bp\x7d/\x7ba\\..\\..\\b\x7d".toList =
      (Template.joinPieces (partSegments.map Segment.pieces)).flatMap Template.Piece.text := by
    decide
  rw [ofSegments, ← h, String.ofList_toList]
  simp [partRouting, Dict.find?]

lemma blankRoute_find? : partRouting.routes.find? "GetBlank" =
    some (ofSegments (blankSegments.map Segment.pieces)) := by
  have h : "/x/\x7b\x7d".toList =
      (Template.joinPieces (blankSegments.map Segment.pieces)).flatMap Template.Piece.text := by
    decide
  rw [ofSegments, ← h, String.ofList_toList]
  simp [partRouting, Dict.find?]

def partCall (method p : String) (n : Int) : Call :=
  { Call.ofMethod method with payload := .object [(p, .number (.integer n))] }

lemma exists_partRequest {g : Gateway} (hg : ofConfig { routing := partRouting } id = .ok g)
    (method p : String) (n : Int)
    (hr : (Template.bind (partRouting.toRoutes.resolve method).template
      [(p, .number (.integer n))]).rejected = []) :
    ∃ o, g.prepare (partCall method p n) = .ok o := by
  refine (sound_of_ofConfig partConfig_isValid hg).exists_prepare rfl ?_ rfl
  rw [bound, routes_of_ofConfig hg]
  exact hr

lemma resolveDots_part (done : List (List Char)) {k : Char} (hk : k = '1' ∨ k = '2') :
    Url.resolveDots done [['x'], [k], ['\x7b', 'a'], ['.', '.'], ['.', '.'], ['b', '\x7d']] =
      done.reverse ++ ["x".toList, "b%7D".toList] := by
  have hreverse : ["b%7D".toList, "x".toList].reverse = ["x".toList, "b%7D".toList] := rfl
  rw [← hreverse, ← List.reverse_append]
  rcases hk with rfl | rfl <;> rfl

/-- The steps up that the name of the second placeholder has take the value of the first one
along. -/
lemma part_url {g : Gateway} (hg : ofConfig { routing := partRouting } id = .ok g) {n : Int}
    (hn : n = 1 ∨ n = 2) {o : Outbound} (ho : g.prepare (partCall "GetPart" "p" n) = .ok o) :
    o.url = ⟨g.base.scheme, g.base.authority,
      .segments (g.base.directory ++ ["x".toList, "b%7D".toList]), none, none⟩ := by
  have hfind : g.routes.table.find? "GetPart" =
      some (ofSegments (partSegments.map Segment.pieces)) := by
    rw [routes_of_ofConfig hg]
    exact partRoute_find?
  obtain ⟨payload, url, headers, he, -, hj, -, rfl⟩ := exists_of_prepare_eq_ok ho
  obtain rfl := Except.ok.inj he
  have hpath := path_bound (c := partCall "GetPart" "p" n) partSegments_plain hfind
    [("p", .number (.integer n))]
  have hnone : ∀ s ∈ ([] : List (List Char)), Url.IsSettled s := by simp
  obtain ⟨k, hk, behind, htext, hsteps, htail⟩ : ∃ k, (k = '1' ∨ k = '2') ∧ ∃ behind,
      (Url.Path.segments (boundSegments [("p", .number (.integer n))] partSegments)).text =
          (Url.Path.segments []).text ++ '/' :: behind ∧
        Url.steps behind =
          [['x'], [k], ['\x7b', 'a'], ['.', '.'], ['.', '.'], ['b', '\x7d']] ∧
        Url.readTail true (Url.counted behind) = (none, none) := by
    rcases hn with rfl | rfl
    · exact ⟨'1', Or.inl rfl, "x/1/\x7ba\\..\\..\\b\x7d".toList, by decide,
        by decide, by decide⟩
    · exact ⟨'2', Or.inr rfl, "x/2/\x7ba\\..\\..\\b\x7d".toList, by decide,
        by decide, by decide⟩
  have hbase := (sound_of_ofConfig partConfig_isValid hg).base
  have hjoin := hbase.join_place hnone (hpath.trans htext)
  rw [show Url.splitWhere Url.isSlash (Url.pathPart (Url.counted behind)) = _ from hsteps, htail,
    resolveDots_part _ hk, List.append_nil, List.reverse_reverse] at hjoin
  exact Except.ok.inj (hj.symm.trans hjoin)

lemma number?_one_two : (Literal.ofInt 1).number? = some (.integer 1) ∧
    (Literal.ofInt 2).number? = some (.integer 2) := by decide

/-- A placeholder that is left as it stands, with steps up in its name. -/
lemma parts_collide : Collide { routing := partRouting } partSegments "p" (.ofInt 1) (.ofInt 2)
    (withInteger (.ofMethod "GetPart") [] "p" 1).text
    (withInteger (.ofMethod "GetPart") [] "p" 2).text := by
  obtain ⟨g, hg⟩ := exists_ofConfig partConfig_isValid (by decide) id
  obtain ⟨o, ho⟩ := exists_partRequest hg "GetPart" "p" 1 (by decide)
  obtain ⟨o', ho'⟩ := exists_partRequest hg "GetPart" "p" 2 (by decide)
  have hurl : o.url.text = o'.url.text := by
    rw [part_url hg (Or.inl rfl) ho, part_url hg (Or.inr rfl) ho']
  exact ⟨partConfig_isValid, partSegments_plain, by simp [partSegments], by simp, _, _, _, _, g,
    o, o', twins_of_method "GetPart" "p" number?_one_two.1 number?_one_two.2, partRoute_find?, hg,
    ho, ho', hurl⟩

/-- A placeholder without a name, which no entry takes the place of. -/
lemma blanks_collide : Collide { routing := partRouting } blankSegments "" (.ofInt 1) (.ofInt 2)
    (withInteger (.ofMethod "GetBlank") [] "" 1).text
    (withInteger (.ofMethod "GetBlank") [] "" 2).text := by
  obtain ⟨g, hg⟩ := exists_ofConfig partConfig_isValid (by decide) id
  obtain ⟨o, ho⟩ := exists_partRequest hg "GetBlank" "" 1 (by decide)
  obtain ⟨o', ho'⟩ := exists_partRequest hg "GetBlank" "" 2 (by decide)
  have hfind : g.routes.table.find? "GetBlank" =
      some (ofSegments (blankSegments.map Segment.pieces)) := by
    rw [routes_of_ofConfig hg]
    exact blankRoute_find?
  have hstill {payload : Dict Json} (name : String) (hn : .parameter name ∈ blankSegments)
      (_ : payload.find? name = none) : ¬Template.Strays name := by
    have hname : name = "" := by simpa [blankSegments] using hn
    rw [hname]
    decide
  have hsound := sound_of_ofConfig partConfig_isValid hg
  have hurl : o.url.text = o'.url.text := by
    rw [hsound.url_text blankSegments_plain hfind (by decide) rfl hstill ho,
      hsound.url_text blankSegments_plain hfind (by decide) rfl hstill ho']
    rfl
  exact ⟨partConfig_isValid, blankSegments_plain, by simp [blankSegments], by simp, _, _, _, _,
    g, o, o', twins_of_method "GetBlank" "" number?_one_two.1 number?_one_two.2, blankRoute_find?,
    hg, ho, ho', hurl⟩

/-- Integers are not told apart behind the greatest one that is kept, in a placeholder without a
name, and before a placeholder that is left with steps up in its name. -/
theorem integers_collide :
    Collide {} userSegments "user_id" (.ofInt 18446744073709551616) (.ofInt 18446744073709551617)
        (withInteger (.ofMethod "GetUser") [] "user_id" 18446744073709551616).text
        (withInteger (.ofMethod "GetUser") [] "user_id" 18446744073709551617).text ∧
      Collide { routing := partRouting } partSegments "p" (.ofInt 1) (.ofInt 2)
        (withInteger (.ofMethod "GetPart") [] "p" 1).text
        (withInteger (.ofMethod "GetPart") [] "p" 2).text ∧
      Collide { routing := partRouting } blankSegments "" (.ofInt 1) (.ofInt 2)
        (withInteger (.ofMethod "GetBlank") [] "" 1).text
        (withInteger (.ofMethod "GetBlank") [] "" 2).text :=
  ⟨users_collide, parts_collide, blanks_collide⟩

end RestGateway.Gateway
