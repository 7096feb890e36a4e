import Mathlib
import RestGateway.StopChannel

/-! Whatever is done with a channel, every receiver gets the signals that are triggered while it is
there, or learns how many it missed: its next answer depends on the number of signals that are due
to it, and that number on nothing but the signals and its own answers. -/
namespace RestGateway.StopChannel

/-! ### Positions -/

section
variable (s : StopChannel) (i j : Nat)

lemma position?_trigger : s.trigger.position? i = s.position? i := by
  unfold trigger
  split_ifs <;> rfl

lemma position?_subscribe : s.subscribe.1.position? i =
    if i = s.receivers.length then some s.sent else s.position? i := by
  simp only [position?, subscribe, List.getElem?_append]
  split_ifs with hlt heq heq
  · omega
  · rfl
  · simp [heq]
  · have hlen : s.receivers.length ≤ i := by omega
    have hpos : i - s.receivers.length ≠ 0 := by omega
    simp [List.getElem?_eq_none hlen, hpos]

variable {s i}

lemma getElem_of_position? {p : Nat} (h : s.position? i = some p) :
    ∃ _ : i < s.receivers.length, s.receivers[i] = some p :=
  List.getElem?_eq_some_iff.mp (Option.join_eq_some_iff.mp h)

lemma trigger_of_nobody (h : s.receiverCount = 0) : s.trigger = s := if_pos h

lemma position?_place {p : Nat} (h : s.position? i = some p) (new : Option Nat) :
    (s.place i new).position? j = if j = i then new else s.position? j := by
  obtain ⟨hlen, -⟩ := getElem_of_position? h
  by_cases hj : j = i
  · subst hj
    rw [if_pos rfl, position?, place, List.getElem?_set_self hlen, Option.join_some]
  · rw [if_neg hj, position?, place, List.getElem?_set_ne (Ne.symm hj)]
    rfl

lemma place_self {p : Nat} (h : s.position? i = some p) : s.place i (some p) = s := by
  obtain ⟨hlen, hget⟩ := getElem_of_position? h
  have hset := List.set_getElem_self hlen
  rw [hget] at hset
  rw [place, hset]

lemma hasHandle_clone : s.clone.1.hasHandle i =
    if i = s.handles.length then true else s.hasHandle i := by
  simp only [hasHandle, clone, List.getElem?_append]
  split_ifs with hlt heq heq
  · omega
  · rfl
  · simp [heq]
  · have hlen : s.handles.length ≤ i := by omega
    have hpos : i - s.handles.length ≠ 0 := by omega
    simp [List.getElem?_eq_none hlen, hpos]

lemma hasHandle_dropHandle : (s.dropHandle j).hasHandle i =
    if i = j then false else s.hasHandle i := by
  by_cases hi : i = j
  · subst hi
    rw [if_pos rfl, hasHandle, dropHandle, List.getElem?_set, if_pos rfl]
    split_ifs <;> rfl
  · rw [if_neg hi, hasHandle, dropHandle, List.getElem?_set_ne (Ne.symm hi)]
    rfl

lemma dropReceiver_eq {p : Nat} (h : s.position? i = some p) : s.dropReceiver i =
    { s.place i none with unread := s.unread - if p < s.sent then 1 else 0 } := by
  unfold dropReceiver
  rw [h, Option.any_some]
  by_cases hp : p < s.sent
  · rw [if_pos (by simpa using hp), if_pos hp]
    rfl
  · rw [if_neg (by simpa using hp), if_neg hp]
    rfl

lemma position?_dropReceiver {p : Nat} (h : s.position? i = some p) :
    (s.dropReceiver i).position? j = if j = i then none else s.position? j := by
  rw [dropReceiver_eq h]
  exact position?_place j h none

lemma isOpen_iff : s.isOpen = true ↔ ∃ i, s.hasHandle i = true := by
  rw [isOpen, List.any_eq_true]
  constructor
  · rintro ⟨there, hm, ht⟩
    obtain ⟨i, hi, hget⟩ := List.getElem_of_mem hm
    exact ⟨i, by rw [hasHandle, List.getElem?_eq_getElem hi, hget]; exact ht⟩
  · rintro ⟨i, hi⟩
    cases hget : s.handles[i]? with
    | none => simp [hasHandle, hget] at hi
    | some there => exact ⟨there, List.mem_of_getElem? hget, by simpa [hasHandle, hget] using hi⟩

/-- What looking for the signal can do. -/
lemma receive?_cases {t : StopChannel} {found : Received} (h : s.receive? i = some (t, found)) :
    ∃ p, s.position? i = some p ∧
      (p = s.sent ∧ t = s ∧ found = (if s.isOpen then .empty else .closed) ∨
        p + 1 < s.sent ∧ t = s.place i (some (s.sent - 1)) ∧ found = .lagged (s.sent - 1 - p) ∨
        p ≠ s.sent ∧ ¬p + 1 < s.sent ∧
          (s.unread = 0 ∧ t = s.place i (some s.sent) ∧ found = .closed ∨
            s.unread ≠ 0 ∧ t = (s.place i (some s.sent)).release ∧ found = .signal)) := by
  obtain ⟨p, hp, hr⟩ := Option.bind_eq_some_iff.mp h
  refine ⟨p, hp, ?_⟩
  by_cases heq : p = s.sent
  · rw [if_pos heq] at hr
    obtain ⟨ht, hf⟩ := Prod.mk.inj (Option.some.inj hr)
    exact Or.inl ⟨heq, ht.symm, hf.symm⟩
  rw [if_neg heq] at hr
  refine Or.inr ?_
  by_cases hlt : p + 1 < s.sent
  · rw [if_pos hlt] at hr
    obtain ⟨ht, hf⟩ := Prod.mk.inj (Option.some.inj hr)
    exact Or.inl ⟨hlt, ht.symm, hf.symm⟩
  rw [if_neg hlt] at hr
  refine Or.inr ⟨heq, hlt, ?_⟩
  by_cases hkept : s.unread = 0
  · rw [if_pos hkept] at hr
    obtain ⟨ht, hf⟩ := Prod.mk.inj (Option.some.inj hr)
    exact Or.inl ⟨hkept, ht.symm, hf.symm⟩
  · rw [if_neg hkept] at hr
    obtain ⟨ht, hf⟩ := Prod.mk.inj (Option.some.inj hr)
    exact Or.inr ⟨hkept, ht.symm, hf.symm⟩

end

/-! ### Numbers of receivers -/

/-- The receivers at positions of some kind, counted. -/
def countWhere (s : StopChannel) (p : Nat → Bool) : Nat := s.receivers.countP (·.any p)

lemma receiverCount_eq (s : StopChannel) : s.receiverCount = s.countWhere fun _ => true := by
  rw [receiverCount, countWhere, List.countP_eq_length_filter]
  congr 2

lemma countWhere_subscribe (s : StopChannel) (p : Nat → Bool) :
    s.subscribe.1.countWhere p = s.countWhere p + if p s.sent then 1 else 0 := by
  simp [countWhere, subscribe, List.countP_append, List.countP_singleton]

section
variable {s : StopChannel} {i position : Nat} (h : s.position? i = some position)
include h

lemma countWhere_pos {p : Nat → Bool} (hp : p position = true) : 0 < s.countWhere p := by
  obtain ⟨hlen, hget⟩ := getElem_of_position? h
  rw [countWhere, List.countP_pos_iff]
  exact ⟨some position, hget ▸ List.getElem_mem hlen, hp⟩

lemma countWhere_place (new : Option Nat) (p : Nat → Bool) :
    (s.place i new).countWhere p + (if p position then 1 else 0) =
      s.countWhere p + if new.any p then 1 else 0 := by
  obtain ⟨hlen, hget⟩ := getElem_of_position? h
  have hset := List.countP_set (p := fun r : Option Nat => r.any p) (a := new) hlen
  have hle : (if p position then 1 else 0) ≤ s.countWhere p := by
    split_ifs with hp
    · exact countWhere_pos h hp
    · exact Nat.zero_le _
  rw [hget, Option.any_some] at hset
  simp only [countWhere, place] at hle ⊢
  omega

end

/-! ### Steps of one receiver -/

/-- Two channels are the same, apart from one receiver. -/
structure SameBut (i : Nat) (s t : StopChannel) : Prop where
  sent : t.sent = s.sent
  handles : t.handles = s.handles
  length : t.receivers.length = s.receivers.length
  others : ∀ j, j ≠ i → t.position? j = s.position? j
  position_le : ∀ position, t.position? i = some position → position ≤ t.sent

lemma SameBut.trans {i : Nat} {s t u : StopChannel} (h : SameBut i s t) (hnext : SameBut i t u) :
    SameBut i s u where
  sent := hnext.sent.trans h.sent
  handles := hnext.handles.trans h.handles
  length := hnext.length.trans h.length
  others j hj := (hnext.others j hj).trans (h.others j hj)
  position_le := hnext.position_le

lemma sent_le_trigger (s : StopChannel) : s.sent ≤ s.trigger.sent := by
  unfold trigger
  split_ifs
  · exact le_rfl
  · exact Nat.le_succ _

lemma receivers_trigger (s : StopChannel) : s.trigger.receivers = s.receivers := by
  unfold trigger
  split_ifs <;> rfl

lemma handles_trigger (s : StopChannel) : s.trigger.handles = s.handles := by
  unfold trigger
  split_ifs <;> rfl

section
variable {s t : StopChannel} {i p : Nat} (hp : s.position? i = some p)
include hp

lemma sameBut_place {q u : Nat} (hq : q ≤ s.sent) :
    SameBut i s { s.place i (some q) with unread := u } where
  sent := rfl
  handles := rfl
  length := List.length_set
  others j hj := (position?_place j hp (some q)).trans (if_neg hj)
  position_le position h := by
    have hplace := position?_place i hp (some q)
    rw [if_pos rfl] at hplace
    exact Option.some.inj (hplace.symm.trans h) ▸ hq

/-- A receiver that looks for the signal is still there, and not ahead of it. -/
lemma exists_place_of_receive {found : Received} (hle : p ≤ s.sent)
    (hr : s.receive? i = some (t, found)) :
    ∃ q u, q ≤ s.sent ∧ t = { s.place i (some q) with unread := u } := by
  obtain ⟨position, hposition, hcases⟩ := receive?_cases hr
  obtain rfl := Option.some.inj (hposition.symm.trans hp)
  rcases hcases with ⟨-, rfl, -⟩ | ⟨hlt, rfl, -⟩ | ⟨-, -, ⟨-, rfl, -⟩ | ⟨-, rfl, -⟩⟩
  · exact ⟨position, t.unread, hle, by rw [place_self hp]⟩
  · exact ⟨s.sent - 1, s.unread, by omega, rfl⟩
  · exact ⟨s.sent, s.unread, le_rfl, rfl⟩
  · exact ⟨s.sent, s.unread - 1, le_rfl, rfl⟩

lemma sameBut_receive {found : Received} (hle : p ≤ s.sent)
    (hr : s.receive? i = some (t, found)) : SameBut i s t := by
  obtain ⟨q, u, hq, rfl⟩ := exists_place_of_receive hp hle hr
  exact sameBut_place hp hq

lemma position?_receive_isSome {found : Received} (hle : p ≤ s.sent)
    (hr : s.receive? i = some (t, found)) : (t.position? i).isSome = true := by
  obtain ⟨q, u, -, rfl⟩ := exists_place_of_receive hp hle hr
  have hplace := position?_place i hp (some q)
  rw [if_pos rfl] at hplace
  exact Option.isSome_iff_exists.mpr ⟨q, hplace⟩

lemma sameBut_dropReceiver : SameBut i s (s.dropReceiver i) where
  sent := by rw [dropReceiver_eq hp]; rfl
  handles := by rw [dropReceiver_eq hp]; rfl
  length := by rw [dropReceiver_eq hp]; exact List.length_set
  others j hj := (position?_dropReceiver j hp).trans (if_neg hj)
  position_le position h := by
    rw [position?_dropReceiver i hp, if_pos rfl] at h
    exact nomatch h

lemma receiverCount_ne_zero : s.receiverCount ≠ 0 := by
  rw [receiverCount_eq]
  exact (countWhere_pos hp rfl).ne'

lemma sent_trigger : s.trigger.sent = s.sent + 1 := by
  rw [trigger, if_neg (receiverCount_ne_zero hp)]

end

/-! ### What happens to a channel -/

/-- Receivers and handles go by their numbers. -/
inductive Event where
  | subscribed (receiver : Nat)
  | cloned (handle : Nat)
  | triggered
  | received (receiver : Nat) (found : Received)
  | receiverDropped (receiver : Nat)
  | handleDropped (handle : Nat)
  deriving DecidableEq, Repr

/-- The receiver that an event is about. -/
def Event.receiver? : Event → Option Nat
  | subscribed i => some i
  | received i _ => some i
  | receiverDropped i => some i
  | _ => none

/-- What happened so far, the latest event first. -/
abbrev History := List Event

/-- The courses that a channel can take. Only handles and receivers that are there do something. -/
inductive Run : History → StopChannel → Prop where
  | new : Run [] new
  | subscribe {past : History} {s : StopChannel} {i : Nat} : Run past s →
      s.hasHandle i = true → Run (.subscribed s.subscribe.2 :: past) s.subscribe.1
  | clone {past : History} {s : StopChannel} {i : Nat} : Run past s →
      s.hasHandle i = true → Run (.cloned s.clone.2 :: past) s.clone.1
  | trigger {past : History} {s : StopChannel} {i : Nat} : Run past s →
      s.hasHandle i = true → Run (.triggered :: past) s.trigger
  | receive {past : History} {s t : StopChannel} {i : Nat} {found : Received} : Run past s →
      s.receive? i = some (t, found) → Run (.received i found :: past) t
  | dropReceiver {past : History} {s : StopChannel} {i : Nat} : Run past s →
      (s.position? i).isSome = true → Run (.receiverDropped i :: past) (s.dropReceiver i)
  | dropHandle {past : History} {s : StopChannel} {i : Nat} : Run past s →
      s.hasHandle i = true → Run (.handleDropped i :: past) (s.dropHandle i)

/-- How many signals an answer is about. -/
def Received.count : Received → Nat
  | signal => 1
  | lagged missed => missed
  | _ => 0

namespace History

/-- The receivers that are there. -/
def receivers : History → List Nat
  | [] => []
  | .subscribed i :: past => i :: receivers past
  | .receiverDropped i :: past => (receivers past).erase i
  | _ :: past => receivers past

/-- The handles that are there. -/
def handles : History → List Nat
  | [] => [0]
  | .cloned i :: past => i :: handles past
  | .handleDropped i :: past => (handles past).erase i
  | _ :: past => handles past

/-- How often the signal was triggered since a receiver subscribed. -/
def triggers (i : Nat) : History → Nat
  | [] => 0
  | .subscribed j :: past => if j = i then 0 else triggers i past
  | .triggered :: past => triggers i past + 1
  | _ :: past => triggers i past

/-- How many of these signals the receiver has received or was told to have missed. -/
def told (i : Nat) : History → Nat
  | [] => 0
  | .subscribed j :: past => if j = i then 0 else told i past
  | .received j found :: past => told i past + if j = i then found.count else 0
  | _ :: past => told i past

/-- The signals that are due to a receiver. -/
def due (i : Nat) (past : History) : Nat := triggers i past - told i past

end History

/-- What a receiver finds when a number of signals are due to it. -/
def answer (isOpen : Bool) : (due : Nat) → Received
  | 0 => if isOpen then .empty else .closed
  | 1 => .signal
  | missed + 2 => .lagged (missed + 1)

/-! ### Invariants -/

/-- The channel is what a history makes of it: it has the same receivers and handles, each receiver
is as far behind as signals are due to it, and the last signal is kept for those that are behind. -/
structure Follows (past : History) (s : StopChannel) : Prop where
  receivers : ∀ i, i ∈ past.receivers ↔ (s.position? i).isSome = true
  nodup_receivers : past.receivers.Nodup
  receiverCount : s.receiverCount = past.receivers.length
  handles : ∀ i, i ∈ past.handles ↔ s.hasHandle i = true
  nodup_handles : past.handles.Nodup
  position_le : ∀ i position, s.position? i = some position → position ≤ s.sent
  position_add : ∀ i position, s.position? i = some position →
    position + past.triggers i = s.sent + past.told i
  unread : s.unread = s.countWhere (· < s.sent)

lemma follows_new : Follows [] new where
  receivers := by simp [History.receivers, position?, new]
  nodup_receivers := List.nodup_nil
  receiverCount := rfl
  handles i := by cases i <;> simp [History.handles, hasHandle, new]
  nodup_handles := List.nodup_singleton 0
  position_le := by simp [position?, new]
  position_add := by simp [position?, new]
  unread := rfl

section
variable {past : History} {s : StopChannel} (h : Follows past s)
include h

lemma Follows.mem_receivers {i position : Nat} (hp : s.position? i = some position) :
    i ∈ past.receivers := (h.receivers i).mpr (by rw [hp]; rfl)

lemma Follows.subscribe : Follows (.subscribed s.subscribe.2 :: past) s.subscribe.1 := by
  have hfresh : s.position? s.receivers.length = none := by
    rw [position?, List.getElem?_eq_none le_rfl, Option.join_none]
  have hnew : s.receivers.length ∉ past.receivers := by
    rw [h.receivers, hfresh]
    simp
  refine ⟨fun i => ?_, List.nodup_cons.mpr ⟨hnew, h.nodup_receivers⟩, ?_, h.handles,
    h.nodup_handles, fun i position hp => ?_, fun i position hp => ?_, ?_⟩
  · change i ∈ s.receivers.length :: past.receivers ↔ _
    rw [List.mem_cons, position?_subscribe, h.receivers]
    split_ifs with hi <;> simp [hi]
  · rw [receiverCount_eq, countWhere_subscribe, ← receiverCount_eq, h.receiverCount]
    rfl
  · rw [position?_subscribe] at hp
    split_ifs at hp with hi
    · exact (Option.some.inj hp).ge
    · exact h.position_le i position hp
  · change position + (if s.receivers.length = i then 0 else past.triggers i) =
      s.sent + if s.receivers.length = i then 0 else past.told i
    rw [position?_subscribe] at hp
    split_ifs at hp with hi
    · rw [if_pos hi.symm, if_pos hi.symm, Option.some.inj hp]
    · rw [if_neg (Ne.symm hi), if_neg (Ne.symm hi)]
      exact h.position_add i position hp
  · rw [countWhere_subscribe]
    change s.unread = s.countWhere (· < s.sent) + if decide (s.sent < s.sent) then 1 else 0
    rw [if_neg (by simp), Nat.add_zero]
    exact h.unread

lemma Follows.clone : Follows (.cloned s.clone.2 :: past) s.clone.1 := by
  have hnew : s.handles.length ∉ past.handles := by
    rw [h.handles, hasHandle, List.getElem?_eq_none le_rfl]
    simp
  refine ⟨h.receivers, h.nodup_receivers, h.receiverCount, fun i => ?_,
    List.nodup_cons.mpr ⟨hnew, h.nodup_handles⟩, h.position_le, h.position_add, h.unread⟩
  change i ∈ s.handles.length :: past.handles ↔ _
  rw [List.mem_cons, hasHandle_clone, h.handles]
  split_ifs with hi <;> simp [hi]

lemma Follows.trigger : Follows (.triggered :: past) s.trigger := by
  by_cases hnone : s.receiverCount = 0
  · rw [trigger_of_nobody hnone]
    exact ⟨h.receivers, h.nodup_receivers, h.receiverCount, h.handles, h.nodup_handles,
      h.position_le, fun i position hp => absurd hnone (receiverCount_ne_zero hp), h.unread⟩
  · rw [StopChannel.trigger, if_neg hnone]
    refine ⟨h.receivers, h.nodup_receivers, h.receiverCount, h.handles, h.nodup_handles,
      fun i position hp => ?_, fun i position hp => ?_, ?_⟩
    · exact (h.position_le i position hp).trans (Nat.le_succ _)
    · have hadd := h.position_add i position hp
      change position + (past.triggers i + 1) = s.sent + 1 + past.told i
      omega
    · -- nobody is ahead of the signals, so that the new one is kept for everybody
      rw [receiverCount_eq]
      refine List.countP_congr fun r hr => ?_
      cases r with
      | none => rfl
      | some position =>
        obtain ⟨i, hi, hget⟩ := List.getElem_of_mem hr
        have hp : s.position? i = some position := by
          rw [position?, List.getElem?_eq_getElem hi, hget, Option.join_some]
        have hle := h.position_le i position hp
        simpa using Nat.lt_succ_of_le hle

lemma Follows.received {i position q u : Nat} {found : Received}
    (hp : s.position? i = some position) (hq : q ≤ s.sent) (hcount : q = position + found.count)
    (hu : u = (s.place i (some q)).countWhere (· < s.sent)) :
    Follows (.received i found :: past) { s.place i (some q) with unread := u } := by
  have hplace : ∀ j, StopChannel.position? { s.place i (some q) with unread := u } j =
      if j = i then some q else s.position? j := fun j => position?_place j hp (some q)
  refine ⟨fun j => ?_, h.nodup_receivers, ?_, h.handles, h.nodup_handles, fun j p hj => ?_,
    fun j p hj => ?_, hu⟩
  · rw [hplace]
    split_ifs with hi
    · rw [hi]
      exact iff_of_true (h.mem_receivers hp) rfl
    · exact h.receivers j
  · have hcard := countWhere_place hp (some q) fun _ => true
    simp only [Option.any_some, if_true, Nat.add_right_cancel_iff] at hcard
    rw [receiverCount_eq]
    exact hcard.trans ((receiverCount_eq s).symm.trans h.receiverCount)
  · rw [hplace] at hj
    split_ifs at hj with hi
    · exact Option.some.inj hj ▸ hq
    · exact h.position_le j p hj
  · change p + past.triggers j = s.sent + (past.told j + if i = j then found.count else 0)
    rw [hplace] at hj
    split_ifs at hj with hi
    · subst hi
      have hadd := h.position_add j position hp
      have hqp := Option.some.inj hj
      rw [if_pos rfl]
      omega
    · rw [if_neg (Ne.symm hi), Nat.add_zero]
      exact h.position_add j p hj

lemma Follows.unread_pos {i position : Nat} (hp : s.position? i = some position)
    (hlt : position < s.sent) : s.unread ≠ 0 := by
  rw [h.unread]
  exact (countWhere_pos hp (decide_eq_true hlt)).ne'

/-- A receiver finds what is due to it. -/
lemma Follows.receive {i : Nat} {t : StopChannel} {found : Received}
    (hr : s.receive? i = some (t, found)) :
    Follows (.received i found :: past) t ∧ found = answer s.isOpen (past.due i) := by
  obtain ⟨p, hp, hcases⟩ := receive?_cases hr
  have hle := h.position_le i p hp
  have hadd := h.position_add i p hp
  have hdue : past.due i = s.sent - p := by
    rw [History.due]
    omega
  rcases hcases with ⟨heq, rfl, rfl⟩ | ⟨hlt, rfl, rfl⟩ | ⟨hne, hlt, hkept | ⟨hkept, rfl, rfl⟩⟩
  · have hnone : (if t.isOpen then Received.empty else .closed).count = 0 := by
      split_ifs <;> rfl
    have hfollows := h.received hp (u := t.unread) hle (by rw [hnone, Nat.add_zero])
      (by rw [place_self hp]; exact h.unread)
    rw [place_self hp] at hfollows
    refine ⟨hfollows, ?_⟩
    rw [hdue, heq, Nat.sub_self]
    rfl
  · have hbehind := countWhere_place hp (some (s.sent - 1)) (· < s.sent)
    have hcount : s.sent - 1 = p + (Received.lagged (s.sent - 1 - p)).count := by
      change s.sent - 1 = p + (s.sent - 1 - p)
      omega
    rw [if_pos (by simp; omega), if_pos (by simp; omega)] at hbehind
    refine ⟨h.received hp (u := s.unread) (by omega) hcount ?_, ?_⟩
    · rw [h.unread]
      omega
    · obtain ⟨missed, hm⟩ : ∃ missed, s.sent - p = missed + 2 := ⟨s.sent - p - 2, by omega⟩
      rw [hdue, hm, answer]
      congr 1
      omega
  · exact absurd hkept.1 (h.unread_pos hp (by omega))
  · have hbehind := countWhere_place hp (some s.sent) (· < s.sent)
    have hcount : s.sent = p + Received.signal.count := by
      change s.sent = p + 1
      omega
    rw [if_pos (by simp; omega), if_neg (by simp)] at hbehind
    refine ⟨h.received hp (u := s.unread - 1) le_rfl hcount ?_, ?_⟩
    · rw [h.unread]
      omega
    · have hone : s.sent - p = 1 := by omega
      rw [hdue, hone]
      rfl

lemma Follows.dropReceiver {i : Nat} (hi : (s.position? i).isSome = true) :
    Follows (.receiverDropped i :: past) (s.dropReceiver i) := by
  obtain ⟨p, hp⟩ := Option.isSome_iff_exists.mp hi
  have hplace := fun j => position?_dropReceiver j hp
  refine ⟨fun j => ?_, h.nodup_receivers.erase i, ?_, ?_, h.nodup_handles, fun j q hj => ?_,
    fun j q hj => ?_, ?_⟩
  · change j ∈ past.receivers.erase i ↔ _
    rw [h.nodup_receivers.mem_erase_iff, hplace, h.receivers]
    split_ifs with hji <;> simp [hji]
  · have hcard := countWhere_place hp none fun _ => true
    change _ = (past.receivers.erase i).length
    rw [List.length_erase_of_mem (h.mem_receivers hp), ← h.receiverCount, receiverCount_eq,
      receiverCount_eq, dropReceiver_eq hp]
    change (s.place i none).countWhere _ = _
    simp only [Option.any_none, if_true, Bool.false_eq_true, if_false] at hcard
    omega
  · rw [dropReceiver_eq hp]
    exact h.handles
  · rw [hplace] at hj
    split_ifs at hj
    rw [dropReceiver_eq hp]
    exact h.position_le j q hj
  · rw [hplace] at hj
    split_ifs at hj
    rw [dropReceiver_eq hp]
    exact h.position_add j q hj
  · have hbehind := countWhere_place hp none (· < s.sent)
    rw [dropReceiver_eq hp]
    change s.unread - _ = (s.place i none).countWhere (· < s.sent)
    rw [h.unread]
    simp only [Option.any_none, Bool.false_eq_true, if_false, decide_eq_true_eq] at hbehind
    omega

lemma Follows.dropHandle {i : Nat} : Follows (.handleDropped i :: past) (s.dropHandle i) := by
  refine ⟨h.receivers, h.nodup_receivers, h.receiverCount, fun j => ?_, h.nodup_handles.erase i,
    h.position_le, h.position_add, h.unread⟩
  change j ∈ past.handles.erase i ↔ _
  rw [h.nodup_handles.mem_erase_iff, hasHandle_dropHandle, h.handles]
  split_ifs with hji <;> simp [hji]

end

lemma follows_of_run {past : History} {s : StopChannel} (h : Run past s) : Follows past s := by
  induction h with
  | new => exact follows_new
  | subscribe _ _ ih => exact ih.subscribe
  | clone _ _ ih => exact ih.clone
  | trigger _ _ ih => exact ih.trigger
  | receive _ hr ih => exact (ih.receive hr).1
  | dropReceiver _ hi ih => exact ih.dropReceiver hi
  | dropHandle _ _ ih => exact ih.dropHandle

/-! ### What is due -/

namespace History

/-- Only signals and the receiver's own events change what is due to it. -/
lemma due_cons_of_other {e : Event} {i : Nat} (past : History) (hsignal : e ≠ .triggered)
    (hother : e.receiver? ≠ some i) : due i (e :: past) = past.due i := by
  cases e with
  | triggered => exact absurd rfl hsignal
  | subscribed j =>
    have hj : j ≠ i := fun hj => hother (congrArg some hj)
    change (if j = i then 0 else past.triggers i) - (if j = i then 0 else past.told i) = _
    rw [if_neg hj, if_neg hj, due]
  | received j found =>
    have hj : j ≠ i := fun hj => hother (congrArg some hj)
    change past.triggers i - (past.told i + if j = i then found.count else 0) = _
    rw [if_neg hj, Nat.add_zero, due]
  | cloned | receiverDropped | handleDropped => rfl

lemma due_received (i : Nat) (past : History) (found : Received) :
    due i (.received i found :: past) = past.due i - found.count := by
  change past.triggers i - (past.told i + if i = i then found.count else 0) = _
  rw [if_pos rfl, due, Nat.sub_sub]

end History

lemma sub_count_answer (isOpen : Bool) (due : Nat) :
    due - (answer isOpen due).count = if due ≤ 1 then 0 else 1 := by
  match due with
  | 0 => exact Nat.zero_sub _
  | 1 => rfl
  | missed + 2 =>
    rw [if_neg (by omega), answer, Received.count]
    omega

section
variable {past : History} {s : StopChannel} (h : Follows past s)
include h

lemma Follows.isOpen : s.isOpen = decide (past.handles ≠ []) := by
  rw [Bool.eq_iff_iff, isOpen_iff, decide_eq_true_eq]
  constructor
  · rintro ⟨i, hi⟩
    exact List.ne_nil_of_mem ((h.handles i).mpr hi)
  · intro hne
    obtain ⟨i, hi⟩ := List.exists_mem_of_ne_nil _ hne
    exact ⟨i, (h.handles i).mp hi⟩

lemma Follows.told_le {i : Nat} (hi : i ∈ past.receivers) : past.told i ≤ past.triggers i := by
  obtain ⟨p, hp⟩ := Option.isSome_iff_exists.mp ((h.receivers i).mp hi)
  have hle := h.position_le i p hp
  have hadd := h.position_add i p hp
  omega

lemma Follows.due_triggered {i : Nat} (hi : i ∈ past.receivers) :
    History.due i (.triggered :: past) = past.due i + 1 := by
  have htold := h.told_le hi
  change past.triggers i + 1 - past.told i = past.triggers i - past.told i + 1
  omega

end

lemma receive?_isSome {s : StopChannel} {i : Nat} (h : (s.position? i).isSome = true) :
    (s.receive? i).isSome = true := by
  obtain ⟨p, hp⟩ := Option.isSome_iff_exists.mp h
  rw [receive?, hp, Option.bind_eq_bind, Option.bind_some]
  split_ifs <;> rfl

/-- No signal is lost: each one is due to every receiver that is there when it is triggered, until
the receiver itself gets it or learns that it missed it. -/
theorem receives_what_is_due {past : History} {s : StopChannel} (h : Run past s) :
    s.receiverCount = past.receivers.length ∧
      (past.receivers = [] → s.trigger = s) ∧
      ∀ i ∈ past.receivers,
        (∃ found t, found = answer (decide (past.handles ≠ [])) (past.due i) ∧
          s.receive? i = some (t, found) ∧ Run (.received i found :: past) t ∧
          History.due i (.received i found :: past) = if past.due i ≤ 1 then 0 else 1) ∧
        past.told i ≤ past.triggers i ∧
        History.due i (.triggered :: past) = past.due i + 1 ∧
        ∀ e : Event, e ≠ .triggered → e.receiver? ≠ some i →
          History.due i (e :: past) = past.due i := by
  have hf := follows_of_run h
  refine ⟨hf.receiverCount, fun hnone => trigger_of_nobody ?_, fun i hi => ⟨?_, hf.told_le hi,
    hf.due_triggered hi, fun _ => History.due_cons_of_other past⟩⟩
  · rw [hf.receiverCount, hnone, List.length_nil]
  · obtain ⟨⟨t, found⟩, hr⟩ :=
      Option.isSome_iff_exists.mp (receive?_isSome ((hf.receivers i).mp hi))
    have hfound := (hf.receive hr).2
    refine ⟨found, t, by rw [hfound, hf.isOpen], hr, .receive h hr, ?_⟩
    rw [History.due_received, hfound, sub_count_answer]

/-- Two signals, and then all handles are dropped: a receiver that has looked once gets the second
signal, the other learns that it missed the first. -/
theorem signals_outlive_handles :
    Run [.handleDropped 1, .handleDropped 0, .received 1 (.lagged 1), .triggered, .triggered,
        .subscribed 1, .cloned 1, .subscribed 0] ⟨2, 2, [false, false], [some 0, some 1]⟩ ∧
      (∃ t, receive? ⟨2, 2, [false, false], [some 0, some 1]⟩ 0 = some (t, .lagged 1)) ∧
      ∃ t, receive? ⟨2, 2, [false, false], [some 0, some 1]⟩ 1 = some (t, .signal) := by
  have hthere := Run.new.subscribe (i := 0) rfl |>.clone (i := 0) rfl |>.subscribe (i := 1) rfl
  have hsent := hthere.trigger (i := 1) rfl |>.trigger (i := 0) rfl
  have hlooked : Run (.received 1 (.lagged 1) :: _) _ := hsent.receive rfl
  have hrun := hlooked.dropHandle (i := 0) rfl |>.dropHandle (i := 1) rfl
  obtain ⟨⟨_, first, rfl, hfirst, _⟩, _⟩ := (receives_what_is_due hrun).2.2 0 (by decide)
  obtain ⟨⟨_, second, rfl, hsecond, _⟩, _⟩ := (receives_what_is_due hrun).2.2 1 (by decide)
  exact ⟨hrun, ⟨first, hfirst⟩, ⟨second, hsecond⟩⟩

end RestGateway.StopChannel
