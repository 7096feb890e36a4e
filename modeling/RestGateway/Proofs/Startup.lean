import Mathlib
import RestGateway.Startup
import RestGateway.Proofs.Gateway.Server
import RestGateway.Proofs.StopChannel

/-! With a valid configuration a server starts, unless it has a name that cannot be sent. While it
starts, a signal that the listener passes on before the server subscribes is lost for good, and no
other signal is lost. The other way round nothing goes wrong: once the server has stopped, the
listener ends. -/
namespace RestGateway

/-! ### Configurations -/

section
variable {c : Config} (hc : c.isValid = true)
include hc

end

namespace Startup

/-- Whether the server waits for the signal to stop, or will wait for it. -/
def Main.awaitsSignal : Main → Bool
  | building | subscribing | starting | serving => true
  | closing | joining | done => false

/-- Whether a receiver that waits gets an answer. -/
def isAnswered (channel : StopChannel) (i : Nat) : Bool :=
  (channel.receive? i).any fun answer => answer.2 ≠ .empty

/-- The signal was passed on before the server subscribed. -/
def IsTooEarly : List Action → Prop
  | [] => False
  | a :: past => a = .trigger ∧ .subscribe ∉ past ∨ IsTooEarly past

/-- The listener has seen a signal and is gone, and the server waits in vain. -/
structure State.IsLost (s : State) : Prop where
  listener : s.listener = .ended true
  main : s.main.awaitsSignal = true
  isOpen : s.channel.isOpen = true
  notAnswered : isAnswered s.channel 1 = false

/-! ### Receivers that wait -/

lemma isAnswered_of_gone {channel : StopChannel} {i : Nat} (h : channel.position? i = none) :
    isAnswered channel i = false := by
  rw [isAnswered, StopChannel.receive?, h]
  rfl

lemma isAnswered_of_position? {channel : StopChannel} {i p : Nat} (hopen : channel.isOpen = true)
    (h : channel.position? i = some p) : isAnswered channel i = decide (p ≠ channel.sent) := by
  rw [isAnswered, StopChannel.receive?, h, Option.bind_eq_bind, Option.bind_some, hopen,
    if_pos rfl]
  split_ifs with heq <;> simp [heq]

/-! ### What happened so far -/

lemma mem_of_isTooEarly {past : List Action} (h : IsTooEarly past) : .trigger ∈ past := by
  induction past with
  | nil => exact h.elim
  | cons a past ih =>
    rcases h with ⟨rfl, -⟩ | h
    · exact List.mem_cons_self
    · exact List.mem_cons_of_mem a (ih h)

lemma isTooEarly_iff {past : List Action} (h : .subscribe ∉ past) :
    IsTooEarly past ↔ .trigger ∈ past := by
  refine ⟨mem_of_isTooEarly, fun hm => ?_⟩
  induction past with
  | nil => exact absurd hm List.not_mem_nil
  | cons a past ih =>
    have hrest := fun hs => h (List.mem_cons_of_mem a hs)
    rcases List.mem_cons.mp hm with rfl | hm
    · exact Or.inl ⟨rfl, hrest⟩
    · exact Or.inr (ih hrest hm)

/-! ### Invariants -/

/-- The state is what a course makes of it. The course counts by whether the server subscribed,
whether the signal was passed on, and whether this was too early. -/
structure Follows (didSubscribe didTrigger early : Prop) (s : State) : Prop where
  handle : s.channel.hasHandle 0 = true
  position_le : ∀ i position, s.channel.position? i = some position → position ≤ s.channel.sent
  subscribed : didSubscribe ↔ s.main ≠ .building ∧ s.main ≠ .subscribing
  length : s.channel.receivers.length = if s.main = .building ∨ s.main = .subscribing then 1 else 2
  triggered : didTrigger ↔ s.listener = .leaving true ∨ s.listener = .ended true
  listener : (∀ sawSignal, s.listener ≠ .ended sawSignal) → (s.channel.position? 0).isSome = true
  server : s.main = .starting ∨ s.main = .serving →
    ∃ p, s.channel.position? 1 = some p ∧ (p ≠ s.channel.sent ↔ didTrigger ∧ ¬early)
  joining : s.main = .joining → s.listener = .waiting →
    ∃ p, s.channel.position? 0 = some p ∧ p ≠ s.channel.sent

lemma follows_start : Follows False False False State.start where
  handle := rfl
  position_le i position h := by
    match i with
    | 0 => exact Option.some.inj h ▸ Nat.zero_le _
    | i + 1 => exact nomatch h
  subscribed := by simp [State.start]
  length := rfl
  triggered := by simp [State.start]
  listener _ := rfl
  server := by simp [State.start]
  joining := by simp [State.start]

section
variable {didSubscribe didTrigger early : Prop} {s : State}
  (h : Follows didSubscribe didTrigger early s)
include h

lemma Follows.isOpen : s.channel.isOpen = true := StopChannel.isOpen_iff.mpr ⟨0, h.handle⟩

/-! #### The listener -/

lemma Follows.signal : Follows didSubscribe didTrigger early { s with signals := s.signals + 1 } :=
  { h with }

lemma Follows.observe (hl : s.listener = .waiting) :
    Follows didSubscribe didTrigger early { s with listener := .triggering } :=
  { h with
    triggered := by simpa [hl] using h.triggered
    listener := fun _ => h.listener (by simp [hl])
    joining := fun _ hw => nomatch hw }

lemma Follows.trigger (hl : s.listener = .triggering) (hearly : early → didTrigger) :
    Follows didSubscribe True (¬didSubscribe ∨ early)
      { s with channel := s.channel.trigger, listener := .leaving true } := by
  have hnot : ¬didTrigger := by simp [h.triggered, hl]
  refine { h with
    handle := ?_, position_le := fun i p hp => ?_, length := ?_, triggered := by simp
    listener := fun _ => ?_, server := fun hm => ?_, joining := fun _ hw => nomatch hw }
  · rw [StopChannel.hasHandle, StopChannel.handles_trigger]
    exact h.handle
  · rw [StopChannel.position?_trigger] at hp
    exact (h.position_le i p hp).trans (StopChannel.sent_le_trigger _)
  · rw [StopChannel.receivers_trigger]
    exact h.length
  · rw [StopChannel.position?_trigger]
    exact h.listener (by simp [hl])
  · have hmain : s.main = .starting ∨ s.main = .serving := hm
    obtain ⟨p, hp, -⟩ := h.server hmain
    have hle := h.position_le 1 p hp
    have hsubscribed : didSubscribe :=
      h.subscribed.mpr (by rcases hmain with hmain | hmain <;> simp [hmain])
    refine ⟨p, by rw [StopChannel.position?_trigger, hp], ?_⟩
    rw [StopChannel.sent_trigger hp]
    refine iff_of_true (by omega) ⟨trivial, ?_⟩
    rintro (hun | hwas)
    · exact hun hsubscribed
    · exact hnot (hearly hwas)

/-- The listener does something with its own receiver. -/
lemma Follows.listener_moves {channel : StopChannel} {l : Listener}
    (hc : StopChannel.SameBut 0 s.channel channel) (hl : l ≠ .waiting)
    (hsaw : s.listener = .leaving true ∨ s.listener = .ended true ↔
      l = .leaving true ∨ l = .ended true)
    (hthere : (∀ sawSignal, l ≠ .ended sawSignal) → (channel.position? 0).isSome = true) :
    Follows didSubscribe didTrigger early { s with channel := channel, listener := l } := by
  refine { h with
    handle := ?_, position_le := fun i p hp => ?_, length := hc.length.trans h.length
    triggered := h.triggered.trans hsaw, listener := hthere, server := fun hm => ?_
    joining := fun _ hw => absurd hw hl }
  · rw [StopChannel.hasHandle, hc.handles]
    exact h.handle
  · by_cases hi : i = 0
    · exact hc.position_le p (hi ▸ hp)
    · rw [hc.others i hi] at hp
      rw [hc.sent]
      exact h.position_le i p hp
  · rw [hc.others 1 Nat.one_ne_zero, hc.sent]
    exact h.server hm

lemma Follows.told {channel : StopChannel} {found : StopChannel.Received}
    (hl : s.listener = .waiting) (hr : s.channel.receive? 0 = some (channel, found)) :
    Follows didSubscribe didTrigger early
      { s with channel := channel, listener := .leaving false } := by
  obtain ⟨p, hp⟩ := Option.isSome_iff_exists.mp (h.listener (by simp [hl]))
  have hle := h.position_le 0 p hp
  exact h.listener_moves (StopChannel.sameBut_receive hp hle hr) (by simp) (by simp [hl])
    fun _ => StopChannel.position?_receive_isSome hp hle hr

lemma Follows.leave {sawSignal : Bool} (hl : s.listener = .leaving sawSignal) :
    Follows didSubscribe didTrigger early { s with
      channel := (s.channel.dropReceiver 0).dropHandle 1, listener := .ended sawSignal } := by
  obtain ⟨p, hp⟩ := Option.isSome_iff_exists.mp (h.listener (by simp [hl]))
  have hleft := h.listener_moves (StopChannel.sameBut_dropReceiver hp)
    (l := .ended sawSignal) (by simp) (by simp [hl]) (fun hne => absurd rfl (hne sawSignal))
  exact { hleft with
    handle := by
      rw [StopChannel.hasHandle_dropHandle, if_neg Nat.zero_ne_one]
      exact hleft.handle }

/-! #### The server -/

lemma Follows.build (hm : s.main = .building) :
    Follows didSubscribe didTrigger early { s with main := .subscribing } :=
  { h with
    subscribed := by simpa [hm] using h.subscribed
    length := by simpa [hm] using h.length
    server := by simp
    joining := by simp }

lemma Follows.subscribe (hm : s.main = .subscribing) (hearly : didTrigger → early) :
    Follows True didTrigger early
      { s with channel := s.channel.subscribe.1, main := .starting } := by
  have hlen : s.channel.receivers.length = 1 := by simpa [hm] using h.length
  have hposition := fun i => StopChannel.position?_subscribe s.channel i
  refine { h with
    position_le := fun i p hp => ?_, subscribed := by simp, length := ?_
    listener := fun hl => ?_, server := fun _ => ?_, joining := by simp }
  · rw [hposition] at hp
    split_ifs at hp with hi
    · exact (Option.some.inj hp).ge
    · exact h.position_le i p hp
  · simp [StopChannel.subscribe, hlen]
  · rw [hposition, if_neg (by omega)]
    exact h.listener hl
  · refine ⟨s.channel.sent, by rw [hposition, if_pos hlen.symm], ?_⟩
    exact iff_of_false (fun hne => hne rfl) (fun hboth => hboth.2 (hearly hboth.1))

lemma Follows.listen (hm : s.main = .starting) :
    Follows didSubscribe didTrigger early { s with main := .serving } :=
  { h with
    subscribed := by simpa [hm] using h.subscribed
    length := by simpa [hm] using h.length
    server := fun _ => h.server (Or.inl hm)
    joining := by simp }

/-- The server stops and drops its receiver. -/
lemma Follows.server_stops {channel : StopChannel}
    (hc : StopChannel.SameBut 1 s.channel channel) (hm : s.main = .starting ∨ s.main = .serving) :
    Follows didSubscribe didTrigger early { s with channel := channel, main := .closing } := by
  refine { h with
    handle := ?_, position_le := fun i p hp => ?_, subscribed := ?_, length := ?_
    listener := fun hl => ?_, server := by simp, joining := by simp }
  · rw [StopChannel.hasHandle, hc.handles]
    exact h.handle
  · by_cases hi : i = 1
    · exact hc.position_le p (hi ▸ hp)
    · rw [hc.others i hi] at hp
      rw [hc.sent]
      exact h.position_le i p hp
  · rcases hm with hm | hm <;> simpa [hm] using h.subscribed
  · rw [hc.length]
    rcases hm with hm | hm <;> simpa [hm] using h.length
  · rw [hc.others 0 Nat.zero_ne_one]
    exact h.listener hl

lemma Follows.fail (hm : s.main = .starting) :
    Follows didSubscribe didTrigger early
      { s with channel := s.channel.dropReceiver 1, main := .closing } := by
  obtain ⟨p, hp, -⟩ := h.server (Or.inl hm)
  exact h.server_stops (StopChannel.sameBut_dropReceiver hp) (Or.inl hm)

lemma Follows.stop {channel : StopChannel} {found : StopChannel.Received}
    (hm : s.main = .serving) (hr : s.channel.receive? 1 = some (channel, found)) :
    Follows didSubscribe didTrigger early
      { s with channel := channel.dropReceiver 1, main := .closing } := by
  obtain ⟨p, hp, -⟩ := h.server (Or.inr hm)
  have hle := h.position_le 1 p hp
  obtain ⟨q, hq⟩ := Option.isSome_iff_exists.mp (StopChannel.position?_receive_isSome hp hle hr)
  exact h.server_stops ((StopChannel.sameBut_receive hp hle hr).trans
    (StopChannel.sameBut_dropReceiver hq)) (Or.inr hm)

lemma Follows.close (hm : s.main = .closing) :
    Follows didSubscribe didTrigger early
      { s with channel := s.channel.trigger, main := .joining } := by
  refine { h with
    handle := ?_, position_le := fun i p hp => ?_, subscribed := ?_, length := ?_
    listener := fun hl => ?_, server := by simp, joining := fun _ hw => ?_ }
  · rw [StopChannel.hasHandle, StopChannel.handles_trigger]
    exact h.handle
  · rw [StopChannel.position?_trigger] at hp
    exact (h.position_le i p hp).trans (StopChannel.sent_le_trigger _)
  · simpa [hm] using h.subscribed
  · rw [StopChannel.receivers_trigger]
    simpa [hm] using h.length
  · rw [StopChannel.position?_trigger]
    exact h.listener hl
  · have hwaiting : s.listener = .waiting := hw
    obtain ⟨p, hp⟩ := Option.isSome_iff_exists.mp (h.listener (by simp [hwaiting]))
    have hle := h.position_le 0 p hp
    refine ⟨p, by rw [StopChannel.position?_trigger, hp], ?_⟩
    rw [StopChannel.sent_trigger hp]
    omega

lemma Follows.join (hm : s.main = .joining) :
    Follows didSubscribe didTrigger early { s with main := .done } :=
  { h with
    subscribed := by simpa [hm] using h.subscribed
    length := by simpa [hm] using h.length
    server := by simp
    joining := by simp }

end

/-! ### Courses -/

/-- What a course says of itself. -/
abbrev FollowsCourse (past : List Action) : State → Prop :=
  Follows (.subscribe ∈ past) (.trigger ∈ past) (IsTooEarly past)

/-- What counts of a course stays the same with most steps. -/
lemma Follows.cons {past : List Action} {a : Action} {s : State} (h : FollowsCourse past s)
    (hsubscribe : a ≠ .subscribe) (htrigger : a ≠ .trigger) : FollowsCourse (a :: past) s := by
  simpa [FollowsCourse, IsTooEarly, hsubscribe.symm, htrigger.symm, htrigger] using h

lemma follows_step {past : List Action} {a : Action} {s t : State} (h : FollowsCourse past s)
    (hs : Step a s t) : FollowsCourse (a :: past) t := by
  cases hs with
  | signal => exact h.signal.cons (by decide) (by decide)
  | observe hl _ => exact (h.observe hl).cons (by decide) (by decide)
  | trigger hl => simpa [FollowsCourse, IsTooEarly] using h.trigger hl mem_of_isTooEarly
  | told hl hr _ => exact (h.told hl hr).cons (by decide) (by decide)
  | leave hl => exact (h.leave hl).cons (by decide) (by decide)
  | build hm => exact (h.build hm).cons (by decide) (by decide)
  | subscribe hm =>
    have hnot : .subscribe ∉ past := by simp [h.subscribed, hm]
    simpa [FollowsCourse, IsTooEarly] using h.subscribe hm (isTooEarly_iff hnot).mpr
  | listen hm => exact (h.listen hm).cons (by decide) (by decide)
  | fail hm => exact (h.fail hm).cons (by decide) (by decide)
  | stop hm hr _ => exact (h.stop hm hr).cons (by decide) (by decide)
  | close hm => exact (h.close hm).cons (by decide) (by decide)
  | join hm _ => exact (h.join hm).cons (by decide) (by decide)

lemma follows_of_run {past : List Action} {s : State} (h : Run past s) : FollowsCourse past s := by
  induction h with
  | start => simpa [FollowsCourse, IsTooEarly] using follows_start
  | step _ hs ih => exact follows_step ih hs

/-! ### Signals that are lost -/

lemma notAnswered_iff {past : List Action} {s : State} (h : FollowsCourse past s)
    (hm : s.main.awaitsSignal = true) (htriggered : .trigger ∈ past) :
    isAnswered s.channel 1 = false ↔ IsTooEarly past := by
  by_cases hthere : s.main = .starting ∨ s.main = .serving
  · obtain ⟨p, hp, hiff⟩ := h.server hthere
    rw [isAnswered_of_position? h.isOpen hp, decide_eq_false_iff_not, hiff]
    simp [htriggered]
  · have hbefore : s.main = .building ∨ s.main = .subscribing := by
      cases hmain : s.main <;> simp_all [Main.awaitsSignal]
    have hnot : .subscribe ∉ past := by rcases hbefore with hm | hm <;> simp [h.subscribed, hm]
    have hgone : s.channel.position? 1 = none := by
      have hlen := h.length
      rw [if_pos hbefore] at hlen
      rw [StopChannel.position?, List.getElem?_eq_none hlen.le, Option.join_none]
    exact iff_of_true (isAnswered_of_gone hgone) ((isTooEarly_iff hnot).mpr htriggered)

lemma isLost_iff {past : List Action} {s : State} (h : FollowsCourse past s) :
    s.IsLost ↔ s.listener = .ended true ∧ s.main.awaitsSignal = true ∧ IsTooEarly past := by
  constructor
  · rintro ⟨hl, hm, -, hnot⟩
    exact ⟨hl, hm, (notAnswered_iff h hm (h.triggered.mpr (Or.inr hl))).mp hnot⟩
  · rintro ⟨hl, hm, hearly⟩
    exact ⟨hl, hm, h.isOpen, (notAnswered_iff h hm (mem_of_isTooEarly hearly)).mpr hearly⟩

/-- However many signals follow, only a failure to listen ends the wait. -/
lemma isLost_step {past : List Action} {a : Action} {s t : State} (h : FollowsCourse past s)
    (hlost : s.IsLost) (hs : Step a s t) (ha : a ≠ .fail) : t.IsLost := by
  obtain ⟨hl, hm, hearly⟩ := (isLost_iff h).mp hlost
  refine (isLost_iff (follows_step h hs)).mpr ⟨?_, ?_, Or.inr hearly⟩
  · cases hs with
    | observe hw | trigger hw | told hw | leave hw => exact absurd (hl.symm.trans hw) (by simp)
    | signal | build | subscribe | listen | fail | stop | close | join => exact hl
  · cases hs with
    | signal | observe | trigger | told | leave => exact hm
    | build | subscribe | listen => rfl
    | fail => exact absurd rfl ha
    | stop _ hr hne =>
      have hanswered : isAnswered s.channel 1 = true := by
        rw [isAnswered, hr]
        simpa using hne
      exact absurd (hanswered.symm.trans hlost.notAnswered) (by simp)
    | close hmain | join hmain =>
      rw [hmain] at hm
      exact nomatch hm

/-! ### The end -/

/-- The system need not send anything more for the program to end. -/
def CanEnd (past : List Action) : Prop :=
  ∃ later t, Run (later ++ past) t ∧ t.main = .done ∧ .signal ∉ later

lemma canEnd_of_step {past : List Action} {a : Action} (ha : a ≠ .signal)
    (h : CanEnd (a :: past)) : CanEnd past := by
  obtain ⟨later, t, hrun, hdone, hnone⟩ := h
  refine ⟨later ++ [a], t, by simpa using hrun, hdone, ?_⟩
  simpa [hnone] using ha.symm

section
variable {past : List Action} {s : State} (h : Run past s) (hm : s.main = .joining)
include h hm

lemma canEnd_of_ended {sawSignal : Bool} (hl : s.listener = .ended sawSignal) : CanEnd past :=
  ⟨[.join], _, h.step (.join hm hl), rfl, by decide⟩

lemma canEnd_of_leaving {sawSignal : Bool} (hl : s.listener = .leaving sawSignal) : CanEnd past :=
  canEnd_of_step (by decide) (canEnd_of_ended (h.step (.leave hl)) hm rfl)

lemma isAnswered_of_joining (hl : s.listener = .waiting) : isAnswered s.channel 0 = true := by
  have hf := follows_of_run h
  obtain ⟨p, hp, hne⟩ := hf.joining hm hl
  rw [isAnswered_of_position? hf.isOpen hp, decide_eq_true hne]

lemma canEnd_of_joining : CanEnd past := by
  cases hl : s.listener with
  | waiting =>
    have hanswered := isAnswered_of_joining h hm hl
    rw [isAnswered, Option.any_eq_true] at hanswered
    obtain ⟨⟨channel, found⟩, hr, hne⟩ := hanswered
    exact canEnd_of_step (by decide)
      (canEnd_of_leaving (h.step (.told hl hr (by simpa using hne))) hm rfl)
  | triggering =>
    exact canEnd_of_step (by decide) (canEnd_of_leaving (h.step (.trigger hl)) hm rfl)
  | leaving sawSignal => exact canEnd_of_leaving h hm hl
  | ended sawSignal => exact canEnd_of_ended h hm hl

end

/-- A signal is lost if and only if it is passed on before the server subscribes, and then no later
one helps. The server that has stopped never waits in vain for the listener. -/
theorem lost_iff_too_early {past : List Action} {s : State} (h : Run past s) :
    (s.IsLost ↔ s.listener = .ended true ∧ s.main.awaitsSignal = true ∧ IsTooEarly past) ∧
      (s.listener = .ended true → s.main.awaitsSignal = true → ¬IsTooEarly past →
        isAnswered s.channel 1 = true) ∧
      (s.IsLost → ∀ a t, Step a s t → a ≠ .fail → t.IsLost) ∧
      (s.main = .joining → s.listener = .waiting → isAnswered s.channel 0 = true) ∧
      (s.main = .joining → CanEnd past) := by
  have hf := follows_of_run h
  refine ⟨isLost_iff hf, fun hl hm hearly => ?_, fun hlost _ _ hs => isLost_step hf hlost hs,
    isAnswered_of_joining h, canEnd_of_joining h⟩
  by_contra hnot
  exact hearly ((notAnswered_iff hf hm (hf.triggered.mpr (Or.inr hl))).mp (by simpa using hnot))

/-- The listener is done before the server subscribes: no later subscriber hears of the signal. -/
theorem early_signal_is_lost :
    Run [.listen, .subscribe, .build, .leave, .trigger, .observe, .signal]
        ⟨1, ⟨1, 0, [true, false], [none, some 1]⟩, .ended true, .serving⟩ ∧
      State.IsLost ⟨1, ⟨1, 0, [true, false], [none, some 1]⟩, .ended true, .serving⟩ :=
  ⟨Run.start.step .signal |>.step (.observe rfl (by decide)) |>.step (.trigger rfl)
    |>.step (.leave rfl) |>.step (.build rfl) |>.step (.subscribe rfl) |>.step (.listen rfl),
    rfl, rfl, rfl, rfl⟩

/-- A signal to a server that runs, another one to a server that has missed the first, and a server
that cannot listen. -/
theorem timely_signal_arrives :
    (¬State.IsLost ⟨1, ⟨1, 1, [true, false], [none, some 0]⟩, .ended true, .serving⟩ ∧
        isAnswered ⟨1, 1, [true, false], [none, some 0]⟩ 1 = true) ∧
      State.IsLost ⟨2, ⟨1, 0, [true, false], [none]⟩, .ended true, .building⟩ ∧
      isAnswered ⟨1, 1, [true, true], [some 0, none]⟩ 0 = true ∧
      CanEnd [.close, .fail, .subscribe, .build] := by
  have hruns := Run.start.step (.build rfl) |>.step (.subscribe rfl)
  have htimely := hruns.step (.listen rfl) |>.step .signal |>.step (.observe rfl (by decide))
    |>.step (.trigger rfl) |>.step (.leave rfl)
  have hearly := Run.start.step .signal |>.step (.observe rfl (by decide))
    |>.step (.trigger rfl) |>.step (.leave rfl)
  have hfailed := hruns.step (.fail rfl) |>.step (.close rfl)
  obtain ⟨hlost, hanswered, -⟩ := lost_iff_too_early htimely
  obtain ⟨hlostEarly, -, hstays, -⟩ := lost_iff_too_early hearly
  obtain ⟨-, -, -, hjoins, hends⟩ := lost_iff_too_early hfailed
  have hinTime :
      ¬IsTooEarly [.leave, .trigger, .observe, .signal, .listen, .subscribe, .build] := by
    simp [IsTooEarly]
  have htooEarly : IsTooEarly [.leave, .trigger, .observe, .signal] := by simp [IsTooEarly]
  exact ⟨⟨fun hl => hinTime (hlost.mp hl).2.2, hanswered rfl rfl hinTime⟩,
    hstays (hlostEarly.mpr ⟨rfl, rfl, htooEarly⟩) .signal _ .signal (by decide),
    hjoins rfl rfl, hends rfl⟩

end Startup
end RestGateway
