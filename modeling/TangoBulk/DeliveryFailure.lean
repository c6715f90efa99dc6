import TangoBulk.DeliveryMachine

/-! What a reader knows once it is told of a session failure. The barrier of the pushes makes
the failure visible only after every accepted frame. -/
namespace TangoBulk

open Transition

namespace DeliveryQueue

variable {φ : Type}

/-- The parts of a delivery queue that decide what a read returns. -/
structure Core (φ : Type) where
  queue : Fifo φ
  activePushes : ℕ
  accepting : Bool
  terminal : Terminal

def core (d : DeliveryQueue φ) : Core φ where
  queue := d.queue
  activePushes := d.activePushes
  accepting := d.accepting
  terminal := d.terminal

lemma core_writeTokens (d : DeliveryQueue φ) (n : ℕ) : (d.writeTokens n).core = d.core := by
  unfold writeTokens
  split_ifs <;> rfl

lemma core_consumeOne (d : DeliveryQueue φ) : d.consumeOne.core = d.core := by
  unfold consumeOne
  split_ifs <;> rfl

lemma core_signalOne (d : DeliveryQueue φ) : d.signalOne.core = d.core := by
  unfold signalOne
  split_ifs
  · exact core_writeTokens _ 1
  · exact core_writeTokens _ 1
  · rfl

lemma core_signalAll (d : DeliveryQueue φ) : d.signalAll.core = d.core :=
  core_writeTokens _ _

lemma core_settlePush (d : DeliveryQueue φ) (queued dropped : Bool) :
    (d.settlePush queued dropped).core = d.core := by
  unfold settlePush
  cases queued with
  | false => cases dropped <;> rfl
  | true =>
    cases dropped with
    | false | true => exact core_signalOne _

lemma core_beginAwait (d : DeliveryQueue φ) : d.beginAwait.2.core = d.core := by
  unfold beginAwait
  split_ifs <;> rfl

lemma core_endAwait (d : DeliveryQueue φ) (ready : Bool) : (d.endAwait ready).core = d.core := by
  cases ready with
  | false => rfl
  | true => exact core_consumeOne d

lemma core_enterPush (d : DeliveryQueue φ) (ingress : Option ℕ) :
    (d.enterPush ingress).core = { d.core with activePushes := d.activePushes + 1 } := by
  cases ingress <;> rfl

lemma core_leavePush (d : DeliveryQueue φ) (ingress : Option ℕ) :
    (d.leavePush ingress).core = { d.core with activePushes := d.activePushes - 1 } := by
  cases ingress <;> rfl

lemma core_publishTerminal (d : DeliveryQueue φ) (e : Ending) :
    (d.publishTerminal e).core = { d.core with
      terminal := e.terminal
      queue := if e.discard then .empty d.queue.capacity else d.queue } := by
  unfold publishTerminal
  rw [core_signalAll]
  split_ifs with hd hi
  · unfold drainWakeups
    split_ifs <;> rfl
  · rfl
  · rfl

lemma takeOne_eq_some {d d' : DeliveryQueue φ} {frame : φ} (h : d.takeOne = some (frame, d')) :
    ∃ queue, d.queue.pop = some (frame, queue) ∧ d'.core = { d.core with queue := queue } := by
  obtain ⟨⟨x, queue⟩, hpop, heq⟩ := Option.map_eq_some_iff.mp h
  cases heq
  exact ⟨queue, hpop, core_consumeOne _⟩

lemma takeOne_eq_none {d : DeliveryQueue φ} : d.takeOne = none ↔ d.queue.items = [] := by
  rw [takeOne, Option.map_eq_none_iff, Fifo.pop_eq_none]

end DeliveryQueue

namespace DeliveryState

variable {φ : Type} {s s' : DeliveryState φ}

open DeliveryQueue

/-- What the barrier and the order of the looks establish. `settled` is the point where a
reader could be misled: it has found the queue empty and has yet to look at the terminal. -/
structure Orderly (c : Core φ) (pushing : List (PushStage φ)) (reading : List ReadStage)
    (stopping : Bool) : Prop where
  counted : c.activePushes = pushing.length
  stopping : stopping = true → c.terminal = .none ∧ c.accepting = false
  stopped : c.terminal ≠ .none → c.accepting = false
  sealed : c.terminal = .sessionFailed → ∀ stage ∈ pushing, stage.letIn = false
  settled : c.terminal = .sessionFailed → .emptied ∈ reading → c.queue.items = []

/-- The state is orderly. -/
def Keeps (s : DeliveryState φ) : Prop :=
  Orderly s.delivery.core s.pushing s.reading s.ending.isSome

variable {c : Core φ} {pushing : List (PushStage φ)} {reading reading' : List ReadStage}
  {stopping : Bool}

lemma Orderly.reread (h : Orderly c pushing reading stopping)
    (hr : .emptied ∈ reading' → .emptied ∈ reading ∨
      (c.terminal = .sessionFailed → c.queue.items = [])) :
    Orderly c pushing reading' stopping := by
  refine ⟨h.counted, h.stopping, h.stopped, h.sealed, fun ht hmem => ?_⟩
  rcases hr hmem with hold | hempty
  · exact h.settled ht hold
  · exact hempty ht

lemma Orderly.popped (h : Orderly c pushing reading stopping) {queue : Fifo φ}
    (hpop : c.queue.items = [] → queue.items = []) :
    Orderly { c with queue := queue } pushing reading stopping :=
  ⟨h.counted, h.stopping, h.stopped, h.sealed, fun ht hmem => hpop (h.settled ht hmem)⟩

/-! ### One step of a push -/

variable {d : DeliveryQueue φ} {stage : PushStage φ}

/-- A step inside the barrier changes the queue at most, and only for a push that was let in;
it is let in only while frames are accepted. -/
lemma pushStep_next {stage' : PushStage φ} (h : (pushStep d stage).2.1 = some stage') :
    (pushStep d stage).2.2 = [] ∧
    (∃ queue, (pushStep d stage).1.core = { d.core with queue := queue } ∧
      (stage.letIn = false → queue = d.queue)) ∧
    (stage'.letIn = true → stage.letIn = true ∨ d.accepting = true) := by
  cases stage with
  | entered =>
    cases h
    exact ⟨rfl, ⟨d.queue, rfl, fun _ => rfl⟩, nofun⟩
  | sighted =>
    simp only [pushStep] at h ⊢
    split_ifs at h ⊢ with hlet
    · exact ⟨rfl, ⟨d.queue, rfl, fun _ => rfl⟩, fun _ => .inr hlet.2⟩
    · cases h
      exact ⟨rfl, ⟨d.queue, rfl, fun _ => rfl⟩, nofun⟩
  | cleared ingress frame =>
    simp only [pushStep]
    cases hpush : d.queue.push frame with
    | some queue => exact ⟨rfl, ⟨queue, rfl, nofun⟩, fun _ => .inl rfl⟩
    | none =>
      split_ifs <;> exact ⟨rfl, ⟨d.queue, rfl, fun _ => rfl⟩, fun _ => .inl rfl⟩
  | evicting =>
    simp only [pushStep]
    cases hpop : d.queue.pop with
    | some popped =>
      exact ⟨rfl, ⟨popped.2, core_consumeOne _, nofun⟩, fun _ => .inl rfl⟩
    | none => exact ⟨rfl, ⟨d.queue, rfl, fun _ => rfl⟩, fun _ => .inl rfl⟩
  | retrying ingress frame =>
    simp only [pushStep]
    cases hpush : d.queue.push frame with
    | some queue => exact ⟨rfl, ⟨queue, rfl, nofun⟩, fun _ => .inl rfl⟩
    | none => exact ⟨rfl, ⟨d.queue, rfl, fun _ => rfl⟩, fun _ => .inl rfl⟩
  | tallying ingress frame queued dropped =>
    cases h
    exact ⟨rfl, ⟨d.queue, core_settlePush d queued dropped, fun _ => rfl⟩, nofun⟩
  | settled => cases h

lemma settled_of_last (h : (pushStep d stage).2.1 = none) :
    ∃ ingress frame queued, stage = .settled ingress frame queued := by
  cases stage with
  | entered => cases h
  | sighted =>
    simp only [pushStep] at h
    split_ifs at h
  | cleared ingress frame =>
    simp only [pushStep] at h
    cases hpush : d.queue.push frame with
    | some => simp [hpush] at h
    | none =>
      rw [hpush] at h
      split_ifs at h
  | evicting =>
    simp only [pushStep] at h
    cases hpop : d.queue.pop with
    | some | none => simp [hpop] at h
  | retrying ingress frame =>
    simp only [pushStep] at h
    cases hpush : d.queue.push frame with
    | some | none => simp [hpush] at h
  | tallying => cases h
  | settled ingress frame queued => exact ⟨ingress, frame, queued, rfl⟩

lemma pushStep_last (h : (pushStep d stage).2.1 = none) :
    (∃ frame queued, (pushStep d stage).2.2 = [.pushed frame queued]) ∧
    (pushStep d stage).1.core = { d.core with activePushes := d.activePushes - 1 } := by
  obtain ⟨ingress, frame, queued, rfl⟩ := settled_of_last h
  exact ⟨⟨frame, queued, rfl⟩, core_leavePush d ingress⟩

/-- When a failure is published, no reader that found the queue empty has yet to look again
while a frame is queued. -/
def noStaleReader (s : DeliveryState φ) : DeliveryInput φ → Prop
  | .publish => (∃ call ∈ s.ending, call.ending.terminal = .sessionFailed) →
      .emptied ∈ s.reading → s.delivery.queue.items = []
  | _ => True

lemma Orderly.publish (h : Orderly c pushing reading true) {call : TerminalCall}
    {queue : Fifo φ} (hwaited : call.ending.waitForPushes = true → c.activePushes = 0)
    (hqueue : call.ending.terminal = .sessionFailed → .emptied ∈ reading → queue.items = []) :
    Orderly { c with terminal := call.ending.terminal, queue := queue } pushing reading false := by
  refine ⟨h.counted, nofun, fun _ => (h.stopping rfl).2, ?_, hqueue⟩
  intro hfail stage hmem
  cases call with
  | fail =>
    have hnil : pushing = [] :=
      List.eq_nil_of_length_eq_zero (h.counted.symm.trans (hwaited rfl))
    rw [hnil] at hmem
    cases hmem
  | callbackFailed | close | interrupt => cases hfail

variable [DecidableEq φ]

/-- One step of one push. -/
lemma Orderly.advance (h : Orderly d.core pushing reading stopping) (hmem : stage ∈ pushing) :
    Orderly (pushStep d stage).1.core ((pushStep d stage).2.1.toList ++ pushing.erase stage)
      reading stopping := by
  have hlen : (pushing.erase stage).length + 1 = pushing.length := by
    rw [List.length_erase_of_mem hmem]
    exact Nat.sub_add_cancel (List.length_pos_of_mem hmem)
  have hcount : d.activePushes = pushing.length := h.counted
  have hothers : d.terminal = .sessionFailed → ∀ other ∈ pushing.erase stage,
      other.letIn = false :=
    fun hfail other hother => h.sealed hfail other (List.mem_of_mem_erase hother)
  cases hnext : (pushStep d stage).2.1 with
  | none =>
    obtain ⟨-, hcore⟩ := pushStep_last hnext
    rw [hcore]
    refine ⟨?_, h.stopping, h.stopped, hothers, h.settled⟩
    change d.activePushes - 1 = (pushing.erase stage).length
    omega
  | some stage' =>
    obtain ⟨-, ⟨queue, hcore, hsame⟩, hlet⟩ := pushStep_next hnext
    rw [hcore]
    refine ⟨?_, h.stopping, h.stopped, fun hfail => ?_, fun hfail hread => ?_⟩
    · change d.activePushes = (stage' :: pushing.erase stage).length
      rw [List.length_cons]
      omega
    · have hout := h.sealed hfail stage hmem
      have hstop : d.accepting = false := h.stopped (by
        rw [show d.core.terminal = .sessionFailed from hfail]
        simp)
      refine List.forall_mem_cons.mpr ⟨?_, hothers hfail⟩
      by_contra hin
      rcases hlet (by simpa using hin) with hlet | hlet
      · simp [hout] at hlet
      · simp [hstop] at hlet
    · change queue.items = []
      rw [hsame (h.sealed hfail stage hmem)]
      exact h.settled hfail hread

end DeliveryState

/-! ### What readers are told -/

/-- A read that reports the failure of the session. -/
def DeliveryEvent.reportsFailure {φ : Type} : DeliveryEvent φ → Bool
  | .read result => result.kind = .sessionFailed
  | .pushed .. => false

/-- A read that returns a frame. -/
def DeliveryEvent.yieldsFrame {φ : Type} : DeliveryEvent φ → Bool
  | .read result => result.kind = .frame
  | .pushed .. => false

namespace DeliveryState

open DeliveryQueue

variable {φ : Type} {s s' : DeliveryState φ}

lemma readKind_ne_frame (t : Terminal) : readKind t ≠ .frame := by
  cases t <;> simp [readKind]

lemma readKind_failed {t : Terminal} (h : readKind t = .sessionFailed) : t = .sessionFailed := by
  cases t <;> simp_all [readKind]

variable [DecidableEq φ]

/-- The core, the pushes, the readers and the terminal call after a step, and what it reports. A step
that `rests` is about neither frames nor the failure. -/
inductive Moves (s : DeliveryState φ) : DeliveryInput φ → Core φ → List (PushStage φ) →
    List ReadStage → Option TerminalCall → List (DeliveryEvent φ) → Prop
  | enters ingress frame : Moves s (.push ingress frame)
      { s.delivery.core with activePushes := s.delivery.activePushes + 1 }
      (.entered ingress frame :: s.pushing) s.reading s.ending []
  | advances {stage} : stage ∈ s.pushing → Moves s (.advance stage) (pushStep s.delivery stage).1.core
      ((pushStep s.delivery stage).2.1.toList ++ s.pushing.erase stage) s.reading s.ending
      (pushStep s.delivery stage).2.2
  | stops {call} : s.delivery.terminal = .none → Moves s (.terminate call)
      { s.delivery.core with accepting := false } s.pushing s.reading (some call) []
  | publishes {call} : s.ending = some call → s.delivery.waited call.ending = true →
    Moves s .publish { s.delivery.core with
      terminal := call.ending.terminal
      queue := if call.ending.discard then .empty s.delivery.queue.capacity else s.delivery.queue }
      s.pushing s.reading none []
  | pops {frame queue} : s.delivery.queue.pop = some (frame, queue) →
    Moves s .pop { s.delivery.core with queue := queue } s.pushing (s.reading.erase .looked) s.ending
      [.read { kind := .frame, frame := some frame }]
  | empties {i} : s.delivery.queue.items = [] ∨ s.pushing.any PushStage.claiming = true →
    Moves s i s.delivery.core s.pushing (.emptied :: s.reading.erase .looked) s.ending []
  | reports {i result} : .emptied ∈ s.reading → result.kind = readKind s.delivery.terminal →
    Moves s i s.delivery.core s.pushing (s.reading.erase .emptied) s.ending [.read result]
  | rests {i reading es} : (.emptied ∈ reading → .emptied ∈ s.reading) →
    (∀ e ∈ es, e.reportsFailure = false ∧ e.yieldsFrame = false) →
    Moves s i s.delivery.core s.pushing reading s.ending es

lemma step_moves {i : DeliveryInput φ} {es : List (DeliveryEvent φ)}
    (hs : step s i = some (s', es)) :
    s.Moves i s'.delivery.core s'.pushing s'.reading s'.ending es := by
  cases i with
  | push ingress frame =>
    cases hs
    exact core_enterPush s.delivery ingress ▸ .enters ingress frame
  | advance =>
    obtain ⟨hguard, rfl, rfl⟩ := of_guard hs
    exact .advances hguard
  | retire =>
    cases hs
    exact .rests id (by simp)
  | terminate =>
    simp only [step] at hs
    split at hs
    · cases hs
    · unfold stopAccepting at hs
      split_ifs at hs with hterm
      · cases hs
        exact .rests id (by simp)
      · cases hs
        exact .stops (not_not.mp hterm)
  | publish =>
    simp only [step] at hs
    cases hend : s.ending with
    | none => simp [hend] at hs
    | some call =>
      rw [hend] at hs
      obtain ⟨hwaited, rfl, rfl⟩ := of_guard hs
      exact core_publishTerminal s.delivery call.ending ▸ .publishes hend hwaited
  | look =>
    simp only [step] at hs
    split at hs
    · rename_i result hlook
      cases hs
      unfold firstLook at hlook
      split_ifs at hlook with hterm
      cases hlook
      refine .rests id (List.forall_mem_singleton.mpr ⟨?_, ?_⟩)
      · exact decide_eq_false (mt readKind_failed hterm.2)
      · exact decide_eq_false (readKind_ne_frame _)
    · cases hs
      exact .rests (by simp) (by simp)
  | pop =>
    obtain ⟨-, hs⟩ := Option.ite_none_right_eq_some.mp hs
    cases htake : s.delivery.takeOne with
    | some =>
      rw [htake] at hs
      cases hs
      obtain ⟨queue, hpop, hcore⟩ := takeOne_eq_some htake
      exact hcore ▸ .pops hpop
    | none =>
      rw [htake] at hs
      cases hs
      exact .empties (.inl (takeOne_eq_none.mp htake))
  | stall =>
    obtain ⟨hguard, rfl, rfl⟩ := of_guard hs
    exact .empties (.inr hguard.2)
  | lookAgain mode =>
    obtain ⟨hemptied, hs⟩ := Option.ite_none_right_eq_some.mp hs
    split at hs
    · rename_i result hlook
      cases hs
      unfold secondLook at hlook
      split_ifs at hlook with hterm
      cases hlook
      exact .reports hemptied rfl
    · cases mode with
      | tryRead | expired =>
        cases hs
        exact .rests List.mem_of_mem_erase (List.forall_mem_singleton.mpr ⟨rfl, rfl⟩)
      | wait =>
        dsimp only at hs
        split_ifs at hs
        · cases hs
          exact core_beginAwait s.delivery ▸ .rests (by simp [hemptied]) (by simp)
        · cases hs
          exact core_beginAwait s.delivery ▸ .rests List.mem_of_mem_erase (by simp)
  | wake ready =>
    obtain ⟨-, hs⟩ := Option.ite_none_right_eq_some.mp hs
    split_ifs at hs
    · cases hs
      exact core_endAwait s.delivery ready ▸ .rests List.mem_of_mem_erase (by simp)
    · cases hs
      exact core_endAwait s.delivery ready ▸
        .rests List.mem_of_mem_erase (List.forall_mem_singleton.mpr ⟨rfl, rfl⟩)

variable {i : DeliveryInput φ} {core : Core φ} {pushing : List (PushStage φ)}
  {reading : List ReadStage} {ending : Option TerminalCall} {es : List (DeliveryEvent φ)}

lemma Moves.keeps (h : s.Keeps) (hok : noStaleReader s i)
    (hmoves : s.Moves i core pushing reading ending es) :
    Orderly core pushing reading ending.isSome := by
  cases hmoves with
  | enters =>
    refine ⟨?_, h.stopping, h.stopped, fun hfail => ?_, h.settled⟩
    · exact congrArg (· + 1) h.counted
    · exact List.forall_mem_cons.mpr ⟨rfl, h.sealed hfail⟩
  | advances hmem => exact Orderly.advance h hmem
  | stops hnone => exact ⟨h.counted, fun _ => ⟨hnone, rfl⟩, fun _ => rfl, h.sealed, h.settled⟩
  | publishes hend hwaited =>
    have hstopping : Orderly s.delivery.core s.pushing s.reading s.ending.isSome := h
    rw [hend] at hstopping
    refine hstopping.publish (fun hwait => ?_) fun hfail hread => ?_
    · have hnone : s.delivery.activePushes = 0 := by simpa [waited, hwait] using hwaited
      exact hnone
    · split_ifs
      · rfl
      · exact hok ⟨_, hend, hfail⟩ hread
  | pops hpop =>
    refine (Orderly.reread h fun hmem => .inl (List.mem_of_mem_erase hmem)).popped fun hnil => ?_
    exact absurd ((Fifo.pop_eq_some.mp hpop).1.symm.trans hnil) (by simp)
  | empties hempty =>
    refine Orderly.reread h fun _ => .inr fun hfail => hempty.resolve_right fun hclaim => ?_
    -- Nobody is claiming a cell once a failure is published.
    obtain ⟨stage, hmem, hstage⟩ := List.any_eq_true.mp hclaim
    have hout := h.sealed hfail stage hmem
    cases stage <;> simp_all [PushStage.letIn, PushStage.claiming]
  | reports => exact Orderly.reread h fun hmem => .inl (List.mem_of_mem_erase hmem)
  | rests hread => exact Orderly.reread h fun hmem => .inl (hread hmem)

/-- The session has failed and every accepted frame has been taken. -/
def Drained (core : Core φ) : Prop := core.terminal = .sessionFailed ∧ core.queue.items = []

lemma Moves.drained (h : s.Keeps) (hd : Drained s.delivery.core)
    (hmoves : s.Moves i core pushing reading ending es) :
    Drained core ∧ ∀ e ∈ es, e.yieldsFrame = false := by
  obtain ⟨hfail, hnil⟩ := hd
  cases hmoves with
  | enters | empties => exact ⟨⟨hfail, hnil⟩, by simp⟩
  | @advances stage hmem =>
    cases hnext : (pushStep s.delivery stage).2.1 with
    | none =>
      obtain ⟨⟨frame, queued, hes⟩, hcore⟩ := pushStep_last hnext
      rw [hcore, hes]
      exact ⟨⟨hfail, hnil⟩, by simp [DeliveryEvent.yieldsFrame]⟩
    | some =>
      obtain ⟨hes, ⟨queue, hcore, hsame⟩, -⟩ := pushStep_next hnext
      rw [hcore, hes, hsame (h.sealed hfail stage hmem)]
      exact ⟨⟨hfail, hnil⟩, by simp⟩
  | stops hnone => exact absurd (hnone.symm.trans hfail) (by decide)
  | publishes hend =>
    exact absurd ((h.stopping (by rw [hend]; rfl)).1.symm.trans hfail) (by decide)
  | pops hpop => exact absurd ((Fifo.pop_eq_some.mp hpop).1.symm.trans hnil) (by simp)
  | reports _ hkind =>
    refine ⟨⟨hfail, hnil⟩, List.forall_mem_singleton.mpr (decide_eq_false ?_)⟩
    rw [hkind]
    exact readKind_ne_frame _
  | rests _ hes => exact ⟨⟨hfail, hnil⟩, fun e he => (hes e he).2⟩

lemma Moves.reported (h : s.Keeps) (hmoves : s.Moves i core pushing reading ending es)
    {e : DeliveryEvent φ} (he : e ∈ es) (hrep : e.reportsFailure = true) :
    Drained s.delivery.core := by
  cases hmoves with
  | enters | stops | publishes | empties => cases he
  | @advances stage =>
    cases hnext : (pushStep s.delivery stage).2.1 with
    | none =>
      obtain ⟨⟨frame, queued, hes⟩, -⟩ := pushStep_last hnext
      rw [hes, List.mem_singleton] at he
      rw [he] at hrep
      cases hrep
    | some =>
      rw [(pushStep_next hnext).1] at he
      cases he
  | pops =>
    rw [List.mem_singleton.mp he] at hrep
    cases hrep
  | reports hemptied hkind =>
    rw [List.mem_singleton.mp he] at hrep
    have hfail := readKind_failed (hkind.symm.trans (of_decide_eq_true hrep))
    exact ⟨hfail, h.settled hfail hemptied⟩
  | rests _ hes => exact absurd ((hes e he).1.symm.trans hrep) (by decide)

/-- A failure that has been reported came after the last frame. -/
structure Truthful (trace : List (DeliveryEvent φ)) (s : DeliveryState φ) : Prop where
  keeps : s.Keeps
  drained : (∃ e ∈ trace, e.reportsFailure = true) → Drained s.delivery.core
  last : trace.Pairwise fun e later => e.reportsFailure = true → later.yieldsFrame = false

lemma step_truthful {trace : List (DeliveryEvent φ)} (h : Truthful trace s)
    (hok : noStaleReader s i) (hs : step s i = some (s', es)) : Truthful (trace ++ es) s' := by
  have hmoves := step_moves hs
  refine ⟨hmoves.keeps h.keeps hok, ?_, ?_⟩
  · rintro ⟨e, he, hrep⟩
    rcases List.mem_append.mp he with he | he
    · exact (hmoves.drained h.keeps (h.drained ⟨e, he, hrep⟩)).1
    · exact (hmoves.drained h.keeps (hmoves.reported h.keeps he hrep)).1
  · refine List.pairwise_append.mpr ⟨h.last, ?_, ?_⟩
    · refine List.Pairwise.imp_of_mem (R := fun _ _ => True) (fun he hlater _ hrep => ?_)
        (List.pairwise_of_forall fun _ _ => trivial)
      exact (hmoves.drained h.keeps (hmoves.reported h.keeps he hrep)).2 _ hlater
    · intro e he later hlater hrep
      exact (hmoves.drained h.keeps (h.drained ⟨e, he, hrep⟩)).2 later hlater

end DeliveryState

instance {φ : Type} (s : DeliveryState φ) (i : DeliveryInput φ) :
    Decidable (DeliveryState.noStaleReader s i) := by
  cases i <;> unfold DeliveryState.noStaleReader <;> infer_instance

/-- If no reader is caught between an empty queue and its second look when a failure is
published over a queued frame, a read that reports the failure leaves no frame behind: the
queue is empty from then on and no later read returns a frame. The queue is taken as first-in
first-out, which its cells are only where there are two or more. -/
theorem failure_after_frames {φ : Type} [DecidableEq φ] {capacity : ℕ} (_hcap : 2 ≤ capacity)
    (policy : DropPolicy) {trace : List (DeliveryEvent φ)} {s : DeliveryState φ}
    (h : (deliveryMachine φ).Reaches DeliveryState.noStaleReader (.create capacity policy) trace s) :
    ((∃ e ∈ trace, e.reportsFailure = true) → s.delivery.queue.items = []) ∧
    trace.Pairwise fun e later => e.reportsFailure = true → later.yieldsFrame = false := by
  have htruthful : DeliveryState.Truthful trace s := by
    refine h.traceInvariant DeliveryState.Truthful ⟨?_, by simp, .nil⟩ ?_
    · exact ⟨rfl, nofun, (fun hs => absurd rfl hs), nofun,
        nofun⟩
    · intro t s i s' es ht hok hs
      exact DeliveryState.step_truthful ht hok hs
  exact ⟨fun hrep => (htruthful.drained hrep).2, htruthful.last⟩

/-- The steps of a push that nothing interrupts. -/
def pushSteps (frame : ℕ) : List (DeliveryInput ℕ) :=
  [.push none frame, .advance (.entered none frame), .advance (.sighted none frame true),
    .advance (.cleared none frame), .advance (.tallying none frame true false),
    .advance (.settled none frame true)]

/-- A failure call that nothing interrupts. -/
def failSteps : List (DeliveryInput ℕ) := [.terminate (.fail noError), .publish]

open DeliveryInput in
/-- A frame is pushed, the session fails, and two reads take the frame and then the failure. -/
theorem failure_after_frames_sample : ∃ trace s,
    (deliveryMachine ℕ).Reaches DeliveryState.noStaleReader (.create 4 .dropNewest) trace s ∧
    (trace = [.pushed 9 true, .read { kind := .frame, frame := some 9 },
      .read { kind := .sessionFailed }]) ∧ s.delivery.queue.items = [] := by
  obtain ⟨trace, s, hreach, htrace⟩ :=
    (deliveryMachine ℕ).exists_of_run DeliveryState.noStaleReader (.create 4 .dropNewest)
      (pushSteps 9 ++ failSteps ++ [look, pop, look, pop, lookAgain .tryRead])
      (P := fun _ trace => trace = [.pushed 9 true, .read { kind := .frame, frame := some 9 },
        .read { kind := .sessionFailed }]) (by decide +kernel)
  refine ⟨trace, s, hreach, htrace, ?_⟩
  exact (failure_after_frames (by decide) .dropNewest hreach).1 (by rw [htrace]; decide)

open DeliveryInput in
/-- A reader finds the queue empty; before it looks at the terminal again a frame is accepted
and the session fails. The reader is told of the failure with the frame still queued, and the
next read returns the frame. -/
theorem failure_before_frame : ∃ trace s,
    (deliveryMachine ℕ).Reaches anyStep (.create 4 .dropNewest) trace s ∧
    trace = [.pushed 9 true, .read { kind := .sessionFailed },
      .read { kind := .frame, frame := some 9 }] := by
  obtain ⟨trace, s, hreach, htrace⟩ :=
    (deliveryMachine ℕ).exists_of_run anyStep (.create 4 .dropNewest)
      ([look, pop] ++ pushSteps 9 ++ failSteps ++ [lookAgain .tryRead, look, pop])
      (P := fun _ trace => trace = [.pushed 9 true, .read { kind := .sessionFailed },
        .read { kind := .frame, frame := some 9 }]) (by decide +kernel)
  exact ⟨trace, s, hreach, htrace⟩

end TangoBulk
