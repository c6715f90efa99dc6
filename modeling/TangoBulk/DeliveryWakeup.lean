import TangoBulk.DeliveryFailure

/-! Blocked readers and the tokens that wake them. The calls of a delivery queue are single
steps here, except that a reader stays blocked in `poll` between its two halves of `await`. -/
namespace TangoBulk

open Transition

namespace DeliveryQueue

variable {φ : Type}

/-- The stages of a push one after the other; `fuel` bounds their number. -/
def runPush : ℕ → DeliveryQueue φ → PushStage φ → DeliveryQueue φ × List (DeliveryEvent φ)
  | 0, d, _ => (d, [])
  | fuel + 1, d, stage =>
    match DeliveryState.pushStep d stage with
    | (d', some stage', _) => runPush fuel d' stage'
    | (d', none, es) => (d', es)

/-- `push` with nothing in between. -/
def push (d : DeliveryQueue φ) (ingress : Option ℕ) (frame : φ) :
    DeliveryQueue φ × List (DeliveryEvent φ) :=
  runPush 7 (d.enterPush ingress) (.entered ingress frame)

/-- A terminal call with nothing in between. -/
def setTerminal (d : DeliveryQueue φ) (e : Ending) : DeliveryQueue φ :=
  match d.stopAccepting with
  | none => d
  | some stopped => stopped.publishTerminal e

def discard (d : DeliveryQueue φ) : DeliveryQueue φ :=
  { d with queue := .empty d.queue.capacity
           discarded := d.discarded + d.queue.items.length }.drainWakeups

/-- A read up to the point where it has found neither a frame nor a terminal. -/
def tryRead (d : DeliveryQueue φ) : Option (DeliveryRead φ × DeliveryQueue φ) :=
  match d.firstLook with
  | some result => some (result, d)
  | none =>
    match d.takeOne with
    | some taken => some ({ kind := .frame, frame := some taken.1 }, taken.2)
    | none => d.secondLook.map fun result => (result, d)

end DeliveryQueue

/-- `blocked` is the number of readers in `poll`. -/
structure WakeState (φ : Type) where
  delivery : DeliveryQueue φ
  blocked : ℕ := 0

inductive WakeInput (φ : Type)
  | push (ingress : Option ℕ) (frame : φ)
  | retire (ingress : ℕ)
  | read
  | tryRead
  | resume
  | expire
  | discard
  | terminate (call : TerminalCall)

namespace WakeState

variable {φ : Type}

def create (capacity : ℕ) (policy : DropPolicy) : WakeState φ where
  delivery := .create capacity policy

/-- One step. `read` is one turn of the loop of `read_result`, before the deadline. -/
def step (s : WakeState φ) : WakeInput φ → Option (WakeState φ × List (DeliveryEvent φ))
  | .push ingress frame =>
    let done := s.delivery.push ingress frame
    some ({ s with delivery := done.1 }, done.2)
  | .retire ingress =>
    some ({ s with delivery := { s.delivery with
      retired := Function.update s.delivery.retired ingress true } }, [])
  | .read =>
    match s.delivery.tryRead with
    | some done => some ({ s with delivery := done.2 }, [.read done.1])
    | none =>
      let waiting := s.delivery.beginAwait
      some ({ delivery := waiting.2, blocked := if waiting.1 then s.blocked + 1 else s.blocked }, [])
  | .tryRead =>
    match s.delivery.tryRead with
    | some done => some ({ s with delivery := done.2 }, [.read done.1])
    | none => some ({ s with delivery := s.delivery.armReader }, [.read {}])
  | .resume =>
    if 0 < s.blocked ∧ 0 < s.delivery.tokens then
      some ({ delivery := s.delivery.endAwait true, blocked := s.blocked - 1 }, [])
    else none
  | .expire =>
    if 0 < s.blocked then
      some ({ delivery := (s.delivery.endAwait false).armReader, blocked := s.blocked - 1 },
        [.read { kind := .timeout }])
    else none
  | .discard => some ({ s with delivery := s.delivery.discard }, [])
  | .terminate call => some ({ s with delivery := s.delivery.setTerminal call.ending }, [])

end WakeState

def wakeMachine (φ : Type) : Machine (WakeState φ) (WakeInput φ) (DeliveryEvent φ) :=
  ⟨WakeState.step⟩

/-- A token to spare: none of the blocked readers needs it. -/
def WakeState.spare {φ : Type} (s : WakeState φ) : Prop :=
  s.blocked = 0 ∨ s.blocked < s.delivery.tokens

instance {φ : Type} (s : WakeState φ) : Decidable s.spare :=
  inferInstanceAs (Decidable (_ ∨ _))

/-- No step takes a token that a blocked reader needs: a frame leaves the queue while a reader
is blocked only if there is a token to spare, a reader resumes only if the tokens cover all
blocked readers, and nothing is discarded while a reader is blocked. -/
def leavesTokens {φ : Type} (s : WakeState φ) : WakeInput φ → Prop
  | .push .. =>
    s.delivery.policy = .dropOldest → s.delivery.queue.capacity ≤ s.delivery.queue.items.length →
      s.spare
  | .tryRead => s.delivery.queue.items ≠ [] → s.spare
  | .read => (s.delivery.queue.items ≠ [] → s.spare) ∧ s.delivery.waitingReaders + 1 ≤ 2 ^ 64 - 2
  | .resume => s.blocked ≤ s.delivery.tokens
  | .discard => s.blocked = 0
  | _ => True

instance {φ : Type} [DecidableEq φ] (s : WakeState φ) (i : WakeInput φ) :
    Decidable (leavesTokens s i) := by
  cases i <;> unfold leavesTokens <;> infer_instance

/-! ### Tokens -/

namespace DeliveryQueue

variable {φ : Type} {d : DeliveryQueue φ} {blocked : ℕ}

/-- The tokens and the readers still to be signalled cover the blocked readers, or the counter
of the eventfd is full. -/
def Owed (d : DeliveryQueue φ) (blocked : ℕ) : Prop :=
  blocked ≤ d.waitingReaders + d.tokens ∨ 2 ^ 64 - 2 ≤ d.tokens

/-- What holds of a queue whose blocked readers will be woken. -/
structure Covered (d : DeliveryQueue φ) (blocked : ℕ) : Prop where
  hasFd : d.hasFd = true
  ready : 0 < blocked → d.queue.items ≠ [] ∨ d.terminal ≠ .none → 0 < d.tokens
  owed : d.terminal = .none → d.Owed blocked
  counted : d.waitingReaders ≤ 2 ^ 64 - 2
  stopped : d.terminal ≠ .none → d.accepting = false

lemma writeTokens_one (hfd : d.hasFd = true) :
    (d.writeTokens 1).hasFd = true ∧ (d.writeTokens 1).waitingReaders = d.waitingReaders ∧
      0 < (d.writeTokens 1).tokens ∧
      ((d.writeTokens 1).tokens = d.tokens + 1 ∨ 2 ^ 64 - 2 ≤ (d.writeTokens 1).tokens) := by
  unfold writeTokens
  split_ifs with hroom
  · exact ⟨hfd, rfl, Nat.succ_pos _, .inl rfl⟩
  · have hfull : 2 ^ 64 - 2 ≤ d.tokens := by
      rw [hfd] at hroom
      simp only [true_and] at hroom
      omega
    exact ⟨hfd, rfl, by omega, .inr hfull⟩

lemma Covered.signalOne (hfd : d.hasFd = true) (hterm : d.terminal = .none)
    (howed : d.Owed blocked) (hcount : d.waitingReaders ≤ 2 ^ 64 - 2) :
    d.signalOne.Covered blocked := by
  have hterm' : d.signalOne.terminal = .none :=
    (congrArg Core.terminal (core_signalOne d)).trans hterm
  suffices h : d.signalOne.hasFd = true ∧ d.signalOne.waitingReaders ≤ d.waitingReaders ∧
      (0 < blocked → 0 < d.signalOne.tokens) ∧ d.signalOne.Owed blocked by
    obtain ⟨hfd', hwait, htokens, howed'⟩ := h
    exact ⟨hfd', fun hb _ => htokens hb, fun _ => howed', hwait.trans hcount,
      fun h => absurd hterm' h⟩
  unfold Owed at howed ⊢
  unfold DeliveryQueue.signalOne
  split_ifs with hw ha
  · obtain ⟨hf, hwait, hpos, hadd⟩ := writeTokens_one
      (d := { d with waitingReaders := d.waitingReaders - 1 }) hfd
    dsimp only at hwait hadd
    exact ⟨hf, by omega, fun _ => hpos, by omega⟩
  · obtain ⟨hf, hwait, hpos, hadd⟩ := writeTokens_one (d := { d with armedReader := false }) hfd
    dsimp only at hwait hadd
    exact ⟨hf, by omega, fun _ => hpos, by omega⟩
  · exact ⟨hfd, le_rfl, by omega, howed⟩

lemma signalAll_wakes (hfd : d.hasFd = true) (hcount : d.waitingReaders ≤ 2 ^ 64 - 2) :
    d.signalAll.hasFd = true ∧ d.signalAll.waitingReaders = 0 ∧ 0 < d.signalAll.tokens := by
  unfold signalAll writeTokens
  split_ifs with hroom
  · exact ⟨hfd, rfl, by dsimp only; omega⟩
  · rw [hfd] at hroom
    simp only [true_and] at hroom
    exact ⟨hfd, rfl, by dsimp only; omega⟩

lemma drainWakeups_parts (d : DeliveryQueue φ) :
    d.drainWakeups.hasFd = d.hasFd ∧ d.drainWakeups.waitingReaders = d.waitingReaders := by
  unfold drainWakeups
  split_ifs <;> exact ⟨rfl, rfl⟩

lemma publishTerminal_wakes (hfd : d.hasFd = true) (hcount : d.waitingReaders ≤ 2 ^ 64 - 2)
    (e : Ending) :
    (d.publishTerminal e).hasFd = true ∧ (d.publishTerminal e).waitingReaders = 0 ∧
      0 < (d.publishTerminal e).tokens := by
  unfold publishTerminal
  apply signalAll_wakes
  · split_ifs
    · exact (drainWakeups_parts _).1.trans hfd
    all_goals exact hfd
  · split_ifs
    · exact (drainWakeups_parts _).2.trans_le hcount
    all_goals exact hcount

lemma Covered.consumeOne (h : d.Covered blocked) (hspare : blocked = 0 ∨ blocked < d.tokens)
    (queue : Fifo φ) : ({ d with queue := queue }.consumeOne).Covered blocked := by
  unfold DeliveryQueue.consumeOne
  rw [if_pos h.hasFd]
  refine ⟨h.hasFd, fun hb _ => ?_, fun _ => .inl ?_, h.counted, h.stopped⟩
  all_goals
    dsimp only
    omega

/-! ### Pushing -/

/-- A push that fills the queue up may evict, if there is a token to spare. -/
def MayEvict (d : DeliveryQueue φ) (blocked : ℕ) : Prop :=
  d.policy = .dropOldest → d.queue.capacity ≤ d.queue.items.length →
    blocked = 0 ∨ blocked < d.tokens

/-- What holds of the queue when a push has got to a stage. One that has enqueued its frame has
yet to signal. -/
def CoveredAt (d : DeliveryQueue φ) (blocked : ℕ) : PushStage φ → Prop
  | .entered .. | .sighted .. => d.Covered blocked ∧ d.MayEvict blocked
  | .cleared .. => d.Covered blocked ∧ d.MayEvict blocked ∧ d.terminal = .none
  | .evicting .. =>
    d.Covered blocked ∧ d.terminal = .none ∧ (blocked = 0 ∨ blocked < d.tokens)
  | .retrying .. => d.Covered blocked ∧ d.terminal = .none
  | .tallying _ _ queued _ =>
    if queued then
      d.hasFd = true ∧ d.terminal = .none ∧ d.Owed blocked ∧ d.waitingReaders ≤ 2 ^ 64 - 2
    else d.Covered blocked
  | .settled .. => d.Covered blocked

/-- How many steps a push has left. -/
def stepsLeft : PushStage φ → ℕ
  | .entered .. => 7
  | .sighted .. => 6
  | .cleared .. => 5
  | .evicting .. => 4
  | .retrying .. => 3
  | .tallying .. => 2
  | .settled .. => 1

lemma CoveredAt.step {stage stage' : PushStage φ} {d' : DeliveryQueue φ}
    {es : List (DeliveryEvent φ)} (h : d.CoveredAt blocked stage)
    (hs : DeliveryState.pushStep d stage = (d', some stage', es)) :
    d'.CoveredAt blocked stage' ∧ stepsLeft stage' < stepsLeft stage := by
  cases stage with
  | entered =>
    obtain ⟨rfl, rfl, -⟩ : d = d' ∧ _ = stage' ∧ _ := by
      simpa [DeliveryState.pushStep] using hs
    exact ⟨h, by simp [stepsLeft]⟩
  | sighted =>
    simp only [DeliveryState.pushStep] at hs
    split_ifs at hs with hlet
    · obtain ⟨rfl, rfl, -⟩ : d = d' ∧ _ = stage' ∧ _ := by simpa using hs
      refine ⟨⟨h.1, h.2, ?_⟩, by simp [stepsLeft]⟩
      by_contra hset
      rw [h.1.stopped hset] at hlet
      exact absurd hlet.2 (by simp)
    · obtain ⟨rfl, rfl, -⟩ : _ = d' ∧ _ = stage' ∧ _ := by simpa using hs
      exact ⟨⟨h.1.hasFd, h.1.ready, h.1.owed, h.1.counted, h.1.stopped⟩, by simp [stepsLeft]⟩
  | cleared =>
    obtain ⟨hcov, hevict, hterm⟩ := h
    simp only [DeliveryState.pushStep] at hs
    split at hs
    · obtain ⟨rfl, rfl, -⟩ : _ = d' ∧ _ = stage' ∧ _ := by simpa using hs
      exact ⟨⟨hcov.hasFd, hterm, hcov.owed hterm, hcov.counted⟩, by simp [stepsLeft]⟩
    · rename_i hfull
      split_ifs at hs with hpolicy
      · obtain ⟨rfl, rfl, -⟩ : _ = d' ∧ _ = stage' ∧ _ := by simpa using hs
        exact ⟨⟨hcov, hterm, hevict hpolicy (Fifo.push_eq_none.mp hfull)⟩, by simp [stepsLeft]⟩
      · obtain ⟨rfl, rfl, -⟩ : _ = d' ∧ _ = stage' ∧ _ := by simpa using hs
        exact ⟨hcov, by simp [stepsLeft]⟩
  | evicting =>
    obtain ⟨hcov, hterm, hspare⟩ := h
    simp only [DeliveryState.pushStep] at hs
    split at hs
    · rename_i popped hpop
      obtain ⟨rfl, rfl, -⟩ : _ = d' ∧ _ = stage' ∧ _ := by simpa using hs
      have hterm' : ({ d with queue := popped.2 }.consumeOne).terminal = .none :=
        (congrArg Core.terminal (core_consumeOne { d with queue := popped.2 })).trans hterm
      exact ⟨⟨hcov.consumeOne hspare popped.2, hterm'⟩, by simp [stepsLeft]⟩
    · obtain ⟨rfl, rfl, -⟩ : _ = d' ∧ _ = stage' ∧ _ := by simpa using hs
      exact ⟨hcov, by simp [stepsLeft]⟩
  | retrying =>
    obtain ⟨hcov, hterm⟩ := h
    simp only [DeliveryState.pushStep] at hs
    split at hs
    · obtain ⟨rfl, rfl, -⟩ : _ = d' ∧ _ = stage' ∧ _ := by simpa using hs
      exact ⟨⟨hcov.hasFd, hterm, hcov.owed hterm, hcov.counted⟩, by simp [stepsLeft]⟩
    · obtain ⟨rfl, rfl, -⟩ : _ = d' ∧ _ = stage' ∧ _ := by simpa using hs
      exact ⟨hcov, by simp [stepsLeft]⟩
  | tallying ingress frame queued dropped =>
    obtain ⟨rfl, rfl, -⟩ : _ = d' ∧ _ = stage' ∧ _ := by
      simpa [DeliveryState.pushStep] using hs
    refine ⟨?_, by simp [stepsLeft]⟩
    cases queued with
    | true =>
      obtain ⟨hfd, hterm, howed, hcount⟩ := h
      cases dropped with
      | true | false => exact Covered.signalOne hfd hterm howed hcount
    | false =>
      have hcov : d.Covered blocked := h
      cases dropped with
      | true => exact ⟨hcov.hasFd, hcov.ready, hcov.owed, hcov.counted, hcov.stopped⟩
      | false => exact hcov
  | settled => simp [DeliveryState.pushStep] at hs

lemma CoveredAt.last {stage : PushStage φ} {d' : DeliveryQueue φ} {es : List (DeliveryEvent φ)}
    (h : d.CoveredAt blocked stage) (hs : DeliveryState.pushStep d stage = (d', none, es)) :
    d'.Covered blocked := by
  obtain ⟨ingress, frame, queued, rfl⟩ := DeliveryState.settled_of_last (d := d) (by rw [hs])
  have hcov : d.Covered blocked := h
  obtain ⟨rfl, -⟩ : d.leavePush ingress = d' ∧ _ := by simpa [DeliveryState.pushStep] using hs
  cases ingress with
  | none | some => exact ⟨hcov.hasFd, hcov.ready, hcov.owed, hcov.counted, hcov.stopped⟩

lemma CoveredAt.run {stage : PushStage φ} {fuel : ℕ} (h : d.CoveredAt blocked stage)
    (hfuel : stepsLeft stage ≤ fuel) : (runPush fuel d stage).1.Covered blocked := by
  induction fuel generalizing d stage with
  | zero =>
    have : 0 < stepsLeft stage := by cases stage <;> simp [stepsLeft]
    omega
  | succ fuel ih =>
    rw [runPush]
    rcases hs : DeliveryState.pushStep d stage with ⟨d', next, es⟩
    cases next with
    | none => exact h.last hs
    | some =>
      obtain ⟨h', hless⟩ := h.step hs
      exact ih h' (by omega)

lemma Covered.push (h : d.Covered blocked) (hevict : d.MayEvict blocked) (ingress : Option ℕ)
    (frame : φ) : (d.push ingress frame).1.Covered blocked := by
  apply CoveredAt.run _ (by simp [stepsLeft])
  cases ingress with
  | none | some => exact ⟨⟨h.hasFd, h.ready, h.owed, h.counted, h.stopped⟩, hevict⟩

/-! ### The other calls -/

section Calls

variable (h : d.Covered blocked)
include h

lemma Covered.takeOne (hspare : d.queue.items ≠ [] → blocked = 0 ∨ blocked < d.tokens)
    {frame : φ} {d' : DeliveryQueue φ} (ht : d.takeOne = some (frame, d')) :
    d'.Covered blocked := by
  obtain ⟨⟨head, queue⟩, hpop, heq⟩ := Option.map_eq_some_iff.mp ht
  have hne : d.queue.items ≠ [] := by
    rw [(Fifo.pop_eq_some.mp hpop).1]
    simp
  cases heq
  have hcov := Covered.consumeOne (d := { d with armedReader := false })
    ⟨h.hasFd, h.ready, h.owed, h.counted, h.stopped⟩ (hspare hne) queue
  exact ⟨hcov.hasFd, hcov.ready, hcov.owed, hcov.counted, hcov.stopped⟩

lemma Covered.tryRead (hspare : d.queue.items ≠ [] → blocked = 0 ∨ blocked < d.tokens)
    {result : DeliveryRead φ} {d' : DeliveryQueue φ} (hr : d.tryRead = some (result, d')) :
    d'.Covered blocked := by
  unfold DeliveryQueue.tryRead at hr
  split at hr
  · cases hr
    exact h
  · split at hr
    · rename_i taken htake
      cases hr
      exact h.takeOne hspare htake
    · obtain ⟨read, -, -, rfl⟩ := of_mapped hr
      exact h

lemma Covered.beginAwait (hempty : d.queue.items = []) (hterm : d.terminal = .none)
    (hroom : d.waitingReaders + 1 ≤ 2 ^ 64 - 2) :
    d.beginAwait.1 = true ∧ d.beginAwait.2.Covered (blocked + 1) := by
  have howed := h.owed hterm
  unfold DeliveryQueue.beginAwait
  rw [if_neg (by simp [hempty, hterm])]
  refine ⟨rfl, h.hasFd, fun _ hready => ?_, fun _ => ?_, hroom, fun hset => absurd hterm hset⟩
  · simp [hempty, hterm] at hready
  · unfold Owed at howed ⊢
    dsimp only
    omega

lemma Covered.resume (hle : blocked ≤ d.tokens) : (d.endAwait true).Covered (blocked - 1) := by
  have hcount := h.counted
  unfold DeliveryQueue.endAwait DeliveryQueue.consumeOne DeliveryQueue.removeWaiter
  rw [if_pos rfl, if_pos h.hasFd]
  refine ⟨h.hasFd, fun hb _ => ?_, fun _ => .inl ?_, ?_, h.stopped⟩
  all_goals
    dsimp only
    omega

lemma Covered.expire : (d.endAwait false).armReader.Covered (blocked - 1) := by
  have hcount := h.counted
  refine ⟨h.hasFd, fun hb => h.ready (by omega), fun hterm => ?_, ?_, h.stopped⟩
  · have howed := h.owed hterm
    unfold Owed at howed ⊢
    simp only [DeliveryQueue.endAwait, DeliveryQueue.removeWaiter, DeliveryQueue.armReader]
    simp only [Bool.false_eq_true, if_false]
    omega
  · simp only [DeliveryQueue.endAwait, DeliveryQueue.removeWaiter, DeliveryQueue.armReader]
    simp only [Bool.false_eq_true, if_false]
    omega

lemma Covered.discard (hnone : blocked = 0) : d.discard.Covered blocked := by
  unfold DeliveryQueue.discard DeliveryQueue.drainWakeups
  rw [if_pos h.hasFd]
  exact ⟨h.hasFd, fun hb => by omega, fun _ => .inl (by omega), h.counted, h.stopped⟩

lemma Covered.setTerminal (e : Ending) (hset : e.terminal ≠ .none) :
    (d.setTerminal e).Covered blocked := by
  unfold DeliveryQueue.setTerminal DeliveryQueue.stopAccepting
  split_ifs with hterm
  · exact h
  · have hcore := core_publishTerminal { d with accepting := false } e
    obtain ⟨hfd, hwait, htokens⟩ := publishTerminal_wakes (d := { d with accepting := false })
      h.hasFd h.counted e
    have hterm' := congrArg Core.terminal hcore
    have haccept := congrArg Core.accepting hcore
    exact ⟨hfd, fun _ _ => htokens, fun hnone => absurd (hterm'.symm.trans hnone) hset,
      hwait.trans_le (Nat.zero_le _), fun _ => haccept⟩

end Calls

lemma tryRead_eq_none (h : d.tryRead = none) : d.queue.items = [] ∧ d.terminal = .none := by
  unfold DeliveryQueue.tryRead at h
  split at h
  · cases h
  · split at h
    · cases h
    · rename_i htake
      refine ⟨takeOne_eq_none.mp htake, ?_⟩
      by_contra hset
      simp [secondLook, hset] at h

end DeliveryQueue

lemma TerminalCall.ending_terminal (call : TerminalCall) : call.ending.terminal ≠ .none := by
  cases call <;> simp [ending, Ending.fail, Ending.callbackFailed, Ending.close, Ending.interrupt]

namespace WakeState

variable {φ : Type} {s s' : WakeState φ}

lemma step_covered {i : WakeInput φ} {es : List (DeliveryEvent φ)}
    (h : s.delivery.Covered s.blocked) (hok : leavesTokens s i)
    (hs : s.step i = some (s', es)) : s'.delivery.Covered s'.blocked := by
  cases i with
  | push ingress frame =>
    cases hs
    exact h.push hok ingress frame
  | retire =>
    cases hs
    exact ⟨h.hasFd, h.ready, h.owed, h.counted, h.stopped⟩
  | read =>
    simp only [step] at hs
    cases hread : s.delivery.tryRead with
    | some =>
      rw [hread] at hs
      cases hs
      exact h.tryRead hok.1 hread
    | none =>
      rw [hread] at hs
      cases hs
      obtain ⟨hempty, hterm⟩ := DeliveryQueue.tryRead_eq_none hread
      obtain ⟨hblocks, hcov⟩ := h.beginAwait hempty hterm hok.2
      simpa only [hblocks, if_true] using hcov
  | tryRead =>
    simp only [step] at hs
    cases hread : s.delivery.tryRead with
    | some =>
      rw [hread] at hs
      cases hs
      exact h.tryRead hok hread
    | none =>
      rw [hread] at hs
      cases hs
      exact ⟨h.hasFd, h.ready, h.owed, h.counted, h.stopped⟩
  | resume =>
    obtain ⟨-, rfl, -⟩ := of_guard hs
    exact h.resume hok
  | expire =>
    obtain ⟨-, rfl, -⟩ := of_guard hs
    exact h.expire
  | discard =>
    cases hs
    exact h.discard hok
  | terminate call =>
    cases hs
    exact h.setTerminal call.ending call.ending_terminal

lemma reach_covered {capacity : ℕ} {policy : DropPolicy} {t : List (DeliveryEvent φ)}
    (h : (wakeMachine φ).Reaches leavesTokens (create capacity policy) t s) :
    s.delivery.Covered s.blocked := by
  refine h.invariant (fun s => s.delivery.Covered s.blocked) ?_ ?_
  · exact ⟨rfl, fun hb => absurd hb (Nat.lt_irrefl 0), fun _ => .inl (Nat.zero_le _), Nat.zero_le _,
      fun hset => absurd rfl hset⟩
  · intro s i s' es hcov hok hs
    exact step_covered hcov hok hs

end WakeState

/-- As long as no step takes a token that a blocked reader needs, no reader stays asleep over a
frame or a terminal. The queue is taken as first-in first-out, which its cells are only where there
are two or more. -/
theorem no_lost_wakeup {φ : Type} {capacity : ℕ} (_hcap : 2 ≤ capacity) {policy : DropPolicy}
    {t : List (DeliveryEvent φ)} {s : WakeState φ}
    (h : (wakeMachine φ).Reaches leavesTokens (.create capacity policy) t s)
    (hblocked : 0 < s.blocked)
    (hready : s.delivery.queue.items ≠ [] ∨ s.delivery.terminal ≠ .none) : 0 < s.delivery.tokens :=
  (WakeState.reach_covered h).ready hblocked hready

theorem no_lost_wakeup_sample : ∃ t s,
    (wakeMachine ℕ).Reaches leavesTokens (.create 2 .dropOldest) t s ∧
    s.blocked = 2 ∧ s.delivery.terminal ≠ .none ∧ 0 < s.delivery.tokens := by
  obtain ⟨t, s, hreach, hblocked, hterm⟩ := (wakeMachine ℕ).exists_of_run leavesTokens
    (.create 2 .dropOldest) [.read, .push none 1, .resume, .read, .read, .read, .terminate .close]
    (P := fun s _ => s.blocked = 2 ∧ s.delivery.terminal ≠ .none) (by decide +kernel)
  exact ⟨t, s, hreach, hblocked, hterm, no_lost_wakeup (by decide) hreach (by omega) (.inr hterm)⟩

/-- A reader blocks, a frame is pushed for it and another reader takes the frame and the token;
the next frame signals nobody. -/
theorem wakeup_lost : ∃ t s, (wakeMachine ℕ).Reaches anyStep (.create 2 .dropNewest) t s ∧
    0 < s.blocked ∧ s.delivery.queue.items ≠ [] ∧ s.delivery.tokens = 0 :=
  (wakeMachine ℕ).exists_of_run anyStep (.create 2 .dropNewest)
    [.read, .push none 1, .tryRead, .push none 2] (by decide +kernel)

end TangoBulk
