import TangoBulk.SubscriberSafety

/-! The life of a receive engine up to the end of its ring: the loop, the waits of `quiesce`, the
destructor and the quarantine. The ring is unmapped by whoever drops the last hold on the arena. -/
namespace TangoBulk

open Transition

/-! ### Started receives -/

section Receives

variable {e e' : SubscriberEngine} {i : SubscriberInput} {es : List SubscriberEvent}
  {pending : ℕ → Bool} {inflight k : ℕ} {closing : Bool}

/-- What a step does to the started receives, to their count and to `closing_`. -/
inductive Receives (e : SubscriberEngine) : (ℕ → Bool) → ℕ → Bool → Prop
  | same {closing : Bool} (kept : e.closing = true → closing = true) :
      Receives e e.pending e.rndvInflight closing
  | starts (k : ℕ) (accepting : e.closing = false) (vacant : (e.slots k).occupied = false) :
      Receives e (Function.update e.pending k true) (e.rndvInflight + 1) e.closing
  | retires (k : ℕ) (started : e.pending k = true) :
      Receives e (Function.update e.pending k false) (e.rndvInflight - 1) e.closing

lemma receives_handleFrame (header : ByteString.Bytes) (length : ℕ) (arrival : Arrival) :
    Receives e (e.handleFrame header length arrival).1.pending
      (e.handleFrame header length arrival).1.rndvInflight
      (e.handleFrame header length arrival).1.closing := by
  have hsame : Receives e e.pending e.rndvInflight e.closing := .same id
  fun_cases SubscriberEngine.handleFrame e header length arrival
  case case5 hopen frame hdecode hstream hepoch =>
    fun_cases SubscriberEngine.handleSessionFrame e frame length arrival
    case case5 slotIndex hused =>
      rw [not_or, Bool.not_eq_true] at hused
      fun_cases SubscriberEngine.receive e frame slotIndex length arrival
      -- of all branches only a rendezvous that is left in progress starts a receive
      case case3 => exact .starts _ (by simpa using hopen) hused.1
      all_goals exact hsame
    all_goals exact hsame
  all_goals exact hsame

lemma subscriberStep_receives (hs : subscriberStep e i = some (e', es)) :
    Receives e e'.pending e'.rndvInflight e'.closing := by
  have hsame : Receives e e.pending e.rndvInflight e.closing := .same id
  cases i with
  | frame header length arrival =>
    obtain ⟨rfl, -⟩ := of_some_eq hs
    exact receives_handleFrame header length arrival
  | rndvComplete k success =>
    obtain ⟨hguard, rfl, -⟩ := of_guard hs
    cases success <;> exact .retires k hguard
  | drain =>
    simp only [subscriberStep, Option.ite_none_left_eq_some] at hs
    obtain ⟨popped, -, rfl, -⟩ := of_mapped hs.2
    split_ifs <;> exact hsame
  | quiesce =>
    cases hs
    exact .same fun _ => rfl
  | releaseView | sendCredit | creditFailed | probe | sendProbeAck =>
    grind [subscriberStep, SubscriberEngine.releaseView, SubscriberEngine.returnCredit,
      SubscriberEngine.sendPendingCredit, SubscriberEngine.onCreditFailed, SubscriberEngine.onProbe,
      SubscriberEngine.sendPendingProbeAck, SubscriberEngine.bump]

/-- As many receives are started as are counted. -/
def TransferCount (pending : ℕ → Bool) (inflight : ℕ) : Prop :=
  ∃ started : Finset ℕ, started.card = inflight ∧ ∀ k, k ∈ started ↔ pending k = true

lemma TransferCount.none_of_zero (h : TransferCount pending 0) : pending k = false := by
  obtain ⟨started, hcard, hmem⟩ := h
  rw [← Bool.not_eq_true, ← hmem, Finset.card_eq_zero.mp hcard]
  exact Finset.notMem_empty k

lemma Receives.counted (h : Receives e pending inflight closing) (hacc : e.ring.Accounted)
    (hcount : TransferCount e.pending e.rndvInflight) : TransferCount pending inflight := by
  obtain ⟨started, hcard, hmem⟩ := hcount
  cases h with
  | same => exact ⟨started, hcard, hmem⟩
  | starts k _ vacant =>
    have hfresh : k ∉ started := by
      rw [hmem, Bool.not_eq_true]
      exact (hacc.vacant vacant).1
    refine ⟨insert k started, by rw [Finset.card_insert_of_notMem hfresh, hcard], fun j => ?_⟩
    by_cases hj : j = k <;> simp [hj, hmem]
  | retires k hstarted =>
    refine ⟨started.erase k, ?_, fun j => ?_⟩
    · rw [Finset.card_erase_of_mem ((hmem k).mpr hstarted), hcard]
    · by_cases hj : j = k <;> simp [hj, hmem]

/-- An engine that has begun to close only retires receives. -/
lemma Receives.shrinks (h : Receives e pending inflight closing) (hclosing : e.closing = true) :
    closing = true ∧ inflight ≤ e.rndvInflight ∧ ∀ k, pending k = true → e.pending k = true := by
  cases h with
  | same kept => exact ⟨kept hclosing, le_rfl, fun _ => id⟩
  | starts k accepting => exact absurd (accepting.symm.trans hclosing) (by decide)
  | retires k => exact ⟨hclosing, Nat.sub_le _ _, by grind⟩

lemma not_wrote_of_closing (hclosing : e.closing = true) (hs : subscriberStep e i = some (e', es))
    (n : ℕ) : .wrote k n ∉ es := by
  cases i <;> grind [subscriberStep, SubscriberEngine.handleFrame, SubscriberEngine.onRndvComplete,
    SubscriberEngine.commit]

end Receives

/-! ### The life of an engine -/

/-- Where the worker's thread is: in `engine_loop`, in a wait of `quiesce` (for the receives, for the
cancelled receives, for the endpoint, for the flush), past `quiesce` or past the destructor. -/
inductive EngineStage
  | looping | landing | cancelled | closing | flushing
  | quiesced (proved : Bool)
  | destroyed
  deriving DecidableEq

/-- Views are released at any time. Everything else is done by the worker's thread, in its loop or
in a callback of `ucp_worker_progress`, which the waits call as well. -/
def EngineStage.admits : EngineStage → SubscriberInput → Bool
  | _, .releaseView _ => true
  | _, .quiesce | .quiesced _, _ | .destroyed, _ => false
  | _, _ => true

/-- `quarantined` says that the holder that is never freed was given the worker and the arena. -/
structure EngineLife where
  engine : SubscriberEngine
  stage : EngineStage := .looping
  quarantined : Bool := false

inductive LifeInput
  | engine (input : SubscriberInput)
  | advance (answer : Bool)

namespace EngineLife

variable {l l' : EngineLife} {i : LifeInput} {es : List SubscriberEvent}

/-- The `use_count` of the arena: `arena_` and `sink_`, one for each lease, and the quarantine. -/
def useCount (l : EngineLife) : ℕ :=
  (if l.stage = .destroyed then 0 else 2) + l.engine.leases.length + l.quarantined.toNat

def workerDestroyed (l : EngineLife) : Bool := l.stage = .destroyed ∧ l.quarantined = false

/-- The thread goes on; it leaves the loop when it finds `running_` cleared by the destructor.
`answer` says of a wait for receives that its budget is spent, and of the last wait that the flush
succeeded. -/
def advance (l : EngineLife) (answer : Bool) : Option EngineLife :=
  match l.stage with
  | .looping => some { l with engine := { l.engine with closing := true }, stage := .landing }
  | .landing =>
    if l.engine.rndvInflight = 0 ∨ answer then some { l with stage := .cancelled } else none
  | .cancelled =>
    if l.engine.rndvInflight = 0 ∨ answer then some { l with stage := .closing } else none
  | .closing => some { l with stage := .flushing }
  | .flushing => some { l with stage := .quiesced (answer && l.engine.rndvInflight = 0) }
  | .quiesced proved => some { l with stage := .destroyed, quarantined := !proved }
  | .destroyed => none

def step (l : EngineLife) : LifeInput → Option (EngineLife × List SubscriberEvent)
  | .engine input =>
    if l.stage.admits input then
      (subscriberStep l.engine input).map fun next => ({ l with engine := next.1 }, next.2)
    else none
  | .advance answer => (l.advance answer).map (·, [])

lemma engine_step {input : SubscriberInput} (hs : l.step (.engine input) = some (l', es)) :
    ∃ e, subscriberStep l.engine input = some (e, es) ∧ l' = { l with engine := e } := by
  simp only [step, Option.ite_none_right_eq_some, Option.map_eq_some_iff] at hs
  obtain ⟨-, ⟨e, es'⟩, hstep, heq⟩ := hs
  cases heq
  exact ⟨e, hstep, rfl⟩

structure Orderly (l : EngineLife) : Prop where
  accounted : l.engine.ring.Accounted
  counted : TransferCount l.engine.pending l.engine.rndvInflight
  closed : l.stage ≠ .looping → l.engine.closing = true
  settled : l.stage = .quiesced true ∨ l.workerDestroyed = true → l.engine.rndvInflight = 0

lemma Orderly.advance {answer : Bool} (h : l.Orderly) (hnext : l.advance answer = some l') :
    l'.Orderly := by
  have hengine : l'.engine = l.engine ∨ l'.engine = { l.engine with closing := true } := by
    grind [EngineLife.advance]
  refine ⟨?_, ?_, ?_, ?_⟩
  · rcases hengine with heq | heq <;> rw [heq] <;> exact h.accounted
  · rcases hengine with heq | heq <;> rw [heq] <;> exact h.counted
  · grind [EngineLife.advance, h.closed]
  · grind [EngineLife.advance, workerDestroyed, h.settled]

lemma Orderly.step (h : l.Orderly) (hs : l.step i = some (l', es)) : l'.Orderly := by
  cases i with
  | engine =>
    obtain ⟨e, hstep, rfl⟩ := engine_step hs
    have hreceives := subscriberStep_receives hstep
    obtain ⟨a, hring, -⟩ :=
      subscriberStep_refines (Nat.pos_iff_ne_zero.mp h.accounted.depth_pos) hstep
    refine ⟨hring.accounted h.accounted, hreceives.counted h.accounted h.counted, ?_, ?_⟩
    · exact fun hstage => (hreceives.shrinks (h.closed hstage)).1
    · intro hdone
      have hstage : l.stage ≠ .looping := by grind [workerDestroyed]
      -- past the loop the count only falls, so it stays at zero
      have hle := (hreceives.shrinks (h.closed hstage)).2.1
      rw [h.settled hdone] at hle
      exact Nat.le_zero.mp hle
  | advance answer => exact h.advance (of_map_eq hs).1

/-- On the way from `l` to `l'` no receive was started and nothing was written. -/
structure Drains (l l' : EngineLife) (es : List SubscriberEvent) : Prop where
  past : l'.stage ≠ .looping
  pending : ∀ k, l'.engine.pending k = true → l.engine.pending k = true
  quiet : ∀ k n, .wrote k n ∉ es

lemma Orderly.drains (h : l.Orderly) (hstage : l.stage ≠ .looping)
    (hs : l.step i = some (l', es)) : l.Drains l' es := by
  have hclosing := h.closed hstage
  cases i with
  | engine =>
    obtain ⟨e, hstep, rfl⟩ := engine_step hs
    exact ⟨hstage, ((subscriberStep_receives hstep).shrinks hclosing).2.2,
      fun _ => not_wrote_of_closing hclosing hstep⟩
  | advance => constructor <;> grind [EngineLife.step, EngineLife.advance]

end EngineLife

def lifeMachine : Machine EngineLife LifeInput SubscriberEvent where
  step := EngineLife.step

/-- The engine of a session whose loop has just started. -/
def SubscriberSession.life (s : SubscriberSession) : EngineLife := { engine := s.start }

/-- What the ring of an engine can rely on. -/
structure RingOutlives (l : EngineLife) : Prop where
  /-- A slot the transport may still write to is mapped. -/
  mapped : ∀ k, l.engine.pending k = true → 0 < l.useCount
  /-- The worker is destroyed with no receive under way. -/
  worker : l.workerDestroyed = true → ∀ k, l.engine.pending k = false
  /-- Credits returned after the loop has stopped draining them still find room. -/
  sound : l.engine.overflowed = false
  /-- Nothing uses a ring that was unmapped. -/
  last : l.useCount = 0 → ∀ i, l.step i = none

lemma SubscriberSession.life_orderly (s : SubscriberSession) {trace : List SubscriberEvent}
    {l : EngineLife} (h : lifeMachine.Reaches anyStep s.life trace l) : l.Orderly := by
  refine h.invariant EngineLife.Orderly ?_ fun _ _ _ _ hl _ hs => hl.step hs
  exact ⟨s.start_accounted, ⟨∅, rfl, by simp [life, start, SubscriberEngine.activate]⟩,
    fun hstage => absurd rfl hstage, by simp [life, EngineLife.workerDestroyed]⟩

/-- The receive ring outlives every transfer into it and every view of it, whatever the peer, the
transport and the application do. -/
theorem ring_outlives_receives (s : SubscriberSession) {trace : List SubscriberEvent}
    {l : EngineLife} (h : lifeMachine.Reaches anyStep s.life trace l) : RingOutlives l := by
  have hl := s.life_orderly h
  have hworker : l.workerDestroyed = true → ∀ k, l.engine.pending k = false := by
    intro hdone k
    have hcounted := hl.counted
    rw [hl.settled (.inr hdone)] at hcounted
    exact hcounted.none_of_zero
  have hused : l.useCount = 0 → l.workerDestroyed = true ∧ l.engine.leases = [] := by
    grind [EngineLife.useCount, EngineLife.workerDestroyed, List.length_eq_zero_iff]
  refine ⟨fun k hk => ?_, hworker, hl.accounted.sound, fun hzero i => ?_⟩
  · by_contra hnone
    have hfree := hworker (hused (Nat.eq_zero_of_not_pos hnone)).1 k
    exact absurd (hk.symm.trans hfree) (by decide)
  · obtain ⟨hdone, hleases⟩ := hused hzero
    have hstage : l.stage = .destroyed := by grind [EngineLife.workerDestroyed]
    cases i with
    | engine input =>
      cases input <;> simp [EngineLife.step, EngineStage.admits, subscriberStep, hstage, hleases]
    | advance => simp [EngineLife.step, EngineLife.advance, hstage]

/-- The peer vanished in the middle of a rendezvous: the worker is quarantined, and the ring stays
mapped after the application has released its view. -/
theorem ring_outlives_receives_sample :
    ∃ trace l, lifeMachine.Reaches anyStep sampleSession.life trace l ∧
      (l.quarantined = true ∧ l.engine.leases = [] ∧ l.engine.pending 1 = true) ∧
      RingOutlives l := by
  obtain ⟨trace, l, hreach, hstate⟩ :=
    lifeMachine.exists_of_run anyStep sampleSession.life
      [.engine (.frame (sampleFrame 0) 4096 .eager),
        .engine (.frame (sampleFrame 1) 4096 (.rndv .inProgress)), .advance false,
        .advance true, .advance true, .advance false, .advance true, .advance false,
        .engine (.releaseView 0)]
      (P := fun l _ => l.quarantined = true ∧ l.engine.leases = [] ∧ l.engine.pending 1 = true)
      (by decide +kernel)
  exact ⟨trace, l, hreach, hstate, ring_outlives_receives sampleSession hreach⟩

/-- From the beginning of `quiesce` on nothing is written and no receive is started: a publisher that
goes on sending cannot prolong the waits. -/
theorem quiesce_only_retires (s : SubscriberSession) {trace trace' : List SubscriberEvent}
    {l l' : EngineLife} (h : lifeMachine.Reaches anyStep s.life trace l)
    (hstage : l.stage ≠ .looping) (h' : lifeMachine.Reaches anyStep l trace' l') :
    l.Drains l' trace' := by
  have hrun : l'.Orderly ∧ l.Drains l' trace' := by
    refine h'.traceInvariant (fun trace' l' => l'.Orderly ∧ l.Drains l' trace')
      ⟨s.life_orderly h, hstage, fun _ => id, by simp⟩ ?_
    rintro trace' m i m' es ⟨hm, hdrains⟩ - hs
    have hnext := hm.drains hdrains.past hs
    exact ⟨hm.step hs, hnext.past, fun k hk => hdrains.pending k (hnext.pending k hk),
      fun k n => by simp [hdrains.quiet k n, hnext.quiet k n]⟩
  exact hrun.2

/-- A frame arrives during the wait for a receive, which then fails. -/
theorem quiesce_only_retires_sample : ∃ l trace l',
    (l.stage = .landing ∧ l.engine.pending 0 = true ∧ l'.stage = .quiesced true) ∧
      EngineLife.Drains l l' trace := by
  obtain ⟨_, l, hreach, ⟨hstage, hpending⟩, hrun⟩ :=
    lifeMachine.exists_of_run anyStep sampleSession.life
      [.engine (.frame (sampleFrame 0) 4096 (.rndv .inProgress)), .advance false]
      (P := fun l _ => (l.stage = .landing ∧ l.engine.pending 0 = true) ∧
        ∃ r ∈ lifeMachine.run anyStep l [.engine (.frame (sampleFrame 1) 4096 .eager),
          .engine (.rndvComplete 0 false), .advance false, .advance false, .advance false,
          .advance true], r.1.stage = .quiesced true)
      (by decide +kernel)
  obtain ⟨trace, l', hreach', hproved⟩ :=
    lifeMachine.exists_of_run anyStep l _ (P := fun l' _ => l'.stage = .quiesced true) hrun
  exact ⟨l, trace, l', ⟨hstage, hpending, hproved⟩,
    quiesce_only_retires sampleSession hreach (by simp [hstage]) hreach'⟩

end TangoBulk
