import TangoBulk.DeliveryWakeup

/-! The calls of a delivery queue, each run to its end before the next one begins, and what they
count. -/
namespace TangoBulk

open Transition

def DeliveryEvent.queued {φ : Type} : DeliveryEvent φ → Bool
  | .pushed _ queued => queued
  | .read _ => false

structure DeliveryStats where
  depth : ℕ
  capacity : ℕ
  taken : ℕ
  dropped : ℕ
  discarded : ℕ
  highWater : ℕ

namespace DeliveryQueue

variable {φ : Type}

def stats (d : DeliveryQueue φ) : DeliveryStats where
  depth := if d.terminal = .interrupted then 0 else d.queue.items.length
  capacity := d.queue.capacity
  taken := d.taken
  dropped := d.dropped
  discarded := d.discarded
  highWater := d.highWater

def tryReadResult (d : DeliveryQueue φ) : DeliveryRead φ × DeliveryQueue φ :=
  match d.tryRead with
  | some done => done
  | none => ({}, d.armReader)

/-- `read_result`; `polls` are the answers of `poll` before the deadline passes. -/
def readResult (d : DeliveryQueue φ) : List Bool → DeliveryRead φ × DeliveryQueue φ
  | [] =>
    match d.tryRead with
    | some done => done
    | none => ({ kind := .timeout }, d.armReader)
  | ready :: polls =>
    match d.tryRead with
    | some done => done
    | none =>
      let waiting := d.beginAwait
      if waiting.1 then
        let awake := waiting.2.endAwait ready
        if ready then awake.readResult polls else ({ kind := .timeout }, awake.armReader)
      else waiting.2.readResult polls

def tryTake (d : DeliveryQueue φ) : Option φ × DeliveryQueue φ :=
  match d.takeOne with
  | some taken => (some taken.1, taken.2)
  | none =>
    match d.armReader.takeOne with
    | some taken => (some taken.1, taken.2)
    | none => (none, d.armReader)

/-- `take`; `polls` are the answers of `poll` before the deadline passes. -/
def take (d : DeliveryQueue φ) : List Bool → Option φ × DeliveryQueue φ
  | [] =>
    match d.takeOne with
    | some taken => (some taken.1, taken.2)
    | none => (none, d)
  | ready :: polls =>
    match d.takeOne with
    | some taken => (some taken.1, taken.2)
    | none =>
      if d.terminal ≠ .none then (none, d)
      else
        let waiting := d.beginAwait
        if waiting.1 then
          let awake := waiting.2.endAwait ready
          if ready then awake.take polls else (none, awake)
        else waiting.2.take polls

/-- An ingress, if there is one, is told that it is not the current one any more. -/
def retire (d : DeliveryQueue φ) : Option ℕ → DeliveryQueue φ
  | none => d
  | some n => { d with retired := Function.update d.retired n true }

/-- Whether the wait for the pushes through a retired ingress is over. -/
def ingressWaited (d : DeliveryQueue φ) : Option ℕ → Bool
  | none => true
  | some n => d.ingressPushes n = 0

end DeliveryQueue

/-- A delivery queue with its ingresses, numbered in the order in which they are made. -/
structure DeliverySite (φ : Type) where
  delivery : DeliveryQueue φ
  currentIngress : Option ℕ := none
  made : ℕ := 0

inductive DeliveryCall (φ : Type)
  | push (frame : φ)
  | ingressPush (ingress : ℕ) (frame : φ)
  | tryReadResult
  | readResult (polls : List Bool)
  | tryTake
  | take (polls : List Bool)
  | discard
  | makeIngress
  | retireIngress
  | terminal (call : TerminalCall)

inductive DeliveryAnswer (φ : Type)
  | pushed (queued : Bool)
  | read (result : DeliveryRead φ)
  | took (frame : Option φ)
  | discarded (count : ℕ)
  | ingress (n : ℕ)
  | done
  deriving DecidableEq

namespace DeliverySite

variable {φ : Type}

/-- A queue for which the system gave an eventfd, or did not. -/
def create (capacity : ℕ) (policy : DropPolicy) (hasFd : Bool) : DeliverySite φ where
  delivery := { DeliveryQueue.create capacity policy with hasFd }

def pushFrom (s : DeliverySite φ) (ingress : Option ℕ) (frame : φ) :
    DeliverySite φ × List (DeliveryAnswer φ) :=
  let done := s.delivery.push ingress frame
  ({ s with delivery := done.1 }, done.2.map fun e => .pushed e.queued)

/-- Retire the current ingress, and wait for the pushes through it. -/
def retireIngress (s : DeliverySite φ) : Option (DeliverySite φ) :=
  if s.delivery.ingressWaited s.currentIngress then
    some { s with delivery := s.delivery.retire s.currentIngress, currentIngress := none }
  else none

def setTerminal (s : DeliverySite φ) (e : Ending) : Option (DeliverySite φ) :=
  match s.delivery.stopAccepting with
  | none => some s
  | some stopped =>
    if stopped.waited e then some { s with delivery := stopped.publishTerminal e } else none

def step (s : DeliverySite φ) : DeliveryCall φ → Option (DeliverySite φ × List (DeliveryAnswer φ))
  | .push frame => some (s.pushFrom none frame)
  | .ingressPush n frame => if n < s.made then some (s.pushFrom (some n) frame) else none
  | .tryReadResult =>
    let done := s.delivery.tryReadResult
    some ({ s with delivery := done.2 }, [.read done.1])
  | .readResult polls =>
    let done := s.delivery.readResult polls
    some ({ s with delivery := done.2 }, [.read done.1])
  | .tryTake =>
    let done := s.delivery.tryTake
    some ({ s with delivery := done.2 }, [.took done.1])
  | .take polls =>
    let done := s.delivery.take polls
    some ({ s with delivery := done.2 }, [.took done.1])
  | .discard =>
    some ({ s with delivery := s.delivery.discard },
      [.discarded s.delivery.queue.items.length])
  | .makeIngress => s.retireIngress.map fun retired =>
      ({ retired with currentIngress := some s.made, made := s.made + 1 }, [.ingress s.made])
  | .retireIngress => s.retireIngress.map fun retired => (retired, [.done])
  | .terminal call => (s.setTerminal call.ending).map fun ended => (ended, [.done])

end DeliverySite

def callMachine (φ : Type) : Machine (DeliverySite φ) (DeliveryCall φ) (DeliveryAnswer φ) :=
  ⟨DeliverySite.step⟩

/-! ### What a call changes -/

namespace DeliveryQueue

variable {φ : Type} {d d' : DeliveryQueue φ}

/-- All but the wakeups and the high-water mark. -/
structure Ledger (φ : Type) where
  queue : Fifo φ
  policy : DropPolicy
  activePushes : ℕ
  accepting : Bool
  terminal : Terminal
  terminalError : BulkError
  retired : ℕ → Bool
  ingressPushes : ℕ → ℕ
  taken : ℕ
  dropped : ℕ
  discarded : ℕ

def ledger (d : DeliveryQueue φ) : Ledger φ where
  queue := d.queue
  policy := d.policy
  activePushes := d.activePushes
  accepting := d.accepting
  terminal := d.terminal
  terminalError := d.terminalError
  retired := d.retired
  ingressPushes := d.ingressPushes
  taken := d.taken
  dropped := d.dropped
  discarded := d.discarded

lemma ledger_writeTokens (d : DeliveryQueue φ) (n : ℕ) : (d.writeTokens n).ledger = d.ledger := by
  unfold writeTokens
  split_ifs <;> rfl

lemma ledger_consumeOne (d : DeliveryQueue φ) : d.consumeOne.ledger = d.ledger := by
  unfold consumeOne
  split_ifs <;> rfl

lemma ledger_drainWakeups (d : DeliveryQueue φ) : d.drainWakeups.ledger = d.ledger := by
  unfold drainWakeups
  split_ifs <;> rfl

lemma ledger_signalOne (d : DeliveryQueue φ) : d.signalOne.ledger = d.ledger := by
  unfold signalOne
  split_ifs
  · exact ledger_writeTokens _ 1
  · exact ledger_writeTokens _ 1
  · rfl

lemma ledger_signalAll (d : DeliveryQueue φ) : d.signalAll.ledger = d.ledger :=
  ledger_writeTokens _ _

lemma ledger_beginAwait (d : DeliveryQueue φ) : d.beginAwait.2.ledger = d.ledger := by
  unfold beginAwait
  split_ifs <;> rfl

lemma ledger_endAwait (d : DeliveryQueue φ) (ready : Bool) :
    (d.endAwait ready).ledger = d.ledger := by
  cases ready with
  | false => rfl
  | true => exact ledger_consumeOne d

lemma ledger_takeOne {frame : φ} (h : d.takeOne = some (frame, d')) :
    ∃ queue, d.queue.pop = some (frame, queue) ∧
      d'.ledger = { d.ledger with queue := queue, taken := d.taken + 1 } := by
  obtain ⟨⟨x, queue⟩, hpop, rfl, rfl⟩ := of_mapped h
  refine ⟨queue, hpop, ?_⟩
  unfold consumeOne
  split_ifs <;> rfl

lemma ledger_settlePush (d : DeliveryQueue φ) (queued dropped : Bool) :
    (d.settlePush queued dropped).ledger =
      { d.ledger with dropped := if dropped then d.dropped + 1 else d.dropped } := by
  unfold settlePush
  cases queued with
  | false => cases dropped <;> rfl
  | true =>
    cases dropped with
    | false | true => exact ledger_signalOne _

lemma ledger_leavePush {ingress : Option ℕ} {queue : Fifo φ} {dropped discarded : ℕ}
    (h : d'.ledger = { (d.enterPush ingress).ledger with
      queue := queue, dropped := dropped, discarded := discarded }) :
    (d'.leavePush ingress).ledger = { d.ledger with
      queue := queue, dropped := dropped, discarded := discarded } := by
  cases ingress with
  | none =>
    have hleft : (d'.leavePush none).ledger =
        { d'.ledger with activePushes := d'.ledger.activePushes - 1 } := rfl
    rw [hleft, h]
    rfl
  | some n =>
    have hleft : (d'.leavePush (some n)).ledger =
        { d'.ledger with
          activePushes := d'.ledger.activePushes - 1
          ingressPushes :=
            Function.update d'.ledger.ingressPushes n (d'.ledger.ingressPushes n - 1) } := rfl
    rw [hleft, h]
    simp [ledger, enterPush]

section Push

variable {ingress : Option ℕ} {frame : φ} {queue : Fifo φ}

@[simp] lemma current_enterPush (d : DeliveryQueue φ) (ingress : Option ℕ) :
    (d.enterPush ingress).current ingress = d.current ingress := by
  cases ingress <;> rfl

@[simp] lemma accepting_enterPush (d : DeliveryQueue φ) (ingress : Option ℕ) :
    (d.enterPush ingress).accepting = d.accepting := by
  cases ingress <;> rfl

@[simp] lemma queue_enterPush (d : DeliveryQueue φ) (ingress : Option ℕ) :
    (d.enterPush ingress).queue = d.queue := by
  cases ingress <;> rfl

@[simp] lemma policy_enterPush (d : DeliveryQueue φ) (ingress : Option ℕ) :
    (d.enterPush ingress).policy = d.policy := by
  cases ingress <;> rfl

lemma push_refused (frame : φ) (h : ¬ (d.current ingress ∧ d.accepting)) :
    (d.push ingress frame).1.ledger = { d.ledger with discarded := d.discarded + 1 } ∧
      (d.push ingress frame).2 = [.pushed frame false] := by
  have hpush : d.push ingress frame =
      ({ d.enterPush ingress with
          discarded := (d.enterPush ingress).discarded + 1 }.leavePush ingress,
        [.pushed frame false]) := by
    simp [push, runPush, DeliveryState.pushStep, h]
  rw [hpush]
  refine ⟨ledger_leavePush ?_, rfl⟩
  cases ingress <;> rfl

lemma push_tallied (d' : DeliveryQueue φ) (h : d.current ingress ∧ d.accepting)
    (queued dropped : Bool)
    (hattempts : runPush 5 (d.enterPush ingress) (.cleared ingress frame) =
      runPush 2 d' (.tallying ingress frame queued dropped))
    (hledger : d'.ledger = { (d.enterPush ingress).ledger with queue := queue }) :
    (d.push ingress frame).1.ledger = { d.ledger with
        queue := queue, dropped := if dropped then d.dropped + 1 else d.dropped } ∧
      (d.push ingress frame).2 = [.pushed frame queued] := by
  have hpush : d.push ingress frame =
      ((d'.settlePush queued dropped).leavePush ingress, [.pushed frame queued]) := by
    have hin : d.push ingress frame =
        runPush 5 (d.enterPush ingress) (.cleared ingress frame) := by
      simp [push, runPush, DeliveryState.pushStep, h]
    rw [hin, hattempts]
    rfl
  rw [hpush]
  refine ⟨ledger_leavePush ?_, rfl⟩
  have hdropped : d'.dropped = d.dropped := by
    have hsame := congrArg Ledger.dropped hledger
    cases ingress <;> exact hsame
  rw [ledger_settlePush, hledger, hdropped]
  cases ingress <;> rfl

lemma push_fits (h : d.current ingress ∧ d.accepting) (hpush : d.queue.push frame = some queue) :
    (d.push ingress frame).1.ledger = { d.ledger with queue := queue } ∧
      (d.push ingress frame).2 = [.pushed frame true] := by
  refine push_tallied { d.enterPush ingress with queue := queue } h true false ?_ ?_
  · simp [runPush, DeliveryState.pushStep, hpush]
  · rfl

lemma push_dropsNewest (h : d.current ingress ∧ d.accepting)
    (hfull : d.queue.push frame = none) (hpolicy : d.policy ≠ .dropOldest) :
    (d.push ingress frame).1.ledger = { d.ledger with dropped := d.dropped + 1 } ∧
      (d.push ingress frame).2 = [.pushed frame false] := by
  refine push_tallied (d.enterPush ingress) h false true ?_ ?_
  · simp [runPush, DeliveryState.pushStep, hfull, hpolicy]
  · cases ingress <;> rfl

lemma push_dropsOldest (h : d.current ingress ∧ d.accepting)
    (hfull : d.queue.push frame = none) (hpolicy : d.policy = .dropOldest) {oldest : φ}
    {rest : Fifo φ} (hpop : d.queue.pop = some (oldest, rest))
    (hpush : rest.push frame = some queue) :
    (d.push ingress frame).1.ledger = { d.ledger with
        queue := queue, dropped := d.dropped + 1 } ∧
      (d.push ingress frame).2 = [.pushed frame true] := by
  have hclear : DeliveryState.pushStep (d.enterPush ingress) (.cleared ingress frame) =
      (d.enterPush ingress, some (.evicting ingress frame), []) := by
    simp [DeliveryState.pushStep, hfull, hpolicy]
  have hevict : DeliveryState.pushStep (d.enterPush ingress) (.evicting ingress frame) =
      ({ d.enterPush ingress with queue := rest }.consumeOne,
        some (.retrying ingress frame), []) := by
    simp [DeliveryState.pushStep, hpop]
  have hledger := ledger_consumeOne { d.enterPush ingress with queue := rest }
  generalize { d.enterPush ingress with queue := rest }.consumeOne = evicted at hevict hledger
  have hqueue : evicted.queue = rest := congrArg Ledger.queue hledger
  refine push_tallied { evicted with queue := queue } h true true ?_ ?_
  · simp only [runPush, hclear, hevict]
    simp only [DeliveryState.pushStep, hqueue, hpush]
  · change { evicted.ledger with queue := queue } = _
    rw [hledger]
    rfl

/-- How a push ends: refused, appended, dropped, or appended in place of the oldest frame. -/
inductive Ledger.Pushes (l : Ledger φ) (admitted : Bool) (frame : φ) : Bool → Ledger φ → Prop
  | refused (shut : admitted = false) :
      l.Pushes admitted frame false { l with discarded := l.discarded + 1 }
  | fits (queue : Fifo φ) (admits : admitted = true) (appended : l.queue.push frame = some queue) :
      l.Pushes admitted frame true { l with queue := queue }
  | newest (admits : admitted = true) (full : l.queue.push frame = none)
      (policy : l.policy ≠ .dropOldest) :
      l.Pushes admitted frame false { l with dropped := l.dropped + 1 }
  | oldest (first : φ) (rest queue : Fifo φ) (admits : admitted = true)
      (full : l.queue.push frame = none) (policy : l.policy = .dropOldest)
      (evicted : l.queue.pop = some (first, rest)) (appended : rest.push frame = some queue) :
      l.Pushes admitted frame true { l with queue := queue, dropped := l.dropped + 1 }

lemma push_pushes (hroom : 0 < d.queue.capacity) (ingress : Option ℕ) (frame : φ) :
    ∃ queued, (d.push ingress frame).2 = [.pushed frame queued] ∧
      d.ledger.Pushes (d.current ingress && d.accepting) frame queued
        (d.push ingress frame).1.ledger := by
  by_cases hin : d.current ingress ∧ d.accepting
  · have hadmitted : (d.current ingress && d.accepting) = true := by simpa using hin
    cases hpush : d.queue.push frame with
    | some queue =>
      obtain ⟨hledger, hevents⟩ := push_fits hin hpush
      exact ⟨true, hevents, hledger ▸ .fits queue hadmitted hpush⟩
    | none =>
      have hfull := Fifo.push_eq_none.mp hpush
      by_cases hpolicy : d.policy = .dropOldest
      · obtain ⟨first, rest, hpop⟩ : ∃ first rest, d.queue.pop = some (first, rest) := by
          cases hpop : d.queue.pop with
          | some popped => exact ⟨popped.1, popped.2, rfl⟩
          | none =>
            rw [Fifo.pop_eq_none.mp hpop, List.length_nil] at hfull
            omega
        obtain ⟨hitems, hcap⟩ := Fifo.pop_eq_some.mp hpop
        have hspace : rest.items.length < rest.capacity := by
          have hbound := d.queue.bounded
          rw [hitems, List.length_cons] at hbound
          omega
        obtain ⟨queue, happend⟩ : ∃ queue, rest.push frame = some queue := by
          simp [Fifo.push, hspace]
        obtain ⟨hledger, hevents⟩ := push_dropsOldest hin hpush hpolicy hpop happend
        exact ⟨true, hevents, hledger ▸ .oldest first rest queue hadmitted hpush hpolicy hpop happend⟩
      · obtain ⟨hledger, hevents⟩ := push_dropsNewest hin hpush hpolicy
        exact ⟨false, hevents, hledger ▸ .newest hadmitted hpush hpolicy⟩
  · obtain ⟨hledger, hevents⟩ := push_refused frame hin
    exact ⟨false, hevents, hledger ▸ .refused (by simpa using hin)⟩

end Push

/-! ### Reading -/

/-- How a read ends: at a terminal, with the oldest frame, or with nothing. -/
inductive Ledger.Reads (l : Ledger φ) (nothing : ReadKind) : DeliveryRead φ → Ledger φ → Prop
  | ended (set : l.terminal ≠ .none)
      (drained : l.terminal = .sessionFailed → l.queue.items = []) :
      l.Reads nothing
        { kind := readKind l.terminal
          error := if l.terminal = .sessionFailed ∨ l.terminal = .callbackFailed
            then l.terminalError else noError } l
  | frame (frame : φ) (queue : Fifo φ)
      (unbarred : l.terminal = .none ∨ l.terminal = .sessionFailed)
      (oldest : l.queue.pop = some (frame, queue)) :
      l.Reads nothing { kind := .frame, frame := some frame }
        { l with queue := queue, taken := l.taken + 1 }
  | nothing (empty : l.queue.items = []) (unset : l.terminal = .none) :
      l.Reads nothing { kind := nothing } l

/-- How a call that takes a frame without a look at the terminal ends. -/
inductive Ledger.Takes (l : Ledger φ) : Option φ → Ledger φ → Prop
  | frame (frame : φ) (queue : Fifo φ) (oldest : l.queue.pop = some (frame, queue)) :
      l.Takes (some frame) { l with queue := queue, taken := l.taken + 1 }
  | nothing (empty : l.queue.items = []) : l.Takes none l

lemma takes_of_takeOne {frame : φ} (h : d.takeOne = some (frame, d')) :
    d.ledger.Takes (some frame) d'.ledger := by
  obtain ⟨queue, hpop, hledger⟩ := ledger_takeOne h
  rw [hledger]
  exact .frame frame queue hpop

lemma reads_of_tryRead {result : DeliveryRead φ} (kind : ReadKind)
    (h : d.tryRead = some (result, d')) : d.ledger.Reads kind result d'.ledger := by
  unfold tryRead at h
  split at h
  case h_1 hlook =>
    cases h
    simp only [firstLook, Option.ite_none_right_eq_some] at hlook
    obtain ⟨⟨hset, hnot⟩, heq⟩ := hlook
    cases heq
    exact .ended hset fun hfailed => absurd hfailed hnot
  case h_2 hlook =>
    have hopen : d.terminal = .none ∨ d.terminal = .sessionFailed := by
      simpa [firstLook, or_iff_not_imp_left] using hlook
    split at h
    case h_1 taken htake =>
      cases h
      obtain ⟨queue, hpop, hledger⟩ := ledger_takeOne htake
      rw [hledger]
      exact .frame taken.1 queue hopen hpop
    case h_2 htake =>
      obtain ⟨read, hagain, rfl, rfl⟩ := of_mapped h
      simp only [secondLook, Option.ite_none_right_eq_some] at hagain
      obtain ⟨hset, hread⟩ := hagain
      cases hread
      exact .ended hset fun _ => takeOne_eq_none.mp htake

lemma reads_of_tryRead_none (kind : ReadKind) (h : d.tryRead = none) :
    d.ledger.Reads kind { kind } d.ledger := by
  obtain ⟨hempty, hunset⟩ := tryRead_eq_none h
  exact .nothing hempty hunset

lemma tryReadResult_reads (d : DeliveryQueue φ) :
    d.ledger.Reads .empty d.tryReadResult.1 d.tryReadResult.2.ledger := by
  unfold tryReadResult
  split
  case h_1 done hread => exact reads_of_tryRead .empty hread
  case h_2 hread => exact reads_of_tryRead_none .empty hread

lemma readResult_reads (d : DeliveryQueue φ) (polls : List Bool) :
    d.ledger.Reads .timeout (d.readResult polls).1 (d.readResult polls).2.ledger := by
  induction polls generalizing d with
  | nil =>
    unfold readResult
    split
    case h_1 done hread => exact reads_of_tryRead .timeout hread
    case h_2 hread => exact reads_of_tryRead_none .timeout hread
  | cons ready polls ih =>
    unfold readResult
    split
    case h_1 done hread => exact reads_of_tryRead .timeout hread
    case h_2 hread =>
      have hwaiting := ledger_beginAwait d
      have hawake := (ledger_endAwait d.beginAwait.2 ready).trans hwaiting
      dsimp only
      split_ifs
      · rw [← hawake]
        exact ih _
      · have hnothing := reads_of_tryRead_none .timeout hread
        rw [← hawake] at hnothing ⊢
        exact hnothing
      · rw [← hwaiting]
        exact ih _

lemma tryTake_takes (d : DeliveryQueue φ) : d.ledger.Takes d.tryTake.1 d.tryTake.2.ledger := by
  unfold tryTake
  split
  case h_1 taken htake => exact takes_of_takeOne htake
  case h_2 htake =>
    split
    case h_1 taken hagain => exact takes_of_takeOne hagain
    case h_2 hagain => exact .nothing (takeOne_eq_none.mp htake)

lemma take_takes (d : DeliveryQueue φ) (polls : List Bool) :
    d.ledger.Takes (d.take polls).1 (d.take polls).2.ledger := by
  induction polls generalizing d with
  | nil =>
    unfold take
    split
    case h_1 taken htake => exact takes_of_takeOne htake
    case h_2 htake => exact .nothing (takeOne_eq_none.mp htake)
  | cons ready polls ih =>
    unfold take
    split
    case h_1 taken htake => exact takes_of_takeOne htake
    case h_2 htake =>
      have hnothing : d.ledger.Takes none d.ledger := .nothing (takeOne_eq_none.mp htake)
      have hwaiting := ledger_beginAwait d
      have hawake := (ledger_endAwait d.beginAwait.2 ready).trans hwaiting
      dsimp only
      split_ifs
      · exact hnothing
      · rw [← hawake]
        exact ih _
      · rw [← hawake] at hnothing ⊢
        exact hnothing
      · rw [← hwaiting]
        exact ih _

/-! ### Ending -/

lemma ledger_discard (d : DeliveryQueue φ) :
    d.discard.ledger = { d.ledger with
      queue := .empty d.queue.capacity
      discarded := d.discarded + d.queue.items.length } := ledger_drainWakeups _

lemma ledger_publishTerminal (d : DeliveryQueue φ) (e : Ending) :
    (d.publishTerminal e).ledger = { d.ledger with
      queue := if e.discard then .empty d.queue.capacity else d.queue
      discarded := if e.discard ∨ e.terminal = .interrupted
        then d.discarded + d.queue.items.length else d.discarded
      terminal := e.terminal
      terminalError := e.error } := by
  unfold publishTerminal
  rw [ledger_signalAll]
  cases hdiscard : e.discard with
  | true =>
    simp only [if_true, true_or]
    unfold drainWakeups
    split_ifs <;> rfl
  | false =>
    by_cases hinterrupt : e.terminal = .interrupted
    all_goals simp [ledger, hinterrupt]

end DeliveryQueue

/-! ### Accounting -/

namespace DeliveryQueue

variable {φ : Type}

/-- The frames that the statistics account for. -/
def accounted (d : DeliveryQueue φ) : ℕ :=
  d.stats.taken + d.stats.dropped + d.stats.discarded + d.stats.depth

def Ledger.accounted (l : Ledger φ) : ℕ :=
  l.taken + l.dropped + l.discarded +
    if l.terminal = .interrupted then 0 else l.queue.items.length

lemma accounted_ledger (d : DeliveryQueue φ) : d.accounted = d.ledger.accounted := rfl

end DeliveryQueue

namespace DeliveryAnswer

variable {φ : Type}

def isPushed : DeliveryAnswer φ → Bool
  | .pushed _ => true
  | _ => false

end DeliveryAnswer

/-- The number of frames pushed, whatever became of them. -/
def pushedFrames {φ : Type} (trace : List (DeliveryAnswer φ)) : ℕ :=
  trace.countP DeliveryAnswer.isPushed

/-- A call that empties the queue without a look at the terminal finds nothing there that an
interrupt has already counted. -/
def sparesInterrupted {φ : Type} (s : DeliverySite φ) : DeliveryCall φ → Prop
  | .tryTake | .take _ | .discard =>
    s.delivery.terminal = .interrupted → s.delivery.queue.items = []
  | _ => True

namespace DeliveryQueue

variable {φ : Type} {l l' : Ledger φ}

lemma Ledger.Pushes.accounted {admitted queued : Bool} {frame : φ}
    (h : l.Pushes admitted frame queued l')
    (hstopped : l.terminal = .interrupted → admitted = false) : l'.accounted = l.accounted + 1 := by
  have hopen : admitted = true → l.terminal ≠ .interrupted := by
    intro hadmitted hset
    rw [hstopped hset] at hadmitted
    cases hadmitted
  unfold Ledger.accounted
  cases h with
  | refused =>
    dsimp only
    omega
  | fits queue admits appended =>
    obtain ⟨-, hitems, -⟩ := Fifo.push_eq_some.mp appended
    dsimp only
    rw [if_neg (hopen admits), if_neg (hopen admits), hitems, List.length_append,
      List.length_singleton]
    omega
  | newest =>
    dsimp only
    omega
  | oldest first rest queue admits full policy evicted appended =>
    obtain ⟨-, hitems, -⟩ := Fifo.push_eq_some.mp appended
    obtain ⟨hold, -⟩ := Fifo.pop_eq_some.mp evicted
    dsimp only
    rw [if_neg (hopen admits), if_neg (hopen admits), hitems, hold, List.length_append,
      List.length_singleton, List.length_cons]
    omega

lemma Ledger.accounted_taken {frame : φ} {queue : Fifo φ} (hopen : l.terminal ≠ .interrupted)
    (hpop : l.queue.pop = some (frame, queue)) :
    Ledger.accounted { l with queue := queue, taken := l.taken + 1 } = l.accounted := by
  obtain ⟨hitems, -⟩ := Fifo.pop_eq_some.mp hpop
  unfold Ledger.accounted
  dsimp only
  rw [if_neg hopen, if_neg hopen, hitems, List.length_cons]
  omega

lemma Ledger.Reads.accounted {nothing : ReadKind} {result : DeliveryRead φ}
    (h : l.Reads nothing result l') : l'.accounted = l.accounted := by
  cases h with
  | ended => rfl
  | frame frame queue unbarred oldest =>
    refine Ledger.accounted_taken (fun hset => ?_) oldest
    rcases unbarred with hnone | hfailed
    · rw [hnone] at hset
      cases hset
    · rw [hfailed] at hset
      cases hset
  | nothing => rfl

lemma Ledger.Takes.accounted {taken : Option φ} (h : l.Takes taken l')
    (hspares : l.terminal = .interrupted → l.queue.items = []) : l'.accounted = l.accounted := by
  cases h with
  | frame frame queue oldest =>
    refine Ledger.accounted_taken (fun hset => ?_) oldest
    rw [(Fifo.pop_eq_some.mp oldest).1] at hspares
    cases hspares hset
  | nothing => rfl

lemma accounted_discard {d : DeliveryQueue φ}
    (hspares : d.terminal = .interrupted → d.queue.items = []) :
    d.discard.accounted = d.accounted := by
  rw [accounted_ledger, accounted_ledger, ledger_discard]
  unfold Ledger.accounted
  by_cases hset : d.terminal = .interrupted
  · simp [ledger, hset, hspares hset]
  · simp only [ledger, hset, if_false, Fifo.empty_items, List.length_nil]
    omega

lemma accounted_publishTerminal {d : DeliveryQueue φ} (hunset : d.terminal = .none)
    (e : Ending) : (d.publishTerminal e).accounted = d.accounted := by
  rw [accounted_ledger, accounted_ledger, ledger_publishTerminal]
  unfold Ledger.accounted
  cases hdiscard : e.discard with
  | true =>
    simp [ledger, hunset, Nat.add_assoc]
  | false =>
    by_cases hinterrupt : e.terminal = .interrupted
    · simp [ledger, hunset, hinterrupt, Nat.add_assoc]
    · simp [ledger, hunset, hinterrupt]

end DeliveryQueue

namespace DeliveryQueue

variable {φ : Type} {d : DeliveryQueue φ} {l l' : Ledger φ}

/-- The queue has room for a frame at least, and a terminal has stopped the pushes. -/
structure Ledger.Sound (l : Ledger φ) : Prop where
  room : 0 < l.queue.capacity
  stopped : l.terminal ≠ .none → l.accepting = false

lemma Ledger.Sound.requeue (h : l.Sound) {queue : Fifo φ}
    (hcap : queue.capacity = l.queue.capacity) {taken dropped discarded : ℕ} :
    Ledger.Sound { l with
      queue := queue, taken := taken, dropped := dropped, discarded := discarded } :=
  ⟨hcap ▸ h.room, h.stopped⟩

lemma Ledger.Pushes.sound {admitted queued : Bool} {frame : φ}
    (hp : l.Pushes admitted frame queued l') (h : l.Sound) : l'.Sound := by
  cases hp with
  | refused shut => exact h.requeue rfl
  | fits queue admits appended => exact h.requeue (Fifo.push_eq_some.mp appended).2.2
  | newest admits full policy => exact h.requeue rfl
  | oldest first rest queue admits full policy evicted appended =>
    exact h.requeue ((Fifo.push_eq_some.mp appended).2.2.trans (Fifo.pop_eq_some.mp evicted).2)

lemma Ledger.Takes.sound {taken : Option φ} (ht : l.Takes taken l') (h : l.Sound) : l'.Sound := by
  cases ht with
  | frame frame queue oldest => exact h.requeue (Fifo.pop_eq_some.mp oldest).2
  | nothing => exact h

lemma Ledger.Reads.sound {nothing : ReadKind} {result : DeliveryRead φ}
    (hr : l.Reads nothing result l') (h : l.Sound) : l'.Sound := by
  cases hr with
  | ended => exact h
  | frame frame queue unbarred oldest => exact h.requeue (Fifo.pop_eq_some.mp oldest).2
  | nothing => exact h

lemma discard_sound (h : d.ledger.Sound) : d.discard.ledger.Sound := by
  rw [ledger_discard]
  exact ⟨h.room, h.stopped⟩

lemma publishTerminal_sound (hroom : 0 < d.queue.capacity) (hstopped : d.accepting = false)
    (e : Ending) : (d.publishTerminal e).ledger.Sound := by
  rw [ledger_publishTerminal]
  refine ⟨?_, fun _ => hstopped⟩
  cases e.discard with
  | true | false => exact hroom

lemma retire_sound (h : d.ledger.Sound) (ingress : Option ℕ) : (d.retire ingress).ledger.Sound := by
  cases ingress with
  | none => exact h
  | some => exact ⟨h.room, h.stopped⟩

lemma accounted_retire (d : DeliveryQueue φ) (ingress : Option ℕ) :
    (d.retire ingress).accounted = d.accounted := by
  cases ingress <;> rfl

end DeliveryQueue

namespace DeliverySite

variable {φ : Type} {s s' : DeliverySite φ} {call : DeliveryCall φ}
  {es : List (DeliveryAnswer φ)}

lemma pushFrom_spec (h : s.delivery.ledger.Sound) (ingress : Option ℕ) (frame : φ) :
    ∃ queued, (s.pushFrom ingress frame).2 = [.pushed queued] ∧
      s.delivery.ledger.Pushes (s.delivery.current ingress && s.delivery.accepting) frame queued
        (s.pushFrom ingress frame).1.delivery.ledger := by
  obtain ⟨queued, hevents, hpushes⟩ := DeliveryQueue.push_pushes h.room ingress frame
  exact ⟨queued, by simp [pushFrom, hevents, DeliveryEvent.queued], hpushes⟩

/-- What a call leaves sound and accounted for. -/
def Tallies (s s' : DeliverySite φ) (es : List (DeliveryAnswer φ)) : Prop :=
  s'.delivery.ledger.Sound ∧ s'.delivery.accounted = s.delivery.accounted + pushedFrames es

lemma pushFrom_tallies (h : s.delivery.ledger.Sound) (ingress : Option ℕ) (frame : φ) :
    s.Tallies (s.pushFrom ingress frame).1 (s.pushFrom ingress frame).2 := by
  obtain ⟨queued, hanswer, hpushes⟩ := pushFrom_spec h ingress frame
  rw [hanswer]
  refine ⟨hpushes.sound h, hpushes.accounted fun hset => ?_⟩
  have hstopped : s.delivery.accepting = false := h.stopped (by rw [hset]; simp)
  rw [hstopped, Bool.and_false]

lemma retireIngress_tallies (h : s.delivery.ledger.Sound) (hr : s.retireIngress = some s') :
    s'.delivery.ledger.Sound ∧ s'.delivery.accounted = s.delivery.accounted := by
  simp only [retireIngress, Option.ite_none_right_eq_some] at hr
  obtain rfl := Option.some.inj hr.2
  exact ⟨DeliveryQueue.retire_sound h _, DeliveryQueue.accounted_retire _ _⟩

lemma setTerminal_tallies (h : s.delivery.ledger.Sound) {e : Ending}
    (ht : s.setTerminal e = some s') :
    s'.delivery.ledger.Sound ∧ s'.delivery.accounted = s.delivery.accounted := by
  unfold setTerminal at ht
  cases hstop : s.delivery.stopAccepting with
  | none =>
    rw [hstop] at ht
    cases ht
    exact ⟨h, rfl⟩
  | some =>
    rw [hstop] at ht
    simp only [Option.ite_none_right_eq_some] at ht
    obtain rfl := Option.some.inj ht.2
    simp only [DeliveryQueue.stopAccepting, Option.ite_none_left_eq_some, ne_eq, not_not] at hstop
    obtain ⟨hunset, heq⟩ := hstop
    cases heq
    refine ⟨?_, ?_⟩
    · exact DeliveryQueue.publishTerminal_sound (d := { s.delivery with accepting := false })
        h.room rfl e
    · exact DeliveryQueue.accounted_publishTerminal (d := { s.delivery with accepting := false })
        hunset e

lemma step_tallies (h : s.delivery.ledger.Sound) (hspares : sparesInterrupted s call)
    (hs : s.step call = some (s', es)) : s.Tallies s' es := by
  cases call with
  | push frame =>
    cases hs
    exact pushFrom_tallies h none frame
  | ingressPush n frame =>
    obtain ⟨-, rfl, rfl⟩ := of_guard hs
    exact pushFrom_tallies h (some n) frame
  | tryReadResult =>
    cases hs
    have hreads := s.delivery.tryReadResult_reads
    exact ⟨hreads.sound h, hreads.accounted⟩
  | readResult polls =>
    cases hs
    have hreads := s.delivery.readResult_reads polls
    exact ⟨hreads.sound h, hreads.accounted⟩
  | tryTake =>
    cases hs
    have htakes := s.delivery.tryTake_takes
    exact ⟨htakes.sound h, htakes.accounted hspares⟩
  | take polls =>
    cases hs
    have htakes := s.delivery.take_takes polls
    exact ⟨htakes.sound h, htakes.accounted hspares⟩
  | discard =>
    cases hs
    exact ⟨DeliveryQueue.discard_sound h, DeliveryQueue.accounted_discard hspares⟩
  | makeIngress =>
    obtain ⟨retired, hretire, rfl, rfl⟩ := of_mapped hs
    obtain ⟨hsound, hsame⟩ := retireIngress_tallies h hretire
    exact ⟨hsound, hsame⟩
  | retireIngress =>
    obtain ⟨retired, hretire, rfl, rfl⟩ := of_mapped hs
    exact retireIngress_tallies h hretire
  | terminal =>
    obtain ⟨ended, hends, rfl, rfl⟩ := of_mapped hs
    exact setTerminal_tallies h hends

lemma create_sound {capacity : ℕ} (hcap : 0 < capacity) (policy : DropPolicy) (hasFd : Bool) :
    (create capacity policy hasFd : DeliverySite φ).delivery.ledger.Sound :=
  ⟨hcap.trans_le (le_roundUpPow2 capacity), fun hset => absurd rfl hset⟩

end DeliverySite

/-- As long as no frame that an interrupt has counted leaves the queue after it, every pushed frame
is accounted for once. -/
theorem delivery_accounts {φ : Type} {capacity : ℕ} (hcap : 2 ≤ capacity) {policy : DropPolicy}
    {hasFd : Bool} {trace : List (DeliveryAnswer φ)} {s : DeliverySite φ}
    (h : (callMachine φ).Reaches sparesInterrupted (.create capacity policy hasFd) trace s) :
    pushedFrames trace = s.delivery.stats.taken + s.delivery.stats.dropped +
      s.delivery.stats.discarded + s.delivery.stats.depth := by
  have hinv : s.delivery.ledger.Sound ∧ pushedFrames trace = s.delivery.accounted := by
    refine h.traceInvariant
      (fun trace s => s.delivery.ledger.Sound ∧ pushedFrames trace = s.delivery.accounted)
      ⟨DeliverySite.create_sound (by omega) policy hasFd, rfl⟩ ?_
    rintro trace s call s' es ⟨hsound, hcount⟩ hspares hs
    obtain ⟨hsound', haccounted⟩ := DeliverySite.step_tallies hsound hspares hs
    refine ⟨hsound', ?_⟩
    rw [haccounted, ← hcount, pushedFrames, List.countP_append]
    rfl
  exact hinv.2

instance {φ : Type} [DecidableEq φ] (s : DeliverySite φ) (call : DeliveryCall φ) :
    Decidable (sparesInterrupted s call) := by
  cases call <;> unfold sparesInterrupted <;> infer_instance

theorem delivery_accounts_sample : ∃ trace s,
    ((callMachine ℕ).Reaches sparesInterrupted (.create 2 .dropOldest true) trace s ∧
      pushedFrames trace = 4 ∧ s.delivery.stats.dropped = 1) ∧
    pushedFrames trace = s.delivery.stats.taken + s.delivery.stats.dropped +
      s.delivery.stats.discarded + s.delivery.stats.depth := by
  obtain ⟨trace, s, hreach, hcounts⟩ := (callMachine ℕ).exists_of_run sparesInterrupted
    (.create 2 .dropOldest true)
    [.makeIngress, .push 1, .ingressPush 0 2, .push 3, .tryReadResult, .terminal .interrupt, .push 4,
      .terminal .close]
    (P := fun s trace => pushedFrames trace = 4 ∧ s.delivery.stats.dropped = 1) (by decide +kernel)
  exact ⟨trace, s, ⟨hreach, hcounts⟩, delivery_accounts (by omega) hreach⟩

/-- The way a subscription is interrupted and then closed: the interrupt counts the queued frame and
leaves it, and the discard of the retired session counts it again. -/
theorem interrupted_frame_counted_twice : ∃ trace s,
    (callMachine ℕ).Reaches anyStep (.create 2 .dropNewest true) trace s ∧
    pushedFrames trace = 1 ∧ s.delivery.stats.discarded = 2 :=
  (callMachine ℕ).exists_of_run anyStep (.create 2 .dropNewest true)
    [.makeIngress, .ingressPush 0 1, .terminal .interrupt, .terminal .close, .retireIngress,
      .discard] (by decide +kernel)

end TangoBulk
