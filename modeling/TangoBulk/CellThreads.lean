import TangoBulk.CellQueue
import TangoBulk.LibTransition

/-! The queue between threads, one atomic access after another. Any number of threads are in
`try_push` or `try_pop`; each step is the next access of one of them, and a compare-and-swap may
fail spuriously. -/
namespace TangoBulk

open Transition

/-- Which end of the queue a call works at. -/
inductive Side
  | push | pop
  deriving DecidableEq

/-- How far the sequence number of a cell is ahead of the position whose turn it is. -/
def Side.ahead : Side → ℕ
  | .push => 0
  | .pop => 1

/-- What a thread does next. -/
inductive CallStage
  | idle
  -- load the cursor
  | load (side : Side)
  -- load the cell's sequence number
  | look (side : Side) (pos : Position)
  -- compare and swap the cursor
  | swap (side : Side) (pos : Position)
  -- move the item into the cell or out of it
  | move (side : Side) (pos : Position)
  -- reset the data of the emptied cell
  | clear (pos : Position)
  -- store the cell's sequence number
  | store (side : Side) (pos : Position)
  -- count, and return true
  | count (side : Side)
  deriving DecidableEq

/-- A thread; `item` is the object it passed, from which a push moves and to which a pop moves. -/
structure Caller (α : Type) where
  stage : CallStage := .idle
  item : Option α := none

structure QueueState (α : Type) where
  queue : CellQueue α
  callers : ℕ → Caller α := fun _ => {}

inductive QueueInput (α : Type)
  | callPush (t : ℕ) (item : α)
  | callPop (t : ℕ)
  | access (t : ℕ) (spurious : Bool)

/-- The thread whose call or access it is. -/
def QueueInput.thread {α : Type} : QueueInput α → ℕ
  | .callPush t _ | .callPop t | .access t _ => t

/-- What a call returns, with the object it was passed as it is then. -/
inductive QueueReturn (α : Type)
  | pushed (t : ℕ)
  | refused (t : ℕ) (item : Option α)
  | popped (t : ℕ) (item : Option α)
  | empty (t : ℕ)

namespace CellQueue

variable {α : Type}

def cursor (q : CellQueue α) : Side → Position
  | .push => q.enqueuePos
  | .pop => q.dequeuePos

def setCursor (q : CellQueue α) (side : Side) (pos : Position) : CellQueue α :=
  match side with
  | .push => { q with enqueuePos := pos }
  | .pop => { q with dequeuePos := pos }

def cellAt (q : CellQueue α) (pos : Position) : Cell α := q.buffer (q.index pos)

/-- What the last store of a call writes: the turn of whoever is next at this cell. -/
def nextTurn (q : CellQueue α) (pos : Position) : Side → Position
  | .push => pos + 1
  | .pop => pos + q.mask + 1

def counted (q : CellQueue α) : Side → CellQueue α
  | .push => { q with size := q.size + 1 }
  | .pop => { q with size := q.size - 1 }

end CellQueue

namespace QueueState

variable {α : Type}

def create (capacity : ℕ) : QueueState α where
  queue := .create capacity

def setCaller (s : QueueState α) (t : ℕ) (c : Caller α) : QueueState α :=
  { s with callers := Function.update s.callers t c }

def setStage (s : QueueState α) (t : ℕ) (stage : CallStage) : QueueState α :=
  s.setCaller t { s.callers t with stage }

/-- The answer of a call that finds no cell whose turn it is. -/
def noTurn (s : QueueState α) (t : ℕ) : Side → QueueReturn α
  | .push => .refused t (s.callers t).item
  | .pop => .empty t

def done (s : QueueState α) (t : ℕ) : Side → QueueReturn α
  | .push => .pushed t
  | .pop => .popped t (s.callers t).item

/-- The next access of thread `t`. -/
def access (s : QueueState α) (t : ℕ) (spurious : Bool) :
    Option (QueueState α × List (QueueReturn α)) :=
  let q := s.queue
  match (s.callers t).stage with
  | .idle => none
  | .load side => some (s.setStage t (.look side (q.cursor side)), [])
  | .look side pos =>
    let diff := Ring.distance (q.cellAt pos).sequence (pos + BitVec.ofNat 64 side.ahead)
    if diff = 0 then some (s.setStage t (.swap side pos), [])
    else if diff < 0 then some (s.setStage t .idle, [s.noTurn t side])
    else some (s.setStage t (.load side), [])
  | .swap side pos =>
    if q.cursor side = pos ∧ !spurious then
      some ({ s with queue := q.setCursor side (pos + 1) }.setStage t (.move side pos), [])
    else some (s.setStage t (.look side (q.cursor side)), [])
  | .move .push pos =>
    some ({ s with queue := q.setCell pos { q.cellAt pos with data := (s.callers t).item } }.setCaller
      t { stage := .store .push pos, item := none }, [])
  | .move .pop pos =>
    some (s.setCaller t { stage := .clear pos, item := (q.cellAt pos).data }, [])
  | .clear pos =>
    some ({ s with queue := q.setCell pos { q.cellAt pos with data := none } }.setStage
      t (.store .pop pos), [])
  | .store side pos =>
    some ({ s with
      queue := q.setCell pos { q.cellAt pos with sequence := q.nextTurn pos side } }.setStage
        t (.count side), [])
  | .count side => some ({ s with queue := q.counted side }.setStage t .idle, [s.done t side])

def step (s : QueueState α) : QueueInput α → Option (QueueState α × List (QueueReturn α))
  | .callPush t item =>
    if (s.callers t).stage = .idle then
      some (s.setCaller t { stage := .load .push, item := some item }, [])
    else none
  | .callPop t =>
    if (s.callers t).stage = .idle then
      some (s.setCaller t { stage := .load .pop, item := none }, [])
    else none
  | .access t spurious => s.access t spurious

end QueueState

/-! ### Claims -/

/-- What happened: a position was claimed at one end, or a call returned. -/
inductive QueueEvent (α : Type)
  | claimed (side : Side) (t p : ℕ)
  | pushed (t p : ℕ) (given : Option α)
  | popped (t p : ℕ) (item : Option α)
  | refused (t : ℕ) (given left : Option α)
  deriving DecidableEq

/-- A state with what the words do not say: how many positions were claimed at each end, the items
in the order in which their positions were claimed, and for each thread the number that its position
stands for and the item it was given. -/
structure QueueHistory (α : Type) where
  state : QueueState α
  claims : Side → ℕ := fun _ => 0
  ledger : List α := []
  place : ℕ → ℕ := fun _ => 0
  given : ℕ → Option α := fun _ => none

namespace QueueHistory

variable {α : Type}

def create (capacity : ℕ) : QueueHistory α where
  state := .create capacity

/-- The end at which the thread reads or moves the cursor in its next access. -/
def cursorSide : CallStage → Option Side
  | .load side | .swap side _ => some side
  | _ => none

/-- The access claims a position at this end. -/
def claiming (h : QueueHistory α) (t : ℕ) (spurious : Bool) : Option Side :=
  match (h.state.callers t).stage with
  | .swap side pos => if h.state.queue.cursor side = pos ∧ !spurious then some side else none
  | _ => none

/-- What is recorded of an access of thread `t`. -/
def record (h : QueueHistory α) (t : ℕ) (spurious : Bool) (next : QueueState α) : QueueHistory α where
  state := next
  claims := match h.claiming t spurious with
    | some side => Function.update h.claims side (h.claims side + 1)
    | none => h.claims
  ledger := if h.claiming t spurious = some .push then h.ledger ++ (h.state.callers t).item.toList
    else h.ledger
  place := match cursorSide (h.state.callers t).stage with
    | some side => Function.update h.place t (h.claims side)
    | none => h.place
  given := h.given

def report (h : QueueHistory α) : QueueReturn α → List (QueueEvent α)
  | .pushed t => [.pushed t (h.place t) (h.given t)]
  | .popped t item => [.popped t (h.place t) item]
  | .refused t item => [.refused t (h.given t) item]
  | .empty _ => []

def step (h : QueueHistory α) : QueueInput α → Option (QueueHistory α × List (QueueEvent α))
  | .callPush t item => (h.state.step (.callPush t item)).map fun r =>
      ({ h with state := r.1, given := Function.update h.given t (some item) }, [])
  | .callPop t => (h.state.step (.callPop t)).map fun r => ({ h with state := r.1 }, [])
  | .access t spurious => (h.state.access t spurious).map fun r =>
      (h.record t spurious r.1,
        (h.claiming t spurious).toList.map (fun side => .claimed side t (h.claims side)) ++
          r.2.flatMap h.report)

/-- No compare-and-swap comes so late that the cursor may have gone round to the same word. -/
def timely (h : QueueHistory α) : QueueInput α → Prop
  | .access t _ => ∀ side pos, (h.state.callers t).stage = .swap side pos →
      h.claims side < h.place t + 2 ^ 64
  | _ => True

instance (h : QueueHistory α) : ∀ i, Decidable (h.timely i)
  | .callPush _ _ | .callPop _ => inferInstanceAs (Decidable True)
  | .access t _ =>
    decidable_of_iff ((match (h.state.callers t).stage with
      | .swap side _ => decide (h.claims side < h.place t + 2 ^ 64)
      | _ => true) = true) (by
        simp only [timely]
        cases (h.state.callers t).stage <;> simp)

/-! ### What an input does -/

/-- The record once thread `t` has claimed a position. -/
def claimed (h : QueueHistory α) (t : ℕ) (side : Side) (pos : Position) : QueueHistory α where
  state := { h.state with
    queue := h.state.queue.setCursor side (pos + 1) }.setStage t (.move side pos)
  claims := Function.update h.claims side (h.claims side + 1)
  ledger := match side with
    | .push => h.ledger ++ (h.state.callers t).item.toList
    | .pop => h.ledger
  place := Function.update h.place t (h.claims side)
  given := h.given

/-- The record once thread `t` has written the cell of its position. -/
def rewrite (h : QueueHistory α) (t : ℕ) (pos : Position) (new : Cell α) (c : Caller α) :
    QueueHistory α :=
  { h with state := { h.state with queue := h.state.queue.setCell pos new }.setCaller t c }

def stage (h : QueueHistory α) (t : ℕ) : CallStage := (h.state.callers t).stage

/-- What each input leads to, and what it reports. -/
inductive Acts (h : QueueHistory α) : QueueInput α → QueueHistory α → List (QueueEvent α) → Prop
  | callPush {t} (item : α) (idle : h.stage t = .idle) : Acts h (.callPush t item)
      { h with
        state := h.state.setCaller t { stage := .load .push, item := some item }
        given := Function.update h.given t (some item) } []
  | callPop {t} (idle : h.stage t = .idle) : Acts h (.callPop t)
      { h with state := h.state.setCaller t { stage := .load .pop, item := none } } []
  | loads {t spurious side} (was : cursorSide (h.stage t) = some side) :
      Acts h (.access t spurious)
      { h with
        state := h.state.setStage t (.look side (h.state.queue.cursor side))
        place := Function.update h.place t (h.claims side) } []
  | ready {t spurious side pos} (was : h.stage t = .look side pos)
      (turn : (h.state.queue.cellAt pos).sequence = pos + BitVec.ofNat 64 side.ahead) :
      Acts h (.access t spurious) { h with state := h.state.setStage t (.swap side pos) } []
  | fails {t spurious side pos} (was : h.stage t = .look side pos) : Acts h (.access t spurious)
      { h with state := h.state.setStage t .idle } ([h.state.noTurn t side].flatMap h.report)
  | retries {t spurious side pos} (was : h.stage t = .look side pos) :
      Acts h (.access t spurious) { h with state := h.state.setStage t (.load side) } []
  | swaps {t spurious side pos} (was : h.stage t = .swap side pos)
      (cursor : h.state.queue.cursor side = pos) :
      Acts h (.access t spurious) (h.claimed t side pos) [.claimed side t (h.claims side)]
  | movePush {t spurious pos} (was : h.stage t = .move .push pos) :
      Acts h (.access t spurious)
        (h.rewrite t pos { h.state.queue.cellAt pos with data := (h.state.callers t).item }
          { stage := .store .push pos, item := none }) []
  | movePop {t spurious pos} (was : h.stage t = .move .pop pos) :
      Acts h (.access t spurious)
        { h with
          state := h.state.setCaller t
            { stage := .clear pos, item := (h.state.queue.cellAt pos).data } } []
  | clear {t spurious pos} (was : h.stage t = .clear pos) :
      Acts h (.access t spurious) (h.rewrite t pos { h.state.queue.cellAt pos with data := none }
        { stage := .store .pop pos, item := (h.state.callers t).item }) []
  | store {t spurious side pos} (was : h.stage t = .store side pos) : Acts h (.access t spurious)
      (h.rewrite t pos
        { h.state.queue.cellAt pos with sequence := h.state.queue.nextTurn pos side }
        { stage := .count side, item := (h.state.callers t).item }) []
  | returns {t spurious side} (was : h.stage t = .count side) :
      Acts h (.access t spurious)
        { h with state := { h.state with queue := h.state.queue.counted side }.setStage t .idle }
        ([h.state.done t side].flatMap h.report)

variable {h h' : QueueHistory α} {i : QueueInput α} {es : List (QueueEvent α)} {t : ℕ}
  {spurious : Bool} {next : QueueState α}

lemma record_quiet (spurious : Bool) (next : QueueState α) (hside : cursorSide (h.stage t) = none) :
    h.claiming t spurious = none ∧ h.record t spurious next = { h with state := next } := by
  have hclaim : h.claiming t spurious = none := by
    unfold claiming
    split
    · rename_i side pos hstage
      rw [stage, hstage] at hside
      cases hside
    · rfl
  unfold stage at hside
  exact ⟨hclaim, by simp [record, hclaim, hside]⟩

lemma record_load {side : Side} (hclaim : h.claiming t spurious = none)
    (hside : cursorSide (h.stage t) = some side) :
    h.record t spurious next =
      { h with state := next, place := Function.update h.place t (h.claims side) } := by
  unfold stage at hside
  simp [record, hclaim, hside]

lemma acts_access {rs : List (QueueReturn α)} (hs : h.state.access t spurious = some (next, rs)) :
    h.Acts (.access t spurious) (h.record t spurious next)
      ((h.claiming t spurious).toList.map (fun side => .claimed side t (h.claims side)) ++
        rs.flatMap h.report) := by
  have hquiet : cursorSide (h.stage t) = none →
      h.Acts (.access t spurious) { h with state := next } (rs.flatMap h.report) →
      h.Acts (.access t spurious) (h.record t spurious next)
        ((h.claiming t spurious).toList.map (fun side => .claimed side t (h.claims side)) ++
          rs.flatMap h.report) := by
    intro hside hacts
    obtain ⟨hclaim, hrecord⟩ := record_quiet spurious next hside
    rw [hclaim, hrecord]
    exact hacts
  unfold QueueState.access at hs
  dsimp only at hs
  split at hs
  case h_1 => cases hs
  case h_2 side hstage =>
    obtain ⟨rfl, rfl⟩ := of_some_eq hs
    have hclaim : h.claiming t spurious = none := by
      unfold claiming
      rw [hstage]
    rw [hclaim, record_load hclaim (congrArg cursorSide hstage)]
    exact .loads (congrArg cursorSide hstage)
  case h_3 side pos hstage =>
    have hside : cursorSide (h.stage t) = none := congrArg cursorSide hstage
    split_ifs at hs with hzero hbehind
    · cases hs
      exact hquiet hside (.ready hstage (Ring.distance_eq_zero.mp hzero))
    · cases hs
      exact hquiet hside (.fails hstage)
    · cases hs
      exact hquiet hside (.retries hstage)
  case h_4 side pos hstage =>
    have hside : cursorSide (h.state.callers t).stage = some side := congrArg cursorSide hstage
    split_ifs at hs with hswap
    · cases hs
      have hclaim : h.claiming t spurious = some side := by
        unfold claiming
        rw [hstage]
        exact if_pos hswap
      have hrecord : ∀ next, h.record t spurious next =
          { h.claimed t side pos with state := next } := by
        intro next
        cases side <;> simp [record, claimed, hclaim, hside]
      rw [hclaim, hrecord]
      exact .swaps hstage hswap.1
    · cases hs
      have hclaim : h.claiming t spurious = none := by
        unfold claiming
        rw [hstage]
        exact if_neg hswap
      rw [hclaim, record_load hclaim hside]
      exact .loads hside
  case h_5 pos hstage =>
    cases hs
    exact hquiet (congrArg cursorSide hstage) (.movePush hstage)
  case h_6 pos hstage =>
    cases hs
    exact hquiet (congrArg cursorSide hstage) (.movePop hstage)
  case h_7 pos hstage =>
    cases hs
    exact hquiet (congrArg cursorSide hstage) (.clear hstage)
  case h_8 side pos hstage =>
    cases hs
    exact hquiet (congrArg cursorSide hstage) (.store hstage)
  case h_9 side hstage =>
    cases hs
    exact hquiet (congrArg cursorSide hstage) (.returns hstage)

lemma acts_step (hs : h.step i = some (h', es)) : h.Acts i h' es := by
  cases i with
  | callPush t item =>
    obtain ⟨⟨next, rs⟩, hnext, rfl, rfl⟩ := of_mapped hs
    obtain ⟨hguard, rfl, -⟩ := of_guard hnext
    exact .callPush item hguard
  | callPop =>
    obtain ⟨⟨next, rs⟩, hnext, rfl, rfl⟩ := of_mapped hs
    obtain ⟨hguard, rfl, -⟩ := of_guard hnext
    exact .callPop hguard
  | access =>
    obtain ⟨⟨next, rs⟩, hnext, rfl, rfl⟩ := of_mapped hs
    exact acts_access hnext

end QueueHistory

def cellMachine (α : Type) : Machine (QueueHistory α) (QueueInput α) (QueueEvent α) :=
  ⟨QueueHistory.step⟩

end TangoBulk
