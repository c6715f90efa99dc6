import TangoBulk.BoundedQueue
import TangoBulk.Config
import TangoBulk.LibRing

/-! The queue between threads cell by cell. Each cell carries a sequence number that says
whose turn it is; cursors and sequence numbers are 64-bit, wrap, and are compared by the sign
of their difference. Calls do not overlap here, but a compare-and-swap may fail spuriously. -/
namespace TangoBulk

/-- A cursor or a cell's sequence number. -/
abbrev Position := BitVec 64

structure Cell (α : Type) where
  sequence : Position
  data : Option α := none

/-- `cells` is the size of the buffer. -/
structure CellQueue (α : Type) where
  cells : ℕ
  buffer : ℕ → Cell α
  enqueuePos : Position := 0
  dequeuePos : Position := 0
  size : Position := 0

/-- A call, and how often its compare-and-swap fails spuriously. -/
inductive QueueCall (α : Type)
  | push (item : α) (spurious : ℕ)
  | pop (spurious : ℕ)

def QueueCall.spurious {α : Type} : QueueCall α → ℕ
  | .push _ n | .pop n => n

inductive QueueAnswer (α : Type)
  | pushed (accepted : Bool)
  | popped (item : Option α)
  deriving DecidableEq

namespace CellQueue

variable {α : Type}

def create (capacity : ℕ) : CellQueue α where
  cells := roundUpPow2 capacity
  buffer := fun i => { sequence := BitVec.ofNat 64 i }

def mask (q : CellQueue α) : Position := BitVec.ofNat 64 (q.cells - 1)

def index (q : CellQueue α) (pos : Position) : ℕ := (pos &&& q.mask).toNat

def setCell (q : CellQueue α) (pos : Position) (cell : Cell α) : CellQueue α :=
  { q with buffer := Function.update q.buffer (q.index pos) cell }

/-- The loop of both calls: claim the position of a cursor once the cell's sequence number is
`ahead` of it, or find that it is not there yet. -/
def claim (q : CellQueue α) (cursor : Position) (ahead : ℕ) :
    ℕ → Position → ℕ → Option (Option Position)
  | 0, _, _ => none
  | fuel + 1, pos, spurious =>
    let diff := Ring.distance (q.buffer (q.index pos)).sequence (pos + BitVec.ofNat 64 ahead)
    if diff = 0 then
      if cursor = pos ∧ spurious = 0 then some (some pos)
      else q.claim cursor ahead fuel cursor (spurious - 1)
    else if diff < 0 then some none
    else q.claim cursor ahead fuel cursor spurious

/-- The tail of `try_push`, at the claimed position. -/
def storeItem (q : CellQueue α) (pos : Position) (item : α) : CellQueue α :=
  { q.setCell pos { sequence := pos + 1, data := some item } with
    enqueuePos := pos + 1
    size := q.size + 1 }

/-- The tail of `try_pop`, at the claimed position. -/
def takeItem (q : CellQueue α) (pos : Position) : Option α × CellQueue α :=
  ((q.buffer (q.index pos)).data,
    { q.setCell pos { sequence := pos + q.mask + 1 } with
      dequeuePos := pos + 1
      size := q.size - 1 })

def tryPush (q : CellQueue α) (item : α) (fuel spurious : ℕ) : Option (Bool × CellQueue α) :=
  (q.claim q.enqueuePos 0 fuel q.enqueuePos spurious).map fun
    | none => (false, q)
    | some pos => (true, q.storeItem pos item)

def tryPop (q : CellQueue α) (fuel spurious : ℕ) : Option (Option α × CellQueue α) :=
  (q.claim q.dequeuePos 1 fuel q.dequeuePos spurious).map fun
    | none => (none, q)
    | some pos => q.takeItem pos

def call (fuel : ℕ) (q : CellQueue α) : QueueCall α → Option (QueueAnswer α × CellQueue α)
  | .push item spurious => (q.tryPush item fuel spurious).map fun r => (.pushed r.1, r.2)
  | .pop spurious => (q.tryPop fuel spurious).map fun r => (.popped r.1, r.2)

def run (fuel : ℕ) (q : CellQueue α) :
    List (QueueCall α) → Option (List (QueueAnswer α) × CellQueue α)
  | [] => some ([], q)
  | c :: cs =>
    (q.call fuel c).bind fun r => (r.2.run fuel cs).map fun rest => (r.1 :: rest.1, rest.2)

end CellQueue

/-! ### What the queue is for -/

/-- A call on a bounded first-in first-out queue. -/
def fifoCall {α : Type} (f : Fifo α) : QueueCall α → QueueAnswer α × Fifo α
  | .push item _ =>
    match f.push item with
    | some f' => (.pushed true, f')
    | none => (.pushed false, f)
  | .pop _ =>
    match f.pop with
    | some (item, f') => (.popped (some item), f')
    | none => (.popped none, f)

def fifoRun {α : Type} (f : Fifo α) : List (QueueCall α) → List (QueueAnswer α) × Fifo α
  | [] => ([], f)
  | c :: cs =>
    let rest := fifoRun (fifoCall f c).2 cs
    ((fifoCall f c).1 :: rest.1, rest.2)

/-- Every call sequence on a queue built for `capacity` items returns, answers as the bounded
queue does, and leaves `size()` at the number of queued items. -/
def ServesFifo (α : Type) (capacity : ℕ) : Prop :=
  ∀ calls : List (QueueCall α), ∃ fuel q,
    (CellQueue.create capacity).run fuel calls =
      some ((fifoRun (boundedQueue capacity) calls).1, q) ∧
    q.size.toNat = (fifoRun (boundedQueue capacity) calls).2.items.length

/-! ### The cells of a queue -/

namespace CellQueue

variable {α : Type} {q : CellQueue α} {f : Fifo α} {start : ℕ}

/-- The cells stand for a queue whose oldest item is at position `start`: from there on come
the items, each one ahead of its position, and then the cells whose turn it is to be filled. -/
structure Represents (q : CellQueue α) (f : Fifo α) (start : ℕ) : Prop where
  capacity : f.capacity = q.cells
  dequeue : q.dequeuePos = BitVec.ofNat 64 start
  enqueue : q.enqueuePos = BitVec.ofNat 64 (start + f.items.length)
  size : q.size = BitVec.ofNat 64 f.items.length
  held : ∀ j item, f.items[j]? = some item →
    q.buffer ((start + j) % q.cells) =
      { sequence := BitVec.ofNat 64 (start + j + 1), data := some item }
  vacant : ∀ j, f.items.length ≤ j → j < q.cells →
    (q.buffer ((start + j) % q.cells)).sequence = BitVec.ofNat 64 (start + j)

/-- A buffer of `2 ^ k` cells, and at least two. -/
def Sized (q : CellQueue α) : Prop := ∃ k, 1 ≤ k ∧ k ≤ 62 ∧ q.cells = 2 ^ k

lemma Sized.bounds (h : q.Sized) : 2 ≤ q.cells ∧ q.cells ≤ 2 ^ 62 := by
  obtain ⟨k, hlo, hhi, hk⟩ := h
  rw [hk]
  exact ⟨Nat.pow_le_pow_right (n := 2) (by omega) hlo, Nat.pow_le_pow_right (by omega) hhi⟩

lemma Sized.index_ofNat (h : q.Sized) (n : ℕ) : q.index (BitVec.ofNat 64 n) = n % q.cells := by
  obtain ⟨k, -, hhi, hk⟩ := h
  rw [index, mask, hk, Ring.mask_ofNat n (by omega)]

lemma setCell_buffer_self (q : CellQueue α) (pos : Position) (cell : Cell α) :
    (q.setCell pos cell).buffer (q.index pos) = cell := Function.update_self ..

lemma setCell_buffer_of_ne (q : CellQueue α) {pos : Position} (cell : Cell α) {i : ℕ}
    (h : i ≠ q.index pos) : (q.setCell pos cell).buffer i = q.buffer i :=
  Function.update_of_ne h ..

variable {cursor : Position} {ahead fuel : ℕ}

lemma claim_ready {spurious : ℕ}
    (h : Ring.distance (q.buffer (q.index cursor)).sequence (cursor + BitVec.ofNat 64 ahead) = 0)
    (hfuel : spurious < fuel) : q.claim cursor ahead fuel cursor spurious = some (some cursor) := by
  induction fuel generalizing spurious with
  | zero => omega
  | succ fuel ih =>
    simp only [claim, h, if_true]
    split_ifs with hz
    · rfl
    · simp only [true_and] at hz
      exact ih (by omega)

lemma claim_behind (spurious : ℕ)
    (h : Ring.distance (q.buffer (q.index cursor)).sequence (cursor + BitVec.ofNat 64 ahead) < 0)
    (hfuel : 0 < fuel) : q.claim cursor ahead fuel cursor spurious = some none := by
  obtain ⟨n, rfl⟩ := Nat.exists_eq_succ_of_ne_zero (Nat.pos_iff_ne_zero.mp hfuel)
  simp only [claim]
  rw [if_neg (by omega), if_pos h]

lemma claim_ahead (fuel spurious : ℕ)
    (h : 0 < Ring.distance (q.buffer (q.index cursor)).sequence (cursor + BitVec.ofNat 64 ahead)) :
    q.claim cursor ahead fuel cursor spurious = none := by
  induction fuel with
  | zero => rfl
  | succ fuel ih =>
    simp only [claim]
    rw [if_neg (by omega), if_neg (by omega)]
    exact ih

/-! ### One call -/

lemma Represents.room (h : q.Represents f start) : f.items.length ≤ q.cells :=
  h.capacity ▸ f.bounded

section Steps

variable (hq : q.Sized) (h : q.Represents f start)
include hq h

lemma Represents.index_enqueue : q.index q.enqueuePos = (start + f.items.length) % q.cells := by
  rw [h.enqueue, hq.index_ofNat]

lemma Represents.index_dequeue : q.index q.dequeuePos = start % q.cells := by
  rw [h.dequeue, hq.index_ofNat]

lemma Represents.push_distance :
    Ring.distance (q.buffer (q.index q.enqueuePos)).sequence
        (q.enqueuePos + BitVec.ofNat 64 0) =
      if f.items.length < f.capacity then 0 else 1 - (q.cells : ℤ) := by
  have hroom := h.room
  have hb := hq.bounds
  rw [h.index_enqueue hq, h.enqueue, h.capacity, BitVec.add_zero]
  split_ifs with hlt
  · rw [h.vacant _ le_rfl hlt, Ring.distance_ofNat (by omega) (by omega)]
    omega
  · have hfull : f.items.length = q.cells := by omega
    have hpos : 0 < f.items.length := by omega
    have hheld := h.held 0 _ (List.getElem?_eq_getElem hpos)
    rw [Nat.add_zero] at hheld
    rw [hfull, Nat.add_mod_right, hheld,
      Ring.distance_ofNat (by push_cast; omega) (by push_cast; omega)]
    push_cast
    omega

lemma Represents.pop_distance :
    Ring.distance (q.buffer (q.index q.dequeuePos)).sequence
        (q.dequeuePos + BitVec.ofNat 64 1) =
      if f.items = [] then -1 else 0 := by
  have hb := hq.bounds
  rw [h.index_dequeue hq, h.dequeue, BitVec.ofNat_add_ofNat]
  split_ifs with hempty
  · have hvac := h.vacant 0 (by simp [hempty]) (by omega)
    rw [Nat.add_zero] at hvac
    rw [hvac, Ring.distance_ofNat (by push_cast; omega) (by push_cast; omega)]
    push_cast
    omega
  · have hheld := h.held 0 _ (List.getElem?_eq_getElem (List.length_pos_iff.mpr hempty))
    rw [Nat.add_zero] at hheld
    rw [hheld, Ring.distance_ofNat (by push_cast; omega) (by push_cast; omega)]
    omega

variable {f' : Fifo α} {item : α} {fuel : ℕ}

lemma Represents.storeItem (hpush : f.push item = some f') :
    (q.storeItem q.enqueuePos item).Represents f' start := by
  obtain ⟨hlt, hitems, hcap⟩ := Fifo.push_eq_some.mp hpush
  have hlen : f'.items.length = f.items.length + 1 := by rw [hitems]; simp
  have hidx := h.index_enqueue hq
  have hroom : f.items.length < q.cells := h.capacity ▸ hlt
  refine ⟨hcap.trans h.capacity, h.dequeue, ?_, ?_, ?_, ?_⟩
  · simp only [CellQueue.storeItem]
    rw [h.enqueue, hlen, ← Nat.add_assoc, BitVec.ofNat_add _ 1]
    rfl
  · simp only [CellQueue.storeItem]
    rw [h.size, hlen, BitVec.ofNat_add _ 1]
    rfl
  · intro j x hj
    rw [hitems] at hj
    rcases Nat.lt_or_ge j f.items.length with hj' | hj'
    · rw [List.getElem?_append_left hj'] at hj
      have hne : (start + j) % q.cells ≠ q.index q.enqueuePos := by
        rw [hidx]
        exact Ring.index_ne (Nat.le_add_right start j) (by omega) (by omega) (by omega) (by omega)
      exact (q.setCell_buffer_of_ne _ hne).trans (h.held j x hj)
    · have hjlast : j = f.items.length := by
        have := (List.getElem?_eq_some_iff.mp hj).1
        simp at this
        omega
      subst hjlast
      have hx : x = item := by simpa using hj.symm
      subst hx
      have hcell := q.setCell_buffer_self q.enqueuePos
        { sequence := q.enqueuePos + 1, data := some x }
      rw [hidx] at hcell
      refine hcell.trans ?_
      rw [h.enqueue, BitVec.ofNat_add _ 1]
      rfl
  · intro j hlo hhi
    rw [hlen] at hlo
    have hhi' : j < q.cells := hhi
    have hne : (start + j) % q.cells ≠ q.index q.enqueuePos := by
      rw [hidx]
      exact Ring.index_ne (Nat.le_add_right start j) (by omega) (by omega) (by omega) (by omega)
    exact (congrArg Cell.sequence (q.setCell_buffer_of_ne _ hne)).trans
      (h.vacant j (by omega) hhi')

lemma Represents.takeItem (hpop : f.pop = some (item, f')) :
    (q.takeItem q.dequeuePos).1 = some item ∧
      (q.takeItem q.dequeuePos).2.Represents f' (start + 1) := by
  obtain ⟨hitems, hcap⟩ := Fifo.pop_eq_some.mp hpop
  have hlen : f.items.length = f'.items.length + 1 := by rw [hitems]; simp
  have hidx := h.index_dequeue hq
  have hroom := h.room
  have hb := hq.bounds
  refine ⟨?_, hcap.trans h.capacity, ?_, ?_, ?_, ?_, ?_⟩
  · have hheld := h.held 0 item (by rw [hitems]; rfl)
    rw [Nat.add_zero] at hheld
    simp only [CellQueue.takeItem, hidx, hheld]
  · simp only [CellQueue.takeItem]
    rw [h.dequeue, BitVec.ofNat_add _ 1]
    rfl
  · simp only [CellQueue.takeItem]
    rw [setCell, h.enqueue, hlen]
    congr 1
    omega
  · simp only [CellQueue.takeItem]
    rw [h.size, hlen, BitVec.ofNat_add _ 1]
    exact BitVec.add_sub_cancel _ _
  · intro j x hj
    have hheld := h.held (j + 1) x (by rw [hitems]; exact hj)
    have hj' := (List.getElem?_eq_some_iff.mp hj).1
    have hne : (start + 1 + j) % q.cells ≠ q.index q.dequeuePos := by
      rw [hidx]
      exact Ring.index_ne (show start ≤ start + 1 + j by omega) (by omega) (by omega) (by omega)
          (by omega)
    rw [show start + (j + 1) = start + 1 + j by omega] at hheld
    exact (q.setCell_buffer_of_ne _ hne).trans hheld
  · intro j hlo hhi
    have hhi' : j < q.cells := hhi
    rcases Nat.lt_or_ge (j + 1) q.cells with hj | hj
    · have hne : (start + 1 + j) % q.cells ≠ q.index q.dequeuePos := by
        rw [hidx]
        exact Ring.index_ne (show start ≤ start + 1 + j by omega) (by omega) (by omega) (by omega)
          (by omega)
      have hvac := h.vacant (j + 1) (by omega) hj
      rw [show start + (j + 1) = start + 1 + j by omega] at hvac
      exact (congrArg Cell.sequence (q.setCell_buffer_of_ne _ hne)).trans hvac
    · -- The cell just emptied waits for the push one turn later.
      have hturn : start + 1 + j = start + q.cells := by omega
      have hcell := q.setCell_buffer_self q.dequeuePos
        { sequence := q.dequeuePos + q.mask + 1 }
      rw [hidx] at hcell
      rw [hturn]
      change ((q.setCell q.dequeuePos _).buffer ((start + q.cells) % q.cells)).sequence = _
      rw [Nat.add_mod_right, hcell, h.dequeue, mask, BitVec.ofNat_add_ofNat,
        show start + q.cells = start + (q.cells - 1) + 1 by omega, BitVec.ofNat_add _ 1]
      rfl

lemma Represents.tryPush_accepted {spurious : ℕ} (hpush : f.push item = some f')
    (hfuel : spurious < fuel) :
    q.tryPush item fuel spurious = some (true, q.storeItem q.enqueuePos item) := by
  obtain ⟨hlt, -⟩ := Fifo.push_eq_some.mp hpush
  have hdist := h.push_distance hq
  rw [if_pos hlt] at hdist
  simp [tryPush, claim_ready hdist hfuel]

lemma Represents.tryPop_taken {spurious : ℕ} (hpop : f.pop = some (item, f'))
    (hfuel : spurious < fuel) :
    q.tryPop fuel spurious = some (some item, (q.takeItem q.dequeuePos).2) := by
  obtain ⟨hitems, -⟩ := Fifo.pop_eq_some.mp hpop
  have hdist := h.pop_distance hq
  rw [if_neg (by rw [hitems]; simp)] at hdist
  simp [tryPop, claim_ready hdist hfuel, ← (h.takeItem hq hpop).1]

/-- A call returns, answers as the bounded queue does, and leaves cells that stand for it. -/
lemma Represents.call (c : QueueCall α) (hfuel : c.spurious < fuel) :
    ∃ q' start', q.call fuel c = some ((fifoCall f c).1, q') ∧ q'.cells = q.cells ∧
      q'.Represents (fifoCall f c).2 start' := by
  have hb := hq.bounds
  cases c with
  | push item spurious =>
    cases hpush : f.push item with
    | some =>
      refine ⟨q.storeItem q.enqueuePos item, start, ?_, rfl, ?_⟩
      · have haccepted := h.tryPush_accepted hq hpush hfuel
        simp only [QueueCall.spurious] at haccepted
        simp [CellQueue.call, haccepted, fifoCall, hpush]
      · simpa [fifoCall, hpush] using h.storeItem hq hpush
    | none =>
      have hfull := Fifo.push_eq_none.mp hpush
      have hdist := h.push_distance hq
      rw [if_neg (by omega)] at hdist
      refine ⟨q, start, ?_, rfl, ?_⟩
      · have hbehind := claim_behind spurious
          (hdist.trans_lt (by omega)) (Nat.zero_lt_of_lt hfuel)
        simp [CellQueue.call, tryPush, hbehind, fifoCall, hpush]
      · simpa [fifoCall, hpush] using h
  | pop spurious =>
    cases hpop : f.pop with
    | some r =>
      obtain ⟨item, f'⟩ := r
      refine ⟨(q.takeItem q.dequeuePos).2, start + 1, ?_, rfl, ?_⟩
      · have htaken := h.tryPop_taken hq hpop hfuel
        simp only [QueueCall.spurious] at htaken
        simp [CellQueue.call, htaken, fifoCall, hpop]
      · simpa [fifoCall, hpop] using (h.takeItem hq hpop).2
    | none =>
      have hdist := h.pop_distance hq
      rw [if_pos (Fifo.pop_eq_none.mp hpop)] at hdist
      refine ⟨q, start, ?_, rfl, ?_⟩
      · have hbehind := claim_behind spurious
          (hdist.trans_lt (by omega)) (Nat.zero_lt_of_lt hfuel)
        simp [CellQueue.call, tryPop, hbehind, fifoCall, hpop]
      · simpa [fifoCall, hpop] using h

end Steps

/-! ### Whole runs -/

lemma Represents.run (hq : q.Sized) (h : q.Represents f start) (calls : List (QueueCall α))
    (hfuel : ∀ c ∈ calls, c.spurious < fuel) :
    ∃ q' start', q.run fuel calls = some ((fifoRun f calls).1, q') ∧ q'.Sized ∧
      q'.Represents (fifoRun f calls).2 start' := by
  induction calls generalizing q f start with
  | nil => exact ⟨q, start, rfl, hq, h⟩
  | cons c cs ih =>
    obtain ⟨q₁, start₁, hcall, hcells, h₁⟩ := h.call hq c (hfuel c List.mem_cons_self)
    have hq₁ : q₁.Sized := by
      obtain ⟨k, hlo, hhi, hk⟩ := hq
      exact ⟨k, hlo, hhi, hcells.trans hk⟩
    obtain ⟨q₂, start₂, hrun, h₂⟩ := ih hq₁ h₁ fun c' hc' => hfuel c' (List.mem_cons_of_mem c hc')
    refine ⟨q₂, start₂, ?_, h₂⟩
    simp [CellQueue.run, fifoRun, hcall, hrun]

lemma create_represents (capacity : ℕ) :
    (create capacity : CellQueue α).Represents (boundedQueue capacity) 0 where
  capacity := rfl
  dequeue := rfl
  enqueue := rfl
  size := rfl
  held := by simp [boundedQueue]
  vacant := by
    intro j _ hj
    have hj' : j < roundUpPow2 capacity := hj
    change BitVec.ofNat 64 ((0 + j) % roundUpPow2 capacity) = _
    rw [Nat.zero_add, Nat.mod_eq_of_lt hj']

end CellQueue

/-! ### Rounding up -/

lemma doubleUntil_eq_pow (n fuel k : ℕ) : ∃ j, doubleUntil n fuel (2 ^ k) = 2 ^ j ∧ k ≤ j := by
  induction fuel generalizing k with
  | zero => exact ⟨k, rfl, le_rfl⟩
  | succ fuel ih =>
    rw [doubleUntil]
    split_ifs
    · rw [← pow_succ']
      obtain ⟨j, hj, hle⟩ := ih (k + 1)
      exact ⟨j, hj, by omega⟩
    · exact ⟨k, rfl, le_rfl⟩

lemma doubleUntil_le {n fuel k b : ℕ} (hk : k ≤ b) (hn : n ≤ 2 ^ b) :
    doubleUntil n fuel (2 ^ k) ≤ 2 ^ b := by
  induction fuel generalizing k with
  | zero => exact Nat.pow_le_pow_right (by omega) hk
  | succ fuel ih =>
    rw [doubleUntil]
    split_ifs with hlt
    · rw [← pow_succ']
      exact ih ((Nat.pow_lt_pow_iff_right (by omega)).mp (hlt.trans_le hn))
    · exact Nat.pow_le_pow_right (by omega) hk

lemma roundUpPow2_eq_pow {capacity b : ℕ} (hlo : 2 ≤ capacity) (hhi : capacity ≤ 2 ^ b) :
    ∃ k, 1 ≤ k ∧ k ≤ b ∧ roundUpPow2 capacity = 2 ^ k := by
  obtain ⟨j, hj, -⟩ := doubleUntil_eq_pow capacity capacity 0
  have hle := le_roundUpPow2 capacity
  have hbound : roundUpPow2 capacity ≤ 2 ^ b :=
    doubleUntil_le (n := capacity) (k := 0) (by omega) hhi
  have hround : roundUpPow2 capacity = 2 ^ j := hj
  rw [hround] at hle hbound
  refine ⟨j, ?_, (Nat.pow_le_pow_iff_right (by omega)).mp hbound, hround⟩
  by_contra hzero
  obtain rfl : j = 0 := by omega
  omega

lemma create_sized {α : Type} {capacity : ℕ} (hlo : 2 ≤ capacity) (hhi : capacity ≤ 2 ^ 62) :
    (CellQueue.create capacity : CellQueue α).Sized :=
  roundUpPow2_eq_pow hlo hhi

lemma servesFifo_of_two_le {α : Type} {capacity : ℕ} (hlo : 2 ≤ capacity)
    (hhi : capacity ≤ 2 ^ 62) : ServesFifo α capacity := by
  intro calls
  obtain ⟨fuel, hfuel⟩ : ∃ fuel, ∀ c ∈ calls, c.spurious < fuel := by
    induction calls with
    | nil => exact ⟨0, by simp⟩
    | cons c cs ih =>
      obtain ⟨fuel, hf⟩ := ih
      refine ⟨max fuel (c.spurious + 1), fun c' hc' => ?_⟩
      rcases List.mem_cons.mp hc' with rfl | hc'
      · omega
      · have := hf c' hc'
        omega
  have hq : (CellQueue.create capacity : CellQueue α).Sized := create_sized hlo hhi
  obtain ⟨q', start', hrun, hq', hrep⟩ :=
    (CellQueue.create_represents capacity).run hq calls hfuel
  refine ⟨fuel, q', hrun, ?_⟩
  have hroom := hrep.room
  have hb := hq'.bounds
  rw [hrep.size, BitVec.toNat_ofNat, Nat.mod_eq_of_lt (by omega)]

lemma single_cell_push {α : Type} (a b : α) (fuel : ℕ) :
    ∃ q : CellQueue α, (CellQueue.create 1).run (fuel + 1) [.push a 0, .push b 0] =
        some ([.pushed true, .pushed true], q) ∧
      q.cells = 1 ∧ ∀ fuel spurious, q.tryPop fuel spurious = none := by
  refine ⟨((CellQueue.create 1).storeItem 0 a).storeItem 1 b, ?_, rfl, fun fuel spurious => ?_⟩
  · simp [CellQueue.run, CellQueue.call, CellQueue.tryPush, CellQueue.claim, CellQueue.create,
      CellQueue.storeItem, CellQueue.setCell, CellQueue.index, CellQueue.mask, roundUpPow2,
      doubleUntil, Ring.distance]
  · generalize hq : ((CellQueue.create 1).storeItem 0 a).storeItem 1 b = q
    have hdequeue : q.dequeuePos = 0 := by rw [← hq]; rfl
    have hsequence : (q.buffer (q.index q.dequeuePos)).sequence = 2 := by
      simp [← hq, CellQueue.create, CellQueue.storeItem, CellQueue.setCell, CellQueue.index,
        CellQueue.mask, roundUpPow2, doubleUntil]
    have hahead : 0 < Ring.distance (q.buffer (q.index q.dequeuePos)).sequence
        (q.dequeuePos + BitVec.ofNat 64 1) := by
      rw [hsequence, hdequeue]
      decide
    rw [CellQueue.tryPop, CellQueue.claim_ahead fuel spurious hahead]
    rfl

lemma not_servesFifo_one {α : Type} [Inhabited α] : ¬ ServesFifo α 1 := by
  intro h
  obtain ⟨fuel, q, hrun, -⟩ := h [.push default 0, .push default 0]
  cases fuel with
  | zero => cases hrun
  | succ fuel =>
    obtain ⟨q', hrun', -⟩ := single_cell_push (default : α) default fuel
    rw [hrun'] at hrun
    cases hrun

/-- A delivery queue of an accepted depth is a bounded queue exactly from two cells on. -/
theorem delivery_fifo {α : Type} [Inhabited α] (c : SubscriberConfig) (h : c.validate = .ok) :
    ServesFifo α c.deliveryQueueDepth.toNat ↔ 2 ≤ c.deliveryQueueDepth.toNat := by
  obtain ⟨hmin, hmax⟩ := SubscriberConfig.validate_depth h
  have hlo : 1 ≤ c.deliveryQueueDepth.toNat := UInt32.le_iff_toNat_le.mp hmin
  have hhi : c.deliveryQueueDepth.toNat ≤ 4096 := UInt32.le_iff_toNat_le.mp hmax
  constructor
  · intro hserves
    by_contra hsmall
    have hone : c.deliveryQueueDepth.toNat = 1 := by omega
    rw [hone] at hserves
    exact not_servesFifo_one hserves
  · intro htwo
    exact servesFifo_of_two_le htwo (by omega)

/-- A client that holds `depth` frames for its readers. -/
def queueClient (depth : UInt32) : SubscriberConfig where
  streamName := [97]
  maxFrameBytes := 4096
  ringDepth := 2
  creditWindow := 2
  deliveryQueueDepth := depth

theorem delivery_fifo_sample : (queueClient 2).validate = .ok ∧ (ServesFifo ℕ 2 ↔ 2 ≤ 2) :=
  ⟨by decide +kernel, delivery_fifo (queueClient 2) (by decide +kernel)⟩

theorem single_cell_overwrites :
    (queueClient 1).validate = .ok ∧
    ∃ q : CellQueue ℕ,
      (CellQueue.create (queueClient 1).deliveryQueueDepth.toNat).run 1 [.push 0 0, .push 1 0] =
        some ([.pushed true, .pushed true], q) ∧
      q.cells = 1 ∧ ∀ fuel spurious, q.tryPop fuel spurious = none := by
  exact ⟨by decide +kernel, single_cell_push 0 1 0⟩

end TangoBulk
