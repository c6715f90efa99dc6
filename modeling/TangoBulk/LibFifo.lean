import Mathlib.Data.List.Basic
import Mathlib.Tactic.Common

/-! First-in first-out queues of bounded capacity. The bound is a field, so a queue that
holds more than its capacity cannot be built. -/

structure Fifo (α : Type*) where
  capacity : ℕ
  items : List α
  bounded : items.length ≤ capacity
  deriving DecidableEq

namespace Fifo

variable {α : Type*}

def empty (capacity : ℕ) : Fifo α := ⟨capacity, [], Nat.zero_le _⟩

/-- Append an item, or `none` if the queue is full. -/
def push (q : Fifo α) (x : α) : Option (Fifo α) :=
  if h : q.items.length < q.capacity then
    some ⟨q.capacity, q.items ++ [x], by rw [List.length_append, List.length_singleton]; exact h⟩
  else none

/-- Take the oldest item. -/
def pop (q : Fifo α) : Option (α × Fifo α) :=
  match h : q.items with
  | [] => none
  | x :: rest => some (x, ⟨q.capacity, rest, by
      have hb := q.bounded
      rw [h, List.length_cons] at hb
      exact Nat.le_of_succ_le hb⟩)

@[simp] lemma empty_items (capacity : ℕ) : (empty capacity : Fifo α).items = [] := rfl

@[simp] lemma empty_capacity (capacity : ℕ) : (empty capacity : Fifo α).capacity = capacity := rfl

lemma push_eq_some {q q' : Fifo α} {x : α} :
    q.push x = some q' ↔
      q.items.length < q.capacity ∧ q'.items = q.items ++ [x] ∧ q'.capacity = q.capacity := by
  unfold push
  split
  case isTrue h =>
    constructor
    · intro he
      cases he
      exact ⟨h, rfl, rfl⟩
    · rintro ⟨-, hi, hc⟩
      obtain ⟨c, is, hb⟩ := q'
      subst hi hc
      rfl
  case isFalse h => simp [h]

lemma push_eq_none {q : Fifo α} {x : α} : q.push x = none ↔ q.capacity ≤ q.items.length := by
  unfold push
  split
  case isTrue h => simp [h]
  case isFalse h => simpa using h

lemma pop_eq_none {q : Fifo α} : q.pop = none ↔ q.items = [] := by
  unfold pop
  split
  case h_1 h | h_2 x rest h => simp [h]

lemma pop_eq_some {q q' : Fifo α} {x : α} :
    q.pop = some (x, q') ↔ q.items = x :: q'.items ∧ q'.capacity = q.capacity := by
  unfold pop
  split
  case h_1 h => simp [h]
  case h_2 y rest h =>
    obtain ⟨c, is, hb⟩ := q'
    simp only [Option.some.injEq, Prod.mk.injEq, h, mk.injEq, List.cons.injEq]
    constructor
    · rintro ⟨rfl, rfl, rfl⟩
      exact ⟨⟨rfl, rfl⟩, rfl⟩
    · rintro ⟨⟨rfl, rfl⟩, rfl⟩
      exact ⟨rfl, rfl, rfl⟩

end Fifo
