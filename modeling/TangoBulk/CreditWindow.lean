import TangoBulk.Types

/-! The publisher's half of the credit protocol. Sequences start at 0 in every session
and never wrap, so the 64-bit counters are natural numbers. -/
namespace TangoBulk

structure CreditWindow where
  ringDepth : ℕ
  width : ℕ
  nextSequence : ℕ := 0
  creditedEnd : ℕ := 0
  deriving DecidableEq

namespace CreditWindow

def outstanding (w : CreditWindow) : ℕ := w.nextSequence - w.creditedEnd

def canSubmit (w : CreditWindow) : Bool := w.outstanding < w.width

/-- Assign `nextSequence` to a submission and advance. -/
def noteSubmitted (w : CreditWindow) : ℕ × CreditWindow :=
  (w.nextSequence, { w with nextSequence := w.nextSequence + 1 })

structure CreditOutcome where
  status : Status := .ok
  released : ℕ := 0
  deriving DecidableEq

/-- Apply a cumulative credit. An ack at or above the next sequence is refused. -/
def applyCredit (w : CreditWindow) (ackSequence : ℕ) : CreditOutcome × CreditWindow :=
  if w.nextSequence ≤ ackSequence then ({ status := .malformedMessage }, w)
  else if ackSequence + 1 ≤ w.creditedEnd then ({}, w)
  else ({ released := ackSequence + 1 - w.creditedEnd }, { w with creditedEnd := ackSequence + 1 })

def reset (w : CreditWindow) (firstSequence : ℕ) : CreditWindow :=
  { w with nextSequence := firstSequence, creditedEnd := firstSequence }

/-- The window never runs ahead of its credit by more than its width. -/
structure Valid (w : CreditWindow) : Prop where
  credited_le : w.creditedEnd ≤ w.nextSequence
  next_le : w.nextSequence ≤ w.creditedEnd + w.width

variable {w : CreditWindow}

lemma noteSubmitted_valid (h : w.Valid) (hs : w.canSubmit = true) : w.noteSubmitted.2.Valid := by
  obtain ⟨hc, hn⟩ := h
  have hlt : w.nextSequence - w.creditedEnd < w.width := of_decide_eq_true hs
  constructor <;> simp only [noteSubmitted] <;> omega

lemma reset_valid (w : CreditWindow) (n : ℕ) : (w.reset n).Valid := by
  constructor <;> simp [reset]

lemma applyCredit_cases (w : CreditWindow) (ack : ℕ) :
    (w.nextSequence ≤ ack ∧ w.applyCredit ack = ({ status := .malformedMessage }, w)) ∨
    (ack < w.nextSequence ∧ ack < w.creditedEnd ∧ w.applyCredit ack = ({}, w)) ∨
    (ack < w.nextSequence ∧ w.creditedEnd ≤ ack ∧
      w.applyCredit ack =
        ({ released := ack + 1 - w.creditedEnd }, { w with creditedEnd := ack + 1 })) := by
  unfold applyCredit
  split_ifs with h1 h2
  · exact .inl ⟨h1, rfl⟩
  · exact .inr (.inl ⟨by omega, by omega, rfl⟩)
  · exact .inr (.inr ⟨by omega, by omega, rfl⟩)

lemma applyCredit_valid (h : w.Valid) (ack : ℕ) : (w.applyCredit ack).2.Valid := by
  obtain ⟨hc, hn⟩ := h
  obtain ⟨-, he⟩ | ⟨-, -, he⟩ | ⟨h1, h2, he⟩ := applyCredit_cases w ack
  · rw [he]; exact ⟨hc, hn⟩
  · rw [he]; exact ⟨hc, hn⟩
  · rw [he]; constructor <;> dsimp only <;> omega

@[simp] lemma applyCredit_next (w : CreditWindow) (ack : ℕ) :
    (w.applyCredit ack).2.nextSequence = w.nextSequence := by
  unfold applyCredit
  split_ifs <;> rfl

@[simp] lemma applyCredit_width (w : CreditWindow) (ack : ℕ) :
    (w.applyCredit ack).2.width = w.width := by
  unfold applyCredit
  split_ifs <;> rfl

lemma applyCredit_credited (w : CreditWindow) (ack : ℕ) :
    (w.applyCredit ack).2.creditedEnd = w.creditedEnd + (w.applyCredit ack).1.released := by
  obtain ⟨-, he⟩ | ⟨-, -, he⟩ | ⟨h1, h2, he⟩ := applyCredit_cases w ack
  · simp [he]
  · simp [he]
  · simp only [he]; omega

lemma applyCredit_covers {ack : ℕ} (h : ack < w.nextSequence) :
    ack < (w.applyCredit ack).2.creditedEnd := by
  obtain ⟨hle, -⟩ | ⟨-, hlt, he⟩ | ⟨-, -, he⟩ := applyCredit_cases w ack
  · omega
  · rw [he]
    exact hlt
  · rw [he]
    exact Nat.lt_succ_self ack

lemma applyCredit_status {ack : ℕ} (h : ack < w.nextSequence) :
    (w.applyCredit ack).1.status = .ok := by
  unfold applyCredit
  split_ifs <;> first | omega | rfl

lemma applyCredit_max (w : CreditWindow) (ack : ℕ) :
    (w.applyCredit ack).2 = { w with
      creditedEnd := max w.creditedEnd (if ack < w.nextSequence then ack + 1 else 0) } := by
  obtain ⟨hle, he⟩ | ⟨hlt, hold, he⟩ | ⟨hlt, hnew, he⟩ := w.applyCredit_cases ack
  · rw [he, if_neg (not_lt.mpr hle), Nat.max_zero]
  · rw [he, if_pos hlt, Nat.max_eq_left hold]
  · rw [he, if_pos hlt, Nat.max_eq_right (by omega)]

end CreditWindow

end TangoBulk
