import TangoBulk.CreditWindow
import TangoBulk.LibTransition
import Mathlib.Data.Finset.Lattice.Fold
import Mathlib.Data.List.Dedup

/-! The publisher's window in the widths of the source. A window agrees with the one over the
natural numbers for as long as its next sequence fits 64 bits. -/
namespace TangoBulk

open Transition

structure CreditWords where
  ringDepth : UInt32
  width : UInt32
  nextSequence : UInt64 := 0
  creditedEnd : UInt64 := 0
  deriving DecidableEq

namespace CreditWords

def outstanding (w : CreditWords) : UInt64 := w.nextSequence - w.creditedEnd

def canSubmit (w : CreditWords) : Bool := w.outstanding < w.width.toUInt64

def noteSubmitted (w : CreditWords) : UInt64 × CreditWords :=
  (w.nextSequence, { w with nextSequence := w.nextSequence + 1 })

structure CreditOutcome where
  status : Status := .ok
  released : UInt64 := 0
  deriving DecidableEq

def applyCredit (w : CreditWords) (ackSequence : UInt64) : CreditOutcome × CreditWords :=
  if w.nextSequence ≤ ackSequence then ({ status := .malformedMessage }, w)
  else
    let newEnd := ackSequence + 1
    if newEnd ≤ w.creditedEnd then ({}, w)
    else ({ released := newEnd - w.creditedEnd }, { w with creditedEnd := newEnd })

def reset (w : CreditWords) (firstSequence : UInt64) : CreditWords :=
  { w with nextSequence := firstSequence, creditedEnd := firstSequence }

/-! ### The window over the natural numbers -/

def window (w : CreditWords) : CreditWindow where
  ringDepth := w.ringDepth.toNat
  width := w.width.toNat
  nextSequence := w.nextSequence.toNat
  creditedEnd := w.creditedEnd.toNat

lemma window_injective {w w' : CreditWords} (h : w.window = w'.window) : w = w' := by
  obtain ⟨hdepth, hwidth, hnext, hend⟩ := CreditWindow.mk.inj h
  cases w
  cases w'
  congr
  · exact UInt32.toNat_inj.mp hdepth
  · exact UInt32.toNat_inj.mp hwidth
  · exact UInt64.toNat_inj.mp hnext
  · exact UInt64.toNat_inj.mp hend

lemma toNat_newEnd {w : CreditWords} {ack : UInt64} (h : ¬ w.nextSequence ≤ ack) :
    (ack + 1).toNat = ack.toNat + 1 := by
  have hlt := UInt64.toNat_lt w.nextSequence
  rw [UInt64.le_iff_toNat_le] at h
  rw [UInt64.toNat_add]
  exact Nat.mod_eq_of_lt (by change ack.toNat + 1 < 2 ^ 64; omega)

lemma window_applyCredit (w : CreditWords) (ack : UInt64) :
    (w.applyCredit ack).2.window = (w.window.applyCredit ack.toNat).2 ∧
    (w.applyCredit ack).1.status = (w.window.applyCredit ack.toNat).1.status ∧
    (w.applyCredit ack).1.released.toNat = (w.window.applyCredit ack.toNat).1.released := by
  unfold applyCredit CreditWindow.applyCredit
  by_cases hrefused : w.nextSequence ≤ ack
  · have hnat : w.window.nextSequence ≤ ack.toNat := UInt64.le_iff_toNat_le.mp hrefused
    rw [if_pos hrefused, if_pos hnat]
    exact ⟨rfl, rfl, rfl⟩
  · have hnat : ¬ w.window.nextSequence ≤ ack.toNat := mt UInt64.le_iff_toNat_le.mpr hrefused
    have hend := toNat_newEnd hrefused
    rw [if_neg hrefused, if_neg hnat]
    by_cases hold : ack + 1 ≤ w.creditedEnd
    · have hold' : ack.toNat + 1 ≤ w.window.creditedEnd := by
        rw [← hend]
        exact UInt64.le_iff_toNat_le.mp hold
      rw [if_pos hold, if_pos hold']
      exact ⟨rfl, rfl, rfl⟩
    · have hold' : ¬ ack.toNat + 1 ≤ w.window.creditedEnd := by
        rw [← hend]
        exact mt UInt64.le_iff_toNat_le.mpr hold
      rw [if_neg hold, if_neg hold']
      refine ⟨?_, rfl, ?_⟩
      · simp only [window, hend]
      · have hle : w.creditedEnd ≤ ack + 1 := by
          rw [UInt64.le_iff_toNat_le] at hold ⊢
          omega
        rw [UInt64.toNat_sub_of_le _ _ hle, hend]
        rfl

lemma window_canSubmit {w : CreditWords} (h : w.window.creditedEnd ≤ w.window.nextSequence) :
    w.canSubmit = w.window.canSubmit := by
  have hle : w.creditedEnd ≤ w.nextSequence := UInt64.le_iff_toNat_le.mpr h
  unfold canSubmit CreditWindow.canSubmit outstanding CreditWindow.outstanding
  rw [decide_eq_decide, UInt64.lt_iff_toNat_lt, UInt64.toNat_sub_of_le _ _ hle]
  rfl

lemma window_noteSubmitted {w : CreditWords} (h : w.nextSequence.toNat + 1 < 2 ^ 64) :
    w.noteSubmitted.2.window = w.window.noteSubmitted.2 := by
  have hnext : (w.nextSequence + 1).toNat = w.nextSequence.toNat + 1 := by
    rw [UInt64.toNat_add]
    exact Nat.mod_eq_of_lt h
  simp only [noteSubmitted, CreditWindow.noteSubmitted, window, hnext]

/-! ### Lists of acks -/

/-- The acks one after another, with the total released. -/
def applyCredits (w : CreditWords) : List UInt64 → ℕ × CreditWords
  | [] => (0, w)
  | ack :: acks =>
    let (outcome, next) := w.applyCredit ack
    let (total, last) := next.applyCredits acks
    (outcome.released.toNat + total, last)

/-- One past the largest of the acks that are not refused. -/
def highest (nextSequence : UInt64) (acks : Finset UInt64) : ℕ :=
  (acks.filter (· < nextSequence)).sup fun ack => ack.toNat + 1

lemma highest_insert (nextSequence ack : UInt64) (acks : Finset UInt64) :
    highest nextSequence (insert ack acks) =
      max (if ack.toNat < nextSequence.toNat then ack.toNat + 1 else 0)
        (highest nextSequence acks) := by
  unfold highest
  rw [Finset.filter_insert]
  by_cases h : ack < nextSequence
  · rw [if_pos h, if_pos (UInt64.lt_iff_toNat_lt.mp h), Finset.sup_insert]
  · rw [if_neg h, if_neg (mt UInt64.lt_iff_toNat_lt.mpr h), Nat.zero_max]

lemma window_applyCredits (w : CreditWords) (acks : List UInt64) :
    (w.applyCredits acks).2.window = { w.window with
      creditedEnd := max w.window.creditedEnd (highest w.nextSequence acks.toFinset) } := by
  induction acks generalizing w with
  | nil => simp [applyCredits, highest]
  | cons ack acks ih =>
    obtain ⟨hwindow, -⟩ := w.window_applyCredit ack
    rw [CreditWindow.applyCredit_max] at hwindow
    have hnext : (w.applyCredit ack).2.nextSequence = w.nextSequence := by
      have hnat := congrArg CreditWindow.nextSequence hwindow
      exact UInt64.toNat_inj.mp hnat
    simp only [applyCredits]
    rw [ih, hwindow, hnext, List.toFinset_cons, highest_insert, ← Nat.max_assoc]
    rfl

lemma applyCredits_total (w : CreditWords) (acks : List UInt64) :
    w.window.creditedEnd + (w.applyCredits acks).1 =
      (w.applyCredits acks).2.window.creditedEnd := by
  induction acks generalizing w with
  | nil => rfl
  | cons ack acks ih =>
    obtain ⟨hwindow, -, hreleased⟩ := w.window_applyCredit ack
    have hone := w.window.applyCredit_credited ack.toNat
    have hrest := ih (w.applyCredit ack).2
    rw [hwindow, hone, ← hreleased] at hrest
    simp only [applyCredits]
    omega

end CreditWords

/-! ### Runs of submissions and credits -/

inductive WindowCall
  | submit
  | credit (ackSequence : UInt64)
  deriving DecidableEq

inductive WindowEvent
  | submitted (sequence : UInt64)
  | credited (outcome : CreditWords.CreditOutcome)
  deriving DecidableEq

namespace CreditWords

/-- Submissions are guarded by `can_submit`; any ack may arrive. -/
def step (w : CreditWords) : WindowCall → Option (CreditWords × List WindowEvent)
  | .submit =>
    if w.canSubmit then some (w.noteSubmitted.2, [.submitted w.noteSubmitted.1]) else none
  | .credit ackSequence =>
    some ((w.applyCredit ackSequence).2, [.credited (w.applyCredit ackSequence).1])

def machine : Machine CreditWords WindowCall WindowEvent := ⟨step⟩

end CreditWords

def WindowEvent.isSubmitted : WindowEvent → Bool
  | .submitted _ => true
  | .credited _ => false

def WindowEvent.released : WindowEvent → ℕ
  | .submitted _ => 0
  | .credited outcome => outcome.released.toNat

/-- The submissions of a run. -/
def submissions (trace : List WindowEvent) : ℕ := trace.countP WindowEvent.isSubmitted

/-- The sequences released in a run. -/
def releasedTotal (trace : List WindowEvent) : ℕ := (trace.map WindowEvent.released).sum

namespace CreditWords

/-- What holds of a window that started at `start`. The two inequalities about the next
sequence need that it has not passed the last word. -/
structure Runs (width : UInt32) (start : UInt64) (trace : List WindowEvent) (w : CreditWords) :
    Prop where
  width_eq : w.width = width
  next : w.nextSequence.toNat = (start.toNat + submissions trace) % 2 ^ 64
  total : start.toNat + releasedTotal trace = w.creditedEnd.toNat
  valid : start.toNat + submissions trace < 2 ^ 64 → w.window.Valid

variable {width : UInt32} {start : UInt64} {trace events : List WindowEvent} {w w' : CreditWords}

lemma releasedTotal_append (trace events : List WindowEvent) :
    releasedTotal (trace ++ events) = releasedTotal trace + releasedTotal events := by
  simp [releasedTotal]

lemma Runs.credit (h : Runs width start trace w) (ack : UInt64) :
    Runs width start (trace ++ [.credited (w.applyCredit ack).1]) (w.applyCredit ack).2 := by
  obtain ⟨hwindow, -, hreleased⟩ := w.window_applyCredit ack
  have hone := w.window.applyCredit_credited ack.toNat
  rw [← hwindow, ← hreleased] at hone
  have htotal := h.total
  have hsubmissions : submissions (trace ++ [.credited (w.applyCredit ack).1]) =
      submissions trace := by simp [submissions, WindowEvent.isSubmitted]
  have hnext : (w.applyCredit ack).2.window.nextSequence = w.window.nextSequence := by
    rw [hwindow, CreditWindow.applyCredit_next]
  constructor
  · have hwidth : (w.applyCredit ack).2.window.width = w.window.width := by
      rw [hwindow, CreditWindow.applyCredit_width]
    exact (UInt32.toNat_inj.mp hwidth).trans h.width_eq
  · rw [hsubmissions, ← h.next]
    exact hnext
  · have hsum : releasedTotal [.credited (w.applyCredit ack).1] =
        (w.applyCredit ack).1.released.toNat := by simp [releasedTotal, WindowEvent.released]
    rw [releasedTotal_append, hsum, ← Nat.add_assoc, htotal]
    exact hone.symm
  · intro hfits
    rw [hwindow]
    apply CreditWindow.applyCredit_valid
    apply h.valid
    rwa [← hsubmissions]

lemma Runs.submit (h : Runs width start trace w) (hguard : w.canSubmit = true) :
    Runs width start (trace ++ [.submitted w.noteSubmitted.1]) w.noteSubmitted.2 := by
  have hsubmissions : submissions (trace ++ [.submitted w.noteSubmitted.1]) =
      submissions trace + 1 := by simp [submissions, WindowEvent.isSubmitted]
  have hnext := h.next
  constructor
  · exact h.width_eq
  · rw [hsubmissions]
    change (w.nextSequence + 1).toNat = _
    rw [UInt64.toNat_add, hnext]
    simp [Nat.add_assoc]
  · have hsum : releasedTotal [.submitted w.noteSubmitted.1] = 0 := rfl
    rw [releasedTotal_append, hsum]
    exact h.total
  · intro hfits
    have hvalid := h.valid (by omega)
    have hroom : w.nextSequence.toNat + 1 < 2 ^ 64 := by
      rw [hnext, Nat.mod_eq_of_lt (by omega)]
      omega
    rw [window_noteSubmitted hroom]
    apply CreditWindow.noteSubmitted_valid hvalid
    rw [← window_canSubmit hvalid.credited_le]
    exact hguard

lemma Runs.step {i : WindowCall} (h : Runs width start trace w)
    (hs : w.step i = some (w', events)) : Runs width start (trace ++ events) w' := by
  cases i with
  | submit =>
    rw [CreditWords.step, Option.ite_none_right_eq_some] at hs
    obtain ⟨hguard, heq⟩ := hs.imp_right Option.some.inj
    cases heq
    exact h.submit hguard
  | credit ack =>
    cases hs
    exact h.credit ack

lemma runs_of_reaches (hreach : machine.Reaches anyStep (w.reset start) trace w') :
    Runs w.width start trace w' := by
  refine hreach.traceInvariant (Runs w.width start) ?_ ?_
  · refine ⟨rfl, ?_, rfl, fun _ => CreditWindow.reset_valid w.window start.toNat⟩
    have hlt := UInt64.toNat_lt start
    exact (Nat.mod_eq_of_lt hlt).symm
  · intro trace s i s' events h _ hs
    exact h.step hs

end CreditWords

open CreditWords in
/-- In every run from `reset start` the credited end moves up from `start` by what was released
and a refused ack changes nothing; up to the last word the window stays within its width. Two
lists with the same acks lead from any state to the same state and the same total. -/
theorem credit_cumulative (w : CreditWords) (start : UInt64) :
    (∀ trace s, machine.Reaches anyStep (w.reset start) trace s →
      start ≤ s.creditedEnd ∧ start.toNat + releasedTotal trace = s.creditedEnd.toNat ∧
      (∀ ack, (s.applyCredit ack).1.status ≠ .ok → (s.applyCredit ack).2 = s) ∧
      (start.toNat + submissions trace < 2 ^ 64 → s.creditedEnd ≤ s.nextSequence ∧
        s.nextSequence.toNat ≤ s.creditedEnd.toNat + w.width.toNat)) ∧
    ∀ (s : CreditWords) (acks acks' : List UInt64), (∀ ack, ack ∈ acks ↔ ack ∈ acks') →
      s.applyCredits acks = s.applyCredits acks' ∧
      (s.applyCredits acks).2.creditedEnd.toNat = max s.creditedEnd.toNat
        ((acks.toFinset.filter (· < s.nextSequence)).sup fun ack => ack.toNat + 1) := by
  constructor
  · intro trace s hreach
    have h := runs_of_reaches hreach
    have htotal := h.total
    refine ⟨UInt64.le_iff_toNat_le.mpr (by omega), htotal, fun ack hrefused => ?_,
      fun hfits => ?_⟩
    · unfold applyCredit at hrefused ⊢
      dsimp only at hrefused ⊢
      split_ifs at hrefused ⊢ <;> first | rfl | exact absurd rfl hrefused
    · obtain ⟨hcredited, hnext⟩ := h.valid hfits
      rw [← h.width_eq]
      exact ⟨UInt64.le_iff_toNat_le.mpr hcredited, hnext⟩
  · intro s acks acks' hsame
    have hsets : acks.toFinset = acks'.toFinset := by
      ext ack
      rw [List.mem_toFinset, List.mem_toFinset]
      exact hsame ack
    have hwindow := s.window_applyCredits acks
    have hstates : (s.applyCredits acks).2 = (s.applyCredits acks').2 := by
      apply window_injective
      rw [hwindow, hsets, ← window_applyCredits]
    have htotal := s.applyCredits_total acks
    have htotal' := s.applyCredits_total acks'
    rw [← hstates] at htotal'
    refine ⟨Prod.ext (by omega) hstates, ?_⟩
    exact congrArg CreditWindow.creditedEnd hwindow

/-- Two acks in either order, one of them twice and one that is refused. -/
theorem credit_cumulative_sample :
    ∃ trace s, CreditWords.machine.Reaches anyStep
        (CreditWords.reset { ringDepth := 8, width := 4 } 7) trace s ∧
      s.nextSequence.toNat ≤ s.creditedEnd.toNat + 4 ∧
      s.applyCredits [7, 8, 99, 7] = s.applyCredits [8, 99, 7] := by
  obtain ⟨trace, s, hreach, hfits⟩ := CreditWords.machine.exists_of_run anyStep
    (CreditWords.reset { ringDepth := 8, width := 4 } 7) [.submit, .submit, .credit 7, .submit]
    (P := fun _ trace => 7 + submissions trace < 2 ^ 64) (by decide +kernel)
  obtain ⟨hruns, hlists⟩ := credit_cumulative { ringDepth := 8, width := 4 } 7
  obtain ⟨-, -, -, hbounds⟩ := hruns trace s hreach
  exact ⟨trace, s, hreach, (hbounds hfits).2, (hlists s _ _ (by simp)).1⟩

/-- A window that starts at the last word: one submission, which the guard allows, wraps the next
sequence to zero, below the credited end. -/
theorem credit_window_wraps :
    ∃ trace s, CreditWords.machine.Reaches anyStep
        (CreditWords.reset { ringDepth := 8, width := 4 } (2 ^ 64 - 1)) trace s ∧
      ¬ s.creditedEnd ≤ s.nextSequence :=
  CreditWords.machine.exists_of_run anyStep
    (CreditWords.reset { ringDepth := 8, width := 4 } (2 ^ 64 - 1)) [.submit] (by decide +kernel)

end TangoBulk
