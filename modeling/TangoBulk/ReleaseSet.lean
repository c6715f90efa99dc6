import TangoBulk.ReleaseTracker
import Mathlib.Order.Bounds.Basic

/-! The release tracker refines a set: whatever calls were made, its prefix end, its count
and its bitmap are functions of the sequences accepted since the last reset, and so are its
answers. -/
namespace TangoBulk
namespace ReleaseTracker

/-! ### The bits past the depth -/

/-- The unused bits of the last word are clear. -/
def Tidy (t : ReleaseTracker) : Prop := ∀ b, t.ringDepth ≤ b → Bitmap.test t.words b = false

variable {t : ReleaseTracker}

lemma turn_tidy (held : ℕ) (h : t.Tidy) : (t.turn held).Tidy := by
  intro b hb
  have hwords : (t.turn held).words = Bitmap.clear t.words (t.releasedEnd % t.ringDepth) := rfl
  rw [hwords, Bitmap.test_clear (by decide), h b hb, Bool.and_false]

lemma record_tidy (hc : t.Counted) (h : t.Tidy) (q : ℕ) : (t.record q).Tidy := by
  intro b hb
  have hdepth : (t.record q).ringDepth = t.ringDepth := rfl
  have hwords : (t.record q).words = Bitmap.set t.words (q % t.ringDepth) := rfl
  have hlt := Nat.mod_lt q hc.depth_pos
  have hne : q % t.ringDepth ≠ b := by omega
  rw [hwords, Bitmap.test_set (by decide) (bit_in_words hc q), h b (hdepth ▸ hb)]
  simp [hne]

lemma absorb_tidy (held : ℕ) (h : t.Tidy) : (absorb held t).Tidy := by
  induction held generalizing t with
  | zero => exact h
  | succ held ih =>
    rw [absorb]
    split_ifs
    · exact ih (turn_tidy held h)
    · exact h

lemma release_tidy (hw : t.WellFormed) (h : t.Tidy) (q : ℕ) : (t.release q).2.Tidy := by
  unfold release
  split
  · exact h
  · split
    · exact h
    · split
      · exact h
      · split
        · exact h
        · exact absorb_tidy _ (record_tidy hw.toCounted h q)

lemma reset_tidy (t : ReleaseTracker) (n : ℕ) : (t.reset n).Tidy := by
  intro b hb
  have hwords : (t.reset n).words = List.replicate t.words.length 0 := List.map_const' ..
  rw [hwords]
  exact Bitmap.test_replicate_zero (by decide) _ _

/-! ### The answer to the first unreleased sequence -/

lemma Recorded.advanced_iff {after : ReleaseTracker} {q : ℕ} {answer : Release} (h : t.WellFormed)
    (hr : Recorded t q answer after) : t.releasedEnd < after.releasedEnd ↔ q = t.releasedEnd := by
  constructor
  · intro hlt
    have hrel : after.Released t.releasedEnd := .inl hlt
    rcases (hr.added _).mp hrel with hold | heq
    · exact absurd hold (not_released_end h)
    · exact heq.symm
  · rintro rfl
    have hrel : after.Released t.releasedEnd := (hr.added _).mpr (.inr rfl)
    have hne : t.releasedEnd ≠ after.releasedEnd := fun he =>
      not_released_end hr.wellFormed (he ▸ hrel)
    have hgrown := hr.grown
    omega

lemma release_advanced_iff {q : ℕ} (hr : Recorded t q (t.release q).1 (t.release q).2) :
    (t.release q).1 = .advanced ↔ t.releasedEnd < (t.release q).2.releasedEnd := by
  have hlow : ¬ q < t.releasedEnd := fun hlt => hr.fresh (.inl hlt)
  have htest : ¬ t.test q = true := fun ht => hr.fresh (.inr ⟨hr.inside, ht⟩)
  have hin := hr.inside
  have hanswer := hr.answered
  revert hanswer
  unfold release
  rw [if_neg hlow]
  cases hadd : addOverflow t.releasedEnd t.ringDepth with
  | none => simp
  | some windowEnd =>
    have hend : ¬ windowEnd ≤ q := by
      have hsome : windowEnd = t.releasedEnd + t.ringDepth := by
        unfold addOverflow at hadd
        split_ifs at hadd
        exact (Option.some.inj hadd).symm
      omega
    dsimp only
    rw [if_neg hend, if_neg htest]
    intro
    split_ifs with hmoved <;> simp [hmoved]

end ReleaseTracker

/-! ### Runs of calls -/

inductive TrackerCall
  | reset (firstSequence : ℕ)
  | release (sequence : ℕ)
  | takePendingAck
  | markAckFailed

/-- A tracker with what it was told: the first sequence of the epoch and the sequences
accepted since. -/
structure TrackedSet where
  tracker : ReleaseTracker
  first : ℕ := 0
  accepted : Finset ℕ := ∅

namespace TrackedSet

def create (ringDepth : ℕ) : TrackedSet := { tracker := .create ringDepth }

def call (s : TrackedSet) : TrackerCall → TrackedSet
  | .reset firstSequence =>
    { tracker := s.tracker.reset firstSequence, first := firstSequence, accepted := ∅ }
  | .release sequence =>
    let (answer, tracker) := s.tracker.release sequence
    { s with
      tracker
      accepted :=
        if answer = .advanced ∨ answer = .recorded then insert sequence s.accepted
        else s.accepted }
  | .takePendingAck => { s with tracker := s.tracker.takePendingAck.2 }
  | .markAckFailed => { s with tracker := s.tracker.markAckFailed }

def run (ringDepth : ℕ) (calls : List TrackerCall) : TrackedSet :=
  calls.foldl call (create ringDepth)

/-- The tracker's released sequences are those below the epoch and the accepted ones. -/
structure Tracks (depth : ℕ) (s : TrackedSet) : Prop where
  wellFormed : s.tracker.WellFormed
  tidy : s.tracker.Tidy
  depth : s.tracker.ringDepth = depth
  epoch : s.tracker.start = s.first
  later : ∀ q ∈ s.accepted, s.first ≤ q
  released : ∀ q, s.tracker.Released q ↔ q < s.first ∨ q ∈ s.accepted

variable {depth : ℕ} {s : TrackedSet}

lemma reset_released {t : ReleaseTracker} (h : t.WellFormed) (n q : ℕ) :
    (t.reset n).Released q ↔ q < n := by
  have hbit : (t.reset n).test q = false := by
    rw [ReleaseTracker.reset_eq h]
    exact Bitmap.test_replicate_zero (by decide) _ _
  have hend : (t.reset n).releasedEnd = n := rfl
  unfold ReleaseTracker.Released
  rw [hend, hbit]
  simp

lemma reset_wellFormed {t : ReleaseTracker} (h : t.WellFormed) (n : ℕ) :
    (t.reset n).WellFormed := by
  have hbit : ∀ q, (t.reset n).test q = false := fun q => by
    rw [ReleaseTracker.reset_eq h]
    exact Bitmap.test_replicate_zero (by decide) _ _
  refine ⟨⟨h.depth_pos, ?_, le_refl _, ?_⟩, hbit _⟩
  · simpa [ReleaseTracker.reset] using h.sized
  · rw [eq_comm, show (t.reset n).heldAhead = 0 from rfl, Finset.card_eq_zero,
      Finset.eq_empty_iff_forall_notMem]
    intro q hq
    rw [ReleaseTracker.mem_ahead, hbit q] at hq
    exact absurd hq.2.2 (by simp)

lemma create_tracks (hpos : 0 < depth) : Tracks depth (create depth) where
  wellFormed := ReleaseTracker.create_wellFormed hpos
  tidy := fun _ _ => Bitmap.test_replicate_zero (by decide) _ _
  depth := rfl
  epoch := rfl
  later := by simp [create]
  released := fun q => by
    have hnone : ¬ (ReleaseTracker.create depth).Released q := ReleaseTracker.create_released
    simp [hnone, create]

lemma Tracks.ack (h : Tracks depth s) (last : ℕ) (sent : Bool) :
    Tracks depth { s with tracker := { s.tracker with lastAckSent := last, ackSent := sent } } :=
  { h with wellFormed := ReleaseTracker.wellFormed_ack h.wellFormed last sent }

lemma Tracks.release (h : Tracks depth s) (q : ℕ) : Tracks depth (s.call (.release q)) := by
  obtain ⟨-, he⟩ | ⟨-, he⟩ | hr := ReleaseTracker.release_cases h.wellFormed q
  · have hsame : s.call (.release q) = s := by simp [call, he]
    rw [hsame]
    exact h
  · have hsame : s.call (.release q) = s := by simp [call, he]
    rw [hsame]
    exact h
  · have hnext : s.call (.release q) =
        { s with tracker := (s.tracker.release q).2, accepted := insert q s.accepted } := by
      simp [call, hr.answered]
    have hlate : s.first ≤ q := not_lt.mp fun hlt => hr.fresh ((h.released q).mpr (.inl hlt))
    rw [hnext]
    exact {
      wellFormed := hr.wellFormed
      tidy := ReleaseTracker.release_tidy h.wellFormed h.tidy q
      depth := hr.depth.trans h.depth
      epoch := hr.epoch.trans h.epoch
      later := fun p hp => by
        rcases Finset.mem_insert.mp hp with rfl | hp
        · exact hlate
        · exact h.later p hp
      released := fun p => by
        rw [hr.added p, h.released p, Finset.mem_insert]
        tauto }

lemma Tracks.call (h : Tracks depth s) (c : TrackerCall) : Tracks depth (s.call c) := by
  cases c with
  | reset n =>
    exact {
      wellFormed := reset_wellFormed h.wellFormed n
      tidy := ReleaseTracker.reset_tidy _ n
      depth := h.depth
      epoch := rfl
      later := by simp [TrackedSet.call]
      released := fun q => by
        rw [TrackedSet.call, reset_released h.wellFormed]
        simp }
  | release q => exact h.release q
  | takePendingAck =>
    rw [TrackedSet.call]
    obtain he | ⟨-, he⟩ := s.tracker.takePendingAck_cases
    · rw [he]
      exact h
    · rw [he]
      exact h.ack _ _
  | markAckFailed => exact h.ack _ _

lemma run_tracks (hpos : 0 < depth) (calls : List TrackerCall) :
    Tracks depth (run depth calls) := by
  have hfold : ∀ (calls : List TrackerCall) (s : TrackedSet), Tracks depth s →
      Tracks depth (calls.foldl TrackedSet.call s) := by
    intro calls
    induction calls with
    | nil => exact fun s h => h
    | cons c calls ih => exact fun s h => ih (s.call c) (h.call c)
  exact hfold calls _ (create_tracks hpos)

/-! ### What the set determines -/

/-- The tracker's fields as functions of the accepted set. -/
structure Refines (s : TrackedSet) : Prop where
  least : IsLeast {n | s.first ≤ n ∧ n ∉ s.accepted} s.tracker.releasedEnd
  held : s.tracker.heldAhead = (s.accepted.filter (s.tracker.releasedEnd < ·)).card
  bits : ∀ b, Bitmap.test s.tracker.words b = true ↔
    ∃ q ∈ s.accepted, s.tracker.releasedEnd < q ∧ q % s.tracker.ringDepth = b

/-- The answer to each sequence as a function of the accepted set. -/
structure Answers (s : TrackedSet) (q : ℕ) : Prop where
  duplicate : (s.tracker.release q).1 = .duplicate ↔
    q < s.tracker.releasedEnd ∨ q ∈ s.accepted
  outOfWindow : (s.tracker.release q).1 = .outOfWindow ↔
    s.tracker.releasedEnd + s.tracker.ringDepth ≤ q
  advanced : (s.tracker.release q).1 = .advanced ↔ q = s.tracker.releasedEnd
  recorded : (s.tracker.release q).1 = .recorded ↔
    ¬ (q < s.tracker.releasedEnd ∨ q ∈ s.accepted) ∧
      ¬ s.tracker.releasedEnd + s.tracker.ringDepth ≤ q ∧ q ≠ s.tracker.releasedEnd

lemma Tracks.ahead_eq (h : Tracks depth s) :
    s.tracker.ahead = s.accepted.filter (s.tracker.releasedEnd < ·) := by
  ext q
  have hstart := h.wellFormed.started
  have hfirst := h.epoch
  have hend := ReleaseTracker.not_released_end h.wellFormed
  rw [ReleaseTracker.mem_ahead, Finset.mem_filter]
  constructor
  · rintro ⟨hlo, hhi, ht⟩
    have hrel : s.tracker.Released q := .inr ⟨hhi, ht⟩
    have hne : q ≠ s.tracker.releasedEnd := fun he => hend (he ▸ hrel)
    rcases (h.released q).mp hrel with hlt | hmem
    · omega
    · exact ⟨hmem, by omega⟩
  · rintro ⟨hmem, hlt⟩
    rcases (h.released q).mpr (.inr hmem) with hlow | ⟨hhi, ht⟩
    · omega
    · exact ⟨by omega, hhi, ht⟩

lemma Tracks.refines (h : Tracks depth s) : Refines s where
  least := by
    have hend := mt (h.released s.tracker.releasedEnd).mpr
      (ReleaseTracker.not_released_end h.wellFormed)
    constructor
    · exact ⟨not_lt.mp fun hlt => hend (.inl hlt), fun hmem => hend (.inr hmem)⟩
    · rintro n ⟨hfirst, hnot⟩
      by_contra hlt
      have hrel : s.tracker.Released n := .inl (not_le.mp hlt)
      rcases (h.released n).mp hrel with hlow | hmem
      · omega
      · exact hnot hmem
  held := h.ahead_eq ▸ h.wellFormed.held
  bits := fun b => by
    constructor
    · intro ht
      have hb : b < s.tracker.ringDepth := by
        by_contra hge
        rw [h.tidy b (not_lt.mp hge)] at ht
        cases ht
      obtain ⟨q, hlo, hhi, rfl⟩ := Ring.exists_index s.tracker.releasedEnd hb
      have hmem : q ∈ s.tracker.ahead := ReleaseTracker.mem_ahead.mpr ⟨hlo, hhi, ht⟩
      rw [h.ahead_eq, Finset.mem_filter] at hmem
      exact ⟨q, hmem.1, hmem.2, rfl⟩
    · rintro ⟨q, hmem, hlt, rfl⟩
      have hahead : q ∈ s.tracker.ahead := by
        rw [h.ahead_eq, Finset.mem_filter]
        exact ⟨hmem, hlt⟩
      exact (ReleaseTracker.mem_ahead.mp hahead).2.2

lemma Tracks.released_iff (h : Tracks depth s) (q : ℕ) :
    s.tracker.Released q ↔ q < s.tracker.releasedEnd ∨ q ∈ s.accepted := by
  have hstart := h.wellFormed.started
  have hfirst := h.epoch
  constructor
  · intro hrel
    exact ((h.released q).mp hrel).imp_left fun hlt => by omega
  · rintro (hlt | hmem)
    · exact .inl hlt
    · exact (h.released q).mpr (.inr hmem)

lemma Tracks.released_inside (h : Tracks depth s) {q : ℕ} (hrel : s.tracker.Released q) :
    q < s.tracker.releasedEnd + s.tracker.ringDepth := by
  have hpos := h.wellFormed.depth_pos
  rcases hrel with hlt | ⟨hhi, -⟩ <;> omega

lemma Tracks.answers (h : Tracks depth s)
    (hfit : s.tracker.releasedEnd + s.tracker.ringDepth < 2 ^ 64) (q : ℕ) : Answers s q := by
  have hiff := h.released_iff q
  have hpos := h.wellFormed.depth_pos
  have hend := ReleaseTracker.not_released_end h.wellFormed
  obtain ⟨hrel, he⟩ | ⟨hout, he⟩ | hr := ReleaseTracker.release_cases h.wellFormed q
  · have hin := h.released_inside hrel
    have hne : q ≠ s.tracker.releasedEnd := fun heq => hend (heq ▸ hrel)
    have hset := hiff.mp hrel
    constructor
    · simp [he, hset]
    · simp [he, hin]
    · simp [he, hne]
    · simp [he, hset]
  · have hge : s.tracker.releasedEnd + s.tracker.ringDepth ≤ q := by omega
    have hset : ¬ (q < s.tracker.releasedEnd ∨ q ∈ s.accepted) := fun hset => by
      have := h.released_inside (hiff.mpr hset)
      omega
    constructor
    · simp only [he, hset, reduceCtorEq]
    · simp [he, hge]
    · have hne : q ≠ s.tracker.releasedEnd := by omega
      simp [he, hne]
    · simp [he, hge]
  · have hset := mt hiff.mpr hr.fresh
    have hin := hr.inside
    have hadv : (s.tracker.release q).1 = .advanced ↔ q = s.tracker.releasedEnd :=
      (ReleaseTracker.release_advanced_iff hr).trans (hr.advanced_iff h.wellFormed)
    constructor
    · rcases hr.answered with he | he <;> simp only [he, hset, reduceCtorEq]
    · rcases hr.answered with he | he <;> simp [he, hin]
    · exact hadv
    · rcases hr.answered with he | he
      · rw [he]
        simp [hadv.mp he]
      · have hne : q ≠ s.tracker.releasedEnd := fun heq => by
          rw [hadv.mpr heq] at he
          cases he
        simp only [he, hset, hne, not_false_eq_true, true_and, ne_eq, and_true, true_iff]
        omega

end TrackedSet

/-- Whatever calls a tracker of any depth has served, its fields are those of the set of
sequences it accepted since the last reset, and so is its answer to every sequence while the
window end fits 64 bits. -/
theorem releaseTracker_refines_set {depth : ℕ} (hpos : 0 < depth) (calls : List TrackerCall) :
    (TrackedSet.run depth calls).tracker.ringDepth = depth ∧ (TrackedSet.run depth calls).Refines ∧
    ((TrackedSet.run depth calls).tracker.releasedEnd + depth < 2 ^ 64 →
      ∀ q, (TrackedSet.run depth calls).Answers q) := by
  have h := TrackedSet.run_tracks hpos calls
  refine ⟨h.depth, h.refines, fun hfit q => ?_⟩
  exact h.answers (h.depth.symm ▸ hfit) q

/-- A depth that is no multiple of the word size: a release ahead, a duplicate, one past the
window, and the one that moves the prefix over both. -/
theorem releaseTracker_refines_set_sample :
    (TrackedSet.run 65 [.reset 7, .release 8, .release 8, .release 72, .release 7]).Refines ∧
    (TrackedSet.run 65 [.reset 7, .release 8, .release 8, .release 72, .release 7]).accepted =
      {7, 8} ∧
    (TrackedSet.run 65 [.reset 7, .release 8, .release 8, .release 72, .release 7]).Answers 73 := by
  have h := releaseTracker_refines_set (show 0 < 65 by decide)
    [.reset 7, .release 8, .release 8, .release 72, .release 7]
  exact ⟨h.2.1, by decide +kernel, h.2.2 (by decide +kernel) 73⟩

end TangoBulk
