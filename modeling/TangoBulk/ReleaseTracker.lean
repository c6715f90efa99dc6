import TangoBulk.CreditWindow
import TangoBulk.Geometry
import TangoBulk.LibBitmap
import TangoBulk.LibRing
import Mathlib.Data.Finset.Card
import Mathlib.Order.Interval.Finset.Nat

/-! The subscriber's half of the credit protocol: out-of-order releases are recorded in a
bitmap of `ringDepth` bits and reassembled into one contiguous released prefix. `Released`
is the set of sequences the tracker stands for, and `release` adds one element to it. -/
namespace TangoBulk

def kBitsPerWord : ℕ := 64

def wordCount (ringDepth : ℕ) : ℕ := (ringDepth + kBitsPerWord - 1) / kBitsPerWord

structure ReleaseTracker where
  ringDepth : ℕ
  words : List (BitVec kBitsPerWord)
  start : ℕ := 0
  releasedEnd : ℕ := 0
  heldAhead : ℕ := 0
  lastAckSent : ℕ := 0
  ackSent : Bool := false
  deriving DecidableEq

inductive Release
  | advanced | recorded | duplicate | outOfWindow
  deriving DecidableEq

namespace ReleaseTracker

def create (ringDepth : ℕ) : ReleaseTracker :=
  { ringDepth, words := List.replicate (wordCount ringDepth) 0 }

def test (t : ReleaseTracker) (sequence : ℕ) : Bool :=
  Bitmap.test t.words (sequence % t.ringDepth)

def set (t : ReleaseTracker) (sequence : ℕ) : ReleaseTracker :=
  { t with words := Bitmap.set t.words (sequence % t.ringDepth) }

def clear (t : ReleaseTracker) (sequence : ℕ) : ReleaseTracker :=
  { t with words := Bitmap.clear t.words (sequence % t.ringDepth) }

/-- The loop that moves the released prefix over recorded sequences. It runs while
`heldAhead` is positive, so that counter is the recursion argument. -/
def absorb : ℕ → ReleaseTracker → ReleaseTracker
  | 0, t => t
  | held + 1, t =>
    if t.test t.releasedEnd then
      absorb held { t.clear t.releasedEnd with heldAhead := held, releasedEnd := t.releasedEnd + 1 }
    else t

def release (t : ReleaseTracker) (sequence : ℕ) : Release × ReleaseTracker :=
  if sequence < t.releasedEnd then (.duplicate, t)
  else
    match addOverflow t.releasedEnd t.ringDepth with
    | none => (.outOfWindow, t)
    | some windowEnd =>
      if windowEnd ≤ sequence then (.outOfWindow, t)
      else if t.test sequence then (.duplicate, t)
      else
        let recorded := { t.set sequence with heldAhead := t.heldAhead + 1 }
        let after := absorb recorded.heldAhead recorded
        (if t.releasedEnd < after.releasedEnd then .advanced else .recorded, after)

/-- Fetch the ack to send, if it differs from the last one fetched. The first released
sequence is compared with the first of the epoch, not with zero. -/
def takePendingAck (t : ReleaseTracker) : Option ℕ × ReleaseTracker :=
  if t.releasedEnd = t.start then (none, t)
  else if t.ackSent ∧ t.releasedEnd - 1 = t.lastAckSent then (none, t)
  else (some (t.releasedEnd - 1),
    { t with lastAckSent := t.releasedEnd - 1, ackSent := true })

def markAckFailed (t : ReleaseTracker) : ReleaseTracker := { t with ackSent := false }

def reset (t : ReleaseTracker) (firstSequence : ℕ) : ReleaseTracker :=
  { t with
    words := t.words.map fun _ => 0
    start := firstSequence
    releasedEnd := firstSequence
    heldAhead := 0
    lastAckSent := 0
    ackSent := false }

/-! ### The set of released sequences -/

/-- Below the prefix, or recorded ahead of it. -/
def Released (t : ReleaseTracker) (q : ℕ) : Prop :=
  q < t.releasedEnd ∨ (q < t.releasedEnd + t.ringDepth ∧ t.test q = true)

instance (t : ReleaseTracker) (q : ℕ) : Decidable (t.Released q) := by
  unfold Released; infer_instance

/-- The recorded sequences at or above the prefix end. -/
def ahead (t : ReleaseTracker) : Finset ℕ :=
  (Finset.Ico t.releasedEnd (t.releasedEnd + t.ringDepth)).filter fun q => t.test q = true

/-- The bitmap has room for the window and `heldAhead` counts its set bits. -/
structure Counted (t : ReleaseTracker) : Prop where
  depth_pos : 0 < t.ringDepth
  sized : t.words.length = wordCount t.ringDepth
  started : t.start ≤ t.releasedEnd
  held : t.heldAhead = t.ahead.card

/-- Between calls the prefix is also maximal. -/
structure WellFormed (t : ReleaseTracker) : Prop extends Counted t where
  maximal : t.test t.releasedEnd = false

variable {t : ReleaseTracker} {q p : ℕ}

lemma mem_ahead :
    q ∈ t.ahead ↔ t.releasedEnd ≤ q ∧ q < t.releasedEnd + t.ringDepth ∧ t.test q = true := by
  simp [ahead, and_assoc]

lemma bit_in_words (h : t.Counted) (q : ℕ) : q % t.ringDepth / kBitsPerWord < t.words.length := by
  have hlt := Nat.mod_lt q h.depth_pos
  rw [h.sized, wordCount, kBitsPerWord]
  omega

lemma test_set (h : t.Counted) (q p : ℕ) :
    (t.set q).test p = (decide (q % t.ringDepth = p % t.ringDepth) || t.test p) :=
  Bitmap.test_set (by decide) (bit_in_words h q) _

lemma test_clear (t : ReleaseTracker) (q p : ℕ) :
    (t.clear q).test p = (!decide (q % t.ringDepth = p % t.ringDepth) && t.test p) :=
  Bitmap.test_clear (by decide) _ _ _

/-- One turn of the loop: the first recorded sequence becomes part of the prefix. -/
def turn (t : ReleaseTracker) (held : ℕ) : ReleaseTracker :=
  { t.clear t.releasedEnd with heldAhead := held, releasedEnd := t.releasedEnd + 1 }

lemma turn_test (held : ℕ) (hlo : t.releasedEnd + 1 ≤ q)
    (hhi : q < t.releasedEnd + 1 + t.ringDepth) :
    (t.turn held).test q = (decide (q < t.releasedEnd + t.ringDepth) && t.test q) := by
  have hstep : (t.turn held).test q = (t.clear t.releasedEnd).test q := rfl
  rw [hstep, test_clear]
  rcases Nat.lt_or_ge q (t.releasedEnd + t.ringDepth) with hlt | hge
  · have hne : t.releasedEnd % t.ringDepth ≠ q % t.ringDepth :=
      Ring.index_ne (le_refl _) (by omega) (by omega) hlt (by omega)
    simp [hne, hlt]
  · have hq : q = t.releasedEnd + t.ringDepth := by omega
    simp [hq]

lemma turn_ahead (held : ℕ) : (t.turn held).ahead = t.ahead.erase t.releasedEnd := by
  ext q
  rw [Finset.mem_erase, mem_ahead, mem_ahead]
  have hend : (t.turn held).releasedEnd = t.releasedEnd + 1 := rfl
  have hdepth : (t.turn held).ringDepth = t.ringDepth := rfl
  rw [hend, hdepth]
  constructor
  · rintro ⟨hlo, hhi, ht⟩
    rw [turn_test held hlo hhi, Bool.and_eq_true, decide_eq_true_eq] at ht
    exact ⟨by omega, by omega, ht.1, ht.2⟩
  · rintro ⟨hne, hlo, hhi, ht⟩
    refine ⟨by omega, by omega, ?_⟩
    rw [turn_test held (by omega) (by omega), ht, decide_eq_true hhi]
    rfl

lemma turn_counted {held : ℕ} (h : t.Counted) (hheld : t.heldAhead = held + 1)
    (ht : t.test t.releasedEnd = true) : (t.turn held).Counted := by
  have hpos := h.depth_pos
  have hstart := h.started
  refine ⟨h.depth_pos, ?_, ?_, ?_⟩
  · have hs := h.sized
    simpa [turn, clear] using hs
  · simp only [turn, clear]
    omega
  · have hmem : t.releasedEnd ∈ t.ahead := mem_ahead.mpr ⟨le_refl _, by omega, ht⟩
    have hcard := h.held
    rw [turn_ahead, Finset.card_erase_of_mem hmem, ← hcard, hheld]
    rfl

lemma turn_released (held : ℕ) (h : t.Counted) (ht : t.test t.releasedEnd = true) (q : ℕ) :
    (t.turn held).Released q ↔ t.Released q := by
  have hpos := h.depth_pos
  have hend : (t.turn held).releasedEnd = t.releasedEnd + 1 := rfl
  have hdepth : (t.turn held).ringDepth = t.ringDepth := rfl
  unfold Released
  rw [hend, hdepth]
  constructor
  · rintro (hlt | ⟨hhi, hq⟩)
    · rcases Nat.lt_or_eq_of_le (Nat.le_of_lt_succ hlt) with hlt | rfl
      · exact .inl hlt
      · exact .inr ⟨by omega, ht⟩
    · rcases Nat.lt_or_ge q (t.releasedEnd + 1) with hlt | hge
      · rcases Nat.lt_or_eq_of_le (Nat.le_of_lt_succ hlt) with hlt | rfl
        · exact .inl hlt
        · exact .inr ⟨by omega, ht⟩
      · rw [turn_test held hge hhi, Bool.and_eq_true, decide_eq_true_eq] at hq
        exact .inr hq
  · rintro (hlt | ⟨hhi, hq⟩)
    · exact .inl (by omega)
    · rcases Nat.lt_or_ge q (t.releasedEnd + 1) with hlt | hge
      · exact .inl hlt
      · refine .inr ⟨by omega, ?_⟩
        rw [turn_test held hge (by omega), hq, decide_eq_true hhi]
        rfl

/-- What the loop leaves behind. -/
structure Absorbed (before after : ReleaseTracker) : Prop where
  wellFormed : after.WellFormed
  released : ∀ q, after.Released q ↔ before.Released q
  grown : before.releasedEnd ≤ after.releasedEnd
  depth : after.ringDepth = before.ringDepth
  epoch : after.start = before.start
  acks : after.lastAckSent = before.lastAckSent ∧ after.ackSent = before.ackSent

lemma absorb_absorbed (h : t.Counted) : Absorbed t (absorb t.heldAhead t) := by
  generalize hheld : t.heldAhead = held
  induction held generalizing t with
  | zero =>
    have hmax : t.test t.releasedEnd = false := by
      by_contra hne
      have hpos := h.depth_pos
      have hmem : t.releasedEnd ∈ t.ahead :=
        mem_ahead.mpr ⟨le_refl _, by omega, by simpa using hne⟩
      have hcard := h.held
      rw [hheld, eq_comm, Finset.card_eq_zero] at hcard
      simp [hcard] at hmem
    exact ⟨⟨h, hmax⟩, fun _ => Iff.rfl, le_refl _, rfl, rfl, rfl, rfl⟩
  | succ held ih =>
    rw [absorb]
    split_ifs with ht
    · obtain ⟨hwf, hrel, hgrow, hdepth, hepoch, hacks⟩ :=
        ih (turn_counted h hheld ht) rfl
      have hend : (t.turn held).releasedEnd = t.releasedEnd + 1 := rfl
      refine ⟨hwf, fun q => (hrel q).trans (turn_released held h ht q), ?_, hdepth, hepoch, hacks⟩
      exact le_trans (by omega) hgrow
    · exact ⟨⟨h, by simpa using ht⟩, fun _ => Iff.rfl, le_refl _, rfl, rfl, rfl, rfl⟩

/-- Record `q` ahead of the prefix, before the loop runs. -/
def record (t : ReleaseTracker) (q : ℕ) : ReleaseTracker :=
  { t.set q with heldAhead := t.heldAhead + 1 }

lemma record_test (h : t.Counted) (hlo : t.releasedEnd ≤ q)
    (hhi : q < t.releasedEnd + t.ringDepth) (hplo : t.releasedEnd ≤ p)
    (hphi : p < t.releasedEnd + t.ringDepth) :
    (t.record q).test p = (decide (p = q) || t.test p) := by
  have hstep : (t.record q).test p = (t.set q).test p := rfl
  have hiff : q % t.ringDepth = p % t.ringDepth ↔ p = q :=
    ⟨fun he => (Ring.index_injective hlo hhi hplo hphi he).symm, fun he => by rw [he]⟩
  rw [hstep, test_set h]
  simp only [hiff]

lemma record_counted (h : t.Counted) (hlo : t.releasedEnd ≤ q)
    (hhi : q < t.releasedEnd + t.ringDepth) (hq : t.test q = false) : (t.record q).Counted := by
  refine ⟨h.depth_pos, ?_, h.started, ?_⟩
  · have hs := h.sized
    simpa [record, set] using hs
  · have hins : (t.record q).ahead = insert q t.ahead := by
      ext p
      rw [Finset.mem_insert, mem_ahead, mem_ahead]
      have hend : (t.record q).releasedEnd = t.releasedEnd := rfl
      have hdepth : (t.record q).ringDepth = t.ringDepth := rfl
      rw [hend, hdepth]
      constructor
      · rintro ⟨hplo, hphi, hp⟩
        rw [record_test h hlo hhi hplo hphi, Bool.or_eq_true, decide_eq_true_eq] at hp
        exact hp.imp_right fun hp => ⟨hplo, hphi, hp⟩
      · rintro (rfl | ⟨hplo, hphi, hp⟩)
        · exact ⟨hlo, hhi, by rw [record_test h hlo hhi hlo hhi]; simp⟩
        · exact ⟨hplo, hphi, by rw [record_test h hlo hhi hplo hphi, hp]; simp⟩
    have hnot : q ∉ t.ahead := fun hmem => by
      rw [mem_ahead, hq] at hmem
      exact absurd hmem.2.2 (by simp)
    rw [hins, Finset.card_insert_of_notMem hnot, ← h.held]
    rfl

lemma record_released (h : t.Counted) (hlo : t.releasedEnd ≤ q)
    (hhi : q < t.releasedEnd + t.ringDepth) (p : ℕ) :
    (t.record q).Released p ↔ t.Released p ∨ p = q := by
  have hend : (t.record q).releasedEnd = t.releasedEnd := rfl
  have hdepth : (t.record q).ringDepth = t.ringDepth := rfl
  unfold Released
  rw [hend, hdepth]
  rcases Nat.lt_or_ge p t.releasedEnd with hp | hp
  · simp [hp]
  · rcases Nat.lt_or_ge p (t.releasedEnd + t.ringDepth) with hphi | hphi
    · rw [record_test h hlo hhi hp hphi, Bool.or_eq_true, decide_eq_true_eq]
      simp only [hphi, true_and]
      tauto
    · have hne : p ≠ q := by omega
      simp [hne, not_lt.mpr hphi]

/-- What recording a new sequence leaves behind. -/
structure Recorded (t : ReleaseTracker) (q : ℕ) (answer : Release) (after : ReleaseTracker) :
    Prop where
  fresh : ¬ t.Released q
  inside : q < t.releasedEnd + t.ringDepth
  answered : answer = .advanced ∨ answer = .recorded
  added : ∀ p, after.Released p ↔ t.Released p ∨ p = q
  wellFormed : after.WellFormed
  grown : t.releasedEnd ≤ after.releasedEnd
  depth : after.ringDepth = t.ringDepth
  epoch : after.start = t.start
  acks : after.lastAckSent = t.lastAckSent ∧ after.ackSent = t.ackSent

/-- A release answers by the sequence's place: already released, beyond the window (or the
window end does not fit 64 bits), or new, and then it becomes the one added element. -/
lemma release_cases (h : t.WellFormed) (q : ℕ) :
    (t.Released q ∧ t.release q = (.duplicate, t)) ∨
    ((t.releasedEnd + t.ringDepth ≤ q ∨ 2 ^ 64 ≤ t.releasedEnd + t.ringDepth) ∧
      t.release q = (.outOfWindow, t)) ∨
    Recorded t q (t.release q).1 (t.release q).2 := by
  rcases Nat.lt_or_ge q t.releasedEnd with hlow | hlow
  · exact .inl ⟨.inl hlow, by simp [release, hlow]⟩
  have hnlow : ¬ q < t.releasedEnd := not_lt.mpr hlow
  by_cases hfit : t.releasedEnd + t.ringDepth < 2 ^ 64
  case neg =>
    have hadd : addOverflow t.releasedEnd t.ringDepth = none := if_neg hfit
    exact .inr (.inl ⟨.inr (not_lt.mp hfit), by simp [release, hnlow, hadd]⟩)
  have hadd : addOverflow t.releasedEnd t.ringDepth = some (t.releasedEnd + t.ringDepth) :=
    if_pos hfit
  rcases Nat.lt_or_ge q (t.releasedEnd + t.ringDepth) with hhi | hhi
  case inr => exact .inr (.inl ⟨.inl hhi, by simp [release, hnlow, hadd, hhi]⟩)
  have hnhi : ¬ t.releasedEnd + t.ringDepth ≤ q := not_le.mpr hhi
  cases htest : t.test q with
  | true => exact .inl ⟨.inr ⟨hhi, htest⟩, by simp [release, hnlow, hadd, hnhi, htest]⟩
  | false =>
    have habs := absorb_absorbed (record_counted h.toCounted hlow hhi htest)
    have hans : t.release q = (if t.releasedEnd <
        (absorb (t.record q).heldAhead (t.record q)).releasedEnd then .advanced else .recorded,
        absorb (t.record q).heldAhead (t.record q)) := by
      rw [release, if_neg hnlow, hadd]
      dsimp only
      rw [if_neg hnhi, if_neg (by simp [htest])]
      rfl
    rw [hans]
    refine .inr (.inr
      { fresh := ?_, inside := hhi, answered := ?_, added := fun p => ?_,
        wellFormed := habs.wellFormed, grown := habs.grown, depth := habs.depth,
        epoch := habs.epoch, acks := habs.acks })
    · rintro (hlt | ⟨-, ht⟩)
      · omega
      · simp [ht] at htest
    · split <;> simp
    · exact (habs.released p).trans (record_released h.toCounted hlow hhi p)

lemma release_wellFormed (h : t.WellFormed) (q : ℕ) : (t.release q).2.WellFormed := by
  obtain ⟨-, he⟩ | ⟨-, he⟩ | hr := release_cases h q
  · rw [he]; exact h
  · rw [he]; exact h
  · exact hr.wellFormed

lemma release_depth (h : t.WellFormed) (q : ℕ) : (t.release q).2.ringDepth = t.ringDepth := by
  obtain ⟨-, he⟩ | ⟨-, he⟩ | hr := release_cases h q
  · rw [he]
  · rw [he]
  · exact hr.depth

lemma release_start (h : t.WellFormed) (q : ℕ) : (t.release q).2.start = t.start := by
  obtain ⟨-, he⟩ | ⟨-, he⟩ | hr := release_cases h q
  · rw [he]
  · rw [he]
  · exact hr.epoch

lemma release_grown (h : t.WellFormed) (q : ℕ) : t.releasedEnd ≤ (t.release q).2.releasedEnd := by
  obtain ⟨-, he⟩ | ⟨-, he⟩ | hr := release_cases h q
  · rw [he]
  · rw [he]
  · exact hr.grown

lemma release_other (h : t.WellFormed) (hne : p ≠ q) :
    (t.release q).2.Released p ↔ t.Released p := by
  obtain ⟨-, he⟩ | ⟨-, he⟩ | hr := release_cases h q
  · rw [he]
  · rw [he]
  · rw [hr.added p]
    simp [hne]

lemma release_self (h : t.WellFormed) (hin : q < t.releasedEnd + t.ringDepth)
    (hfit : t.releasedEnd + t.ringDepth < 2 ^ 64) : (t.release q).2.Released q := by
  obtain ⟨hq, he⟩ | ⟨hout, -⟩ | hr := release_cases h q
  · rw [he]
    exact hq
  · omega
  · exact (hr.added q).mpr (.inr rfl)

lemma release_mono (h : t.WellFormed) (hp : t.Released p) : (t.release q).2.Released p := by
  obtain ⟨-, he⟩ | ⟨-, he⟩ | hr := release_cases h q
  · rw [he]
    exact hp
  · rw [he]
    exact hp
  · exact (hr.added p).mpr (.inl hp)

lemma release_settles (h : t.WellFormed) (hin : q < t.releasedEnd + t.ringDepth)
    (hfit : q + t.ringDepth < 2 ^ 64) : (t.release q).2.Released q := by
  rcases Nat.lt_or_ge q t.releasedEnd with hlow | hlow
  · exact release_mono h (.inl hlow)
  · exact release_self h hin (by omega)

lemma release_acks (h : t.WellFormed) (q : ℕ) :
    (t.release q).2.lastAckSent = t.lastAckSent ∧ (t.release q).2.ackSent = t.ackSent := by
  obtain ⟨-, he⟩ | ⟨-, he⟩ | hr := release_cases h q
  · rw [he]
    exact ⟨rfl, rfl⟩
  · rw [he]
    exact ⟨rfl, rfl⟩
  · exact hr.acks

lemma release_accepted (h : t.WellFormed) (hin : q < t.releasedEnd + t.ringDepth)
    (hfit : q + t.ringDepth < 2 ^ 64) : (t.release q).1 ≠ .outOfWindow := by
  by_cases hlow : q < t.releasedEnd
  · simp [release, hlow]
  obtain ⟨-, he⟩ | ⟨hout, -⟩ | hr := release_cases h q
  · simp [he]
  · omega
  · rcases hr.answered with he | he <;> simp [he]

lemma create_wellFormed {depth : ℕ} (h : 0 < depth) : (create depth).WellFormed := by
  have hbit : ∀ q, (create depth).test q = false := fun q =>
    Bitmap.test_replicate_zero (by decide) _ _
  refine ⟨⟨h, by simp [create], le_refl _, ?_⟩, hbit _⟩
  rw [eq_comm, show (create depth).heldAhead = 0 from rfl, Finset.card_eq_zero,
    Finset.eq_empty_iff_forall_notMem]
  intro q hq
  rw [mem_ahead, hbit q] at hq
  exact absurd hq.2.2 (by simp)

lemma create_released {depth : ℕ} : ¬ (create depth).Released q := by
  have hbit : (create depth).test q = false := Bitmap.test_replicate_zero (by decide) _ _
  rintro (hlt | ⟨-, ht⟩)
  · simp [create] at hlt
  · simp [hbit] at ht

lemma reset_eq (h : t.WellFormed) (n : ℕ) :
    t.reset n = { create t.ringDepth with start := n, releasedEnd := n } := by
  have hwords : (t.words.map fun _ => (0 : BitVec kBitsPerWord)) =
      List.replicate (wordCount t.ringDepth) 0 := by
    rw [List.map_const', h.sized]
  simp only [reset, create, hwords]

lemma takePendingAck_cases (t : ReleaseTracker) :
    t.takePendingAck = (none, t) ∨
    (t.releasedEnd ≠ t.start ∧ t.takePendingAck = (some (t.releasedEnd - 1),
      { t with lastAckSent := t.releasedEnd - 1, ackSent := true })) := by
  unfold takePendingAck
  split_ifs with h1 h2
  · exact .inl rfl
  · exact .inl rfl
  · exact .inr ⟨h1, rfl⟩

lemma wellFormed_ack (h : t.WellFormed) (last : ℕ) (sent : Bool) :
    { t with lastAckSent := last, ackSent := sent }.WellFormed :=
  ⟨⟨h.depth_pos, h.sized, h.started, h.held⟩, h.maximal⟩

lemma not_released_end (h : t.WellFormed) : ¬ t.Released t.releasedEnd := by
  rintro (hlt | ⟨-, ht⟩)
  · omega
  · rw [h.maximal] at ht
    cases ht

end ReleaseTracker

end TangoBulk
