import TangoBulk.SubscriberWindow

/-! What one step of a running session can do: which sequence it takes, which sequences it can
release or put into a slot, and what it leaves alone. -/
namespace TangoBulk

open ByteString Transition Function

/-! ### What a step of the ring takes and releases -/

namespace SubscriberEngine

lemma Explains.frame {e : SubscriberEngine} {i : SubscriberInput} {a : RingAction} {q : ℕ}
    (h : Explains e i a) (hq : a.takes = some q) :
    ∃ frame length, FrameOf e i frame length ∧ q = frame.sequence.toNat := by
  cases a with
  | drop | refuse | discard | deliver | start =>
    cases hq
    obtain ⟨frame, length, hf, heq, -⟩ := h
    exact ⟨frame, length, hf, heq⟩
  | _ => cases hq

end SubscriberEngine

namespace ReceiveRing

variable {r : ReceiveRing}

lemma Accounted.pending_lt (h : r.Accounted) {k : ℕ} (hk : r.pending k = true) : k < r.depth := by
  rw [← h.held k hk]
  exact Nat.mod_lt _ h.depth_pos

lemma Windowed.holder (h : r.Windowed) {k : ℕ} (hk : r.occupied k = true) :
    r.holding k % r.depth = k ∧
      (r.pending k = true ∨ r.holding k ∈ r.leases ++ r.returns.items) := by
  have hacc := h.account k
  rw [hk, Bool.toNat_true] at hacc
  cases hp : r.pending k with
  | true => exact ⟨h.held k hp, .inl rfl⟩
  | false =>
    rw [hp, Bool.toNat_false] at hacc
    have hmem : k ∈ r.heldSlots := List.count_pos_iff.mp (by omega)
    obtain ⟨q, hq, rfl⟩ := List.mem_map.mp hmem
    rw [h.described q hq]
    exact ⟨rfl, .inr hq⟩

lemma Windowed.holds_fresh (h : r.Windowed) {q : ℕ} (hq : r.Holds q) :
    ¬ r.tracker.Released q ∧ q < r.tracker.releasedEnd + r.depth := by
  obtain ⟨-, hpending | hmem⟩ := h.holder hq.1
  · have hfresh := h.pendingFresh _ hpending
    rw [hq.2] at hfresh
    exact hfresh
  · rw [hq.2] at hmem
    exact h.fresh q hmem

lemma respects_of_fresh {a : RingAction} (h : ∀ q, a.takes = some q →
    (q < r.tracker.releasedEnd + r.depth ∧ ¬ r.tracker.Released q) ∧ ¬ r.Holds q) :
    r.Respects a := by
  cases a with
  | drop q => exact (h q rfl).2
  | deliver q | start q => exact (h q rfl).1
  | _ => trivial

end ReceiveRing

section Steps

variable {r r' : ReceiveRing} {a : RingAction} {es : List SubscriberEvent}

lemma RingStep.depths (h : r.Windowed) (hs : RingStep r a r' es) :
    r'.depth = r.depth ∧ r'.tracker.ringDepth = r.tracker.ringDepth ∧
      r'.tracker.start = r.tracker.start := by
  cases hs with
  | drop q =>
    exact ⟨rfl, ReleaseTracker.release_depth h.tracked q, ReleaseTracker.release_start h.tracked q⟩
  | discard q | drain q =>
    exact ⟨rfl, ReleaseTracker.release_depth h.tracked q, ReleaseTracker.release_start h.tracked q⟩
  | ack =>
    obtain htake | ⟨-, htake⟩ := r.tracker.takePendingAck_cases
    all_goals
      rw [htake]
      exact ⟨rfl, rfl, rfl⟩
  | _ => exact ⟨rfl, rfl, rfl⟩

lemma RingStep.grown (h : r.Windowed) (hs : RingStep r a r' es) :
    r.tracker.releasedEnd ≤ r'.tracker.releasedEnd := by
  cases hs with
  | drop q | discard q | drain q =>
    exact ReleaseTracker.release_grown h.tracked q
  | ack =>
    obtain htake | ⟨-, htake⟩ := r.tracker.takePendingAck_cases
    all_goals rw [htake]
  | _ => exact le_refl _

lemma RingStep.released_from (h : r.Windowed) (hs : RingStep r a r' es) {p : ℕ}
    (hp : r'.tracker.Released p) : r.tracker.Released p ∨ r.Holds p ∨ a.takes = some p := by
  cases hs with
  | drop q | discard q =>
    by_cases hpq : p = q
    · exact .inr (.inr (congrArg some hpq.symm))
    · exact .inl ((ReleaseTracker.release_other h.tracked hpq).mp hp)
  | drain q queue oldest =>
    by_cases hpq : p = q
    · subst hpq
      refine .inr (.inl (h.holds ?_))
      rw [(Fifo.pop_eq_some.mp oldest).1]
      simp
    · exact .inl ((ReleaseTracker.release_other h.tracked hpq).mp hp)
  | ack =>
    obtain htake | ⟨-, htake⟩ := r.tracker.takePendingAck_cases
    all_goals
      rw [htake] at hp
      exact .inl hp
  | _ => exact .inl hp

/-- A sequence that is in its slot after a step was there or is the one the step takes. -/
lemma RingStep.holds_from (hs : RingStep r a r' es) {p : ℕ} (hp : r'.Holds p) :
    r.Holds p ∨ a.takes = some p := by
  have hfilled : ∀ q, update r.occupied (q % r.depth) true (p % r.depth) = true →
      update r.holding (q % r.depth) q (p % r.depth) = p → r.Holds p ∨ q = p := by
    intro q hocc hhold
    by_cases hslot : p % r.depth = q % r.depth
    · rw [hslot, update_self] at hhold
      exact .inr hhold
    · rw [update_of_ne hslot] at hocc hhold
      exact .inl ⟨hocc, hhold⟩
  have hdescribed : ∀ q, r.occupied (q % r.depth) = false → r.occupied (p % r.depth) = true →
      update r.holding (q % r.depth) q (p % r.depth) = p → r.Holds p := by
    intro q hvacant hocc hhold
    have hslot : p % r.depth ≠ q % r.depth := by
      intro heq
      rw [heq, hvacant] at hocc
      cases hocc
    rw [update_of_ne hslot] at hhold
    exact ⟨hocc, hhold⟩
  have hemptied : ∀ k, update r.occupied k false (p % r.depth) = true →
      r.holding (p % r.depth) = p → r.Holds p := by
    intro k hocc hhold
    have hslot : p % r.depth ≠ k := by
      rintro rfl
      simp at hocc
    rw [update_of_ne hslot] at hocc
    exact ⟨hocc, hhold⟩
  cases hs with
  | refuse q vacant | discard q vacant => exact .inl (hdescribed q vacant hp.1 hp.2)
  | deliver q | start q =>
    exact (hfilled q hp.1 hp.2).imp_right (congrArg some)
  | abort k started => exact .inl (hemptied k hp.1 hp.2)
  | drain q queue oldest => exact .inl (hemptied _ hp.1 hp.2)
  | _ => exact .inl hp

lemma RingStep.accepted (h : r.Windowed) (hs : RingStep r a r' es)
    (htaken : ∀ q, a.takes = some q →
      q < r.tracker.releasedEnd + r.depth ∧ q + r.tracker.ringDepth < 2 ^ 64)
    (hheld : ∀ q, r.Holds q → q + r.tracker.ringDepth < 2 ^ 64) {q : ℕ} {answer : Release}
    (hq : .released q answer ∈ es) : answer ≠ .outOfWindow := by
  have hdepth := h.depth_le
  cases hs with
  | drop p | discard p =>
    obtain ⟨rfl, rfl⟩ : q = p ∧ answer = (r.tracker.release p).1 := by simpa using hq
    obtain ⟨hin, hfit⟩ := htaken q rfl
    exact ReleaseTracker.release_accepted h.tracked (by omega) hfit
  | drain p queue oldest =>
    obtain ⟨rfl, rfl⟩ : q = p ∧ answer = (r.tracker.release p).1 := by simpa using hq
    have hmem : q ∈ r.leases ++ r.returns.items := by
      rw [(Fifo.pop_eq_some.mp oldest).1]
      simp
    have hin := (h.fresh q hmem).2
    exact ReleaseTracker.release_accepted h.tracked (by omega) (hheld q (h.holds hmem))
  | _ => simp at hq

end Steps

/-! ### What a running session keeps -/

namespace SubscriberEngine

variable {e e' e'' : SubscriberEngine}

/-- How many frames found their slot occupied or their sequence released. -/
def repeated (e : SubscriberEngine) : ℕ := e.counters .droppedDuplicateSeq

/-- No frame was counted as repeated, the engine stays open, and a failure stays. -/
structure Keeps (e e' : SubscriberEngine) : Prop where
  repeated : e'.repeated = e.repeated
  closing : e'.closing = e.closing
  failure : e'.failure = none → e.failure = none

lemma Keeps.refl (e : SubscriberEngine) : e.Keeps e := ⟨rfl, rfl, id⟩

lemma Keeps.trans (h : e.Keeps e') (h' : e'.Keeps e'') : e.Keeps e'' :=
  ⟨h'.repeated.trans h.repeated, h'.closing.trans h.closing, fun hf => h.failure (h'.failure hf)⟩

lemma keeps_bump {c : SubscriberCounter} (hc : c ≠ .droppedDuplicateSeq) (n : ℕ) :
    e.Keeps (e.bump c n) :=
  ⟨update_of_ne hc.symm _ _, rfl, id⟩

lemma keeps_fail (e : SubscriberEngine) (status : Status) (reason : String) :
    e.Keeps (e.fail status reason) :=
  ⟨rfl, rfl, fun hf => absurd hf (fail_failure e status reason)⟩

lemma keeps_commit (e : SubscriberEngine) (k : ℕ) : e.Keeps (e.commit k).1 := by
  have hbump : e.Keeps (e.bump .framesReceived 1) := keeps_bump (by decide) 1
  exact ⟨hbump.repeated, rfl, id⟩

lemma keeps_dropReleased {c : SubscriberCounter} (hc : c ≠ .droppedDuplicateSeq)
    (frame : FrameHeader) : e.Keeps (e.dropReleased c frame).1 := by
  have hbump : e.Keeps (e.bump c 1) := keeps_bump hc 1
  exact ⟨hbump.repeated, rfl, id⟩

lemma keeps_receive (e : SubscriberEngine) (frame : FrameHeader) (k length : ℕ)
    (arrival : Arrival) : e.Keeps (e.receive frame k length arrival).1 := by
  have hclaim : e.Keeps (e.claimSlot frame k) := ⟨rfl, rfl, id⟩
  have hvacate : e.Keeps ((e.claimSlot frame k).vacate k) := ⟨rfl, rfl, id⟩
  cases arrival with
  | rndv answer =>
    cases answer with
    | refused => exact (hvacate.trans (keeps_bump (by decide) 1)).trans (keeps_fail _ _ _)
    | completed => exact hclaim.trans (keeps_commit _ k)
    | inProgress => exact ⟨rfl, rfl, id⟩
  | eager =>
    unfold receive
    split_ifs
    · have hreleased : e.Keeps
          (((e.claimSlot frame k).vacate k).releaseSequence frame.sequence.toNat).1 :=
        ⟨rfl, rfl, id⟩
      exact (hreleased.trans (keeps_bump (by decide) 1)).trans (keeps_fail _ _ _)
    · exact (hclaim.trans (keeps_bump (by decide) length)).trans (keeps_commit _ k)

lemma keeps_handleFrame {header : Bytes} (length : ℕ) (arrival : Arrival)
    (hnew : ∀ frame, decodeFrame header = .ok frame → e.repeats frame = false) :
    e.Keeps (e.handleFrame header length arrival).1 := by
  unfold handleFrame handleSessionFrame
  dsimp only
  split_ifs
  · exact .refl e
  · split
    case h_1 => exact keeps_bump (by decide) 1
    case h_2 frame hdecode =>
      have hfresh := hnew frame hdecode
      split_ifs with hstream hepoch harray hlength hsize hrepeats
      · exact keeps_bump (by decide) 1
      · exact keeps_bump (by decide) 1
      · exact (keeps_dropReleased (by decide) frame).trans (keeps_fail _ _ _)
      · exact keeps_dropReleased (by decide) frame
      · exact keeps_dropReleased (by decide) frame
      · exact absurd hrepeats (by simpa [repeats] using hfresh)
      · exact e.keeps_receive frame _ length arrival

lemma keeps_onRndvComplete (e : SubscriberEngine) (k : ℕ) (success : Bool) :
    e.Keeps (e.onRndvComplete k success).1 := by
  have hretired : e.Keeps { e with
      pending := update e.pending k false
      rndvInflight := e.rndvInflight - 1 } := ⟨rfl, rfl, id⟩
  cases success with
  | true => exact hretired.trans (keeps_commit _ k)
  | false =>
    have hvacate : e.Keeps ({ e with
        pending := update e.pending k false
        rndvInflight := e.rndvInflight - 1 }.vacate k) := ⟨rfl, rfl, id⟩
    exact (hvacate.trans (keeps_bump (by decide) 1)).trans (keeps_fail _ _ _)

lemma keeps_releaseView (e : SubscriberEngine) (q : ℕ) : e.Keeps (e.releaseView q) := by
  have hbump : e.Keeps (e.bump .creditsReturned 1) := keeps_bump (by decide) 1
  unfold releaseView returnCredit
  split <;> exact ⟨hbump.repeated, rfl, id⟩

lemma keeps_sendPendingCredit (e : SubscriberEngine) (accepted : Bool) :
    e.Keeps (e.sendPendingCredit accepted).1 := by
  unfold sendPendingCredit
  split
  · exact .refl e
  · rename_i ack tracker htake
    have hsent : e.Keeps { e with tracker } := ⟨rfl, rfl, id⟩
    have hfailed : e.Keeps { e with tracker := tracker.markAckFailed } := ⟨rfl, rfl, id⟩
    split_ifs
    · exact hsent.trans (keeps_bump (by decide) 1)
    · exact hfailed.trans (keeps_bump (by decide) 1)

lemma keeps_onProbe (e : SubscriberEngine) (header : Bytes) : e.Keeps (e.onProbe header) := by
  unfold onProbe
  split
  · exact keeps_bump (by decide) 1
  · split_ifs
    · exact keeps_bump (by decide) 1
    · exact ⟨rfl, rfl, id⟩

lemma keeps_sendPendingProbeAck (e : SubscriberEngine) (accepted : Bool) :
    e.Keeps (e.sendPendingProbeAck accepted).1 := by
  unfold sendPendingProbeAck
  split_ifs
  · exact .refl e
  · exact keeps_bump (by decide) 1
  all_goals exact ⟨rfl, rfl, id⟩

end SubscriberEngine

/-- The inputs of a running session other than its frames. -/
def SubscriberInput.running : SubscriberInput → Bool
  | .frame _ _ _ | .quiesce => false
  | _ => true

lemma subscriberStep_keeps {e e' : SubscriberEngine} {i : SubscriberInput}
    {es : List SubscriberEvent} (hi : i.running = true) (h : subscriberStep e i = some (e', es)) :
    e.Keeps e' := by
  cases i with
  | frame => cases hi
  | rndvComplete k success =>
    obtain ⟨-, rfl, -⟩ := of_guard h
    exact e.keeps_onRndvComplete k success
  | releaseView q =>
    obtain ⟨-, rfl, -⟩ := of_guard h
    exact e.keeps_releaseView q
  | drain =>
    simp only [subscriberStep] at h
    split_ifs at h
    obtain ⟨⟨q, queue⟩, -, heq⟩ := Option.map_eq_some_iff.mp h
    obtain rfl : _ = e' := congrArg Prod.fst heq
    split_ifs <;> exact ⟨rfl, rfl, id⟩
  | sendCredit accepted =>
    simp only [subscriberStep] at h
    split_ifs at h
    obtain ⟨rfl, -⟩ := of_some_eq h
    exact e.keeps_sendPendingCredit accepted
  | creditFailed =>
    cases h
    have hfailed : e.Keeps { e with tracker := e.tracker.markAckFailed } := ⟨rfl, rfl, id⟩
    exact hfailed.trans (SubscriberEngine.keeps_bump (by decide) 1)
  | probe header =>
    cases h
    exact e.keeps_onProbe header
  | sendProbeAck accepted =>
    simp only [subscriberStep] at h
    split_ifs at h
    obtain ⟨rfl, -⟩ := of_some_eq h
    exact e.keeps_sendPendingProbeAck accepted
  | quiesce => cases hi

end TangoBulk
