import TangoBulk.ReleaseSet

/-! The acks of a release tracker. Each one covers a released prefix, and repeated takes
never offer the same ack twice. -/
namespace TangoBulk
namespace ReleaseTracker

/-! ### What a release leaves alone -/

/-- A release moves the prefix end forward and touches neither the epoch nor the acks. -/
structure Advances (t t' : ReleaseTracker) : Prop where
  grown : t.releasedEnd ≤ t'.releasedEnd
  depth : t'.ringDepth = t.ringDepth
  epoch : t'.start = t.start
  last : t'.lastAckSent = t.lastAckSent
  sent : t'.ackSent = t.ackSent

lemma Advances.refl (t : ReleaseTracker) : t.Advances t :=
  ⟨le_rfl, rfl, rfl, rfl, rfl⟩

lemma absorb_advances (held : ℕ) (t : ReleaseTracker) : t.Advances (absorb held t) := by
  induction held generalizing t with
  | zero => exact .refl t
  | succ held ih =>
    rw [absorb]
    split_ifs
    · have hturn := ih (t.turn held)
      have hend : t.releasedEnd ≤ (t.turn held).releasedEnd := Nat.le_succ _
      exact ⟨hend.trans hturn.grown, hturn.depth, hturn.epoch, hturn.last, hturn.sent⟩
    · exact .refl t

lemma release_advances (t : ReleaseTracker) (q : ℕ) : t.Advances (t.release q).2 := by
  unfold release
  split
  · exact .refl t
  · split
    · exact .refl t
    · split
      · exact .refl t
      · split
        · exact .refl t
        · have hrecorded := absorb_advances (t.heldAhead + 1) (t.record q)
          exact ⟨hrecorded.grown, hrecorded.depth, hrecorded.epoch, hrecorded.last,
            hrecorded.sent⟩

lemma release_zero {t : ReleaseTracker} (h : t.ringDepth = 0) (q : ℕ) :
    (t.release q).2 = t ∧ (t.release q).1 ≠ .advanced ∧ (t.release q).1 ≠ .recorded := by
  have hadd : addOverflow t.releasedEnd t.ringDepth = none ∨
      addOverflow t.releasedEnd t.ringDepth = some t.releasedEnd := by
    rw [h, addOverflow]
    split_ifs <;> simp
  unfold release
  by_cases hlow : q < t.releasedEnd
  · simp [hlow]
  · obtain hadd | hadd := hadd
    · simp [hlow, hadd]
    · simp [hlow, hadd, not_lt.mp hlow]

lemma takePendingAck_some {t : ReleaseTracker} {ack : ℕ} (h : t.takePendingAck.1 = some ack) :
    t.releasedEnd ≠ t.start ∧ ack = t.releasedEnd - 1 ∧
      (t.ackSent = true → t.releasedEnd - 1 ≠ t.lastAckSent) ∧
      t.takePendingAck.2 = { t with lastAckSent := ack, ackSent := true } := by
  unfold takePendingAck at h ⊢
  split_ifs at h ⊢ with hstart hsent
  cases h
  exact ⟨hstart, rfl, fun hs he => hsent ⟨hs, he⟩, rfl⟩

lemma takePendingAck_none {t : ReleaseTracker} (h : t.takePendingAck.1 = none) :
    (t.releasedEnd = t.start ∨ t.ackSent = true ∧ t.releasedEnd - 1 = t.lastAckSent) ∧
      t.takePendingAck.2 = t := by
  unfold takePendingAck at h ⊢
  split_ifs at h ⊢ with hstart hsent
  · exact ⟨.inl hstart, rfl⟩
  · exact ⟨.inr hsent, rfl⟩

end ReleaseTracker

/-- The calls that neither report an ack lost nor start a new epoch. -/
def TrackerCall.keepsAcks : TrackerCall → Bool
  | .release _ | .takePendingAck => true
  | .reset _ | .markAckFailed => false

namespace TrackedSet

lemma run_append (depth : ℕ) (calls more : List TrackerCall) :
    run depth (calls ++ more) = more.foldl call (run depth calls) :=
  List.foldl_append ..

lemma run_concat (depth : ℕ) (calls : List TrackerCall) (c : TrackerCall) :
    run depth (calls ++ [c]) = (run depth calls).call c :=
  run_append depth calls [c]

/-! ### The prefix is released -/

/-- Everything from the first sequence of the epoch up to the prefix end was accepted, and the
end itself was not. -/
structure Covered (s : TrackedSet) : Prop where
  epoch : s.tracker.start = s.first
  started : s.first ≤ s.tracker.releasedEnd
  accepted : ∀ q, s.first ≤ q → q < s.tracker.releasedEnd → q ∈ s.accepted
  open_end : s.tracker.releasedEnd ∉ s.accepted

variable {s : TrackedSet}

lemma Tracks.covered {depth : ℕ} (h : Tracks depth s) : s.Covered := by
  obtain ⟨⟨hfirst, hend⟩, -⟩ := h.refines.least
  refine ⟨h.epoch, hfirst, fun q hq hlt => ?_, hend⟩
  obtain hlow | hmem := (h.released q).mp (.inl hlt)
  · omega
  · exact hmem

/-- A tracker of depth zero accepts nothing, so it never leaves the start of its epoch. -/
structure Idle (s : TrackedSet) : Prop where
  depth : s.tracker.ringDepth = 0
  epoch : s.tracker.start = s.first
  still : s.tracker.releasedEnd = s.first
  none : s.accepted = ∅

lemma Idle.call (h : s.Idle) (c : TrackerCall) : (s.call c).Idle := by
  cases c with
  | reset => exact ⟨h.depth, rfl, rfl, rfl⟩
  | release q =>
    obtain ⟨hsame, hadvanced, hrecorded⟩ := ReleaseTracker.release_zero h.depth q
    have hcall : s.call (.release q) = s := by simp [TrackedSet.call, hsame, hadvanced, hrecorded]
    rw [hcall]
    exact h
  | takePendingAck =>
    rw [TrackedSet.call]
    obtain he | ⟨-, he⟩ := s.tracker.takePendingAck_cases
    · rw [he]
      exact h
    · rw [he]
      exact ⟨h.depth, h.epoch, h.still, h.none⟩
  | markAckFailed => exact ⟨h.depth, h.epoch, h.still, h.none⟩

lemma run_idle (calls : List TrackerCall) : (run 0 calls).Idle := by
  induction calls using List.reverseRecOn with
  | nil => exact ⟨rfl, rfl, rfl, rfl⟩
  | append_singleton calls c ih =>
    rw [run_concat]
    exact ih.call c

lemma run_covered (depth : ℕ) (calls : List TrackerCall) : (run depth calls).Covered := by
  rcases Nat.eq_zero_or_pos depth with rfl | hpos
  · have h := run_idle calls
    refine ⟨h.epoch, h.still.ge, fun q hq hlt => ?_, by simp [h.none]⟩
    rw [h.still] at hlt
    omega
  · exact (run_tracks hpos calls).covered

/-! ### Acks between two takes -/

/-- An ack was handed out and is remembered, or a later one is. -/
structure Handed (ack : ℕ) (t : ReleaseTracker) : Prop where
  sent : t.ackSent = true
  grown : ack ≤ t.lastAckSent
  inside : t.lastAckSent < t.releasedEnd

lemma handed_of_take {ack : ℕ} (h : s.Covered) (htake : s.tracker.takePendingAck.1 = some ack) :
    Handed ack (s.call .takePendingAck).tracker := by
  obtain ⟨hstart, rfl, -, hnext⟩ := ReleaseTracker.takePendingAck_some htake
  have hepoch := h.epoch
  have hstarted := h.started
  rw [call, hnext]
  refine ⟨rfl, le_rfl, ?_⟩
  dsimp only
  omega

lemma Handed.call {ack : ℕ} {c : TrackerCall} (h : Handed ack s.tracker)
    (hkeeps : c.keepsAcks = true) : Handed ack (s.call c).tracker := by
  cases c with
  | reset | markAckFailed => cases hkeeps
  | release q =>
    have hadv := s.tracker.release_advances q
    have hgrown := hadv.grown
    have hinside := h.inside
    refine ⟨hadv.sent.trans h.sent, ?_, ?_⟩
    · exact h.grown.trans hadv.last.ge
    · change (s.tracker.release q).2.lastAckSent < (s.tracker.release q).2.releasedEnd
      rw [hadv.last]
      omega
  | takePendingAck =>
    have hgrown := h.grown
    have hinside := h.inside
    cases htake : s.tracker.takePendingAck.1 with
    | none =>
      rw [TrackedSet.call, (ReleaseTracker.takePendingAck_none htake).2]
      exact h
    | some =>
      obtain ⟨-, rfl, -, hnext⟩ := ReleaseTracker.takePendingAck_some htake
      rw [TrackedSet.call, hnext]
      refine ⟨rfl, ?_, ?_⟩
      all_goals
        dsimp only
        omega

lemma Handed.calls {ack : ℕ} {calls : List TrackerCall}
    (h : Handed ack s.tracker) (hkeeps : ∀ c ∈ calls, c.keepsAcks = true) :
    Handed ack (calls.foldl TrackedSet.call s).tracker := by
  induction calls generalizing s with
  | nil => exact h
  | cons c calls ih =>
    have hc : c.keepsAcks = true := hkeeps c List.mem_cons_self
    apply ih (h.call hc)
    intro d hd
    exact hkeeps d (List.mem_cons_of_mem c hd)

lemma Handed.lt_of_take {ack later : ℕ} {t : ReleaseTracker} (h : Handed ack t)
    (htake : t.takePendingAck.1 = some later) : ack < later := by
  obtain ⟨-, rfl, hnew, -⟩ := ReleaseTracker.takePendingAck_some htake
  have hne := hnew h.sent
  have hgrown := h.grown
  have hinside := h.inside
  omega

/-! ### Where a remembered ack was handed out -/

/-- Some take among the calls handed this ack out, and nothing has taken it back since. -/
def HandedOut (depth : ℕ) (calls : List TrackerCall) (ack : ℕ) : Prop :=
  ∃ before between, calls = before ++ .takePendingAck :: between ∧
    (run depth before).tracker.takePendingAck.1 = some ack ∧
    ∀ c ∈ between, c.keepsAcks = true

lemma HandedOut.concat {depth ack : ℕ} {calls : List TrackerCall} {c : TrackerCall}
    (h : HandedOut depth calls ack) (hkeeps : c.keepsAcks = true) :
    HandedOut depth (calls ++ [c]) ack := by
  obtain ⟨before, between, rfl, htake, hbetween⟩ := h
  refine ⟨before, between ++ [c], by simp, htake, fun d hd => ?_⟩
  obtain hd | hd := List.mem_append.mp hd
  · exact hbetween d hd
  · rw [List.mem_singleton.mp hd]
    exact hkeeps

lemma handedOut_last (depth : ℕ) (calls : List TrackerCall)
    (hsent : (run depth calls).tracker.ackSent = true) :
    HandedOut depth calls (run depth calls).tracker.lastAckSent := by
  induction calls using List.reverseRecOn with
  | nil => cases hsent
  | append_singleton calls c ih =>
    rw [run_concat] at hsent ⊢
    cases c with
    | reset | markAckFailed => cases hsent
    | release q =>
      have hadv := (run depth calls).tracker.release_advances q
      have hbefore := ih (hadv.sent.symm.trans hsent)
      rw [← hadv.last] at hbefore
      exact hbefore.concat rfl
    | takePendingAck =>
      rw [TrackedSet.call] at hsent ⊢
      cases htake : (run depth calls).tracker.takePendingAck.1 with
      | none =>
        rw [(ReleaseTracker.takePendingAck_none htake).2] at hsent ⊢
        exact (ih hsent).concat rfl
      | some =>
        rw [(ReleaseTracker.takePendingAck_some htake).2.2.2]
        exact ⟨calls, [], rfl, htake, by simp⟩

end TrackedSet

open TrackedSet in
/-- After any calls on a tracker of any depth: an ack on offer is the last sequence of a prefix
that was accepted whole since the reset; it is past every ack handed out since the last failure
or reset; and if none is on offer, nothing was released contiguously or the last one was handed
out and not reported lost. -/
theorem releaseTracker_acks (depth : ℕ) (calls : List TrackerCall) :
    (∀ ack, (run depth calls).tracker.takePendingAck.1 = some ack →
      ack + 1 = (run depth calls).tracker.releasedEnd ∧ (run depth calls).first ≤ ack ∧
      ∀ q, (run depth calls).first ≤ q → q ≤ ack → q ∈ (run depth calls).accepted) ∧
    (∀ before between earlier later, calls = before ++ .takePendingAck :: between →
      (∀ c ∈ between, c.keepsAcks = true) →
      (run depth before).tracker.takePendingAck.1 = some earlier →
      (run depth calls).tracker.takePendingAck.1 = some later → earlier < later) ∧
    ((run depth calls).tracker.takePendingAck.1 = none →
      (run depth calls).first ∉ (run depth calls).accepted ∨
      ∃ ack, ack + 1 = (run depth calls).tracker.releasedEnd ∧ HandedOut depth calls ack) := by
  have hcovered := run_covered depth calls
  have hepoch := hcovered.epoch
  have hstarted := hcovered.started
  refine ⟨fun ack htake => ?_, ?_, fun htake => ?_⟩
  · obtain ⟨hmoved, rfl, -⟩ := ReleaseTracker.takePendingAck_some htake
    refine ⟨by omega, by omega, fun q hq hle => ?_⟩
    exact hcovered.accepted q hq (by omega)
  · rintro before between earlier later rfl hkeeps hearlier hlater
    have hfirst := handed_of_take (run_covered depth before) hearlier
    rw [run_append, List.foldl_cons] at hlater
    exact (hfirst.calls hkeeps).lt_of_take hlater
  · obtain ⟨hstart | ⟨hsent, hlast⟩, -⟩ := ReleaseTracker.takePendingAck_none htake
    · left
      rw [← hepoch, ← hstart]
      exact hcovered.open_end
    · by_cases hmoved : (run depth calls).tracker.releasedEnd = (run depth calls).first
      · left
        rw [← hmoved]
        exact hcovered.open_end
      · right
        refine ⟨(run depth calls).tracker.lastAckSent, by omega, ?_⟩
        exact handedOut_last depth calls hsent

/-- The last ack of a stream fails to be sent and is offered again, in an epoch that starts at
the top of the sequence space. -/
theorem releaseTracker_acks_sample :
    (TrackedSet.run 4 [.reset (2 ^ 64 - 6), .release (2 ^ 64 - 5), .release (2 ^ 64 - 6),
      .takePendingAck]).tracker.takePendingAck.1 = none ∧
    (TrackedSet.run 4 [.reset (2 ^ 64 - 6), .release (2 ^ 64 - 5), .release (2 ^ 64 - 6),
      .takePendingAck, .markAckFailed]).tracker.takePendingAck.1 = some (2 ^ 64 - 5) ∧
    2 ^ 64 - 5 + 1 = (TrackedSet.run 4 [.reset (2 ^ 64 - 6), .release (2 ^ 64 - 5),
      .release (2 ^ 64 - 6), .takePendingAck, .markAckFailed]).tracker.releasedEnd := by
  have hoffered : (TrackedSet.run 4 [.reset (2 ^ 64 - 6), .release (2 ^ 64 - 5),
      .release (2 ^ 64 - 6), .takePendingAck, .markAckFailed]).tracker.takePendingAck.1 =
        some (2 ^ 64 - 5) := by decide +kernel
  exact ⟨by decide +kernel, hoffered, ((releaseTracker_acks 4 _).1 _ hoffered).1⟩

end TangoBulk
