import TangoBulk.CreditProtocol

/-! Conservation of credit. Each sequence that was assigned is on its way, in its receive slot or
released, whatever becomes of its frame, unless the session has failed. -/
namespace TangoBulk

open ByteString Transition Function

namespace ReceiveRing

/-- In its slot, or released. -/
def Settled (r : ReceiveRing) (q : ℕ) : Prop := r.Holds q ∨ r.tracker.Released q

lemma holds_fill {r : ReceiveRing} {p q : ℕ} (vacant : r.occupied (p % r.depth) = false)
    (h : r.Holds q) :
    update r.occupied (p % r.depth) true (q % r.depth) = true ∧
      update r.holding (p % r.depth) p (q % r.depth) = q := by
  have hslot : q % r.depth ≠ p % r.depth := by
    intro heq
    have hocc := h.1
    rw [heq, vacant] at hocc
    cases hocc
  rw [update_of_ne hslot, update_of_ne hslot]
  exact h

end ReceiveRing

section Steps

variable {r r' : ReceiveRing} {a : RingAction} {es : List SubscriberEvent}

lemma ReceiveRing.Windowed.settled_drain (h : r.Windowed) {p q : ℕ} {queue : Fifo ℕ}
    (oldest : r.returns.pop = some (p, queue)) (hfit : q + r.tracker.ringDepth < 2 ^ 64)
    (hq : r.Settled q) :
    { r with
      returns := queue
      occupied := update r.occupied (p % r.depth) false
      tracker := (r.tracker.release p).2 }.Settled q := by
  rcases hq with hheld | hreleased
  · by_cases hpq : q = p
    · subst hpq
      have hin := (h.holds_fresh hheld).2
      have hdepth := h.depth_le
      exact .inr (ReleaseTracker.release_settles h.tracked (by omega) hfit)
    · have hmem : p ∈ r.leases ++ r.returns.items := by
        rw [(Fifo.pop_eq_some.mp oldest).1]
        simp
      have hslot : q % r.depth ≠ p % r.depth := by
        intro heq
        have hother := (h.holds hmem).2
        rw [← heq, hheld.2] at hother
        exact hpq hother
      refine .inl ⟨?_, hheld.2⟩
      dsimp only
      rw [update_of_ne hslot]
      exact hheld.1
  · exact .inr (ReleaseTracker.release_mono h.tracked hreleased)

lemma RingStep.settled (h : r.Windowed) (hs : RingStep r a r' es) (ha : a.fatal = false) {q : ℕ}
    (hfit : q + r.tracker.ringDepth < 2 ^ 64) (hq : r.Settled q) : r'.Settled q := by
  cases hs with
  | drop p => exact hq.imp_right (ReleaseTracker.release_mono h.tracked)
  | refuse | discard => cases ha
  | deliver p n vacant | start p n vacant =>
    exact hq.imp_left (ReceiveRing.holds_fill vacant)
  | abort => cases ha
  | drain p queue oldest => exact h.settled_drain oldest hfit hq
  | ack =>
    obtain htake | ⟨-, htake⟩ := r.tracker.takePendingAck_cases
    all_goals
      rw [htake]
      exact hq
  | _ => exact hq

lemma RingStep.taken_settled (h : r.Windowed) (hs : RingStep r a r' es) (ha : a.fatal = false)
    {q : ℕ} (hq : a.takes = some q) (hin : q < r.tracker.releasedEnd + r.depth)
    (hfit : q + r.tracker.ringDepth < 2 ^ 64) : r'.Settled q := by
  have hdepth := h.depth_le
  cases hs with
  | drop =>
    cases hq
    exact .inr (ReleaseTracker.release_settles h.tracked (by omega) hfit)
  | refuse | discard => cases ha
  | deliver | start =>
    cases hq
    exact .inl ⟨update_self .., update_self ..⟩
  | _ => cases hq

lemma RingStep.acks_from (h : r.Windowed) (hs : RingStep r a r' es)
    (hsent : r'.tracker.ackSent = true) :
    (r.tracker.ackSent = true ∧ r'.tracker.lastAckSent = r.tracker.lastAckSent) ∨
      .acked r'.tracker.lastAckSent ∈ es ∧
        r'.tracker.lastAckSent < r.tracker.releasedEnd := by
  have hrelease : ∀ q, (r.tracker.release q).2.ackSent = true →
      r.tracker.ackSent = true ∧
        (r.tracker.release q).2.lastAckSent = r.tracker.lastAckSent := by
    intro q hq
    obtain ⟨hlast, hack⟩ := ReleaseTracker.release_acks h.tracked q
    exact ⟨hack ▸ hq, hlast⟩
  cases hs with
  | drop q | discard q vacant | drain q queue oldest => exact .inl (hrelease q hsent)
  | ack b sent accepted offered =>
    obtain htake | ⟨hne, htake⟩ := r.tracker.takePendingAck_cases
    · rw [htake] at offered
      cases offered
    · rw [htake] at offered ⊢
      cases offered
      have hstart := h.tracked.started
      exact .inr ⟨List.mem_cons_self, by dsimp only; omega⟩
  | ackFailed => cases hsent
  | _ => exact .inl ⟨hsent, rfl⟩

end Steps

/-! ### The invariant -/

namespace CreditLink

variable {depth : ℕ} {s s' : CreditLink} {trace : List LinkEvent}

/-- The publisher submits frames of the session's epoch that pass the decoder's own checks. -/
def honest (s : CreditLink) : LinkInput → Prop
  | .submit item _ => item.generation = s.engine.granted.generation ∧ checkFrame item = .ok ()
  | _ => True

instance (s : CreditLink) (i : LinkInput) : Decidable (s.honest i) := by
  cases i <;> (simp only [honest]; infer_instance)

/-- The frame will be recognised as one of the session. -/
def Addressed (s : CreditLink) (header : FrameHeader) : Prop :=
  header.streamId = s.engine.streamId ∧ header.generation = s.engine.granted.generation ∧
    checkFrame header = .ok ()

structure Conserved (trace : List LinkEvent) (s : CreditLink) : Prop where
  running : s.engine.closing = false
  started : s.engine.ring.tracker.start = 0
  addressed : ∀ header ∈ s.frames, s.Addressed header
  settled : s.engine.failure = none → ∀ q < s.window.nextSequence,
    q ∈ s.flying ∨ s.engine.ring.Settled q
  fetched : s.engine.ring.tracker.ackSent = true →
    .receiver (.acked s.engine.ring.tracker.lastAckSent) ∈ trace ∧
      s.engine.ring.tracker.lastAckSent < s.engine.ring.tracker.releasedEnd
  delivered : ∀ ack outcome, .credited ack outcome ∈ trace → ack < s.window.creditedEnd

/-- What conservation needs to know of a step of the engine. -/
structure Answers (s : CreditLink) (a : RingAction) (e' : SubscriberEngine)
    (frames : List FrameHeader) : Prop where
  takes : s.Takes a frames
  keeps : s.engine.Keeps e'
  config : e'.config = s.engine.config
  failed : a.fatal = true → e'.failure ≠ none
  landed : ∀ q ∈ s.flying, q ∈ (frames.map fun header => header.sequence.toNat) ∨ a.takes = some q

lemma not_credited {es : List SubscriberEvent} {ack : ℕ} {outcome : CreditWindow.CreditOutcome} :
    .credited ack outcome ∉ es.map LinkEvent.receiver := by
  simp

lemma Conserved.engineStep (hc : s.Conserved trace) (h : s.Sound depth)
    (hfit : s.window.nextSequence + depth ≤ 2 ^ 64) {a : RingAction} {e' : SubscriberEngine}
    {es : List SubscriberEvent} {frames : List FrameHeader} (credits : List Bytes)
    (hs : RingStep s.engine.ring a e'.ring es) (ha : s.Answers a e' frames) :
    { s with frames, credits, engine := e' }.Conserved (trace ++ es.map LinkEvent.receiver) := by
  have hgranted : e'.granted = s.engine.granted := congrArg ReceiveConfig.granted ha.config
  have hstream : e'.streamId = s.engine.streamId := congrArg ReceiveConfig.streamId ha.config
  have hgrown := hs.grown h.ring
  refine
    { running := ha.keeps.closing.trans hc.running
      started := (hs.depths h.ring).2.2.trans hc.started
      addressed := fun header hmem => ?_
      settled := fun halive q hq => ?_
      fetched := fun hsent => ?_
      delivered := fun ack outcome hmem => ?_ }
  · rw [Addressed, hgranted, hstream]
    exact hc.addressed header (ha.takes.left.subset hmem)
  · have hsafe : a.fatal = false := by
      by_contra hfatal
      exact ha.failed (by simpa using hfatal) halive
    rcases hc.settled (ha.keeps.failure halive) q hq with hfly | hsettled
    · rcases ha.landed q hfly with hstill | htakes
      · exact .inl hstill
      · exact .inr (hs.taken_settled h.ring hsafe htakes (ha.takes.fresh h q htakes).1.1
          (h.fits hfit hq))
    · exact .inr (hs.settled h.ring hsafe (h.fits hfit hq) hsettled)
  · rcases hs.acks_from h.ring hsent with ⟨hbefore, hlast⟩ | ⟨hmem, hlt⟩
    · obtain ⟨hmem, hlt⟩ := hc.fetched hbefore
      rw [hlast]
      exact ⟨List.mem_append_left _ hmem, hlt.trans_le hgrown⟩
    · exact ⟨List.mem_append_right _ (List.mem_map_of_mem hmem), hlt.trans_le hgrown⟩
  · rcases List.mem_append.mp hmem with hold | hnew
    · exact hc.delivered ack outcome hold
    · exact absurd hnew not_credited

lemma answers_arrive (hc : s.Conserved trace) (h : s.Sound depth) {header : FrameHeader}
    (hmem : header ∈ s.frames) (length : ℕ) (arrival : Arrival) :
    ∃ a, RingStep s.engine.ring a
        (s.engine.handleFrame (encodeFrame header) length arrival).1.ring
        (s.engine.handleFrame (encodeFrame header) length arrival).2 ∧
      s.Answers a (s.engine.handleFrame (encodeFrame header) length arrival).1
        (s.frames.erase header) := by
  obtain ⟨hstream, hepoch, hcheck⟩ := hc.addressed header hmem
  have hdecode : decodeFrame (encodeFrame header) = .ok header := by
    rw [decodeFrame_encodeFrame, hcheck]
    rfl
  have hframe : s.engine.FrameOf (.frame (encodeFrame header) length arrival) header length :=
    ⟨⟨_, arrival, rfl, hdecode⟩, hc.running, hstream, hepoch⟩
  obtain ⟨a, hring, hbacks, htakes⟩ := SubscriberEngine.handleSessionFrame_takes arrival hframe
    fun _ => h.not_repeats hmem
  have hkeeps := keeps_arrive h hmem length arrival
  have hconfig := s.engine.config_handleFrame (encodeFrame header) length arrival
  rw [SubscriberEngine.handleFrame_session hc.running hdecode hstream hepoch] at hkeeps hconfig ⊢
  refine ⟨a, hring, takes_arrive h hmem hbacks.explained, hkeeps, hconfig, hbacks.failed,
    fun q hq => ?_⟩
  have hperm := (List.perm_cons_erase hmem).map fun header => header.sequence.toNat
  rcases List.mem_cons.mp (hperm.mem_iff.mp hq) with rfl | hrest
  · exact .inr htakes
  · exact .inl hrest

lemma Conserved.submit (hc : s.Conserved trace) (hfit : s.window.nextSequence < 2 ^ 64)
    (hstream : s.streamId = s.engine.streamId) {item : FrameHeader}
    (hhonest : s.honest (.submit item true)) :
    (s.submitTo item true).1.Conserved (trace ++ (s.submitTo item true).2) := by
  have hsequence : (s.sessionHeader item).sequence.toNat = s.window.nextSequence :=
    UInt64.toNat_ofNat_of_lt' hfit
  refine
    { running := hc.running
      started := hc.started
      addressed := fun header hmem => ?_
      settled := fun halive q hq => ?_
      fetched := fun hsent => ?_
      delivered := fun ack outcome hmem => ?_ }
  · rcases List.mem_cons.mp hmem with rfl | hmem
    · exact ⟨hstream, hhonest⟩
    · exact hc.addressed header hmem
  · rcases Nat.lt_succ_iff_lt_or_eq.mp hq with hlt | rfl
    · exact (hc.settled halive q hlt).imp_left (List.mem_cons_of_mem _)
    · exact .inl (List.mem_cons.mpr (.inl hsequence.symm))
  · obtain ⟨hmem, hlt⟩ := hc.fetched hsent
    exact ⟨List.mem_append_left _ hmem, hlt⟩
  · refine hc.delivered ack outcome ((List.mem_append.mp hmem).resolve_right fun hnew => ?_)
    cases List.mem_singleton.mp hnew

lemma Conserved.credit (hc : s.Conserved trace) (h : s.Sound depth) {message : Bytes}
    (hmem : message ∈ s.credits) :
    (s.handleCredit message).1.Conserved (trace ++ (s.handleCredit message).2) := by
  obtain ⟨credit, rfl, hack⟩ := h.acks message hmem
  unfold handleCredit
  rw [decodeCredit_encodeCredit]
  dsimp only
  split_ifs with hstream
  · rw [List.append_nil]
    exact hc
  refine
    { running := hc.running
      started := hc.started
      addressed := hc.addressed
      settled := ?_
      fetched := fun hsent => ?_
      delivered := fun ack outcome hmem => ?_ }
  · rw [CreditWindow.applyCredit_next]
    exact hc.settled
  · obtain ⟨hmem, hlt⟩ := hc.fetched hsent
    exact ⟨List.mem_append_left _ hmem, hlt⟩
  · rcases List.mem_append.mp hmem with hold | hnew
    · have hmono := s.window.applyCredit_credited credit.value.toNat
      have hbefore := hc.delivered ack outcome hold
      dsimp only
      omega
    · obtain ⟨rfl, -⟩ := LinkEvent.credited.inj (List.mem_singleton.mp hnew)
      exact CreditWindow.applyCredit_covers (hack.trans_le h.released_le)

lemma Conserved.step (hc : s.Conserved trace) (h : s.Sound depth)
    (hstream : s.streamId = s.engine.streamId) {i : LinkInput} {es : List LinkEvent}
    (hhonest : s.honest i) (hfit : s'.window.nextSequence + depth ≤ 2 ^ 64)
    (hs : s.step i = some (s', es)) : s'.Conserved (trace ++ es) := by
  have hle := next_le hs
  cases i with
  | submit item accepted =>
    obtain ⟨-, rfl, rfl⟩ := of_guard hs
    cases accepted with
    | false =>
      rw [show (s.submitTo item false).2 = [] from rfl, List.append_nil]
      exact hc
    | true =>
      have hnext : s.window.nextSequence + 1 + depth ≤ 2 ^ 64 := hfit
      exact hc.submit (by omega) hstream hhonest
  | arrive header length arrival =>
    obtain ⟨hmem, rfl, rfl⟩ := of_guard hs
    obtain ⟨a, hring, hanswers⟩ := answers_arrive hc h hmem length arrival
    exact hc.engineStep h hfit s.credits hring hanswers
  | receiver =>
    obtain ⟨hrunning, hs⟩ := Option.ite_none_right_eq_some.mp hs
    obtain ⟨⟨e', reported⟩, hstep, rfl, rfl⟩ := of_mapped hs
    obtain ⟨a, hring, hbacks⟩ :=
      subscriberStep_refines (Nat.pos_iff_ne_zero.mp h.ring.depth_pos) hstep
    exact hc.engineStep h hfit _ hring
      ⟨takes_running hrunning hbacks.explained, subscriberStep_keeps hrunning hstep,
        subscriberStep_config hstep, hbacks.failed, fun q hq => .inl hq⟩
  | credit =>
    obtain ⟨hguard, rfl, rfl⟩ := of_guard hs
    exact hc.credit h hguard

/-! ### At rest -/

/-- Nothing is under way, no view is alive and the session has not failed. -/
structure AtRest (s : CreditLink) : Prop where
  landed : s.frames = []
  received : ∀ k, s.engine.pending k = false
  returned : s.engine.leases = []
  drained : s.engine.creditReturns.items = []
  alive : s.engine.failure = none

lemma AtRest.vacant (hrest : s.AtRest) (h : s.Sound depth) (k : ℕ) :
    s.engine.ring.occupied k = false := by
  by_contra hocc
  obtain ⟨-, hpending | hmem⟩ := h.ring.holder (by simpa using hocc)
  · exact absurd (hpending.symm.trans (hrest.received k)) (by decide)
  · have hleases : s.engine.ring.leases = [] := hrest.returned
    have hreturns : s.engine.ring.returns.items = [] := hrest.drained
    rw [hleases, hreturns] at hmem
    cases hmem

lemma Conserved.released (hc : s.Conserved trace) (h : s.Sound depth) (hrest : s.AtRest) {q : ℕ}
    (hq : q < s.window.nextSequence) : s.engine.ring.tracker.Released q := by
  rcases hc.settled hrest.alive q hq with hfly | hheld | hreleased
  · rw [flying, hrest.landed] at hfly
    cases hfly
  · exact absurd (hheld.1.symm.trans (hrest.vacant h _)) (by decide)
  · exact hreleased

lemma Conserved.caught_up (hc : s.Conserved trace) (h : s.Sound depth) (hrest : s.AtRest) :
    s.engine.ring.tracker.releasedEnd = s.window.nextSequence := by
  apply le_antisymm h.released_le
  by_contra hlt
  exact ReleaseTracker.not_released_end h.ring.tracked (hc.released h hrest (not_le.mp hlt))

lemma Conserved.none_ahead (hc : s.Conserved trace) (h : s.Sound depth) (hrest : s.AtRest) :
    s.engine.ring.tracker.heldAhead = 0 := by
  rw [h.ring.tracked.held, Finset.card_eq_zero, Finset.eq_empty_iff_forall_notMem]
  intro q hq
  obtain ⟨hlow, hhigh, htest⟩ := ReleaseTracker.mem_ahead.mp hq
  have hlt := h.released_lt q (.inr ⟨hhigh, htest⟩)
  rw [hc.caught_up h hrest] at hlow
  omega

lemma Conserved.nothing_outstanding (hc : s.Conserved trace) (h : s.Sound depth)
    (hrest : s.AtRest) (hnone : s.engine.tracker.takePendingAck.1 = none)
    (harrived : ∀ ack, .receiver (.acked ack) ∈ trace → ∃ outcome, .credited ack outcome ∈ trace) :
    s.window.outstanding = 0 := by
  have hend : s.engine.tracker.releasedEnd = s.window.nextSequence := hc.caught_up h hrest
  have hstart : s.engine.tracker.start = 0 := hc.started
  unfold ReleaseTracker.takePendingAck at hnone
  rw [CreditWindow.outstanding]
  split_ifs at hnone with hempty hfetched
  · omega
  · obtain ⟨hmem, -⟩ := hc.fetched hfetched.1
    obtain ⟨outcome, hcredited⟩ := harrived _ hmem
    have hcovered := hc.delivered _ outcome hcredited
    have hlast : s.engine.ring.tracker.lastAckSent = s.engine.tracker.releasedEnd - 1 :=
      hfetched.2.symm
    omega

end CreditLink

/-! ### Whole runs -/

namespace CreditSession

variable {trace : List LinkEvent} {s : CreditLink}

lemma start_conserved (c : CreditSession) : c.start.Conserved [] where
  running := rfl
  started := rfl
  addressed := nofun
  settled := nofun
  fetched := nofun
  delivered := nofun

lemma reach_conserved (c : CreditSession)
    (h : linkMachine.Reaches CreditLink.honest c.start trace s)
    (hfit : s.window.nextSequence + c.ringDepth ≤ 2 ^ 64) : s.Conserved trace := by
  induction h with
  | start => exact c.start_conserved
  | next prior hhonest hs ih =>
    have hle := CreditLink.next_le hs
    obtain ⟨hsound, -⟩ := c.reach_sound prior (by omega)
    exact (ih (by omega)).step hsound (c.reach_streams prior) hhonest hfit hs

end CreditSession

end TangoBulk
