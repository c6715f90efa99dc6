import TangoBulk.CreditConservation

/-! How far the credit protocol carries. The tracker of the subscriber adds the depth of its own
ring to the released end, so it refuses the first sequence within that depth of the 64-bit limit
and nothing after it is released. -/
namespace TangoBulk

open ByteString Transition

/-- A session of depth 2 with one frame of credit, whose subscriber has a ring of 4 slots. -/
def deepSession : CreditSession where
  ringDepth := 4
  maxFrameBytes := 4096
  receiveMemoryKind := .host
  streamId := 7
  granted :=
    { generation := 1, elementType := .byte, elementSize := 1, rank := 0, maxFrameBytes := 4096,
      ringDepth := 2, creditWindow := 1, shape := Dims.zero, strides := Dims.zero }
  window_pos := by decide
  window_le := by decide
  depth_le := by decide

/-- A frame as the publisher queues it. -/
def queuedFrame : FrameHeader where
  generation := 1
  streamId := 0
  sequence := 0
  payloadBytes := 4096
  timestampNs := 0
  eventCounter := 0
  droppedBefore := 0
  elementType := .byte
  elementSize := 1
  rank := 0
  quality := 0
  memoryKind := .host
  endian := .little
  shape := Dims.zero
  strides := Dims.zero

/-- The frame as it is sent. -/
def sentFrame (sequence : UInt64) : FrameHeader := { queuedFrame with sequence, streamId := 7 }

/-- One frame from its submission to its credit. -/
def roundTrip (sequence : UInt64) : List LinkInput :=
  [.submit queuedFrame true, .arrive (sentFrame sequence) 4096 (.rndv .completed),
    .receiver (.releaseView sequence.toNat), .receiver .drain, .receiver (.sendCredit true),
    .credit (encodeCredit { generation := 1, streamId := 7, value := sequence })]

/-! ### A run to the last sequences -/

namespace SubscriberEngine

variable {e : SubscriberEngine} {frame : FrameHeader}

lemma handleSessionFrame_new {length : ℕ} {arrival : Arrival}
    (hfits : e.fits frame length = true) (hnew : e.repeats frame = false) :
    e.handleSessionFrame frame length arrival =
      e.receive frame (frame.sequence.toNat % e.depth) length arrival := by
  obtain ⟨harray, hlength, hsize⟩ := fits_iff.mp hfits
  unfold handleSessionFrame
  rw [if_neg harray, if_neg (not_not.mpr hlength), if_neg hsize,
    if_neg (by simpa [repeats] using hnew)]

/-- One view is alive; everything else is as it was in `e`. -/
structure Viewed (e e' : SubscriberEngine) (q : ℕ) : Prop where
  accounted : e'.ring.Accounted
  leases : e'.leases = [q]
  returns : e'.creditReturns = e.creditReturns
  pending : e'.pending = e.pending
  failure : e'.failure = e.failure
  closing : e'.closing = e.closing
  tracker : e'.tracker = e.tracker

lemma viewed_completed (hacc : e.ring.Accounted) {length : ℕ} (hfits : e.fits frame length = true)
    (hnew : e.repeats frame = false) (hleases : e.leases = []) :
    e.Viewed (e.handleSessionFrame frame length (.rndv .completed)).1 frame.sequence.toNat := by
  have hvacant : e.ring.occupied (frame.sequence.toNat % e.ring.depth) = false := by
    simp only [repeats, decide_eq_false_iff_not, not_or, Bool.not_eq_true] at hnew
    exact hnew.1
  rw [handleSessionFrame_new hfits hnew]
  have hring : (e.receive frame (frame.sequence.toNat % e.depth) length (.rndv .completed)).1.ring =
      _ := (receive_completed length).1
  refine ⟨?_, ?_, rfl, rfl, rfl, rfl, rfl⟩
  · rw [hring]
    exact accounted_deliver hacc hvacant
  · have hlive := congrArg ReceiveRing.leases hring
    rw [show e.ring.leases = [] from hleases] at hlive
    exact hlive

lemma exists_returned {q : ℕ} (hacc : e.ring.Accounted) (hleases : e.leases = [q])
    (hreturns : e.creditReturns.items = []) :
    ∃ queue, queue.items = [q] ∧ subscriberStep e (.releaseView q) =
      some ({ e.bump .creditsReturned 1 with leases := [], creditReturns := queue }, []) := by
  have hlive : q ∈ e.leases := by
    rw [hleases]
    exact List.mem_cons_self
  obtain ⟨queue, hpush⟩ : ∃ queue, e.creditReturns.push q = some queue :=
    Option.ne_none_iff_exists'.mp (hacc.not_full hlive)
  refine ⟨queue, ?_, ?_⟩
  · rw [(Fifo.push_eq_some.mp hpush).2.1, hreturns]
    rfl
  · rw [subscriberStep, if_pos hlive]
    simp [releaseView, returnCredit, hpush, hleases, bump]

lemma drain_single {q : ℕ} (hpos : e.depth ≠ 0) (hopen : e.closing = false)
    (hreturns : e.creditReturns.items = [q]) :
    subscriberStep e .drain =
      some (({ e with creditReturns := .empty e.creditReturns.capacity }.vacate
        (q % e.depth)).releaseSequence q) := by
  have hpop : e.creditReturns.pop = some (q, .empty e.creditReturns.capacity) :=
    Fifo.pop_eq_some.mpr ⟨hreturns, rfl⟩
  simp [subscriberStep, hopen, drainCreditReturn, hpop, hpos]

end SubscriberEngine

/-- At rest with all credit returned. -/
structure CreditLink.Idle (s : CreditLink) : Prop extends s.AtRest where
  credited : s.window.outstanding = 0

section Runs

variable {trace : List LinkEvent} {s₀ s : CreditLink}
  (h : linkMachine.Reaches CreditLink.honest s₀ trace s)
include h

lemma reaches_submit (item : FrameHeader) (hcan : s.window.canSubmit = true)
    (hhonest : s.honest (.submit item true)) :
    linkMachine.Reaches CreditLink.honest s₀ (trace ++ (s.submitTo item true).2)
      (s.submitTo item true).1 :=
  h.next hhonest (if_pos hcan)

lemma reaches_arrive {header : FrameHeader} (hmem : header ∈ s.frames) (length : ℕ)
    (arrival : Arrival) :
    linkMachine.Reaches CreditLink.honest s₀
      (trace ++ (s.engine.handleFrame (encodeFrame header) length arrival).2.map .receiver)
      { s with
        frames := s.frames.erase header
        engine := (s.engine.handleFrame (encodeFrame header) length arrival).1 } := by
  have hs : linkMachine.step s (.arrive header length arrival) = _ := if_pos hmem
  refine h.next ?_ hs
  trivial

lemma reaches_receiver {input : SubscriberInput} {e' : SubscriberEngine}
    {es : List SubscriberEvent} (hrunning : input.running = true)
    (hstep : subscriberStep s.engine input = some (e', es)) :
    linkMachine.Reaches CreditLink.honest s₀ (trace ++ es.map .receiver)
      { s with engine := e', credits := s.credits ++ CreditLink.creditsSent input es } := by
  have hs : linkMachine.step s (.receiver input) =
      some ({ s with engine := e', credits := s.credits ++ CreditLink.creditsSent input es },
        es.map .receiver) := by
    simp [linkMachine, CreditLink.step, hrunning, hstep]
  refine h.next ?_ hs
  trivial

lemma reaches_credit {message : Bytes} (hmem : message ∈ s.credits) :
    linkMachine.Reaches CreditLink.honest s₀ (trace ++ (s.handleCredit message).2)
      (s.handleCredit message).1 := by
  have hs : linkMachine.step s (.credit message) = some (s.handleCredit message) := if_pos hmem
  refine h.next ?_ hs
  trivial

end Runs

section Round

variable {trace : List LinkEvent} {s : CreditLink}
  (hrun : linkMachine.Reaches CreditLink.honest deepSession.start trace s)
include hrun

lemma queuedFrame_honest : s.honest (.submit queuedFrame true) := by
  have hepoch : s.engine.granted.generation = 1 := by
    rw [deepSession.reach_granted hrun]
    rfl
  exact ⟨hepoch.symm, by decide⟩

lemma queuedFrame_viewed (hfit : s.window.nextSequence + deepSession.ringDepth ≤ 2 ^ 64)
    (hrest : s.AtRest) :
    s.engine.Viewed (s.engine.handleFrame (encodeFrame (s.sessionHeader queuedFrame)) 4096
      (.rndv .completed)).1 s.window.nextSequence := by
  obtain ⟨hsound, -⟩ := deepSession.reach_sound hrun hfit
  have hconserved := deepSession.reach_conserved hrun hfit
  obtain ⟨hepoch, hcheck⟩ := queuedFrame_honest hrun
  have hsequence : (s.sessionHeader queuedFrame).sequence.toNat = s.window.nextSequence := by
    have hdeep : deepSession.ringDepth = 4 := rfl
    have hsmall : s.window.nextSequence < 2 ^ 64 := by omega
    exact UInt64.toNat_ofNat_of_lt' hsmall
  have hdecode : decodeFrame (encodeFrame (s.sessionHeader queuedFrame)) =
      .ok (s.sessionHeader queuedFrame) := by
    have hown : checkFrame (s.sessionHeader queuedFrame) = .ok () := hcheck
    rw [decodeFrame_encodeFrame, hown]
    rfl
  have hfits : s.engine.fits (s.sessionHeader queuedFrame) 4096 = true := by
    rw [SubscriberEngine.fits, deepSession.reach_granted hrun]
    rfl
  have hnew : s.engine.repeats (s.sessionHeader queuedFrame) = false := by
    have hend : s.engine.tracker.releasedEnd = s.window.nextSequence :=
      hconserved.caught_up hsound hrest
    have hvacant := hrest.vacant hsound (s.window.nextSequence % s.engine.depth)
    simp only [SubscriberEngine.repeats, hsequence, hend, lt_irrefl, or_false,
      decide_eq_false_iff_not, Bool.not_eq_true]
    exact hvacant
  rw [SubscriberEngine.handleFrame_session hconserved.running hdecode
    (deepSession.reach_streams hrun) hepoch, ← hsequence]
  exact SubscriberEngine.viewed_completed hsound.ring.toAccounted hfits hnew hrest.returned

/-- From a session at rest one more frame can be sent, received, given back and drained. -/
lemma exists_delivery (hfit : s.window.nextSequence + deepSession.ringDepth ≤ 2 ^ 64)
    (hidle : s.Idle) :
    ∃ trace' s', linkMachine.Reaches CreditLink.honest deepSession.start trace' s' ∧ s'.AtRest ∧
      s'.window = s.window.noteSubmitted.2 ∧
      s'.engine.tracker = (s.engine.tracker.release s.window.nextSequence).2 ∧
      .receiver (.released s.window.nextSequence
        (s.engine.tracker.release s.window.nextSequence).1) ∈ trace' := by
  have hwidth : s.window.width = 1 := congrArg CreditLink.Terms.width (deepSession.reach_terms hrun)
  have hcan : s.window.canSubmit = true := by
    rw [CreditWindow.canSubmit, hidle.credited, hwidth]
    rfl
  have hview := queuedFrame_viewed hrun hfit hidle.toAtRest
  have hopen := hview.closing.trans (deepSession.reach_conserved hrun hfit).running
  obtain ⟨queue, hqueue, hreturn⟩ := SubscriberEngine.exists_returned hview.accounted hview.leases
    (by rw [hview.returns]; exact hidle.drained)
  have hdrain := SubscriberEngine.drain_single
    (e := { (s.engine.handleFrame (encodeFrame (s.sessionHeader queuedFrame)) 4096
        (.rndv .completed)).1.bump .creditsReturned 1 with leases := [], creditReturns := queue })
    (Nat.pos_iff_ne_zero.mp hview.accounted.depth_pos) hopen hqueue
  have hsubmitted := reaches_submit hrun queuedFrame hcan (queuedFrame_honest hrun)
  have hmem : s.sessionHeader queuedFrame ∈ (s.submitTo queuedFrame true).1.frames :=
    List.mem_cons_self
  have harrived := reaches_arrive hsubmitted hmem 4096 (.rndv .completed)
  have hreturned := reaches_receiver harrived rfl hreturn
  have hdrained := reaches_receiver hreturned rfl hdrain
  refine ⟨_, _, hdrained, ⟨?_, ?_, rfl, rfl, ?_⟩, rfl, ?_, ?_⟩
  · change (s.sessionHeader queuedFrame :: s.frames).erase (s.sessionHeader queuedFrame) = []
    rw [List.erase_cons_head, hidle.landed]
  · intro k
    exact (congrFun hview.pending k).trans (hidle.received k)
  · exact hview.failure.trans hidle.alive
  · exact congrArg (fun t => (ReleaseTracker.release t s.window.nextSequence).2) hview.tracker
  · refine List.mem_append_right _ (List.mem_singleton.mpr ?_)
    exact congrArg (fun t => LinkEvent.receiver (.released s.window.nextSequence
      (ReleaseTracker.release t s.window.nextSequence).1)) hview.tracker.symm

end Round

lemma ReleaseTracker.takePendingAck_new {t : ReleaseTracker} (hmoved : t.releasedEnd ≠ t.start)
    (hlast : t.ackSent = true → t.lastAckSent < t.releasedEnd - 1) :
    t.takePendingAck.1 = some (t.releasedEnd - 1) := by
  unfold takePendingAck
  split_ifs with hempty hfetched
  · exact absurd hempty hmoved
  · have hlt := hlast hfetched.1
    omega
  · rfl

/-- The message that carries an ack of the engine. -/
def SubscriberEngine.creditMessage (e : SubscriberEngine) (ack : ℕ) : Bytes :=
  encodeCredit
    { generation := e.granted.generation, streamId := e.streamId, value := UInt64.ofNat ack }

lemma SubscriberEngine.sendCredit_new {e : SubscriberEngine} {ack : ℕ} (hopen : e.closing = false)
    (hfetch : e.tracker.takePendingAck.1 = some ack) :
    subscriberStep e (.sendCredit true) =
      some ({ e with tracker := e.tracker.takePendingAck.2 }.bump .creditMessagesSent 1,
        [.acked ack, .sent (e.creditMessage ack)]) := by
  obtain ⟨fetched, tracker, htake⟩ :
      ∃ fetched tracker, e.tracker.takePendingAck = (fetched, tracker) :=
    ⟨_, _, rfl⟩
  rw [htake] at hfetch
  obtain rfl : fetched = some ack := hfetch
  simp [subscriberStep, hopen, sendPendingCredit, htake, creditMessage]

lemma CreditLink.handleCredit_own {s : CreditLink} {credit : CreditMessage}
    (hstream : credit.streamId = s.streamId) :
    s.handleCredit (encodeCredit credit) =
      ({ s with window := (s.window.applyCredit credit.value.toNat).2 },
        [.credited credit.value.toNat (s.window.applyCredit credit.value.toNat).1]) := by
  simp [handleCredit, hstream]

lemma exists_credited {s₀ s : CreditLink} {trace : List LinkEvent} {ack : ℕ}
    (hrun : linkMachine.Reaches CreditLink.honest s₀ trace s) (hopen : s.engine.closing = false)
    (hstream : s.streamId = s.engine.streamId) (hfetch : s.engine.tracker.takePendingAck.1 = some ack)
    (hsmall : ack < 2 ^ 64) (hrest : s.AtRest) :
    ∃ trace' s', linkMachine.Reaches CreditLink.honest s₀ trace' s' ∧ s'.AtRest ∧
      s'.window = (s.window.applyCredit ack).2 := by
  have hsent := reaches_receiver hrun rfl (SubscriberEngine.sendCredit_new hopen hfetch)
  have hmem : s.engine.creditMessage ack ∈ s.credits ++ CreditLink.creditsSent (.sendCredit true)
      [.acked ack, .sent (s.engine.creditMessage ack)] :=
    List.mem_append_right _ List.mem_cons_self
  have hcredited := reaches_credit hsent hmem
  rw [SubscriberEngine.creditMessage, CreditLink.handleCredit_own hstream.symm] at hcredited
  refine ⟨_, _, hcredited, ⟨hrest.landed, hrest.received, hrest.returned, hrest.drained,
    hrest.alive⟩, ?_⟩
  rw [UInt64.toNat_ofNat_of_lt' hsmall]

/-- One round of the session. -/
lemma exists_round {trace : List LinkEvent} {s : CreditLink}
    (hrun : linkMachine.Reaches CreditLink.honest deepSession.start trace s)
    (hfit : s.window.nextSequence + 1 + deepSession.ringDepth ≤ 2 ^ 64) (hidle : s.Idle) :
    ∃ trace' s', linkMachine.Reaches CreditLink.honest deepSession.start trace' s' ∧ s'.Idle ∧
      s'.window.nextSequence = s.window.nextSequence + 1 := by
  obtain ⟨hsound, -⟩ := deepSession.reach_sound hrun (by omega)
  have hconserved := deepSession.reach_conserved hrun (by omega)
  have hbefore : s.engine.tracker.releasedEnd = s.window.nextSequence :=
    hconserved.caught_up hsound hidle.toAtRest
  obtain ⟨trace₁, s₁, hrun₁, hrest₁, hwindow, htracker, -⟩ := exists_delivery hrun (by omega) hidle
  have hnext : s₁.window.nextSequence = s.window.nextSequence + 1 := by
    rw [hwindow]
    rfl
  obtain ⟨hsound₁, -⟩ := deepSession.reach_sound hrun₁ (by omega)
  have hconserved₁ := deepSession.reach_conserved hrun₁ (by omega)
  have hafter : s₁.engine.tracker.releasedEnd = s.window.nextSequence + 1 :=
    (hconserved₁.caught_up hsound₁ hrest₁).trans hnext
  have hfetch : s₁.engine.tracker.takePendingAck.1 = some s.window.nextSequence := by
    have hstart : s₁.engine.tracker.start = 0 := hconserved₁.started
    have hmoved : s₁.engine.tracker.releasedEnd ≠ s₁.engine.tracker.start := by omega
    obtain ⟨hlast, hack⟩ := ReleaseTracker.release_acks hsound.ring.tracked s.window.nextSequence
    have hbelow : s₁.engine.tracker.ackSent = true →
        s₁.engine.tracker.lastAckSent < s₁.engine.tracker.releasedEnd - 1 := by
      intro hsent
      rw [htracker] at hsent
      obtain ⟨-, hlt⟩ := hconserved.fetched (hack ▸ hsent)
      have hsame : s₁.engine.tracker.lastAckSent = s.engine.tracker.lastAckSent := by
        rw [htracker]
        exact hlast
      change s.engine.tracker.lastAckSent < s.engine.tracker.releasedEnd at hlt
      omega
    rw [ReleaseTracker.takePendingAck_new hmoved hbelow, hafter]
    rfl
  have hsmall : s.window.nextSequence < 2 ^ 64 := by omega
  obtain ⟨trace₂, s₂, hrun₂, hrest₂, hcredited⟩ := exists_credited hrun₁ hconserved₁.running
    (deepSession.reach_streams hrun₁) hfetch hsmall hrest₁
  refine ⟨trace₂, s₂, hrun₂, ⟨hrest₂, ?_⟩, ?_⟩
  · have hassigned : s.window.nextSequence < s₁.window.nextSequence := by omega
    have hcovers := CreditWindow.applyCredit_covers hassigned
    rw [CreditWindow.outstanding, hcredited, CreditWindow.applyCredit_next]
    omega
  · rw [hcredited, CreditWindow.applyCredit_next, hnext]

lemma exists_idle (n : ℕ) (hn : n + deepSession.ringDepth ≤ 2 ^ 64) :
    ∃ trace s, linkMachine.Reaches CreditLink.honest deepSession.start trace s ∧ s.Idle ∧
      s.window.nextSequence = n := by
  induction n with
  | zero => exact ⟨[], _, .start, ⟨⟨rfl, fun _ => rfl, rfl, rfl, rfl⟩, rfl⟩, rfl⟩
  | succ n ih =>
    obtain ⟨trace, s, hrun, hidle, rfl⟩ := ih (by omega)
    exact exists_round hrun hn hidle

lemma exists_refused :
    ∃ trace s, linkMachine.Reaches CreditLink.honest deepSession.start trace s ∧ s.AtRest ∧
      s.window.nextSequence = 2 ^ 64 - 3 ∧ s.engine.tracker.releasedEnd = 2 ^ 64 - 4 ∧
      .receiver (.released (2 ^ 64 - 4) .outOfWindow) ∈ trace := by
  have hdeep : deepSession.ringDepth = 4 := rfl
  obtain ⟨trace, s, hrun, hidle, hnext⟩ := exists_idle (2 ^ 64 - 4) (by omega)
  have hfit : s.window.nextSequence + deepSession.ringDepth ≤ 2 ^ 64 := by omega
  obtain ⟨hsound, -⟩ := deepSession.reach_sound hrun hfit
  have hend : s.engine.tracker.releasedEnd = 2 ^ 64 - 4 :=
    ((deepSession.reach_conserved hrun hfit).caught_up hsound hidle.toAtRest).trans hnext
  have hdepth : s.engine.tracker.ringDepth = 4 := hsound.deep
  have hrefused : s.engine.tracker.release (2 ^ 64 - 4) = (.outOfWindow, s.engine.tracker) := by
    have hoverflow : addOverflow s.engine.tracker.releasedEnd s.engine.tracker.ringDepth = none :=
      if_neg (by omega)
    have habove : ¬ 2 ^ 64 - 4 < s.engine.tracker.releasedEnd := by omega
    rw [ReleaseTracker.release, if_neg habove, hoverflow]
  obtain ⟨trace', s', hrun', hrest', hwindow, htracker, hreleased⟩ := exists_delivery hrun hfit hidle
  rw [hnext, hrefused] at htracker hreleased
  refine ⟨trace', s', hrun', hrest', ?_, ?_, hreleased⟩
  · rw [hwindow]
    change s.window.nextSequence + 1 = _
    omega
  · rw [htracker]
    exact hend

/-! ### Safety -/

/-- What the protocol promises in a state `s` after `trace`. -/
structure CreditSafe (c : CreditSession) (trace : List LinkEvent) (s : CreditLink) : Prop where
  ordered : s.window.creditedEnd ≤ s.engine.tracker.releasedEnd ∧
    s.engine.tracker.releasedEnd ≤ s.window.nextSequence
  bounded : s.window.nextSequence - s.window.creditedEnd ≤ c.granted.creditWindow.toNat
  credits : ∀ ack outcome, .credited ack outcome ∈ trace → outcome.status ≠ .malformedMessage
  releases : ∀ q answer, .receiver (.released q answer) ∈ trace → answer ≠ .outOfWindow
  /-- Sequences on their way or in an occupied slot have different slots. -/
  slots : ∀ p q, s.Uses p → s.Uses q → p ≠ q →
    p % c.granted.ringDepth.toNat ≠ q % c.granted.ringDepth.toNat
  /-- No frame finds its slot occupied or its sequence released. -/
  unrepeated : s.engine.counters .droppedDuplicateSeq = 0

/-- The protocol is safe while every sequence leaves room for the ring of the subscriber. -/
theorem credit_protocol_safe (c : CreditSession) {trace : List LinkEvent} {s : CreditLink}
    (hrun : linkMachine.Reaches anyStep c.start trace s)
    (hfit : s.window.nextSequence + c.ringDepth ≤ 2 ^ 64) : CreditSafe c trace s := by
  obtain ⟨hsound, hclean⟩ := c.reach_sound hrun hfit
  have hterms := c.reach_terms hrun
  have hwidth : s.window.width = c.granted.creditWindow.toNat :=
    congrArg CreditLink.Terms.width hterms
  refine ⟨⟨hsound.credited_le, hsound.released_le⟩, ?_, fun ack outcome hmem => ?_,
    fun q answer hmem => hclean _ hmem, fun p q hp hq hne hslot => ?_, hsound.unrepeated⟩
  · have hnext := hsound.window.next_le
    omega
  · have hok : outcome.status = .ok := hclean _ hmem
    rw [hok]
    decide
  · rw [← c.reach_depth hrun] at hslot
    exact hne (hsound.slots_distinct hp hq hslot)

open LinkInput in
/-- One frame is credited and the next one is on its way. -/
theorem credit_protocol_safe_sample :
    ∃ trace s, linkMachine.Reaches anyStep deepSession.start trace s ∧
      (s.window.creditedEnd = 1 ∧ s.flying = [1]) ∧ CreditSafe deepSession trace s := by
  obtain ⟨trace, s, hreach, hnext, hstate⟩ :=
    linkMachine.exists_of_run anyStep deepSession.start
      (roundTrip 0 ++ [submit queuedFrame true])
      (P := fun s _ => s.window.nextSequence = 2 ∧ s.window.creditedEnd = 1 ∧ s.flying = [1])
      (by decide +kernel)
  refine ⟨trace, s, hreach, hstate, credit_protocol_safe deepSession hreach ?_⟩
  rw [hnext]
  decide

/-- With sequences below `2 ^ 64 - ringDepth` of the grant, a subscriber with a deeper ring refuses
a release. -/
theorem credit_protocol_unsafe :
    ∃ trace s, linkMachine.Reaches anyStep deepSession.start trace s ∧
      s.window.nextSequence + deepSession.granted.ringDepth.toNat ≤ 2 ^ 64 ∧
      .receiver (.released (2 ^ 64 - 4) .outOfWindow) ∈ trace ∧ ¬ CreditSafe deepSession trace s := by
  obtain ⟨trace, s, hrun, -, hnext, -, hreleased⟩ := exists_refused
  have hgranted : deepSession.granted.ringDepth.toNat = 2 := rfl
  refine ⟨trace, s, hrun.weaken fun _ _ _ => trivial, by omega, hreleased, fun hsafe => ?_⟩
  exact hsafe.releases _ _ hreleased rfl

/-! ### Conservation -/

/-- The acks that `take_pending_ack` gave. -/
def fetchedAcks (trace : List LinkEvent) : List ℕ :=
  trace.filterMap fun event =>
    match event with
    | .receiver (.acked ack) => some ack
    | _ => none

/-- The acks that arrived at the publisher. -/
def arrivedAcks (trace : List LinkEvent) : List ℕ :=
  trace.filterMap fun event =>
    match event with
    | .credited ack _ => some ack
    | _ => none

lemma credited_of_arrived {trace : List LinkEvent} {ack : ℕ} (h : ack ∈ arrivedAcks trace) :
    ∃ outcome, .credited ack outcome ∈ trace := by
  obtain ⟨event, hmem, hevent⟩ := List.mem_filterMap.mp h
  cases event with
  | credited b outcome =>
    cases hevent
    exact ⟨outcome, hmem⟩
  | _ => cases hevent

/-- No credit is stranded while every sequence leaves room for the ring of the subscriber: at rest
everything submitted is released, and with the last ack fetched and all fetched ones arrived
nothing is outstanding. -/
theorem no_credit_stranded (c : CreditSession) {trace : List LinkEvent} {s : CreditLink}
    (hrun : linkMachine.Reaches CreditLink.honest c.start trace s)
    (hfit : s.window.nextSequence + c.ringDepth ≤ 2 ^ 64) (hrest : s.AtRest) :
    s.engine.tracker.releasedEnd = s.window.nextSequence ∧ s.engine.tracker.heldAhead = 0 ∧
      (s.engine.tracker.takePendingAck.1 = none → fetchedAcks trace ⊆ arrivedAcks trace →
        s.window.outstanding = 0) := by
  obtain ⟨hsound, -⟩ := c.reach_sound hrun hfit
  have hconserved := c.reach_conserved hrun hfit
  refine ⟨hconserved.caught_up hsound hrest, hconserved.none_ahead hsound hrest,
    fun hnone harrived => ?_⟩
  refine hconserved.nothing_outstanding hsound hrest hnone fun ack hack => ?_
  exact credited_of_arrived (harrived (List.mem_filterMap.mpr ⟨_, hack, rfl⟩))

open LinkInput in
/-- A frame that was viewed and one that was dropped for its length, both credited. -/
theorem no_credit_stranded_sample :
    ∃ trace s, linkMachine.Reaches CreditLink.honest deepSession.start trace s ∧ s.AtRest ∧
      s.window.nextSequence = 2 ∧ s.engine.tracker.releasedEnd = 2 ∧ s.window.outstanding = 0 := by
  obtain ⟨trace, s, hrun, hnext, hframes, hpending, hleases, hreturns, halive, hnone, harrived⟩ :=
    linkMachine.exists_of_run CreditLink.honest deepSession.start
      (roundTrip 0 ++ [submit queuedFrame true, arrive (sentFrame 1) 17 .eager,
        receiver (.sendCredit true),
        credit (encodeCredit { generation := 1, streamId := 7, value := 1 })])
      (P := fun s trace => s.window.nextSequence = 2 ∧ s.frames = [] ∧
        (∀ k < 2, s.engine.pending k = false) ∧ s.engine.leases = [] ∧
        s.engine.creditReturns.items = [] ∧ s.engine.failure = none ∧
        s.engine.tracker.takePendingAck.1 = none ∧ fetchedAcks trace ⊆ arrivedAcks trace)
      (by decide +kernel)
  have hfit : s.window.nextSequence + deepSession.ringDepth ≤ 2 ^ 64 := by
    rw [hnext]
    decide
  have hrest : s.AtRest := by
    refine ⟨hframes, fun k => ?_, hleases, hreturns, halive⟩
    by_contra hk
    have hstarted : s.engine.pending k = true := by simpa using hk
    have hlt := (deepSession.reach_sound hrun hfit).1.ring.pending_lt hstarted
    rw [deepSession.reach_depth hrun] at hlt
    exact hk (hpending k hlt)
  obtain ⟨hend, -, hcredited⟩ := no_credit_stranded deepSession hrun hfit hrest
  exact ⟨trace, s, hrun, hrest, hnext, hend.trans hnext, hcredited hnone harrived⟩

/-- The sequence that the tracker refused is never released, and its credit never returned. -/
theorem credit_stranded :
    ∃ trace s, linkMachine.Reaches CreditLink.honest deepSession.start trace s ∧ s.AtRest ∧
      s.engine.tracker.releasedEnd ≠ s.window.nextSequence := by
  obtain ⟨trace, s, hrun, hrest, hnext, hend, -⟩ := exists_refused
  exact ⟨trace, s, hrun, hrest, by omega⟩

end TangoBulk
