import TangoBulk.PublisherFrameSize
import TangoBulk.SubscriberSteps

/-! The credit protocol across the wire: the credit window of one session at the publisher, the
receive engine of its subscriber, and the messages between the two. A frame arrives at most once
and frames overtake each other; a credit message may be late, lost or repeated. -/
namespace TangoBulk

open ByteString Transition

/-! ### The two ends -/

/-- One session. `frames` are the submitted frames that have not arrived, and `credits` all
credit messages sent so far, each of which the transport delivers any number of times. -/
structure CreditLink where
  streamId : UInt64
  window : CreditWindow
  frames : List FrameHeader := []
  credits : List Bytes := []
  engine : SubscriberEngine

inductive LinkInput
  | submit (item : FrameHeader) (accepted : Bool)
  | arrive (header : FrameHeader) (length : ℕ) (arrival : Arrival)
  | receiver (input : SubscriberInput)
  | credit (message : Bytes)
  deriving DecidableEq

inductive LinkEvent
  | submitted (sequence : ℕ)
  | credited (ack : ℕ) (outcome : CreditWindow.CreditOutcome)
  | receiver (event : SubscriberEvent)
  deriving DecidableEq

/-- What the publisher does to the window of a session: nothing, a submission that it allows, or
an ack. -/
inductive WindowMove (w : CreditWindow) : CreditWindow → Prop
  | kept : WindowMove w w
  | submitted (allowed : w.canSubmit = true) : WindowMove w w.noteSubmitted.2
  | credited (ack : ℕ) : WindowMove w (w.applyCredit ack).2

namespace WindowMove

variable {w w' : CreditWindow}

lemma next_le (h : WindowMove w w') : w.nextSequence ≤ w'.nextSequence := by
  cases h with
  | kept => exact le_refl _
  | submitted allowed => exact Nat.le_succ _
  | credited ack => exact (CreditWindow.applyCredit_next w ack).symm.le

lemma width (h : WindowMove w w') : w'.width = w.width := by
  cases h with
  | kept | submitted => rfl
  | credited ack => exact CreditWindow.applyCredit_width w ack

end WindowMove

/-- No credit is refused, and no release falls out of the window. -/
def LinkEvent.clean : LinkEvent → Prop
  | .credited _ outcome => outcome.status = .ok
  | .receiver (.released _ answer) => answer ≠ .outOfWindow
  | _ => True

namespace CreditLink

/-- The sequences of the frames on their way. -/
def flying (s : CreditLink) : List ℕ := s.frames.map fun header => header.sequence.toNat

/-- The header that `submit_to` makes of a queued item. -/
def sessionHeader (s : CreditLink) (item : FrameHeader) : FrameHeader :=
  { item with sequence := UInt64.ofNat s.window.nextSequence, streamId := s.streamId }

/-- A send that the transport refuses is not assigned a sequence. -/
def submitTo (s : CreditLink) (item : FrameHeader) (accepted : Bool) :
    CreditLink × List LinkEvent :=
  if accepted then
    ({ s with window := s.window.noteSubmitted.2, frames := s.sessionHeader item :: s.frames },
      [.submitted s.window.noteSubmitted.1])
  else (s, [])

def handleCredit (s : CreditLink) (message : Bytes) : CreditLink × List LinkEvent :=
  match decodeCredit message with
  | .error _ => (s, [])
  | .ok credit =>
    if credit.streamId ≠ s.streamId then (s, [])
    else
      ({ s with window := (s.window.applyCredit credit.value.toNat).2 },
        [.credited credit.value.toNat (s.window.applyCredit credit.value.toNat).1])

/-- The credit messages among what the engine sent. -/
def creditsSent : SubscriberInput → List SubscriberEvent → List Bytes
  | .sendCredit _, es => es.filterMap fun event =>
    match event with
    | .sent message => some message
    | _ => none
  | _, _ => []

/-- `fan_out` submits within the window only, a frame arrives once, and a credit that arrives
was sent. -/
def step (s : CreditLink) : LinkInput → Option (CreditLink × List LinkEvent)
  | .submit item accepted =>
    if s.window.canSubmit then some (s.submitTo item accepted) else none
  | .arrive header length arrival =>
    if header ∈ s.frames then
      let done := s.engine.handleFrame (encodeFrame header) length arrival
      some ({ s with frames := s.frames.erase header, engine := done.1 }, done.2.map .receiver)
    else none
  | .receiver input =>
    if input.running then
      (subscriberStep s.engine input).map fun done =>
        ({ s with engine := done.1, credits := s.credits ++ creditsSent input done.2 },
          done.2.map .receiver)
    else none
  | .credit message => if message ∈ s.credits then some (s.handleCredit message) else none

end CreditLink

def linkMachine : Machine CreditLink LinkInput LinkEvent := ⟨CreditLink.step⟩

/-- What the two ends of a session agreed on, and the ring that the subscriber has for it. -/
structure CreditSession where
  ringDepth : ℕ
  maxFrameBytes : ℕ
  receiveMemoryKind : MemoryKind
  streamId : UInt64
  granted : GeometryBlock
  window_pos : 1 ≤ granted.creditWindow.toNat
  window_le : granted.creditWindow.toNat ≤ granted.ringDepth.toNat
  depth_le : granted.ringDepth.toNat ≤ ringDepth

/-- The session at its start: a fresh window, an activated engine and nothing under way. -/
def CreditSession.start (c : CreditSession) : CreditLink where
  streamId := c.streamId
  window := { ringDepth := c.granted.ringDepth.toNat, width := c.granted.creditWindow.toNat }
  engine := .activate c.ringDepth c.maxFrameBytes c.receiveMemoryKind c.streamId c.granted

/-! ### The invariant -/

namespace CreditLink

/-- The tracker of a subscriber whose ring is `depth` deep and the window of its publisher. -/
structure Sound (depth : ℕ) (s : CreditLink) : Prop where
  window : s.window.Valid
  ring : s.engine.ring.Windowed
  width_le : s.window.width ≤ s.engine.ring.depth
  deep : s.engine.ring.tracker.ringDepth = depth
  credited_le : s.window.creditedEnd ≤ s.engine.ring.tracker.releasedEnd
  released_lt : ∀ q, s.engine.ring.tracker.Released q → q < s.window.nextSequence
  holds_lt : ∀ q, s.engine.ring.Holds q → q < s.window.nextSequence
  distinct : s.flying.Nodup
  outside : ∀ q ∈ s.flying, q < s.window.nextSequence ∧ ¬ s.engine.ring.tracker.Released q ∧
    ¬ s.engine.ring.Holds q
  acks : ∀ message ∈ s.credits, ∃ credit, message = encodeCredit credit ∧
    credit.value.toNat < s.engine.ring.tracker.releasedEnd
  unrepeated : s.engine.repeated = 0

variable {depth : ℕ} {s s' : CreditLink}

lemma Sound.released_le (h : s.Sound depth) :
    s.engine.ring.tracker.releasedEnd ≤ s.window.nextSequence := by
  by_contra hlt
  have hnext := h.released_lt s.window.nextSequence (.inl (not_le.mp hlt))
  omega

variable {q : ℕ} {a : RingAction} {frames : List FrameHeader} {e' : SubscriberEngine}
  {header : FrameHeader} {i : LinkInput}

lemma Sound.inside (h : s.Sound depth) (hq : q < s.window.nextSequence)
    (hnew : ¬ s.engine.ring.tracker.Released q) :
    s.engine.ring.tracker.releasedEnd ≤ q ∧
      q < s.engine.ring.tracker.releasedEnd + s.engine.ring.depth := by
  have habove : s.engine.ring.tracker.releasedEnd ≤ q := by
    by_contra hlt
    exact hnew (.inl (not_le.mp hlt))
  have hnext := h.window.next_le
  have hcredited := h.credited_le
  have hwidth := h.width_le
  omega

/-- The sequence is on its way or in its receive slot. -/
def Uses (s : CreditLink) (q : ℕ) : Prop := q ∈ s.flying ∨ s.engine.ring.Holds q

lemma Sound.uses_inside (h : s.Sound depth) (hq : s.Uses q) :
    s.engine.ring.tracker.releasedEnd ≤ q ∧
      q < s.engine.ring.tracker.releasedEnd + s.engine.ring.depth := by
  rcases hq with hfly | hheld
  · obtain ⟨hlt, hnew, -⟩ := h.outside q hfly
    exact h.inside hlt hnew
  · exact h.inside (h.holds_lt q hheld) (h.ring.holds_fresh hheld).1

lemma Sound.slots_distinct (h : s.Sound depth) {p : ℕ} (hp : s.Uses p) (hq : s.Uses q)
    (hslot : p % s.engine.ring.depth = q % s.engine.ring.depth) : p = q := by
  obtain ⟨hplo, hphi⟩ := h.uses_inside hp
  obtain ⟨hqlo, hqhi⟩ := h.uses_inside hq
  exact Ring.index_injective hplo hphi hqlo hqhi hslot

lemma Sound.fits (h : s.Sound depth) (hfit : s.window.nextSequence + depth ≤ 2 ^ 64)
    (hq : q < s.window.nextSequence) : q + s.engine.ring.tracker.ringDepth < 2 ^ 64 := by
  rw [h.deep]
  omega

/-- What the engine may do with the frames under way. -/
structure Takes (s : CreditLink) (a : RingAction) (frames : List FrameHeader) : Prop where
  left : frames.Sublist s.frames
  taken : ∀ q, a.takes = some q →
    q ∈ s.flying ∧ q ∉ frames.map fun header => header.sequence.toNat

lemma Takes.fresh (ht : s.Takes a frames) (h : s.Sound depth) (q : ℕ) (hq : a.takes = some q) :
    (q < s.engine.ring.tracker.releasedEnd + s.engine.ring.depth ∧
      ¬ s.engine.ring.tracker.Released q) ∧ ¬ s.engine.ring.Holds q := by
  obtain ⟨hlt, hnew, hfree⟩ := h.outside q (ht.taken q hq).1
  exact ⟨⟨(h.inside hlt hnew).2, hnew⟩, hfree⟩

variable {es : List SubscriberEvent}

lemma Sound.engineStep (h : s.Sound depth) {a : RingAction} {e' : SubscriberEngine}
    {frames : List FrameHeader} {credits : List Bytes}
    (hs : RingStep s.engine.ring a e'.ring es) (ht : s.Takes a frames)
    (hrepeated : e'.repeated = s.engine.repeated)
    (hcredits : ∀ message ∈ credits, message ∈ s.credits ∨
      ∃ credit, message = encodeCredit credit ∧
        credit.value.toNat < s.engine.ring.tracker.releasedEnd) :
    { s with frames, credits, engine := e' }.Sound depth := by
  have hresp := ReceiveRing.respects_of_fresh (ht.fresh h)
  obtain ⟨hdepth, hdeep, -⟩ := hs.depths h.ring
  have hgrown := hs.grown h.ring
  have htaken : ∀ q, a.takes = some q → q < s.window.nextSequence := fun q hq =>
    (h.outside q (ht.taken q hq).1).1
  have hleft : ∀ q ∈ frames.map fun header => header.sequence.toNat, q ∈ s.flying :=
    fun q hq => (ht.left.map _).subset hq
  refine
    { window := h.window
      ring := hs.windowed h.ring hresp
      width_le := hdepth ▸ h.width_le
      deep := hdeep.trans h.deep
      credited_le := h.credited_le.trans hgrown
      released_lt := fun q hq => ?_
      holds_lt := fun q hq => ?_
      distinct := h.distinct.sublist (ht.left.map _)
      outside := fun q hq => ?_
      acks := fun message hmessage => ?_
      unrepeated := hrepeated.trans h.unrepeated }
  · rcases hs.released_from h.ring hq with hold | hheld | htakes
    · exact h.released_lt q hold
    · exact h.holds_lt q hheld
    · exact htaken q htakes
  · rcases hs.holds_from hq with hheld | htakes
    · exact h.holds_lt q hheld
    · exact htaken q htakes
  · obtain ⟨hlt, hnew, hfree⟩ := h.outside q (hleft q hq)
    have hother : a.takes ≠ some q := fun htakes => (ht.taken q htakes).2 hq
    refine ⟨hlt, fun hreleased => ?_, fun hheld => ?_⟩
    · rcases hs.released_from h.ring hreleased with hold | hheld | htakes
      · exact hnew hold
      · exact hfree hheld
      · exact hother htakes
    · exact (hs.holds_from hheld).elim hfree hother
  · obtain ⟨credit, heq, hlt⟩ := (hcredits message hmessage).elim (h.acks message) id
    exact ⟨credit, heq, hlt.trans_le hgrown⟩

lemma Sound.engine_accepts (h : s.Sound depth) (hfit : s.window.nextSequence + depth ≤ 2 ^ 64)
    (hs : RingStep s.engine.ring a e'.ring es) (ht : s.Takes a frames)
    {answer : Release} (hq : .released q answer ∈ es) : answer ≠ .outOfWindow := by
  refine hs.accepted h.ring (fun p hp => ?_) (fun p hp => h.fits hfit (h.holds_lt p hp)) hq
  exact ⟨(ht.fresh h p hp).1.1, h.fits hfit (h.outside p (ht.taken p hp).1).1⟩

/-! ### The steps -/

lemma takes_arrive (h : s.Sound depth) (hmem : header ∈ s.frames) {length : ℕ} {arrival : Arrival}
    (hexplain : s.engine.Explains (.frame (encodeFrame header) length arrival) a) :
    s.Takes a (s.frames.erase header) := by
  refine ⟨List.erase_sublist, fun q hq => ?_⟩
  obtain ⟨frame, _, ⟨⟨bytes, _, hinput, hdecode⟩, -⟩, rfl⟩ := hexplain.frame hq
  obtain ⟨rfl, -⟩ := SubscriberInput.frame.inj hinput
  obtain rfl := decodeFrame_encoded hdecode
  have hperm := (List.perm_cons_erase hmem).map fun header => header.sequence.toNat
  have hdistinct := hperm.nodup_iff.mp h.distinct
  rw [List.map_cons, List.nodup_cons] at hdistinct
  exact ⟨List.mem_map_of_mem hmem, hdistinct.1⟩

lemma takes_running {input : SubscriberInput} (hrunning : input.running = true)
    (hexplain : s.engine.Explains input a) : s.Takes a s.frames := by
  refine ⟨List.Sublist.refl _, fun q hq => ?_⟩
  obtain ⟨frame, _, ⟨⟨header, arrival, rfl, -⟩, -⟩, -⟩ := hexplain.frame hq
  cases hrunning

lemma Sound.not_repeats (h : s.Sound depth) (hmem : header ∈ s.frames) :
    s.engine.repeats header = false := by
  have hfly : header.sequence.toNat ∈ s.flying := List.mem_map_of_mem hmem
  obtain ⟨hlt, hnew, hfree⟩ := h.outside _ hfly
  have habove : ¬ header.sequence.toNat < s.engine.tracker.releasedEnd :=
    not_lt.mpr (h.inside hlt hnew).1
  have hvacant : ¬ s.engine.ring.occupied (header.sequence.toNat % s.engine.ring.depth) = true := by
    intro hocc
    obtain ⟨hslot, -⟩ := h.ring.holder hocc
    have hheld : s.engine.ring.Holds (s.engine.ring.holding
        (header.sequence.toNat % s.engine.ring.depth)) := by
      rw [ReceiveRing.Holds, hslot]
      exact ⟨hocc, rfl⟩
    have heq := h.slots_distinct (.inl hfly) (.inr hheld) hslot.symm
    exact hfree (heq ▸ hheld)
  simp only [SubscriberEngine.repeats, decide_eq_false_iff_not, not_or]
  exact ⟨hvacant, habove⟩

lemma keeps_arrive (h : s.Sound depth) {header : FrameHeader} (hmem : header ∈ s.frames)
    (length : ℕ) (arrival : Arrival) :
    s.engine.Keeps (s.engine.handleFrame (encodeFrame header) length arrival).1 := by
  refine SubscriberEngine.keeps_handleFrame length arrival fun frame hdecode => ?_
  rw [decodeFrame_encoded hdecode]
  exact h.not_repeats hmem

lemma clean_receiver (h : ∀ q answer, .released q answer ∈ es → answer ≠ .outOfWindow) :
    ∀ event ∈ es.map LinkEvent.receiver, event.clean := by
  intro event hevent
  obtain ⟨reported, hmem, rfl⟩ := List.mem_map.mp hevent
  cases reported with
  | released q answer => exact h q answer hmem
  | _ => trivial

lemma Sound.submit (h : s.Sound depth) (hfit : s.window.nextSequence < 2 ^ 64)
    (hcan : s.window.canSubmit = true) (item : FrameHeader) :
    (s.submitTo item true).1.Sound depth := by
  have hsequence : (s.sessionHeader item).sequence.toNat = s.window.nextSequence :=
    UInt64.toNat_ofNat_of_lt' hfit
  have hflying : (s.submitTo item true).1.flying = s.window.nextSequence :: s.flying := by
    rw [← hsequence]
    rfl
  refine
    { window := CreditWindow.noteSubmitted_valid h.window hcan
      ring := h.ring
      width_le := h.width_le
      deep := h.deep
      credited_le := h.credited_le
      released_lt := fun q hq => (h.released_lt q hq).trans (Nat.lt_succ_self _)
      holds_lt := fun q hq => (h.holds_lt q hq).trans (Nat.lt_succ_self _)
      distinct := ?_
      outside := fun q hq => ?_
      acks := h.acks
      unrepeated := h.unrepeated }
  · rw [hflying, List.nodup_cons]
    exact ⟨fun hmem => absurd (h.outside _ hmem).1 (lt_irrefl _), h.distinct⟩
  · rw [hflying] at hq
    rcases List.mem_cons.mp hq with rfl | hq
    · exact ⟨Nat.lt_succ_self _, fun hreleased => absurd (h.released_lt _ hreleased) (lt_irrefl _),
        fun hheld => absurd (h.holds_lt _ hheld) (lt_irrefl _)⟩
    · obtain ⟨hlt, hrest⟩ := h.outside q hq
      exact ⟨hlt.trans (Nat.lt_succ_self _), hrest⟩

lemma Sound.credit (h : s.Sound depth) {message : Bytes} (hmem : message ∈ s.credits) :
    (s.handleCredit message).1.Sound depth ∧
      ∀ event ∈ (s.handleCredit message).2, event.clean := by
  obtain ⟨credit, rfl, hack⟩ := h.acks message hmem
  unfold handleCredit
  rw [decodeCredit_encodeCredit]
  dsimp only
  split_ifs with hstream
  · exact ⟨h, nofun⟩
  have hlt : credit.value.toNat < s.window.nextSequence := hack.trans_le h.released_le
  constructor
  · have hcredited : (s.window.applyCredit credit.value.toNat).2.creditedEnd ≤
        s.engine.ring.tracker.releasedEnd := by
      have hle := h.credited_le
      obtain ⟨-, he⟩ | ⟨-, -, he⟩ | ⟨-, -, he⟩ :=
        CreditWindow.applyCredit_cases s.window credit.value.toNat
      · rw [he]
        exact hle
      · rw [he]
        exact hle
      · rw [he]
        exact hack
    exact
      { window := CreditWindow.applyCredit_valid h.window _
        ring := h.ring
        width_le := by
          rw [CreditWindow.applyCredit_width]
          exact h.width_le
        deep := h.deep
        credited_le := hcredited
        released_lt := by
          rw [CreditWindow.applyCredit_next]
          exact h.released_lt
        holds_lt := by
          rw [CreditWindow.applyCredit_next]
          exact h.holds_lt
        distinct := h.distinct
        outside := by
          rw [CreditWindow.applyCredit_next]
          exact h.outside
        acks := h.acks
        unrepeated := h.unrepeated }
  · intro event hevent
    obtain rfl := List.mem_singleton.mp hevent
    exact CreditWindow.applyCredit_status hlt

lemma Sound.creditsSent (h : s.Sound depth) (hfit : s.window.nextSequence ≤ 2 ^ 64)
    {input : SubscriberInput} (hs : subscriberStep s.engine input = some (e', es)) {message : Bytes}
    (hmessage : message ∈ CreditLink.creditsSent input es) :
    ∃ credit, message = encodeCredit credit ∧
      credit.value.toNat < s.engine.ring.tracker.releasedEnd := by
  cases input with
  | sendCredit accepted =>
    simp only [subscriberStep] at hs
    split_ifs at hs
    obtain ⟨-, rfl⟩ := of_some_eq hs
    unfold SubscriberEngine.sendPendingCredit at hmessage
    obtain htake | ⟨hne, htake⟩ := s.engine.tracker.takePendingAck_cases
    · simp [htake, CreditLink.creditsSent] at hmessage
    · rw [htake] at hmessage
      cases accepted with
      | false => simp [CreditLink.creditsSent] at hmessage
      | true =>
        have hstart := h.ring.tracked.started
        have hend := h.released_le
        have hlt : s.engine.tracker.releasedEnd - 1 < s.engine.tracker.releasedEnd := by
          change s.engine.tracker.start ≤ s.engine.tracker.releasedEnd at hstart
          omega
        have hvalue : (UInt64.ofNat (s.engine.tracker.releasedEnd - 1)).toNat =
            s.engine.tracker.releasedEnd - 1 := by
          apply UInt64.toNat_ofNat_of_lt'
          change s.engine.tracker.releasedEnd ≤ s.window.nextSequence at hend
          exact (hlt.trans_le hend).trans_le hfit
        refine ⟨_, by simpa [CreditLink.creditsSent] using hmessage, ?_⟩
        rw [hvalue]
        exact hlt
  | _ => cases hmessage

/-- One step keeps the invariant as long as the assigned sequences leave room for the ring. -/
lemma Sound.step (h : s.Sound depth) {es : List LinkEvent}
    (hfit : s'.window.nextSequence + depth ≤ 2 ^ 64) (hs : s.step i = some (s', es)) :
    s'.Sound depth ∧ ∀ event ∈ es, event.clean := by
  cases i with
  | submit item accepted =>
    obtain ⟨hguard, rfl, rfl⟩ := of_guard hs
    cases accepted with
    | false => exact ⟨h, nofun⟩
    | true =>
      refine ⟨h.submit ?_ hguard item, fun event hevent => ?_⟩
      · change s.window.nextSequence + 1 + depth ≤ 2 ^ 64 at hfit
        omega
      · obtain rfl := List.mem_singleton.mp hevent
        trivial
  | arrive header length arrival =>
    obtain ⟨hmem, rfl, rfl⟩ := of_guard hs
    obtain ⟨a, hring, hbacks⟩ :=
      s.engine.handleFrame_refines (encodeFrame header) length arrival
    have htakes := takes_arrive h hmem hbacks.explained
    have hkeeps := keeps_arrive h hmem length arrival
    exact ⟨h.engineStep hring htakes hkeeps.repeated fun message hmessage => .inl hmessage,
      clean_receiver fun q answer hq => h.engine_accepts hfit hring htakes hq⟩
  | receiver =>
    obtain ⟨hrunning, hs⟩ := Option.ite_none_right_eq_some.mp hs
    obtain ⟨⟨e', reported⟩, hstep, rfl, rfl⟩ := of_mapped hs
    obtain ⟨a, hring, hbacks⟩ :=
      subscriberStep_refines (Nat.pos_iff_ne_zero.mp h.ring.depth_pos) hstep
    have htakes := takes_running (s := s) hrunning hbacks.explained
    refine ⟨h.engineStep hring htakes (subscriberStep_keeps hrunning hstep).repeated ?_,
      clean_receiver fun q answer hq => h.engine_accepts hfit hring htakes hq⟩
    intro message hmessage
    refine (List.mem_append.mp hmessage).imp_right fun hsent => ?_
    have hroom : s.window.nextSequence + depth ≤ 2 ^ 64 := hfit
    exact h.creditsSent (by omega) hstep hsent
  | credit =>
    obtain ⟨hguard, rfl, rfl⟩ := of_guard hs
    exact h.credit hguard

lemma window_step {es : List LinkEvent} (hs : s.step i = some (s', es)) :
    WindowMove s.window s'.window := by
  cases i with
  | submit item accepted =>
    obtain ⟨hguard, rfl, -⟩ := of_guard hs
    cases accepted with
    | false => exact .kept
    | true => exact .submitted hguard
  | arrive =>
    obtain ⟨-, rfl, -⟩ := of_guard hs
    exact .kept
  | receiver =>
    simp only [CreditLink.step, Option.ite_none_right_eq_some] at hs
    obtain ⟨done, -, rfl, -⟩ := of_mapped hs.2
    exact .kept
  | credit =>
    obtain ⟨-, rfl, -⟩ := of_guard hs
    unfold handleCredit
    split
    · exact .kept
    · split_ifs
      · exact .kept
      · exact .credited _

lemma next_le {es : List LinkEvent} (hs : s.step i = some (s', es)) :
    s.window.nextSequence ≤ s'.window.nextSequence :=
  (window_step hs).next_le

/-- What no step of the session changes. -/
structure Terms where
  streamId : UInt64
  width : ℕ
  config : ReceiveConfig

def terms (s : CreditLink) : Terms := ⟨s.streamId, s.window.width, s.engine.config⟩

lemma terms_step {es : List LinkEvent} (hs : s.step i = some (s', es)) : s'.terms = s.terms := by
  have hwidth := (window_step hs).width
  suffices hends : s'.streamId = s.streamId ∧ s'.engine.config = s.engine.config by
    rw [terms, terms, hwidth, hends.1, hends.2]
  cases i with
  | submit item accepted =>
    obtain ⟨-, rfl, -⟩ := of_guard hs
    cases accepted with
    | false | true => exact ⟨rfl, rfl⟩
  | arrive header length arrival =>
    obtain ⟨-, rfl, -⟩ := of_guard hs
    exact ⟨rfl, s.engine.config_handleFrame _ length arrival⟩
  | receiver =>
    simp only [CreditLink.step, Option.ite_none_right_eq_some] at hs
    obtain ⟨done, hstep, rfl, -⟩ := of_mapped hs.2
    exact ⟨rfl, subscriberStep_config hstep⟩
  | credit =>
    obtain ⟨-, rfl, -⟩ := of_guard hs
    unfold handleCredit
    split
    · exact ⟨rfl, rfl⟩
    · split_ifs
      all_goals exact ⟨rfl, rfl⟩

end CreditLink

/-! ### Whole runs -/

namespace CreditSession

variable {trace : List LinkEvent} {s : CreditLink} {ok : CreditLink → LinkInput → Prop}

lemma start_sound (c : CreditSession) : c.start.Sound c.ringDepth := by
  have hpos : 0 < c.granted.ringDepth.toNat := lt_of_lt_of_le c.window_pos c.window_le
  have hring : c.start.engine.ring.Windowed :=
    SubscriberEngine.activate_windowed _ _ _ hpos c.depth_le
  have htracker : c.start.engine.ring.tracker = ReleaseTracker.create c.ringDepth :=
    ReleaseTracker.reset_eq (ReleaseTracker.create_wellFormed (hpos.trans_le c.depth_le)) 0
  exact
    { window := ⟨le_refl _, Nat.zero_le _⟩
      ring := hring
      width_le := c.window_le
      deep := rfl
      credited_le := le_refl _
      released_lt := fun q hq => by
        rw [htracker] at hq
        exact absurd hq ReleaseTracker.create_released
      holds_lt := fun q hq => nomatch hq.1
      distinct := List.nodup_nil
      outside := nofun
      acks := nofun
      unrepeated := rfl }

lemma reach_terms (c : CreditSession) (h : linkMachine.Reaches ok c.start trace s) :
    s.terms = c.start.terms :=
  h.invariant (fun s => s.terms = c.start.terms) rfl
    fun _ _ _ _ hterms _ hs => (CreditLink.terms_step hs).trans hterms

lemma reach_granted (c : CreditSession) (h : linkMachine.Reaches ok c.start trace s) :
    s.engine.granted = c.granted := by
  have hconfig : s.engine.config = c.start.engine.config :=
    congrArg CreditLink.Terms.config (c.reach_terms h)
  exact congrArg ReceiveConfig.granted hconfig

lemma reach_depth (c : CreditSession) (h : linkMachine.Reaches ok c.start trace s) :
    s.engine.ring.depth = c.granted.ringDepth.toNat := by
  rw [← c.reach_granted h]
  rfl

lemma reach_streams (c : CreditSession) (h : linkMachine.Reaches ok c.start trace s) :
    s.streamId = s.engine.streamId := by
  have hterms := c.reach_terms h
  have hstream : s.streamId = c.streamId := congrArg CreditLink.Terms.streamId hterms
  have hconfig : s.engine.config = c.start.engine.config := congrArg CreditLink.Terms.config hterms
  exact hstream.trans (congrArg ReceiveConfig.streamId hconfig).symm

lemma reach_sound (c : CreditSession) (h : linkMachine.Reaches ok c.start trace s)
    (hfit : s.window.nextSequence + c.ringDepth ≤ 2 ^ 64) :
    s.Sound c.ringDepth ∧ ∀ event ∈ trace, event.clean := by
  revert hfit
  refine h.traceInvariant (fun trace s => s.window.nextSequence + c.ringDepth ≤ 2 ^ 64 →
    s.Sound c.ringDepth ∧ ∀ event ∈ trace, event.clean) (fun _ => ⟨c.start_sound, by simp⟩) ?_
  intro trace s i s' es ih _ hs hfit
  have hle := CreditLink.next_le hs
  obtain ⟨hsound, hclean⟩ := ih (by omega)
  obtain ⟨hsound', hclean'⟩ := hsound.step hfit hs
  refine ⟨hsound', fun event hevent => ?_⟩
  exact (List.mem_append.mp hevent).elim (hclean event) (hclean' event)

end CreditSession

/-! ### The publisher's end

The publisher moves the window of a session, and makes its headers, as its end of a link does. -/

namespace Publisher

variable {p p' : Publisher}

lemma fanSession_window (p : Publisher) (item : PublishItem) (answer : SendAnswer)
    (s : Session) : WindowMove s.window (p.fanSession item answer s).window := by
  unfold fanSession
  split_ifs with heligible hcan
  · exact .kept
  · exact .kept
  · have hallowed : s.window.canSubmit = true := by simpa using hcan
    cases answer with
    | refused =>
      unfold endedSession
      dsimp only
      split_ifs <;> exact .kept
    | completed | pending => exact .submitted hallowed

lemma Drift.window {s s' : Session} (h : Drift p s s') (hlive : s'.state.live = true) :
    WindowMove s.window s'.window := by
  cases h with
  | undisturbed h =>
    rw [h.window]
    exact .kept
  | credited ack => exact .credited ack
  | retired => cases hlive

lemma sessionHeader_link {s : Session} {l : CreditLink} (item : PublishItem)
    (hwindow : l.window = s.window) (hstream : l.streamId = s.streamId) :
    p.sessionHeader s item = l.sessionHeader { item.header with
      droppedBefore := UInt64.ofNat (p.droppedBeforeAll + s.droppedForSession) } := by
  rw [sessionHeader, CreditLink.sessionHeader, hwindow, hstream]

end Publisher

/-- Every call moves the window of a session that stays live as a link does. -/
lemma publisherStep_window {p p' : Publisher} {i : PublisherInput} {es : List PublisherEvent}
    (hs : publisherStep p i = some (p', es)) {k : ℕ} (hbefore : (p.sessions k).state.live = true)
    (hafter : (p'.sessions k).state.live = true) :
    WindowMove (p.sessions k).window (p'.sessions k).window := by
  cases i with
  | publish lease metadata realtimeNs contended =>
    obtain ⟨-, rfl, -⟩ := of_guard hs
    rcases p.publish_cases lease metadata realtimeNs contended with
      hdrifts | ⟨i, resolved, queue, -, -, heq⟩
    · exact (hdrifts.sessions k).window hafter
    · rw [heq]
      exact .kept
  | submit answers =>
    obtain ⟨q, hsubmit, rfl, -⟩ := of_mapped hs
    obtain ⟨item, hfanned⟩ := Publisher.submitReady_fanned hsubmit
    rw [hfanned.sessions k]
    split_ifs
    · exact p.fanSession_window item (answers k) (p.sessions k)
    · exact .kept
  | probeAck header =>
    cases hs
    cases harming : p.armingSeat header with
    | none => exact ((Publisher.drifts_handleProbeAck harming).sessions k).window hafter
    | some j =>
      rw [Publisher.handleProbeAck_of_arming harming]
      have hsame : (((p.swapArmed j).levelOrdinal j).sessions k).window = (p.sessions k).window := by
        by_cases hk : k = j
        · subst hk
          simp [Publisher.swapArmed, Publisher.levelOrdinal, Publisher.setSession]
        · simp [Publisher.swapArmed, Publisher.levelOrdinal, Publisher.setSession, hk]
      change WindowMove _ (((p.swapArmed j).levelOrdinal j).sessions k).window
      rw [hsame]
      exact .kept
  | «open» j request fresh =>
    obtain ⟨⟨hvacant, -⟩, rfl, -⟩ := of_guard hs
    have hk : k ≠ j := by
      rintro rfl
      obtain ⟨-, hfree⟩ := of_decide_eq_true hvacant
      rcases hfree with hunknown | ⟨hclosed, -⟩
      · rw [hunknown] at hbefore
        cases hbefore
      · rw [hclosed] at hbefore
        cases hbefore
    have hsame : (p.claimSeat j request fresh).sessions k = p.sessions k :=
      Function.update_of_ne hk _ _
    rw [hsame]
    exact .kept
  | _ => exact ((publisherStep_drifts rfl hs).sessions k).window hafter

/-- While a session stays live, no run of calls moves its window in another way than a link does. -/
theorem live_window_moves {p p' : Publisher} {k : ℕ} {trace : List PublisherEvent}
    (hreach : publisherMachine.Reaches (fun q _ => (q.sessions k).state.live = true) p trace p')
    (hlive : (p'.sessions k).state.live = true) :
    Relation.ReflTransGen WindowMove (p.sessions k).window (p'.sessions k).window := by
  induction hreach with
  | start => exact .refl
  | next _ hbefore hs ih => exact (ih hbefore).tail (publisherStep_window hs hbefore hlive)

/-- A frame is submitted to a session and credited. -/
theorem live_window_moves_sample : ∃ w : CreditWindow, w.creditedEnd = 1 ∧
    Relation.ReflTransGen WindowMove
      (((Publisher.create sampleConfig 1 [1]).claimSeat 0 sampleOpen
        (sampleFresh 7)).sessions 0).window w := by
  obtain ⟨trace, p, hreach, hlive, hcredited⟩ := publisherMachine.exists_of_run
    (fun q _ => (q.sessions 0).state.live = true)
    ((Publisher.create sampleConfig 1 [1]).claimSeat 0 sampleOpen (sampleFresh 7))
    [.probeAck (sampleProbeAck 7), .acquire, .publish (some 0) sampleMetadata 5 false,
      .submit (fun _ => .completed), .credit (sampleCredit 7 0)]
    (P := fun p _ => (p.sessions 0).state.live = true ∧ (p.sessions 0).window.creditedEnd = 1)
    (by decide +kernel)
  exact ⟨_, hcredited, live_window_moves hreach hlive⟩

end TangoBulk
