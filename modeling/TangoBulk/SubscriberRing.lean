import TangoBulk.SubscriberEngine

/-! What the receive engine does to its ring, without headers, counters and failures: which
slots are occupied and by which sequence, who holds each occupied slot, and what the release
tracker has recorded. -/
namespace TangoBulk

open Function

structure ReceiveRing where
  depth : ℕ
  occupied : ℕ → Bool
  holding : ℕ → ℕ
  pending : ℕ → Bool
  leases : List ℕ
  returns : Fifo ℕ
  overflowed : Bool
  tracker : ReleaseTracker

/-- `drop` and `discard` release a sequence whose frame never occupies a slot; `refuse` is a
rendezvous that could not be started. -/
inductive RingAction
  | idle
  | drop (q : ℕ)
  | refuse (q : ℕ)
  | discard (q : ℕ)
  | deliver (q n : ℕ)
  | start (q n : ℕ)
  | finish (k : ℕ)
  | abort (k : ℕ)
  | giveBack (q : ℕ)
  | drain
  | ack
  | ackFailed
  deriving DecidableEq

namespace RingAction

/-- The sequence of the frame that the action answers. -/
def takes : RingAction → Option ℕ
  | .drop q | .refuse q | .discard q | .deliver q _ | .start q _ => some q
  | _ => none

/-- The action of a session that fails: its frame is lost. -/
def fatal : RingAction → Bool
  | .refuse _ | .discard _ | .abort _ => true
  | _ => false

end RingAction

inductive RingStep (r : ReceiveRing) : RingAction → ReceiveRing → List SubscriberEvent → Prop
  | idle (sent : List ByteString.Bytes) : RingStep r .idle r (sent.map .sent)
  | drop (q : ℕ) :
      RingStep r (.drop q) { r with tracker := (r.tracker.release q).2 }
        [.released q (r.tracker.release q).1]
  | refuse (q : ℕ) (vacant : r.occupied (q % r.depth) = false) :
      RingStep r (.refuse q) { r with holding := Function.update r.holding (q % r.depth) q } []
  | discard (q : ℕ) (vacant : r.occupied (q % r.depth) = false) :
      RingStep r (.discard q)
        { r with
          holding := Function.update r.holding (q % r.depth) q
          tracker := (r.tracker.release q).2 }
        [.released q (r.tracker.release q).1]
  | deliver (q n : ℕ) (vacant : r.occupied (q % r.depth) = false)
      (above : r.tracker.releasedEnd ≤ q) :
      RingStep r (.deliver q n)
        { r with
          occupied := Function.update r.occupied (q % r.depth) true
          holding := Function.update r.holding (q % r.depth) q
          leases := q :: r.leases }
        [.wrote (q % r.depth) n, .committed q]
  | start (q n : ℕ) (vacant : r.occupied (q % r.depth) = false)
      (above : r.tracker.releasedEnd ≤ q) :
      RingStep r (.start q n)
        { r with
          occupied := Function.update r.occupied (q % r.depth) true
          holding := Function.update r.holding (q % r.depth) q
          pending := Function.update r.pending (q % r.depth) true }
        [.wrote (q % r.depth) n]
  | finish (k : ℕ) (started : r.pending k = true) :
      RingStep r (.finish k)
        { r with
          pending := Function.update r.pending k false
          leases := r.holding k :: r.leases }
        [.committed (r.holding k)]
  | abort (k : ℕ) (started : r.pending k = true) :
      RingStep r (.abort k)
        { r with
          pending := Function.update r.pending k false
          occupied := Function.update r.occupied k false }
        []
  | giveBack (q : ℕ) (live : q ∈ r.leases) (queue : Fifo ℕ) (room : r.returns.push q = some queue) :
      RingStep r (.giveBack q) { r with leases := r.leases.erase q, returns := queue } []
  | overflow (q : ℕ) (live : q ∈ r.leases) (full : r.returns.push q = none) :
      RingStep r (.giveBack q) { r with leases := r.leases.erase q, overflowed := true } []
  | drain (q : ℕ) (queue : Fifo ℕ) (oldest : r.returns.pop = some (q, queue)) :
      RingStep r .drain
        { r with
          returns := queue
          occupied := Function.update r.occupied (q % r.depth) false
          tracker := (r.tracker.release q).2 }
        [.released q (r.tracker.release q).1]
  | ack (a : ℕ) (sent : List ByteString.Bytes) (accepted : Bool)
      (offered : r.tracker.takePendingAck.1 = some a) :
      RingStep r .ack
        { r with tracker := { r.tracker.takePendingAck.2 with ackSent := accepted } }
        (.acked a :: sent.map .sent)
  | ackFailed : RingStep r .ackFailed { r with tracker := r.tracker.markAckFailed } []

namespace SubscriberEngine

def ring (e : SubscriberEngine) : ReceiveRing where
  depth := e.depth
  occupied := fun k => (e.slots k).occupied
  holding := fun k => (e.slots k).fields.sequence
  pending := e.pending
  leases := e.leases
  returns := e.creditReturns
  overflowed := e.overflowed
  tracker := e.tracker

@[simp] lemma ring_bump (e : SubscriberEngine) (c : SubscriberCounter) (n : ℕ) :
    (e.bump c n).ring = e.ring := rfl

@[simp] lemma ring_fail (e : SubscriberEngine) (status : Status) (reason : String) :
    (e.fail status reason).ring = e.ring := rfl

lemma ring_setSlot (e : SubscriberEngine) (k : ℕ) (slot : ReceiveSlot) :
    (e.setSlot k slot).ring =
      { e.ring with
        occupied := update e.ring.occupied k slot.occupied
        holding := update e.ring.holding k slot.fields.sequence } := by
  have hocc : (fun j => (update e.slots k slot j).occupied) =
      update (fun j => (e.slots j).occupied) k slot.occupied := by
    funext j
    by_cases hj : j = k
    · subst hj; simp
    · simp [hj]
  have hhold : (fun j => (update e.slots k slot j).fields.sequence) =
      update (fun j => (e.slots j).fields.sequence) k slot.fields.sequence := by
    funext j
    by_cases hj : j = k
    · subst hj; simp
    · simp [hj]
  simp only [ring, setSlot, depth, hocc, hhold]

lemma ring_vacate (e : SubscriberEngine) (k : ℕ) :
    (e.vacate k).ring = { e.ring with occupied := update e.ring.occupied k false } := by
  rw [vacate, ring_setSlot]
  simp only [ReceiveRing.mk.injEq, true_and, and_true]
  exact update_eq_self k e.ring.holding

lemma ring_claimSlot (e : SubscriberEngine) (frame : FrameHeader) (k : ℕ) :
    (e.claimSlot frame k).ring =
      { e.ring with
        occupied := update e.ring.occupied k true
        holding := update e.ring.holding k frame.sequence.toNat } :=
  ring_setSlot _ _ _

/-- A frame of this session and epoch that reached an engine still open. -/
structure FrameOf (e : SubscriberEngine) (i : SubscriberInput) (frame : FrameHeader)
    (length : ℕ) : Prop where
  input : ∃ header arrival, i = .frame header length arrival ∧ decodeFrame header = .ok frame
  accepting : e.closing = false
  stream : frame.streamId = e.streamId
  epoch : frame.generation = e.granted.generation

/-- The frame describes the granted array and fits the delivered bytes and the grant. -/
def fits (e : SubscriberEngine) (frame : FrameHeader) (length : ℕ) : Bool :=
  (e.granted.rank = 0 ∨ describesGranted frame e.granted) ∧ frame.payloadBytes.toNat = length ∧
    frame.payloadBytes ≤ e.granted.maxFrameBytes

/-- Which frame stands behind a step of the ring. -/
def Explains (e : SubscriberEngine) (i : SubscriberInput) : RingAction → Prop
  | .drop q => ∃ frame length, FrameOf e i frame length ∧ q = frame.sequence.toNat ∧
      e.fits frame length = false
  | .refuse q | .discard q => ∃ frame length, FrameOf e i frame length ∧
      q = frame.sequence.toNat ∧ e.fits frame length = true
  | .deliver q n | .start q n => ∃ frame length, FrameOf e i frame length ∧
      q = frame.sequence.toNat ∧ e.fits frame length = true ∧ n = length
  | _ => True

/-- What is known of the action `a` of the ring behind a step from `e` to `e'`. -/
structure Backs (e : SubscriberEngine) (i : SubscriberInput) (e' : SubscriberEngine)
    (a : RingAction) : Prop where
  explained : Explains e i a
  failed : a.fatal = true → e'.failure ≠ none

variable {e' : SubscriberEngine} {i : SubscriberInput} {length : ℕ}

lemma Backs.of_explained {e : SubscriberEngine} {a : RingAction} (h : Explains e i a)
    (ha : a.fatal = false) : Backs e i e' a :=
  ⟨h, fun hfatal => absurd (hfatal.symm.trans ha) (by decide)⟩

lemma fail_failure (e : SubscriberEngine) (status : Status) (reason : String) :
    (e.fail status reason).failure ≠ none := by
  simp [fail]

lemma fits_iff {e : SubscriberEngine} {frame : FrameHeader} :
    e.fits frame length = true ↔
      ¬ (e.granted.rank ≠ 0 ∧ (!describesGranted frame e.granted) = true) ∧
      frame.payloadBytes.toNat = length ∧ ¬ e.granted.maxFrameBytes < frame.payloadBytes := by
  simp only [fits, decide_eq_true_eq, UInt64.not_lt]
  constructor
  · rintro ⟨ha, hl, hm⟩
    refine ⟨?_, hl, hm⟩
    rintro ⟨hr, hd⟩
    rcases ha with ha | ha
    · exact hr ha
    · simp [ha] at hd
  · rintro ⟨ha, hl, hm⟩
    refine ⟨?_, hl, hm⟩
    by_cases hr : e.granted.rank = 0
    · exact .inl hr
    · refine .inr ?_
      by_contra hd
      exact ha ⟨hr, by simpa using hd⟩

lemma ring_commit (e : SubscriberEngine) (k : ℕ) :
    (e.commit k).1.ring = { e.ring with leases := e.ring.holding k :: e.ring.leases } := rfl

lemma commit_events (e : SubscriberEngine) (k : ℕ) :
    (e.commit k).2 = [.committed (e.ring.holding k)] := rfl

lemma update_vacant {f : ℕ → Bool} {k : ℕ} (h : f k = false) (b : Bool) :
    update (update f k b) k false = f := by
  rw [update_idem, ← h, update_eq_self]

section Receive

variable {e : SubscriberEngine} {frame : FrameHeader} {k : ℕ}

lemma receive_refused (h : e.ring.occupied k = false) (length : ℕ) :
    (e.receive frame k length (.rndv .refused)).1.ring =
      { e.ring with holding := update e.ring.holding k frame.sequence.toNat } := by
  simp only [receive, ring_fail, ring_bump, ring_vacate, ring_claimSlot]
  rw [update_vacant h]

lemma receive_completed (length : ℕ) :
    (e.receive frame k length (.rndv .completed)).1.ring =
      { e.ring with
        occupied := update e.ring.occupied k true
        holding := update e.ring.holding k frame.sequence.toNat
        leases := frame.sequence.toNat :: e.ring.leases } ∧
    (e.receive frame k length (.rndv .completed)).2 =
      [.wrote k frame.payloadBytes.toNat, .committed frame.sequence.toNat] := by
  simp only [receive, ring_commit, commit_events, ring_claimSlot, update_self, and_self]

lemma receive_inProgress (length : ℕ) :
    (e.receive frame k length (.rndv .inProgress)).1.ring =
      { e.ring with
        occupied := update e.ring.occupied k true
        holding := update e.ring.holding k frame.sequence.toNat
        pending := update e.ring.pending k true } := by
  have hclaim := ring_claimSlot e frame k
  have hring : (e.receive frame k length (.rndv .inProgress)).1.ring =
      { (e.claimSlot frame k).ring with pending := update e.ring.pending k true } := rfl
  rw [hring, hclaim]

lemma receive_host (hkind : e.receiveMemoryKind = .host) (length : ℕ) :
    (e.receive frame k length .eager).1.ring =
      { e.ring with
        occupied := update e.ring.occupied k true
        holding := update e.ring.holding k frame.sequence.toNat
        leases := frame.sequence.toNat :: e.ring.leases } ∧
    (e.receive frame k length .eager).2 =
      [.wrote k length, .committed frame.sequence.toNat] := by
  simp only [receive, hkind, ne_eq, not_true_eq_false, if_false, ring_commit, commit_events,
    ring_bump, ring_claimSlot, update_self, and_self]

lemma receive_device (hkind : e.receiveMemoryKind ≠ .host) (h : e.ring.occupied k = false)
    (length : ℕ) :
    (e.receive frame k length .eager).1.ring =
      { e.ring with
        holding := update e.ring.holding k frame.sequence.toNat
        tracker := (e.ring.tracker.release frame.sequence.toNat).2 } ∧
    (e.receive frame k length .eager).2 =
      [.released frame.sequence.toNat (e.ring.tracker.release frame.sequence.toNat).1] := by
  have hvacated : ((e.claimSlot frame k).vacate k).ring =
      { e.ring with holding := update e.ring.holding k frame.sequence.toNat } := by
    rw [ring_vacate, ring_claimSlot, update_vacant h]
  have htracker : ((e.claimSlot frame k).vacate k).tracker = e.ring.tracker := rfl
  have hring : (((e.claimSlot frame k).vacate k).releaseSequence frame.sequence.toNat).1.ring =
      { ((e.claimSlot frame k).vacate k).ring with
        tracker := (e.ring.tracker.release frame.sequence.toNat).2 } := rfl
  simp only [receive, hkind, ne_eq, not_false_eq_true, if_true, ring_fail, ring_bump, hring,
    hvacated, true_and]
  rfl

end Receive

variable {e : SubscriberEngine} {frame : FrameHeader}

/-- A frame that passes the checks claims its slot, and gives it up again if the transport
or the memory kind does not allow the receive. -/
lemma receive_refines (arrival : Arrival)
    (hf : FrameOf e i frame length) (hfits : e.fits frame length = true)
    (hvacant : e.ring.occupied (frame.sequence.toNat % e.depth) = false)
    (habove : e.ring.tracker.releasedEnd ≤ frame.sequence.toNat) :
    ∃ a, RingStep e.ring a (e.receive frame (frame.sequence.toNat % e.depth) length arrival).1.ring
      (e.receive frame (frame.sequence.toNat % e.depth) length arrival).2 ∧
      Backs e i (e.receive frame (frame.sequence.toNat % e.depth) length arrival).1 a ∧
      a.takes = some frame.sequence.toNat := by
  have hlen : frame.payloadBytes.toNat = length := (fits_iff.mp hfits).2.1
  have hlost : ∃ frame' length', FrameOf e i frame' length' ∧
      frame.sequence.toNat = frame'.sequence.toNat ∧ e.fits frame' length' = true :=
    ⟨frame, length, hf, rfl, hfits⟩
  have hdeliver : Explains e i (.deliver frame.sequence.toNat length) :=
    ⟨frame, length, hf, rfl, hfits, rfl⟩
  cases arrival with
  | rndv answer =>
    cases answer with
    | refused =>
      refine ⟨.refuse frame.sequence.toNat, ?_, ⟨hlost, fun _ => fail_failure _ _ _⟩, rfl⟩
      rw [receive_refused hvacant]
      exact .refuse _ hvacant
    | completed =>
      refine ⟨_, ?_, .of_explained hdeliver rfl, rfl⟩
      rw [(receive_completed length).1, (receive_completed length).2, hlen]
      exact .deliver _ _ hvacant habove
    | inProgress =>
      refine ⟨.start frame.sequence.toNat length, ?_,
        .of_explained ⟨frame, length, hf, rfl, hfits, rfl⟩ rfl, rfl⟩
      rw [receive_inProgress, receive, hlen]
      exact .start _ _ hvacant habove
  | eager =>
    by_cases hkind : e.receiveMemoryKind = .host
    · refine ⟨_, ?_, .of_explained hdeliver rfl, rfl⟩
      rw [(receive_host hkind length).1, (receive_host hkind length).2]
      exact .deliver _ _ hvacant habove
    · refine ⟨.discard frame.sequence.toNat, ?_, ⟨hlost, fun _ => ?_⟩, rfl⟩
      · rw [(receive_device hkind hvacant length).1, (receive_device hkind hvacant length).2]
        exact .discard _ hvacant
      · simp only [receive, hkind, ne_eq, not_false_eq_true, if_true]
        exact fail_failure _ _ _

lemma refines_idle (h : e'.ring = e.ring) : ∃ a, RingStep e.ring a e'.ring [] ∧ Backs e i e' a := by
  rw [h]
  exact ⟨.idle, .idle [], .of_explained trivial rfl⟩

lemma dropReleased_refines (counter : SubscriberCounter) (hf : FrameOf e i frame length)
    (hfits : e.fits frame length = false) :
    ∃ a, RingStep e.ring a (e.dropReleased counter frame).1.ring (e.dropReleased counter frame).2 ∧
      (∀ e', Backs e i e' a) ∧ a.takes = some frame.sequence.toNat :=
  ⟨.drop frame.sequence.toNat, .drop _,
    fun _ => .of_explained ⟨frame, length, hf, rfl, hfits⟩ rfl, rfl⟩

/-- The slot of the frame is occupied, or its sequence was released. -/
def repeats (e : SubscriberEngine) (frame : FrameHeader) : Bool :=
  (e.slots (frame.sequence.toNat % e.depth)).occupied ∨
    frame.sequence.toNat < e.tracker.releasedEnd

lemma handleSessionFrame_takes (arrival : Arrival)
    (hf : FrameOf e i frame length) (hnew : e.fits frame length = true → e.repeats frame = false) :
    ∃ a, RingStep e.ring a (e.handleSessionFrame frame length arrival).1.ring
      (e.handleSessionFrame frame length arrival).2 ∧
      Backs e i (e.handleSessionFrame frame length arrival).1 a ∧
      a.takes = some frame.sequence.toNat := by
  have hunfit : ∀ {p : Prop}, p → (p → ¬ e.fits frame length = true) →
      e.fits frame length = false := fun hp h => by simpa using h hp
  unfold handleSessionFrame
  dsimp only
  split_ifs with h1 h2 h3 h4
  · obtain ⟨a, hring, hbacks, htakes⟩ := dropReleased_refines .droppedGeometryMismatch hf
      (hunfit h1 fun h hfit => (fits_iff.mp hfit).1 h)
    exact ⟨a, hring, hbacks _, htakes⟩
  · obtain ⟨a, hring, hbacks, htakes⟩ := dropReleased_refines .droppedBadHeader hf
      (hunfit h2 fun h hfit => h (fits_iff.mp hfit).2.1)
    exact ⟨a, hring, hbacks _, htakes⟩
  · obtain ⟨a, hring, hbacks, htakes⟩ := dropReleased_refines .droppedOversize hf
      (hunfit h3 fun h hfit => (fits_iff.mp hfit).2.2 h)
    exact ⟨a, hring, hbacks _, htakes⟩
  · have hfits : e.fits frame length = true := fits_iff.mpr ⟨h1, not_not.mp h2, h3⟩
    exact absurd h4 (by simpa [repeats] using hnew hfits)
  · rw [not_or, Bool.not_eq_true, not_lt] at h4
    exact receive_refines arrival hf (fits_iff.mpr ⟨h1, not_not.mp h2, h3⟩) h4.1 h4.2

lemma handleSessionFrame_repeated (arrival : Arrival)
    (hfits : e.fits frame length = true) (hold : e.repeats frame = true) :
    e.handleSessionFrame frame length arrival = (e.bump .droppedDuplicateSeq 1, []) := by
  obtain ⟨h1, h2, h3⟩ := fits_iff.mp hfits
  unfold handleSessionFrame
  rw [if_neg h1, if_neg (not_not.mpr h2), if_neg h3, if_pos (by simpa [repeats] using hold)]

lemma handleSessionFrame_refines (arrival : Arrival) (hf : FrameOf e i frame length) :
    ∃ a, RingStep e.ring a (e.handleSessionFrame frame length arrival).1.ring
      (e.handleSessionFrame frame length arrival).2 ∧
      Backs e i (e.handleSessionFrame frame length arrival).1 a := by
  by_cases hold : e.fits frame length = true ∧ e.repeats frame = true
  · rw [handleSessionFrame_repeated arrival hold.1 hold.2]
    exact refines_idle rfl
  · obtain ⟨a, hring, hbacks, -⟩ := handleSessionFrame_takes arrival hf
      fun hfits => by simpa [hfits] using hold
    exact ⟨a, hring, hbacks⟩

lemma handleFrame_session {header : ByteString.Bytes}
    {arrival : Arrival} (hopen : e.closing = false) (hdecode : decodeFrame header = .ok frame)
    (hstream : frame.streamId = e.streamId) (hepoch : frame.generation = e.granted.generation) :
    e.handleFrame header length arrival = e.handleSessionFrame frame length arrival := by
  simp [handleFrame, hopen, hdecode, hstream, hepoch]

lemma handleFrame_refines (e : SubscriberEngine) (header : ByteString.Bytes) (length : ℕ)
    (arrival : Arrival) :
    ∃ a, RingStep e.ring a (e.handleFrame header length arrival).1.ring
      (e.handleFrame header length arrival).2 ∧
      Backs e (.frame header length arrival) (e.handleFrame header length arrival).1 a := by
  unfold handleFrame
  split_ifs with hclosing
  · exact refines_idle rfl
  · split
    · exact refines_idle rfl
    · rename_i frame hdecode
      split_ifs with hstream hepoch
      · exact refines_idle rfl
      · exact refines_idle rfl
      · exact handleSessionFrame_refines arrival
          ⟨⟨header, arrival, rfl, hdecode⟩, by simpa using hclosing, not_not.mp hstream,
            not_not.mp hepoch⟩

lemma onRndvComplete_refines {k : ℕ} (i : SubscriberInput)
    (success : Bool) (h : e.pending k = true) :
    ∃ a, RingStep e.ring a (e.onRndvComplete k success).1.ring (e.onRndvComplete k success).2 ∧
      Backs e i (e.onRndvComplete k success).1 a := by
  cases success with
  | true => exact ⟨.finish k, .finish k h, .of_explained trivial rfl⟩
  | false =>
    refine ⟨.abort k, ?_, trivial, fun _ => fail_failure _ _ _⟩
    have hring : (e.onRndvComplete k false).1.ring =
        { e.ring with
          pending := update e.ring.pending k false
          occupied := update e.ring.occupied k false } := by
      simp only [onRndvComplete, Bool.false_eq_true, if_false, ring_fail, ring_bump, ring_vacate]
      rfl
    rw [hring]
    exact .abort k h

lemma releaseView_refines {q : ℕ} (i : SubscriberInput) (h : q ∈ e.leases) :
    ∃ a, RingStep e.ring a (e.releaseView q).ring [] ∧ Backs e i (e.releaseView q) a := by
  refine ⟨.giveBack q, ?_, .of_explained trivial rfl⟩
  unfold releaseView returnCredit
  cases hpush : e.creditReturns.push q with
  | some queue =>
    exact .giveBack q h queue hpush
  | none =>
    exact .overflow q h hpush

lemma ring_releaseSequence (e : SubscriberEngine) (q : ℕ) :
    (e.releaseSequence q).1.ring = { e.ring with tracker := (e.ring.tracker.release q).2 } := rfl

lemma drainCreditReturn_refines {es : List SubscriberEvent}
    (i : SubscriberInput) (hd : e.depth ≠ 0) (h : e.drainCreditReturn = some (e', es)) :
    ∃ a, RingStep e.ring a e'.ring es ∧ Backs e i e' a := by
  obtain ⟨⟨q, queue⟩, hpop, heq⟩ := Option.map_eq_some_iff.mp h
  dsimp only at heq
  rw [if_pos hd] at heq
  have hstate : _ = e' := congrArg Prod.fst heq
  have hevents : _ = es := congrArg Prod.snd heq
  refine ⟨.drain, ?_, .of_explained trivial rfl⟩
  rw [← hstate, ← hevents, ring_releaseSequence, ring_vacate]
  exact .drain q queue hpop

lemma sendPendingCredit_refines (e : SubscriberEngine) (i : SubscriberInput) (accepted : Bool) :
    ∃ a, RingStep e.ring a (e.sendPendingCredit accepted).1.ring
      (e.sendPendingCredit accepted).2 ∧ Backs e i (e.sendPendingCredit accepted).1 a := by
  unfold sendPendingCredit
  obtain htake | ⟨-, htake⟩ := e.tracker.takePendingAck_cases
  · rw [htake]
    exact ⟨.idle, .idle [], .of_explained trivial rfl⟩
  · have hoffer : e.ring.tracker.takePendingAck.1 = some (e.tracker.releasedEnd - 1) := by
      simp [ring, htake]
    rw [htake]
    cases accepted with
    | true =>
      refine ⟨.ack, ?_, .of_explained trivial rfl⟩
      have hstep := RingStep.ack (r := e.ring) _ [encodeCredit
        { generation := e.granted.generation, streamId := e.streamId,
          value := UInt64.ofNat (e.tracker.releasedEnd - 1) }] true hoffer
      simp only [ring, htake] at hstep
      exact hstep
    | false =>
      refine ⟨.ack, ?_, .of_explained trivial rfl⟩
      have hstep := RingStep.ack (r := e.ring) _ [] false hoffer
      simp only [ring, htake] at hstep
      exact hstep

lemma onProbe_ring (e : SubscriberEngine) (header : ByteString.Bytes) :
    (e.onProbe header).ring = e.ring := by
  unfold onProbe
  split
  · rfl
  · split_ifs <;> rfl

lemma sendPendingProbeAck_refines (e : SubscriberEngine) (i : SubscriberInput) (accepted : Bool) :
    ∃ a, RingStep e.ring a (e.sendPendingProbeAck accepted).1.ring
      (e.sendPendingProbeAck accepted).2 ∧ Backs e i (e.sendPendingProbeAck accepted).1 a := by
  unfold sendPendingProbeAck
  split_ifs
  · exact refines_idle rfl
  · exact refines_idle rfl
  all_goals exact ⟨.idle, .idle [_], .of_explained trivial rfl⟩

end SubscriberEngine

/-- Every step of the engine is one step of its ring. -/
lemma subscriberStep_refines {e e' : SubscriberEngine} {i : SubscriberInput}
    {es : List SubscriberEvent} (hd : e.depth ≠ 0) (h : subscriberStep e i = some (e', es)) :
    ∃ a, RingStep e.ring a e'.ring es ∧ SubscriberEngine.Backs e i e' a := by
  cases i with
  | frame header length arrival =>
    obtain ⟨rfl, rfl⟩ := Transition.of_some_eq h
    exact e.handleFrame_refines header length arrival
  | rndvComplete k success =>
    obtain ⟨hk, rfl, rfl⟩ := Transition.of_guard h
    exact SubscriberEngine.onRndvComplete_refines _ success hk
  | releaseView =>
    obtain ⟨hq, rfl, rfl⟩ := Transition.of_guard h
    exact SubscriberEngine.releaseView_refines _ hq
  | drain =>
    simp only [subscriberStep] at h
    split_ifs at h
    exact SubscriberEngine.drainCreditReturn_refines _ hd h
  | sendCredit accepted =>
    simp only [subscriberStep] at h
    split_ifs at h
    obtain ⟨rfl, rfl⟩ := Transition.of_some_eq h
    exact e.sendPendingCredit_refines _ accepted
  | creditFailed =>
    cases h
    exact ⟨.ackFailed, .ackFailed, .of_explained trivial rfl⟩
  | probe header =>
    cases h
    exact SubscriberEngine.refines_idle (e.onProbe_ring header)
  | sendProbeAck accepted =>
    simp only [subscriberStep] at h
    split_ifs at h
    obtain ⟨rfl, rfl⟩ := Transition.of_some_eq h
    exact e.sendPendingProbeAck_refines _ accepted
  | quiesce =>
    cases h
    exact SubscriberEngine.refines_idle rfl

end TangoBulk
