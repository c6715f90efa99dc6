import TangoBulk.BoundedQueue
import TangoBulk.LibTransition
import TangoBulk.ProtocolData
import TangoBulk.ReleaseTracker

/-! The subscriber's receive engine after `activate`. Frames, completions and probes reach it from
the transport, the application releases views, and the engine loop drains returned credits and sends
acks. Each is one step, with what the transport answers in its input. Payload contents are not
modelled, only where they are written. -/
namespace TangoBulk

open ByteString Transition

inductive SubscriberState
  | closed | opening | probing | active | reconnecting | failed
  deriving DecidableEq

structure FrameFields where
  shape : Dims := Dims.zero
  strides : Dims := Dims.zero
  sequence : ℕ := 0
  eventCounter : UInt64 := 0
  timestampNs : UInt64 := 0
  droppedBefore : UInt64 := 0
  payloadBytes : UInt64 := 0
  elementType : ElementType := .unknown
  elementSize : UInt32 := 0
  rank : UInt32 := 0
  quality : UInt32 := 0
  generation : UInt32 := 0
  memoryKind : MemoryKind := .host
  endian : Endian := .little
  deriving DecidableEq

structure ReceiveSlot where
  fields : FrameFields := {}
  capacity : ℕ
  occupied : Bool := false
  deriving DecidableEq

inductive SubscriberCounter
  | framesReceived | droppedBadHeader | droppedOversize | droppedStaleEpoch
  | droppedDuplicateSeq | droppedGeometryMismatch | creditMessagesSent | transportErrors
  | bytesCopied | creditsReturned
  deriving DecidableEq

/-- `leases` lists the sequences of the live `ReceiveSlotLease`s: the views that the
application or the delivery queue still holds. `overflowed` records a failed assertion
of `returnCredit`. -/
structure SubscriberEngine where
  ringDepth : ℕ
  receiveMemoryKind : MemoryKind
  streamId : UInt64
  granted : GeometryBlock
  slots : ℕ → ReceiveSlot
  leases : List ℕ := []
  creditReturns : Fifo ℕ
  overflowed : Bool := false
  tracker : ReleaseTracker
  pending : ℕ → Bool := fun _ => false
  rndvInflight : ℕ := 0
  closing : Bool := false
  pendingProbeToken : UInt64 := 0
  probeAckPending : Bool := false
  state : SubscriberState := .probing
  failure : Option (Status × String) := none
  counters : SubscriberCounter → ℕ := fun _ => 0

inductive SubscriberEvent
  | wrote (slot bytes : ℕ)
  | committed (sequence : ℕ)
  | released (sequence : ℕ) (answer : Release)
  | acked (ack : ℕ)
  | sent (message : Bytes)
  deriving DecidableEq

/-- What `ucp_am_recv_data_nbx` answers. -/
inductive RecvAnswer
  | refused | completed | inProgress
  deriving DecidableEq

/-- Whether the payload was staged by the transport or waits for a rendezvous. -/
inductive Arrival
  | eager
  | rndv (answer : RecvAnswer)
  deriving DecidableEq

namespace SubscriberEngine

def depth (e : SubscriberEngine) : ℕ := e.granted.ringDepth.toNat

/-- The engine as the constructor and `activate` leave it. -/
def activate (ringDepth maxFrameBytes : ℕ) (receiveMemoryKind : MemoryKind) (streamId : UInt64)
    (granted : GeometryBlock) : SubscriberEngine where
  ringDepth := ringDepth
  receiveMemoryKind := receiveMemoryKind
  streamId := streamId
  granted := granted
  slots := fun _ => { capacity := maxFrameBytes }
  creditReturns := boundedQueue (ringDepth * 2)
  tracker := (ReleaseTracker.create ringDepth).reset 0

def bump (e : SubscriberEngine) (c : SubscriberCounter) (n : ℕ) : SubscriberEngine :=
  { e with counters := Function.update e.counters c (e.counters c + n) }

/-- Only the first failure is kept. -/
def fail (e : SubscriberEngine) (status : Status) (reason : String) : SubscriberEngine :=
  { e with failure := e.failure.or (some (status, reason)), state := .failed }

def setSlot (e : SubscriberEngine) (slotIndex : ℕ) (slot : ReceiveSlot) : SubscriberEngine :=
  { e with slots := Function.update e.slots slotIndex slot }

/-- `occupied = false`. -/
def vacate (e : SubscriberEngine) (slotIndex : ℕ) : SubscriberEngine :=
  e.setSlot slotIndex { e.slots slotIndex with occupied := false }

def releaseSequence (e : SubscriberEngine) (sequence : ℕ) :
    SubscriberEngine × List SubscriberEvent :=
  ({ e with tracker := (e.tracker.release sequence).2 },
    [.released sequence (e.tracker.release sequence).1])

/-- Hand out a view of a filled slot. A view the delivery queue refuses is released at once,
which is a release step of its own. -/
def commit (e : SubscriberEngine) (slotIndex : ℕ) : SubscriberEngine × List SubscriberEvent :=
  let sequence := (e.slots slotIndex).fields.sequence
  ({ e.bump .framesReceived 1 with leases := sequence :: e.leases }, [.committed sequence])

def fieldsOf (frame : FrameHeader) (receiveMemoryKind : MemoryKind) : FrameFields where
  shape := frame.shape
  strides := frame.strides
  sequence := frame.sequence.toNat
  eventCounter := frame.eventCounter
  timestampNs := frame.timestampNs
  droppedBefore := frame.droppedBefore
  payloadBytes := frame.payloadBytes
  elementType := frame.elementType
  elementSize := frame.elementSize
  rank := frame.rank
  quality := frame.quality
  generation := frame.generation
  memoryKind := receiveMemoryKind
  endian := frame.endian

def claimSlot (e : SubscriberEngine) (frame : FrameHeader) (slotIndex : ℕ) : SubscriberEngine :=
  e.setSlot slotIndex
    { e.slots slotIndex with occupied := true, fields := fieldsOf frame e.receiveMemoryKind }

def describesGranted (frame : FrameHeader) (granted : GeometryBlock) : Bool :=
  frame.elementType = granted.elementType ∧ frame.elementSize = granted.elementSize ∧
    frame.rank = granted.rank ∧ frame.shape = granted.shape ∧ frame.strides = granted.strides

/-- The tail of `handle_frame`, for a frame that passed every check. -/
def receive (e : SubscriberEngine) (frame : FrameHeader) (slotIndex length : ℕ)
    (arrival : Arrival) : SubscriberEngine × List SubscriberEvent :=
  let claimed := e.claimSlot frame slotIndex
  match arrival with
  | .rndv .refused =>
    (((claimed.vacate slotIndex).bump .transportErrors 1).fail .transportFailure
      "a rendezvous receive could not be started", [])
  | .rndv .completed =>
    let done := claimed.commit slotIndex
    (done.1, .wrote slotIndex frame.payloadBytes.toNat :: done.2)
  | .rndv .inProgress =>
    ({ claimed with
        pending := Function.update e.pending slotIndex true
        rndvInflight := e.rndvInflight + 1 },
      [.wrote slotIndex frame.payloadBytes.toNat])
  | .eager =>
    if e.receiveMemoryKind ≠ .host then
      let dropped := (claimed.vacate slotIndex).releaseSequence frame.sequence.toNat
      ((dropped.1.bump .transportErrors 1).fail .geometryMismatch
        ("the publisher sent an eager frame into a device ring, which it must not: " ++
          "the two sides disagree about the memory kind"),
        dropped.2)
    else
      let done := (claimed.bump .bytesCopied length).commit slotIndex
      (done.1, .wrote slotIndex length :: done.2)

/-- Drop a frame of this window: nothing else would ever release its sequence. -/
def dropReleased (e : SubscriberEngine) (counter : SubscriberCounter) (frame : FrameHeader) :
    SubscriberEngine × List SubscriberEvent :=
  (e.bump counter 1).releaseSequence frame.sequence.toNat

/-- The checks of `handle_frame` that need the window: geometry, sizes and the slot. -/
def handleSessionFrame (e : SubscriberEngine) (frame : FrameHeader) (length : ℕ) (arrival : Arrival) :
    SubscriberEngine × List SubscriberEvent :=
  if e.granted.rank ≠ 0 ∧ !describesGranted frame e.granted then
    let dropped := e.dropReleased .droppedGeometryMismatch frame
    (dropped.1.fail .geometryMismatch
      ("a frame described a different array from the one this session granted; " ++
        "the publisher changed a contract term without reopening"),
      dropped.2)
  else if frame.payloadBytes.toNat ≠ length then e.dropReleased .droppedBadHeader frame
  else if e.granted.maxFrameBytes < frame.payloadBytes then e.dropReleased .droppedOversize frame
  else
    let slotIndex := frame.sequence.toNat % e.depth
    if (e.slots slotIndex).occupied ∨ frame.sequence.toNat < e.tracker.releasedEnd then
      (e.bump .droppedDuplicateSeq 1, [])
    else e.receive frame slotIndex length arrival

def handleFrame (e : SubscriberEngine) (header : Bytes) (length : ℕ) (arrival : Arrival) :
    SubscriberEngine × List SubscriberEvent :=
  if e.closing then (e, [])
  else
    match decodeFrame header with
    | .error _ => (e.bump .droppedBadHeader 1, [])
    | .ok frame =>
      if frame.streamId ≠ e.streamId then (e.bump .droppedBadHeader 1, [])
      else if frame.generation ≠ e.granted.generation then (e.bump .droppedStaleEpoch 1, [])
      else e.handleSessionFrame frame length arrival

/-- The completion callback of a started rendezvous. -/
def onRndvComplete (e : SubscriberEngine) (slotIndex : ℕ) (success : Bool) :
    SubscriberEngine × List SubscriberEvent :=
  let retired := { e with
    pending := Function.update e.pending slotIndex false
    rndvInflight := e.rndvInflight - 1 }
  if success then retired.commit slotIndex
  else
    (((retired.vacate slotIndex).bump .transportErrors 1).fail .transportFailure
      "a rendezvous receive failed; the endpoint is no longer a usable data path", [])

/-- Called by the lease destructor, on any thread. -/
def returnCredit (e : SubscriberEngine) (sequence : ℕ) : SubscriberEngine :=
  let counted := e.bump .creditsReturned 1
  match e.creditReturns.push sequence with
  | some queue => { counted with creditReturns := queue }
  | none => { counted with overflowed := true }

/-- The last copy of a view goes. -/
def releaseView (e : SubscriberEngine) (sequence : ℕ) : SubscriberEngine :=
  { e with leases := e.leases.erase sequence }.returnCredit sequence

/-- One turn of the loop of `drain_credit_returns`. Releases on other threads may fall
between two turns. -/
def drainCreditReturn (e : SubscriberEngine) :
    Option (SubscriberEngine × List SubscriberEvent) :=
  e.creditReturns.pop.map fun popped =>
    let emptied := { e with creditReturns := popped.2 }
    let freed := if e.depth ≠ 0 then emptied.vacate (popped.1 % e.depth) else emptied
    freed.releaseSequence popped.1

/-- One ack per iteration of the engine loop. `accepted` is what the transport answers. -/
def sendPendingCredit (e : SubscriberEngine) (accepted : Bool) :
    SubscriberEngine × List SubscriberEvent :=
  match e.tracker.takePendingAck with
  | (none, _) => (e, [])
  | (some ack, tracker) =>
    if accepted then
      ({ e with tracker }.bump .creditMessagesSent 1,
        [.acked ack, .sent (encodeCredit
          { generation := e.granted.generation, streamId := e.streamId,
            value := UInt64.ofNat ack })])
    else ({ e with tracker := tracker.markAckFailed }.bump .transportErrors 1, [.acked ack])

/-- The completion of a credit send that failed after it was accepted. -/
def onCreditFailed (e : SubscriberEngine) : SubscriberEngine :=
  { e with tracker := e.tracker.markAckFailed }.bump .transportErrors 1

def onProbe (e : SubscriberEngine) (header : Bytes) : SubscriberEngine :=
  match decodeProbe header with
  | .error _ => e.bump .droppedBadHeader 1
  | .ok probe =>
    if probe.streamId ≠ e.streamId then e.bump .droppedBadHeader 1
    else { e with pendingProbeToken := probe.value, probeAckPending := true }

def sendPendingProbeAck (e : SubscriberEngine) (accepted : Bool) :
    SubscriberEngine × List SubscriberEvent :=
  if !e.probeAckPending then (e, [])
  else if !accepted then (e.bump .transportErrors 1, [])
  else
    ({ e with
        probeAckPending := false
        state := if e.state = .probing then .active else e.state },
      [.sent (encodeProbeAck
        { generation := e.granted.generation, streamId := e.streamId,
          value := e.pendingProbeToken })])

end SubscriberEngine

inductive SubscriberInput
  | frame (header : Bytes) (length : ℕ) (arrival : Arrival)
  | rndvComplete (slotIndex : ℕ) (success : Bool)
  | releaseView (sequence : ℕ)
  | drain
  | sendCredit (accepted : Bool)
  | creditFailed
  | probe (header : Bytes)
  | sendProbeAck (accepted : Bool)
  | quiesce
  deriving DecidableEq

/-- Completions fire for started receives only, views are released once, and the engine
loop stops when `quiesce` sets `closing`. -/
def subscriberStep (e : SubscriberEngine) :
    SubscriberInput → Option (SubscriberEngine × List SubscriberEvent)
  | .frame header length arrival => some (e.handleFrame header length arrival)
  | .rndvComplete slotIndex success =>
    if e.pending slotIndex then some (e.onRndvComplete slotIndex success) else none
  | .releaseView sequence => if sequence ∈ e.leases then some (e.releaseView sequence, []) else none
  | .drain => if e.closing then none else e.drainCreditReturn
  | .sendCredit accepted => if e.closing then none else some (e.sendPendingCredit accepted)
  | .creditFailed => some (e.onCreditFailed, [])
  | .probe header => some (e.onProbe header, [])
  | .sendProbeAck accepted => if e.closing then none else some (e.sendPendingProbeAck accepted)
  | .quiesce => some ({ e with closing := true }, [])

def subscriberMachine : Machine SubscriberEngine SubscriberInput SubscriberEvent where
  step := subscriberStep

end TangoBulk
