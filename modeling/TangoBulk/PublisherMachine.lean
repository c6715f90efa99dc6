import TangoBulk.LibTransition
import TangoBulk.Publisher

/-! The publisher as a machine whose steps are whole calls of the application, the engine and
the coordination plane, and a small publisher to evaluate runs of it. -/
namespace TangoBulk

open ByteString Transition

inductive PublisherInput
  | acquire
  | reset (i : ℕ)
  | publish (lease : Option ℕ) (metadata : FrameMetadata) (realtimeNs : UInt64) (contended : Bool)
  | submit (answers : ℕ → SendAnswer)
  | complete (send : Send) (success : Bool)
  | credit (header : Bytes)
  | probe (k : ℕ) (accepted : Bool)
  | probeAck (header : Bytes)
  | expire (k : ℕ) (reason : EndReason)
  | teardown (k : ℕ)
  | open (k : ℕ) (request : OpenRequest) (fresh : Publisher.Fresh)
  | openThrows (k : ℕ) (request : OpenRequest) (failure : Publisher.DrawFailure)
  | renew (request : RenewRequest) (now : ℕ)
  | close (request : CloseRequest)
  | shutdown

/-- What the application learns. -/
inductive PublisherEvent
  | acquired (slot : Option ℕ)
  | published (lease : Option ℕ) (result : PublishResult)
  deriving DecidableEq

/-- A seat that `handle_open` may select. -/
def Publisher.vacant (p : Publisher) (k : ℕ) : Bool :=
  k ∈ p.seats ∧ ((p.sessions k).state = .unknown ∨
    ((p.sessions k).state = .closed ∧ !(p.sessions k).poisoned))

/-- One call. A handle passed in is one this publisher engaged, a completion is one of an
outstanding send, and an Open claims a seat that is vacant since no other Open overlaps it. -/
def publisherStep (p : Publisher) : PublisherInput → Option (Publisher × List PublisherEvent)
  | .acquire => some (p.tryAcquire.2, [.acquired p.tryAcquire.1])
  | .reset i => if i ∈ p.handles then some (p.resetHandle i, []) else none
  | .publish lease metadata realtimeNs contended =>
    if ∀ i ∈ lease, i ∈ p.handles then
      let done := p.publish lease metadata realtimeNs contended
      some (done.2, [.published lease done.1])
    else none
  | .submit answers => (p.submitReady answers).map fun p' => (p', [])
  | .complete send success =>
    if send ∈ p.sends then some (p.onSendComplete send success, []) else none
  | .credit header => some (p.handleCredit header, [])
  | .probe k accepted => if k ∈ p.seats then some (p.sendProbe k accepted, []) else none
  | .probeAck header => some (p.handleProbeAck header, [])
  | .expire k reason => if k ∈ p.seats then some ((p.beginExpiry k reason).2, []) else none
  | .teardown k =>
    if k ∈ p.seats ∧ (p.sessions k).state = .expiring then some (p.teardown k, []) else none
  | .open k request fresh =>
    if p.vacant k ∧ p.screenOpen request = .granted (p.clampGeometry request) then
      some (p.claimSeat k request fresh, [])
    else none
  | .openThrows k request failure =>
    if p.vacant k ∧ p.screenOpen request = .granted (p.clampGeometry request) then
      some (p.abandonClaim k failure, [])
    else none
  | .renew request now => some ((p.handleRenew request now).2, [])
  | .close request => some ((p.handleClose request).2, [])
  | .shutdown => some ({ p with running := false }, [])

def publisherMachine : Machine Publisher PublisherInput PublisherEvent := ⟨publisherStep⟩

/-! ### A small publisher -/

/-- A small publisher of opaque frames. -/
def sampleConfig : PublisherConfig where
  streamName := [97]
  frameMetadata := { elementType := .byte, elementSize := 1, payloadBytes := 4096 }
  maxFrameBytes := 4096
  ringDepth := 2
  creditWindow := 2
  maxSessions := 2
  publishQueueDepth := 8

def sampleOpen : OpenRequest where
  requestedMaxFrameBytes := 4096
  requestedRingDepth := 2
  requestedCreditWindow := 2
  streamName := [97]
  clientUcxAddress := [1]

def sampleFresh (n : UInt64) : Publisher.Fresh where
  id := ⟨List.replicate 16 (UInt8.ofNat n.toNat), by simp⟩
  streamId := n
  probeToken := n
  now := 0

def sampleProbeAck (n : UInt64) : Bytes :=
  encodeProbeAck { generation := 1, streamId := n, value := n }

def sampleCredit (n : UInt64) (ack : UInt64) : Bytes :=
  encodeCredit { generation := 1, streamId := n, value := ack }

def sampleMetadata : FrameMetadata := { elementType := .byte, payloadBytes := 4096 }

end TangoBulk
