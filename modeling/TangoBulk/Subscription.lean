import TangoBulk.ProtocolCoord

/-! The client's side of the coordination: the requests a subscription makes from its
configuration and its session, and what it adopts from the replies. -/
namespace TangoBulk

open ByteString

/-- The name of a status; one this version does not name came off the wire. -/
def Status.toString : Status → String
  | .ok => "Ok"
  | .unsupportedVersion => "UnsupportedVersion"
  | .unknownStream => "UnknownStream"
  | .unknownSession => "UnknownSession"
  | .sessionExpired => "SessionExpired"
  | .tooManySessions => "TooManySessions"
  | .frameTooLarge => "FrameTooLarge"
  | .depthTooLarge => "DepthTooLarge"
  | .resourceExhausted => "ResourceExhausted"
  | .malformedMessage => "MalformedMessage"
  | .notAuthorized => "NotAuthorized"
  | .transportFailure => "TransportFailure"
  | .geometryMismatch => "GeometryMismatch"
  | .renewTooFrequent => "RenewTooFrequent"
  | .shutdown => "Shutdown"
  | .internal => "Internal"
  | .other _ _ => "Unknown"

/-- The geometry of a session that has none. -/
def GeometryBlock.unarmed : GeometryBlock where
  generation := 0
  elementType := .unknown
  elementSize := 0
  rank := 0
  maxFrameBytes := 0
  ringDepth := 0
  creditWindow := 0
  shape := Dims.zero
  strides := Dims.zero

/-- The wire-level session of a subscription. -/
structure ClientSession where
  sessionId : SessionId := .zero
  streamId : UInt64 := 0
  serverAddress : Bytes := []
  granted : GeometryBlock
  leaseTtlMs : UInt32 := 0
  renewIntervalMs : UInt32 := 0
  deriving DecidableEq

def ClientSession.fresh : ClientSession := { granted := .unarmed }

/-- The request of `make_open_request`; the instance identifier is drawn at random. -/
def openRequest (config : SubscriberConfig) (clientAddress : Bytes)
    (clientInstanceId : ClientInstanceId) : OpenRequest :=
  let upper := ReceivePlan.fromLimits config.maxFrameBytes config.ringDepth config.creditWindow
  { versionMin := kVersionMajor
    versionMax := kVersionMajor
    requestedCaps := kCapsCreditCoalescing ||| kCapsProbe
    clientInstanceId := clientInstanceId
    requestedMaxFrameBytes := upper.maxFrameBytes
    requestedRingDepth := upper.ringDepth
    requestedCreditWindow := upper.creditWindow
    requestedMemoryKind := config.receiveMemoryKind
    requestedTransport := .activeMessage
    dropPolicy := config.dropPolicy
    streamName := config.streamName
    clientUcxAddress := clientAddress }

def makeOpenRequest (config : SubscriberConfig) (clientAddress : Bytes)
    (clientInstanceId : ClientInstanceId) (correlationId : UInt64) : Except BulkError Bytes :=
  encodeOpen (openRequest config clientAddress clientInstanceId) correlationId

namespace ClientSession

/-- The grant exceeds what the ring was registered for. -/
def exceeds (granted : GeometryBlock) (config : SubscriberConfig) : Bool :=
  config.maxFrameBytes < granted.maxFrameBytes ∨ config.ringDepth < granted.ringDepth ∨
    config.creditWindow < granted.creditWindow

/-- What a decoded reply is worth. -/
def adoptReply (s : ClientSession) (reply : OpenReply) (config : SubscriberConfig) :
    Status × ClientSession :=
  if reply.status ≠ .ok then (reply.status, s)
  else if reply.geometry.validate ≠ .ok then (.geometryMismatch, s)
  else if exceeds reply.geometry config then (.geometryMismatch, s)
  else
    (.ok, { sessionId := reply.sessionId
            streamId := reply.streamId
            serverAddress := reply.serverUcxAddress
            granted := reply.geometry
            leaseTtlMs := reply.leaseTtlMs
            renewIntervalMs := reply.renewIntervalMs })

def adoptOpenReply (s : ClientSession) (data : Bytes) (config : SubscriberConfig)
    (expectedCorrelation : UInt64) : Status × ClientSession :=
  match decodeEnvelope data with
  | .error _ => (.malformedMessage, s)
  | .ok envelope =>
    if envelope.correlationId ≠ expectedCorrelation then (.malformedMessage, s)
    else if envelope.msgType = .error then
      match decodeError data with
      | .error _ => (.malformedMessage, s)
      | .ok decoded => (decoded.1.status, s)
    else
      match decodeOpenReply data with
      | .error _ => (.malformedMessage, s)
      | .ok decoded => s.adoptReply decoded.1 config

def makeRenewRequest (s : ClientSession) (correlationId framesDelivered creditsReturned : UInt64)
    (clientState : UInt32) : Except BulkError Bytes :=
  encodeRenew { sessionId := s.sessionId, clientFramesDelivered := framesDelivered,
                clientCreditsReturned := creditsReturned, clientState } correlationId

/-- The status of a renewal. An Error reply or a refusal leaves the session as it is. -/
def adoptRenewReply (s : ClientSession) (data : Bytes) (expectedCorrelation : UInt64) :
    Status × ClientSession :=
  match decodeEnvelope data with
  | .error _ => (.malformedMessage, s)
  | .ok envelope =>
    if envelope.correlationId ≠ expectedCorrelation then (.malformedMessage, s)
    else if envelope.msgType = .error then
      match decodeError data with
      | .error _ => (.malformedMessage, s)
      | .ok decoded => (decoded.1.status, s)
    else
      match decodeRenewReply data with
      | .error _ => (.malformedMessage, s)
      | .ok (reply, _) =>
        if reply.sessionId ≠ s.sessionId then (.malformedMessage, s)
        else if reply.status ≠ .ok then (reply.status, s)
        else (.ok, { s with leaseTtlMs := reply.leaseTtlMs
                            renewIntervalMs := reply.renewIntervalMs })

def makeCloseRequest (s : ClientSession) (correlationId : UInt64) : Except BulkError Bytes :=
  encodeClose { sessionId := s.sessionId, reason := .clientShutdown } correlationId

end ClientSession

/-- What `open_subscription` makes of the bytes the channel returned: a refusal, a grant for
another array than the retired one, or a session to activate. -/
inductive Grant
  | refused (error : BulkError)
  | otherArray (candidate : ClientSession)
  | taken (candidate : ClientSession)

def readGrant (config : SubscriberConfig) (retiredGeometry : GeometryBlock)
    (correlationId : UInt64) (reply : Bytes) : Grant :=
  let adopted := ClientSession.fresh.adoptOpenReply reply config correlationId
  if adopted.1 ≠ .ok then
    .refused { status := adopted.1
               message := "BulkOpen was refused: " ++ adopted.1.toString
               origin := "subscriber" }
  else if retiredGeometry.generation ≠ 0 ∧ !retiredGeometry.describesSameArray adopted.2.granted then
    .otherArray adopted.2
  else .taken adopted.2

end TangoBulk
