import TangoBulk.Config
import TangoBulk.ProtocolData

/-! The coordination plane: the 32-byte envelope and the seven messages it carries. An
encoder can throw; a decoder stops with a `Fault`. -/
namespace TangoBulk

open ByteString

/-- What an exception carries. -/
structure BulkError where
  status : Status
  message : String
  origin : String
  deriving DecidableEq

/-- The bytes of a message text. -/
def textBytes (s : String) : Bytes := s.toUTF8.toList

/-! ### Identifiers -/

/-- A 128-bit opaque octet string. -/
structure Id16 where
  bytes : Bytes
  size : bytes.length = 16
  deriving DecidableEq

def Id16.zero : Id16 := ⟨List.replicate 16 0, by simp⟩

abbrev SessionId := Id16
abbrev ClientInstanceId := Id16

/-! ### The envelope -/

def kCoordMagic : UInt32 := 0x4B4C4254
def kCoordEnvelopeBytes : ℕ := 32
def kMaxCoordMessageBytes : ℕ := 65536
def kMaxCoordBodyBytes : ℕ := 65504
def kMaxErrorMessageBytes : ℕ := 512
def kCapsCreditCoalescing : UInt32 := 1
def kCapsProbe : UInt32 := 4

inductive CoordType
  | open | openReply | renew | renewReply | close | closeReply | error
  deriving DecidableEq

def CoordType.toRaw : CoordType → UInt16
  | .open => 1
  | .openReply => 2
  | .renew => 3
  | .renewReply => 4
  | .close => 5
  | .closeReply => 6
  | .error => 255

/-- `is_known_coord_type` together with the cast. -/
def CoordType.ofRaw (raw : UInt16) : Option CoordType :=
  [CoordType.open, .openReply, .renew, .renewReply, .close, .closeReply, .error].find?
    fun type => type.toRaw = raw

@[simp] lemma CoordType.ofRaw_toRaw (type : CoordType) : ofRaw type.toRaw = some type := by
  cases type <;> rfl

structure Envelope where
  versionMajor : UInt8
  versionMinor : UInt8
  headerBytes : UInt16
  msgType : CoordType
  flags : UInt16
  bodyBytes : UInt32
  correlationId : UInt64
  deriving DecidableEq

/-- The fields `put_envelope` writes. -/
def putEnvelope (type : CoordType) (correlationId : UInt64) (bodyBytes : ℕ) : List (ℕ × Bytes) :=
  [put32 0 kCoordMagic, put8 4 kVersionMajor, put8 5 kVersionMinor,
    put16 6 (UInt16.ofNat kCoordEnvelopeBytes), put16 8 type.toRaw, put16 10 0,
    put32 12 (UInt32.ofNat bodyBytes), put64 16 correlationId, put64 24 0]

def encodeFailure {α : Type} (message : String) : Except BulkError α :=
  .error { status := .malformedMessage, message, origin := "protocol" }

def makeMessage (type : CoordType) (correlationId : UInt64) (body : Bytes) :
    Except BulkError Bytes :=
  if kMaxCoordBodyBytes < body.length then
    encodeFailure "coordination body exceeds 65504 bytes"
  else
    .ok (fill kCoordEnvelopeBytes (putEnvelope type correlationId body.length) ++ body)

/-- Validate the envelope of an incoming message and locate its body: the envelope and the
declared body must sum to exactly the delivered length. -/
def openCoord (data : Bytes) (expected : CoordType) : Except Fault (Envelope × Bytes) := do
  rejectIf (data.length < kCoordEnvelopeBytes) .malformedMessage
  rejectIf (kMaxCoordMessageBytes < data.length) .malformedMessage
  let correlationId ← get64 data 16
  let magic ← get32 data 0
  rejectIf (magic ≠ kCoordMagic) .malformedMessage
  let major ← get8 data 4
  rejectIf (major ≠ kVersionMajor) .unsupportedVersion
  let headerBytes ← get16 data 6
  rejectIf (headerBytes.toNat < kCoordEnvelopeBytes) .malformedMessage
  rejectIf (data.length < headerBytes.toNat) .malformedMessage
  let bodyBytes ← get32 data 12
  rejectIf (kMaxCoordBodyBytes < bodyBytes.toNat) .malformedMessage
  let declared ← addSize headerBytes.toNat bodyBytes.toNat
  rejectIf (data.length ≠ declared) .malformedMessage
  let typeRaw ← get16 data 8
  rejectIf (CoordType.ofRaw typeRaw = none) .malformedMessage
  let minor ← get8 data 5
  let flags ← get16 data 10
  rejectIf (CoordType.ofRaw typeRaw ≠ some expected) .malformedMessage
  return ({ versionMajor := major, versionMinor := minor, headerBytes, msgType := expected, flags,
            bodyBytes, correlationId }, data.drop headerBytes.toNat)

def decodeEnvelope (data : Bytes) : Except Fault Envelope := do
  rejectIf (data.length < kCoordEnvelopeBytes) .malformedMessage
  let typeRaw ← get16 data 8
  match CoordType.ofRaw typeRaw with
  | none => .error (.status .malformedMessage)
  | some type => Prod.fst <$> openCoord data type

/-- Length rule for a body that is entirely fixed: a newer minor may append fields. -/
def checkFixedBody (bodySize fixed : ℕ) (minor : UInt8) : Except Fault Unit := do
  rejectIf (bodySize < fixed) .malformedMessage
  rejectIf (fixed < bodySize ∧ minor ≤ kVersionMinor) .malformedMessage

/-! ### Fields of a body -/

def getBytes (data : Bytes) (off n : ℕ) : Except Fault Bytes :=
  if off + n ≤ data.length then .ok (window data off n)
  else .error (.outOfRange (max off data.length))

def putId16 (off : ℕ) (id : Id16) : ℕ × Bytes := (off, id.bytes)

def getId16 (data : Bytes) (off : ℕ) : Except Fault Id16 :=
  if h : off + 16 ≤ data.length then .ok ⟨window data off 16, window_length h⟩
  else .error (.outOfRange (max off data.length))

def putGeometry (off : ℕ) (g : GeometryBlock) : List (ℕ × Bytes) :=
  [put32 off g.generation, put32 (off + 4) g.elementType.toRaw, put32 (off + 8) g.elementSize,
    put32 (off + 12) g.rank, put64 (off + 16) g.maxFrameBytes, put32 (off + 24) g.ringDepth,
    put32 (off + 28) g.creditWindow] ++ putDims (off + 32) g.shape ++ putDims (off + 64) g.strides

def getGeometry (data : Bytes) (off : ℕ) : Except Fault GeometryBlock := do
  let generation ← get32 data off
  let elementType ← get32 data (off + 4)
  let elementSize ← get32 data (off + 8)
  let rank ← get32 data (off + 12)
  let maxFrameBytes ← get64 data (off + 16)
  let ringDepth ← get32 data (off + 24)
  let creditWindow ← get32 data (off + 28)
  let shape ← getDims data (off + 32)
  let strides ← getDims data (off + 64)
  return { generation, elementType := .ofRaw elementType, elementSize, rank, maxFrameBytes,
           ringDepth, creditWindow, shape, strides }

/-! The variable tail: a length and that many bytes, each checked against its own bound and
the bytes that remain. -/

def putStringField (value : Bytes) : Bytes := leBytes 2 value.length ++ value

def putBlobField (value : Bytes) : Bytes := leBytes 4 value.length ++ value

def readString (body : Bytes) (offset minLen maxLen : ℕ) : Except Fault (Bytes × ℕ) := do
  let first ← addSize offset 2
  rejectIf (body.length < first) .malformedMessage
  let len ← getLe body offset 2
  rejectIf (len < minLen ∨ maxLen < len) .malformedMessage
  let last ← addSize first len
  rejectIf (body.length < last) .malformedMessage
  let value ← getBytes body first len
  rejectIf (0 ∈ value) .malformedMessage
  return (value, last)

def readBlob (body : Bytes) (offset minLen maxLen : ℕ) : Except Fault (Bytes × ℕ) := do
  let first ← addSize offset 4
  rejectIf (body.length < first) .malformedMessage
  let len ← getLe body offset 4
  rejectIf (len < minLen ∨ maxLen < len) .malformedMessage
  let last ← addSize first len
  rejectIf (body.length < last) .malformedMessage
  let value ← getBytes body first len
  return (value, last)

def validateStreamName (name : Bytes) : Status :=
  if isValidStreamName name then .ok else .malformedMessage

/-! ### Messages -/

inductive CloseReason
  | normal | clientShutdown | clientError
  | other (raw : UInt32) (unnamed : 2 < raw)

def CloseReason.named : List CloseReason := [.normal, .clientShutdown, .clientError]

def CloseReason.toRaw : CloseReason → UInt32
  | .normal => 0
  | .clientShutdown => 1
  | .clientError => 2
  | .other raw _ => raw

def CloseReason.ofRaw (raw : UInt32) : CloseReason :=
  if h : 2 < raw then .other raw h else CloseReason.named.getD raw.toNat .normal

@[simp] lemma CloseReason.ofRaw_toRaw (x : CloseReason) : ofRaw x.toRaw = x := by
  cases x with
  | other raw h => simp [ofRaw, toRaw, h]
  | _ => rfl

@[simp] lemma CloseReason.toRaw_ofRaw (raw : UInt32) : (CloseReason.ofRaw raw).toRaw = raw :=
  toRaw_of_named (fun _ _ => rfl) (by decide) raw

lemma CloseReason.toRaw_injective : Function.Injective CloseReason.toRaw :=
  Function.LeftInverse.injective CloseReason.ofRaw_toRaw

instance : DecidableEq CloseReason := CloseReason.toRaw_injective.decidableEq

structure OpenRequest where
  versionMin : UInt8 := kVersionMajor
  versionMax : UInt8 := kVersionMajor
  requestedCaps : UInt32 := kCapsCreditCoalescing ||| kCapsProbe
  clientInstanceId : ClientInstanceId := .zero
  requestedMaxFrameBytes : UInt64 := 0
  requestedRingDepth : UInt32 := 0
  requestedCreditWindow : UInt32 := 0
  requestedMemoryKind : MemoryKind := .host
  requestedTransport : Transport := .any
  dropPolicy : DropPolicy := .dropNewest
  streamName : Bytes
  clientUcxAddress : Bytes
  deriving DecidableEq

structure OpenReply where
  versionSelected : UInt8
  status : Status
  grantedCaps : UInt32
  sessionId : SessionId
  streamId : UInt64
  leaseTtlMs : UInt32
  renewIntervalMs : UInt32
  transportSelected : Transport
  serverEpochId : UInt64
  geometry : GeometryBlock
  serverUcxAddress : Bytes
  deriving DecidableEq

structure RenewRequest where
  sessionId : SessionId
  clientFramesDelivered : UInt64
  clientCreditsReturned : UInt64
  clientState : UInt32
  deriving DecidableEq

structure RenewReply where
  sessionId : SessionId
  status : Status
  leaseTtlMs : UInt32
  renewIntervalMs : UInt32
  serverState : SessionState
  geometry : GeometryBlock
  deriving DecidableEq

structure CloseRequest where
  sessionId : SessionId
  reason : CloseReason
  deriving DecidableEq

structure CloseReply where
  sessionId : SessionId
  status : Status
  framesCreditedFinal : UInt32
  deriving DecidableEq

structure ErrorMessage where
  status : Status
  message : Bytes
  deriving DecidableEq

def kOpenFixedBytes : ℕ := 56
def kOpenReplyFixedBytes : ℕ := 152
def kRenewBytes : ℕ := 40
def kRenewReplyBytes : ℕ := 128
def kCloseBytes : ℕ := 24
def kCloseReplyBytes : ℕ := 24
def kErrorFixedBytes : ℕ := 8

def openFields (msg : OpenRequest) : List (ℕ × Bytes) :=
  [put8 0 msg.versionMin, put8 1 msg.versionMax, put16 2 0, put32 4 msg.requestedCaps,
    putId16 8 msg.clientInstanceId, put64 24 msg.requestedMaxFrameBytes,
    put32 32 msg.requestedRingDepth, put32 36 msg.requestedCreditWindow,
    put32 40 msg.requestedMemoryKind.toRaw, put32 44 msg.requestedTransport.toRaw,
    put32 48 msg.dropPolicy.toRaw, put32 52 0]

def encodeOpen (msg : OpenRequest) (correlationId : UInt64) : Except BulkError Bytes :=
  if validateStreamName msg.streamName ≠ .ok then
    encodeFailure "stream_name must be 1..64 bytes of [A-Za-z0-9_.-]"
  else if msg.clientUcxAddress = [] ∨ kMaxUcxAddressBytes < msg.clientUcxAddress.length then
    encodeFailure "client_ucx_address must be 1..4096 bytes"
  else
    makeMessage .open correlationId
      (fill kOpenFixedBytes (openFields msg) ++
        (putStringField msg.streamName ++ putBlobField msg.clientUcxAddress))

def decodeOpen (data : Bytes) : Except Fault (OpenRequest × Envelope) := do
  let (envelope, body) ← openCoord data .open
  rejectIf (body.length < kOpenFixedBytes) .malformedMessage
  let versionMin ← get8 body 0
  let versionMax ← get8 body 1
  let requestedCaps ← get32 body 4
  let clientInstanceId ← getId16 body 8
  let requestedMaxFrameBytes ← get64 body 24
  let requestedRingDepth ← get32 body 32
  let requestedCreditWindow ← get32 body 36
  let requestedMemoryKind ← get32 body 40
  let requestedTransport ← get32 body 44
  let dropPolicy ← get32 body 48
  let (streamName, afterName) ←
    readString body kOpenFixedBytes kMinStreamNameBytes kMaxStreamNameBytes
  let (clientUcxAddress, afterAddress) ← readBlob body afterName 1 kMaxUcxAddressBytes
  rejectIf (afterAddress ≠ body.length) .malformedMessage
  rejectIf (validateStreamName streamName ≠ .ok) (validateStreamName streamName)
  return ({ versionMin, versionMax, requestedCaps, clientInstanceId, requestedMaxFrameBytes,
            requestedRingDepth, requestedCreditWindow,
            requestedMemoryKind := .ofRaw requestedMemoryKind,
            requestedTransport := .ofRaw requestedTransport, dropPolicy := .ofRaw dropPolicy,
            streamName, clientUcxAddress }, envelope)

def openReplyFields (msg : OpenReply) : List (ℕ × Bytes) :=
  [put8 0 msg.versionSelected, put8 1 0, put16 2 msg.status.toRaw, put32 4 msg.grantedCaps,
    putId16 8 msg.sessionId, put64 24 msg.streamId, put32 32 msg.leaseTtlMs,
    put32 36 msg.renewIntervalMs, put32 40 msg.transportSelected.toRaw, put32 44 0,
    put64 48 msg.serverEpochId] ++ putGeometry 56 msg.geometry

def encodeOpenReply (msg : OpenReply) (correlationId : UInt64) : Except BulkError Bytes :=
  if kMaxUcxAddressBytes < msg.serverUcxAddress.length then
    encodeFailure "server_ucx_address exceeds 4096 bytes"
  else if msg.status = .ok ∧ msg.serverUcxAddress = [] then
    encodeFailure "a successful OpenReply must carry server_ucx_address"
  else
    makeMessage .openReply correlationId
      (fill kOpenReplyFixedBytes (openReplyFields msg) ++ putBlobField msg.serverUcxAddress)

def decodeOpenReply (data : Bytes) : Except Fault (OpenReply × Envelope) := do
  let (envelope, body) ← openCoord data .openReply
  rejectIf (body.length < kOpenReplyFixedBytes) .malformedMessage
  let versionSelected ← get8 body 0
  let status ← get16 body 2
  let grantedCaps ← get32 body 4
  let sessionId ← getId16 body 8
  let streamId ← get64 body 24
  let leaseTtlMs ← get32 body 32
  let renewIntervalMs ← get32 body 36
  let transportSelected ← get32 body 40
  let serverEpochId ← get64 body 48
  let geometry ← getGeometry body 56
  let (serverUcxAddress, afterAddress) ←
    readBlob body kOpenReplyFixedBytes 0 kMaxUcxAddressBytes
  rejectIf (afterAddress ≠ body.length) .malformedMessage
  return ({ versionSelected, status := .ofRaw status, grantedCaps, sessionId, streamId, leaseTtlMs,
            renewIntervalMs, transportSelected := .ofRaw transportSelected, serverEpochId, geometry,
            serverUcxAddress }, envelope)

def renewFields (msg : RenewRequest) : List (ℕ × Bytes) :=
  [putId16 0 msg.sessionId, put64 16 msg.clientFramesDelivered, put64 24 msg.clientCreditsReturned,
    put32 32 msg.clientState, put32 36 0]

def encodeRenew (msg : RenewRequest) (correlationId : UInt64) : Except BulkError Bytes :=
  makeMessage .renew correlationId (fill kRenewBytes (renewFields msg))

def decodeRenew (data : Bytes) : Except Fault (RenewRequest × Envelope) := do
  let (envelope, body) ← openCoord data .renew
  checkFixedBody body.length kRenewBytes envelope.versionMinor
  let sessionId ← getId16 body 0
  let clientFramesDelivered ← get64 body 16
  let clientCreditsReturned ← get64 body 24
  let clientState ← get32 body 32
  return ({ sessionId, clientFramesDelivered, clientCreditsReturned, clientState }, envelope)

def renewReplyFields (msg : RenewReply) : List (ℕ × Bytes) :=
  [putId16 0 msg.sessionId, put16 16 msg.status.toRaw, put16 18 0, put32 20 msg.leaseTtlMs,
    put32 24 msg.renewIntervalMs, put32 28 msg.serverState.toRaw] ++ putGeometry 32 msg.geometry

def encodeRenewReply (msg : RenewReply) (correlationId : UInt64) : Except BulkError Bytes :=
  makeMessage .renewReply correlationId (fill kRenewReplyBytes (renewReplyFields msg))

def decodeRenewReply (data : Bytes) : Except Fault (RenewReply × Envelope) := do
  let (envelope, body) ← openCoord data .renewReply
  checkFixedBody body.length kRenewReplyBytes envelope.versionMinor
  let sessionId ← getId16 body 0
  let status ← get16 body 16
  let leaseTtlMs ← get32 body 20
  let renewIntervalMs ← get32 body 24
  let serverState ← get32 body 28
  let geometry ← getGeometry body 32
  return ({ sessionId, status := .ofRaw status, leaseTtlMs, renewIntervalMs,
            serverState := .ofRaw serverState, geometry }, envelope)

def closeFields (msg : CloseRequest) : List (ℕ × Bytes) :=
  [putId16 0 msg.sessionId, put32 16 msg.reason.toRaw, put32 20 0]

def encodeClose (msg : CloseRequest) (correlationId : UInt64) : Except BulkError Bytes :=
  makeMessage .close correlationId (fill kCloseBytes (closeFields msg))

def decodeClose (data : Bytes) : Except Fault (CloseRequest × Envelope) := do
  let (envelope, body) ← openCoord data .close
  checkFixedBody body.length kCloseBytes envelope.versionMinor
  let sessionId ← getId16 body 0
  let reason ← get32 body 16
  return ({ sessionId, reason := .ofRaw reason }, envelope)

def closeReplyFields (msg : CloseReply) : List (ℕ × Bytes) :=
  [putId16 0 msg.sessionId, put16 16 msg.status.toRaw, put16 18 0,
    put32 20 msg.framesCreditedFinal]

def encodeCloseReply (msg : CloseReply) (correlationId : UInt64) : Except BulkError Bytes :=
  makeMessage .closeReply correlationId (fill kCloseReplyBytes (closeReplyFields msg))

def decodeCloseReply (data : Bytes) : Except Fault (CloseReply × Envelope) := do
  let (envelope, body) ← openCoord data .closeReply
  checkFixedBody body.length kCloseReplyBytes envelope.versionMinor
  let sessionId ← getId16 body 0
  let status ← get16 body 16
  let framesCreditedFinal ← get32 body 20
  return ({ sessionId, status := .ofRaw status, framesCreditedFinal }, envelope)

def errorFields (msg : ErrorMessage) : List (ℕ × Bytes) :=
  [put16 0 msg.status.toRaw, put16 2 0, put32 4 0]

/-- The message text is truncated rather than rejected. -/
def encodeError (msg : ErrorMessage) (correlationId : UInt64) : Except BulkError Bytes :=
  makeMessage .error correlationId
    (fill kErrorFixedBytes (errorFields msg) ++
      putStringField (msg.message.take kMaxErrorMessageBytes))

def decodeError (data : Bytes) : Except Fault (ErrorMessage × Envelope) := do
  let (envelope, body) ← openCoord data .error
  rejectIf (body.length < kErrorFixedBytes) .malformedMessage
  let status ← get16 body 0
  let (message, afterMessage) ← readString body kErrorFixedBytes 0 kMaxErrorMessageBytes
  rejectIf (afterMessage ≠ body.length) .malformedMessage
  return ({ status := .ofRaw status, message }, envelope)

end TangoBulk
