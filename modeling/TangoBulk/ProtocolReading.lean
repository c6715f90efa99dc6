import TangoBulk.ProtocolShape

/-! The seven coordination decoders as one: a message decodes to the value whose fields its body
carries, with the reserved ones left out, and whose tail the body ends with. -/
namespace TangoBulk

open ByteString

/-! ### All messages -/

inductive CoordMessage
  | open (msg : OpenRequest)
  | openReply (msg : OpenReply)
  | renew (msg : RenewRequest)
  | renewReply (msg : RenewReply)
  | close (msg : CloseRequest)
  | closeReply (msg : CloseReply)
  | error (msg : ErrorMessage)
  deriving DecidableEq

namespace CoordMessage

def type : CoordMessage → CoordType
  | .open _ => .open
  | .openReply _ => .openReply
  | .renew _ => .renew
  | .renewReply _ => .renewReply
  | .close _ => .close
  | .closeReply _ => .closeReply
  | .error _ => .error

/-- The overloads of `encode`. -/
def encode (correlationId : UInt64) : CoordMessage → Except BulkError Bytes
  | .open msg => encodeOpen msg correlationId
  | .openReply msg => encodeOpenReply msg correlationId
  | .renew msg => encodeRenew msg correlationId
  | .renewReply msg => encodeRenewReply msg correlationId
  | .close msg => encodeClose msg correlationId
  | .closeReply msg => encodeCloseReply msg correlationId
  | .error msg => encodeError msg correlationId

/-- The overloads of `decode`, chosen by the type of their output. -/
def decode (data : Bytes) : CoordType → Except Fault (CoordMessage × Envelope)
  | .open => (decodeOpen data).map fun r => (.open r.1, r.2)
  | .openReply => (decodeOpenReply data).map fun r => (.openReply r.1, r.2)
  | .renew => (decodeRenew data).map fun r => (.renew r.1, r.2)
  | .renewReply => (decodeRenewReply data).map fun r => (.renewReply r.1, r.2)
  | .close => (decodeClose data).map fun r => (.close r.1, r.2)
  | .closeReply => (decodeCloseReply data).map fun r => (.closeReply r.1, r.2)
  | .error => (decodeError data).map fun r => (.error r.1, r.2)

end CoordMessage

def CoordType.fixedBytes : CoordType → ℕ
  | .open => kOpenFixedBytes
  | .openReply => kOpenReplyFixedBytes
  | .renew => kRenewBytes
  | .renewReply => kRenewReplyBytes
  | .close => kCloseBytes
  | .closeReply => kCloseReplyBytes
  | .error => kErrorFixedBytes

/-- Whether a variable tail follows the fixed part. -/
def CoordType.tailed : CoordType → Bool
  | .open | .openReply | .error => true
  | _ => false

/-- The reserved ranges of the fixed part, written as zero and never read. -/
def CoordType.reserved : CoordType → List (ℕ × ℕ)
  | .open => [(2, 2), (52, 4)]
  | .openReply => [(1, 1), (44, 4)]
  | .renew => [(36, 4)]
  | .renewReply => [(18, 2)]
  | .close => [(20, 4)]
  | .closeReply => [(18, 2)]
  | .error => [(2, 2), (4, 4)]

namespace CoordMessage

/-- The fields of the fixed part, the reserved ones among them. -/
def fields : CoordMessage → List (ℕ × Bytes)
  | .open msg => openFields msg
  | .openReply msg => openReplyFields msg
  | .renew msg => renewFields msg
  | .renewReply msg => renewReplyFields msg
  | .close msg => closeFields msg
  | .closeReply msg => closeReplyFields msg
  | .error msg => errorFields msg

def tail : CoordMessage → Bytes
  | .open msg => putStringField msg.streamName ++ putBlobField msg.clientUcxAddress
  | .openReply msg => putBlobField msg.serverUcxAddress
  | .error msg => putStringField msg.message
  | _ => []

/-- The bounds a decoder holds the variable fields to. -/
def Bounded : CoordMessage → Prop
  | .open msg => isValidStreamName msg.streamName = true ∧ msg.clientUcxAddress ≠ [] ∧
      msg.clientUcxAddress.length ≤ kMaxUcxAddressBytes
  | .openReply msg => msg.serverUcxAddress.length ≤ kMaxUcxAddressBytes
  | .error msg => 0 ∉ msg.message ∧ msg.message.length ≤ kMaxErrorMessageBytes
  | _ => True

/-- The fields a decoder reads. -/
def known (m : CoordMessage) : List (ℕ × Bytes) :=
  m.fields.filter fun f => f.1 ∉ m.type.reserved.map Prod.fst

/-- The body is one of `m` in a message of this minor version. -/
structure ReadFrom (m : CoordMessage) (minor : UInt8) (body : Bytes) : Prop where
  carries : Carries body m.known
  long : m.type.fixedBytes ≤ body.length
  rest : if m.type.tailed then body.drop m.type.fixedBytes = m.tail
    else minor ≤ kVersionMinor → body.length = m.type.fixedBytes
  bounded : m.Bounded

end CoordMessage

open CoordMessage

section Fixed

lemma checkFixedBody_eq_ok {size fixed : ℕ} {minor : UInt8} {u : Unit} :
    checkFixedBody size fixed minor = .ok u ↔
      fixed ≤ size ∧ (minor ≤ kVersionMinor → size = fixed) := by
  simp only [checkFixedBody, bind_eq_ok, rejectIf_eq_ok, exists_const]
  constructor
  · rintro ⟨hlong, hexact⟩
    exact ⟨by omega, fun hminor => by by_contra hne; exact hexact ⟨by omega, hminor⟩⟩
  · rintro ⟨hlong, hexact⟩
    refine ⟨by omega, ?_⟩
    rintro ⟨hlt, hminor⟩
    have := hexact hminor
    omega

variable {data : Bytes} {envelope : Envelope}

lemma known_renew (msg : RenewRequest) :
    known (.renew msg) = [putId16 0 msg.sessionId, put64 16 msg.clientFramesDelivered,
      put64 24 msg.clientCreditsReturned, put32 32 msg.clientState] := rfl

lemma decodeRenew_eq_ok {msg : RenewRequest} :
    decodeRenew data = .ok (msg, envelope) ↔
      ∃ body, openCoord data .renew = .ok (envelope, body) ∧
        ReadFrom (.renew msg) envelope.versionMinor body := by
  simp only [decodeRenew, bind_eq_ok, Prod.exists, checkFixedBody_eq_ok, exists_const, get32_eq_ok,
    get64_eq_ok, getId16_eq_ok]
  constructor
  · rintro ⟨_, body, hopen, ⟨hlong, hexact⟩, _, h0, _, h16, _, h24, _, h32, hmade⟩
    cases hmade
    refine ⟨body, hopen, ?_, hlong, hexact, trivial⟩
    simp [known_renew, h0, h16, h24, h32]
  · rintro ⟨body, hopen, hcarries, hlong, hexact, -⟩
    simp only [known_renew, carries_cons, carries_nil, and_true] at hcarries
    obtain ⟨h0, h16, h24, h32⟩ := hcarries
    exact ⟨_, body, hopen, ⟨hlong, hexact⟩, _, h0, _, h16, _, h24, _, h32, rfl⟩

lemma known_renewReply (msg : RenewReply) :
    known (.renewReply msg) = [putId16 0 msg.sessionId, put16 16 msg.status.toRaw,
      put32 20 msg.leaseTtlMs, put32 24 msg.renewIntervalMs, put32 28 msg.serverState.toRaw] ++
      putGeometry 32 msg.geometry := rfl

lemma decodeRenewReply_eq_ok {msg : RenewReply} :
    decodeRenewReply data = .ok (msg, envelope) ↔
      ∃ body, openCoord data .renewReply = .ok (envelope, body) ∧
        ReadFrom (.renewReply msg) envelope.versionMinor body := by
  simp only [decodeRenewReply, bind_eq_ok, Prod.exists, checkFixedBody_eq_ok, exists_const,
    get16_eq_ok, get32_eq_ok, getId16_eq_ok, getGeometry_eq_ok]
  constructor
  · rintro ⟨_, body, hopen, ⟨hlong, hexact⟩, _, h0, _, h16, _, h20, _, h24, _, h28, _, h32, hmade⟩
    cases hmade
    refine ⟨body, hopen, ?_, hlong, hexact, trivial⟩
    simp [known_renewReply, h0, h16, h20, h24, h28, h32]
  · rintro ⟨body, hopen, hcarries, hlong, hexact, -⟩
    simp only [known_renewReply, carries_append, carries_cons, carries_nil, and_true] at hcarries
    obtain ⟨⟨h0, h16, h20, h24, h28⟩, h32⟩ := hcarries
    refine ⟨_, body, hopen, ⟨hlong, hexact⟩, _, h0, _, h16, _, h20, _, h24, _, h28, _, h32, ?_⟩
    simp only [Status.ofRaw_toRaw, SessionState.ofRaw_toRaw]
    rfl

lemma known_close (msg : CloseRequest) :
    known (.close msg) = [putId16 0 msg.sessionId, put32 16 msg.reason.toRaw] := rfl

lemma decodeClose_eq_ok {msg : CloseRequest} :
    decodeClose data = .ok (msg, envelope) ↔
      ∃ body, openCoord data .close = .ok (envelope, body) ∧
        ReadFrom (.close msg) envelope.versionMinor body := by
  simp only [decodeClose, bind_eq_ok, Prod.exists, checkFixedBody_eq_ok, exists_const,
    get32_eq_ok, getId16_eq_ok]
  constructor
  · rintro ⟨_, body, hopen, ⟨hlong, hexact⟩, _, h0, _, h16, hmade⟩
    cases hmade
    refine ⟨body, hopen, ?_, hlong, hexact, trivial⟩
    simp [known_close, h0, h16]
  · rintro ⟨body, hopen, hcarries, hlong, hexact, -⟩
    simp only [known_close, carries_cons, carries_nil, and_true] at hcarries
    obtain ⟨h0, h16⟩ := hcarries
    refine ⟨_, body, hopen, ⟨hlong, hexact⟩, _, h0, _, h16, ?_⟩
    simp only [CloseReason.ofRaw_toRaw]
    rfl

lemma known_closeReply (msg : CloseReply) :
    known (.closeReply msg) = [putId16 0 msg.sessionId, put16 16 msg.status.toRaw,
      put32 20 msg.framesCreditedFinal] := rfl

lemma decodeCloseReply_eq_ok {msg : CloseReply} :
    decodeCloseReply data = .ok (msg, envelope) ↔
      ∃ body, openCoord data .closeReply = .ok (envelope, body) ∧
        ReadFrom (.closeReply msg) envelope.versionMinor body := by
  simp only [decodeCloseReply, bind_eq_ok, Prod.exists, checkFixedBody_eq_ok, exists_const,
    get16_eq_ok, get32_eq_ok, getId16_eq_ok]
  constructor
  · rintro ⟨_, body, hopen, ⟨hlong, hexact⟩, _, h0, _, h16, _, h20, hmade⟩
    cases hmade
    refine ⟨body, hopen, ?_, hlong, hexact, trivial⟩
    simp [known_closeReply, h0, h16, h20]
  · rintro ⟨body, hopen, hcarries, hlong, hexact, -⟩
    simp only [known_closeReply, carries_cons, carries_nil, and_true] at hcarries
    obtain ⟨h0, h16, h20⟩ := hcarries
    refine ⟨_, body, hopen, ⟨hlong, hexact⟩, _, h0, _, h16, _, h20, ?_⟩
    simp only [Status.ofRaw_toRaw]
    rfl

end Fixed

section Tailed

variable {data : Bytes} {envelope : Envelope}

lemma opened_small {type : CoordType} {body : Bytes}
    (h : openCoord data type = .ok (envelope, body)) : body.length < 2 ^ 64 :=
  (openCoord_eq_ok.mp h).2.body_small

lemma validateStreamName_ok {name : Bytes} :
    validateStreamName name = .ok ↔ isValidStreamName name = true := by
  unfold validateStreamName
  split_ifs with h
  · simp [h]
  · simp [h]

lemma streamName_bounds {name : Bytes} (h : isValidStreamName name = true) :
    kMinStreamNameBytes ≤ name.length ∧ name.length ≤ kMaxStreamNameBytes := by
  simp only [isValidStreamName, decide_eq_true_eq] at h
  exact ⟨h.1, h.2.1⟩

lemma zero_not_mem_streamName {name : Bytes} (h : isValidStreamName name = true) : 0 ∉ name := by
  intro hmem
  have hall : name.all isStreamNameByte = true := by
    simp only [isValidStreamName, decide_eq_true_eq] at h
    exact h.2.2
  exact absurd (List.all_eq_true.mp hall 0 hmem) (by decide)

lemma known_open (msg : OpenRequest) :
    known (.open msg) = [put8 0 msg.versionMin, put8 1 msg.versionMax, put32 4 msg.requestedCaps,
      putId16 8 msg.clientInstanceId, put64 24 msg.requestedMaxFrameBytes,
      put32 32 msg.requestedRingDepth, put32 36 msg.requestedCreditWindow,
      put32 40 msg.requestedMemoryKind.toRaw, put32 44 msg.requestedTransport.toRaw,
      put32 48 msg.dropPolicy.toRaw] := rfl

lemma open_tail_iff {b name address : Bytes} :
    (Holds b (kOpenFixedBytes, putStringField name) ∧
      Holds b (kOpenFixedBytes + 2 + name.length, putBlobField address) ∧
      kOpenFixedBytes + 2 + name.length + 4 + address.length = b.length) ↔
    kOpenFixedBytes ≤ b.length ∧
      b.drop kOpenFixedBytes = putStringField name ++ putBlobField address := by
  rw [← holds_end_iff, holds_append_iff]
  simp only [putStringField, putBlobField, List.length_append, leBytes_length, ← Nat.add_assoc,
    and_assoc]

lemma decodeOpen_eq_ok {msg : OpenRequest} :
    decodeOpen data = .ok (msg, envelope) ↔
      ∃ body, openCoord data .open = .ok (envelope, body) ∧
        ReadFrom (.open msg) envelope.versionMinor body := by
  simp only [decodeOpen, bind_eq_ok, Prod.exists, rejectIf_eq_ok, exists_const, get8_eq_ok,
    get32_eq_ok, get64_eq_ok, getId16_eq_ok, not_lt, not_not]
  constructor
  · rintro ⟨_, body, hopen, hlong, _, h0, _, h1, _, h4, _, h8, _, h24, _, h32, _, h36, _, h40, _,
      h44, _, h48, name, _, hname, address, _, haddress, rfl, hvalid, hmade⟩
    cases hmade
    have hsmall := opened_small hopen
    rw [readString_eq_ok hsmall (by decide)] at hname
    obtain ⟨-, -, -, rfl, hheld⟩ := hname
    rw [readBlob_eq_ok hsmall (by decide)] at haddress
    obtain ⟨hmin, hmax, hend, hheld'⟩ := haddress
    rw [validateStreamName_ok] at hvalid
    refine ⟨body, hopen, ?_, hlong, (open_tail_iff.mp ⟨hheld, hheld', hend.symm⟩).2, hvalid, ?_, hmax⟩
    · simp [known_open, h0, h1, h4, h8, h24, h32, h36, h40, h44, h48]
    · exact List.length_pos_iff.mp hmin
  · rintro ⟨body, hopen, hcarries, hlong, htail, hvalid, hne, hmax⟩
    have hsmall := opened_small hopen
    simp only [known_open, carries_cons, carries_nil, and_true] at hcarries
    obtain ⟨h0, h1, h4, h8, h24, h32, h36, h40, h44, h48⟩ := hcarries
    obtain ⟨hheld, hheld', hend⟩ := open_tail_iff.mpr ⟨hlong, htail⟩
    obtain ⟨hmin, hle⟩ := streamName_bounds hvalid
    have hname := (readString_eq_ok hsmall (by decide)).mpr
      ⟨zero_not_mem_streamName hvalid, hmin, hle, rfl, hheld⟩
    have haddress := (readBlob_eq_ok hsmall (by decide)).mpr
      ⟨List.length_pos_iff.mpr hne, hmax, rfl, hheld'⟩
    refine ⟨_, body, hopen, hlong, _, h0, _, h1, _, h4, _, h8, _, h24, _, h32, _, h36, _, h40, _,
      h44, _, h48, _, _, hname, _, _, haddress, hend, validateStreamName_ok.mpr hvalid, ?_⟩
    simp only [MemoryKind.ofRaw_toRaw, Transport.ofRaw_toRaw, DropPolicy.ofRaw_toRaw]
    rfl

lemma known_openReply (msg : OpenReply) :
    known (.openReply msg) = [put8 0 msg.versionSelected, put16 2 msg.status.toRaw,
      put32 4 msg.grantedCaps, putId16 8 msg.sessionId, put64 24 msg.streamId,
      put32 32 msg.leaseTtlMs, put32 36 msg.renewIntervalMs, put32 40 msg.transportSelected.toRaw,
      put64 48 msg.serverEpochId] ++ putGeometry 56 msg.geometry := rfl

lemma decodeOpenReply_eq_ok {msg : OpenReply} :
    decodeOpenReply data = .ok (msg, envelope) ↔
      ∃ body, openCoord data .openReply = .ok (envelope, body) ∧
        ReadFrom (.openReply msg) envelope.versionMinor body := by
  simp only [decodeOpenReply, bind_eq_ok, Prod.exists, rejectIf_eq_ok, exists_const, get8_eq_ok,
    get16_eq_ok, get32_eq_ok, get64_eq_ok, getId16_eq_ok, getGeometry_eq_ok, not_lt, not_not]
  have hfield : ∀ address : Bytes,
      kOpenReplyFixedBytes + (putBlobField address).length =
        kOpenReplyFixedBytes + 4 + address.length := by
    simp [putBlobField, Nat.add_assoc]
  constructor
  · rintro ⟨_, body, hopen, hlong, _, h0, _, h2, _, h4, _, h8, _, h24, _, h32, _, h36, _, h40, _,
      h48, _, h56, address, _, haddress, rfl, hmade⟩
    cases hmade
    rw [readBlob_eq_ok (opened_small hopen) (by decide)] at haddress
    obtain ⟨-, hmax, hend, hheld⟩ := haddress
    refine ⟨body, hopen, ?_, hlong, ?_, hmax⟩
    · simp [known_openReply, h0, h2, h4, h8, h24, h32, h36, h40, h48, h56]
    · exact (holds_end_iff.mp ⟨hheld, by rw [hfield, hend]⟩).2
  · rintro ⟨body, hopen, hcarries, hlong, htail, hmax⟩
    simp only [known_openReply, carries_append, carries_cons, carries_nil, and_true] at hcarries
    obtain ⟨⟨h0, h2, h4, h8, h24, h32, h36, h40, h48⟩, h56⟩ := hcarries
    obtain ⟨hheld, hend⟩ := holds_end_iff.mpr ⟨hlong, htail⟩
    have haddress := (readBlob_eq_ok (opened_small hopen) (by decide)).mpr
      ⟨Nat.zero_le _, hmax, rfl, hheld⟩
    refine ⟨_, body, hopen, hlong, _, h0, _, h2, _, h4, _, h8, _, h24, _, h32, _, h36, _, h40, _,
      h48, _, h56, _, _, haddress, (hfield _).symm.trans hend, ?_⟩
    simp only [Status.ofRaw_toRaw, Transport.ofRaw_toRaw]
    rfl

lemma known_error (msg : ErrorMessage) :
    known (.error msg) = [put16 0 msg.status.toRaw] := rfl

lemma decodeError_eq_ok {msg : ErrorMessage} :
    decodeError data = .ok (msg, envelope) ↔
      ∃ body, openCoord data .error = .ok (envelope, body) ∧
        ReadFrom (.error msg) envelope.versionMinor body := by
  simp only [decodeError, bind_eq_ok, Prod.exists, rejectIf_eq_ok, exists_const, get16_eq_ok,
    not_lt, not_not]
  have hfield : ∀ text : Bytes,
      kErrorFixedBytes + (putStringField text).length = kErrorFixedBytes + 2 + text.length := by
    simp [putStringField, Nat.add_assoc]
  constructor
  · rintro ⟨_, body, hopen, hlong, _, h0, text, _, htext, rfl, hmade⟩
    cases hmade
    rw [readString_eq_ok (opened_small hopen) (by decide)] at htext
    obtain ⟨hzero, -, hmax, hend, hheld⟩ := htext
    refine ⟨body, hopen, ?_, hlong, ?_, hzero, hmax⟩
    · simp [known_error, h0]
    · exact (holds_end_iff.mp ⟨hheld, by rw [hfield, hend]⟩).2
  · rintro ⟨body, hopen, hcarries, hlong, htail, hzero, hmax⟩
    simp only [known_error, carries_cons, carries_nil, and_true] at hcarries
    obtain ⟨hheld, hend⟩ := holds_end_iff.mpr ⟨hlong, htail⟩
    have htext := (readString_eq_ok (opened_small hopen) (by decide)).mpr
      ⟨hzero, Nat.zero_le _, hmax, rfl, hheld⟩
    refine ⟨_, body, hopen, hlong, _, hcarries, _, _, htext, (hfield _).symm.trans hend, ?_⟩
    simp only [Status.ofRaw_toRaw]
    rfl

end Tailed

namespace CoordMessage

variable {data : Bytes} {envelope : Envelope} {m : CoordMessage}

lemma map_message_eq_ok {α : Type} {f : α → CoordMessage} {x : Except Fault (α × Envelope)} :
    (x.map fun r => (f r.1, r.2)) = .ok (m, envelope) ↔
      ∃ msg, x = .ok (msg, envelope) ∧ m = f msg := by
  cases x with
  | error => simp [Except.map]
  | ok r =>
    obtain ⟨msg, envelope'⟩ := r
    simp only [Except.map, Except.ok.injEq, Prod.mk.injEq]
    constructor
    · rintro ⟨rfl, rfl⟩
      exact ⟨msg, ⟨rfl, rfl⟩, rfl⟩
    · rintro ⟨_, ⟨rfl, rfl⟩, rfl⟩
      exact ⟨rfl, rfl⟩

lemma decode_eq_ok {type : CoordType} :
    decode data type = .ok (m, envelope) ↔
      m.type = type ∧ ∃ body, openCoord data type = .ok (envelope, body) ∧
        m.ReadFrom envelope.versionMinor body := by
  cases type
  all_goals
    simp only [decode, map_message_eq_ok, decodeOpen_eq_ok, decodeOpenReply_eq_ok,
      decodeRenew_eq_ok, decodeRenewReply_eq_ok, decodeClose_eq_ok, decodeCloseReply_eq_ok,
      decodeError_eq_ok]
    constructor
    · rintro ⟨msg, hread, rfl⟩
      exact ⟨rfl, hread⟩
    · rintro ⟨htype, hread⟩
      cases m <;> first | exact ⟨_, hread, rfl⟩ | cases htype

lemma fields_tile (m : CoordMessage) : tiles 0 (ranges m.fields) m.type.fixedBytes = true := by
  cases m with
  | «open» msg =>
    simp [ranges, fields, openFields, type, CoordType.fixedBytes, tiles, put8, put16, put32, put64,
      putId16, msg.clientInstanceId.size, kOpenFixedBytes]
  | openReply msg =>
    simp [ranges, fields, openReplyFields, putGeometry, putDims, type, CoordType.fixedBytes, tiles,
      put8, put16, put32, put64, putId16, msg.sessionId.size, kOpenReplyFixedBytes]
  | renew msg =>
    simp [ranges, fields, renewFields, type, CoordType.fixedBytes, tiles, put32, put64, putId16,
      msg.sessionId.size, kRenewBytes]
  | renewReply msg =>
    simp [ranges, fields, renewReplyFields, putGeometry, putDims, type, CoordType.fixedBytes, tiles,
      put16, put32, put64, putId16, msg.sessionId.size, kRenewReplyBytes]
  | close msg =>
    simp [ranges, fields, closeFields, type, CoordType.fixedBytes, tiles, put32, putId16,
      msg.sessionId.size, kCloseBytes]
  | closeReply msg =>
    simp [ranges, fields, closeReplyFields, type, CoordType.fixedBytes, tiles, put16, put32, putId16,
      msg.sessionId.size, kCloseReplyBytes]
  | error =>
    simp [ranges, fields, errorFields, type, CoordType.fixedBytes, tiles, put16, put32,
      kErrorFixedBytes]

lemma readFrom_made {minor : UInt8} (h : m.Bounded) :
    m.ReadFrom minor (fill m.type.fixedBytes m.fields ++ m.tail) := by
  have hl := laidOut_of_tiles m.fields_tile
  have hlen := fill_length hl
  refine ⟨?_, ?_, ?_, h⟩
  · intro f hf
    exact (carries_fill hl f (List.mem_of_mem_filter hf)).append _
  · rw [List.length_append, hlen]
    exact Nat.le_add_right _ _
  · split_ifs with htailed
    · rw [List.drop_left' hlen]
    · have htail : m.tail = [] := by
        cases m <;> first | rfl | exact absurd rfl htailed
      intro _
      rw [htail, List.append_nil, hlen]

end CoordMessage

end TangoBulk
