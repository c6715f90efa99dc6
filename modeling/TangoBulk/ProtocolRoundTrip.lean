import TangoBulk.ProtocolEnvelope

/-! Round trips of the coordination messages: what an encoder writes its own decoder reads back
field for field, and no other decoder accepts. -/
namespace TangoBulk

open ByteString

/-- The envelope `make_message` writes, as a decoder sees it. -/
def madeEnvelope (type : CoordType) (correlationId : UInt64) (bodyBytes : ℕ) : Envelope where
  versionMajor := kVersionMajor
  versionMinor := kVersionMinor
  headerBytes := UInt16.ofNat kCoordEnvelopeBytes
  msgType := type
  flags := 0
  bodyBytes := UInt32.ofNat bodyBytes
  correlationId := correlationId

lemma makeMessage_ok {type : CoordType} {correlationId : UInt64} {body data : Bytes} :
    makeMessage type correlationId body = .ok data ↔
      body.length ≤ kMaxCoordBodyBytes ∧
        data = fill kCoordEnvelopeBytes (putEnvelope type correlationId body.length) ++ body := by
  unfold makeMessage
  split_ifs with h
  · simp [encodeFailure, Nat.not_le.mpr h]
  · simp [Nat.not_lt.mp h, eq_comm]

lemma envelope_tiles (type : CoordType) (correlationId : UInt64) (size : ℕ) :
    tiles 0 (ranges (putEnvelope type correlationId size)) kCoordEnvelopeBytes = true := by
  simp [ranges, putEnvelope, put8, put16, put32, put64, tiles, kCoordEnvelopeBytes]

section Made

variable {type : CoordType} {correlationId : UInt64} {body data : Bytes}

lemma made_framed (h : makeMessage type correlationId body = .ok data) :
    Framed data (madeEnvelope type correlationId body.length) body := by
  obtain ⟨hsize, rfl⟩ := makeMessage_ok.mp h
  have hl := laidOut_of_tiles (envelope_tiles type correlationId body.length)
  have hlen := fill_length hl
  have hbody : (UInt32.ofNat body.length).toNat = body.length := by
    simp only [kMaxCoordBodyBytes] at hsize
    rw [UInt32.toNat_ofNat', Nat.mod_eq_of_lt (by omega)]
  refine ⟨?_, ?_, rfl, le_refl _, hbody.trans_le hsize, ?_, (List.drop_left' hlen).symm⟩
  · rw [List.length_append, hlen]
    exact Nat.add_le_add_left hsize kCoordEnvelopeBytes
  · intro f hf
    exact (carries_fill hl).append body f (List.mem_append_left [put64 24 0] hf)
  · rw [List.length_append, hlen, madeEnvelope, hbody]
    rfl

lemma openCoord_makeMessage (h : makeMessage type correlationId body = .ok data) :
    openCoord data type = .ok (madeEnvelope type correlationId body.length, body) :=
  openCoord_eq_ok.mpr ⟨rfl, made_framed h⟩

lemma decodeEnvelope_makeMessage (h : makeMessage type correlationId body = .ok data) :
    decodeEnvelope data = .ok (madeEnvelope type correlationId body.length) :=
  decodeEnvelope_iff.mpr ⟨body, openCoord_makeMessage h⟩

lemma openCoord_otherType {expected : CoordType}
    (h : makeMessage type correlationId body = .ok data) (hne : expected ≠ type) :
    ∃ fault, openCoord data expected = .error fault := by
  cases hopen : openCoord data expected with
  | error fault => exact ⟨fault, rfl⟩
  | ok opened =>
    obtain ⟨rfl, hframed⟩ := openCoord_eq_ok.mp hopen
    have htype := get16_eq_ok.mpr (hframed.fields (put16 8 opened.1.msgType.toRaw)
      (by simp [Envelope.fields]))
    have hmade := get16_eq_ok.mpr ((made_framed h).fields (put16 8 type.toRaw)
      (by simp [Envelope.fields, madeEnvelope]))
    have hraw := Except.ok.inj (htype.symm.trans hmade)
    rw [← CoordType.ofRaw_eq_some, CoordType.ofRaw_toRaw, Option.some.injEq] at hraw
    exact absurd hraw hne

lemma openData_makeMessage (h : makeMessage type correlationId body = .ok data)
    (expected : DataType) : ∃ fault, openData data expected = .error fault := by
  cases hopen : openData data expected with
  | error fault => exact ⟨fault, rfl⟩
  | ok =>
    have hmagic := get32_eq_ok.mpr ((openData_eq_ok.mp hopen).2.fields (put32 0 kDataMagic)
      (by simp [DataPrefix.fields]))
    have hmade := get32_eq_ok.mpr ((made_framed h).fields (put32 0 kCoordMagic)
      (by simp [Envelope.fields]))
    exact absurd (Except.ok.inj (hmagic.symm.trans hmade)) (by decide)

end Made

/-! ### What the encoders make -/

lemma encodeOpenReply_ok {msg : OpenReply} {correlationId : UInt64} {data : Bytes}
    (h : encodeOpenReply msg correlationId = .ok data) :
    msg.serverUcxAddress.length ≤ kMaxUcxAddressBytes ∧
      makeMessage .openReply correlationId
        (fill kOpenReplyFixedBytes (openReplyFields msg) ++ putBlobField msg.serverUcxAddress) =
          .ok data := by
  unfold encodeOpenReply at h
  split_ifs at h with h1 h2
  · simp [encodeFailure] at h
  · simp [encodeFailure] at h
  · exact ⟨by omega, h⟩

lemma encodeOpen_ok {msg : OpenRequest} {correlationId : UInt64} {data : Bytes}
    (h : encodeOpen msg correlationId = .ok data) :
    isValidStreamName msg.streamName = true ∧ msg.clientUcxAddress ≠ [] ∧
      msg.clientUcxAddress.length ≤ kMaxUcxAddressBytes ∧
      makeMessage .open correlationId (fill kOpenFixedBytes (openFields msg) ++
        (putStringField msg.streamName ++ putBlobField msg.clientUcxAddress)) = .ok data := by
  unfold encodeOpen at h
  split_ifs at h with h1 h2
  · simp [encodeFailure] at h
  · simp [encodeFailure] at h
  · simp only [not_or, not_lt] at h2
    refine ⟨?_, h2.1, h2.2, h⟩
    by_contra hname
    exact h1 (by simp [validateStreamName, hname])

namespace CoordMessage

/-- A successful OpenReply without an address, which the encoder refuses. -/
def Unaddressed : CoordMessage → Prop
  | .openReply msg => msg.status = .ok ∧ msg.serverUcxAddress = []
  | _ => False

variable {m : CoordMessage} {correlationId : UInt64} {data : Bytes}

lemma made_length (h : m.Bounded) :
    (fill m.type.fixedBytes m.fields ++ m.tail).length ≤ kMaxCoordBodyBytes := by
  rw [List.length_append, fill_length (laidOut_of_tiles m.fields_tile)]
  cases m with
  | «open» =>
    obtain ⟨hname, -, haddress⟩ := h
    have hlen := (streamName_bounds hname).2
    simp only [kMaxStreamNameBytes, kMaxUcxAddressBytes] at hlen haddress
    simp [type, CoordType.fixedBytes, tail, putStringField, putBlobField, kOpenFixedBytes,
      kMaxCoordBodyBytes]
    omega
  | openReply =>
    simp only [Bounded, kMaxUcxAddressBytes] at h
    simp [type, CoordType.fixedBytes, tail, putBlobField, kOpenReplyFixedBytes, kMaxCoordBodyBytes]
    omega
  | error =>
    obtain ⟨-, hlen⟩ := h
    simp only [kMaxErrorMessageBytes] at hlen
    simp [type, CoordType.fixedBytes, tail, putStringField, kErrorFixedBytes, kMaxCoordBodyBytes]
    omega
  | renew => simp [type, CoordType.fixedBytes, tail, kRenewBytes, kMaxCoordBodyBytes]
  | renewReply => simp [type, CoordType.fixedBytes, tail, kRenewReplyBytes, kMaxCoordBodyBytes]
  | close => simp [type, CoordType.fixedBytes, tail, kCloseBytes, kMaxCoordBodyBytes]
  | closeReply => simp [type, CoordType.fixedBytes, tail, kCloseReplyBytes, kMaxCoordBodyBytes]

lemma encode_bounded (h : m.Bounded) (haddressed : ¬ m.Unaddressed) :
    m.encode correlationId =
      makeMessage m.type correlationId (fill m.type.fixedBytes m.fields ++ m.tail) := by
  cases m with
  | «open» msg =>
    obtain ⟨hname, hne, haddress⟩ := h
    have hname' : ¬ validateStreamName msg.streamName ≠ .ok :=
      not_not.mpr (validateStreamName_ok.mpr hname)
    have haddress' : ¬ (msg.clientUcxAddress = [] ∨
        kMaxUcxAddressBytes < msg.clientUcxAddress.length) := by
      rw [not_or, not_lt]
      exact ⟨hne, haddress⟩
    rw [encode, encodeOpen, if_neg hname', if_neg haddress']
    rfl
  | openReply msg =>
    have hreply : ¬ (msg.status = .ok ∧ msg.serverUcxAddress = []) := haddressed
    rw [encode, encodeOpenReply, if_neg (Nat.not_lt.mpr h), if_neg hreply]
    rfl
  | error =>
    rw [encode, encodeError, List.take_of_length_le h.2]
    rfl
  | renew => simp [encode, encodeRenew, type, CoordType.fixedBytes, fields, tail]
  | renewReply => simp [encode, encodeRenewReply, type, CoordType.fixedBytes, fields, tail]
  | close => simp [encode, encodeClose, type, CoordType.fixedBytes, fields, tail]
  | closeReply => simp [encode, encodeCloseReply, type, CoordType.fixedBytes, fields, tail]

lemma encodes (h : m.Bounded) (haddressed : ¬ m.Unaddressed) (correlationId : UInt64) :
    ∃ data, m.encode correlationId = .ok data ∧
      makeMessage m.type correlationId (fill m.type.fixedBytes m.fields ++ m.tail) = .ok data := by
  refine ⟨_, ?_, makeMessage_ok.mpr ⟨made_length h, rfl⟩⟩
  rw [encode_bounded h haddressed]
  exact makeMessage_ok.mpr ⟨made_length h, rfl⟩

lemma decode_made (h : m.Bounded)
    (hmade : makeMessage m.type correlationId (fill m.type.fixedBytes m.fields ++ m.tail) =
      .ok data) :
    ∃ envelope, decode data m.type = .ok (m, envelope) ∧
      envelope.correlationId = correlationId :=
  ⟨_, decode_eq_ok.mpr ⟨rfl, _, openCoord_makeMessage hmade, readFrom_made h⟩, rfl⟩

lemma encode_ok (hm : m.type ≠ .error) (h : m.encode correlationId = .ok data) :
    m.Bounded ∧ makeMessage m.type correlationId (fill m.type.fixedBytes m.fields ++ m.tail) =
      .ok data := by
  cases m with
  | «open» =>
    obtain ⟨hname, hne, haddress, hmade⟩ := encodeOpen_ok h
    exact ⟨⟨hname, hne, haddress⟩, hmade⟩
  | openReply => exact encodeOpenReply_ok h
  | error => exact absurd rfl hm
  | renew msg => exact ⟨trivial, (encode_bounded (m := .renew msg) trivial id).symm.trans h⟩
  | renewReply msg => exact ⟨trivial, (encode_bounded (m := .renewReply msg) trivial id).symm.trans h⟩
  | close msg => exact ⟨trivial, (encode_bounded (m := .close msg) trivial id).symm.trans h⟩
  | closeReply msg => exact ⟨trivial, (encode_bounded (m := .closeReply msg) trivial id).symm.trans h⟩

lemma decode_encode (hm : m.type ≠ .error) (h : m.encode correlationId = .ok data) :
    ∃ size, decode data m.type = .ok (m, madeEnvelope m.type correlationId size) := by
  obtain ⟨hbounded, hmade⟩ := encode_ok hm h
  exact ⟨_, decode_eq_ok.mpr ⟨rfl, _, openCoord_makeMessage hmade, readFrom_made hbounded⟩⟩

lemma decode_refused {type : CoordType} {fault : Fault}
    (h : openCoord data type = .error fault) : decode data type = .error fault := by
  cases type <;>
    simp [decode, decodeOpen, decodeOpenReply, decodeRenew, decodeRenewReply, decodeClose,
      decodeCloseReply, decodeError, h, Except.map]

lemma dataPlane_refuses {body : Bytes} (h : makeMessage m.type correlationId body = .ok data) :
    (∃ fault, decodeFrame data = .error fault) ∧
    ∀ type, ∃ fault, decodePair type data = .error fault := by
  refine ⟨?_, fun type => ?_⟩
  · obtain ⟨fault, hopen⟩ := openData_makeMessage h .frame
    exact ⟨fault, by rw [decodeFrame, hopen, error_bind]⟩
  · obtain ⟨fault, hopen⟩ := openData_makeMessage h type
    exact ⟨fault, by rw [decodePair, hopen, error_bind]⟩

end CoordMessage

section Messages

variable {correlationId : UInt64} {data : Bytes}

lemma decodeOpen_encodeOpen {msg : OpenRequest} (h : encodeOpen msg correlationId = .ok data) :
    ∃ size, decodeOpen data = .ok (msg, madeEnvelope .open correlationId size) := by
  obtain ⟨size, hdecode⟩ :=
    CoordMessage.decode_encode (m := .open msg) (by simp [CoordMessage.type]) h
  obtain ⟨_, hread, hsame⟩ := CoordMessage.map_message_eq_ok.mp hdecode
  cases hsame
  exact ⟨size, hread⟩

lemma decodeOpenReply_encodeOpenReply {msg : OpenReply}
    (h : encodeOpenReply msg correlationId = .ok data) :
    ∃ size, decodeOpenReply data = .ok (msg, madeEnvelope .openReply correlationId size) := by
  obtain ⟨size, hdecode⟩ :=
    CoordMessage.decode_encode (m := .openReply msg) (by simp [CoordMessage.type]) h
  obtain ⟨_, hread, hsame⟩ := CoordMessage.map_message_eq_ok.mp hdecode
  cases hsame
  exact ⟨size, hread⟩

lemma decodeClose_encodeClose {msg : CloseRequest} (h : encodeClose msg correlationId = .ok data) :
    ∃ size, decodeClose data = .ok (msg, madeEnvelope .close correlationId size) := by
  obtain ⟨size, hdecode⟩ :=
    CoordMessage.decode_encode (m := .close msg) (by simp [CoordMessage.type]) h
  obtain ⟨_, hread, hsame⟩ := CoordMessage.map_message_eq_ok.mp hdecode
  cases hsame
  exact ⟨size, hread⟩

end Messages

/-- Whatever an encoder of the six messages accepts, the decoder of its type reads back, with
the correlation id and this version; the message is of an allowed size and no other decoder
accepts it. -/
theorem coordination_round_trip (m : CoordMessage) (correlationId : UInt64) (data : Bytes)
    (hm : m.type ≠ .error) (h : m.encode correlationId = .ok data) :
    (∃ envelope, CoordMessage.decode data m.type = .ok (m, envelope) ∧
      envelope.correlationId = correlationId ∧ envelope.msgType = m.type ∧
      envelope.versionMajor = 1 ∧ envelope.versionMinor = 0) ∧
    data.length ≤ 65536 ∧
    (∀ type ≠ m.type, ∃ fault, CoordMessage.decode data type = .error fault) ∧
    (∃ fault, decodeFrame data = .error fault) ∧ (∃ fault, decodeCredit data = .error fault) ∧
    (∃ fault, decodeProbe data = .error fault) ∧ ∃ fault, decodeProbeAck data = .error fault := by
  obtain ⟨size, hdecode⟩ := CoordMessage.decode_encode hm h
  obtain ⟨-, hmade⟩ := CoordMessage.encode_ok hm h
  obtain ⟨hframe, hpair⟩ := CoordMessage.dataPlane_refuses hmade
  refine ⟨⟨_, hdecode, rfl, rfl, rfl, rfl⟩, (made_framed hmade).size, fun type hne => ?_, hframe,
    hpair .credit, hpair .probe, hpair .probeAck⟩
  obtain ⟨fault, hopen⟩ := openCoord_otherType hmade hne
  exact ⟨fault, CoordMessage.decode_refused hopen⟩

/-- A grant of a ring of eight frames of 16 by 32 words, with the server's address. -/
def imageReply : OpenReply where
  versionSelected := 1
  status := .ok
  grantedCaps := 3
  sessionId := ⟨List.replicate 16 7, rfl⟩
  streamId := 11
  leaseTtlMs := 5000
  renewIntervalMs := 1000
  transportSelected := .any
  serverEpochId := 2
  geometry :=
    { generation := 1, elementType := .uInt16, elementSize := 2, rank := 2, maxFrameBytes := 1024,
      ringDepth := 8, creditWindow := 4, shape := ![16, 32, 0, 0], strides := ![64, 2, 0, 0] }
  serverUcxAddress := [10, 11, 12]

theorem coordination_round_trip_sample :
    ∃ data, (CoordMessage.openReply imageReply).encode 7 = .ok data ∧ data.length = 191 ∧
      (∃ envelope, CoordMessage.decode data .openReply = .ok (.openReply imageReply, envelope) ∧
        envelope.correlationId = 7) ∧ ∃ fault, CoordMessage.decode data .open = .error fault := by
  have hsize : ((CoordMessage.openReply imageReply).encode 7).map List.length = .ok 191 := by
    decide +kernel
  cases hencode : (CoordMessage.openReply imageReply).encode 7 with
  | error =>
    rw [hencode] at hsize
    cases hsize
  | ok data =>
    rw [hencode] at hsize
    obtain ⟨⟨envelope, hdecode, hid, -⟩, -, hother, -⟩ :=
      coordination_round_trip (.openReply imageReply) 7 data (by decide) hencode
    exact ⟨data, rfl, Except.ok.inj hsize, ⟨envelope, hdecode, hid⟩, hother .open (by decide)⟩

end TangoBulk
