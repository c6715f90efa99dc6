import TangoBulk.ProtocolBounds
import TangoBulk.ProtocolRoundTrip

/-! The messages of the data plane as one type: each is read back by its own decoder if its fields
pass the decoder's checks, and no other decoder of either plane accepts it. -/
namespace TangoBulk

open ByteString

lemma minHeaderBytes_range (type : DataType) :
    kCoordEnvelopeBytes ≤ minHeaderBytes type ∧ minHeaderBytes type ≤ kMaxCoordMessageBytes := by
  cases type <;> decide

namespace DataMessage

variable {data : Bytes} {m : DataMessage}

lemma toRaw_inj {type expected : DataType} : type.toRaw = expected.toRaw ↔ type = expected := by
  cases type <;> cases expected <;> decide

lemma openData_otherType {type : DataType} (h : type ≠ m.type) :
    openData m.encode type = .error (.status .malformedMessage) := by
  obtain ⟨hlen, hstart, -⟩ := m.encode_carries
  simp only [DataPrefix.fields, carries_cons, ← get8_eq_ok, ← get16_eq_ok, ← get32_eq_ok] at hstart
  obtain ⟨h0, h4, -, -, h8, -⟩ := hstart
  have hlong : ¬ m.encode.length < kDataPrefixBytes := by
    rw [hlen]
    exact Nat.not_lt.mpr (kDataPrefixBytes_le m.type)
  have htype : m.type.toRaw ≠ type.toRaw := fun heq => h (toRaw_inj.mp heq).symm
  simp [openData, hlong, h0, h4, h8, htype, start]

lemma decode_refused {type : DataType} {fault : Fault} (h : openData data type = .error fault) :
    decode data type = .error fault := by
  cases type <;>
    simp [decode, decodeFrame, decodeCredit, decodeProbe, decodeProbeAck, decodePair, h, Except.map]

lemma openCoord_encode (m : DataMessage) (type : CoordType) :
    openCoord m.encode type = .error (.status .malformedMessage) := by
  obtain ⟨hlen, hstart, hknown⟩ := m.encode_carries
  have h0 := get32_eq_ok.mpr (hstart (put32 0 kDataMagic) (by simp [DataPrefix.fields]))
  obtain ⟨hmin, hmax⟩ := minHeaderBytes_range m.type
  have hmagic : kDataMagic ≠ kCoordMagic := by decide
  obtain ⟨correlation, h16⟩ : ∃ v, get64 m.encode 16 = .ok v := by
    simp only [kCoordEnvelopeBytes] at hmin
    rw [get64, getLe, if_pos (by omega)]
    exact ⟨_, rfl⟩
  rw [← hlen] at hmin hmax
  simp [openCoord, Nat.not_lt.mpr hmin, Nat.not_lt.mpr hmax, h0, h16, hmagic]

lemma decodeEnvelope_encode (m : DataMessage) :
    decodeEnvelope m.encode = .error (.status .malformedMessage) := by
  obtain ⟨hlen, hstart, -⟩ := m.encode_carries
  have h8 := get16_eq_ok.mpr (hstart (put16 8 m.start.msgType.toRaw) (by simp [DataPrefix.fields]))
  have hlong : ¬ m.encode.length < kCoordEnvelopeBytes := by
    rw [hlen]
    exact Nat.not_lt.mpr (minHeaderBytes_range m.type).1
  simp only [decodeEnvelope, rejectIf_neg _ hlong, h8, ok_bind]
  cases CoordType.ofRaw m.start.msgType.toRaw with
  | none => rfl
  | some =>
    dsimp only
    rw [m.openCoord_encode]
    rfl

lemma decodeDataPrefix_encode (m : DataMessage) : decodeDataPrefix m.encode = .ok m.start := by
  obtain ⟨hlen, hstart, -⟩ := m.encode_carries
  simp only [DataPrefix.fields, carries_cons, ← get8_eq_ok, ← get16_eq_ok, ← get32_eq_ok] at hstart
  obtain ⟨h0, -, -, -, h8, -⟩ := hstart
  have hlong : ¬ m.encode.length < kDataPrefixBytes := by
    rw [hlen]
    exact Nat.not_lt.mpr (kDataPrefixBytes_le m.type)
  have htype : DataType.ofRaw m.start.msgType.toRaw = some m.type := by cases m <;> rfl
  simp only [decodeDataPrefix, rejectIf_neg _ hlong, h0, h8, htype, ok_bind, ne_eq,
    not_true_eq_false, not_false_eq_true, rejectIf_neg]
  exact m.openData_encode

end DataMessage

lemma checkFrame_ok {msg : FrameHeader} :
    checkFrame msg = .ok () ↔
      (1 ≤ msg.payloadBytes.toNat ∧ msg.payloadBytes.toNat ≤ 268435456) ∧
        validateElementSize msg.elementType msg.elementSize = .ok ∧
        validateShapeAndStrides msg.rank msg.shape msg.strides msg.elementSize msg.payloadBytes =
          .ok := by
  simp only [checkFrame, bind_eq_ok, rejectIf_eq_ok, exists_const, not_not]
  refine and_congr_left fun _ => ?_
  rw [not_or, UInt64.not_lt, UInt64.le_iff_toNat_le, ← UInt64.toNat_inj]
  exact and_congr_left fun _ => Nat.one_le_iff_ne_zero.symm

/-- Credits and probes are read back as they were, a frame header if it passes the decoder's
checks; an encoded message is classified as what it is, and no other decoder accepts it. -/
theorem data_plane_codec :
    (∀ m : CreditMessage, decodeCredit (encodeCredit m) = .ok m) ∧
    (∀ m : ProbeMessage, decodeProbe (encodeProbe m) = .ok m) ∧
    (∀ m : ProbeAckMessage, decodeProbeAck (encodeProbeAck m) = .ok m) ∧
    (∀ h : FrameHeader,
      ((∃ h', decodeFrame (encodeFrame h) = .ok h') ↔
        (1 ≤ h.payloadBytes.toNat ∧ h.payloadBytes.toNat ≤ 268435456) ∧
          validateElementSize h.elementType h.elementSize = .ok ∧
          validateShapeAndStrides h.rank h.shape h.strides h.elementSize h.payloadBytes = .ok) ∧
      ∀ h', decodeFrame (encodeFrame h) = .ok h' → h' = h) ∧
    ∀ m : DataMessage,
      (∃ start, decodeDataPrefix m.encode = .ok start ∧ start.msgType = m.type ∧
        start.generation = m.generation) ∧
      (∀ type ≠ m.type, DataMessage.decode m.encode type = .error (.status .malformedMessage)) ∧
      (∀ type, CoordMessage.decode m.encode type = .error (.status .malformedMessage)) ∧
      decodeEnvelope m.encode = .error (.status .malformedMessage) := by
  refine ⟨decodeCredit_encodeCredit, decodeProbe_encodeProbe, decodeProbeAck_encodeProbeAck,
    fun h => ⟨?_, fun h' => decodeFrame_encoded⟩, fun m => ⟨?_, ?_, ?_, m.decodeEnvelope_encode⟩⟩
  · rw [← checkFrame_ok, decodeFrame_encodeFrame]
    cases checkFrame h with
    | error | ok => simp [Except.map]
  · exact ⟨m.start, m.decodeDataPrefix_encode, rfl, rfl⟩
  · intro type hne
    exact DataMessage.decode_refused (DataMessage.openData_otherType hne)
  · intro type
    exact CoordMessage.decode_refused (m.openCoord_encode type)

end TangoBulk
