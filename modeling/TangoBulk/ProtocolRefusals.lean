import TangoBulk.ProtocolCanonical
import TangoBulk.ProtocolDataPlane

/-! What a peer is told: a message of a foreign major version is reported as such, and an error
text reaches the other side. Neither holds without exception. -/
namespace TangoBulk

open ByteString

/-! ### Foreign versions -/

section Foreign

variable {data : Bytes}

lemma exists_major (hlong : 5 ≤ data.length) (h : ¬ Holds data (put8 4 kVersionMajor)) :
    ∃ major, get8 data 4 = .ok major ∧ major ≠ kVersionMajor := by
  obtain ⟨major, hheld⟩ : ∃ major, Holds data (put8 4 major) := exists_held8 hlong
  refine ⟨major, get8_eq_ok.mpr hheld, ?_⟩
  rintro rfl
  exact h hheld

lemma openCoord_foreign (hlong : 32 ≤ data.length) (hsize : data.length ≤ 65536)
    (hmagic : Holds data (put32 0 kCoordMagic)) (hmajor : ¬ Holds data (put8 4 kVersionMajor))
    (type : CoordType) : openCoord data type = .error (.status .unsupportedVersion) := by
  obtain ⟨major, h4, hne⟩ := exists_major (by omega) hmajor
  obtain ⟨correlation, h16⟩ : ∃ v, get64 data 16 = .ok v := by
    rw [get64, getLe, if_pos (by omega)]
    exact ⟨_, rfl⟩
  have h0 := get32_eq_ok.mpr hmagic
  have hmin : ¬ data.length < kCoordEnvelopeBytes := Nat.not_lt.mpr hlong
  have hmax : ¬ kMaxCoordMessageBytes < data.length := Nat.not_lt.mpr hsize
  simp [openCoord, hmin, hmax, h0, h4, h16, hne]

lemma openData_foreign (hlong : 16 ≤ data.length) (hmagic : Holds data (put32 0 kDataMagic))
    (hmajor : ¬ Holds data (put8 4 kVersionMajor)) (type : DataType) :
    openData data type = .error (.status .unsupportedVersion) := by
  obtain ⟨major, h4, hne⟩ := exists_major (by omega) hmajor
  have h0 := get32_eq_ok.mpr hmagic
  have hmin : ¬ data.length < kDataPrefixBytes := Nat.not_lt.mpr hlong
  simp [openData, hmin, h0, h4, hne]

lemma exists_typeRaw (hlong : 16 ≤ data.length) : ∃ raw, get16 data 8 = .ok raw := by
  obtain ⟨raw, hheld⟩ : ∃ raw, Holds data (put16 8 raw) := exists_held16 (by omega)
  exact ⟨raw, get16_eq_ok.mpr hheld⟩

lemma DataType.ofRaw_eq_some {raw : UInt16} {type : DataType} :
    DataType.ofRaw raw = some type ↔ raw = type.toRaw := by
  constructor
  · intro h
    have hfound := List.find?_some h
    exact (of_decide_eq_true hfound).symm
  · rintro rfl
    cases type <;> rfl

lemma decodeEnvelope_foreign (hlong : 32 ≤ data.length) (hsize : data.length ≤ 65536)
    (hmagic : Holds data (put32 0 kCoordMagic)) (hmajor : ¬ Holds data (put8 4 kVersionMajor)) :
    decodeEnvelope data = .error (.status .unsupportedVersion) ↔
      ∃ type : CoordType, Holds data (put16 8 type.toRaw) := by
  obtain ⟨raw, hraw⟩ : ∃ raw, get16 data 8 = .ok raw := exists_typeRaw (by omega)
  have hmin : ¬ data.length < kCoordEnvelopeBytes := Nat.not_lt.mpr hlong
  have hheld : ∀ type : CoordType,
      Holds data (put16 8 type.toRaw) ↔ CoordType.ofRaw raw = some type := by
    intro type
    rw [← get16_eq_ok, hraw, Except.ok.injEq, CoordType.ofRaw_eq_some]
  simp only [decodeEnvelope, rejectIf_neg _ hmin, hraw, ok_bind, hheld]
  cases CoordType.ofRaw raw with
  | none => simp
  | some =>
    simp only [openCoord_foreign hlong hsize hmagic hmajor, Option.some.injEq, exists_eq', iff_true]
    rfl

lemma decodeDataPrefix_foreign (hlong : 16 ≤ data.length)
    (hmagic : Holds data (put32 0 kDataMagic)) (hmajor : ¬ Holds data (put8 4 kVersionMajor)) :
    decodeDataPrefix data = .error (.status .unsupportedVersion) ↔
      ∃ type : DataType, Holds data (put16 8 type.toRaw) := by
  obtain ⟨raw, hraw⟩ := exists_typeRaw hlong
  have h0 := get32_eq_ok.mpr hmagic
  have hmin : ¬ data.length < kDataPrefixBytes := Nat.not_lt.mpr hlong
  have hheld : ∀ type : DataType,
      Holds data (put16 8 type.toRaw) ↔ DataType.ofRaw raw = some type := by
    intro type
    rw [← get16_eq_ok, hraw, Except.ok.injEq, DataType.ofRaw_eq_some]
  simp only [decodeDataPrefix, rejectIf_neg _ hmin, h0, hraw, ok_bind, hheld, ne_eq,
    not_true_eq_false, not_false_eq_true, rejectIf_neg]
  cases DataType.ofRaw raw with
  | none => simp
  | some =>
    simp only [openData_foreign hlong hmagic hmajor, Option.some.injEq, exists_eq']

end Foreign

/-- Every decoder reports a foreign major version, the two classifying ones only for a type code
of this version. -/
theorem foreign_major_reported (data : Bytes) :
    (32 ≤ data.length → data.length ≤ 65536 →
      Holds data (put32 0 kCoordMagic) → ¬ Holds data (put8 4 kVersionMajor) →
      ((decodeEnvelope data = .error (.status .unsupportedVersion) ∧
        ∀ type, CoordMessage.decode data type = .error (.status .unsupportedVersion)) ↔
        ∃ type : CoordType, Holds data (put16 8 type.toRaw))) ∧
    (16 ≤ data.length →
      Holds data (put32 0 kDataMagic) → ¬ Holds data (put8 4 kVersionMajor) →
      ((decodeDataPrefix data = .error (.status .unsupportedVersion) ∧
        ∀ type, DataMessage.decode data type = .error (.status .unsupportedVersion)) ↔
        ∃ type : DataType, Holds data (put16 8 type.toRaw))) := by
  constructor
  · intro hlong hsize hmagic hmajor
    rw [← decodeEnvelope_foreign hlong hsize hmagic hmajor]
    refine and_iff_left fun type => ?_
    exact CoordMessage.decode_refused (openCoord_foreign hlong hsize hmagic hmajor type)
  · intro hlong hmagic hmajor
    rw [← decodeDataPrefix_foreign hlong hmagic hmajor]
    refine and_iff_left fun type => ?_
    exact DataMessage.decode_refused (openData_foreign hlong hmagic hmajor type)

/-- An envelope of major version 2 with this type code. -/
def foreignEnvelope (typeRaw : UInt16) : Bytes :=
  fill kCoordEnvelopeBytes [put32 0 kCoordMagic, put8 4 2, put16 6 32, put16 8 typeRaw]

/-- A prefix of major version 2 with this type code. -/
def foreignPrefix (typeRaw : UInt16) : Bytes :=
  fill kDataPrefixBytes [put32 0 kDataMagic, put8 4 2, put16 6 16, put16 8 typeRaw]

theorem foreign_major_reported_open :
    decodeEnvelope (foreignEnvelope 1) = .error (.status .unsupportedVersion) ∧
      decodeDataPrefix (foreignPrefix 1) = .error (.status .unsupportedVersion) := by
  refine ⟨?_, ?_⟩
  · exact (((foreign_major_reported (foreignEnvelope 1)).1 (by decide +kernel) (by decide +kernel)
      ⟨by decide +kernel, by decide +kernel⟩ (fun h => absurd h.2 (by decide +kernel))).mpr
        ⟨.open, by decide +kernel, by decide +kernel⟩).1
  · exact (((foreign_major_reported (foreignPrefix 1)).2 (by decide +kernel)
      ⟨by decide +kernel, by decide +kernel⟩ (fun h => absurd h.2 (by decide +kernel))).mpr
        ⟨.frame, by decide +kernel, by decide +kernel⟩).1

/-- With a type code of its own a foreign message is malformed to the classifying decoders, and of
a foreign version to the others. -/
theorem foreign_type_malformed :
    decodeEnvelope (foreignEnvelope 7) = .error (.status .malformedMessage) ∧
      decodeOpen (foreignEnvelope 7) = .error (.status .unsupportedVersion) ∧
      decodeDataPrefix (foreignPrefix 5) = .error (.status .malformedMessage) ∧
      decodeFrame (foreignPrefix 5) = .error (.status .unsupportedVersion) := by
  refine ⟨?_, ?_, ?_, ?_⟩ <;> decide +kernel

/-! ### Error texts -/

/-- An error message arrives, cut to 512 bytes, exactly if no NUL is left in its text. -/
theorem error_text_arrives (status : Status) (message : Bytes) (correlationId : UInt64) :
    (∃ data envelope, encodeError ⟨status, message⟩ correlationId = .ok data ∧
      decodeError data = .ok (⟨status, message.take (min message.length 512)⟩, envelope) ∧
      envelope.correlationId = correlationId) ↔
      0 ∉ message.take 512 := by
  have hcut : message.take (min message.length 512) = message.take 512 := by
    rw [Nat.min_comm, ← List.take_eq_take_min]
  rw [hcut]
  constructor
  · rintro ⟨data, envelope, -, hdecode, -⟩
    obtain ⟨_, -, hread⟩ := decodeError_eq_ok.mp hdecode
    exact hread.bounded.1
  · intro hzero
    have hbounded : (CoordMessage.error ⟨status, message.take 512⟩).Bounded :=
      ⟨hzero, List.length_take_le _ _⟩
    have hsame : encodeError ⟨status, message⟩ correlationId =
        (CoordMessage.error ⟨status, message.take 512⟩).encode correlationId := by
      simp [CoordMessage.encode, encodeError, errorFields, kMaxErrorMessageBytes, List.take_take]
    obtain ⟨data, hencode, hmade⟩ := CoordMessage.encodes hbounded id correlationId
    obtain ⟨envelope, hdecode, hcorrelation⟩ := CoordMessage.decode_made hbounded hmade
    obtain ⟨msg, hdecode, heq⟩ := CoordMessage.map_message_eq_ok.mp hdecode
    cases heq
    exact ⟨data, envelope, hsame.trans hencode, hdecode, hcorrelation⟩

theorem error_text_arrives_plain :
    ∃ data envelope, encodeError ⟨.resourceExhausted, [110, 111]⟩ 7 = .ok data ∧
      decodeError data = .ok (⟨.resourceExhausted, [110, 111]⟩, envelope) ∧
      envelope.correlationId = 7 :=
  (error_text_arrives .resourceExhausted [110, 111] 7).mpr (by decide)

/-- What the encoder makes of a text that is one NUL. -/
def nulText : Bytes :=
  fill kCoordEnvelopeBytes (putEnvelope .error 7 11) ++
    (fill kErrorFixedBytes (errorFields ⟨.resourceExhausted, [0]⟩) ++ putStringField [0])

/-- The encoder sends a text with a NUL in it, the decoder rejects it. -/
theorem nul_text_refused :
    encodeError ⟨.resourceExhausted, [0]⟩ 7 = .ok nulText ∧
      decodeError nulText = .error (.status .malformedMessage) := by
  refine ⟨?_, ?_⟩ <;> decide +kernel

end TangoBulk
