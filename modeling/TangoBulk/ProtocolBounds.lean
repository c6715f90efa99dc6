import TangoBulk.ProtocolCoord

/-! No decoder reads past its input or wraps a sum of offsets, whatever the bytes: each one
returns a value or a status. -/
namespace TangoBulk

open ByteString

/-- The computation returns a value with `P`, or a status. -/
def Answers {α : Type} (x : Except Fault α) (P : α → Prop) : Prop :=
  (∃ a, x = .ok a ∧ P a) ∨ ∃ status, x = .error (.status status)

section Answers

variable {α β : Type} {P : α → Prop} {Q : β → Prop}

lemma Answers.ok {a : α} (h : P a) : Answers (.ok a : Except Fault α) P := .inl ⟨a, rfl, h⟩

lemma Answers.status (status : Status) : Answers (.error (.status status) : Except Fault α) P :=
  .inr ⟨status, rfl⟩

lemma Answers.bind {x : Except Fault α} {f : α → Except Fault β} (hx : Answers x P)
    (hf : ∀ a, P a → Answers (f a) Q) : Answers (x >>= f) Q := by
  obtain ⟨a, rfl, ha⟩ | ⟨status, rfl⟩ := hx
  · exact hf a ha
  · exact .status status

lemma answers_rejectIf {c : Prop} [Decidable c] (status : Status) :
    Answers (rejectIf c status) fun _ => ¬ c := by
  by_cases h : c
  · rw [rejectIf_pos _ h]
    exact .status status
  · rw [rejectIf_neg _ h]
    exact .ok h

end Answers

/-! ### Reads inside the input -/

section Reads

variable {data : Bytes} {off width : ℕ}

lemma answers_getLe (h : off + width ≤ data.length) :
    Answers (getLe data off width) fun v => v < 256 ^ width := by
  rw [getLe, if_pos h]
  have hlt := leValue_lt (window data off width)
  rw [window_length h] at hlt
  exact .ok hlt

lemma answers_cast {β : Type} (cast : ℕ → β) (h : off + width ≤ data.length) :
    Answers (cast <$> getLe data off width) fun _ => True := by
  rw [getLe, if_pos h]
  exact .ok trivial

lemma answers_get8 (h : off + 1 ≤ data.length) : Answers (get8 data off) fun _ => True :=
  answers_cast UInt8.ofNat h

lemma answers_get16 (h : off + 2 ≤ data.length) : Answers (get16 data off) fun _ => True :=
  answers_cast UInt16.ofNat h

lemma answers_get32 (h : off + 4 ≤ data.length) : Answers (get32 data off) fun _ => True :=
  answers_cast UInt32.ofNat h

lemma answers_get64 (h : off + 8 ≤ data.length) : Answers (get64 data off) fun _ => True :=
  answers_cast UInt64.ofNat h

lemma answers_getBytes (h : off + width ≤ data.length) :
    Answers (getBytes data off width) fun _ => True := by
  rw [getBytes, if_pos h]
  exact .ok trivial

lemma answers_getId16 (h : off + 16 ≤ data.length) : Answers (getId16 data off) fun _ => True := by
  rw [getId16, dif_pos h]
  exact .ok trivial

lemma answers_getDims (h : off + 32 ≤ data.length) : Answers (getDims data off) fun _ => True := by
  iterate 3 refine (answers_get64 (by omega)).bind fun _ _ => ?_
  exact (answers_get64 (by omega)).bind fun _ _ => .ok trivial

lemma answers_getGeometry (h : off + 96 ≤ data.length) :
    Answers (getGeometry data off) fun _ => True := by
  iterate 4 refine (answers_get32 (by omega)).bind fun _ _ => ?_
  refine (answers_get64 (by omega)).bind fun _ _ => ?_
  iterate 2 refine (answers_get32 (by omega)).bind fun _ _ => ?_
  refine (answers_getDims (by omega)).bind fun _ _ => ?_
  exact (answers_getDims (by omega)).bind fun _ _ => .ok trivial

lemma answers_addSize {a b : ℕ} (h : a + b < 2 ^ 64) :
    Answers (addSize a b) fun c => c = a + b := by
  rw [addSize_ok h]
  exact .ok rfl

end Reads

/-! ### The data plane -/

lemma answers_openData (data : Bytes) (expected : DataType) :
    Answers (openData data expected) fun _ => minHeaderBytes expected ≤ data.length := by
  refine (answers_rejectIf _).bind fun _ hsize => ?_
  simp only [kDataPrefixBytes, Nat.not_lt] at hsize
  refine (answers_get32 (by omega)).bind fun _ _ => ?_
  refine (answers_rejectIf _).bind fun _ _ => ?_
  refine (answers_get8 (by omega)).bind fun _ _ => ?_
  refine (answers_rejectIf _).bind fun _ _ => ?_
  refine (answers_get16 (by omega)).bind fun _ _ => ?_
  refine (answers_rejectIf _).bind fun _ _ => ?_
  refine (answers_get16 (by omega)).bind fun headerBytes _ => ?_
  refine (answers_rejectIf _).bind fun _ hclaimed => ?_
  refine (answers_get8 (by omega)).bind fun _ _ => ?_
  refine (answers_get16 (by omega)).bind fun _ _ => ?_
  refine (answers_get32 (by omega)).bind fun _ _ => ?_
  exact .ok (by omega)

lemma answers_decodeDataPrefix (data : Bytes) : Answers (decodeDataPrefix data) fun _ => True := by
  refine (answers_rejectIf _).bind fun _ hsize => ?_
  simp only [kDataPrefixBytes, Nat.not_lt] at hsize
  refine (answers_get32 (by omega)).bind fun _ _ => ?_
  refine (answers_rejectIf _).bind fun _ _ => ?_
  refine (answers_get16 (by omega)).bind fun typeRaw _ => ?_
  cases DataType.ofRaw typeRaw with
  | none => exact .status _
  | some type =>
    obtain ⟨start, h, -⟩ | ⟨status, h⟩ := answers_openData data type
    · exact .inl ⟨start, h, trivial⟩
    · exact .inr ⟨status, h⟩

lemma answers_checkFrame (msg : FrameHeader) : Answers (checkFrame msg) fun _ => True := by
  refine (answers_rejectIf _).bind fun _ _ => ?_
  refine (answers_rejectIf _).bind fun _ _ => ?_
  by_cases h : validateShapeAndStrides msg.rank msg.shape msg.strides msg.elementSize
      msg.payloadBytes ≠ .ok
  · rw [rejectIf_pos _ h]
    exact .status _
  · rw [rejectIf_neg _ h]
    exact .ok trivial

lemma answers_decodeFrame (data : Bytes) : Answers (decodeFrame data) fun _ => True := by
  refine (answers_openData data .frame).bind fun start hsize => ?_
  simp only [minHeaderBytes, kFrameHeaderBytes] at hsize
  iterate 6 refine (answers_get64 (by omega)).bind fun _ _ => ?_
  iterate 6 refine (answers_get32 (by omega)).bind fun _ _ => ?_
  iterate 2 refine (answers_getDims (by omega)).bind fun _ _ => ?_
  exact (answers_checkFrame _).bind fun _ _ => .ok trivial

lemma answers_decodePair {type : DataType} (htype : minHeaderBytes type = 32) (data : Bytes) :
    Answers (decodePair type data) fun _ => True := by
  refine (answers_openData data type).bind fun start hsize => ?_
  refine (answers_get64 (by omega)).bind fun _ _ => ?_
  exact (answers_get64 (by omega)).bind fun _ _ => .ok trivial

/-! ### The coordination plane -/

lemma answers_openCoord (data : Bytes) (expected : CoordType) :
    Answers (openCoord data expected) fun r => r.2.length ≤ kMaxCoordMessageBytes := by
  refine (answers_rejectIf _).bind fun _ hmin => ?_
  refine (answers_rejectIf _).bind fun _ hmax => ?_
  simp only [kCoordEnvelopeBytes, Nat.not_lt] at hmin
  refine (answers_get64 (by omega)).bind fun _ _ => ?_
  refine (answers_get32 (by omega)).bind fun _ _ => ?_
  refine (answers_rejectIf _).bind fun _ _ => ?_
  refine (answers_get8 (by omega)).bind fun _ _ => ?_
  refine (answers_rejectIf _).bind fun _ _ => ?_
  refine (answers_get16 (by omega)).bind fun headerBytes _ => ?_
  refine (answers_rejectIf _).bind fun _ _ => ?_
  refine (answers_rejectIf _).bind fun _ _ => ?_
  refine (answers_get32 (by omega)).bind fun bodyBytes _ => ?_
  refine (answers_rejectIf _).bind fun _ _ => ?_
  have hheader := headerBytes.toNat_lt
  have hbody := bodyBytes.toNat_lt
  refine (answers_addSize (by omega)).bind fun declared _ => ?_
  refine (answers_rejectIf _).bind fun _ _ => ?_
  refine (answers_get16 (by omega)).bind fun _ _ => ?_
  refine (answers_rejectIf _).bind fun _ _ => ?_
  refine (answers_get8 (by omega)).bind fun _ _ => ?_
  refine (answers_get16 (by omega)).bind fun _ _ => ?_
  refine (answers_rejectIf _).bind fun _ _ => ?_
  refine .ok ?_
  rw [List.length_drop]
  omega

lemma answers_decodeEnvelope (data : Bytes) : Answers (decodeEnvelope data) fun _ => True := by
  refine (answers_rejectIf _).bind fun _ hmin => ?_
  simp only [kCoordEnvelopeBytes, Nat.not_lt] at hmin
  refine (answers_get16 (by omega)).bind fun typeRaw _ => ?_
  cases CoordType.ofRaw typeRaw with
  | none => exact .status _
  | some type =>
    obtain ⟨r, h, -⟩ | ⟨status, h⟩ := answers_openCoord data type
    · exact .inl ⟨r.1, by simp [h], trivial⟩
    · exact .inr ⟨status, by simp [h]⟩

lemma answers_checkFixedBody (bodySize fixed : ℕ) (minor : UInt8) :
    Answers (checkFixedBody bodySize fixed minor) fun _ => fixed ≤ bodySize := by
  refine (answers_rejectIf _).bind fun _ hmin => ?_
  obtain ⟨_, h, -⟩ | ⟨status, h⟩ :=
    answers_rejectIf (c := fixed < bodySize ∧ minor ≤ kVersionMinor) .malformedMessage
  · exact .inl ⟨(), h, Nat.not_lt.mp hmin⟩
  · exact .inr ⟨status, h⟩

lemma answers_readString {body : Bytes} {offset minLen maxLen : ℕ} (h : offset + 2 < 2 ^ 32) :
    Answers (readString body offset minLen maxLen) fun r => r.2 ≤ body.length := by
  refine (answers_addSize (by omega)).bind fun first hfirst => ?_
  refine (answers_rejectIf _).bind fun _ hroom => ?_
  refine (answers_getLe (by omega)).bind fun len hlen => ?_
  refine (answers_rejectIf _).bind fun _ _ => ?_
  refine (answers_addSize (by omega)).bind fun last hlast => ?_
  refine (answers_rejectIf _).bind fun _ hend => ?_
  refine (answers_getBytes (by omega)).bind fun value _ => ?_
  refine (answers_rejectIf _).bind fun _ _ => ?_
  exact .ok (Nat.not_lt.mp hend)

lemma answers_readBlob {body : Bytes} {offset minLen maxLen : ℕ} (h : offset + 4 < 2 ^ 32) :
    Answers (readBlob body offset minLen maxLen) fun r => r.2 ≤ body.length := by
  refine (answers_addSize (by omega)).bind fun first hfirst => ?_
  refine (answers_rejectIf _).bind fun _ hroom => ?_
  refine (answers_getLe (by omega)).bind fun len hlen => ?_
  refine (answers_rejectIf _).bind fun _ _ => ?_
  refine (answers_addSize (by omega)).bind fun last hlast => ?_
  refine (answers_rejectIf _).bind fun _ hend => ?_
  refine (answers_getBytes (by omega)).bind fun value _ => ?_
  exact .ok (Nat.not_lt.mp hend)

lemma answers_decodeOpen (data : Bytes) : Answers (decodeOpen data) fun _ => True := by
  refine (answers_openCoord data .open).bind fun r hbody => ?_
  obtain ⟨envelope, body⟩ := r
  refine (answers_rejectIf _).bind fun _ hsize => ?_
  simp only [kOpenFixedBytes, kMaxCoordMessageBytes, Nat.not_lt] at hsize hbody
  iterate 2 refine (answers_get8 (by omega)).bind fun _ _ => ?_
  refine (answers_get32 (by omega)).bind fun _ _ => ?_
  refine (answers_getId16 (by omega)).bind fun _ _ => ?_
  refine (answers_get64 (by omega)).bind fun _ _ => ?_
  iterate 5 refine (answers_get32 (by omega)).bind fun _ _ => ?_
  refine (answers_readString (by decide)).bind fun name hname => ?_
  refine (answers_readBlob (by omega)).bind fun address _ => ?_
  refine (answers_rejectIf _).bind fun _ _ => ?_
  exact (answers_rejectIf _).bind fun _ _ => .ok trivial

lemma answers_decodeOpenReply (data : Bytes) : Answers (decodeOpenReply data) fun _ => True := by
  refine (answers_openCoord data .openReply).bind fun r _ => ?_
  obtain ⟨envelope, body⟩ := r
  refine (answers_rejectIf _).bind fun _ hsize => ?_
  simp only [kOpenReplyFixedBytes, Nat.not_lt] at hsize
  refine (answers_get8 (by omega)).bind fun _ _ => ?_
  refine (answers_get16 (by omega)).bind fun _ _ => ?_
  refine (answers_get32 (by omega)).bind fun _ _ => ?_
  refine (answers_getId16 (by omega)).bind fun _ _ => ?_
  refine (answers_get64 (by omega)).bind fun _ _ => ?_
  iterate 3 refine (answers_get32 (by omega)).bind fun _ _ => ?_
  refine (answers_get64 (by omega)).bind fun _ _ => ?_
  refine (answers_getGeometry (by omega)).bind fun _ _ => ?_
  refine (answers_readBlob (by decide)).bind fun address _ => ?_
  exact (answers_rejectIf _).bind fun _ _ => .ok trivial

lemma answers_decodeRenew (data : Bytes) : Answers (decodeRenew data) fun _ => True := by
  refine (answers_openCoord data .renew).bind fun r _ => ?_
  obtain ⟨envelope, body⟩ := r
  refine (answers_checkFixedBody _ _ _).bind fun _ hsize => ?_
  simp only [kRenewBytes] at hsize
  refine (answers_getId16 (by omega)).bind fun _ _ => ?_
  iterate 2 refine (answers_get64 (by omega)).bind fun _ _ => ?_
  exact (answers_get32 (by omega)).bind fun _ _ => .ok trivial

lemma answers_decodeRenewReply (data : Bytes) : Answers (decodeRenewReply data) fun _ => True := by
  refine (answers_openCoord data .renewReply).bind fun r _ => ?_
  obtain ⟨envelope, body⟩ := r
  refine (answers_checkFixedBody _ _ _).bind fun _ hsize => ?_
  simp only [kRenewReplyBytes] at hsize
  refine (answers_getId16 (by omega)).bind fun _ _ => ?_
  refine (answers_get16 (by omega)).bind fun _ _ => ?_
  iterate 3 refine (answers_get32 (by omega)).bind fun _ _ => ?_
  exact (answers_getGeometry (by omega)).bind fun _ _ => .ok trivial

lemma answers_decodeClose (data : Bytes) : Answers (decodeClose data) fun _ => True := by
  refine (answers_openCoord data .close).bind fun r _ => ?_
  obtain ⟨envelope, body⟩ := r
  refine (answers_checkFixedBody _ _ _).bind fun _ hsize => ?_
  simp only [kCloseBytes] at hsize
  refine (answers_getId16 (by omega)).bind fun _ _ => ?_
  exact (answers_get32 (by omega)).bind fun _ _ => .ok trivial

lemma answers_decodeCloseReply (data : Bytes) : Answers (decodeCloseReply data) fun _ => True := by
  refine (answers_openCoord data .closeReply).bind fun r _ => ?_
  obtain ⟨envelope, body⟩ := r
  refine (answers_checkFixedBody _ _ _).bind fun _ hsize => ?_
  simp only [kCloseReplyBytes] at hsize
  refine (answers_getId16 (by omega)).bind fun _ _ => ?_
  refine (answers_get16 (by omega)).bind fun _ _ => ?_
  exact (answers_get32 (by omega)).bind fun _ _ => .ok trivial

lemma answers_decodeError (data : Bytes) : Answers (decodeError data) fun _ => True := by
  refine (answers_openCoord data .error).bind fun r _ => ?_
  obtain ⟨envelope, body⟩ := r
  refine (answers_rejectIf _).bind fun _ hsize => ?_
  simp only [kErrorFixedBytes, Nat.not_lt] at hsize
  refine (answers_get16 (by omega)).bind fun _ _ => ?_
  refine (answers_readString (by decide)).bind fun message _ => ?_
  exact (answers_rejectIf _).bind fun _ _ => .ok trivial

/-- Whatever the bytes, each decoder returns a value or a status: no read is outside the input
and no sum of offsets wraps. -/
theorem decoders_stay_inside (data : Bytes) :
    Answers (decodeEnvelope data) (fun _ => True) ∧
    Answers (decodeDataPrefix data) (fun _ => True) ∧
    Answers (decodeOpen data) (fun _ => True) ∧
    Answers (decodeOpenReply data) (fun _ => True) ∧
    Answers (decodeRenew data) (fun _ => True) ∧
    Answers (decodeRenewReply data) (fun _ => True) ∧
    Answers (decodeClose data) (fun _ => True) ∧
    Answers (decodeCloseReply data) (fun _ => True) ∧
    Answers (decodeError data) (fun _ => True) ∧
    Answers (decodeFrame data) (fun _ => True) ∧
    Answers (decodeCredit data) (fun _ => True) ∧
    Answers (decodeProbe data) (fun _ => True) ∧
    Answers (decodeProbeAck data) (fun _ => True) :=
  ⟨answers_decodeEnvelope data, answers_decodeDataPrefix data, answers_decodeOpen data,
    answers_decodeOpenReply data, answers_decodeRenew data, answers_decodeRenewReply data,
    answers_decodeClose data, answers_decodeCloseReply data, answers_decodeError data,
    answers_decodeFrame data, answers_decodePair rfl data, answers_decodePair rfl data,
    answers_decodePair rfl data⟩

end TangoBulk
