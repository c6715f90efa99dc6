import TangoBulk.ProtocolReading

/-! What a message that opens is known to be: its envelope is the one `decode_envelope` reads,
whatever type it was opened as. -/
namespace TangoBulk

open ByteString

/-- A message that opens is long enough for the envelope, names the type it was opened as, and
carries the correlation identifier of its envelope. -/
structure Opened (data : Bytes) (type : CoordType) (envelope : Envelope) : Prop where
  size : kCoordEnvelopeBytes ≤ data.length
  typed : ∃ raw, get16 data 8 = .ok raw ∧ CoordType.ofRaw raw = some type
  correlated : get64 data 16 = .ok envelope.correlationId
  msgType : envelope.msgType = type

variable {data : Bytes} {envelope : Envelope}

lemma openCoord_opened {body : Bytes} {type : CoordType}
    (h : openCoord data type = .ok (envelope, body)) : Opened data type envelope := by
  obtain ⟨htype, hframed⟩ := openCoord_eq_ok.mp h
  have hfields := hframed.fields
  simp only [Envelope.fields, carries_cons, ← get16_eq_ok, ← get64_eq_ok] at hfields
  obtain ⟨-, -, -, -, h8, -, -, h16, -⟩ := hfields
  exact ⟨hframed.long, ⟨_, h8, by simp [htype]⟩, h16, htype⟩

lemma decodeEnvelope_iff :
    decodeEnvelope data = .ok envelope ↔
      ∃ body, openCoord data envelope.msgType = .ok (envelope, body) := by
  constructor
  · intro h
    simp only [decodeEnvelope, bind_eq_ok, rejectIf_eq_ok, exists_const] at h
    obtain ⟨-, raw, -, hmatch⟩ := h
    cases htype : CoordType.ofRaw raw with
    | none =>
      rw [htype] at hmatch
      cases hmatch
    | some type =>
      rw [htype] at hmatch
      dsimp only at hmatch
      cases hopen : openCoord data type with
      | error =>
        rw [hopen] at hmatch
        cases hmatch
      | ok opened =>
        rw [hopen] at hmatch
        obtain ⟨envelope', body⟩ := opened
        obtain rfl : envelope' = envelope := Except.ok.inj hmatch
        have hsame := (openCoord_opened hopen).msgType
        exact ⟨body, by rw [hsame]; exact hopen⟩
  · rintro ⟨body, hopen⟩
    have hopened := openCoord_opened hopen
    obtain ⟨raw, hraw, htype⟩ := hopened.typed
    simp only [decodeEnvelope, bind_eq_ok, rejectIf_eq_ok, exists_const]
    refine ⟨not_lt.mpr hopened.size, raw, hraw, ?_⟩
    rw [htype]
    dsimp only
    rw [hopen]
    rfl

lemma decodeEnvelope_of_openCoord {body : Bytes} {type : CoordType}
    (h : openCoord data type = .ok (envelope, body)) :
    decodeEnvelope data = .ok envelope ∧ envelope.msgType = type := by
  have hsame := (openCoord_opened h).msgType
  exact ⟨decodeEnvelope_iff.mpr ⟨body, by rw [hsame]; exact h⟩, hsame⟩

lemma decodeOpenReply_envelope {data : Bytes} {msg : OpenReply} {envelope : Envelope}
    (h : decodeOpenReply data = .ok (msg, envelope)) :
    decodeEnvelope data = .ok envelope ∧ envelope.msgType = .openReply := by
  obtain ⟨_, hopen, -⟩ := decodeOpenReply_eq_ok.mp h
  exact decodeEnvelope_of_openCoord hopen

lemma decodeError_envelope {msg : ErrorMessage} (h : decodeError data = .ok (msg, envelope)) :
    decodeEnvelope data = .ok envelope ∧ envelope.msgType = .error := by
  obtain ⟨_, hopen, -⟩ := decodeError_eq_ok.mp h
  exact decodeEnvelope_of_openCoord hopen

lemma decodeOpen_envelope {msg : OpenRequest} (h : decodeOpen data = .ok (msg, envelope)) :
    decodeEnvelope data = .ok envelope ∧ envelope.msgType = .open := by
  obtain ⟨_, hopen, -⟩ := decodeOpen_eq_ok.mp h
  exact decodeEnvelope_of_openCoord hopen

lemma decodeRenew_envelope {msg : RenewRequest} (h : decodeRenew data = .ok (msg, envelope)) :
    decodeEnvelope data = .ok envelope ∧ envelope.msgType = .renew := by
  obtain ⟨_, hopen, -⟩ := decodeRenew_eq_ok.mp h
  exact decodeEnvelope_of_openCoord hopen

lemma decodeClose_envelope {msg : CloseRequest} (h : decodeClose data = .ok (msg, envelope)) :
    decodeEnvelope data = .ok envelope ∧ envelope.msgType = .close := by
  obtain ⟨_, hopen, -⟩ := decodeClose_eq_ok.mp h
  exact decodeEnvelope_of_openCoord hopen

end TangoBulk
