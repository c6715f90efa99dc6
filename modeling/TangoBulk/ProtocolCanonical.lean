import TangoBulk.ProtocolRoundTrip

/-! The converse of the round trip: what a coordination decoder accepts can be encoded again, and
where it uses no room for extension the encoding is the accepted message. -/
namespace TangoBulk

open ByteString

namespace CoordMessage

variable {m : CoordMessage} {correlationId : UInt64}

lemma encode_unaddressed (h : m.Bounded) (hbare : m.Unaddressed) (data : Bytes) :
    m.encode correlationId ≠ .ok data := by
  cases m with
  | openReply msg =>
    have hreply : msg.status = .ok ∧ msg.serverUcxAddress = [] := hbare
    rw [encode, encodeOpenReply, if_neg (Nat.not_lt.mpr h), if_pos hreply]
    simp [encodeFailure]
  | _ => exact hbare.elim

end CoordMessage

/-! ### Messages without extensions -/

/-- The message is of minor version 0 with an envelope of 32 bytes, and its flags and reserved
fields are zero. -/
structure Plain (data : Bytes) (type : CoordType) : Prop where
  minor : Holds data (put8 5 0)
  header : Holds data (put16 6 32)
  flags : Holds data (put16 10 0)
  envelope : Holds data (put64 24 0)
  body : ∀ r ∈ type.reserved, Holds data (32 + r.1, List.replicate r.2 0)

lemma fields_reserved (m : CoordMessage) :
    m.fields.filter (fun f => f.1 ∈ m.type.reserved.map Prod.fst) =
      m.type.reserved.map fun r => (r.1, List.replicate r.2 0) := by
  cases m <;> rfl

variable {data body : Bytes} {envelope : Envelope}

lemma Plain.carries_fields {m : CoordMessage} {minor : UInt8} (h : Plain data m.type)
    (hlong : 32 ≤ data.length) (hbody : body = data.drop 32) (hread : m.ReadFrom minor body) :
    Carries body m.fields := by
  intro f hf
  by_cases hreserved : f.1 ∈ m.type.reserved.map Prod.fst
  · have hmem : f ∈ m.fields.filter fun f => f.1 ∈ m.type.reserved.map Prod.fst :=
      List.mem_filter.mpr ⟨hf, decide_eq_true hreserved⟩
    rw [fields_reserved] at hmem
    obtain ⟨r, hr, rfl⟩ := List.mem_map.mp hmem
    rw [hbody, holds_drop_iff hlong]
    exact h.body r hr
  · exact hread.carries f (List.mem_filter.mpr ⟨hf, decide_eq_true hreserved⟩)

lemma Plain.body_eq {m : CoordMessage} {minor : UInt8} (h : Plain data m.type)
    (hlong : 32 ≤ data.length) (hbody : body = data.drop 32) (hread : m.ReadFrom minor body)
    (hminor : minor = 0) : fill m.type.fixedBytes m.fields ++ m.tail = body := by
  have htail : body.drop m.type.fixedBytes = m.tail := by
    have hrest := hread.rest
    split_ifs at hrest with htailed
    · exact hrest
    · have hnone : m.tail = [] := by
        cases m <;> first | rfl | exact absurd rfl htailed
      rw [hnone, List.drop_of_length_le (hrest (by rw [hminor]; decide)).le]
  rw [fill_eq_take m.fields_tile (h.carries_fields hlong hbody hread), ← htail, List.take_append_drop]

lemma Plain.header_eq {type : CoordType} (h : Plain data type)
    (hframed : Framed data envelope body) :
    envelope.versionMinor = 0 ∧ envelope.headerBytes = 32 := by
  have hfields := hframed.fields
  simp only [Envelope.fields, carries_cons, carries_nil, and_true, ← get8_eq_ok, ← get16_eq_ok]
    at hfields
  obtain ⟨-, -, h5, h6, -⟩ := hfields
  have hminor := get8_eq_ok.mpr h.minor
  have hheader := get16_eq_ok.mpr h.header
  rw [h5, Except.ok.injEq] at hminor
  rw [h6, Except.ok.injEq] at hheader
  exact ⟨hminor, hheader⟩

lemma Plain.made (h : Plain data envelope.msgType) (hframed : Framed data envelope body) :
    makeMessage envelope.msgType envelope.correlationId body = .ok data := by
  obtain ⟨-, hheader⟩ := h.header_eq hframed
  have hlen := hframed.body_length
  have hcount : UInt32.ofNat body.length = envelope.bodyBytes := by
    rw [hlen, UInt32.ofNat_toNat]
  have hbehind : body = data.drop kCoordEnvelopeBytes := by
    rw [hframed.behind, hheader]
    rfl
  have hfields := hframed.fields
  simp only [Envelope.fields, carries_cons, carries_nil, and_true] at hfields
  obtain ⟨h0, h4, -, -, h8, -, h12, h16⟩ := hfields
  rw [hframed.version] at h4
  rw [← hcount] at h12
  have hcarries : Carries data
      (putEnvelope envelope.msgType envelope.correlationId body.length) := by
    simp only [putEnvelope, carries_cons, carries_nil, and_true]
    exact ⟨h0, h4, h.minor, h.header, h8, h.flags, h12, h16, h.envelope⟩
  rw [makeMessage_ok, fill_eq_take (envelope_tiles _ _ _) hcarries]
  refine ⟨hlen ▸ hframed.bounded, ?_⟩
  conv_rhs => rw [hbehind]
  exact (List.take_append_drop _ _).symm

/-! ### Encoding again -/

/-- The status and the address length of an OpenReply are both zero in the message. -/
def AddressMissing (data : Bytes) : Prop :=
  let header := leValue (window data 6 2)
  window data (header + 2) 2 = [0, 0] ∧ window data (header + kOpenReplyFixedBytes) 4 = [0, 0, 0, 0]

lemma status_ok_iff {status : Status} : status = .ok ↔ leBytes 2 status.toRaw.toNat = [0, 0] := by
  constructor
  · rintro rfl
    rfl
  · intro h
    have hraw : status.toRaw.toNat = 0 :=
      leBytes_inj (by simpa using status.toRaw.toNat_lt) (by decide) (h.trans (by decide))
    rw [← Status.ofRaw_toRaw status, UInt16.toNat_inj.mp (hraw.trans UInt16.toNat_zero.symm)]
    rfl

lemma address_empty_iff {address : Bytes} (h : address.length ≤ kMaxUcxAddressBytes) :
    address = [] ↔ leBytes 4 address.length = [0, 0, 0, 0] := by
  constructor
  · rintro rfl
    rfl
  · intro hzero
    simp only [kMaxUcxAddressBytes] at h
    have hsame : leBytes 4 address.length = leBytes 4 0 := hzero
    exact List.length_eq_zero_iff.mp (leBytes_inj (by omega) (by decide) hsame)

lemma unaddressed_iff {m : CoordMessage} (hframed : Framed data envelope body)
    (hread : m.ReadFrom envelope.versionMinor body) :
    m.Unaddressed ↔ m.type = .openReply ∧ AddressMissing data := by
  cases m with
  | openReply msg =>
    have hin : envelope.headerBytes.toNat ≤ data.length := by rw [hframed.exact]; omega
    have hheader := hframed.header_value
    have hstatus : window data (envelope.headerBytes.toNat + 2) 2 =
        leBytes 2 msg.status.toRaw.toNat := by
      have hheld : Holds body (put16 2 msg.status.toRaw) :=
        hread.carries _ (by simp [known_openReply])
      rw [hframed.behind, put16, holds_drop_iff hin] at hheld
      simpa using hheld.2
    have haddress : window data (envelope.headerBytes.toNat + kOpenReplyFixedBytes) 4 =
        leBytes 4 msg.serverUcxAddress.length := by
      have hheld := (holds_end_iff.mpr ⟨hread.long, hread.rest⟩).1
      have hcount : Holds body (kOpenReplyFixedBytes, leBytes 4 msg.serverUcxAddress.length) :=
        (holds_append_iff.mp hheld).1
      rw [hframed.behind, holds_drop_iff hin] at hcount
      simpa using hcount.2
    simp only [CoordMessage.Unaddressed, CoordMessage.type, true_and, AddressMissing, hheader,
      hstatus, haddress, status_ok_iff, address_empty_iff hread.bounded]
  | _ => simp [CoordMessage.Unaddressed, CoordMessage.type]

/-- A message that a decoder accepts is encoded again, to the same bytes if it is plain, unless it
is a successful OpenReply without an address. -/
theorem accepted_reencodes (data : Bytes) (type : CoordType) (m : CoordMessage)
    (envelope : Envelope) (h : CoordMessage.decode data type = .ok (m, envelope)) :
    (∃ again, m.encode envelope.correlationId = .ok again ∧
      (∃ envelope', CoordMessage.decode again type = .ok (m, envelope') ∧
        envelope'.correlationId = envelope.correlationId) ∧
      (Plain data type → again = data)) ↔
    ¬ (type = .openReply ∧ AddressMissing data) := by
  obtain ⟨rfl, body, hopen, hread⟩ := CoordMessage.decode_eq_ok.mp h
  obtain ⟨htype, hframed⟩ := openCoord_eq_ok.mp hopen
  rw [← unaddressed_iff hframed hread]
  constructor
  · rintro ⟨again, hencode, -⟩ hbare
    exact CoordMessage.encode_unaddressed hread.bounded hbare again hencode
  · intro haddressed
    obtain ⟨again, hencode, hmade⟩ :=
      CoordMessage.encodes hread.bounded haddressed envelope.correlationId
    refine ⟨again, hencode, CoordMessage.decode_made hread.bounded hmade, fun hplain => ?_⟩
    obtain ⟨hminor, hheader⟩ := hplain.header_eq hframed
    have hbehind : body = data.drop 32 := by
      rw [hframed.behind, hheader]
      rfl
    have hbody := hplain.body_eq hframed.long hbehind hread hminor
    rw [hbody, ← htype] at hmade
    rw [← htype] at hplain
    exact Except.ok.inj (hmade.symm.trans (hplain.made hframed))

/-- A grant, as its encoder makes it. -/
def imageReplyBytes : Bytes := ((CoordMessage.openReply imageReply).encode 7).toOption.getD []

theorem accepted_reencodes_grant :
    Plain imageReplyBytes .openReply ∧
      (CoordMessage.openReply imageReply).encode 7 = .ok imageReplyBytes := by
  have hplain : Plain imageReplyBytes .openReply := by
    constructor
    all_goals decide +kernel
  have haddressed : ¬ (CoordType.openReply = .openReply ∧ AddressMissing imageReplyBytes) := by
    unfold AddressMissing
    decide +kernel
  obtain ⟨again, hencode, -, hsame⟩ :=
    (accepted_reencodes imageReplyBytes .openReply (.openReply imageReply)
      (madeEnvelope .openReply 7 159) (by decide +kernel)).mpr haddressed
  rw [hsame hplain] at hencode
  exact ⟨hplain, hencode⟩

/-- A grant that forgets the server's address. -/
def bareReply : OpenReply where
  versionSelected := 1
  status := .ok
  grantedCaps := 0
  sessionId := .zero
  streamId := 1
  leaseTtlMs := 1000
  renewIntervalMs := 100
  transportSelected := .any
  serverEpochId := 1
  geometry :=
    { generation := 1, elementType := .uInt8, elementSize := 1, rank := 0, maxFrameBytes := 4096,
      ringDepth := 2, creditWindow := 1, shape := Dims.zero, strides := Dims.zero }
  serverUcxAddress := []

def bareReplyBody : Bytes :=
  fill kOpenReplyFixedBytes (openReplyFields bareReply) ++ putBlobField []

def bareReplyBytes : Bytes :=
  fill kCoordEnvelopeBytes (putEnvelope .openReply 7 bareReplyBody.length) ++ bareReplyBody

/-- The decoder takes a successful OpenReply without an address, the encoder throws on it. -/
theorem bare_reply_accepted :
    CoordMessage.decode bareReplyBytes .openReply =
        .ok (.openReply bareReply, madeEnvelope .openReply 7 bareReplyBody.length) ∧
      (CoordMessage.openReply bareReply).encode 7 =
        .error { status := .malformedMessage,
                 message := "a successful OpenReply must carry server_ucx_address",
                 origin := "protocol" } := by
  have hbounded : (CoordMessage.openReply bareReply).Bounded := Nat.zero_le _
  have hmade : makeMessage .openReply 7 bareReplyBody = .ok bareReplyBytes :=
    makeMessage_ok.mpr ⟨CoordMessage.made_length hbounded, rfl⟩
  refine ⟨CoordMessage.decode_eq_ok.mpr ⟨rfl, _, openCoord_makeMessage hmade, ?_⟩, by decide⟩
  exact CoordMessage.readFrom_made hbounded

end TangoBulk
