import TangoBulk.ProtocolCoord

/-! What a decoder accepts, as the fields its input holds: a read at an offset succeeds with the
value whose encoding is there, and a message decodes to the one value whose fields its body
carries. -/
namespace TangoBulk

open ByteString

/-! ### Numbers and enumerations -/

section Reads

variable {b : Bytes} {off : ℕ}

lemma getId16_eq_ok {id : Id16} : getId16 b off = .ok id ↔ Holds b (putId16 off id) := by
  obtain ⟨bytes, hsize⟩ := id
  rw [Holds, putId16, hsize]
  unfold getId16
  split_ifs with hin
  all_goals simp [hin]

lemma getBytes_eq_ok {n : ℕ} {v : Bytes} :
    getBytes b off n = .ok v ↔ off + n ≤ b.length ∧ window b off n = v := by
  unfold getBytes
  split_ifs with hin
  all_goals simp [hin]

end Reads

lemma getGeometry_eq_ok {b : Bytes} {off : ℕ} {g : GeometryBlock} :
    getGeometry b off = .ok g ↔ Carries b (putGeometry off g) := by
  simp only [getGeometry, bind_eq_ok, get32_eq_ok, get64_eq_ok, getDims_eq_ok, putGeometry,
    List.cons_append, List.nil_append, carries_cons, carries_append]
  constructor
  · rintro ⟨_, h0, _, h4, _, h8, _, h12, _, h16, _, h24, _, h28, _, h32, _, h64, hmade⟩
    cases hmade
    exact ⟨h0, by rwa [ElementType.toRaw_ofRaw], h8, h12, h16, h24, h28, h32, h64⟩
  · rintro ⟨h0, h4, h8, h12, h16, h24, h28, h32, h64⟩
    refine ⟨_, h0, _, h4, _, h8, _, h12, _, h16, _, h24, _, h28, _, h32, _, h64, ?_⟩
    rw [ElementType.ofRaw_toRaw]
    rfl

/-! ### The tail -/

section Tail

variable {b value : Bytes} {off minLen maxLen next : ℕ}

lemma addSize_eq_ok {x y z : ℕ} : addSize x y = .ok z ↔ x + y < 2 ^ 64 ∧ x + y = z := by
  unfold addSize addOverflow
  split_ifs with h
  · simp only [Except.ok.injEq, h, true_and]
  · simp only [h, false_and]

lemma counted_eq_ok {width : ℕ} (hb : b.length < 2 ^ 64) (hmax : maxLen < 256 ^ width) :
    (∃ first, addSize off width = .ok first ∧ ¬ b.length < first ∧
      ∃ len, getLe b off width = .ok len ∧ ¬ (len < minLen ∨ maxLen < len) ∧
        ∃ last, addSize first len = .ok last ∧ ¬ b.length < last ∧
          getBytes b first len = .ok value ∧ next = last) ↔
      minLen ≤ value.length ∧ value.length ≤ maxLen ∧ next = off + width + value.length ∧
        Holds b (off, leBytes width value.length ++ value) := by
  simp only [addSize_eq_ok, getBytes_eq_ok, holds_append_iff, leBytes_length]
  constructor
  · rintro ⟨_, ⟨-, rfl⟩, -, len, hlen, hrange, _, ⟨-, rfl⟩, -, ⟨hin, hread⟩, rfl⟩
    obtain rfl : value.length = len := by rw [← hread, window_length hin]
    rw [getLe_holds (by omega)] at hlen
    exact ⟨by omega, by omega, rfl, hlen, hin, hread⟩
  · rintro ⟨hmin, hle, rfl, hlen, hin, hread⟩
    dsimp only at hin
    refine ⟨_, ⟨by omega, rfl⟩, by omega, _, (getLe_holds (by omega)).mpr hlen, by omega, _,
      ⟨by omega, rfl⟩, by omega, ⟨hin, hread⟩, rfl⟩

lemma readString_eq_ok (hb : b.length < 2 ^ 64) (hmax : maxLen < 256 ^ 2) :
    readString b off minLen maxLen = .ok (value, next) ↔
      0 ∉ value ∧ minLen ≤ value.length ∧ value.length ≤ maxLen ∧
        next = off + 2 + value.length ∧ Holds b (off, putStringField value) := by
  rw [putStringField, ← counted_eq_ok hb hmax]
  simp only [readString, bind_eq_ok, rejectIf_eq_ok, exists_const]
  constructor
  · rintro ⟨first, hfirst, hin, len, hlen, hrange, last, hlast, hend, _, hread, hzero, hmade⟩
    cases hmade
    exact ⟨hzero, first, hfirst, hin, len, hlen, hrange, _, hlast, hend, hread, rfl⟩
  · rintro ⟨hzero, first, hfirst, hin, len, hlen, hrange, last, hlast, hend, hread, rfl⟩
    exact ⟨first, hfirst, hin, len, hlen, hrange, next, hlast, hend, value, hread, hzero, rfl⟩

lemma readBlob_eq_ok (hb : b.length < 2 ^ 64) (hmax : maxLen < 256 ^ 4) :
    readBlob b off minLen maxLen = .ok (value, next) ↔
      minLen ≤ value.length ∧ value.length ≤ maxLen ∧
        next = off + 4 + value.length ∧ Holds b (off, putBlobField value) := by
  rw [putBlobField, ← counted_eq_ok hb hmax]
  simp only [readBlob, bind_eq_ok, rejectIf_eq_ok, exists_const]
  constructor
  · rintro ⟨first, hfirst, hin, len, hlen, hrange, last, hlast, hend, _, hread, hmade⟩
    cases hmade
    exact ⟨first, hfirst, hin, len, hlen, hrange, _, hlast, hend, hread, rfl⟩
  · rintro ⟨first, hfirst, hin, len, hlen, hrange, last, hlast, hend, hread, rfl⟩
    exact ⟨first, hfirst, hin, len, hlen, hrange, next, hlast, hend, value, hread, rfl⟩

end Tail

/-! ### The envelope -/

lemma CoordType.ofRaw_eq_some {raw : UInt16} {type : CoordType} :
    CoordType.ofRaw raw = some type ↔ raw = type.toRaw := by
  constructor
  · intro h
    have hfound := List.find?_some h
    exact (of_decide_eq_true hfound).symm
  · rintro rfl
    exact CoordType.ofRaw_toRaw type

/-- The fields an envelope is read from. -/
def Envelope.fields (envelope : Envelope) : List (ℕ × Bytes) :=
  [put32 0 kCoordMagic, put8 4 envelope.versionMajor, put8 5 envelope.versionMinor,
    put16 6 envelope.headerBytes, put16 8 envelope.msgType.toRaw, put16 10 envelope.flags,
    put32 12 envelope.bodyBytes, put64 16 envelope.correlationId]

/-- The message has this envelope, and this body behind it. -/
structure Framed (data : Bytes) (envelope : Envelope) (body : Bytes) : Prop where
  size : data.length ≤ kMaxCoordMessageBytes
  fields : Carries data envelope.fields
  version : envelope.versionMajor = kVersionMajor
  header : kCoordEnvelopeBytes ≤ envelope.headerBytes.toNat
  bounded : envelope.bodyBytes.toNat ≤ kMaxCoordBodyBytes
  exact : data.length = envelope.headerBytes.toNat + envelope.bodyBytes.toNat
  behind : body = data.drop envelope.headerBytes.toNat

lemma openCoord_eq_ok {data body : Bytes} {type : CoordType} {envelope : Envelope} :
    openCoord data type = .ok (envelope, body) ↔
      envelope.msgType = type ∧ Framed data envelope body := by
  simp only [openCoord, bind_eq_ok, rejectIf_eq_ok, exists_const, get8_eq_ok, get16_eq_ok,
    get32_eq_ok, get64_eq_ok, addSize_eq_ok, not_not, not_lt]
  constructor
  · rintro ⟨hlong, hsize, correlation, h16, magic, h0, rfl, major, h4, rfl, header, h6, hheader,
      hin, bodyBytes, h12, hbounded, _, ⟨-, rfl⟩, hexact, raw, h8, -, minor, h5, flags, h10, htype,
      hmade⟩
    cases hmade
    rw [CoordType.ofRaw_eq_some] at htype
    subst htype
    refine ⟨rfl, hsize, ?_, rfl, hheader, hbounded, hexact, rfl⟩
    simp [Envelope.fields, h0, h4, h5, h6, h8, h10, h12, h16]
  · rintro ⟨rfl, hsize, hfields, hversion, hheader, hbounded, hexact, rfl⟩
    obtain ⟨major, minor, header, type, flags, bodyBytes, correlation⟩ := envelope
    dsimp only at hversion hheader hbounded hexact ⊢
    subst hversion
    simp only [Envelope.fields, carries_cons, carries_nil, and_true] at hfields
    obtain ⟨h0, h4, h5, h6, h8, h10, h12, h16⟩ := hfields
    simp only [kCoordEnvelopeBytes, kMaxCoordMessageBytes] at hheader hsize ⊢
    refine ⟨by omega, hsize, _, h16, _, h0, rfl, _, h4, rfl, _, h6, hheader, by omega, _, h12,
      hbounded, _, ⟨by omega, rfl⟩, hexact, _, h8, by simp, _, h5, _, h10, by simp, rfl⟩

section Framed

variable {data body : Bytes} {envelope : Envelope}

lemma Framed.body_length (h : Framed data envelope body) :
    body.length = envelope.bodyBytes.toNat := by
  rw [h.behind, List.length_drop, h.exact, Nat.add_sub_cancel_left]

lemma Framed.body_small (h : Framed data envelope body) : body.length < 2 ^ 64 := by
  rw [h.body_length]
  exact lt_of_le_of_lt h.bounded (by decide)

lemma Framed.long (h : Framed data envelope body) : 32 ≤ data.length := by
  have hheader := h.header
  simp only [kCoordEnvelopeBytes] at hheader
  rw [h.exact]
  omega

lemma Framed.header_value (h : Framed data envelope body) :
    leValue (window data 6 2) = envelope.headerBytes.toNat := by
  have hheld : Holds data (put16 6 envelope.headerBytes) :=
    h.fields _ (by simp [Envelope.fields])
  exact (getLe_eq_ok.mp ((getLe_holds (by simpa using envelope.headerBytes.toNat_lt)).mpr hheld)).2

lemma Framed.body_value (h : Framed data envelope body) :
    leValue (window data 12 4) = envelope.bodyBytes.toNat := by
  have hheld : Holds data (put32 12 envelope.bodyBytes) :=
    h.fields _ (by simp [Envelope.fields])
  exact (getLe_eq_ok.mp ((getLe_holds (by simpa using envelope.bodyBytes.toNat_lt)).mpr hheld)).2

end Framed

end TangoBulk
