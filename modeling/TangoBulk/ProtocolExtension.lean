import TangoBulk.ProtocolCanonical
import TangoBulk.ProtocolDataPlane

/-! Extension by a newer minor version: what may be added to a message, and what may be changed in
it, without another value coming out of its decoder. -/
namespace TangoBulk

open ByteString

/-! ### Extended messages -/

/-- Bytes inserted behind the 32 known ones of the envelope, with `header_bytes` raised. -/
def extendEnvelope (data extra : Bytes) : Bytes :=
  patch (data.take 32 ++ extra ++ data.drop 32) 6
    (leBytes 2 (leValue (window data 6 2) + extra.length))

/-- Bytes appended to the body, with `body_bytes` adjusted. -/
def appendBody (data extra : Bytes) : Bytes :=
  patch (data ++ extra) 12 (leBytes 4 (leValue (window data 12 4) + extra.length))

/-- The ranges of a coordination message that are written as zero and ignored: the flags, the end
of the envelope and the reserved fields of the body. -/
def CoordType.free (type : CoordType) (header : ℕ) : List (ℕ × ℕ) :=
  [(10, 2), (24, 8)] ++ type.reserved.map fun r => (header + r.1, r.2)

/-- The ranges of a message of the data plane that its decoder ignores: the minor version, the
flags, and the reserved field of a frame. -/
def DataType.free : DataType → List (ℕ × ℕ)
  | .frame => [(5, 1), (10, 2), (152, 8)]
  | _ => [(5, 1), (10, 2)]

/-! ### The extended envelope -/

section Extended

variable {data extra : Bytes}

lemma extendEnvelope_room (h : 32 ≤ data.length) (xs : Bytes) (hxs : xs.length = 2) :
    6 + xs.length ≤ (data.take 32 ++ extra ++ data.drop 32).length := by
  simp
  omega

lemma extendEnvelope_length (h : 32 ≤ data.length) :
    (extendEnvelope data extra).length = data.length + extra.length := by
  rw [extendEnvelope, patch_length (extendEnvelope_room h _ (leBytes_length _ _))]
  simp
  omega

lemma extendEnvelope_drop (h : 32 ≤ data.length) {header : ℕ} (hheader : 32 ≤ header) :
    (extendEnvelope data extra).drop (header + extra.length) = data.drop header := by
  have hhead : (data.take 32 ++ extra).length = 32 + extra.length := by
    simp
    omega
  rw [extendEnvelope, drop_patch_above (by rw [leBytes_length]; omega)
    (extendEnvelope_room h _ (leBytes_length _ _))]
  obtain ⟨k, rfl⟩ := Nat.exists_eq_add_of_le hheader
  rw [Nat.add_right_comm, ← List.drop_drop, List.drop_left' hhead, List.drop_drop]

lemma holds_extendEnvelope {f : ℕ × Bytes} (hf : Holds data f) (h : 32 ≤ data.length)
    (hin : f.1 + f.2.length ≤ 32) (hd : disjointFrom (6, 2) (f.1, f.2.length) = true) :
    Holds (extendEnvelope data extra) f := by
  have hhead : Holds (data.take 32) f := by
    rw [← List.take_append_drop 32 data] at hf
    exact hf.of_append (by simp; omega)
  have hmid := (hhead.append extra).append (data.drop 32)
  exact hmid.patch (extendEnvelope_room h _ (leBytes_length _ _)) (by rwa [leBytes_length])

end Extended

section Framed

variable {data body : Bytes} {envelope : Envelope}

lemma Framed.extend (h : Framed data envelope body) (hbody : body ≠ []) {extra : Bytes}
    (hsize : data.length + extra.length ≤ kMaxCoordMessageBytes) :
    Framed (extendEnvelope data extra)
      { envelope with
        headerBytes := UInt16.ofNat (envelope.headerBytes.toNat + extra.length) } body := by
  have hlong := h.long
  have hexact := h.exact
  have hheader := h.header
  have hpos : 0 < body.length := List.length_pos_iff.mpr hbody
  rw [h.body_length] at hpos
  have hlen : (extendEnvelope data extra).length = data.length + extra.length :=
    extendEnvelope_length hlong
  -- a body follows, so the raised header still fits its 16 bits
  have hnew : (UInt16.ofNat (envelope.headerBytes.toNat + extra.length)).toNat =
      envelope.headerBytes.toNat + extra.length := by
    apply UInt16.toNat_ofNat_of_lt'
    simp only [kMaxCoordMessageBytes] at hsize
    simp only [UInt16.size]
    omega
  have h6 : Holds (extendEnvelope data extra)
      (put16 6 (UInt16.ofNat (envelope.headerBytes.toNat + extra.length))) := by
    rw [put16, hnew, ← h.header_value]
    exact holds_patch_self (extendEnvelope_room hlong _ (leBytes_length _ _))
  have hfields := h.fields
  simp only [Envelope.fields, carries_cons, carries_nil, and_true] at hfields
  obtain ⟨h0, h4, h5, -, h8, h10, h12, h16⟩ := hfields
  refine ⟨by rw [hlen]; exact hsize, ?_, h.version, ?_, h.bounded, ?_, ?_⟩
  · simp only [Envelope.fields, carries_cons, carries_nil, and_true]
    exact ⟨holds_extendEnvelope h0 hlong (by simp [put32]) rfl,
      holds_extendEnvelope h4 hlong (by simp [put8]) rfl,
      holds_extendEnvelope h5 hlong (by simp [put8]) rfl, h6,
      holds_extendEnvelope h8 hlong (by simp [put16]) rfl,
      holds_extendEnvelope h10 hlong (by simp [put16]) rfl,
      holds_extendEnvelope h12 hlong (by simp [put32]) rfl,
      holds_extendEnvelope h16 hlong (by simp [put64]) rfl⟩
  · rw [hnew]
    omega
  · dsimp only
    rw [hnew, hlen]
    omega
  · rw [hnew, extendEnvelope_drop hlong hheader]
    exact h.behind

lemma Framed.agree {other : Bytes} (h : Framed data envelope body)
    (hagree : Agree (envelope.msgType.free envelope.headerBytes.toNat) data other) :
    ∃ flags, Framed other { envelope with flags }
      (other.drop envelope.headerBytes.toNat) ∧
      Agree envelope.msgType.reserved body (other.drop envelope.headerBytes.toNat) := by
  have hlong := h.long
  have hheader := h.header
  simp only [kCoordEnvelopeBytes] at hheader
  have hlen := hagree.1
  obtain ⟨flags, hflags⟩ : ∃ flags, Holds other (put16 10 flags) := exists_held16 (by omega)
  have hapart : ∀ f : ℕ × Bytes, f.1 + f.2.length ≤ 24 →
      disjointFrom (f.1, f.2.length) (10, 2) = true →
      (envelope.msgType.free envelope.headerBytes.toNat).all
        (disjointFrom (f.1, f.2.length)) = true := by
    intro f hin hd
    simp only [CoordType.free, List.cons_append, List.nil_append, List.all_cons, hd, Bool.true_and,
      Bool.and_eq_true, List.all_map, List.all_eq_true, Function.comp_apply]
    simp only [disjointFrom, Bool.or_eq_true, decide_eq_true_eq]
    exact ⟨by omega, fun r _ => by omega⟩
  have hfields := h.fields
  simp only [Envelope.fields, carries_cons, carries_nil, and_true] at hfields
  obtain ⟨h0, h4, h5, h6, h8, -, h12, h16⟩ := hfields
  refine ⟨flags, ⟨hagree.1 ▸ h.size, ?_, h.version, h.header, h.bounded, hagree.1 ▸ h.exact, rfl⟩, ?_⟩
  · simp only [Envelope.fields, carries_cons, carries_nil, and_true]
    exact ⟨hagree.holds (hapart _ (by simp [put32]) rfl) h0,
      hagree.holds (hapart _ (by simp [put8]) rfl) h4,
      hagree.holds (hapart _ (by simp [put8]) rfl) h5,
      hagree.holds (hapart _ (by simp [put16]) rfl) h6,
      hagree.holds (hapart _ (by simp [put16]) rfl) h8, hflags,
      hagree.holds (hapart _ (by simp [put32]) rfl) h12,
      hagree.holds (hapart _ (by simp [put64]) rfl) h16⟩
  · rw [h.behind]
    apply hagree.drop
    intro r hr
    simp only [CoordType.free, List.cons_append, List.nil_append, List.mem_cons, List.mem_map] at hr
    obtain rfl | rfl | ⟨s, hs, rfl⟩ := hr
    · exact Or.inl (by dsimp only; omega)
    · exact Or.inl (by dsimp only; omega)
    · refine Or.inr ⟨Nat.le_add_right _ _, ?_⟩
      rwa [Nat.add_sub_cancel_left]

lemma appendBody_room (h : 32 ≤ data.length) (extra : Bytes) {xs : Bytes} (hxs : xs.length = 4) :
    12 + xs.length ≤ (data ++ extra).length := by
  rw [List.length_append]
  omega

lemma holds_appendBody {f : ℕ × Bytes} (hf : Holds data f) (h : 32 ≤ data.length) (extra : Bytes)
    (hd : disjointFrom (12, 4) (f.1, f.2.length) = true) : Holds (appendBody data extra) f :=
  (hf.append extra).patch (appendBody_room h extra (leBytes_length _ _)) (by rwa [leBytes_length])

lemma appendBody_length (h : 32 ≤ data.length) (extra : Bytes) :
    (appendBody data extra).length = data.length + extra.length := by
  rw [appendBody, patch_length (appendBody_room h extra (leBytes_length _ _)), List.length_append]

lemma appendBody_drop (h : 32 ≤ data.length) {header : ℕ} (hheader : 32 ≤ header)
    (hin : header ≤ data.length) (extra : Bytes) :
    (appendBody data extra).drop header = data.drop header ++ extra := by
  rw [appendBody, drop_patch_above (by rw [leBytes_length]; omega)
    (appendBody_room h extra (leBytes_length _ _)), List.drop_append_of_le_length hin]

lemma Framed.append (h : Framed data envelope body) {extra : Bytes}
    (hsize : data.length + extra.length ≤ kMaxCoordMessageBytes) :
    Framed (appendBody data extra)
      { envelope with bodyBytes := UInt32.ofNat (envelope.bodyBytes.toNat + extra.length) }
      (body ++ extra) := by
  have hlong := h.long
  have hexact := h.exact
  have hheader := h.header
  simp only [kCoordEnvelopeBytes, kMaxCoordMessageBytes] at hheader hsize
  have hnew : (UInt32.ofNat (envelope.bodyBytes.toNat + extra.length)).toNat =
      envelope.bodyBytes.toNat + extra.length := by
    apply UInt32.toNat_ofNat_of_lt'
    simp only [UInt32.size]
    omega
  have h12 : Holds (appendBody data extra)
      (put32 12 (UInt32.ofNat (envelope.bodyBytes.toNat + extra.length))) := by
    rw [put32, hnew, ← h.body_value]
    exact holds_patch_self (appendBody_room hlong extra (leBytes_length _ _))
  have hfields := h.fields
  simp only [Envelope.fields, carries_cons, carries_nil, and_true] at hfields
  obtain ⟨h0, h4, h5, h6, h8, h10, -, h16⟩ := hfields
  refine ⟨?_, ?_, h.version, h.header, ?_, ?_, ?_⟩
  · rw [appendBody_length hlong]
    exact hsize
  · simp only [Envelope.fields, carries_cons, carries_nil, and_true]
    exact ⟨holds_appendBody h0 hlong extra rfl, holds_appendBody h4 hlong extra rfl,
      holds_appendBody h5 hlong extra rfl, holds_appendBody h6 hlong extra rfl,
      holds_appendBody h8 hlong extra rfl, holds_appendBody h10 hlong extra rfl, h12,
      holds_appendBody h16 hlong extra rfl⟩
  · rw [hnew, kMaxCoordBodyBytes]
    omega
  · dsimp only
    rw [hnew, appendBody_length hlong]
    omega
  · rw [appendBody_drop hlong hheader (by omega), ← h.behind]

lemma Framed.appended {extra rest : Bytes} {envelope' : Envelope}
    (h : Framed data envelope body) (h' : Framed (appendBody data extra) envelope' rest) :
    envelope'.versionMinor = envelope.versionMinor ∧ rest = body ++ extra := by
  have hlong := h.long
  have hheader := h.header
  have hexact := h.exact
  have hfields := h.fields
  have hfields' := h'.fields
  simp only [Envelope.fields, carries_cons, carries_nil, and_true] at hfields hfields'
  obtain ⟨-, -, h5, h6, -⟩ := hfields
  obtain ⟨-, -, h5', h6', -⟩ := hfields'
  have hminor := get8_eq_ok.mpr (holds_appendBody h5 hlong extra rfl)
  have hsame := get16_eq_ok.mpr (holds_appendBody h6 hlong extra rfl)
  rw [get8_eq_ok.mpr h5', Except.ok.injEq] at hminor
  rw [get16_eq_ok.mpr h6', Except.ok.injEq] at hsame
  refine ⟨hminor, ?_⟩
  rw [h'.behind, hsame, appendBody_drop hlong hheader (by omega), ← h.behind]

end Framed

/-! ### Bodies -/

lemma CoordType.reserved_in_fixed (type : CoordType) :
    ∀ r ∈ type.reserved, r.1 + r.2 ≤ type.fixedBytes := by
  cases type <;> decide

lemma CoordType.fixedBytes_pos (type : CoordType) : 0 < type.fixedBytes := by
  cases type <;> decide

lemma counted_append_inj {width : ℕ} {x y p q : Bytes} (hx : x.length < 256 ^ width)
    (hy : y.length < 256 ^ width)
    (h : leBytes width x.length ++ x ++ p = leBytes width y.length ++ y ++ q) : x = y ∧ p = q := by
  rw [List.append_assoc, List.append_assoc] at h
  obtain ⟨hcount, hrest⟩ := List.append_inj h (by rw [leBytes_length, leBytes_length])
  exact List.append_inj hrest (leBytes_inj hx hy hcount)

namespace CoordMessage

variable {m m' : CoordMessage} {minor : UInt8} {body extra : Bytes}

lemma known_apart (m : CoordMessage) :
    ∀ f ∈ m.known, m.type.reserved.all (disjointFrom (f.1, f.2.length)) = true := by
  cases m with
  | «open» msg =>
    simp [known_open, type, CoordType.reserved, disjointFrom, put8, put32, put64, putId16,
      msg.clientInstanceId.size]
  | openReply msg =>
    simp [known_openReply, putGeometry, putDims, type, CoordType.reserved, disjointFrom, put8,
      put16, put32, put64, putId16, msg.sessionId.size]
  | renew msg =>
    simp [known_renew, type, CoordType.reserved, disjointFrom, put32, put64, putId16,
      msg.sessionId.size]
  | renewReply msg =>
    simp [known_renewReply, putGeometry, putDims, type, CoordType.reserved, disjointFrom, put16,
      put32, put64, putId16, msg.sessionId.size]
  | close msg =>
    simp [known_close, type, CoordType.reserved, disjointFrom, put32, putId16, msg.sessionId.size]
  | closeReply msg =>
    simp [known_closeReply, type, CoordType.reserved, disjointFrom, put16, put32, putId16,
      msg.sessionId.size]
  | error => simp [known_error, type, CoordType.reserved, disjointFrom, put16]

lemma ReadFrom.agree {other : Bytes} (h : m.ReadFrom minor body)
    (hagree : Agree m.type.reserved body other) : m.ReadFrom minor other := by
  refine ⟨fun f hf => hagree.holds (m.known_apart f hf) (h.carries f hf), hagree.1 ▸ h.long, ?_,
    h.bounded⟩
  have hdrop : Agree [] (body.drop m.type.fixedBytes) (other.drop m.type.fixedBytes) :=
    hagree.drop fun r hr => Or.inl (m.type.reserved_in_fixed r hr)
  rw [← hdrop.eq, ← hagree.1]
  exact h.rest

lemma ReadFrom.append (h : m.ReadFrom minor body) (hfixed : m.type.tailed = false)
    (hminor : 0 < minor) (extra : Bytes) : m.ReadFrom minor (body ++ extra) := by
  refine ⟨h.carries.append extra, ?_, ?_, h.bounded⟩
  · rw [List.length_append]
    exact h.long.trans (Nat.le_add_right _ _)
  · rw [if_neg (by simp [hfixed])]
    intro hle
    exact absurd hminor (UInt8.not_lt.mpr hle)

lemma tail_append_inj (htype : m.type = m'.type) (h : m.Bounded) (h' : m'.Bounded)
    (htailed : m.type.tailed = true) (heq : m.tail ++ extra = m'.tail) : extra = [] := by
  have haddress : ∀ {x : Bytes}, x.length ≤ kMaxUcxAddressBytes → x.length < 256 ^ 4 :=
    fun hx => lt_of_le_of_lt hx (by decide)
  cases m with
  | «open» =>
    cases m' <;> try cases htype
    case «open» msg' =>
      have hname : ∀ {x : Bytes}, isValidStreamName x = true → x.length < 256 ^ 2 :=
        fun hx => lt_of_le_of_lt (streamName_bounds hx).2 (by decide)
      simp only [tail, List.append_assoc] at heq
      obtain ⟨-, heq⟩ := counted_append_inj (hname h.1) (hname h'.1) heq
      rw [← List.append_nil (putBlobField msg'.clientUcxAddress)] at heq
      exact (counted_append_inj (haddress h.2.2) (haddress h'.2.2) heq).2
  | openReply =>
    cases m' <;> try cases htype
    case openReply msg' =>
      simp only [tail] at heq
      rw [← List.append_nil (putBlobField msg'.serverUcxAddress)] at heq
      exact (counted_append_inj (haddress h) (haddress h') heq).2
  | error =>
    cases m' <;> try cases htype
    case error msg' =>
      have htext : ∀ {x : Bytes}, x.length ≤ kMaxErrorMessageBytes → x.length < 256 ^ 2 :=
        fun hx => lt_of_le_of_lt hx (by decide)
      simp only [tail] at heq
      rw [← List.append_nil (putStringField msg'.message)] at heq
      exact (counted_append_inj (htext h.2) (htext h'.2) heq).2
  | renew | renewReply | close | closeReply => cases htailed

lemma ReadFrom.not_append (h : m.ReadFrom minor body) (htype : m'.type = m.type)
    (hexact : m.type.tailed = true ∨ minor = 0) (hextra : extra ≠ []) :
    ¬ m'.ReadFrom minor (body ++ extra) := by
  intro h'
  have hrest := h.rest
  have hrest' := h'.rest
  rw [htype] at hrest'
  cases htailed : m.type.tailed with
  | true =>
    rw [if_pos htailed] at hrest hrest'
    rw [List.drop_append_of_le_length h.long, hrest] at hrest'
    exact hextra (tail_append_inj htype.symm h.bounded h'.bounded htailed hrest')
  | false =>
    rw [htailed] at hexact
    obtain rfl : minor = 0 := hexact.resolve_left (by simp)
    rw [if_neg (by simp [htailed])] at hrest hrest'
    have hlen := hrest (by decide)
    have hlen' := hrest' (by decide)
    rw [List.length_append] at hlen'
    have hpos := List.length_pos_iff.mpr hextra
    omega

lemma answers_decode (data : Bytes) (type : CoordType) :
    Answers (decode data type) fun _ => True := by
  have hmap : ∀ {α β : Type} {x : Except Fault α} (f : α → β), Answers x (fun _ => True) →
      Answers (x.map f) fun _ => True := by
    rintro α β x f (⟨a, rfl, -⟩ | ⟨status, rfl⟩)
    · exact .ok trivial
    · exact .status status
  cases type with
  | «open» => exact hmap _ (answers_decodeOpen data)
  | openReply => exact hmap _ (answers_decodeOpenReply data)
  | renew => exact hmap _ (answers_decodeRenew data)
  | renewReply => exact hmap _ (answers_decodeRenewReply data)
  | close => exact hmap _ (answers_decodeClose data)
  | closeReply => exact hmap _ (answers_decodeCloseReply data)
  | error => exact hmap _ (answers_decodeError data)

lemma decode_of_framed {data : Bytes} {envelope : Envelope} (hframed : Framed data envelope body)
    (htype : envelope.msgType = m.type) (hread : m.ReadFrom envelope.versionMinor body) :
    decode data m.type = .ok (m, envelope) :=
  decode_eq_ok.mpr ⟨rfl, body, openCoord_eq_ok.mpr ⟨htype, hframed⟩, hread⟩

section Accepted

variable {data : Bytes} {type : CoordType} {envelope : Envelope}
  (h : decode data type = .ok (m, envelope))
include h

lemma decode_extendEnvelope (hsize : data.length + extra.length ≤ kMaxCoordMessageBytes) :
    ∃ envelope', decode (extendEnvelope data extra) type = .ok (m, envelope') ∧
      envelope'.correlationId = envelope.correlationId := by
  obtain ⟨rfl, body, hopen, hread⟩ := decode_eq_ok.mp h
  obtain ⟨htype, hframed⟩ := openCoord_eq_ok.mp hopen
  have hbody : body ≠ [] := by
    rintro rfl
    exact absurd hread.long (Nat.not_le.mpr m.type.fixedBytes_pos)
  exact ⟨_, decode_of_framed (hframed.extend hbody hsize) htype hread, rfl⟩

lemma decode_agree {other : Bytes}
    (hagree : Agree (type.free envelope.headerBytes.toNat) data other) :
    ∃ envelope', decode other type = .ok (m, envelope') ∧
      envelope'.correlationId = envelope.correlationId := by
  obtain ⟨rfl, body, hopen, hread⟩ := decode_eq_ok.mp h
  obtain ⟨htype, hframed⟩ := openCoord_eq_ok.mp hopen
  rw [← htype] at hagree
  obtain ⟨flags, hframed', hbody⟩ := hframed.agree hagree
  rw [htype] at hbody
  exact ⟨_, decode_of_framed hframed' htype (hread.agree hbody), rfl⟩

lemma decode_appendBody (hfixed : type.tailed = false) (hminor : 0 < envelope.versionMinor)
    (hsize : data.length + extra.length ≤ kMaxCoordMessageBytes) :
    ∃ envelope', decode (appendBody data extra) type = .ok (m, envelope') ∧
      envelope'.correlationId = envelope.correlationId := by
  obtain ⟨rfl, body, hopen, hread⟩ := decode_eq_ok.mp h
  obtain ⟨htype, hframed⟩ := openCoord_eq_ok.mp hopen
  exact ⟨_, decode_of_framed (hframed.append hsize) htype (hread.append hfixed hminor extra), rfl⟩

lemma decode_appendBody_refused (hexact : type.tailed = true ∨ envelope.versionMinor = 0)
    (hextra : extra ≠ []) :
    ∃ status, decode (appendBody data extra) type = .error (.status status) := by
  obtain ⟨rfl, body, hopen, hread⟩ := decode_eq_ok.mp h
  obtain ⟨-, hframed⟩ := openCoord_eq_ok.mp hopen
  obtain ⟨⟨m', envelope'⟩, hdecode, -⟩ | hstatus :=
    answers_decode (appendBody data extra) m.type
  · obtain ⟨htype', rest, hopen', hread'⟩ := decode_eq_ok.mp hdecode
    obtain ⟨hminor, rfl⟩ := hframed.appended (openCoord_eq_ok.mp hopen').2
    rw [hminor] at hread'
    exact absurd hread' (hread.not_append htype' hexact hextra)
  · exact hstatus

end Accepted

end CoordMessage

/-! ### The data plane -/

namespace DataMessage

variable {data : Bytes} {type : DataType} {m : DataMessage}

lemma known_apart (m : DataMessage) :
    ∀ f ∈ m.known, 16 ≤ f.1 ∧ m.type.free.all (disjointFrom (f.1, f.2.length)) = true := by
  cases m with
  | frame =>
    simp [known_frame, putDims, type, DataType.free, disjointFrom, put32, put64]
  | credit | probe | probeAck => simp [known, type, DataType.free, disjointFrom, put64]

lemma decode_keeps {other : Bytes} {start start' : DataPrefix}
    (h : decode data type = .ok m) (hopen : openData data type = .ok start)
    (hopen' : openData other type = .ok start') (hgeneration : start'.generation = start.generation)
    (hcarries : Carries data m.known → Carries other m.known) : decode other type = .ok m := by
  obtain ⟨htype, start₀, hopen₀, hgeneration₀, hknown, hvalid⟩ := decode_eq_ok.mp h
  rw [hopen, Except.ok.injEq] at hopen₀
  subst hopen₀
  exact decode_eq_ok.mpr ⟨htype, start', hopen', hgeneration.trans hgeneration₀, hcarries hknown,
    hvalid⟩

lemma decode_raise {header : UInt16} (h : decode data type = .ok m)
    (hraise : leValue (window data 6 2) ≤ header.toNat) (hin : header.toNat ≤ data.length) :
    decode (patch data 6 (leBytes 2 header.toNat)) type = .ok m := by
  obtain ⟨htype, start, hopen, -⟩ := decode_eq_ok.mp h
  obtain ⟨hstart, hfields, hversion, hheader, hdelivered⟩ := openData_eq_ok.mp hopen
  have hlong : 16 ≤ data.length :=
    (kDataPrefixBytes_le start.msgType).trans (hheader.trans hdelivered)
  have hroom : 6 + (leBytes 2 header.toNat).length ≤ data.length := by
    rw [leBytes_length]
    omega
  have hkeep : ∀ f : ℕ × Bytes, disjointFrom (6, 2) (f.1, f.2.length) = true → Holds data f →
      Holds (patch data 6 (leBytes 2 header.toNat)) f :=
    fun f hd hf => hf.patch hroom (by rwa [leBytes_length])
  simp only [DataPrefix.fields, carries_cons, carries_nil, and_true] at hfields
  obtain ⟨h0, h4, h5, h6, h8, h10, h12⟩ := hfields
  have hvalue : leValue (window data 6 2) = start.headerBytes.toNat :=
    (getLe_eq_ok.mp ((getLe_holds (by simpa using start.headerBytes.toNat_lt)).mpr h6)).2
  have hopen' : openData (patch data 6 (leBytes 2 header.toNat)) type =
      .ok { start with headerBytes := header } := by
    refine openData_eq_ok.mpr ⟨hstart, ?_, hversion, ?_, ?_⟩
    · simp only [DataPrefix.fields, carries_cons, carries_nil, and_true]
      exact ⟨hkeep _ rfl h0, hkeep _ rfl h4, hkeep _ rfl h5, holds_patch_self hroom,
        hkeep _ rfl h8, hkeep _ rfl h10, hkeep _ rfl h12⟩
    · exact hheader.trans (hvalue ▸ hraise)
    · rw [patch_length hroom]
      exact hin
  refine decode_keeps h hopen hopen' rfl fun hknown f hf => hkeep f ?_ (hknown f hf)
  have hbehind := (m.known_apart f hf).1
  simp only [disjointFrom, Bool.or_eq_true, decide_eq_true_eq]
  omega

lemma decode_append (h : decode data type = .ok m) (extra : Bytes) :
    decode (data ++ extra) type = .ok m := by
  obtain ⟨-, start, hopen, -⟩ := decode_eq_ok.mp h
  obtain ⟨hstart, hfields, hversion, hheader, hdelivered⟩ := openData_eq_ok.mp hopen
  have hopen' : openData (data ++ extra) type = .ok start := by
    refine openData_eq_ok.mpr ⟨hstart, hfields.append extra, hversion, hheader, ?_⟩
    rw [List.length_append]
    exact hdelivered.trans (Nat.le_add_right _ _)
  exact decode_keeps h hopen hopen' rfl fun hknown => hknown.append extra

lemma decode_agree {other : Bytes} (h : decode data type = .ok m)
    (hagree : Agree type.free data other) : decode other type = .ok m := by
  obtain ⟨htype, start, hopen, -⟩ := decode_eq_ok.mp h
  obtain ⟨hstart, hfields, hversion, hheader, hdelivered⟩ := openData_eq_ok.mp hopen
  have hlong : 16 ≤ other.length := by
    rw [← hagree.1]
    exact (kDataPrefixBytes_le start.msgType).trans (hheader.trans hdelivered)
  obtain ⟨flags, hflags⟩ : ∃ flags, Holds other (put16 10 flags) := exists_held16 (by omega)
  obtain ⟨minor, hminor⟩ : ∃ minor, Holds other (put8 5 minor) := exists_held8 (by omega)
  have hapart : ∀ f : ℕ × Bytes, f.1 + f.2.length ≤ 16 →
      [(5, 1), (10, 2)].all (disjointFrom (f.1, f.2.length)) = true → Holds data f →
      Holds other f := by
    intro f hin hd hf
    refine hagree.holds ?_ hf
    have hframe : disjointFrom (f.1, f.2.length) (152, 8) = true := by
      simp only [disjointFrom, Bool.or_eq_true, decide_eq_true_eq]
      omega
    simp only [List.all_cons, List.all_nil, Bool.and_true, Bool.and_eq_true] at hd
    cases type <;> simp [DataType.free, hd.1, hd.2, hframe]
  simp only [DataPrefix.fields, carries_cons, carries_nil, and_true] at hfields
  obtain ⟨h0, h4, -, h6, h8, -, h12⟩ := hfields
  have hopen' : openData other type = .ok { start with versionMinor := minor, flags } := by
    refine openData_eq_ok.mpr ⟨hstart, ?_, hversion, hheader, hagree.1 ▸ hdelivered⟩
    simp only [DataPrefix.fields, carries_cons, carries_nil, and_true]
    exact ⟨hapart _ (by simp [put32]) rfl h0, hapart _ (by simp [put8]) rfl h4, hminor,
      hapart _ (by simp [put16]) rfl h6, hapart _ (by simp [put16]) rfl h8, hflags,
      hapart _ (by simp [put32]) rfl h12⟩
  refine decode_keeps h hopen hopen' rfl fun hknown f hf => ?_
  have hfree := (m.known_apart f hf).2
  rw [htype] at hfree
  exact hagree.holds hfree (hknown f hf)

end DataMessage

/-- A message that is extended as a newer minor version may extend it, or changed where it is
reserved, decodes as before; a body that may not grow is refused when it does. -/
theorem extension_keeps_meaning :
    (∀ (data : Bytes) (type : CoordType) (m : CoordMessage) (envelope : Envelope),
      CoordMessage.decode data type = .ok (m, envelope) →
      (∀ extra : Bytes, data.length + extra.length ≤ 65536 →
        ∃ envelope', CoordMessage.decode (extendEnvelope data extra) type = .ok (m, envelope') ∧
          envelope'.correlationId = envelope.correlationId) ∧
      (∀ other, Agree (type.free envelope.headerBytes.toNat) data other →
        ∃ envelope', CoordMessage.decode other type = .ok (m, envelope') ∧
          envelope'.correlationId = envelope.correlationId) ∧
      (type.tailed = false → ∀ extra : Bytes,
        (0 < envelope.versionMinor → data.length + extra.length ≤ 65536 →
          ∃ envelope', CoordMessage.decode (appendBody data extra) type = .ok (m, envelope') ∧
            envelope'.correlationId = envelope.correlationId) ∧
        (envelope.versionMinor = 0 → extra ≠ [] →
          ∃ status, CoordMessage.decode (appendBody data extra) type = .error (.status status))) ∧
      (type.tailed = true → ∀ extra : Bytes, extra ≠ [] →
        ∃ status, CoordMessage.decode (appendBody data extra) type = .error (.status status))) ∧
    ∀ (data : Bytes) (type : DataType) (m : DataMessage), DataMessage.decode data type = .ok m →
      (∀ header : UInt16, leValue (window data 6 2) ≤ header.toNat →
        header.toNat ≤ data.length →
        DataMessage.decode (patch data 6 (leBytes 2 header.toNat)) type = .ok m) ∧
      (∀ extra : Bytes, DataMessage.decode (data ++ extra) type = .ok m) ∧
      ∀ other, Agree type.free data other → DataMessage.decode other type = .ok m := by
  refine ⟨fun data type m envelope h => ⟨?_, ?_, ?_, ?_⟩, fun data type m h => ⟨?_, ?_, ?_⟩⟩
  · intro extra hsize
    exact CoordMessage.decode_extendEnvelope h hsize
  · intro other hagree
    exact CoordMessage.decode_agree h hagree
  · intro hfixed extra
    exact ⟨CoordMessage.decode_appendBody h hfixed,
      fun hminor => CoordMessage.decode_appendBody_refused h (Or.inr hminor)⟩
  · intro htailed extra
    exact CoordMessage.decode_appendBody_refused h (Or.inl htailed)
  · intro header hraise hin
    exact DataMessage.decode_raise h hraise hin
  · exact DataMessage.decode_append h
  · intro other hagree
    exact DataMessage.decode_agree h hagree

/-- A request to close, as its encoder makes it. -/
def closeBytes : Bytes :=
  fill kCoordEnvelopeBytes (putEnvelope .close 7 kCloseBytes) ++
    fill kCloseBytes (closeFields ⟨.zero, .normal⟩)

theorem extension_keeps_meaning_close :
    (∃ envelope, CoordMessage.decode (extendEnvelope closeBytes [9, 9]) .close =
      .ok (.close ⟨.zero, .normal⟩, envelope) ∧ envelope.correlationId = 7) ∧
    DataMessage.decode (encodeCredit ⟨1, 2, 3⟩ ++ [9]) .credit = .ok (.credit ⟨1, 2, 3⟩) := by
  refine ⟨?_, ?_⟩
  · exact (extension_keeps_meaning.1 closeBytes .close (.close ⟨.zero, .normal⟩)
      (madeEnvelope .close 7 24) (by decide +kernel)).1 [9, 9] (by decide +kernel)
  · exact (extension_keeps_meaning.2 (encodeCredit ⟨1, 2, 3⟩) .credit (.credit ⟨1, 2, 3⟩)
      (by decide +kernel)).2.1 [9]

end TangoBulk
