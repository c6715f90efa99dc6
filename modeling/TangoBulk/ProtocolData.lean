import TangoBulk.Geometry
import TangoBulk.LibRecord

/-! The data plane: the 16-byte prefix, frame headers, credits and probes. Decoders are
bounds-checked: a read past the delivered bytes would show as `Fault.outOfRange`, and a sum
of offsets that wraps as `Fault.overflow`. -/
namespace TangoBulk

open ByteString

/-- Why a decoder stops: with the status it returns, at a byte that is not there, or at a sum
of offsets that a `std::size_t` does not hold. -/
inductive Fault
  | status (status : Status)
  | outOfRange (index : ℕ)
  | overflow (a b : ℕ)
  deriving DecidableEq

/-! ### Reading and writing at offsets -/

def getLe (data : Bytes) (off width : ℕ) : Except Fault ℕ :=
  if off + width ≤ data.length then .ok (leValue (window data off width))
  else .error (.outOfRange (max off data.length))

def get8 (data : Bytes) (off : ℕ) : Except Fault UInt8 := UInt8.ofNat <$> getLe data off 1
def get16 (data : Bytes) (off : ℕ) : Except Fault UInt16 := UInt16.ofNat <$> getLe data off 2
def get32 (data : Bytes) (off : ℕ) : Except Fault UInt32 := UInt32.ofNat <$> getLe data off 4
def get64 (data : Bytes) (off : ℕ) : Except Fault UInt64 := UInt64.ofNat <$> getLe data off 8

/-- The sum of two offsets. -/
def addSize (a b : ℕ) : Except Fault ℕ :=
  match addOverflow a b with
  | some c => .ok c
  | none => .error (.overflow a b)

def put8 (off : ℕ) (v : UInt8) : ℕ × Bytes := (off, leBytes 1 v.toNat)
def put16 (off : ℕ) (v : UInt16) : ℕ × Bytes := (off, leBytes 2 v.toNat)
def put32 (off : ℕ) (v : UInt32) : ℕ × Bytes := (off, leBytes 4 v.toNat)
def put64 (off : ℕ) (v : UInt64) : ℕ × Bytes := (off, leBytes 8 v.toNat)

/-- Stop with `status` if the condition holds. -/
def rejectIf (condition : Prop) [Decidable condition] (status : Status) : Except Fault Unit :=
  if condition then .error (.status status) else .ok ()

@[simp] lemma rejectIf_pos {c : Prop} [Decidable c] (s : Status) (h : c) :
    rejectIf c s = .error (.status s) := if_pos h

@[simp] lemma rejectIf_neg {c : Prop} [Decidable c] (s : Status) (h : ¬ c) :
    rejectIf c s = .ok () := if_neg h

@[simp] lemma ok_bind {α β : Type} (a : α) (f : α → Except Fault β) :
    (Except.ok a >>= f) = f a := rfl

@[simp] lemma error_bind {α β : Type} (e : Fault) (f : α → Except Fault β) :
    ((Except.error e : Except Fault α) >>= f) = .error e := rfl

lemma addSize_ok {a b : ℕ} (h : a + b < 2 ^ 64) : addSize a b = .ok (a + b) := by
  rw [addSize, addOverflow, if_pos h]

lemma bind_eq_ok {α β : Type} {x : Except Fault α} {f : α → Except Fault β} {b : β} :
    (x >>= f) = .ok b ↔ ∃ a, x = .ok a ∧ f a = .ok b := by
  cases x with
  | error | ok => simp

lemma rejectIf_eq_ok {c : Prop} [Decidable c] {status : Status} {u : Unit} :
    rejectIf c status = .ok u ↔ ¬ c := by
  by_cases hc : c <;> simp [hc]

section Reads

variable {b : Bytes} {off : ℕ}

lemma getLe_eq_ok {width n : ℕ} :
    getLe b off width = .ok n ↔ off + width ≤ b.length ∧ leValue (window b off width) = n := by
  unfold getLe
  split_ifs with h
  · simp [h]
  · simp [h]

lemma getLe_holds {width n : ℕ} (hn : n < 256 ^ width) :
    getLe b off width = .ok n ↔ Holds b (off, leBytes width n) := by
  rw [getLe_eq_ok, Holds, leBytes_length]
  refine and_congr_right fun hin => ?_
  exact leValue_eq_iff (window_length hin) hn

lemma map_getLe_eq_ok {α : Type} {f : ℕ → α} {width : ℕ} {v : α} {n : ℕ}
    (hf : ∀ k < 256 ^ width, f k = v ↔ k = n) :
    f <$> getLe b off width = .ok v ↔ getLe b off width = .ok n := by
  cases hread : getLe b off width with
  | error => exact iff_of_false (by rintro ⟨⟩) (by rintro ⟨⟩)
  | ok =>
    obtain ⟨hin, rfl⟩ := getLe_eq_ok.mp hread
    have hlt : leValue (window b off width) < 256 ^ width := by
      have h := leValue_lt (window b off width)
      rwa [window_length hin] at h
    change Except.ok (f _) = Except.ok v ↔ _
    rw [Except.ok.injEq, Except.ok.injEq, hf _ hlt]

lemma get8_eq_ok {v : UInt8} : get8 b off = .ok v ↔ Holds b (put8 off v) := by
  rw [get8, map_getLe_eq_ok (n := v.toNat), getLe_holds (by simpa using v.toNat_lt), put8]
  intro k hk
  rw [← UInt8.toNat_inj, UInt8.toNat_ofNat_of_lt' (by simpa using hk)]

lemma get16_eq_ok {v : UInt16} : get16 b off = .ok v ↔ Holds b (put16 off v) := by
  rw [get16, map_getLe_eq_ok (n := v.toNat), getLe_holds (by simpa using v.toNat_lt), put16]
  intro k hk
  rw [← UInt16.toNat_inj, UInt16.toNat_ofNat_of_lt' (by simpa using hk)]

lemma get32_eq_ok {v : UInt32} : get32 b off = .ok v ↔ Holds b (put32 off v) := by
  rw [get32, map_getLe_eq_ok (n := v.toNat), getLe_holds (by simpa using v.toNat_lt), put32]
  intro k hk
  rw [← UInt32.toNat_inj, UInt32.toNat_ofNat_of_lt' (by simpa using hk)]

lemma get64_eq_ok {v : UInt64} : get64 b off = .ok v ↔ Holds b (put64 off v) := by
  rw [get64, map_getLe_eq_ok (n := v.toNat), getLe_holds (by simpa using v.toNat_lt), put64]
  intro k hk
  rw [← UInt64.toNat_inj, UInt64.toNat_ofNat_of_lt' (by simpa using hk)]

lemma exists_held8 (h : off + 1 ≤ b.length) : ∃ v, Holds b (put8 off v) := by
  have hread : get8 b off = .ok (UInt8.ofNat (leValue (window b off 1))) := by
    rw [get8, getLe, if_pos h]
    rfl
  exact ⟨_, get8_eq_ok.mp hread⟩

lemma exists_held16 (h : off + 2 ≤ b.length) : ∃ v, Holds b (put16 off v) := by
  have hread : get16 b off = .ok (UInt16.ofNat (leValue (window b off 2))) := by
    rw [get16, getLe, if_pos h]
    rfl
  exact ⟨_, get16_eq_ok.mp hread⟩

end Reads

/-! ### The prefix -/

def kVersionMajor : UInt8 := 1
def kVersionMinor : UInt8 := 0
def kDataMagic : UInt32 := 0x314B4254
def kDataPrefixBytes : ℕ := 16
def kFrameHeaderBytes : ℕ := 160
def kCreditBytes : ℕ := 32
def kProbeBytes : ℕ := 32
def kProbeAckBytes : ℕ := 32

inductive DataType
  | frame | credit | probe | probeAck
  deriving DecidableEq

def DataType.toRaw : DataType → UInt16
  | .frame => 1
  | .credit => 2
  | .probe => 3
  | .probeAck => 4

def minHeaderBytes : DataType → ℕ
  | .frame => kFrameHeaderBytes
  | .credit => kCreditBytes
  | .probe => kProbeBytes
  | .probeAck => kProbeAckBytes

structure DataPrefix where
  versionMajor : UInt8
  versionMinor : UInt8
  headerBytes : UInt16
  msgType : DataType
  flags : UInt16
  generation : UInt32
  deriving DecidableEq

/-- The fields `put_data_prefix` writes. -/
def putDataPrefix (type : DataType) (headerBytes : ℕ) (generation : UInt32) :
    List (ℕ × Bytes) :=
  [put32 0 kDataMagic, put8 4 kVersionMajor, put8 5 kVersionMinor,
    put16 6 (UInt16.ofNat headerBytes), put16 8 type.toRaw, put16 10 0, put32 12 generation]

/-- Classify and version-check a message, then confirm that the delivered length holds
everything the header claims. `header_bytes` is read before it is trusted. -/
def openData (data : Bytes) (expected : DataType) : Except Fault DataPrefix := do
  rejectIf (data.length < kDataPrefixBytes) .malformedMessage
  let magic ← get32 data 0
  rejectIf (magic ≠ kDataMagic) .malformedMessage
  let major ← get8 data 4
  rejectIf (major ≠ kVersionMajor) .unsupportedVersion
  let typeRaw ← get16 data 8
  rejectIf (typeRaw ≠ expected.toRaw) .malformedMessage
  let headerBytes ← get16 data 6
  rejectIf (headerBytes.toNat < minHeaderBytes expected ∨ data.length < headerBytes.toNat)
    .malformedMessage
  let minor ← get8 data 5
  let flags ← get16 data 10
  let generation ← get32 data 12
  return { versionMajor := major, versionMinor := minor, headerBytes, msgType := expected, flags,
           generation }

/-- `is_known_data_type` together with the cast. -/
def DataType.ofRaw (raw : UInt16) : Option DataType :=
  [DataType.frame, .credit, .probe, .probeAck].find? fun type => type.toRaw = raw

def decodeDataPrefix (data : Bytes) : Except Fault DataPrefix := do
  rejectIf (data.length < kDataPrefixBytes) .malformedMessage
  let magic ← get32 data 0
  rejectIf (magic ≠ kDataMagic) .malformedMessage
  let typeRaw ← get16 data 8
  match DataType.ofRaw typeRaw with
  | none => .error (.status .malformedMessage)
  | some type => openData data type

/-- The fields a prefix is read from. -/
def DataPrefix.fields (start : DataPrefix) : List (ℕ × Bytes) :=
  [put32 0 kDataMagic, put8 4 start.versionMajor, put8 5 start.versionMinor,
    put16 6 start.headerBytes, put16 8 start.msgType.toRaw, put16 10 start.flags,
    put32 12 start.generation]

/-- The message starts with this prefix and is as long as the prefix says. -/
structure Headed (data : Bytes) (start : DataPrefix) : Prop where
  fields : Carries data start.fields
  version : start.versionMajor = kVersionMajor
  header : minHeaderBytes start.msgType ≤ start.headerBytes.toNat
  delivered : start.headerBytes.toNat ≤ data.length

lemma kDataPrefixBytes_le (type : DataType) : kDataPrefixBytes ≤ minHeaderBytes type := by
  cases type <;> decide

lemma openData_eq_ok {data : Bytes} {type : DataType} {start : DataPrefix} :
    openData data type = .ok start ↔ start.msgType = type ∧ Headed data start := by
  simp only [openData, bind_eq_ok, rejectIf_eq_ok, exists_const, get8_eq_ok, get16_eq_ok,
    get32_eq_ok, not_not, not_or, not_lt]
  constructor
  · rintro ⟨hsize, _, h0, rfl, _, h4, rfl, _, h8, rfl, header, h6, ⟨hheader, hin⟩, _, h5, _, h10, _,
      h12, hmade⟩
    cases hmade
    refine ⟨rfl, ?_, rfl, hheader, hin⟩
    simp [DataPrefix.fields, h0, h4, h5, h6, h8, h10, h12]
  · rintro ⟨rfl, hfields, hversion, hheader, hin⟩
    obtain ⟨major, minor, header, type, flags, generation⟩ := start
    subst hversion
    simp only [DataPrefix.fields, carries_cons, carries_nil, and_true] at hfields
    obtain ⟨h0, h4, h5, h6, h8, h10, h12⟩ := hfields
    have hlong := (kDataPrefixBytes_le type).trans (hheader.trans hin)
    exact ⟨hlong, _, h0, rfl, _, h4, rfl, _, h8, rfl, _, h6, ⟨hheader, hin⟩, _, h5, _, h10, _, h12,
      rfl⟩

/-! ### Messages -/

structure FrameHeader where
  generation : UInt32
  streamId : UInt64
  sequence : UInt64
  payloadBytes : UInt64
  timestampNs : UInt64
  eventCounter : UInt64
  droppedBefore : UInt64
  elementType : ElementType
  elementSize : UInt32
  rank : UInt32
  quality : UInt32
  memoryKind : MemoryKind
  endian : Endian
  shape : Dims
  strides : Dims
  deriving DecidableEq

def putDims (off : ℕ) (d : Dims) : List (ℕ × Bytes) :=
  [put64 off (d 0), put64 (off + 8) (d 1), put64 (off + 16) (d 2), put64 (off + 24) (d 3)]

def getDims (data : Bytes) (off : ℕ) : Except Fault Dims := do
  let d0 ← get64 data off
  let d1 ← get64 data (off + 8)
  let d2 ← get64 data (off + 16)
  let d3 ← get64 data (off + 24)
  return ![d0, d1, d2, d3]

def frameFields (msg : FrameHeader) : List (ℕ × Bytes) :=
  [put64 16 msg.streamId, put64 24 msg.sequence, put64 32 msg.payloadBytes,
    put64 40 msg.timestampNs, put64 48 msg.eventCounter, put64 56 msg.droppedBefore,
    put32 64 msg.elementType.toRaw, put32 68 msg.elementSize, put32 72 msg.rank,
    put32 76 msg.quality, put32 80 msg.memoryKind.toRaw, put32 84 msg.endian.toRaw] ++
    putDims 88 msg.shape ++ putDims 120 msg.strides ++ [put64 152 0]

def encodeFrame (msg : FrameHeader) : Bytes :=
  fill kFrameHeaderBytes
    (putDataPrefix .frame kFrameHeaderBytes msg.generation ++ frameFields msg)

/-- The checks of the frame decoder on the fields themselves. The session-scoped ones need
session state and stay with the receiver. -/
def checkFrame (msg : FrameHeader) : Except Fault Unit := do
  rejectIf (msg.payloadBytes = 0 ∨ kMaxFrameBytesHardCap < msg.payloadBytes) .frameTooLarge
  rejectIf (validateElementSize msg.elementType msg.elementSize ≠ .ok)
    (validateElementSize msg.elementType msg.elementSize)
  let described :=
    validateShapeAndStrides msg.rank msg.shape msg.strides msg.elementSize msg.payloadBytes
  rejectIf (described ≠ .ok) described

def decodeFrame (data : Bytes) : Except Fault FrameHeader := do
  let start ← openData data .frame
  let streamId ← get64 data 16
  let sequence ← get64 data 24
  let payloadBytes ← get64 data 32
  let timestampNs ← get64 data 40
  let eventCounter ← get64 data 48
  let droppedBefore ← get64 data 56
  let elementType ← get32 data 64
  let elementSize ← get32 data 68
  let rank ← get32 data 72
  let quality ← get32 data 76
  let memoryKind ← get32 data 80
  let endian ← get32 data 84
  let shape ← getDims data 88
  let strides ← getDims data 120
  let msg : FrameHeader :=
    { generation := start.generation, streamId, sequence, payloadBytes, timestampNs, eventCounter,
      droppedBefore, elementType := .ofRaw elementType, elementSize, rank, quality,
      memoryKind := .ofRaw memoryKind, endian := .ofRaw endian, shape, strides }
  checkFrame msg
  return msg

/-- A message whose body is one stream id and one more number. -/
structure PairMessage where
  generation : UInt32
  streamId : UInt64
  value : UInt64
  deriving DecidableEq

def encodePair (type : DataType) (size : ℕ) (msg : PairMessage) : Bytes :=
  fill size (putDataPrefix type size msg.generation ++ [put64 16 msg.streamId, put64 24 msg.value])

def decodePair (type : DataType) (data : Bytes) : Except Fault PairMessage := do
  let start ← openData data type
  let streamId ← get64 data 16
  let value ← get64 data 24
  return { generation := start.generation, streamId, value }

/-- `value` is the cumulative ack: every sequence at or below it is released. -/
abbrev CreditMessage := PairMessage

/-- `value` is the probe token. -/
abbrev ProbeMessage := PairMessage

/-- `value` is the echoed probe token. -/
abbrev ProbeAckMessage := PairMessage

def encodeCredit : CreditMessage → Bytes := encodePair .credit kCreditBytes
def encodeProbe : ProbeMessage → Bytes := encodePair .probe kProbeBytes
def encodeProbeAck : ProbeAckMessage → Bytes := encodePair .probeAck kProbeAckBytes

def decodeCredit : Bytes → Except Fault CreditMessage := decodePair .credit
def decodeProbe : Bytes → Except Fault ProbeMessage := decodePair .probe
def decodeProbeAck : Bytes → Except Fault ProbeAckMessage := decodePair .probeAck

/-! ### All messages -/

inductive DataMessage
  | frame (msg : FrameHeader)
  | credit (msg : CreditMessage)
  | probe (msg : ProbeMessage)
  | probeAck (msg : ProbeAckMessage)
  deriving DecidableEq

namespace DataMessage

def type : DataMessage → DataType
  | .frame _ => .frame
  | .credit _ => .credit
  | .probe _ => .probe
  | .probeAck _ => .probeAck

def generation : DataMessage → UInt32
  | .frame msg => msg.generation
  | .credit msg | .probe msg | .probeAck msg => msg.generation

/-- The overloads of `encode`. -/
def encode : DataMessage → Bytes
  | .frame msg => encodeFrame msg
  | .credit msg => encodeCredit msg
  | .probe msg => encodeProbe msg
  | .probeAck msg => encodeProbeAck msg

/-- The overloads of `decode`, chosen by the type of their output. -/
def decode (data : Bytes) : DataType → Except Fault DataMessage
  | .frame => (decodeFrame data).map .frame
  | .credit => (decodeCredit data).map .credit
  | .probe => (decodeProbe data).map .probe
  | .probeAck => (decodeProbeAck data).map .probeAck

/-- The fields behind the prefix that a decoder reads. -/
def known : DataMessage → List (ℕ × Bytes)
  | .frame msg => (frameFields msg).dropLast
  | .credit msg | .probe msg | .probeAck msg => [put64 16 msg.streamId, put64 24 msg.value]

/-- What a decoder checks of the fields it has read. -/
def Valid : DataMessage → Prop
  | .frame msg => checkFrame msg = .ok ()
  | _ => True

end DataMessage

/-! ### The decoders -/

section Decoders

variable {data : Bytes}

lemma getDims_eq_ok {off : ℕ} {d : Dims} :
    getDims data off = .ok d ↔ Carries data (putDims off d) := by
  simp only [getDims, bind_eq_ok, get64_eq_ok, putDims, carries_cons, carries_nil, and_true]
  constructor
  · rintro ⟨d0, h0, d1, h1, d2, h2, d3, h3, hmade⟩
    cases hmade
    exact ⟨h0, h1, h2, h3⟩
  · rintro ⟨h0, h1, h2, h3⟩
    refine ⟨_, h0, _, h1, _, h2, _, h3, congrArg Except.ok (funext fun i => ?_)⟩
    fin_cases i <;> rfl

lemma decodePair_eq_ok {type : DataType} {msg : PairMessage} :
    decodePair type data = .ok msg ↔
      ∃ start, openData data type = .ok start ∧ start.generation = msg.generation ∧
        Carries data [put64 16 msg.streamId, put64 24 msg.value] := by
  simp only [decodePair, bind_eq_ok, get64_eq_ok, carries_cons, carries_nil, and_true]
  constructor
  · rintro ⟨start, hopen, _, h16, _, h24, hmade⟩
    cases hmade
    exact ⟨start, hopen, rfl, h16, h24⟩
  · rintro ⟨start, hopen, hgeneration, h16, h24⟩
    refine ⟨start, hopen, _, h16, _, h24, ?_⟩
    rw [hgeneration]
    rfl

lemma known_frame (msg : FrameHeader) :
    (DataMessage.frame msg).known =
      [put64 16 msg.streamId, put64 24 msg.sequence, put64 32 msg.payloadBytes,
        put64 40 msg.timestampNs, put64 48 msg.eventCounter, put64 56 msg.droppedBefore,
        put32 64 msg.elementType.toRaw, put32 68 msg.elementSize, put32 72 msg.rank,
        put32 76 msg.quality, put32 80 msg.memoryKind.toRaw, put32 84 msg.endian.toRaw] ++
        putDims 88 msg.shape ++ putDims 120 msg.strides := rfl

lemma decodeFrame_eq_ok {msg : FrameHeader} :
    decodeFrame data = .ok msg ↔
      ∃ start, openData data .frame = .ok start ∧ start.generation = msg.generation ∧
        Carries data (DataMessage.frame msg).known ∧ checkFrame msg = .ok () := by
  simp only [decodeFrame, bind_eq_ok, get32_eq_ok, get64_eq_ok, getDims_eq_ok, known_frame,
    carries_append, carries_cons, carries_nil, and_true]
  constructor
  · rintro ⟨start, hopen, _, h16, _, h24, _, h32, _, h40, _, h48, _, h56, _, h64, _, h68, _, h72, _,
      h76, _, h80, _, h84, _, h88, _, h120, _, hcheck, hmade⟩
    cases hmade
    simp only [ElementType.toRaw_ofRaw, MemoryKind.toRaw_ofRaw, Endian.toRaw_ofRaw]
    exact ⟨start, hopen, rfl,
      ⟨⟨⟨h16, h24, h32, h40, h48, h56, h64, h68, h72, h76, h80, h84⟩, h88⟩, h120⟩, hcheck⟩
  · rintro ⟨start, hopen, hgeneration,
      ⟨⟨⟨h16, h24, h32, h40, h48, h56, h64, h68, h72, h76, h80, h84⟩, h88⟩, h120⟩, hcheck⟩
    refine ⟨start, hopen, _, h16, _, h24, _, h32, _, h40, _, h48, _, h56, _, h64, _, h68, _, h72, _,
      h76, _, h80, _, h84, _, h88, _, h120, (), ?_⟩
    simp only [ElementType.ofRaw_toRaw, MemoryKind.ofRaw_toRaw, Endian.ofRaw_toRaw, hgeneration]
    exact ⟨hcheck, rfl⟩

end Decoders

namespace DataMessage

variable {data : Bytes} {m : DataMessage}

lemma map_eq_ok {α : Type} {f : α → DataMessage} {x : Except Fault α} :
    x.map f = .ok m ↔ ∃ msg, x = .ok msg ∧ m = f msg := by
  cases x with
  | error => simp [Except.map]
  | ok => simp [Except.map, eq_comm]

lemma decode_eq_ok {type : DataType} :
    decode data type = .ok m ↔
      m.type = type ∧ ∃ start, openData data type = .ok start ∧ start.generation = m.generation ∧
        Carries data m.known ∧ m.Valid := by
  cases type
  all_goals
    simp only [decode, map_eq_ok, decodeCredit, decodeProbe, decodeProbeAck, decodePair_eq_ok,
      decodeFrame_eq_ok]
    constructor
    · rintro ⟨msg, ⟨start, hopen, hread⟩, rfl⟩
      first
        | exact ⟨rfl, start, hopen, hread⟩
        | exact ⟨rfl, start, hopen, hread.1, hread.2, trivial⟩
    · rintro ⟨htype, start, hopen, hgeneration, hcarries, hvalid⟩
      cases m <;> first
        | exact ⟨_, ⟨start, hopen, hgeneration, hcarries, hvalid⟩, rfl⟩
        | exact ⟨_, ⟨start, hopen, hgeneration, hcarries⟩, rfl⟩
        | cases htype

lemma frame_tiles (msg : FrameHeader) :
    tiles 0 (ranges (putDataPrefix .frame kFrameHeaderBytes msg.generation ++ frameFields msg))
      kFrameHeaderBytes = true := by
  simp [ranges, putDataPrefix, frameFields, putDims, put8, put16, put32, put64, tiles,
    kFrameHeaderBytes]

lemma pair_tiles (type : DataType) (msg : PairMessage) :
    tiles 0 (ranges (putDataPrefix type 32 msg.generation ++
      [put64 16 msg.streamId, put64 24 msg.value])) 32 = true := by
  simp [ranges, putDataPrefix, put8, put16, put32, put64, tiles]

/-- The prefix an encoder writes. -/
def start (m : DataMessage) : DataPrefix where
  versionMajor := kVersionMajor
  versionMinor := kVersionMinor
  headerBytes := UInt16.ofNat (minHeaderBytes m.type)
  msgType := m.type
  flags := 0
  generation := m.generation

lemma encode_carries (m : DataMessage) :
    m.encode.length = minHeaderBytes m.type ∧ Carries m.encode m.start.fields ∧
      Carries m.encode m.known := by
  cases m with
  | frame msg =>
    have hl := laidOut_of_tiles (frame_tiles msg)
    obtain ⟨hstart, hfields⟩ := carries_append.mp (carries_fill hl)
    exact ⟨fill_length hl, hstart, fun f hf => hfields f (List.mem_of_mem_dropLast hf)⟩
  | credit msg =>
    have hl := laidOut_of_tiles (pair_tiles .credit msg)
    exact ⟨fill_length hl, carries_append.mp (carries_fill hl)⟩
  | probe msg =>
    have hl := laidOut_of_tiles (pair_tiles .probe msg)
    exact ⟨fill_length hl, carries_append.mp (carries_fill hl)⟩
  | probeAck msg =>
    have hl := laidOut_of_tiles (pair_tiles .probeAck msg)
    exact ⟨fill_length hl, carries_append.mp (carries_fill hl)⟩

lemma headed_encode (m : DataMessage) : Headed m.encode m.start := by
  obtain ⟨hlen, hstart, -⟩ := m.encode_carries
  have hheader : m.start.headerBytes.toNat = minHeaderBytes m.type := by
    cases m <;> rfl
  exact ⟨hstart, rfl, hheader.ge, by rw [hheader, hlen]⟩

lemma openData_encode (m : DataMessage) : openData m.encode m.type = .ok m.start :=
  openData_eq_ok.mpr ⟨rfl, m.headed_encode⟩

end DataMessage

/-! ### Round trips -/

open DataMessage

@[simp] lemma decodeCredit_encodeCredit (msg : CreditMessage) :
    decodeCredit (encodeCredit msg) = .ok msg :=
  decodePair_eq_ok.mpr ⟨_, openData_encode (.credit msg), rfl, (encode_carries (.credit msg)).2.2⟩

@[simp] lemma decodeProbe_encodeProbe (msg : ProbeMessage) :
    decodeProbe (encodeProbe msg) = .ok msg :=
  decodePair_eq_ok.mpr ⟨_, openData_encode (.probe msg), rfl, (encode_carries (.probe msg)).2.2⟩

@[simp] lemma decodeProbeAck_encodeProbeAck (msg : ProbeAckMessage) :
    decodeProbeAck (encodeProbeAck msg) = .ok msg :=
  decodePair_eq_ok.mpr
    ⟨_, openData_encode (.probeAck msg), rfl, (encode_carries (.probeAck msg)).2.2⟩

lemma decodeFrame_encodeFrame (msg : FrameHeader) :
    decodeFrame (encodeFrame msg) = (checkFrame msg).map fun _ => msg := by
  have hopen : openData (encodeFrame msg) .frame = .ok (start (.frame msg)) :=
    openData_encode (.frame msg)
  have hknown : Carries (encodeFrame msg) (known (.frame msg)) := (encode_carries (.frame msg)).2.2
  simp only [known_frame, carries_append, carries_cons, carries_nil, and_true, ← get32_eq_ok,
    ← get64_eq_ok, ← getDims_eq_ok] at hknown
  obtain ⟨⟨⟨h16, h24, h32, h40, h48, h56, h64, h68, h72, h76, h80, h84⟩, h88⟩, h120⟩ := hknown
  have hgeneration : (start (.frame msg)).generation = msg.generation := rfl
  simp only [decodeFrame, hopen, ok_bind, h16, h24, h32, h40, h48, h56, h64, h68, h72, h76, h80,
    h84, h88, h120, ElementType.ofRaw_toRaw, MemoryKind.ofRaw_toRaw, Endian.ofRaw_toRaw, hgeneration]
  cases checkFrame msg <;> rfl

lemma decodeFrame_encoded {msg frame : FrameHeader}
    (h : decodeFrame (encodeFrame msg) = .ok frame) : frame = msg := by
  rw [decodeFrame_encodeFrame] at h
  cases hcheck : checkFrame msg with
  | error => simp [hcheck, Except.map] at h
  | ok =>
    rw [hcheck] at h
    exact (Except.ok.inj h).symm

end TangoBulk
