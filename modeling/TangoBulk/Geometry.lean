import TangoBulk.Types

/-! Array descriptions. `validateShapeAndStrides` is the one validator behind a granted
geometry, a producer's metadata and a frame header; every product in it is checked for
64-bit overflow. -/
namespace TangoBulk

def kMaxRank : ℕ := 4

abbrev Dims := Fin 4 → UInt64

def Dims.entry (d : Dims) (i : ℕ) : ℕ := if h : i < 4 then (d ⟨i, h⟩).toNat else 0

def Dims.store (d : Dims) (i v : ℕ) : Dims := fun j => if j.val = i then UInt64.ofNat v else d j

def Dims.zero : Dims := fun _ => 0

def mulOverflow (a b : ℕ) : Option ℕ := if a * b < 2 ^ 64 then some (a * b) else none

def addOverflow (a b : ℕ) : Option ℕ := if a + b < 2 ^ 64 then some (a + b) else none

/-- The checked product of the first `rank` dimensions. -/
def elementCount (rank : ℕ) (shape : Dims) : Option ℕ :=
  (List.range rank).foldlM (fun elements i => mulOverflow elements (shape.entry i)) 1

/-- The checked byte offset of the last element of a non-empty array. -/
def lastOffset (rank : ℕ) (shape strides : Dims) : Option ℕ :=
  (List.range rank).foldlM
    (fun span i => (mulOverflow (shape.entry i - 1) (strides.entry i)).bind (addOverflow span)) 0

def hasZeroDimension (rank : ℕ) (shape : Dims) : Bool :=
  (List.range rank).any fun i => shape.entry i == 0

/-- Entries at or beyond the rank must be zero: tolerating junk there would make two
geometries that compare unequal describe the same array. -/
def zeroBeyondRank (rank : ℕ) (shape strides : Dims) : Bool :=
  (List.range kMaxRank).all fun i => i < rank || (shape.entry i == 0 && strides.entry i == 0)

def validateShapeAndStrides (rank : UInt32) (shape strides : Dims) (elementSize : UInt32)
    (limit : UInt64) : Status :=
  if kMaxRank < rank.toNat then .geometryMismatch
  else if !zeroBeyondRank rank.toNat shape strides then .geometryMismatch
  else
    match (elementCount rank.toNat shape).bind (mulOverflow · elementSize.toNat) with
    | none => .geometryMismatch
    | some describedBytes =>
      if limit.toNat < describedBytes then .geometryMismatch
      else if hasZeroDimension rank.toNat shape then .ok
      else
        match (lastOffset rank.toNat shape strides).bind (addOverflow · elementSize.toNat) with
        | none => .geometryMismatch
        | some span => if limit.toNat < span then .geometryMismatch else .ok

lemma validateShapeAndStrides_ok {rank : UInt32} {shape strides : Dims} {elementSize : UInt32}
    {limit : UInt64} :
    validateShapeAndStrides rank shape strides elementSize limit = .ok ↔
      rank.toNat ≤ kMaxRank ∧ zeroBeyondRank rank.toNat shape strides = true ∧
      (∃ d, (elementCount rank.toNat shape).bind (mulOverflow · elementSize.toNat) = some d ∧
        d ≤ limit.toNat) ∧
      (hasZeroDimension rank.toNat shape = true ∨
        ∃ s, (lastOffset rank.toNat shape strides).bind (addOverflow · elementSize.toNat) = some s ∧
          s ≤ limit.toNat) := by
  unfold validateShapeAndStrides
  by_cases h1 : kMaxRank < rank.toNat
  · have hr : ¬ rank.toNat ≤ kMaxRank := by omega
    simp [h1, hr]
  · by_cases hz : zeroBeyondRank rank.toNat shape strides = true
    swap
    · simp [hz]
    have hr : rank.toNat ≤ kMaxRank := by omega
    rw [if_neg h1, if_neg (by simpa using hz)]
    simp only [hr, hz, true_and]
    cases (elementCount rank.toNat shape).bind (mulOverflow · elementSize.toNat) with
    | none => simp
    | some d =>
      by_cases hd : limit.toNat < d
      · simp [hd]
      · have hd' : d ≤ limit.toNat := by omega
        cases hasZeroDimension rank.toNat shape with
        | true => simp [hd']
        | false =>
          cases (lastOffset rank.toNat shape strides).bind (addOverflow · elementSize.toNat) with
          | none => simp [hd']
          | some s =>
            by_cases hs : limit.toNat < s
            · simp [hd', hs]
            · simp [hd, hd', hs, not_lt.mp hs]

lemma validateShapeAndStrides_mono {rank : UInt32} {shape strides : Dims}
    {elementSize : UInt32} {limit limit' : UInt64} (hle : limit ≤ limit')
    (h : validateShapeAndStrides rank shape strides elementSize limit = .ok) :
    validateShapeAndStrides rank shape strides elementSize limit' = .ok := by
  have hle' : limit.toNat ≤ limit'.toNat := UInt64.le_iff_toNat_le.mp hle
  rw [validateShapeAndStrides_ok] at h ⊢
  obtain ⟨hr, hz, ⟨d, hd, hdl⟩, hs⟩ := h
  refine ⟨hr, hz, ⟨d, hd, hdl.trans hle'⟩, hs.imp_right ?_⟩
  rintro ⟨s, hs, hsl⟩
  exact ⟨s, hs, hsl.trans hle'⟩

def validateElementSize (type : ElementType) (elementSize : UInt32) : Status :=
  if elementSize < kMinElementSize ∨ kMaxElementSize < elementSize then .geometryMismatch
  else if type ≠ .unknown ∧ elementSizeOf type ≠ elementSize then .geometryMismatch
  else .ok

/-- The 96-byte block embedded in OpenReply and RenewReply. -/
structure GeometryBlock where
  generation : UInt32
  elementType : ElementType
  elementSize : UInt32
  rank : UInt32
  maxFrameBytes : UInt64
  ringDepth : UInt32
  creditWindow : UInt32
  shape : Dims
  strides : Dims
  deriving DecidableEq

def GeometryBlock.validate (g : GeometryBlock) : Status :=
  if g.generation = 0 then .geometryMismatch
  else if validateElementSize g.elementType g.elementSize ≠ .ok then
    validateElementSize g.elementType g.elementSize
  else if g.maxFrameBytes < kMinFrameBytes ∨ kMaxFrameBytesHardCap < g.maxFrameBytes then
    .frameTooLarge
  else if g.ringDepth < kMinRingDepth ∨ kMaxRingDepth < g.ringDepth then .depthTooLarge
  else if g.creditWindow = 0 ∨ g.ringDepth < g.creditWindow then .depthTooLarge
  else validateShapeAndStrides g.rank g.shape g.strides g.elementSize g.maxFrameBytes

lemma GeometryBlock.validate_ok {g : GeometryBlock} :
    g.validate = .ok ↔ g.generation ≠ 0 ∧ validateElementSize g.elementType g.elementSize = .ok ∧
      (kMinFrameBytes ≤ g.maxFrameBytes ∧ g.maxFrameBytes ≤ kMaxFrameBytesHardCap) ∧
      (kMinRingDepth ≤ g.ringDepth ∧ g.ringDepth ≤ kMaxRingDepth) ∧
      (g.creditWindow ≠ 0 ∧ g.creditWindow ≤ g.ringDepth) ∧
      validateShapeAndStrides g.rank g.shape g.strides g.elementSize g.maxFrameBytes = .ok := by
  unfold GeometryBlock.validate
  split_ifs with h1 h2 h3 h4 h5
  · simp [h1]
  · simp [h2]
  · have : ¬ (kMinFrameBytes ≤ g.maxFrameBytes ∧ g.maxFrameBytes ≤ kMaxFrameBytesHardCap) := by
      simpa only [not_and_or, UInt64.not_le] using h3
    simp [this]
  · have : ¬ (kMinRingDepth ≤ g.ringDepth ∧ g.ringDepth ≤ kMaxRingDepth) := by
      simpa only [not_and_or, UInt32.not_le] using h4
    simp [this]
  · have : ¬ (g.creditWindow ≠ 0 ∧ g.creditWindow ≤ g.ringDepth) := by
      simpa only [not_and_or, not_not, ne_eq, UInt32.not_le] using h5
    simp [this]
  · simp only [not_or, UInt64.not_lt, UInt32.not_lt] at h3 h4 h5
    simp [h1, not_not.mp h2, h3, h4, h5]

def GeometryBlock.describesSameArray (a b : GeometryBlock) : Bool :=
  a.elementType = b.elementType ∧ a.elementSize = b.elementSize ∧ a.rank = b.rank ∧
    a.shape = b.shape ∧ a.strides = b.strides

/-- Producer-supplied description of one frame. -/
structure FrameMetadata where
  elementType : ElementType := .unknown
  elementSize : UInt32 := 0
  rank : UInt32 := 0
  shape : Dims := Dims.zero
  strides : Dims := Dims.zero
  payloadBytes : UInt64 := 0
  timestampNs : UInt64 := 0
  eventCounter : UInt64 := 0
  quality : UInt32 := 0
  memoryKind : MemoryKind := .host
  endian : Endian := .little
  deriving DecidableEq

def FrameMetadata.describesSameArray (a b : FrameMetadata) : Bool :=
  a.elementType = b.elementType ∧ a.elementSize = b.elementSize ∧ a.rank = b.rank ∧
    a.shape = b.shape ∧ a.strides = b.strides

/-- The downward loop of `fillContiguousStrides`: an overflow leaves the strides filled
so far. -/
def fillFrom (shape : Dims) : ℕ → ℕ → Dims → Dims
  | 0, _, strides => strides
  | i + 1, stride, strides =>
    match mulOverflow stride (shape.entry i) with
    | none => strides.store i stride
    | some next => fillFrom shape i next (strides.store i stride)

/-- C-contiguous strides in bytes, innermost dimension last. -/
def fillContiguousStrides (rank : ℕ) (shape : Dims) (elementSize : ℕ) : Dims :=
  fillFrom shape rank elementSize Dims.zero

def FrameMetadata.validate (m : FrameMetadata) (maxFrameBytes : UInt64) : Status :=
  if kMaxRank < m.rank.toNat then .geometryMismatch
  else if m.elementType = .unknown ∧ 0 < m.rank then .geometryMismatch
  else if validateElementSize m.elementType m.elementSize ≠ .ok then
    validateElementSize m.elementType m.elementSize
  else if m.payloadBytes = 0 then .geometryMismatch
  else if maxFrameBytes < m.payloadBytes ∨ kMaxFrameBytesHardCap < m.payloadBytes then
    .frameTooLarge
  else validateShapeAndStrides m.rank m.shape m.strides m.elementSize m.payloadBytes

def FrameMetadata.inferElementSize (m : FrameMetadata) : FrameMetadata :=
  if m.elementSize = 0 then { m with elementSize := elementSizeOf m.elementType } else m

def FrameMetadata.inferPayloadBytes (m : FrameMetadata) : Option FrameMetadata :=
  if m.payloadBytes = 0 then
    ((elementCount m.rank.toNat m.shape).bind (mulOverflow · m.elementSize.toNat)).map fun n =>
      { m with payloadBytes := UInt64.ofNat n }
  else some m

def FrameMetadata.stridesUnset (m : FrameMetadata) : Bool :=
  (List.range m.rank.toNat).all fun i => m.strides.entry i == 0

def FrameMetadata.inferStrides (m : FrameMetadata) : FrameMetadata :=
  if m.stridesUnset ∧ 0 < m.rank then
    { m with strides := fillContiguousStrides m.rank.toNat m.shape m.elementSize.toNat }
  else m

/-- Fill in the inferrable fields in place: the status, and the metadata afterwards. -/
def FrameMetadata.resolve (m : FrameMetadata) (maxFrameBytes : UInt64) :
    Status × FrameMetadata :=
  if kMaxRank < m.rank.toNat then (.geometryMismatch, m)
  else if m.inferElementSize.elementSize < kMinElementSize ∨
      kMaxElementSize < m.inferElementSize.elementSize then (.geometryMismatch, m)
  else
    match m.inferElementSize.inferPayloadBytes with
    | none => (.geometryMismatch, m)
    | some sized =>
      if sized.inferStrides.validate maxFrameBytes ≠ .ok then
        (sized.inferStrides.validate maxFrameBytes, m)
      else (.ok, sized.inferStrides)

variable {m : FrameMetadata} {maxFrameBytes : UInt64}

lemma FrameMetadata.resolve_validate (h : (m.resolve maxFrameBytes).1 = .ok) :
    (m.resolve maxFrameBytes).2.validate maxFrameBytes = .ok := by
  unfold FrameMetadata.resolve at h ⊢
  split_ifs at h ⊢
  split at h
  · cases h
  · split_ifs at h ⊢ with hv
    · exact absurd h hv
    · exact not_not.mp hv

lemma FrameMetadata.validate_of_resolve (hsize : m.elementSize ≠ 0)
    (hpayload : m.payloadBytes ≠ 0) (hrank : m.rank = 0) (h : (m.resolve maxFrameBytes).1 = .ok) :
    m.validate maxFrameBytes = .ok := by
  have hsized : m.inferElementSize = m := if_neg hsize
  have hstrides : m.inferStrides = m := if_neg (by simp [hrank])
  simp only [FrameMetadata.resolve, hsized, FrameMetadata.inferPayloadBytes, if_neg hpayload,
    hstrides] at h
  split_ifs at h with h1 h2 h3
  · exact absurd h h3
  · exact not_not.mp h3

lemma FrameMetadata.validate_ok (h : m.validate maxFrameBytes = .ok) :
    (m.elementType = .unknown → m.rank = 0) ∧
      validateElementSize m.elementType m.elementSize = .ok ∧ m.payloadBytes ≠ 0 ∧
      m.payloadBytes ≤ maxFrameBytes ∧ m.payloadBytes ≤ kMaxFrameBytesHardCap ∧
      validateShapeAndStrides m.rank m.shape m.strides m.elementSize m.payloadBytes = .ok := by
  unfold FrameMetadata.validate at h
  split_ifs at h with h1 h2 h3 h4 h5
  · exact absurd h h3
  · simp only [not_or, UInt64.not_lt] at h5
    refine ⟨fun hu => ?_, not_not.mp h3, h4, h5.1, h5.2, h⟩
    by_contra hr
    exact h2 ⟨hu, UInt32.pos_iff_ne_zero.mpr hr⟩

end TangoBulk
