import TangoBulk.GeometryExact

/-! Resolution of a producer's metadata: what is inferred, and where the inferred strides are
those of the contiguous layout. -/
namespace TangoBulk

open Finset

lemma Dims.store_entry (d : Dims) {i v : ℕ} (hi : i < 4) (hv : v < 2 ^ 64) (k : ℕ) :
    (d.store i v).entry k = if k = i then v else d.entry k := by
  unfold Dims.entry Dims.store
  split_ifs with hk heq
  · exact UInt64.toNat_ofNat_of_lt' hv
  · rfl
  · omega
  · rfl

/-! ### Inferred strides -/

lemma fillFrom_above {shape : Dims} {i stride : ℕ} {strides : Dims} (hi : i ≤ 4)
    (hstride : stride < 2 ^ 64) {k : ℕ} (hk : i ≤ k) :
    (fillFrom shape i stride strides).entry k = strides.entry k := by
  induction i generalizing stride strides with
  | zero => rfl
  | succ i ih =>
    have hstored : (strides.store i stride).entry k = strides.entry k := by
      rw [Dims.store_entry strides (by omega) hstride, if_neg (by omega)]
    unfold fillFrom
    split
    case h_1 => exact hstored
    case h_2 next hmul =>
      obtain ⟨hlt, rfl⟩ := mulOverflow_eq_some.mp hmul
      rw [ih (by omega) hlt (by omega), hstored]

/-- The stride of a dimension is exact where those of the dimensions from it on fit. -/
lemma fillFrom_exact {shape : Dims} {i stride : ℕ} {strides : Dims} (hi : i ≤ 4)
    (hstride : stride < 2 ^ 64) {k : ℕ} (hk : k < i)
    (hfit : ∀ l, k ≤ l → l < i → Strided.rowStrides stride i shape.entry l < 2 ^ 64) :
    (fillFrom shape i stride strides).entry k = Strided.rowStrides stride i shape.entry k := by
  induction i generalizing stride strides with
  | zero => omega
  | succ i ih =>
    have hstored : (strides.store i stride).entry i = stride := by
      rw [Dims.store_entry strides (by omega) hstride, if_pos rfl]
    have hlast : Strided.rowStrides stride (i + 1) shape.entry i = stride := by
      rw [Strided.rowStrides, Strided.block_self, Nat.mul_one]
    -- below the last dimension the loop goes on with the product as its stride
    have hnext : ∀ l < i, Strided.rowStrides stride (i + 1) shape.entry l =
        Strided.rowStrides (stride * shape.entry i) i shape.entry l := by
      intro l hl
      rw [Strided.rowStrides, Strided.rowStrides, Strided.block_succ (by omega)]
      ring
    unfold fillFrom
    split
    case h_1 hmul =>
      obtain rfl | hlt : k = i ∨ k < i := by omega
      · rw [hstored, hlast]
      · -- the product that overflowed is the stride of the dimension before the last
        have hprod := hfit (i - 1) (by omega) (by omega)
        rw [hnext _ (by omega), Strided.rowStrides, Nat.sub_add_cancel (by omega),
          Strided.block_self, Nat.mul_one] at hprod
        rw [mulOverflow, if_pos hprod] at hmul
        cases hmul
    case h_2 next hmul =>
      obtain ⟨hprod, rfl⟩ := mulOverflow_eq_some.mp hmul
      obtain rfl | hlt : k = i ∨ k < i := by omega
      · rw [fillFrom_above (by omega) hprod le_rfl, hstored, hlast]
      · rw [hnext k hlt]
        apply ih (by omega) hprod hlt
        intro l hl hli
        rw [← hnext l hli]
        exact hfit l hl (by omega)

/-! ### Resolution -/

variable {m : FrameMetadata} {maxFrameBytes : UInt64}

lemma FrameMetadata.validate_iff :
    m.validate maxFrameBytes = .ok ↔
      (m.elementType = .unknown → m.rank = 0) ∧
      validateElementSize m.elementType m.elementSize = .ok ∧ m.payloadBytes ≠ 0 ∧
      m.payloadBytes ≤ maxFrameBytes ∧ m.payloadBytes ≤ kMaxFrameBytesHardCap ∧
      validateShapeAndStrides m.rank m.shape m.strides m.elementSize m.payloadBytes = .ok := by
  refine ⟨FrameMetadata.validate_ok, ?_⟩
  rintro ⟨htyped, hsize, hpayload, hmax, hcap, hshape⟩
  have hrank : ¬ kMaxRank < m.rank.toNat := by
    have hle := (validateShapeAndStrides_ok.mp hshape).1
    omega
  have hnamed : ¬ (m.elementType = .unknown ∧ 0 < m.rank) := by
    rintro ⟨hunknown, hpos⟩
    rw [htyped hunknown] at hpos
    exact absurd hpos (by decide)
  have hlimit : ¬ (maxFrameBytes < m.payloadBytes ∨ kMaxFrameBytesHardCap < m.payloadBytes) := by
    rw [not_or, UInt64.not_lt, UInt64.not_lt]
    exact ⟨hmax, hcap⟩
  rw [FrameMetadata.validate, if_neg hrank, if_neg hnamed, if_neg (not_not.mpr hsize),
    if_neg hpayload, if_neg hlimit, hshape]

lemma validateElementSize_ok {type : ElementType} {elementSize : UInt32} :
    validateElementSize type elementSize = .ok ↔
      (kMinElementSize ≤ elementSize ∧ elementSize ≤ kMaxElementSize) ∧
        (type ≠ .unknown → elementSizeOf type = elementSize) := by
  unfold validateElementSize
  split_ifs with hrange htype
  · rw [← UInt32.not_lt, ← UInt32.not_lt, ← not_or]
    simp [hrange]
  · simp [htype]
  · rw [← UInt32.not_lt, ← UInt32.not_lt, ← not_or]
    simpa [hrange] using htype

/-- The exact size of the described elements. -/
def FrameMetadata.describedBytes (m : FrameMetadata) : ℕ :=
  (∏ k ∈ range m.rank.toNat, m.shape.entry k) * m.elementSize.toNat

lemma inferPayloadBytes_eq_some {sized : FrameMetadata} :
    m.inferPayloadBytes = some sized ↔
      if m.payloadBytes = 0 then
        RunsFit m.rank.toNat m.shape ∧ m.describedBytes < 2 ^ 64 ∧
          sized = { m with payloadBytes := UInt64.ofNat m.describedBytes }
      else sized = m := by
  unfold FrameMetadata.inferPayloadBytes FrameMetadata.describedBytes
  split_ifs
  · simp only [Option.map_eq_some_iff, Option.bind_eq_some_iff, elementCount_eq_some,
      mulOverflow_eq_some]
    constructor
    · rintro ⟨_, ⟨_, ⟨hfit, rfl⟩, hlt, rfl⟩, rfl⟩
      exact ⟨hfit, hlt, rfl⟩
    · rintro ⟨hfit, hlt, rfl⟩
      exact ⟨_, ⟨_, ⟨hfit, rfl⟩, hlt, rfl⟩, rfl⟩
  · rw [Option.some.injEq, eq_comm]

lemma stridesUnset_iff : m.stridesUnset = true ↔ ∀ k < m.rank.toNat, m.strides.entry k = 0 := by
  simp [FrameMetadata.stridesUnset]

lemma resolve_unchanged
    (h : (m.resolve maxFrameBytes).1 ≠ .ok) : (m.resolve maxFrameBytes).2 = m := by
  unfold FrameMetadata.resolve at h ⊢
  repeat' split
  all_goals simp_all

lemma sized_same {sized : FrameMetadata} (h : m.inferElementSize.inferPayloadBytes = some sized) :
    sized = { m with elementSize := m.inferElementSize.elementSize,
                     payloadBytes := sized.payloadBytes } ∧
      (m.payloadBytes ≠ 0 → sized.payloadBytes = m.payloadBytes) ∧
      (m.payloadBytes = 0 →
        sized.payloadBytes = UInt64.ofNat m.inferElementSize.describedBytes) := by
  have hinfer : m.inferElementSize =
      { m with elementSize := m.inferElementSize.elementSize } := by
    unfold FrameMetadata.inferElementSize
    split_ifs <;> rfl
  have hkept : m.inferElementSize.payloadBytes = m.payloadBytes := by rw [hinfer]
  rw [inferPayloadBytes_eq_some, hkept] at h
  split_ifs at h with hpayload
  · obtain ⟨-, -, rfl⟩ := h
    exact ⟨by rw [hinfer], fun hne => absurd hpayload hne, fun _ => rfl⟩
  · subst h
    refine ⟨?_, fun _ => hkept, fun hzero => absurd hzero hpayload⟩
    rw [hkept]
    exact hinfer

lemma inferStrides_same (m : FrameMetadata) :
    m.inferStrides = { m with strides := m.inferStrides.strides } := by
  unfold FrameMetadata.inferStrides
  split_ifs <;> rfl

/-- What a successful resolution makes of the metadata. -/
structure Resolved (m : FrameMetadata) (maxFrameBytes : UInt64) (r : FrameMetadata) : Prop where
  elementType : r.elementType = m.elementType
  rank : r.rank = m.rank
  shape : r.shape = m.shape
  elementSize : r.elementSize = m.inferElementSize.elementSize
  payloadBytes : m.payloadBytes ≠ 0 → r.payloadBytes = m.payloadBytes
  described : m.payloadBytes = 0 →
    r.payloadBytes = UInt64.ofNat m.inferElementSize.describedBytes
  strides : r.strides =
    if m.stridesUnset ∧ 0 < m.rank then
      fillContiguousStrides m.rank.toNat m.shape r.elementSize.toNat
    else m.strides
  valid : r.validate maxFrameBytes = .ok

lemma resolve_parts (h : (m.resolve maxFrameBytes).1 = .ok) :
    ∃ sized, m.inferElementSize.inferPayloadBytes = some sized ∧
      (m.resolve maxFrameBytes).2 = sized.inferStrides := by
  unfold FrameMetadata.resolve at h ⊢
  split_ifs at h ⊢
  split at h
  case h_1 => cases h
  case h_2 sized hsized =>
    rw [hsized]
    split_ifs at h ⊢ with hvalid
    · exact absurd h hvalid
    · exact ⟨sized, rfl, rfl⟩

lemma resolve_resolved (h : (m.resolve maxFrameBytes).1 = .ok) :
    Resolved m maxFrameBytes (m.resolve maxFrameBytes).2 := by
  have hvalid := FrameMetadata.resolve_validate h
  obtain ⟨sized, hsized, hmade⟩ := resolve_parts h
  rw [hmade] at hvalid ⊢
  obtain ⟨hsame, hpayload, hdescribed⟩ := sized_same hsized
  have hunset : sized.stridesUnset = m.stridesUnset := by rw [hsame]; rfl
  have hinner := inferStrides_same sized
  refine ⟨?_, ?_, ?_, ?_, ?_, ?_, ?_, hvalid⟩
  · rw [hinner, hsame]
  · rw [hinner, hsame]
  · rw [hinner, hsame]
  · rw [hinner, hsame]
  · rw [hinner]
    exact hpayload
  · rw [hinner]
    exact hdescribed
  · have hsize : sized.inferStrides.elementSize = sized.elementSize := by rw [hinner]
    have hrank : m.rank = sized.rank := by rw [hsame]
    have hshape : m.shape = sized.shape := by rw [hsame]
    have hstrides : m.strides = sized.strides := by rw [hsame]
    rw [hsize, ← hunset, hrank, hshape, hstrides]
    exact apply_ite FrameMetadata.strides _ _ _

lemma resolve_of_payload (hpayload : m.payloadBytes ≠ 0)
    (hvalid : m.inferElementSize.inferStrides.validate maxFrameBytes = .ok) :
    m.resolve maxFrameBytes = (.ok, m.inferElementSize.inferStrides) := by
  have hsized : m.inferElementSize.inferPayloadBytes = some m.inferElementSize := by
    have hkept : m.inferElementSize.payloadBytes = m.payloadBytes :=
      (apply_ite FrameMetadata.payloadBytes _ _ _).trans (ite_self _)
    rw [inferPayloadBytes_eq_some, if_neg (by rwa [hkept])]
  obtain ⟨-, hsize, -, -, -, hshape⟩ := FrameMetadata.validate_ok hvalid
  rw [inferStrides_same] at hsize hshape
  have hrank : ¬ kMaxRank < m.rank.toNat := by
    have hle := (validateShapeAndStrides_ok.mp hshape).1
    have hsame : m.inferElementSize.rank = m.rank := by rw [(sized_same hsized).1]
    rw [hsame] at hle
    omega
  have hrange : ¬ (m.inferElementSize.elementSize < kMinElementSize ∨
      kMaxElementSize < m.inferElementSize.elementSize) := by
    rw [not_or, UInt32.not_lt, UInt32.not_lt]
    exact (validateElementSize_ok.mp hsize).1
  rw [FrameMetadata.resolve, if_neg hrank, if_neg hrange, hsized]
  exact if_neg (not_not.mpr hvalid)

section Inferred

variable {m r : FrameMetadata} {maxFrameBytes : UInt64}

lemma Resolved.shapeFits (h : Resolved m maxFrameBytes r) :
    validateShapeAndStrides m.rank m.shape r.strides r.elementSize r.payloadBytes = .ok := by
  have hshape := (FrameMetadata.validate_ok h.valid).2.2.2.2.2
  rwa [h.rank, h.shape] at hshape

lemma Resolved.rank_le (h : Resolved m maxFrameBytes r) : m.rank.toNat ≤ 4 :=
  (validateShapeAndStrides_ok.mp h.shapeFits).1

lemma Resolved.size_pos (h : Resolved m maxFrameBytes r) : 0 < r.elementSize.toNat := by
  have hrange := (validateElementSize_ok.mp (FrameMetadata.validate_ok h.valid).2.1).1.1
  exact UInt32.le_iff_toNat_le.mp hrange

lemma Resolved.kept_strides (h : Resolved m maxFrameBytes r)
    (hset : ∃ k < m.rank.toNat, m.strides.entry k ≠ 0) : r.strides = m.strides := by
  rw [h.strides, if_neg]
  rintro ⟨hunset, -⟩
  obtain ⟨k, hk, hne⟩ := hset
  exact hne (stridesUnset_iff.mp hunset k hk)

lemma Resolved.inferred_stride (h : Resolved m maxFrameBytes r) (hrank : 0 < m.rank)
    (hunset : ∀ k < m.rank.toNat, m.strides.entry k = 0) {k : ℕ} (hk : k < m.rank.toNat)
    (hfit : ∀ l, k ≤ l → l < m.rank.toNat →
      Strided.rowStrides r.elementSize.toNat m.rank.toNat m.shape.entry l < 2 ^ 64) :
    r.strides.entry k = Strided.rowStrides r.elementSize.toNat m.rank.toNat m.shape.entry k := by
  have hsize : r.elementSize.toNat < 2 ^ 64 := r.elementSize.toNat_lt.trans (by decide)
  rw [h.strides, if_pos ⟨stridesUnset_iff.mpr hunset, hrank⟩]
  exact fillFrom_exact h.rank_le hsize hk hfit

lemma Resolved.strides_set (h : Resolved m maxFrameBytes r) (hrank : 0 < m.rank) :
    ∃ k < m.rank.toNat, r.strides.entry k ≠ 0 := by
  by_cases hset : ∃ k < m.rank.toNat, m.strides.entry k ≠ 0
  · rw [h.kept_strides hset]
    exact hset
  · push Not at hset
    have hpos : 0 < m.rank.toNat := UInt32.lt_iff_toNat_lt.mp hrank
    have hlast : Strided.rowStrides r.elementSize.toNat m.rank.toNat m.shape.entry
        (m.rank.toNat - 1) = r.elementSize.toNat := by
      rw [Strided.rowStrides, Nat.sub_add_cancel hpos, Strided.block_self, Nat.mul_one]
    refine ⟨m.rank.toNat - 1, by omega, ?_⟩
    rw [h.inferred_stride hrank hset (by omega), hlast]
    · exact h.size_pos.ne'
    · intro l hl hlt
      obtain rfl : l = m.rank.toNat - 1 := by omega
      rw [hlast]
      exact r.elementSize.toNat_lt.trans (by decide)

lemma Resolved.settled (h : Resolved m maxFrameBytes r) : r.resolve maxFrameBytes = (.ok, r) := by
  have hsize : r.elementSize ≠ 0 := by
    intro hzero
    have hpos := h.size_pos
    rw [hzero] at hpos
    exact absurd hpos (by decide)
  have hsized : r.inferElementSize = r := if_neg hsize
  have hstrides : r.inferStrides = r := by
    refine if_neg ?_
    rintro ⟨hunset, hrank⟩
    rw [h.rank] at hrank
    obtain ⟨k, hk, hne⟩ := h.strides_set hrank
    rw [← h.rank] at hk
    exact hne (stridesUnset_iff.mp hunset k hk)
  have hmade := resolve_of_payload (m := r) (FrameMetadata.validate_ok h.valid).2.2.1
    (by rw [hsized, hstrides]; exact h.valid)
  rwa [hsized, hstrides] at hmade

lemma Resolved.contiguous (h : Resolved m maxFrameBytes r) (hrank : 0 < m.rank)
    (hunset : ∀ k < m.rank.toNat, m.strides.entry k = 0)
    (hsome : ∀ k < m.rank.toNat, m.shape.entry k ≠ 0) {k : ℕ} (hk : k < m.rank.toNat) :
    r.strides.entry k = Strided.rowStrides r.elementSize.toNat m.rank.toNat m.shape.entry k := by
  apply h.inferred_stride hrank hunset hk
  intro l _ hl
  obtain ⟨-, -, -, hbytes, -⟩ := validateShapeAndStrides_exact.mp h.shapeFits
  rw [← Strided.block_zero] at hbytes
  have hle : Strided.block m.rank.toNat m.shape.entry (l + 1) * r.elementSize.toNat ≤
      Strided.block m.rank.toNat m.shape.entry 0 * r.elementSize.toNat :=
    Nat.mul_le_mul_right _ (Strided.block_le hsome hl)
  have hlimit : r.payloadBytes.toNat < 2 ^ 64 := UInt64.toNat_lt _
  rw [Strided.rowStrides, Nat.mul_comm]
  omega

end Inferred

/-- A failed resolution changes nothing, and a successful one gives a description that is valid,
resolved and, where the strides were left out, laid out contiguously. -/
theorem resolve_law (m : FrameMetadata) (maxFrameBytes : UInt64) :
    ((m.resolve maxFrameBytes).1 ≠ .ok → (m.resolve maxFrameBytes).2 = m) ∧
    ((m.resolve maxFrameBytes).1 = .ok →
      let r := (m.resolve maxFrameBytes).2
      r.validate maxFrameBytes = .ok ∧ r.resolve maxFrameBytes = (.ok, r) ∧
      (m.elementSize ≠ 0 → r.elementSize = m.elementSize) ∧
      (m.payloadBytes ≠ 0 → r.payloadBytes = m.payloadBytes) ∧
      ((∃ k < m.rank.toNat, m.strides.entry k ≠ 0) → r.strides = m.strides) ∧
      (0 < m.rank → (∀ k < m.rank.toNat, m.shape.entry k ≠ 0) →
        (∀ k < m.rank.toNat, m.strides.entry k = 0) →
        Set.BijOn (fun i : Fin m.rank.toNat → ℕ => ∑ k, i k * r.strides.entry k)
          {i | ∀ k, i k < m.shape.entry k}
          {x | r.elementSize.toNat ∣ x ∧
            x ≤ (∏ k ∈ range m.rank.toNat, m.shape.entry k - 1) * r.elementSize.toNat} ∧
        ∀ i j : Fin m.rank.toNat → ℕ, (∀ k, i k < m.shape.entry k) → toLex i < toLex j →
          ∑ k, i k * r.strides.entry k < ∑ k, j k * r.strides.entry k)) := by
  refine ⟨resolve_unchanged, fun hok => ?_⟩
  have h := resolve_resolved hok
  refine ⟨h.valid, h.settled, fun hsize => ?_, h.payloadBytes, h.kept_strides,
    fun hrank hsome hunset => ?_⟩
  · exact h.elementSize.trans (congrArg FrameMetadata.elementSize (if_neg hsize))
  · have hstrides : ∀ i : Fin m.rank.toNat → ℕ,
        ∑ k, i k * (m.resolve maxFrameBytes).2.strides.entry k =
          ∑ k, i k * Strided.rowStrides (m.resolve maxFrameBytes).2.elementSize.toNat m.rank.toNat
            m.shape.entry k :=
      fun i => sum_congr rfl fun k _ => by rw [h.contiguous hrank hunset hsome k.isLt]
    simp only [hstrides]
    exact ⟨Strided.rowStrides_bijOn h.size_pos hsome,
      fun i j hi hlt => Strided.rowStrides_increasing h.size_pos hi hlt⟩

/-- Two rows of three 16-bit elements, with nothing but type and shape given. -/
def plainArray : FrameMetadata where
  elementType := .uInt16
  rank := 2
  shape := ![2, 3, 0, 0]

theorem resolve_law_plain_array :
    (plainArray.resolve 4096).2.strides = ![6, 2, 0, 0] ∧
      Set.BijOn (fun i : Fin 2 → ℕ => ∑ k, i k * (plainArray.resolve 4096).2.strides.entry k)
        {i | ∀ k, i k < plainArray.shape.entry k}
        {x | (plainArray.resolve 4096).2.elementSize.toNat ∣ x ∧
          x ≤ (∏ k ∈ range 2, plainArray.shape.entry k - 1) *
            (plainArray.resolve 4096).2.elementSize.toNat} :=
  ⟨by decide, (((resolve_law plainArray 4096).2 (by decide)).2.2.2.2.2 (by decide) (by decide)
    (by decide)).1⟩

/-! ### Truncated strides -/

/-- An empty array whose leading dimensions multiply within 64 bits while a stride, the product of
the dimensions after it, does not. The payload size has to be given, as the inferred one is zero. -/
structure Truncating (m : FrameMetadata) (maxFrameBytes : UInt64) : Prop where
  rank : m.rank.toNat ≤ kMaxRank
  sized : m.elementSize = 0 ∨ m.elementSize = elementSizeOf m.elementType
  typed : elementSizeOf m.elementType ≠ 0
  payload : m.payloadBytes ≠ 0
  limit : m.payloadBytes ≤ maxFrameBytes
  cap : m.payloadBytes ≤ kMaxFrameBytesHardCap
  beyond : ∀ k, m.rank.toNat ≤ k → m.shape.entry k = 0
  empty : ∃ k < m.rank.toNat, m.shape.entry k = 0
  leading : ∀ k ≤ m.rank.toNat, ∏ j ∈ range k, m.shape.entry j < 2 ^ 64
  trailing : ∃ k < m.rank.toNat, 2 ^ 64 ≤
    (elementSizeOf m.elementType).toNat * ∏ j ∈ Ico (k + 1) m.rank.toNat, m.shape.entry j

lemma elementSizeOf_range {type : ElementType} (h : elementSizeOf type ≠ 0) :
    type ≠ .unknown ∧ kMinElementSize ≤ elementSizeOf type ∧
      elementSizeOf type ≤ kMaxElementSize := by
  cases type
  case unknown | other => exact absurd rfl h
  all_goals exact ⟨by simp, by decide, by decide⟩

variable {maxFrameBytes : UInt64}

lemma Truncating.elementSize {m : FrameMetadata} (h : Truncating m maxFrameBytes) :
    m.inferElementSize.elementSize = elementSizeOf m.elementType := by
  unfold FrameMetadata.inferElementSize
  split_ifs with hzero
  · rfl
  · exact h.sized.resolve_left hzero

lemma Truncating.resolves {m : FrameMetadata} (h : Truncating m maxFrameBytes) (hrank : 0 < m.rank)
    (hunset : ∀ k < m.rank.toNat, m.strides.entry k = 0) : (m.resolve maxFrameBytes).1 = .ok := by
  have hsized : m.inferElementSize =
      { m with elementSize := elementSizeOf m.elementType } := by
    rw [← h.elementSize]
    unfold FrameMetadata.inferElementSize
    split_ifs <;> rfl
  have hfill : m.inferElementSize.inferStrides =
      { m with elementSize := elementSizeOf m.elementType,
               strides := fillContiguousStrides m.rank.toNat m.shape
                (elementSizeOf m.elementType).toNat } := by
    rw [hsized]
    exact if_pos ⟨stridesUnset_iff.mpr hunset, hrank⟩
  obtain ⟨hknown, hmin, hmax⟩ := elementSizeOf_range h.typed
  have hzero : ∏ k ∈ range m.rank.toNat, m.shape.entry k = 0 := by
    obtain ⟨k, hk, hk0⟩ := h.empty
    exact prod_eq_zero (mem_range.mpr hk) hk0
  rw [resolve_of_payload h.payload]
  rw [hfill, FrameMetadata.validate_iff]
  refine ⟨fun hunknown => absurd hunknown hknown, ?_, h.payload, h.limit, h.cap, ?_⟩
  · exact validateElementSize_ok.mpr ⟨⟨hmin, hmax⟩, fun _ => rfl⟩
  · refine validateShapeAndStrides_exact.mpr ⟨h.rank, fun k hk => ⟨h.beyond k hk, ?_⟩, h.leading, ?_,
      Or.inl h.empty⟩
    · have hsize : (elementSizeOf m.elementType).toNat < 2 ^ 64 :=
        (UInt32.toNat_lt _).trans (by decide)
      refine (fillFrom_above h.rank hsize hk).trans ?_
      simp [Dims.entry, Dims.zero]
    · rw [hzero, Nat.zero_mul]
      exact Nat.zero_le _

/-- Truncated strides come of no other descriptions. -/
lemma Resolved.truncating {m r : FrameMetadata}
    (h : Resolved m maxFrameBytes r) (hrank : 0 < m.rank)
    (hempty : ∃ k < m.rank.toNat, m.shape.entry k = 0) {k : ℕ} (hk : k < m.rank.toNat)
    (hlarge : 2 ^ 64 ≤ Strided.rowStrides r.elementSize.toNat m.rank.toNat m.shape.entry k) :
    Truncating m maxFrameBytes := by
  obtain ⟨htyped, hsize, hpayload, hlimit, hcap, -⟩ := FrameMetadata.validate_ok h.valid
  obtain ⟨hle, hbeyond, hleading, -⟩ := validateShapeAndStrides_exact.mp h.shapeFits
  have hknown : r.elementType ≠ .unknown := by
    intro hunknown
    rw [← h.rank, htyped hunknown] at hrank
    exact absurd hrank (by decide)
  have hsizeOf : elementSizeOf m.elementType = r.elementSize := by
    rw [← h.elementType]
    exact (validateElementSize_ok.mp hsize).2 hknown
  have hgiven : m.payloadBytes ≠ 0 := by
    -- the inferred payload of an empty array is zero, which is refused
    intro hzero
    obtain ⟨l, hl, hl0⟩ := hempty
    have hsame : m.inferElementSize.describedBytes = 0 := by
      unfold FrameMetadata.describedBytes FrameMetadata.inferElementSize
      split_ifs
      all_goals rw [prod_eq_zero (mem_range.mpr hl) hl0, Nat.zero_mul]
    rw [h.described hzero, hsame] at hpayload
    exact hpayload rfl
  rw [h.payloadBytes hgiven] at hlimit hcap
  refine ⟨hle, ?_, ?_, hgiven, hlimit, hcap, fun l hl => (hbeyond l hl).1, hempty, hleading, k, hk, ?_⟩
  · rw [hsizeOf, h.elementSize]
    unfold FrameMetadata.inferElementSize
    split_ifs with hzero
    · exact Or.inl hzero
    · exact Or.inr rfl
  · rw [hsizeOf]
    intro hzero
    have hpos := h.size_pos
    rw [hzero] at hpos
    exact absurd hpos (by decide)
  · rw [hsizeOf]
    exact hlarge

/-- A resolution that succeeds has filled in the exact strides, but for an empty array whose
strides overflow where its element count does not. -/
theorem inferred_strides_exact (m : FrameMetadata) (maxFrameBytes : UInt64) (hrank : 0 < m.rank)
    (hunset : ∀ k < m.rank.toNat, m.strides.entry k = 0) :
    ((m.resolve maxFrameBytes).1 = .ok →
      ∀ k < m.rank.toNat, (m.resolve maxFrameBytes).2.strides.entry k =
        (m.resolve maxFrameBytes).2.elementSize.toNat *
          ∏ j ∈ Ico (k + 1) m.rank.toNat, m.shape.entry j) ↔
      ¬ Truncating m maxFrameBytes := by
  constructor
  · intro hexact htrunc
    have hok := htrunc.resolves hrank hunset
    have hr := resolve_resolved hok
    obtain ⟨k, hk, hlarge⟩ := htrunc.trailing
    have hstride := hexact hok k hk
    rw [hr.elementSize, htrunc.elementSize] at hstride
    have hlt := Dims.entry_lt (m.resolve maxFrameBytes).2.strides k
    omega
  · intro hnot hok k hk
    have hr := resolve_resolved hok
    by_cases hempty : ∃ l < m.rank.toNat, m.shape.entry l = 0
    · refine hr.inferred_stride hrank hunset hk fun l _ hl => ?_
      by_contra hlarge
      exact hnot (hr.truncating hrank hempty hl (not_lt.mp hlarge))
    · push Not at hempty
      exact hr.contiguous hrank hunset hempty hk

theorem inferred_strides_exact_plain_array :
    (plainArray.resolve 4096).2.strides.entry 0 =
      (plainArray.resolve 4096).2.elementSize.toNat *
        ∏ j ∈ Ico 1 2, plainArray.shape.entry j :=
  (inferred_strides_exact plainArray 4096 (by decide) (by decide)).mpr
    (fun h => h.payload rfl) (by decide) 0 (by decide)

/-- An empty array of bytes with two large inner dimensions. -/
def hollowArray : FrameMetadata where
  elementType := .byte
  rank := 3
  shape := ![0, 2 ^ 40, 2 ^ 40, 0]
  payloadBytes := 16

/-- Resolution succeeds with an outer stride of zero in place of 2^80. -/
theorem hollow_array_truncated :
    0 < hollowArray.rank ∧ hollowArray.strides = Dims.zero ∧
      (hollowArray.resolve 4096).1 = .ok ∧
      (hollowArray.resolve 4096).2.strides = ![0, 2 ^ 40, 1, 0] ∧
      (hollowArray.resolve 4096).2.elementSize.toNat *
        ∏ j ∈ Ico 1 3, hollowArray.shape.entry j = 2 ^ 80 := by
  decide

end TangoBulk
