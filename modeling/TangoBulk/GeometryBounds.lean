import TangoBulk.GeometryExact
import TangoBulk.ProtocolDataPlane

/-! Indexing an accepted array: every element lies within the limit its description was checked
against, and `reachable_span` is the end of the last one. -/
namespace TangoBulk

open Finset

/-- One dimension of `reachable_span`: the product is not checked, only the sum is. -/
def reachStep (shape strides : Dims) (span k : ℕ) : Option ℕ :=
  let reach := (shape.entry k - 1) * strides.entry k % 2 ^ 64
  if 2 ^ 64 - 1 - reach < span then none else some (span + reach)

/-- A `Geometry` has the fields of the block, and its `validate` is the block's. -/
def GeometryBlock.reachableSpan (g : GeometryBlock) : ℕ :=
  if g.validate ≠ .ok then 0
  else if hasZeroDimension g.rank.toNat g.shape then 0
  else
    ((List.range g.rank.toNat).foldlM (reachStep g.shape g.strides) g.elementSize.toNat).getD 0

lemma reach_foldlM {rank size : ℕ} {shape strides : Dims}
    (h : Strided.span rank shape.entry strides.entry + size < 2 ^ 64) :
    (List.range rank).foldlM (reachStep shape strides) size =
      some (Strided.span rank shape.entry strides.entry + size) := by
  induction rank with
  | zero => simp [Strided.span]
  | succ rank ih =>
    simp only [Strided.span, sum_range_succ] at h ih ⊢
    have hreach : (shape.entry rank - 1) * strides.entry rank < 2 ^ 64 := by omega
    rw [List.range_succ, List.foldlM_append, ih (by omega)]
    simp only [Option.bind_eq_bind, Option.bind_some, List.foldlM_cons, List.foldlM_nil, reachStep,
      Nat.mod_eq_of_lt hreach]
    rw [if_neg (by omega)]
    simp only [Option.pure_def, Option.bind_some, Option.some.injEq]
    omega

section Accepted

variable {rank : UInt32} {shape strides : Dims} {elementSize : UInt32} {limit : UInt64}

lemma element_in_limit
    (h : validateShapeAndStrides rank shape strides elementSize limit = .ok) {i : ℕ → ℕ}
    (hi : ∀ k < rank.toNat, i k < shape.entry k) :
    ∑ k ∈ range rank.toNat, i k * strides.entry k + elementSize.toNat ≤ limit.toNat := by
  obtain ⟨-, -, -, -, ⟨k, hk, hzero⟩ | hspan⟩ := validateShapeAndStrides_exact.mp h
  · have hlt := hi k hk
    omega
  · have hle : ∑ k ∈ range rank.toNat, i k * strides.entry k ≤ _ :=
      Strided.offset_le_span hi
    omega

lemma span_in_limit (h : validateShapeAndStrides rank shape strides elementSize limit = .ok)
    (hsome : ∀ k < rank.toNat, shape.entry k ≠ 0) :
    Strided.span rank.toNat shape.entry strides.entry + elementSize.toNat ≤ limit.toNat := by
  obtain ⟨-, -, -, -, ⟨k, hk, hzero⟩ | hspan⟩ := validateShapeAndStrides_exact.mp h
  · exact absurd hzero (hsome k hk)
  · exact hspan

end Accepted

lemma decodeFrame_accepts {data : ByteString.Bytes} {msg : FrameHeader}
    (h : decodeFrame data = .ok msg) :
    validateShapeAndStrides msg.rank msg.shape msg.strides msg.elementSize msg.payloadBytes =
      .ok := by
  obtain ⟨-, -, -, -, hcheck⟩ := decodeFrame_eq_ok.mp h
  exact (checkFrame_ok.mp hcheck).2.2

lemma GeometryBlock.reachableSpan_eq {g : GeometryBlock} (h : g.validate = .ok)
    (hsome : ∀ k < g.rank.toNat, g.shape.entry k ≠ 0) :
    g.reachableSpan =
      Strided.span g.rank.toNat g.shape.entry g.strides.entry + g.elementSize.toNat := by
  have hlimit : g.maxFrameBytes.toNat < 2 ^ 64 := UInt64.toNat_lt _
  have hspan := span_in_limit (GeometryBlock.validate_ok.mp h).2.2.2.2.2 hsome
  have hempty : ¬ hasZeroDimension g.rank.toNat g.shape = true := by
    rw [hasZeroDimension_iff]
    rintro ⟨k, hk, hzero⟩
    exact hsome k hk hzero
  rw [GeometryBlock.reachableSpan, if_neg (not_not.mpr h), if_neg hempty, reach_foldlM (by omega),
    Option.getD_some]

/-- Every element of an accepted array is within the limit, and the reachable span is where the
last of them ends. -/
theorem accepted_in_bounds :
    (∀ g : GeometryBlock, g.validate = .ok →
      ∀ i : ℕ → ℕ, (∀ k < g.rank.toNat, i k < g.shape.entry k) →
        ∑ k ∈ range g.rank.toNat, i k * g.strides.entry k + g.elementSize.toNat ≤
          g.maxFrameBytes.toNat) ∧
    (∀ (m : FrameMetadata) (maxFrameBytes : UInt64), m.validate maxFrameBytes = .ok →
      ∀ i : ℕ → ℕ, (∀ k < m.rank.toNat, i k < m.shape.entry k) →
        ∑ k ∈ range m.rank.toNat, i k * m.strides.entry k + m.elementSize.toNat ≤
          m.payloadBytes.toNat) ∧
    (∀ (data : ByteString.Bytes) (msg : FrameHeader), decodeFrame data = .ok msg →
      ∀ i : ℕ → ℕ, (∀ k < msg.rank.toNat, i k < msg.shape.entry k) →
        ∑ k ∈ range msg.rank.toNat, i k * msg.strides.entry k + msg.elementSize.toNat ≤
          msg.payloadBytes.toNat) ∧
    ∀ g : GeometryBlock, g.validate = .ok →
      ((∃ k < g.rank.toNat, g.shape.entry k = 0) → g.reachableSpan = 0) ∧
      ((∀ k < g.rank.toNat, g.shape.entry k ≠ 0) →
        IsGreatest {x | ∃ i : ℕ → ℕ, (∀ k < g.rank.toNat, i k < g.shape.entry k) ∧
          x = ∑ k ∈ range g.rank.toNat, i k * g.strides.entry k + g.elementSize.toNat}
          g.reachableSpan ∧
        ∀ k < g.rank.toNat, (g.shape.entry k - 1) * g.strides.entry k < 2 ^ 64) := by
  refine ⟨fun g h i hi => ?_, fun m max h i hi => ?_, fun data msg h i hi => ?_, fun g h => ⟨?_, ?_⟩⟩
  · exact element_in_limit (GeometryBlock.validate_ok.mp h).2.2.2.2.2 hi
  · exact element_in_limit (FrameMetadata.validate_ok h).2.2.2.2.2 hi
  · exact element_in_limit (decodeFrame_accepts h) hi
  · intro hempty
    rw [GeometryBlock.reachableSpan, if_neg (not_not.mpr h),
      if_pos (hasZeroDimension_iff.mpr hempty)]
  · intro hsome
    rw [GeometryBlock.reachableSpan_eq h hsome]
    refine ⟨⟨⟨_, Strided.inBounds_last hsome, rfl⟩, ?_⟩, fun k hk => ?_⟩
    · rintro _ ⟨i, hi, rfl⟩
      exact Nat.add_le_add_right (Strided.offset_le_span hi) _
    · have hlimit : g.maxFrameBytes.toNat < 2 ^ 64 := UInt64.toNat_lt _
      have hspan := span_in_limit (GeometryBlock.validate_ok.mp h).2.2.2.2.2 hsome
      have hreach : (g.shape.entry k - 1) * g.strides.entry k ≤ _ :=
        Strided.reach_le_span hk
      omega

/-- Two rows of three bytes. -/
def twoByThree : GeometryBlock where
  generation := 1
  elementType := .uInt8
  elementSize := 1
  rank := 2
  maxFrameBytes := 4096
  ringDepth := 2
  creditWindow := 1
  shape := ![2, 3, 0, 0]
  strides := ![3, 1, 0, 0]

theorem accepted_in_bounds_two_by_three :
    twoByThree.reachableSpan = 6 ∧
      IsGreatest {x | ∃ i : ℕ → ℕ, (∀ k < twoByThree.rank.toNat, i k < twoByThree.shape.entry k) ∧
        x = ∑ k ∈ range twoByThree.rank.toNat, i k * twoByThree.strides.entry k +
          twoByThree.elementSize.toNat} twoByThree.reachableSpan :=
  ⟨by decide, ((accepted_in_bounds.2.2.2 twoByThree (by decide)).2 (by decide)).1⟩

end TangoBulk
