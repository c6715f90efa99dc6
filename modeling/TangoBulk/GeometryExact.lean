import TangoBulk.Geometry
import TangoBulk.LibStrided

/-! The validator against exact arithmetic. Its loops multiply and add in 64 bits and leave at the
first overflow, so what it accepts is the exact predicate together with one condition of its own:
that no leading run of the dimensions overflows. -/
namespace TangoBulk

open Finset

lemma Dims.entry_lt (d : Dims) (k : ℕ) : d.entry k < 2 ^ 64 := by
  unfold Dims.entry
  split
  · exact UInt64.toNat_lt _
  · decide

variable {p rank : ℕ} {shape strides : Dims}

lemma mulOverflow_eq_some {a b : ℕ} : mulOverflow a b = some p ↔ a * b < 2 ^ 64 ∧ p = a * b := by
  rw [mulOverflow, Option.ite_none_right_eq_some, Option.some.injEq, eq_comm (a := p)]

lemma addOverflow_eq_some {a b : ℕ} : addOverflow a b = some p ↔ a + b < 2 ^ 64 ∧ p = a + b := by
  rw [addOverflow, Option.ite_none_right_eq_some, Option.some.injEq, eq_comm (a := p)]

/-- Every leading run of the dimensions has a product of 64 bits. -/
def RunsFit (rank : ℕ) (shape : Dims) : Prop :=
  ∀ k ≤ rank, ∏ j ∈ range k, shape.entry j < 2 ^ 64

lemma runsFit_succ :
    RunsFit (rank + 1) shape ↔
      RunsFit rank shape ∧ ∏ j ∈ range (rank + 1), shape.entry j < 2 ^ 64 := by
  constructor
  · intro h
    exact ⟨fun k hk => h k (by omega), h _ le_rfl⟩
  · rintro ⟨h, hlast⟩ k hk
    obtain rfl | hlt : k = rank + 1 ∨ k ≤ rank := by omega
    · exact hlast
    · exact h k hlt

lemma elementCount_eq_some :
    elementCount rank shape = some p ↔
      RunsFit rank shape ∧ p = ∏ k ∈ range rank, shape.entry k := by
  induction rank generalizing p with
  | zero =>
    have hfit : RunsFit 0 shape := fun k hk => by
      obtain rfl : k = 0 := by omega
      simp
    simp [elementCount, hfit, eq_comm]
  | succ rank ih =>
    have hstep : elementCount (rank + 1) shape =
        (elementCount rank shape).bind fun elements => mulOverflow elements (shape.entry rank) := by
      simp [elementCount, List.range_succ, List.foldlM_append]
    simp only [hstep, Option.bind_eq_some_iff, ih, mulOverflow_eq_some, runsFit_succ,
      prod_range_succ]
    constructor
    · rintro ⟨_, ⟨hfit, rfl⟩, hlt, rfl⟩
      exact ⟨⟨hfit, hlt⟩, rfl⟩
    · rintro ⟨⟨hfit, hlt⟩, rfl⟩
      exact ⟨_, ⟨hfit, rfl⟩, hlt, rfl⟩

lemma lastOffset_eq_some {s : ℕ} :
    lastOffset rank shape strides = some s ↔
      s < 2 ^ 64 ∧ s = Strided.span rank shape.entry strides.entry := by
  induction rank generalizing s with
  | zero =>
    simp only [lastOffset, Strided.span, List.range_zero, List.foldlM_nil, range_zero, sum_empty]
    constructor
    · intro h
      cases h
      exact ⟨by decide, rfl⟩
    · rintro ⟨-, rfl⟩
      rfl
  | succ rank ih =>
    have hstep : lastOffset (rank + 1) shape strides =
        (lastOffset rank shape strides).bind fun span =>
          (mulOverflow (shape.entry rank - 1) (strides.entry rank)).bind (addOverflow span) := by
      simp [lastOffset, List.range_succ, List.foldlM_append]
    simp only [hstep, Option.bind_eq_some_iff, ih, mulOverflow_eq_some, addOverflow_eq_some,
      Strided.span, sum_range_succ]
    constructor
    · rintro ⟨_, ⟨-, rfl⟩, _, ⟨-, rfl⟩, hlt, rfl⟩
      exact ⟨hlt, rfl⟩
    · rintro ⟨hlt, rfl⟩
      -- neither summand overflows where the sum does not
      exact ⟨_, ⟨by omega, rfl⟩, _, ⟨by omega, rfl⟩, hlt, rfl⟩

lemma hasZeroDimension_iff :
    hasZeroDimension rank shape = true ↔ ∃ k < rank, shape.entry k = 0 := by
  simp [hasZeroDimension]

lemma zeroBeyondRank_iff :
    zeroBeyondRank rank shape strides = true ↔
      ∀ k, rank ≤ k → shape.entry k = 0 ∧ strides.entry k = 0 := by
  have hbeyond : ∀ (d : Dims) k, 4 ≤ k → d.entry k = 0 := by
    intro d k hk
    simp [Dims.entry, Nat.not_lt.mpr hk]
  simp only [zeroBeyondRank, List.all_eq_true, List.mem_range, Bool.or_eq_true, decide_eq_true_eq,
    Bool.and_eq_true, beq_iff_eq]
  constructor
  · intro h k hk
    obtain hin | hout := Nat.lt_or_ge k 4
    · exact (h k hin).resolve_left (by omega)
    · exact ⟨hbeyond shape k hout, hbeyond strides k hout⟩
  · intro h k _
    obtain hin | hout := Nat.lt_or_ge k rank
    · exact Or.inl hin
    · exact Or.inr (h k hout)

lemma validateShapeAndStrides_exact {rank : UInt32} {elementSize : UInt32} {limit : UInt64} :
    validateShapeAndStrides rank shape strides elementSize limit = .ok ↔
      rank.toNat ≤ kMaxRank ∧
      (∀ k, rank.toNat ≤ k → shape.entry k = 0 ∧ strides.entry k = 0) ∧
      RunsFit rank.toNat shape ∧
      (∏ k ∈ range rank.toNat, shape.entry k) * elementSize.toNat ≤ limit.toNat ∧
      ((∃ k < rank.toNat, shape.entry k = 0) ∨
        Strided.span rank.toNat shape.entry strides.entry + elementSize.toNat ≤ limit.toNat) := by
  have hlimit : limit.toNat < 2 ^ 64 := UInt64.toNat_lt _
  rw [validateShapeAndStrides_ok, zeroBeyondRank_iff, hasZeroDimension_iff]
  refine and_congr_right fun _ => and_congr_right fun _ => ?_
  simp only [Option.bind_eq_some_iff, elementCount_eq_some, lastOffset_eq_some,
    mulOverflow_eq_some, addOverflow_eq_some]
  constructor
  · rintro ⟨⟨_, ⟨_, ⟨hfit, rfl⟩, -, rfl⟩, hle⟩, hspan⟩
    refine ⟨hfit, hle, hspan.imp_right ?_⟩
    rintro ⟨_, ⟨_, ⟨-, rfl⟩, -, rfl⟩, hle'⟩
    exact hle'
  · rintro ⟨hfit, hle, hspan⟩
    refine ⟨⟨_, ⟨_, ⟨hfit, rfl⟩, by omega, rfl⟩, hle⟩, hspan.imp_right fun hle' => ?_⟩
    exact ⟨_, ⟨_, ⟨by omega, rfl⟩, by omega, rfl⟩, hle'⟩

lemma validateShapeAndStrides_answers (rank : UInt32) (shape strides : Dims)
    (elementSize : UInt32) (limit : UInt64) :
    validateShapeAndStrides rank shape strides elementSize limit = .ok ∨
      validateShapeAndStrides rank shape strides elementSize limit = .geometryMismatch := by
  unfold validateShapeAndStrides
  repeat' split
  all_goals simp

/-! ### Permuting dimensions -/

section Permute

variable {rank : ℕ} {σ : Equiv.Perm (Fin 4)}

lemma entry_comp (d : Dims) (σ : Equiv.Perm (Fin 4)) (k : Fin 4) :
    Dims.entry (d ∘ σ) k = d.entry (σ k) := by
  simp [Dims.entry]

lemma entry_comp_fixed (hσ : ∀ k : Fin 4, rank ≤ k → σ k = k) (d : Dims) {k : ℕ}
    (hk : rank ≤ k) : Dims.entry (d ∘ σ) k = d.entry k := by
  obtain hin | hout := Nat.lt_or_ge k 4
  · rw [entry_comp d σ ⟨k, hin⟩, hσ ⟨k, hin⟩ hk]
  · simp [Dims.entry, Nat.not_lt.mpr hout]

/-- The dimensions below the rank, as indices of an array of dimensions. -/
def below (rank : ℕ) : Finset (Fin 4) := univ.filter fun k => k.val < rank

lemma range_eq_below (hrank : rank ≤ 4) : range rank = (below rank).map Fin.valEmbedding := by
  ext k
  simp only [mem_range, below, mem_map, mem_filter, mem_univ, true_and, Fin.valEmbedding_apply]
  constructor
  · intro hk
    exact ⟨⟨k, by omega⟩, hk, rfl⟩
  · rintro ⟨k, hk, rfl⟩
    exact hk

lemma moved_subset_below (hσ : ∀ k : Fin 4, rank ≤ k → σ k = k) :
    {k | σ k ≠ k} ⊆ ((below rank : Finset (Fin 4)) : Set (Fin 4)) := by
  intro k hk
  by_contra hout
  refine hk (hσ k ?_)
  simpa [below] using hout

lemma prod_entry_comp (hrank : rank ≤ 4) (hσ : ∀ k : Fin 4, rank ≤ k → σ k = k)
    (f : ℕ → ℕ → ℕ) (shape strides : Dims) :
    ∏ k ∈ range rank, f (Dims.entry (shape ∘ σ) k) (Dims.entry (strides ∘ σ) k) =
      ∏ k ∈ range rank, f (shape.entry k) (strides.entry k) := by
  simp only [range_eq_below hrank, prod_map, Fin.valEmbedding_apply, entry_comp]
  exact Equiv.Perm.prod_comp σ (below rank) (fun k : Fin 4 => f (shape.entry k) (strides.entry k))
    (moved_subset_below hσ)

lemma sum_entry_comp (hrank : rank ≤ 4) (hσ : ∀ k : Fin 4, rank ≤ k → σ k = k)
    (f : ℕ → ℕ → ℕ) (shape strides : Dims) :
    ∑ k ∈ range rank, f (Dims.entry (shape ∘ σ) k) (Dims.entry (strides ∘ σ) k) =
      ∑ k ∈ range rank, f (shape.entry k) (strides.entry k) := by
  simp only [range_eq_below hrank, sum_map, Fin.valEmbedding_apply, entry_comp]
  exact Equiv.Perm.sum_comp σ (below rank) (fun k : Fin 4 => f (shape.entry k) (strides.entry k))
    (moved_subset_below hσ)

lemma runsFit_of_nonzero {shape : Dims}
    (h : ∏ k ∈ range rank with shape.entry k ≠ 0, shape.entry k < 2 ^ 64) : RunsFit rank shape := by
  intro k hk
  by_cases hzero : ∃ j ∈ range k, shape.entry j = 0
  · rw [prod_eq_zero_iff.mpr hzero]
    decide
  · push Not at hzero
    refine lt_of_le_of_lt (prod_le_prod_of_subset_of_one_le' ?_ ?_) h
    · intro j hj
      exact mem_filter.mpr ⟨range_subset_range.mpr hk hj, hzero j hj⟩
    · intro j hj _
      exact Nat.one_le_iff_ne_zero.mpr (mem_filter.mp hj).2

lemma runsFit_iff_of_nonempty {shape : Dims} (h : ∀ k < rank, shape.entry k ≠ 0) :
    RunsFit rank shape ↔ ∏ k ∈ range rank, shape.entry k < 2 ^ 64 := by
  constructor
  · intro hfit
    exact hfit rank le_rfl
  · intro hlt
    apply runsFit_of_nonzero
    rwa [filter_true_of_mem fun k hk => h k (mem_range.mp hk)]

lemma nonempty_iff_prod {shape : Dims} :
    (∀ k < rank, shape.entry k ≠ 0) ↔ ∏ k ∈ range rank, shape.entry k ≠ 0 := by
  simp [prod_ne_zero_iff]

lemma runsFit_comp (hrank : rank ≤ 4) (hσ : ∀ k : Fin 4, rank ≤ k → σ k = k) {shape : Dims}
    (h : (∀ k < rank, shape.entry k ≠ 0) ∨
      ∏ k ∈ range rank with shape.entry k ≠ 0, shape.entry k < 2 ^ 64) :
    RunsFit rank (shape ∘ σ) ↔ RunsFit rank shape := by
  have hcomp := prod_entry_comp hrank hσ
  obtain hsome | hfit := h
  · have hmoved : ∀ k < rank, Dims.entry (shape ∘ σ) k ≠ 0 := by
      rw [nonempty_iff_prod, hcomp (fun dim _ => dim) shape shape, ← nonempty_iff_prod]
      exact hsome
    rw [runsFit_iff_of_nonempty hsome, runsFit_iff_of_nonempty hmoved,
      hcomp (fun dim _ => dim) shape shape]
  · have hmoved : ∏ k ∈ range rank with Dims.entry (shape ∘ σ) k ≠ 0,
        Dims.entry (shape ∘ σ) k < 2 ^ 64 := by
      rw [prod_filter] at hfit ⊢
      rwa [hcomp (fun dim _ => if dim ≠ 0 then dim else 1) shape shape]
    exact iff_of_true (runsFit_of_nonzero hmoved) (runsFit_of_nonzero hfit)

end Permute

lemma validateShapeAndStrides_comp {rank : UInt32} {elementSize : UInt32} {limit : UInt64}
    {σ : Equiv.Perm (Fin 4)} (hσ : ∀ k : Fin 4, rank.toNat ≤ k → σ k = k)
    (hruns : RunsFit rank.toNat (shape ∘ σ) ↔ RunsFit rank.toNat shape) :
    validateShapeAndStrides rank (shape ∘ σ) (strides ∘ σ) elementSize limit =
      validateShapeAndStrides rank shape strides elementSize limit := by
  have hsame : validateShapeAndStrides rank (shape ∘ σ) (strides ∘ σ) elementSize limit = .ok ↔
      validateShapeAndStrides rank shape strides elementSize limit = .ok := by
    rw [validateShapeAndStrides_exact, validateShapeAndStrides_exact, hruns]
    refine and_congr_right fun hrank => ?_
    have hempty : ∀ d : Dims, (∃ k < rank.toNat, d.entry k = 0) ↔
        ∏ k ∈ range rank.toNat, d.entry k = 0 := by
      simp [prod_eq_zero_iff]
    have hprod := prod_entry_comp hrank hσ (fun dim _ => dim) shape strides
    have hspan : Strided.span rank.toNat (Dims.entry (shape ∘ σ)) (Dims.entry (strides ∘ σ)) =
        Strided.span rank.toNat shape.entry strides.entry :=
      sum_entry_comp hrank hσ (fun dim stride => (dim - 1) * stride) shape strides
    rw [hempty, hempty, hprod, hspan]
    refine and_congr_left fun _ => forall_congr' fun k => forall_congr' fun hk => ?_
    rw [entry_comp_fixed hσ shape hk, entry_comp_fixed hσ strides hk]
  obtain h | h := validateShapeAndStrides_answers rank shape strides elementSize limit
  · rw [h, hsame, h]
  · obtain h' | h' :=
      validateShapeAndStrides_answers rank (shape ∘ σ) (strides ∘ σ) elementSize limit
    · rw [hsame, h] at h'
      cases h'
    · rw [h, h']

/-- The validator decides the exact predicate and the overflow of a leading run, so the order of
the dimensions matters only where a zero dimension hides an overflow. -/
theorem validator_decides (rank : UInt32) (shape strides : Dims) (elementSize : UInt32)
    (limit : UInt64) :
    (validateShapeAndStrides rank shape strides elementSize limit = .ok ↔
      rank.toNat ≤ kMaxRank ∧
      (∀ k, rank.toNat ≤ k → shape.entry k = 0 ∧ strides.entry k = 0) ∧
      (∀ k ≤ rank.toNat, ∏ j ∈ range k, shape.entry j < 2 ^ 64) ∧
      (∏ k ∈ range rank.toNat, shape.entry k) * elementSize.toNat ≤ limit.toNat ∧
      ((∃ k < rank.toNat, shape.entry k = 0) ∨
        ∑ k ∈ range rank.toNat, (shape.entry k - 1) * strides.entry k + elementSize.toNat ≤
          limit.toNat)) ∧
    ∀ σ : Equiv.Perm (Fin 4), (∀ k : Fin 4, rank.toNat ≤ k → σ k = k) →
      ((∀ k < rank.toNat, shape.entry k ≠ 0) ∨
        ∏ k ∈ range rank.toNat with shape.entry k ≠ 0, shape.entry k < 2 ^ 64) →
      validateShapeAndStrides rank (shape ∘ σ) (strides ∘ σ) elementSize limit =
        validateShapeAndStrides rank shape strides elementSize limit := by
  refine ⟨validateShapeAndStrides_exact, fun σ hσ h => ?_⟩
  obtain hrank | hrank := Nat.lt_or_ge 4 rank.toNat
  · have hreject : ∀ shape strides : Dims,
        validateShapeAndStrides rank shape strides elementSize limit = .geometryMismatch :=
      fun _ _ => if_pos hrank
    rw [hreject, hreject]
  · exact validateShapeAndStrides_comp hσ (runsFit_comp hrank hσ h)

theorem validator_decides_transposed :
    validateShapeAndStrides 2 (![2, 3, 0, 0] ∘ Equiv.swap 0 1) (![3, 1, 0, 0] ∘ Equiv.swap 0 1) 1 6 =
      .ok :=
  ((validator_decides 2 ![2, 3, 0, 0] ![3, 1, 0, 0] 1 6).2 (Equiv.swap 0 1) (by decide)
    (Or.inl (by decide))).trans (by decide)

/-- Two large dimensions before a zero one. -/
def lateZero : Dims := ![2 ^ 32, 2 ^ 32, 0, 0]

/-- An empty array is refused for the product of its leading dimensions, and accepted with the
zero dimension first. -/
theorem late_zero_refused :
    validateShapeAndStrides 3 lateZero Dims.zero 1 4096 = .geometryMismatch ∧
      (∀ k, 3 ≤ k → lateZero.entry k = 0 ∧ Dims.zero.entry k = 0) ∧
      (∏ k ∈ range 3, lateZero.entry k) * 1 ≤ 4096 ∧ (∃ k < 3, lateZero.entry k = 0) ∧
      (∀ k : Fin 4, 3 ≤ k.val → Equiv.swap (0 : Fin 4) 2 k = k) ∧
      validateShapeAndStrides 3 (lateZero ∘ Equiv.swap 0 2) (Dims.zero ∘ Equiv.swap 0 2) 1 4096 =
        .ok := by
  refine ⟨by decide, ?_, by decide, by decide, by decide, by decide⟩
  exact zeroBeyondRank_iff.mp (by decide)

end TangoBulk
