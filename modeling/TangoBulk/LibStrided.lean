import Mathlib.Algebra.BigOperators.Fin
import Mathlib.Algebra.BigOperators.Intervals
import Mathlib.Algebra.Order.BigOperators.Group.Finset
import Mathlib.Algebra.Order.BigOperators.Ring.Finset
import Mathlib.Algebra.Order.Ring.Nat
import Mathlib.Order.PiLex
import Mathlib.Tactic.Common
import Mathlib.Tactic.Ring

/-! Strided arrays in exact arithmetic: how far the elements of an array reach, and the strides of
the row-major layout, under which the elements of an array follow one another without a gap. -/
namespace Strided

open Finset

variable {n k : ℕ} {shape strides i j : ℕ → ℕ}

/-- `i` is the index of an element of an array with `n` dimensions. -/
def InBounds (n : ℕ) (shape i : ℕ → ℕ) : Prop := ∀ k < n, i k < shape k

def offset (n : ℕ) (strides i : ℕ → ℕ) : ℕ := ∑ k ∈ range n, i k * strides k

/-- The offset of the last element along every dimension. -/
def span (n : ℕ) (shape strides : ℕ → ℕ) : ℕ := ∑ k ∈ range n, (shape k - 1) * strides k

lemma offset_le_span (h : InBounds n shape i) : offset n strides i ≤ span n shape strides := by
  apply sum_le_sum
  intro k hk
  have hlt := h k (mem_range.mp hk)
  exact Nat.mul_le_mul_right _ (by omega)

lemma inBounds_last (h : ∀ k < n, shape k ≠ 0) : InBounds n shape fun k => shape k - 1 := by
  intro k hk
  have hpos := h k hk
  dsimp only
  omega

lemma reach_le_span (hk : k < n) : (shape k - 1) * strides k ≤ span n shape strides :=
  single_le_sum (f := fun k => (shape k - 1) * strides k) (fun _ _ => Nat.zero_le _)
    (mem_range.mpr hk)

/-! ### Row-major order -/

/-- The number of elements below one index tuple of the dimensions before `k`. -/
def block (n : ℕ) (shape : ℕ → ℕ) (k : ℕ) : ℕ := ∏ j ∈ Ico k n, shape j

lemma block_self (n : ℕ) (shape : ℕ → ℕ) : block n shape n = 1 := by simp [block]

lemma block_step (hk : k < n) : block n shape k = shape k * block n shape (k + 1) :=
  prod_eq_prod_Ico_succ_bot hk shape

lemma block_zero (n : ℕ) (shape : ℕ → ℕ) : block n shape 0 = ∏ k ∈ range n, shape k := by
  rw [block, range_eq_Ico]

lemma block_succ (hk : k ≤ n) : block (n + 1) shape k = block n shape k * shape n :=
  prod_Ico_succ_top hk shape

lemma block_le (h : ∀ k < n, shape k ≠ 0) (hk : k ≤ n) : block n shape k ≤ block n shape 0 := by
  rw [block_zero, ← prod_range_mul_prod_Ico shape hk, block]
  apply Nat.le_mul_of_pos_left
  exact Finset.prod_pos fun j hj => Nat.pos_of_ne_zero (h j (by have := mem_range.mp hj; omega))

/-- The contiguous layout, innermost dimension last. -/
def rowStrides (size n : ℕ) (shape : ℕ → ℕ) (k : ℕ) : ℕ := size * block n shape (k + 1)

/-- The position of an element in row-major order. -/
def position (n : ℕ) (shape i : ℕ → ℕ) : ℕ := ∑ k ∈ range n, i k * block n shape (k + 1)

lemma offset_rowStrides (size : ℕ) :
    offset n (rowStrides size n shape) i = position n shape i * size := by
  rw [offset, position, sum_mul]
  apply sum_congr rfl
  intro k _
  rw [rowStrides]
  ring

/-- What the dimensions from `k` on add to a position. -/
lemma rest_lt (h : InBounds n shape i) {m : ℕ} (hk : k + m = n) :
    ∑ l ∈ Ico k n, i l * block n shape (l + 1) < block n shape k := by
  induction m generalizing k with
  | zero =>
    obtain rfl : k = n := by omega
    simp [block_self]
  | succ m ih =>
    have hlt : k < n := by omega
    have hrest := ih (k := k + 1) (by omega)
    rw [sum_eq_sum_Ico_succ_bot hlt, block_step hlt]
    calc i k * block n shape (k + 1) + ∑ l ∈ Ico (k + 1) n, i l * block n shape (l + 1)
        < i k * block n shape (k + 1) + block n shape (k + 1) := Nat.add_lt_add_left hrest _
      _ = (i k + 1) * block n shape (k + 1) := by ring
      _ ≤ shape k * block n shape (k + 1) := Nat.mul_le_mul_right _ (h k hlt)

lemma position_lt (h : InBounds n shape i) : position n shape i < block n shape 0 := by
  rw [position, range_eq_Ico]
  exact rest_lt h (m := n) (by omega)

lemma position_lt_position (hi : InBounds n shape i) (hk : k < n)
    (hsame : ∀ l < k, i l = j l) (hlt : i k < j k) : position n shape i < position n shape j := by
  have hsplit : ∀ t : ℕ → ℕ, position n shape t =
      ∑ l ∈ range k, t l * block n shape (l + 1) +
        (t k * block n shape (k + 1) + ∑ l ∈ Ico (k + 1) n, t l * block n shape (l + 1)) := by
    intro t
    rw [position, range_eq_Ico, range_eq_Ico, ← sum_Ico_consecutive _ (Nat.zero_le k) hk.le,
      sum_eq_sum_Ico_succ_bot hk]
  have hfront : ∑ l ∈ range k, i l * block n shape (l + 1) =
      ∑ l ∈ range k, j l * block n shape (l + 1) :=
    sum_congr rfl fun l hl => by rw [hsame l (mem_range.mp hl)]
  rw [hsplit i, hsplit j, hfront]
  apply Nat.add_lt_add_left
  have hrest := rest_lt hi (m := n - (k + 1)) (k := k + 1) (by omega)
  calc i k * block n shape (k + 1) + ∑ l ∈ Ico (k + 1) n, i l * block n shape (l + 1)
      < (i k + 1) * block n shape (k + 1) := by rw [Nat.succ_mul]; exact Nat.add_lt_add_left hrest _
    _ ≤ j k * block n shape (k + 1) := Nat.mul_le_mul_right _ hlt
    _ ≤ _ := Nat.le_add_right _ _

/-- The index along dimension `k` of the element at a position. -/
def digit (n : ℕ) (shape : ℕ → ℕ) (q k : ℕ) : ℕ := q / block n shape (k + 1) % shape k

lemma digit_inBounds (h : ∀ k < n, shape k ≠ 0) (q : ℕ) : InBounds n shape (digit n shape q) :=
  fun k hk => Nat.mod_lt _ (Nat.pos_of_ne_zero (h k hk))

lemma rest_digit (q : ℕ) {m : ℕ} (hk : k + m = n) :
    ∑ l ∈ Ico k n, digit n shape q l * block n shape (l + 1) = q % block n shape k := by
  induction m generalizing k with
  | zero =>
    obtain rfl : k = n := by omega
    simp [block_self, Nat.mod_one]
  | succ m ih =>
    have hlt : k < n := by omega
    rw [sum_eq_sum_Ico_succ_bot hlt, ih (k := k + 1) (by omega), block_step hlt,
      Nat.mul_comm (shape k), Nat.mod_mul, digit]
    ring

lemma position_digit {q : ℕ} (h : q < block n shape 0) :
    position n shape (digit n shape q) = q := by
  rw [position, range_eq_Ico, rest_digit q (m := n) (by omega), Nat.mod_eq_of_lt h]

/-! ### Index tuples -/

/-- A tuple as a function on all dimensions. -/
def extend (t : Fin n → ℕ) (k : ℕ) : ℕ := if h : k < n then t ⟨k, h⟩ else 0

lemma extend_fin (t : Fin n → ℕ) (k : Fin n) : extend t k = t k := by simp [extend]

lemma extend_inBounds {t : Fin n → ℕ} (h : ∀ k, t k < shape k) : InBounds n shape (extend t) := by
  intro k hk
  have hlt := h ⟨k, hk⟩
  simpa [extend, hk] using hlt

lemma offset_extend (t : Fin n → ℕ) :
    offset n strides (extend t) = ∑ k : Fin n, t k * strides k := by
  rw [offset, sum_range]
  exact sum_congr rfl fun k _ => by rw [extend_fin]

/-- In the row-major layout an earlier element has the smaller offset. -/
lemma rowStrides_increasing {size : ℕ} (hsize : 0 < size) {t u : Fin n → ℕ}
    (ht : ∀ k, t k < shape k) (h : toLex t < toLex u) :
    ∑ k : Fin n, t k * rowStrides size n shape k <
      ∑ k : Fin n, u k * rowStrides size n shape k := by
  obtain ⟨k, hsame, hlt⟩ := h
  rw [← offset_extend, ← offset_extend, offset_rowStrides, offset_rowStrides]
  apply Nat.mul_lt_mul_of_pos_right _ hsize
  apply position_lt_position (extend_inBounds ht) k.isLt
  · intro l hl
    have hl' : l < n := hl.trans k.isLt
    have heq : t ⟨l, hl'⟩ = u ⟨l, hl'⟩ := hsame ⟨l, hl'⟩ hl
    simpa [extend, hl'] using heq
  · rw [extend_fin, extend_fin]
    exact hlt

/-- The elements of an array in row-major layout are at the multiples of their size, one at each
of them. -/
lemma rowStrides_bijOn {size : ℕ} (hsize : 0 < size) (hshape : ∀ k < n, shape k ≠ 0) :
    Set.BijOn (fun t : Fin n → ℕ => ∑ k, t k * rowStrides size n shape k)
      {t | ∀ k, t k < shape k}
      {x | size ∣ x ∧ x ≤ (∏ k ∈ range n, shape k - 1) * size} := by
  have hpos : 0 < ∏ k ∈ range n, shape k := Finset.prod_pos fun k hk =>
    Nat.pos_of_ne_zero (hshape k (mem_range.mp hk))
  refine ⟨fun t ht => ?_, fun t ht u hu heq => ?_, ?_⟩
  · have hlt := position_lt (extend_inBounds ht)
    rw [block_zero] at hlt
    have hle : position n shape (extend t) ≤ ∏ k ∈ range n, shape k - 1 := by omega
    dsimp only
    rw [← offset_extend, offset_rowStrides]
    exact ⟨Nat.dvd_mul_left _ _, Nat.mul_le_mul_right _ hle⟩
  · obtain h | h | h := lt_trichotomy (toLex t) (toLex u)
    · exact absurd heq (rowStrides_increasing hsize ht h).ne
    · exact toLex_inj.mp h
    · exact absurd heq (rowStrides_increasing hsize hu h).ne'
  · rintro x ⟨⟨q, rfl⟩, hle⟩
    rw [Nat.mul_comm] at hle
    have hq := Nat.le_of_mul_le_mul_right hle hsize
    have hlt : q < block n shape 0 := by
      rw [block_zero]
      omega
    refine ⟨fun k => digit n shape q k, fun k => digit_inBounds hshape q k k.isLt, ?_⟩
    dsimp only
    rw [← sum_range (fun k => digit n shape q k * rowStrides size n shape k), ← offset,
      offset_rowStrides, position_digit hlt, Nat.mul_comm]

end Strided
