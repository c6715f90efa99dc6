import Mathlib.Algebra.Order.Ring.Nat
import Mathlib.Data.Nat.Bitwise
import Mathlib.Order.CompletePartialOrder
import Mathlib.Order.Interval.Set.Disjoint
import Mathlib.Tactic.Common

/-! Slots of one size at the multiples of a stride, rounding up to whole pages, and the mask test
for powers of two. -/
namespace Slots

/-! ### Ranges -/

/-- The bytes of slot `i`. -/
def range (stride size i : ℕ) : Set ℕ := Set.Ico (i * stride) (i * stride + size)

variable {stride size : ℕ}

lemma disjoint_of_lt (hsize : size ≤ stride) {i j : ℕ} (hij : i < j) :
    Disjoint (range stride size i) (range stride size j) := by
  rw [range, range, Set.Ico_disjoint_Ico]
  have hnext : i * stride + stride ≤ j * stride := by
    rw [← Nat.succ_mul]
    exact Nat.mul_le_mul_right stride hij
  omega

lemma disjoint (hsize : size ≤ stride) {i j : ℕ} (hij : i ≠ j) :
    Disjoint (range stride size i) (range stride size j) := by
  rcases Nat.lt_or_gt_of_ne hij with hlt | hgt
  · exact disjoint_of_lt hsize hlt
  · exact (disjoint_of_lt hsize hgt).symm

/-- The slots before slot `depth` stay below `stride * depth`. -/
lemma range_subset (hsize : size ≤ stride) {depth i : ℕ} (hi : i < depth) :
    range stride size i ⊆ Set.Iio (stride * depth) := by
  intro byte hbyte
  have hend : byte < i * stride + size := hbyte.2
  have hnext : i * stride + stride ≤ depth * stride := by
    rw [← Nat.succ_mul]
    exact Nat.mul_le_mul_right stride hi
  rw [Set.mem_Iio, Nat.mul_comm]
  omega

/-! ### Pages -/

def alignUp (n page : ℕ) : ℕ := (n + page - 1) / page * page

lemma dvd_alignUp (n page : ℕ) : page ∣ alignUp n page := Nat.dvd_mul_left _ _

lemma le_alignUp (n : ℕ) {page : ℕ} (hpage : 0 < page) : n ≤ alignUp n page := by
  have hdiv := Nat.div_add_mod (n + page - 1) page
  have hmod := Nat.mod_lt (n + page - 1) hpage
  rw [alignUp, Nat.mul_comm]
  omega

lemma alignUp_lt (n : ℕ) {page : ℕ} (hpage : 0 < page) : alignUp n page < n + page := by
  have hle := Nat.div_mul_le_self (n + page - 1) page
  rw [alignUp]
  omega

/-! ### Powers of two -/

lemma two_pow_and_sub_one (k : ℕ) : 2 ^ k &&& (2 ^ k - 1) = 0 := by
  rw [Nat.two_pow_and, Nat.testBit_two_pow_sub_one]
  simp

/-- A number and its predecessor share their top bit unless the number is that bit alone. -/
lemma and_sub_one_ne_zero {n k : ℕ} (hlow : 2 ^ k < n) (hhigh : n < 2 ^ (k + 1)) :
    n &&& (n - 1) ≠ 0 := by
  intro hzero
  have hbit : (n &&& (n - 1)).testBit k = true := by
    rw [Nat.testBit_and, Nat.testBit_of_two_pow_le_and_two_pow_add_one_gt (by omega) hhigh,
      Nat.testBit_of_two_pow_le_and_two_pow_add_one_gt (by omega) (by omega), Bool.and_self]
  rw [hzero, Nat.zero_testBit] at hbit
  cases hbit

end Slots
