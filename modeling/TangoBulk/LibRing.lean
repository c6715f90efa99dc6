import Mathlib.Algebra.Order.Ring.Nat
import Mathlib.Data.Nat.ModEq
import Mathlib.Tactic.Common

/-! Ring indices. A window of at most `n` consecutive numbers has pairwise distinct
residues modulo `n`, which is what lets a ring of `n` cells hold one entry for each.
Positions kept in a machine word wrap, and still index a ring of `2 ^ k` cells and are
still ordered as long as they are close together. -/
namespace Ring

lemma index_injective {n lo a b : ℕ} (ha : lo ≤ a) (ha' : a < lo + n) (hb : lo ≤ b)
    (hb' : b < lo + n) (h : a % n = b % n) : a = b := by
  have hmod : a ≡ b [MOD n] := h
  rcases Nat.le_total a b with hab | hab
  · have := (Nat.modEq_iff_dvd' hab).mp hmod
    rcases Nat.eq_zero_or_pos (b - a) with hz | hp
    · omega
    · have := Nat.le_of_dvd hp this
      omega
  · have := (Nat.modEq_iff_dvd' hab).mp hmod.symm
    rcases Nat.eq_zero_or_pos (a - b) with hz | hp
    · omega
    · have := Nat.le_of_dvd hp this
      omega

lemma index_ne {n lo a b : ℕ} (ha : lo ≤ a) (ha' : a < lo + n) (hb : lo ≤ b)
    (hb' : b < lo + n) (h : a ≠ b) : a % n ≠ b % n :=
  fun he => h (index_injective ha ha' hb hb' he)

/-- A window of `n` consecutive numbers has one on each index. -/
lemma exists_index {n b : ℕ} (lo : ℕ) (hb : b < n) : ∃ q, lo ≤ q ∧ q < lo + n ∧ q % n = b := by
  have hlo := Nat.div_add_mod lo n
  have hlt := Nat.mod_lt lo (Nat.zero_lt_of_lt hb)
  rcases Nat.lt_or_ge b (lo % n) with hlow | hhigh
  · refine ⟨n * (lo / n + 1) + b, ?_, ?_, ?_⟩
    · rw [Nat.mul_add]
      omega
    · rw [Nat.mul_add]
      omega
    · rw [Nat.mul_add_mod, Nat.mod_eq_of_lt hb]
  · refine ⟨n * (lo / n) + b, by omega, by omega, ?_⟩
    rw [Nat.mul_add_mod, Nat.mod_eq_of_lt hb]

/-! ### Wrapping positions -/

/-- How far a wrapping position is ahead of another: the signed difference. -/
def distance {w : ℕ} (a b : BitVec w) : ℤ := (a - b).toInt

/-- Positions less than half a turn apart are as far apart as the numbers they stand for. -/
lemma distance_ofNat {w a b : ℕ} (hlo : -2 ^ w ≤ ((a : ℤ) - b) * 2)
    (hhi : ((a : ℤ) - b) * 2 < 2 ^ w) : distance (BitVec.ofNat w a) (BitVec.ofNat w b) = a - b := by
  rw [distance, BitVec.toInt_sub, BitVec.toInt_ofNat', BitVec.toInt_ofNat', Int.sub_bmod_bmod,
    Int.bmod_sub_bmod]
  exact Int.bmod_eq_of_le_mul_two (by exact_mod_cast hlo) (by exact_mod_cast hhi)

lemma distance_eq_zero {w : ℕ} {a b : BitVec w} : distance a b = 0 ↔ a = b := by
  rw [distance, ← BitVec.toInt_zero (w := w), BitVec.toInt_inj, BitVec.sub_eq_iff_eq_add,
    BitVec.zero_add]

/-- Numbers less than a whole turn apart are told apart by their positions. -/
lemma ofNat_injective {w a b : ℕ} (hle : a ≤ b) (hlt : b < a + 2 ^ w)
    (h : BitVec.ofNat w a = BitVec.ofNat w b) : a = b := by
  have hmod : a % 2 ^ w = b % 2 ^ w := by
    rw [← BitVec.toNat_ofNat, ← BitVec.toNat_ofNat, h]
  exact index_injective le_rfl (by have := Nat.two_pow_pos w; omega) hle hlt hmod

/-- Masking a wrapping position gives the index of the number it stands for. -/
lemma mask_ofNat {w k : ℕ} (n : ℕ) (hk : k ≤ w) :
    (BitVec.ofNat w n &&& BitVec.ofNat w (2 ^ k - 1)).toNat = n % 2 ^ k := by
  have hle : 2 ^ k ≤ 2 ^ w := Nat.pow_le_pow_right (by omega) hk
  have hpos : 0 < 2 ^ k := Nat.two_pow_pos k
  have hmask : (2 ^ k - 1) % 2 ^ w = 2 ^ k - 1 := Nat.mod_eq_of_lt (by omega)
  rw [BitVec.toNat_and, BitVec.toNat_ofNat, BitVec.toNat_ofNat, hmask,
    Nat.and_two_pow_sub_one_eq_mod, Nat.mod_mod_of_dvd _ (Nat.pow_dvd_pow 2 hk)]

end Ring
