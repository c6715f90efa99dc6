import Mathlib.Data.List.Basic
import Mathlib.Data.Nat.ModEq
import Mathlib.Tactic.Common

/-! Bitmaps stored as a list of machine words: bit `b` is bit `b % w` of word `b / w`. -/
namespace Bitmap

variable {w : ℕ}

def test (words : List (BitVec w)) (bit : ℕ) : Bool :=
  words.getD (bit / w) 0 &&& (1#w <<< (bit % w)) != 0#w

def set (words : List (BitVec w)) (bit : ℕ) : List (BitVec w) :=
  words.modify (bit / w) fun word => word ||| (1#w <<< (bit % w))

def clear (words : List (BitVec w)) (bit : ℕ) : List (BitVec w) :=
  words.modify (bit / w) fun word => word &&& ~~~(1#w <<< (bit % w))

@[simp] lemma set_length (words : List (BitVec w)) (bit : ℕ) :
    (set words bit).length = words.length := by
  simp [set]

@[simp] lemma clear_length (words : List (BitVec w)) (bit : ℕ) :
    (clear words bit).length = words.length := by
  simp [clear]

lemma position_inj {b c : ℕ} (hd : b / w = c / w) (hm : b % w = c % w) : b = c := by
  rw [← Nat.div_add_mod b w, ← Nat.div_add_mod c w, hd, hm]

lemma getLsbD_mask {k i : ℕ} (hi : i < w) : (1#w <<< k).getLsbD i = decide (k = i) := by
  have h := BitVec.getLsbD_twoPow (w := w) k i
  rw [BitVec.twoPow] at h
  rw [h]
  by_cases hk : k = i
  · simp [hk, hi]
  · simp [hk]

lemma test_eq (hw : 0 < w) (words : List (BitVec w)) (bit : ℕ) :
    test words bit = (words.getD (bit / w) 0).getLsbD (bit % w) := by
  have hlt : bit % w < w := Nat.mod_lt _ hw
  unfold test
  have hand := BitVec.and_twoPow (words.getD (bit / w) 0) (bit % w)
  rw [BitVec.twoPow] at hand
  rw [hand]
  by_cases hb : (words.getD (bit / w) 0).getLsbD (bit % w) = true
  · have hne : 1#w <<< (bit % w) ≠ 0#w := by
      intro h0
      have hbit := getLsbD_mask (k := bit % w) hlt
      rw [h0] at hbit
      simp at hbit
    rw [if_pos hb, hb]
    simpa using hne
  · rw [if_neg hb]
    simpa using hb

lemma getD_modify (words : List (BitVec w)) (f : BitVec w → BitVec w) (i j : ℕ) :
    (words.modify i f).getD j 0 =
      if i = j ∧ j < words.length then f (words.getD j 0) else words.getD j 0 := by
  simp only [List.getD_eq_getElem?_getD, List.getElem?_modify]
  by_cases hj : j < words.length
  · by_cases hij : i = j <;> simp [hij, hj]
  · simp [hj]

lemma test_set (hw : 0 < w) {words : List (BitVec w)} {b : ℕ} (hb : b / w < words.length)
    (c : ℕ) : test (set words b) c = (decide (b = c) || test words c) := by
  have hlt : c % w < w := Nat.mod_lt _ hw
  rw [test_eq hw, test_eq hw, set, getD_modify]
  by_cases hd : b / w = c / w
  · have hiff : b = c ↔ b % w = c % w := ⟨fun h => by rw [h], position_inj hd⟩
    rw [if_pos ⟨hd, hd ▸ hb⟩, BitVec.getLsbD_or, getLsbD_mask hlt, Bool.or_comm]
    simp only [hiff]
  · have hne : b ≠ c := fun h => hd (by rw [h])
    rw [if_neg (fun h => hd h.1)]
    simp [hne]

lemma test_clear (hw : 0 < w) (words : List (BitVec w)) (b c : ℕ) :
    test (clear words b) c = (!decide (b = c) && test words c) := by
  have hlt : c % w < w := Nat.mod_lt _ hw
  rw [test_eq hw, test_eq hw, clear, getD_modify]
  by_cases hd : b / w = c / w
  · have hiff : b = c ↔ b % w = c % w := ⟨fun h => by rw [h], position_inj hd⟩
    by_cases hc : c / w < words.length
    · rw [if_pos ⟨hd, hc⟩, BitVec.getLsbD_and, BitVec.getLsbD_not, getLsbD_mask hlt, Bool.and_comm]
      simp [hlt, hiff]
    · simp [hc]
  · have hne : b ≠ c := fun h => hd (by rw [h])
    rw [if_neg (fun h => hd h.1)]
    simp [hne]

@[simp] lemma test_replicate_zero (hw : 0 < w) (n bit : ℕ) :
    test (List.replicate n (0 : BitVec w)) bit = false := by
  rw [test_eq hw, List.getD_eq_getElem?_getD, List.getElem?_replicate]
  split <;> simp

end Bitmap
