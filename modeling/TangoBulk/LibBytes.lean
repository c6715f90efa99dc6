import Mathlib.Algebra.Order.Ring.Nat
import Mathlib.Data.List.Basic
import Mathlib.Data.Nat.ModEq
import Mathlib.Tactic.Common
import Mathlib.Tactic.Ring

/-! Byte strings that are filled and read at fixed offsets, and little-endian numbers
in them. `patch` overwrites a range in place; the window lemmas say what a later read
at another offset finds. -/
namespace ByteString

abbrev Bytes := List UInt8

/-- The `width` low-order bytes of a number, least significant first. -/
def leBytes : ℕ → ℕ → Bytes
  | 0, _ => []
  | width + 1, v => UInt8.ofNat v :: leBytes width (v / 256)

def leValue : Bytes → ℕ
  | [] => 0
  | b :: bs => b.toNat + 256 * leValue bs

@[simp] lemma leBytes_length (width v : ℕ) : (leBytes width v).length = width := by
  induction width generalizing v with
  | zero => rfl
  | succ width ih => simp [leBytes, ih]

@[simp] lemma leValue_leBytes (width v : ℕ) : leValue (leBytes width v) = v % 256 ^ width := by
  induction width generalizing v with
  | zero => simp [leBytes, leValue, Nat.mod_one]
  | succ width ih =>
    have hb : (UInt8.ofNat v).toNat = v % 256 := by simp
    rw [leBytes, leValue, ih, hb, pow_succ', Nat.mod_mul]

lemma leValue_lt (bs : Bytes) : leValue bs < 256 ^ bs.length := by
  induction bs with
  | nil => simp [leValue]
  | cons b =>
    have hb := b.toNat_lt
    simp only [leValue, List.length_cons, pow_succ']
    omega

lemma leBytes_leValue (bs : Bytes) : leBytes bs.length (leValue bs) = bs := by
  induction bs with
  | nil => rfl
  | cons b bs ih =>
    have hb := b.toNat_lt
    have hdiv : (b.toNat + 256 * leValue bs) / 256 = leValue bs := by omega
    simp only [leValue, List.length_cons, leBytes, hdiv, ih, List.cons.injEq, and_true]
    apply UInt8.toNat_inj.mp
    simp

def window (b : Bytes) (off n : ℕ) : Bytes := (b.drop off).take n

variable {b xs : Bytes} {off n off' : ℕ} {fields : List (ℕ × Bytes)}

lemma window_length (h : off + n ≤ b.length) : (window b off n).length = n := by
  simp [window]
  omega

/-- Overwrite the bytes from `off` on with `xs`. -/
def patch (b : Bytes) (off : ℕ) (xs : Bytes) : Bytes :=
  b.take off ++ xs ++ b.drop (off + xs.length)

lemma patch_length (h : off + xs.length ≤ b.length) : (patch b off xs).length = b.length := by
  simp [patch]
  omega

lemma window_patch_self (h : off + xs.length ≤ b.length) :
    window (patch b off xs) off xs.length = xs := by
  have hlen : (b.take off).length = off := by simp; omega
  rw [window, patch, List.append_assoc, List.drop_append_of_le_length (by omega),
    List.drop_of_length_le (by omega), List.nil_append, List.take_left]

/-- A read below the patched range is unchanged. -/
lemma window_patch_below (hd : off' + n ≤ off) (h : off + xs.length ≤ b.length) :
    window (patch b off xs) off' n = window b off' n := by
  have hlen : (b.take off).length = off := by simp; omega
  simp only [window, patch, List.append_assoc]
  rw [List.drop_append_of_le_length (by omega), List.take_append_of_le_length (by simp; omega),
    List.drop_take, List.take_take]
  congr 1
  omega

/-- A read above the patched range is unchanged. -/
lemma window_patch_above (hd : off + xs.length ≤ off') (h : off + xs.length ≤ b.length) :
    window (patch b off xs) off' n = window b off' n := by
  have hlen : (b.take off ++ xs).length = off + xs.length := by simp; omega
  obtain ⟨k, rfl⟩ := Nat.exists_eq_add_of_le hd
  simp only [window, patch]
  rw [← List.drop_drop, List.drop_left' hlen, List.drop_drop]

/-! ### Records laid out at fixed offsets -/

/-- A zeroed block with each field written at its offset. -/
def fill (n : ℕ) (fields : List (ℕ × Bytes)) : Bytes :=
  fields.foldl (fun b f => patch b f.1 f.2) (List.replicate n 0)

def disjointFrom (f g : ℕ × ℕ) : Bool := f.1 + f.2 ≤ g.1 || g.1 + g.2 ≤ f.1

/-- Ranges `(offset, length)` inside a block of `n` bytes, pairwise disjoint. -/
def laidOut (n : ℕ) : List (ℕ × ℕ) → Bool
  | [] => true
  | f :: rest => f.1 + f.2 ≤ n && rest.all (disjointFrom f) && laidOut n rest

def ranges (fields : List (ℕ × Bytes)) : List (ℕ × ℕ) := fields.map fun f => (f.1, f.2.length)

lemma window_patch_disjoint (hd : disjointFrom (off, xs.length) (off', n) = true)
    (h : off + xs.length ≤ b.length) : window (patch b off xs) off' n = window b off' n := by
  simp only [disjointFrom, Bool.or_eq_true, decide_eq_true_eq] at hd
  rcases hd with hd | hd
  · exact window_patch_above hd h
  · exact window_patch_below hd h

lemma foldl_patch_length (hl : laidOut n (ranges fields) = true) (hb : b.length = n) :
    (fields.foldl (fun b f => patch b f.1 f.2) b).length = n := by
  induction fields generalizing b with
  | nil => exact hb
  | cons f rest ih =>
    simp only [ranges, List.map_cons, laidOut, Bool.and_eq_true, decide_eq_true_eq] at hl
    exact ih hl.2 ((patch_length (by omega)).trans hb)

lemma fill_length (hl : laidOut n (ranges fields) = true) : (fill n fields).length = n :=
  foldl_patch_length hl (List.length_replicate)

/-- Later fields leave a range alone that is disjoint from all of them. -/
lemma window_foldl_patch {len : ℕ} (hl : laidOut n (ranges fields) = true) (hb : b.length = n)
    (hd : (ranges fields).all (disjointFrom (off, len)) = true) :
    window (fields.foldl (fun b f => patch b f.1 f.2) b) off len = window b off len := by
  induction fields generalizing b with
  | nil => rfl
  | cons f rest ih =>
    simp only [ranges, List.map_cons, laidOut, Bool.and_eq_true, decide_eq_true_eq] at hl
    simp only [ranges, List.map_cons, List.all_cons, Bool.and_eq_true] at hd
    have hsym : disjointFrom (f.1, f.2.length) (off, len) = true := by
      simpa only [disjointFrom, Bool.or_comm] using hd.1
    rw [List.foldl_cons, ih hl.2 ((patch_length (by omega)).trans hb) hd.2]
    exact window_patch_disjoint hsym (by omega)

/-- Every field of a well laid-out block can be read back. -/
lemma window_fill (hl : laidOut n (ranges fields) = true) (hm : (off, xs) ∈ fields) :
    window (fill n fields) off xs.length = xs := by
  suffices h : ∀ b : Bytes, b.length = n →
      window (fields.foldl (fun b f => patch b f.1 f.2) b) off xs.length = xs from
    h _ List.length_replicate
  induction fields with
  | nil => simp at hm
  | cons f rest ih =>
    intro b hb
    simp only [ranges, List.map_cons, laidOut, Bool.and_eq_true, decide_eq_true_eq] at hl
    have hlen : (patch b f.1 f.2).length = n := (patch_length (by omega)).trans hb
    rcases List.mem_cons.mp hm with rfl | hm
    · rw [List.foldl_cons, window_foldl_patch hl.2 hlen hl.1.2]
      exact window_patch_self (by omega)
    · exact ih hl.2 hm _ hlen

end ByteString
