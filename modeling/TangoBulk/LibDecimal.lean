import Mathlib.Data.List.TakeWhile
import TangoBulk.LibBytes

/-! Decimal numbers in byte strings: the notation without leading zeros, and a bounded reader
that takes the longest run of digits. Lists of such fields are joined by a separator byte. -/
namespace ByteString

def decimal (n : ℕ) : Bytes := (Nat.toDigits 10 n).map fun c => UInt8.ofNat c.toNat

def isDecimalDigit (b : UInt8) : Bool := 48 ≤ b ∧ b ≤ 57

/-- The number that a run of digits denotes. -/
def decimalValue (run : Bytes) : ℕ := run.foldl (fun n b => 10 * n + (b.toNat - 48)) 0

/-- The number at the front of a text and what follows its digits, unless there is none or it
is not below the bound. -/
def readDecimal (bound : ℕ) (text : Bytes) : Option (ℕ × Bytes) :=
  let run := text.takeWhile isDecimalDigit
  if run = [] ∨ bound ≤ decimalValue run then none
  else some (decimalValue run, text.dropWhile isDecimalDigit)

lemma toNat_of_mem_toDigits {n : ℕ} {c : Char} (h : c ∈ Nat.toDigits 10 n) :
    (UInt8.ofNat c.toNat).toNat = c.toNat ∧ 48 ≤ c.toNat ∧ c.toNat ≤ 57 := by
  have hdigit := Nat.isDigit_of_mem_toDigits (by decide) (by decide) h
  obtain ⟨hlow, hhigh⟩ : 48 ≤ c.toNat ∧ c.toNat ≤ 57 := Char.isDigit_iff_toNat.mp hdigit
  have hsmall : c.toNat < UInt8.size := Nat.lt_of_le_of_lt hhigh (by decide)
  exact ⟨UInt8.toNat_ofNat_of_lt hsmall, hlow, hhigh⟩

lemma isDecimalDigit_of_mem {n : ℕ} {b : UInt8} (h : b ∈ decimal n) : isDecimalDigit b = true := by
  obtain ⟨c, hc, rfl⟩ := List.mem_map.mp h
  obtain ⟨hbyte, hlow, hhigh⟩ := toNat_of_mem_toDigits hc
  simp only [isDecimalDigit, UInt8.le_iff_toNat_le, hbyte]
  exact decide_eq_true ⟨hlow, hhigh⟩

lemma decimalValue_decimal (n : ℕ) : decimalValue (decimal n) = n := by
  unfold decimalValue decimal
  rw [List.foldl_map]
  calc (Nat.toDigits 10 n).foldl (fun m c => 10 * m + ((UInt8.ofNat c.toNat).toNat - 48)) 0
      = Nat.ofDigitChars 10 (Nat.toDigits 10 n) 0 :=
        List.foldl_ext _ _ _ fun m c hc => by
          rw [(toNat_of_mem_toDigits hc).1]
          rfl
    _ = n := Nat.ofDigitChars_toDigits (by decide) (by decide)

lemma readDecimal_decimal {n bound : ℕ} (h : n < bound) :
    readDecimal bound (decimal n) = some (n, []) := by
  have hall : ∀ b ∈ decimal n, isDecimalDigit b = true := fun b => isDecimalDigit_of_mem
  have hne : decimal n ≠ [] := by simp [decimal]
  have hrun : (decimal n).takeWhile isDecimalDigit = decimal n :=
    List.takeWhile_eq_self_iff.mpr hall
  have hrest : (decimal n).dropWhile isDecimalDigit = [] := List.dropWhile_eq_nil_iff.mpr hall
  simp [readDecimal, hrun, hrest, hne, decimalValue_decimal, h]

/-- The text is the number in decimal digits, leading zeros allowed, and nothing else. -/
structure IsNumber (bound : ℕ) (text : Bytes) (n : ℕ) : Prop where
  nonempty : text ≠ []
  digits : ∀ b ∈ text, isDecimalDigit b = true
  value : decimalValue text = n
  below : n < bound

/-- The reader takes the whole text exactly if it is a number. -/
lemma readDecimal_eq_some {bound n : ℕ} {text : Bytes} :
    readDecimal bound text = some (n, []) ↔ IsNumber bound text n := by
  unfold readDecimal
  dsimp only
  constructor
  · intro h
    split_ifs at h with hrun
    obtain ⟨hvalue, hrest⟩ := Prod.mk.inj (Option.some.inj h)
    have hdigits : ∀ b ∈ text, isDecimalDigit b = true := List.dropWhile_eq_nil_iff.mp hrest
    have hall : text.takeWhile isDecimalDigit = text := List.takeWhile_eq_self_iff.mpr hdigits
    rw [hall] at hrun hvalue
    simp only [not_or, Nat.not_le] at hrun
    exact ⟨hrun.1, hdigits, hvalue, hvalue ▸ hrun.2⟩
  · intro h
    have hall : text.takeWhile isDecimalDigit = text := List.takeWhile_eq_self_iff.mpr h.digits
    have hrest : text.dropWhile isDecimalDigit = [] := List.dropWhile_eq_nil_iff.mpr h.digits
    have hbelow := h.below
    rw [hall, hrest, h.value, if_neg (by simp [h.nonempty, hbelow])]

/-! ### Fields -/

/-- The text is the fields one after another with the separator between them, which occurs in none
of them. -/
structure Separated (separator : UInt8) (fields : List Bytes) (text : Bytes) : Prop where
  joined : text = [separator].intercalate fields
  apart : ∀ field ∈ fields, separator ∉ field

lemma not_mem_of_mem_splitOn {separator : UInt8} {text field : Bytes}
    (h : field ∈ text.splitOn separator) : separator ∉ field := by
  induction text generalizing field with
  | nil =>
    rw [List.splitOn_nil, List.mem_singleton] at h
    simp [h]
  | cons b text ih =>
    rw [List.splitOn_cons_eq_if_modifyHead] at h
    split_ifs at h with hb
    · rcases List.mem_cons.mp h with rfl | h
      · simp
      · exact ih h
    · -- the byte joins the first field of the rest
      obtain ⟨first, rest, hsplit⟩ := List.exists_cons_of_ne_nil (List.splitOn_ne_nil separator text)
      rw [hsplit] at h ih
      rcases List.mem_cons.mp h with rfl | h
      · have hfirst := ih (List.mem_cons_self ..)
        have hother : separator ≠ b := fun he => hb (by simp [he])
        simp [hfirst, hother]
      · exact ih (List.mem_cons_of_mem _ h)

lemma splitOn_eq {separator : UInt8} {text : Bytes} {fields : List Bytes} (hne : fields ≠ []) :
    text.splitOn separator = fields ↔ Separated separator fields text := by
  constructor
  · rintro rfl
    exact ⟨(List.intercalate_splitOn separator).symm, fun _ => not_mem_of_mem_splitOn⟩
  · rintro ⟨rfl, hapart⟩
    exact List.splitOn_intercalate separator hapart hne

end ByteString
