import TangoBulk.LibBytes

/-! Records in a byte string: which fields it holds at their offsets. A record whose fields
leave no gap is the byte string that holds them, and bytes that no field lies on may change. -/
namespace ByteString

variable {a b rest : Bytes} {f : ℕ × Bytes} {fields : List (ℕ × Bytes)}

/-- The field is at its offset. -/
def Holds (b : Bytes) (f : ℕ × Bytes) : Prop :=
  f.1 + f.2.length ≤ b.length ∧ window b f.1 f.2.length = f.2

instance (b : Bytes) (f : ℕ × Bytes) : Decidable (Holds b f) := inferInstanceAs (Decidable (_ ∧ _))

def Carries (b : Bytes) (fields : List (ℕ × Bytes)) : Prop := ∀ f ∈ fields, Holds b f

@[simp] lemma carries_nil (b : Bytes) : Carries b [] := by simp [Carries]

@[simp] lemma carries_cons : Carries b (f :: fields) ↔ Holds b f ∧ Carries b fields := by
  simp [Carries]

@[simp] lemma carries_append {more : List (ℕ × Bytes)} :
    Carries b (fields ++ more) ↔ Carries b fields ∧ Carries b more := by
  simp [Carries, or_imp, forall_and]

variable {off n start stop : ℕ} {xs : Bytes}

lemma window_append (h : off + n ≤ b.length) (rest : Bytes) :
    window (b ++ rest) off n = window b off n := by
  rw [window, window, List.drop_append_of_le_length (by omega),
    List.take_append_of_le_length (by simp; omega)]

lemma Holds.append (h : Holds b f) (rest : Bytes) : Holds (b ++ rest) f := by
  obtain ⟨hin, hread⟩ := h
  refine ⟨by rw [List.length_append]; omega, ?_⟩
  rw [window_append hin, hread]

lemma Carries.append (h : Carries b fields) (rest : Bytes) : Carries (b ++ rest) fields :=
  fun f hf => (h f hf).append rest

/-- What a longer string holds within its first part, that part holds. -/
lemma Holds.of_append (h : Holds (b ++ rest) f) (hin : f.1 + f.2.length ≤ b.length) :
    Holds b f := by
  refine ⟨hin, ?_⟩
  rw [← window_append hin rest]
  exact h.2

/-- Two adjacent fields are one. -/
lemma holds_append_iff {ys : Bytes} :
    Holds b (off, xs ++ ys) ↔ Holds b (off, xs) ∧ Holds b (off + xs.length, ys) := by
  have hsplit : ∀ n m, window b off (n + m) = window b off n ++ window b (off + n) m := by
    intro n m
    simp [window, List.take_add]
  simp only [Holds, List.length_append, hsplit]
  constructor
  · rintro ⟨hin, hread⟩
    obtain ⟨hx, hy⟩ := List.append_inj hread (by rw [window_length]; omega)
    exact ⟨⟨by omega, hx⟩, by omega, hy⟩
  · rintro ⟨⟨-, hx⟩, hin, hy⟩
    exact ⟨by omega, by rw [hx, hy]⟩

/-- The field a string ends with. -/
lemma holds_end_iff :
    Holds b (off, xs) ∧ off + xs.length = b.length ↔ off ≤ b.length ∧ b.drop off = xs := by
  simp only [Holds, window]
  constructor
  · rintro ⟨⟨hin, hread⟩, hend⟩
    rw [List.take_of_length_le (by simp; omega)] at hread
    exact ⟨by omega, hread⟩
  · rintro ⟨hin, rfl⟩
    simp only [List.length_drop, List.take_of_length_le (Nat.le_of_eq (List.length_drop))]
    exact ⟨⟨by omega, trivial⟩, by omega⟩

lemma holds_drop_iff (hn : n ≤ b.length) : Holds (b.drop n) (off, xs) ↔ Holds b (n + off, xs) := by
  simp only [Holds, window, List.length_drop, List.drop_drop]
  refine and_congr_left fun _ => ?_
  omega

/-- At one offset there is one value of a width. -/
lemma carries_fill (hl : laidOut n (ranges fields) = true) : Carries (fill n fields) fields := by
  intro f hf
  refine ⟨?_, window_fill hl hf⟩
  rw [fill_length hl]
  induction fields with
  | nil => cases hf
  | cons g rest ih =>
    simp only [ranges, List.map_cons, laidOut, Bool.and_eq_true, decide_eq_true_eq] at hl
    obtain rfl | hf := List.mem_cons.mp hf
    · exact hl.1.1
    · exact ih hl.2 hf

lemma leValue_eq_iff {width v : ℕ} (hlen : b.length = width) (hv : v < 256 ^ width) :
    leValue b = v ↔ b = leBytes width v := by
  constructor
  · rintro rfl
    rw [← hlen, leBytes_leValue]
  · rintro rfl
    rw [leValue_leBytes, Nat.mod_eq_of_lt hv]

lemma leBytes_inj {width v w : ℕ} (hv : v < 256 ^ width) (hw : w < 256 ^ width)
    (h : leBytes width v = leBytes width w) : v = w := by
  have hval := congrArg leValue h
  rwa [leValue_leBytes, leValue_leBytes, Nat.mod_eq_of_lt hv, Nat.mod_eq_of_lt hw] at hval

/-! ### Records without a gap -/

/-- The ranges follow one another from `start` to `stop`. -/
def tiles (start : ℕ) : List (ℕ × ℕ) → ℕ → Bool
  | [], stop => start == stop
  | r :: rs, stop => r.1 == start && tiles (start + r.2) rs stop

lemma tiles_bounds {rs : List (ℕ × ℕ)} (ht : tiles start rs stop = true) :
    start ≤ stop ∧ ∀ r ∈ rs, start ≤ r.1 ∧ r.1 + r.2 ≤ stop := by
  induction rs generalizing start with
  | nil => simp_all [tiles]
  | cons r rs ih =>
    simp only [tiles, Bool.and_eq_true, beq_iff_eq] at ht
    obtain ⟨rfl, ht⟩ := ht
    obtain ⟨hle, hrest⟩ := ih ht
    refine ⟨by omega, fun r' hr' => ?_⟩
    obtain rfl | hr' := List.mem_cons.mp hr'
    · exact ⟨le_refl _, hle⟩
    · obtain ⟨hlow, hhigh⟩ := hrest r' hr'
      exact ⟨by omega, hhigh⟩

lemma laidOut_of_tiles {rs : List (ℕ × ℕ)} (ht : tiles start rs stop = true) :
    laidOut stop rs = true := by
  induction rs generalizing start with
  | nil => rfl
  | cons r rs ih =>
    simp only [tiles, Bool.and_eq_true, beq_iff_eq] at ht
    obtain ⟨rfl, ht⟩ := ht
    obtain ⟨hle, hrest⟩ := tiles_bounds ht
    simp only [laidOut, Bool.and_eq_true, decide_eq_true_eq, List.all_eq_true, disjointFrom,
      Bool.or_eq_true]
    exact ⟨⟨hle, fun r' hr' => .inl (hrest r' hr').1⟩, ih ht⟩

lemma drop_of_tiles (ht : tiles start (ranges fields) stop = true) (hc : Carries b fields) :
    b.drop start = fields.flatMap Prod.snd ++ b.drop stop := by
  induction fields generalizing start with
  | nil =>
    simp only [ranges, List.map_nil, tiles, beq_iff_eq] at ht
    rw [ht, List.flatMap_nil, List.nil_append]
  | cons f rest ih =>
    simp only [ranges, List.map_cons, tiles, Bool.and_eq_true, beq_iff_eq] at ht
    obtain ⟨rfl, ht⟩ := ht
    obtain ⟨⟨-, hread⟩, hrest⟩ := carries_cons.mp hc
    have htail := ih ht hrest
    rw [List.flatMap_cons, List.append_assoc, ← htail, ← List.drop_drop]
    calc b.drop f.1 = (b.drop f.1).take f.2.length ++ (b.drop f.1).drop f.2.length :=
          (List.take_append_drop _ _).symm
      _ = f.2 ++ (b.drop f.1).drop f.2.length := by rw [← window, hread]

/-- A record without gaps is the start of any byte string that carries its fields. -/
lemma fill_eq_take (ht : tiles 0 (ranges fields) n = true) (hc : Carries b fields) :
    fill n fields = b.take n := by
  have hl := laidOut_of_tiles ht
  have hfill := drop_of_tiles ht (carries_fill hl)
  have hlen := fill_length hl
  rw [List.drop_zero, List.drop_of_length_le hlen.le, List.append_nil] at hfill
  have hb := drop_of_tiles ht hc
  rw [List.drop_zero] at hb
  rw [hb, List.take_append_of_le_length (by rw [← hfill, hlen]), ← hfill,
    List.take_of_length_le hlen.le]

/-! ### Bytes that may change -/

lemma drop_patch_above (hn : off + xs.length ≤ n) (h : off + xs.length ≤ b.length) :
    (patch b off xs).drop n = b.drop n := by
  have hlen : (b.take off ++ xs).length = off + xs.length := by simp; omega
  obtain ⟨k, rfl⟩ := Nat.exists_eq_add_of_le hn
  rw [patch, ← List.drop_drop, List.drop_left' hlen, List.drop_drop]

/-- A field apart from the patched range stays. -/
lemma Holds.patch (h : Holds b f) (hin : off + xs.length ≤ b.length)
    (hd : disjointFrom (off, xs.length) (f.1, f.2.length) = true) : Holds (patch b off xs) f := by
  refine ⟨by rw [patch_length hin]; exact h.1, ?_⟩
  rw [window_patch_disjoint hd hin]
  exact h.2

lemma holds_patch_self (hin : off + xs.length ≤ b.length) : Holds (patch b off xs) (off, xs) :=
  ⟨by rw [patch_length hin]; exact hin, window_patch_self hin⟩

/-- The two strings differ at most within the given ranges. -/
def Agree (free : List (ℕ × ℕ)) (a b : Bytes) : Prop :=
  a.length = b.length ∧ ∀ k, (∀ r ∈ free, k < r.1 ∨ r.1 + r.2 ≤ k) → a[k]? = b[k]?

variable {free : List (ℕ × ℕ)}

lemma Agree.window (h : Agree free a b) (hd : free.all (disjointFrom (off, n)) = true) :
    window a off n = window b off n := by
  apply List.ext_getElem?
  intro i
  simp only [ByteString.window, List.getElem?_take, List.getElem?_drop]
  split_ifs with hi
  · apply h.2
    intro r hr
    have hdisjoint := List.all_eq_true.mp hd r hr
    simp only [disjointFrom, Bool.or_eq_true, decide_eq_true_eq] at hdisjoint
    omega
  · rfl

lemma Agree.holds (h : Agree free a b)
    (hd : free.all (disjointFrom (f.1, f.2.length)) = true) (hf : Holds a f) : Holds b f := by
  refine ⟨by rw [← h.1]; exact hf.1, ?_⟩
  rw [← h.window hd]
  exact hf.2

/-- Behind an offset only the ranges behind it remain free. -/
lemma Agree.drop (h : Agree free a b) {behind : List (ℕ × ℕ)}
    (hfree : ∀ r ∈ free, r.1 + r.2 ≤ n ∨ n ≤ r.1 ∧ (r.1 - n, r.2) ∈ behind) :
    Agree behind (a.drop n) (b.drop n) := by
  refine ⟨by rw [List.length_drop, List.length_drop, h.1], fun k hk => ?_⟩
  rw [List.getElem?_drop, List.getElem?_drop]
  apply h.2
  intro r hr
  obtain hbelow | ⟨hle, hmem⟩ := hfree r hr
  · omega
  · have hout := hk _ hmem
    omega

lemma Agree.eq (h : Agree [] a b) : a = b :=
  List.ext_getElem? fun k => h.2 k (by simp)

end ByteString
