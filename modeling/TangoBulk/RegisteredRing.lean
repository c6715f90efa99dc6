import TangoBulk.Config
import TangoBulk.LibSlots
import TangoBulk.RegisteredMemory

/-! Rings of slots inside one registered region: the stride, the size of the region that is asked
for, and where the slots lie in it. -/
namespace TangoBulk

open PinnedLedger

def kPageBytes : UInt64 := 4096

def kAliasThreshold : UInt64 := 262144

/-- With padding whole pages, and one more where the slots would alias in the cache. -/
def computeStride (slotBytes : UInt64) (pad : Bool) : UInt64 :=
  if pad then
    let stride := (slotBytes + kPageBytes - 1) / kPageBytes * kPageBytes
    if kAliasThreshold ≤ stride ∧ stride &&& (stride - 1) = 0 then stride + kPageBytes else stride
  else slotBytes

def checkedRegionBytes (stride : UInt64) (depth : UInt32) (origin : String) :
    Except BulkError UInt64 :=
  if depth ≠ 0 ∧ kMaxUInt64 / depth.toUInt64 < stride then
    .error { status := .resourceExhausted, message := "receive ring byte count overflows", origin }
  else .ok (stride * depth.toUInt64)

def checkedCallerRegion (slotBytes : UInt64) (depth : UInt32) (supplied : UInt64)
    (origin : String) : Except BulkError UInt64 :=
  if depth ≠ 0 ∧ kMaxUInt64 / depth.toUInt64 < slotBytes then
    .error
      { status := .resourceExhausted
        message := "caller-owned receive ring byte count overflows"
        origin }
  else if supplied < slotBytes * depth.toUInt64 then
    .error
      { status := .resourceExhausted
        message := "caller-owned receive ring is smaller than its plan"
        origin }
  else .ok supplied

structure RegisteredRing where
  memory : RegisteredMemory
  slotBytes : UInt64
  stride : UInt64
  depth : UInt32

namespace RegisteredRing

/-- The total and the ring, if the region was acquired. -/
def ofRegion (r : RegisteredMemory.Outcome) (slotBytes stride : UInt64) (depth : UInt32) :
    UInt64 × Except BulkError RegisteredRing :=
  (r.total,
    match r.error with
    | some error => .error error
    | none => .ok { memory := r.memory, slotBytes, stride, depth })

/-- The constructor over a region that UCX allocates. -/
def allocated (total slotBytes : UInt64) (depth : UInt32) (padStride : Bool) (limit : UInt64)
    (origin : String) (ucx : UcxAnswers) : UInt64 × Except BulkError RegisteredRing :=
  let stride := computeStride slotBytes padStride
  match checkedRegionBytes stride depth origin with
  | .error error => (total, .error error)
  | .ok bytes => ofRegion (RegisteredMemory.ucxAllocated total bytes limit origin ucx) slotBytes stride depth

/-- The constructor over a buffer of the caller at `address`. -/
def adopted (total slotBytes : UInt64) (depth : UInt32) (address supplied limit : UInt64)
    (ucx : UcxAnswers) : UInt64 × Except BulkError RegisteredRing :=
  match checkedCallerRegion slotBytes depth supplied "subscriber" with
  | .error error => (total, .error error)
  | .ok bytes => ofRegion (RegisteredMemory.adopted total bytes limit address ucx) slotBytes slotBytes depth

def slot (ring : RegisteredRing) (index : ℕ) : UInt64 :=
  ring.memory.base + UInt64.ofNat index * ring.stride

end RegisteredRing

/-! ### Strides -/

lemma computeStride_packed (slotBytes : UInt64) : computeStride slotBytes false = slotBytes := rfl

lemma toNat_aligned {slotBytes : UInt64} (h : slotBytes ≤ kMaxFrameBytesHardCap) :
    ((slotBytes + kPageBytes - 1) / kPageBytes * kPageBytes).toNat =
      Slots.alignUp slotBytes.toNat 4096 := by
  have hpage : kPageBytes.toNat = 4096 := rfl
  have hcap : slotBytes.toNat ≤ 2 ^ 28 := UInt64.le_iff_toNat_le.mp h
  have hsum : (slotBytes + kPageBytes).toNat = slotBytes.toNat + 4096 := by
    rw [UInt64.toNat_add, hpage, Nat.mod_eq_of_lt (by omega)]
  have hone : 1 ≤ slotBytes + kPageBytes := by
    rw [UInt64.le_iff_toNat_le, hsum]
    change 1 ≤ _
    omega
  have hpred : (slotBytes + kPageBytes - 1).toNat = slotBytes.toNat + 4096 - 1 := by
    rw [UInt64.toNat_sub_of_le _ _ hone, hsum]
    rfl
  have hlt := Slots.alignUp_lt slotBytes.toNat (show 0 < 4096 by decide)
  rw [UInt64.toNat_mul, UInt64.toNat_div, hpred, hpage]
  exact Nat.mod_eq_of_lt (lt_trans hlt (by omega))

/-- What padding makes of a slot size in range. -/
structure Padded (slotBytes stride : ℕ) : Prop where
  le : slotBytes ≤ stride
  lt : stride < slotBytes + 8192
  pages : 4096 ∣ stride
  apart : ∀ k, stride = 2 ^ k → stride < 262144

lemma computeStride_padded {slotBytes : UInt64} (h : slotBytes ≤ kMaxFrameBytesHardCap) :
    Padded slotBytes.toNat (computeStride slotBytes true).toNat := by
  have hcap : slotBytes.toNat ≤ 2 ^ 28 := UInt64.le_iff_toNat_le.mp h
  have haligned := toNat_aligned h
  have hle := Slots.le_alignUp slotBytes.toNat (show 0 < 4096 by decide)
  have hlt := Slots.alignUp_lt slotBytes.toNat (show 0 < 4096 by decide)
  have hdvd := Slots.dvd_alignUp slotBytes.toNat 4096
  unfold computeStride
  dsimp only
  rw [if_pos rfl]
  generalize (slotBytes + kPageBytes - 1) / kPageBytes * kPageBytes = stride at haligned ⊢
  rw [← haligned] at hle hlt hdvd
  have hthreshold : kAliasThreshold ≤ stride ↔ 262144 ≤ stride.toNat := UInt64.le_iff_toNat_le
  have hmask : 262144 ≤ stride.toNat →
      (stride &&& (stride - 1) = 0 ↔ stride.toNat &&& (stride.toNat - 1) = 0) := by
    intro hbig
    have hone : 1 ≤ stride := UInt64.le_iff_toNat_le.mpr (by change 1 ≤ _; omega)
    rw [← UInt64.toNat_inj, UInt64.toNat_and, UInt64.toNat_sub_of_le _ _ hone]
    rfl
  split_ifs with halias
  · -- the page after a power of two ends before the next one
    obtain ⟨hbig, hpower⟩ := halias
    rw [hthreshold] at hbig
    rw [hmask hbig] at hpower
    have hsum : (stride + kPageBytes).toNat = stride.toNat + 4096 := by
      rw [UInt64.toNat_add]
      change (stride.toNat + 4096) % _ = _
      exact Nat.mod_eq_of_lt (by omega)
    rw [hsum]
    refine ⟨by omega, by omega, Nat.dvd_add hdvd (by decide), ?_⟩
    intro k hk
    exfalso
    have hk' : 18 < k := by
      by_contra hsmall
      have := Nat.pow_le_pow_right (n := 2) (by omega) (Nat.not_lt.mp hsmall)
      omega
    obtain ⟨m, rfl⟩ : ∃ m, k = m + 1 := ⟨k - 1, by omega⟩
    have hm : 2 ^ 18 ≤ 2 ^ m := Nat.pow_le_pow_right (by omega) (by omega)
    rw [Nat.pow_succ] at hk
    exact Slots.and_sub_one_ne_zero (k := m) (by omega) (by rw [Nat.pow_succ]; omega) hpower
  · refine ⟨hle, by omega, hdvd, ?_⟩
    intro k hk
    by_contra hbig
    rw [Nat.not_lt] at hbig
    refine halias ⟨hthreshold.mpr hbig, (hmask hbig).mpr ?_⟩
    rw [hk]
    exact Slots.two_pow_and_sub_one k

lemma computeStride_bounds {slotBytes : UInt64} (h : slotBytes ≤ kMaxFrameBytesHardCap)
    (pad : Bool) :
    slotBytes.toNat ≤ (computeStride slotBytes pad).toNat ∧
      (computeStride slotBytes pad).toNat < 2 ^ 29 := by
  have hcap : slotBytes.toNat ≤ 2 ^ 28 := UInt64.le_iff_toNat_le.mp h
  cases pad with
  | false => exact ⟨le_rfl, by rw [computeStride_packed]; omega⟩
  | true =>
    have hpadded := computeStride_padded h
    have hlt := hpadded.lt
    exact ⟨hpadded.le, by omega⟩

lemma not_overflows {stride : UInt64} {depth : UInt32} (h : stride.toNat * depth.toNat < 2 ^ 64) :
    ¬ (depth ≠ 0 ∧ kMaxUInt64 / depth.toUInt64 < stride) := by
  rintro ⟨hne, hlt⟩
  have hdepth : depth.toUInt64.toNat = depth.toNat := by simp
  have hpos : 0 < depth.toNat := UInt32.lt_iff_toNat_lt.mp (UInt32.pos_iff_ne_zero.mpr hne)
  rw [UInt64.lt_iff_toNat_lt, UInt64.toNat_div, hdepth] at hlt
  have hover := Nat.lt_mul_of_div_lt hlt hpos
  change 2 ^ 64 - 1 < _ at hover
  omega

lemma toNat_region {stride : UInt64} {depth : UInt32} (h : stride.toNat * depth.toNat < 2 ^ 64) :
    (stride * depth.toUInt64).toNat = stride.toNat * depth.toNat := by
  have hdepth : depth.toUInt64.toNat = depth.toNat := by simp
  rw [UInt64.toNat_mul, hdepth, Nat.mod_eq_of_lt h]

/-- The slots of a ring of any size in range lie side by side in the region that is asked for.
With padding they begin on pages, and at no power of two from the threshold on. -/
theorem ring_slots_disjoint (slotBytes : UInt64) (depth : UInt32) (pad : Bool) (origin : String)
    (hslot : kMinFrameBytes ≤ slotBytes ∧ slotBytes ≤ kMaxFrameBytesHardCap)
    (hdepth : kMinRingDepth ≤ depth ∧ depth ≤ kMaxRingDepth) :
    let stride := computeStride slotBytes pad
    let region := stride.toNat * depth.toNat
    slotBytes ≤ stride ∧
    region < 2 ^ 64 ∧
    (∃ bytes : UInt64, bytes.toNat = region ∧
      ∀ total limit ucx, RegisteredRing.allocated total slotBytes depth pad limit origin ucx =
        RegisteredRing.ofRegion (RegisteredMemory.ucxAllocated total bytes limit origin ucx)
          slotBytes stride depth) ∧
    (∀ i j, i < depth.toNat → j < depth.toNat → i ≠ j →
      Disjoint (Slots.range stride.toNat slotBytes.toNat i)
        (Slots.range stride.toNat slotBytes.toNat j)) ∧
    (∀ i < depth.toNat, Slots.range stride.toNat slotBytes.toNat i ⊆ Set.Iio region) ∧
    (pad = true → 4096 ∣ stride.toNat ∧ ∀ k, stride.toNat = 2 ^ k → stride < kAliasThreshold) := by
  intro stride region
  obtain ⟨hle, hlt⟩ := computeStride_bounds hslot.2 pad
  have hcap : depth.toNat ≤ 2 ^ 10 := UInt32.le_iff_toNat_le.mp hdepth.2
  have hregion : region < 2 ^ 64 :=
    calc region ≤ 2 ^ 29 * 2 ^ 10 := Nat.mul_le_mul hlt.le hcap
      _ < 2 ^ 64 := by norm_num
  refine ⟨UInt64.le_iff_toNat_le.mpr hle, hregion,
    ⟨stride * depth.toUInt64, toNat_region hregion, ?_⟩, ?_, ?_, ?_⟩
  · intro total limit ucx
    rw [RegisteredRing.allocated, checkedRegionBytes, if_neg (not_overflows hregion)]
  · intro i j _ _ hij
    exact Slots.disjoint hle hij
  · intro i hi
    exact Slots.range_subset hle hi
  · rintro rfl
    have hpadded := computeStride_padded hslot.2
    exact ⟨hpadded.pages, fun k hk => UInt64.lt_iff_toNat_lt.mpr (hpadded.apart k hk)⟩

/-- Thirty-two slots of one mebibyte take a page more each. -/
theorem ring_slots_disjoint_mebibyte :
    computeStride 1048576 true = 1052672 ∧
    Disjoint (Slots.range 1052672 1048576 0) (Slots.range 1052672 1048576 31) ∧
    Slots.range 1052672 1048576 31 ⊆ Set.Iio (1052672 * 32) := by
  obtain ⟨-, -, -, hdisjoint, hinside, -⟩ := ring_slots_disjoint 1048576 32 true
    "publisher" (by decide) (by decide)
  have hstride : computeStride 1048576 true = 1052672 := by decide
  rw [hstride] at hdisjoint hinside
  exact ⟨hstride, hdisjoint 0 31 (by decide) (by decide) (by decide), hinside 31 (by decide)⟩

end TangoBulk
