import Mathlib.Order.Lattice
import TangoBulk.Config

/-! Receive plans as an order. A plan that validates is determined by its three sizes. The
plans that validate form a meet-semilattice under the componentwise order, with `intersect` as
the meet. -/
namespace TangoBulk

/-! ### Plans that validate -/

lemma SizesInRange.product_lt {frame : UInt64} {depth window : UInt32}
    (h : SizesInRange frame depth window) : frame.toNat * depth.toNat < 2 ^ 64 := by
  have hframe : frame.toNat ≤ 2 ^ 28 := UInt64.le_iff_toNat_le.mp h.frame.2
  have hdepth : depth.toNat ≤ 2 ^ 10 := UInt32.le_iff_toNat_le.mp h.depth.2
  calc frame.toNat * depth.toNat ≤ 2 ^ 28 * 2 ^ 10 := Nat.mul_le_mul hframe hdepth
    _ < 2 ^ 64 := by norm_num

namespace ReceivePlan

lemma checkedBytes_eq_some {frame : UInt64} {depth : UInt32} {bytes : UInt64} :
    checkedBytes frame depth = some bytes ↔ bytes.toNat = frame.toNat * depth.toNat := by
  have hdepth : depth.toUInt64.toNat = depth.toNat := by simp
  unfold checkedBytes
  split_ifs with hfits
  · rw [Option.some.injEq, ← UInt64.toNat_inj, UInt64.toNat_mul, hdepth, Nat.mod_eq_of_lt hfits,
      eq_comm]
  · constructor
    · rintro ⟨⟩
    · intro hbytes
      exact absurd (hbytes ▸ bytes.toNat_lt) hfits

variable {p q : ReceivePlan}

lemma validate_eq_ok :
    p.validate = .ok ↔ SizesInRange p.maxFrameBytes p.ringDepth p.creditWindow ∧
      p.pinnedBytes.toNat = p.maxFrameBytes.toNat * p.ringDepth.toNat := by
  have hframe : Status.frameTooLarge ≠ .ok := by decide
  have hdepth : Status.depthTooLarge ≠ .ok := by decide
  have hbytes : Status.resourceExhausted ≠ .ok := by decide
  unfold validate
  cases hrequired : checkedBytes p.maxFrameBytes p.ringDepth with
  | none =>
    constructor
    · intro h
      exact absurd h hbytes
    · rintro ⟨-, hpinned⟩
      rw [checkedBytes_eq_some.mpr hpinned] at hrequired
      cases hrequired
  | some =>
    have hproduct := checkedBytes_eq_some.mp hrequired
    rw [check_eq_ok hframe, check_eq_ok hdepth, check_eq_ok hdepth, check_eq_ok hbytes]
    simp only [not_or, not_not, ne_eq, UInt64.not_lt, UInt32.not_lt, and_true]
    rw [← hproduct, UInt64.toNat_inj]
    constructor
    · rintro ⟨hf, hd, ⟨hpos, hw⟩, hpinned⟩
      exact ⟨⟨hf, hd, UInt32.pos_iff_ne_zero.mpr hpos, hw⟩, hpinned⟩
    · rintro ⟨⟨hf, hd, hpos, hw⟩, hpinned⟩
      exact ⟨hf, hd, ⟨UInt32.pos_iff_ne_zero.mp hpos, hw⟩, hpinned⟩

lemma validate_fromLimits {frame : UInt64} {depth window : UInt32}
    (h : SizesInRange frame depth window) : (fromLimits frame depth window).validate = .ok := by
  refine validate_eq_ok.mpr ⟨h, ?_⟩
  obtain ⟨bytes, hbytes⟩ : ∃ bytes, checkedBytes frame depth = some bytes :=
    ⟨_, if_pos h.product_lt⟩
  rw [fromLimits, hbytes]
  exact checkedBytes_eq_some.mp hbytes

lemma fromLimits_of_validate (h : p.validate = .ok) :
    fromLimits p.maxFrameBytes p.ringDepth p.creditWindow = p := by
  obtain ⟨-, hpinned⟩ := validate_eq_ok.mp h
  rw [fromLimits, checkedBytes_eq_some.mpr hpinned]
  rfl

lemma validate_of_overflow (h : 2 ^ 64 ≤ p.maxFrameBytes.toNat * p.ringDepth.toNat) :
    p.validate ≠ .ok := by
  intro hvalid
  have hproduct := (validate_eq_ok.mp hvalid).1.product_lt
  omega

lemma validate_empty : validate {} ≠ .ok := by decide

/-! ### The order -/

/-- Componentwise. -/
structure Below (p q : ReceivePlan) : Prop where
  frame : p.maxFrameBytes ≤ q.maxFrameBytes
  depth : p.ringDepth ≤ q.ringDepth
  window : p.creditWindow ≤ q.creditWindow
  pinned : p.pinnedBytes ≤ q.pinnedBytes

lemma below_of_sizes (hp : p.validate = .ok) (hq : q.validate = .ok)
    (hframe : p.maxFrameBytes ≤ q.maxFrameBytes) (hdepth : p.ringDepth ≤ q.ringDepth)
    (hwindow : p.creditWindow ≤ q.creditWindow) : p.Below q := by
  refine ⟨hframe, hdepth, hwindow, ?_⟩
  rw [UInt64.le_iff_toNat_le, (validate_eq_ok.mp hp).2, (validate_eq_ok.mp hq).2]
  exact Nat.mul_le_mul (UInt64.le_iff_toNat_le.mp hframe) (UInt32.le_iff_toNat_le.mp hdepth)

lemma Below.antisymm (h : p.Below q) (h' : q.Below p) : p = q := by
  cases p
  cases q
  simp only [mk.injEq]
  exact ⟨UInt64.le_antisymm h.frame h'.frame, UInt32.le_antisymm h.depth h'.depth,
    UInt32.le_antisymm h.window h'.window, UInt64.le_antisymm h.pinned h'.pinned⟩

lemma intersect_of_validate (hp : p.validate = .ok) (hq : q.validate = .ok) :
    p.intersect q = fromLimits (min p.maxFrameBytes q.maxFrameBytes)
      (min p.ringDepth q.ringDepth) (min p.creditWindow q.creditWindow) :=
  if_neg (by simp [hp, hq])

lemma intersect_of_invalid (h : p.validate ≠ .ok ∨ q.validate ≠ .ok) : p.intersect q = {} :=
  if_pos h

lemma validate_intersect (hp : p.validate = .ok) (hq : q.validate = .ok) :
    (p.intersect q).validate = .ok := by
  have hsp := (validate_eq_ok.mp hp).1
  have hsq := (validate_eq_ok.mp hq).1
  rw [intersect_of_validate hp hq]
  refine validate_fromLimits ⟨⟨?_, ?_⟩, ⟨?_, ?_⟩, ?_, ?_⟩
  · exact Std.le_min_iff.mpr ⟨hsp.frame.1, hsq.frame.1⟩
  · exact UInt64.le_trans Std.min_le_left hsp.frame.2
  · exact Std.le_min_iff.mpr ⟨hsp.depth.1, hsq.depth.1⟩
  · exact UInt32.le_trans Std.min_le_left hsp.depth.2
  · exact Std.le_min_iff.mpr ⟨hsp.window.1, hsq.window.1⟩
  · exact Std.le_min_iff.mpr ⟨UInt32.le_trans Std.min_le_left hsp.window.2,
      UInt32.le_trans Std.min_le_right hsq.window.2⟩

lemma intersect_below_left (hp : p.validate = .ok) (hq : q.validate = .ok) :
    (p.intersect q).Below p := by
  refine below_of_sizes (validate_intersect hp hq) hp ?_ ?_ ?_
  all_goals
    rw [intersect_of_validate hp hq]
    exact Std.min_le_left

lemma intersect_below_right (hp : p.validate = .ok) (hq : q.validate = .ok) :
    (p.intersect q).Below q := by
  refine below_of_sizes (validate_intersect hp hq) hq ?_ ?_ ?_
  all_goals
    rw [intersect_of_validate hp hq]
    exact Std.min_le_right

lemma below_intersect {r : ReceivePlan} (hp : p.validate = .ok) (hq : q.validate = .ok)
    (hr : r.validate = .ok) (hrp : r.Below p) (hrq : r.Below q) : r.Below (p.intersect q) := by
  refine below_of_sizes hr (validate_intersect hp hq) ?_ ?_ ?_
  · rw [intersect_of_validate hp hq]
    exact Std.le_min_iff.mpr ⟨hrp.frame, hrq.frame⟩
  · rw [intersect_of_validate hp hq]
    exact Std.le_min_iff.mpr ⟨hrp.depth, hrq.depth⟩
  · rw [intersect_of_validate hp hq]
    exact Std.le_min_iff.mpr ⟨hrp.window, hrq.window⟩

lemma validate_intersect_eq_ok :
    (p.intersect q).validate = .ok ↔ p.validate = .ok ∧ q.validate = .ok := by
  constructor
  · intro h
    by_contra hvalid
    exact validate_empty (intersect_of_invalid (not_and_or.mp hvalid) ▸ h)
  · rintro ⟨hp, hq⟩
    exact validate_intersect hp hq

lemma intersect_eq_empty : p.intersect q = {} ↔ p.validate ≠ .ok ∨ q.validate ≠ .ok := by
  constructor
  · intro h
    rw [← not_and_or, ← validate_intersect_eq_ok, h]
    exact validate_empty
  · exact intersect_of_invalid

end ReceivePlan

/-- A plan together with the fact that it validates. -/
structure ValidPlan where
  plan : ReceivePlan
  valid : plan.validate = .ok

namespace ValidPlan

open ReceivePlan

lemma plan_injective {a b : ValidPlan} (h : a.plan = b.plan) : a = b := by
  cases a
  cases b
  cases h
  rfl

instance : SemilatticeInf ValidPlan where
  le a b := a.plan.Below b.plan
  le_refl a := below_of_sizes a.valid a.valid (UInt64.le_refl _) (UInt32.le_refl _)
    (UInt32.le_refl _)
  le_trans a b c hab hbc := below_of_sizes a.valid c.valid (UInt64.le_trans hab.frame hbc.frame)
    (UInt32.le_trans hab.depth hbc.depth) (UInt32.le_trans hab.window hbc.window)
  le_antisymm _ _ hab hba := plan_injective (hab.antisymm hba)
  inf a b := ⟨a.plan.intersect b.plan, validate_intersect a.valid b.valid⟩
  inf_le_left a b := intersect_below_left a.valid b.valid
  inf_le_right a b := intersect_below_right a.valid b.valid
  le_inf a b c hab hac := below_intersect b.valid c.valid a.valid hab hac

end ValidPlan

namespace ReceivePlan

/-! ### Laws of `intersect` -/

lemma intersect_comm (p q : ReceivePlan) : p.intersect q = q.intersect p := by
  by_cases hvalid : p.validate = .ok ∧ q.validate = .ok
  · obtain ⟨hp, hq⟩ := hvalid
    exact congrArg ValidPlan.plan (inf_comm (⟨p, hp⟩ : ValidPlan) ⟨q, hq⟩)
  · have hinvalid := not_and_or.mp hvalid
    rw [intersect_of_invalid hinvalid, intersect_of_invalid hinvalid.symm]

lemma intersect_assoc (p q r : ReceivePlan) :
    (p.intersect q).intersect r = p.intersect (q.intersect r) := by
  by_cases hvalid : p.validate = .ok ∧ q.validate = .ok ∧ r.validate = .ok
  · obtain ⟨hp, hq, hr⟩ := hvalid
    exact congrArg ValidPlan.plan (inf_assoc (⟨p, hp⟩ : ValidPlan) ⟨q, hq⟩ ⟨r, hr⟩)
  · -- one invalid operand empties both sides
    have hleft : (p.intersect q).validate ≠ .ok ∨ r.validate ≠ .ok := by
      rw [← not_and_or, validate_intersect_eq_ok, and_assoc]
      exact hvalid
    have hright : p.validate ≠ .ok ∨ (q.intersect r).validate ≠ .ok := by
      rw [← not_and_or, validate_intersect_eq_ok]
      exact hvalid
    rw [intersect_of_invalid hleft, intersect_of_invalid hright]

lemma intersect_self {p : ReceivePlan} (h : p.validate = .ok) : p.intersect p = p :=
  congrArg ValidPlan.plan (inf_idem (⟨p, h⟩ : ValidPlan))

/-- The greatest plan that validates and is below both. -/
structure IsMeet (m p q : ReceivePlan) : Prop where
  valid : m.validate = .ok
  left : m.Below p
  right : m.Below q
  greatest : ∀ r : ReceivePlan, r.validate = .ok → r.Below p → r.Below q → r.Below m

lemma intersect_isMeet {p q : ReceivePlan} (hp : p.validate = .ok) (hq : q.validate = .ok) :
    (p.intersect q).IsMeet p q where
  valid := validate_intersect hp hq
  left := intersect_below_left hp hq
  right := intersect_below_right hp hq
  greatest _ hr hrp hrq := below_intersect hp hq hr hrp hrq

/-! ### The deepest ring -/

/-- The depth `derive` settles on, before it is checked. -/
def budgetDepth (g : GeometryBlock) (budget : UInt64) : ℕ :=
  min g.ringDepth.toNat (budget / g.maxFrameBytes).toNat

lemma toNat_budgetDepth (g : GeometryBlock) (budget : UInt64) :
    (UInt32.ofNat (budgetDepth g budget)).toNat = budgetDepth g budget := by
  refine UInt32.toNat_ofNat_of_lt' ?_
  exact (Nat.min_le_left _ _).trans_lt g.ringDepth.toNat_lt

lemma derive_of_validate {g : GeometryBlock} (hg : g.validate = .ok) (budget : UInt64) :
    derive g budget = if budget / g.maxFrameBytes < 2 then {} else
      fromLimits g.maxFrameBytes (UInt32.ofNat (budgetDepth g budget))
        (min g.creditWindow (UInt32.ofNat (budgetDepth g budget))) := by
  have hdepth := (GeometryBlock.validate_ok.mp hg).2.2.2.1.1
  have hshallow : UInt32.ofNat (budgetDepth g budget) < kMinRingDepth ↔
      budget / g.maxFrameBytes < 2 := by
    have htwo : 2 ≤ g.ringDepth.toNat := UInt32.le_iff_toNat_le.mp hdepth
    rw [UInt32.lt_iff_toNat_lt, UInt64.lt_iff_toNat_lt, toNat_budgetDepth, budgetDepth]
    change min _ _ < 2 ↔ _ < 2
    omega
  have hderive : derive g budget = if UInt32.ofNat (budgetDepth g budget) < kMinRingDepth then {}
      else fromLimits g.maxFrameBytes (UInt32.ofNat (budgetDepth g budget))
        (min g.creditWindow (UInt32.ofNat (budgetDepth g budget))) :=
    if_neg (not_not.mpr hg)
  rw [hderive]
  exact if_congr hshallow rfl rfl

/-- The ring holds the geometry's frames, fits the budget, and no deeper one up to the depth of
the geometry does. -/
structure Deepest (p : ReceivePlan) (g : GeometryBlock) (budget : UInt64) : Prop where
  valid : p.validate = .ok
  fits : p.pinnedBytes ≤ budget
  frame : p.maxFrameBytes = g.maxFrameBytes
  depth : p.ringDepth ≤ g.ringDepth
  window : p.creditWindow = min g.creditWindow p.ringDepth
  deepest : ∀ depth : UInt32, p.ringDepth < depth → depth ≤ g.ringDepth →
    budget.toNat < g.maxFrameBytes.toNat * depth.toNat

lemma derive_deepest {g : GeometryBlock} (hg : g.validate = .ok) {budget : UInt64}
    (hroom : ¬ budget / g.maxFrameBytes < 2) : (derive g budget).Deepest g budget := by
  obtain ⟨-, -, hframe, hdepth, hwindow, -⟩ := GeometryBlock.validate_ok.mp hg
  have hmin : 4096 ≤ g.maxFrameBytes.toNat := UInt64.le_iff_toNat_le.mp hframe.1
  have htwo : 2 ≤ g.ringDepth.toNat := UInt32.le_iff_toNat_le.mp hdepth.1
  have hquotient : 2 ≤ budget.toNat / g.maxFrameBytes.toNat := by
    rw [← UInt64.toNat_div]
    exact UInt64.le_iff_toNat_le.mp (UInt64.not_lt.mp hroom)
  have hvalue : budgetDepth g budget = min g.ringDepth.toNat
      (budget.toNat / g.maxFrameBytes.toNat) := by
    rw [budgetDepth, UInt64.toNat_div]
  have hnat := toNat_budgetDepth g budget
  rw [derive_of_validate hg, if_neg hroom]
  generalize UInt32.ofNat (budgetDepth g budget) = depth at hnat ⊢
  rw [hvalue] at hnat
  have hle : depth ≤ g.ringDepth := UInt32.le_iff_toNat_le.mpr (by omega)
  have hvalid : (fromLimits g.maxFrameBytes depth (min g.creditWindow depth)).validate = .ok := by
    have hlow : kMinRingDepth ≤ depth := by
      rw [UInt32.le_iff_toNat_le]
      change 2 ≤ depth.toNat
      omega
    refine validate_fromLimits ⟨hframe, ⟨hlow, UInt32.le_trans hle hdepth.2⟩, ?_,
      Std.min_le_right⟩
    exact Std.le_min_iff.mpr ⟨UInt32.pos_iff_ne_zero.mpr hwindow.1,
      UInt32.le_trans (by decide) hlow⟩
  refine ⟨hvalid, ?_, rfl, hle, rfl, ?_⟩
  · rw [UInt64.le_iff_toNat_le, (validate_eq_ok.mp hvalid).2]
    calc g.maxFrameBytes.toNat * depth.toNat
        ≤ g.maxFrameBytes.toNat * (budget.toNat / g.maxFrameBytes.toNat) :=
          Nat.mul_le_mul_left _ (by omega)
      _ ≤ budget.toNat := Nat.mul_div_le _ _
  · intro deeper hlt hbound
    have hlt' : depth.toNat < deeper.toNat := UInt32.lt_iff_toNat_lt.mp hlt
    have hbound' : deeper.toNat ≤ g.ringDepth.toNat := UInt32.le_iff_toNat_le.mp hbound
    rw [mul_comm]
    exact Nat.lt_mul_of_div_lt (by omega) (by omega)

lemma derive_eq_empty {g : GeometryBlock} (hg : g.validate = .ok) {budget : UInt64} :
    derive g budget = {} ↔ budget / g.maxFrameBytes < 2 := by
  constructor
  · intro hempty
    by_contra hroom
    exact validate_empty (hempty ▸ (derive_deepest hg hroom).valid)
  · intro hshort
    rw [derive_of_validate hg, if_pos hshort]

end ReceivePlan

/-- `intersect` is the meet of the plans that validate and empty elsewhere, `derive` is the
deepest ring that a budget holds, and no plan with an overflowing product validates. -/
theorem receivePlans_meet (p q r : ReceivePlan) (g : GeometryBlock) (budget : UInt64) :
    (p.intersect q = q.intersect p ∧
      (p.intersect q).intersect r = p.intersect (q.intersect r) ∧
      (p.validate = .ok → p.intersect p = p)) ∧
    (p.intersect q = {} ↔ p.validate ≠ .ok ∨ q.validate ≠ .ok) ∧
    (p.validate = .ok → q.validate = .ok → (p.intersect q).IsMeet p q) ∧
    (g.validate = .ok →
      (ReceivePlan.derive g budget = {} ↔ budget / g.maxFrameBytes < 2) ∧
      (¬ budget / g.maxFrameBytes < 2 → (ReceivePlan.derive g budget).Deepest g budget)) ∧
    (2 ^ 64 ≤ p.maxFrameBytes.toNat * p.ringDepth.toNat → p.validate ≠ .ok) := by
  refine ⟨⟨p.intersect_comm q, p.intersect_assoc q r, ReceivePlan.intersect_self⟩,
    ReceivePlan.intersect_eq_empty, ReceivePlan.intersect_isMeet, ?_,
    ReceivePlan.validate_of_overflow⟩
  intro hg
  exact ⟨ReceivePlan.derive_eq_empty hg, ReceivePlan.derive_deepest hg⟩

/-- Sixteen frames of two pages. -/
def sixteenFrames : GeometryBlock where
  generation := 1
  elementType := .uInt8
  elementSize := 1
  rank := 1
  maxFrameBytes := 8192
  ringDepth := 16
  creditWindow := 8
  shape := Dims.zero.store 0 4096
  strides := Dims.zero.store 0 1

/-- The meet of two crossing plans, and a budget for three of the sixteen frames. -/
theorem receivePlans_meet_three :
    ReceivePlan.intersect (.fromLimits 8192 16 8) (.fromLimits 16384 4 4) = .fromLimits 8192 4 4 ∧
    (ReceivePlan.intersect (.fromLimits 8192 16 8) (.fromLimits 16384 4 4)).IsMeet
      (.fromLimits 8192 16 8) (.fromLimits 16384 4 4) ∧
    ReceivePlan.derive sixteenFrames 25000 = .fromLimits 8192 3 3 ∧
    (ReceivePlan.derive sixteenFrames 25000).Deepest sixteenFrames 25000 ∧
    (ReceivePlan.fromLimits (2 ^ 63) 2 1).validate ≠ .ok := by
  obtain ⟨-, -, hmeet, hderive, -⟩ := receivePlans_meet (.fromLimits 8192 16 8)
    (.fromLimits 16384 4 4) {} sixteenFrames 25000
  obtain ⟨-, -, -, -, hoverflow⟩ := receivePlans_meet (.fromLimits (2 ^ 63) 2 1) {} {}
    sixteenFrames 25000
  exact ⟨by decide +kernel, hmeet (by decide) (by decide), by decide +kernel,
    (hderive (by decide +kernel)).2 (by decide), hoverflow (by decide +kernel)⟩

end TangoBulk
