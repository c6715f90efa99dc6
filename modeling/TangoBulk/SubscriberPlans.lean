import TangoBulk.Discovery
import TangoBulk.ReceivePlans
import TangoBulk.RegisteredRing

/-! The receive plan of a subscriber. What a configuration asks for is narrowed to the offer and to
the memory budget before anything reads it, and writing the result back changes nothing more. -/
namespace TangoBulk

open ByteString

lemma validateCommon_eq_ok {name : Bytes} {frame : UInt64} {depth window : UInt32}
    {limit : UInt64} :
    validateCommon name frame depth window limit = .ok ↔ isValidStreamName name = true ∧
      SizesInRange frame depth window ∧ kMinPinnedBytes ≤ limit ∧ limit ≤ kMaxPinnedBytes := by
  have hname : Status.malformedMessage ≠ .ok := by decide
  have hframe : Status.frameTooLarge ≠ .ok := by decide
  have hdepth : Status.depthTooLarge ≠ .ok := by decide
  have hlimit : Status.resourceExhausted ≠ .ok := by decide
  rw [validateCommon, check_eq_ok hname, check_eq_ok hframe, check_eq_ok hdepth, check_eq_ok hdepth,
    check_eq_ok hlimit]
  simp only [Bool.not_eq_true, Bool.not_eq_false', not_or, UInt64.not_lt, UInt32.not_lt, and_true]
  constructor
  · rintro ⟨h1, h2, h3, h4, h5⟩
    exact ⟨h1, ⟨h2, h3, h4⟩, h5⟩
  · rintro ⟨h1, ⟨h2, h3, h4⟩, h5⟩
    exact ⟨h1, h2, h3, h4, h5⟩

namespace ReceivePlan

lemma not_inRange_empty (h : SizesInRange 0 0 0) : False := absurd h.frame.1 (by decide)

lemma Below.refl (p : ReceivePlan) : p.Below p :=
  ⟨UInt64.le_refl _, UInt32.le_refl _, UInt32.le_refl _, UInt64.le_refl _⟩

end ReceivePlan

namespace SubscriberConfig

open ReceivePlan

variable {c : SubscriberConfig}

/-- What every check leaves true of a configuration whose upper plan is the given one. -/
structure Accepted (c : SubscriberConfig) (upper : ReceivePlan) : Prop where
  sources : c.validateSources = .ok
  name : isValidStreamName c.streamName = true
  sizes : SizesInRange upper.maxFrameBytes upper.ringDepth upper.creditWindow
  limit : kMinPinnedBytes ≤ c.pinnedMemoryLimitBytes ∧ c.pinnedMemoryLimitBytes ≤ kMaxPinnedBytes
  queue : kMinDeliveryQueue ≤ c.deliveryQueueDepth ∧ c.deliveryQueueDepth ≤ kMaxDeliveryQueue
  establishment : c.establishmentTimeoutMs ≠ 0
  timeouts : c.commandTimeoutMs ≠ 0 ∧ c.probeTimeoutMs ≠ 0
  affinity : -1 ≤ c.engineCpuAffinity
  buffer : c.receiveBuffer = decide (c.receiveBufferBytes ≠ 0)
  owned : ¬ (!c.receiveBuffer ∧ c.receiveMemoryKind ≠ .host)
  kind : ¬ (c.receiveMemoryKind ≠ .host ∧ c.receiveMemoryKind ≠ .cuda ∧
    c.receiveMemoryKind ≠ .rocm)
  fits : upper.pinnedBytes ≤ c.pinnedMemoryLimitBytes
  holds : c.receiveBuffer = true → upper.pinnedBytes ≤ c.receiveBufferBytes
  bounded : c.receiveBuffer = true → c.receiveBufferBytes ≤ c.pinnedMemoryLimitBytes

lemma validatePlan_eq_ok :
    c.validatePlan = .ok ↔ c.validateSources = .ok ∧
      validateCommon c.streamName c.upperReceivePlan.maxFrameBytes c.upperReceivePlan.ringDepth
        c.upperReceivePlan.creditWindow c.pinnedMemoryLimitBytes = .ok := by
  have hbudget : Status.resourceExhausted ≠ .ok := by decide
  unfold validatePlan
  rw [inner_eq_ok, check_eq_ok hbudget]
  refine and_congr_right fun _ => and_iff_right_of_imp ?_
  rintro hcommon ⟨-, hzero⟩
  have hframe := (validateCommon_eq_ok.mp hcommon).2.1.frame.1
  rw [hzero] at hframe
  exact absurd hframe (by decide)

lemma validateBuffer_eq_ok :
    c.validateBuffer = .ok ↔ c.receiveBuffer = decide (c.receiveBufferBytes ≠ 0) ∧
      ¬ (!c.receiveBuffer ∧ c.receiveMemoryKind ≠ .host) ∧
      ¬ (c.receiveMemoryKind ≠ .host ∧ c.receiveMemoryKind ≠ .cuda ∧
        c.receiveMemoryKind ≠ .rocm) ∧
      c.upperReceivePlan.pinnedBytes ≤ c.pinnedMemoryLimitBytes ∧
      (c.receiveBuffer = true → c.upperReceivePlan.pinnedBytes ≤ c.receiveBufferBytes) ∧
      (c.receiveBuffer = true → c.receiveBufferBytes ≤ c.pinnedMemoryLimitBytes) := by
  have hkind : Status.malformedMessage ≠ .ok := by decide
  have hbudget : Status.resourceExhausted ≠ .ok := by decide
  unfold validateBuffer
  rw [check_eq_ok hkind, check_eq_ok hkind, check_eq_ok hkind, check_eq_ok hbudget,
    check_eq_ok hbudget, check_eq_ok hbudget]
  simp only [ne_eq, not_not, UInt64.not_lt, not_and, and_true]

lemma validate_eq_ok : c.validate = .ok ↔ c.Accepted c.upperReceivePlan := by
  have hqueue : Status.depthTooLarge ≠ .ok := by decide
  have hother : Status.malformedMessage ≠ .ok := by decide
  rw [validate, inner_eq_ok, check_eq_ok hqueue, check_eq_ok hother, check_eq_ok hother,
    check_eq_ok hother, validatePlan_eq_ok, validateCommon_eq_ok, validateBuffer_eq_ok]
  simp only [not_or, UInt32.not_lt, Int.not_lt]
  constructor
  · rintro ⟨⟨h1, h2, h3, h4⟩, h5, h6, h7, h8, h9, h10, h11, h12, h13, h14⟩
    exact ⟨h1, h2, h3, h4, h5, h6, h7, h8, h9, h10, h11, h12, h13, h14⟩
  · intro h
    exact ⟨⟨h.sources, h.name, h.sizes, h.limit⟩, h.queue, h.establishment, h.timeouts, h.affinity,
      h.buffer, h.owned, h.kind, h.fits, h.holds, h.bounded⟩

/-! ### The upper plan -/

lemma upperReceivePlan_offer {offer : StreamOffer} (hoffer : c.discoveryOffer = some offer) :
    c.upperReceivePlan = c.requestedPlan.intersect (if offer.validate ≠ .ok then {}
      else derive offer.geometry c.pinnedMemoryLimitBytes) := by
  rw [upperReceivePlan, hoffer]

lemma upperReceivePlan_plan {plan : ReceivePlan} (hoffer : c.discoveryOffer = none)
    (hplan : c.receivePlan = some plan) : c.upperReceivePlan = plan := by
  rw [upperReceivePlan, hoffer]
  rw [if_neg (by simp [hplan]), requestedPlan, hplan]
  rfl

/-- The bytes of the ring that the individual fields ask for. -/
def ringBytes (c : SubscriberConfig) : ℕ := c.maxFrameBytes.toNat * c.ringDepth.toNat

/-- How many frames the budget holds. -/
def budgetFrames (c : SubscriberConfig) : ℕ :=
  c.pinnedMemoryLimitBytes.toNat / c.maxFrameBytes.toNat

section Fields

lemma requestedPlan_fields (hplan : c.receivePlan = none) :
    c.requestedPlan = fromLimits c.maxFrameBytes c.ringDepth c.creditWindow := by
  rw [requestedPlan, hplan]
  rfl

lemma budget_lt_pinnedBytes (hplan : c.receivePlan = none)
    (hlimit : c.pinnedMemoryLimitBytes ≤ kMaxPinnedBytes)
    (hover : c.pinnedMemoryLimitBytes.toNat < c.ringBytes) :
    c.pinnedMemoryLimitBytes < c.requestedPlan.pinnedBytes := by
  rw [requestedPlan_fields hplan, fromLimits]
  cases hbytes : checkedBytes c.maxFrameBytes c.ringDepth with
  | none =>
    exact UInt64.lt_of_le_of_lt hlimit (show kMaxPinnedBytes < UInt64.ofNat (2 ^ 64 - 1) by decide)
  | some =>
    rw [UInt64.lt_iff_toNat_lt]
    exact hover.trans_eq (checkedBytes_eq_some.mp hbytes).symm

variable (hoffer : c.discoveryOffer = none) (hplan : c.receivePlan = none)
include hoffer hplan

lemma upperReceivePlan_fits (hfits : c.ringBytes ≤ c.pinnedMemoryLimitBytes.toNat) :
    c.upperReceivePlan = c.requestedPlan := by
  have hlt : c.ringBytes < 2 ^ 64 := hfits.trans_lt c.pinnedMemoryLimitBytes.toNat_lt
  obtain ⟨bytes, hbytes⟩ : ∃ bytes, checkedBytes c.maxFrameBytes c.ringDepth = some bytes :=
    ⟨_, if_pos hlt⟩
  rw [upperReceivePlan, hoffer]
  refine if_neg ?_
  rintro ⟨-, -, hover⟩
  rw [requestedPlan_fields hplan, fromLimits, hbytes] at hover
  change c.pinnedMemoryLimitBytes < bytes at hover
  rw [UInt64.lt_iff_toNat_lt, checkedBytes_eq_some.mp hbytes] at hover
  exact absurd hfits (Nat.not_le.mpr hover)

lemma upperReceivePlan_reduced (hlimit : c.pinnedMemoryLimitBytes ≤ kMaxPinnedBytes)
    (hover : c.pinnedMemoryLimitBytes.toNat < c.ringBytes) :
    c.budgetFrames < c.ringDepth.toNat ∧
    c.upperReceivePlan = if c.budgetFrames < 2 then {} else
      fromLimits c.maxFrameBytes (UInt32.ofNat c.budgetFrames)
        (min c.creditWindow (UInt32.ofNat c.budgetFrames)) := by
  have hframe : c.maxFrameBytes ≠ 0 := by
    intro hzero
    rw [ringBytes, hzero] at hover
    simp at hover
  have hframes : c.budgetFrames < c.ringDepth.toNat := by
    rw [budgetFrames, Nat.div_lt_iff_lt_mul (UInt64.lt_iff_toNat_lt.mp
      (UInt64.pos_iff_ne_zero.mpr hframe)), Nat.mul_comm]
    exact hover
  have hquotient : c.pinnedMemoryLimitBytes / c.maxFrameBytes < kMinRingDepth.toUInt64 ↔
      c.budgetFrames < 2 := by
    rw [UInt64.lt_iff_toNat_lt, UInt64.toNat_div]
    rfl
  have hdepth : min c.ringDepth.toNat (c.pinnedMemoryLimitBytes / c.maxFrameBytes).toNat =
      c.budgetFrames := by
    rw [UInt64.toNat_div]
    exact Nat.min_eq_right hframes.le
  have hpinned := budget_lt_pinnedBytes hplan hlimit hover
  have hrequested := requestedPlan_fields hplan
  refine ⟨hframes, ?_⟩
  rw [upperReceivePlan, hoffer]
  rw [if_pos ⟨hplan, by rw [hrequested]; exact hframe, hpinned⟩, reduceToBudget, hrequested]
  refine if_congr hquotient rfl ?_
  dsimp only [fromLimits]
  rw [hdepth]

end Fields

/-- The upper plan of an accepted configuration validates and asks for no more than the caller. -/
lemma Accepted.upper (h : c.Accepted c.upperReceivePlan) :
    c.upperReceivePlan.validate = .ok ∧ c.upperReceivePlan.Below c.requestedPlan := by
  have hsizes := h.sizes
  cases hoffer : c.discoveryOffer with
  | some offer =>
    rw [upperReceivePlan_offer hoffer] at hsizes ⊢
    by_cases hvalid : c.requestedPlan.validate = .ok ∧ (if offer.validate ≠ .ok then {}
      else derive offer.geometry c.pinnedMemoryLimitBytes).validate = .ok
    · exact ⟨validate_intersect hvalid.1 hvalid.2, intersect_below_left hvalid.1 hvalid.2⟩
    · rw [intersect_of_invalid (not_and_or.mp hvalid)] at hsizes
      exact (not_inRange_empty hsizes).elim
  | none =>
    cases hplan : c.receivePlan with
    | some plan =>
      have hrequested : c.requestedPlan = plan := by
        rw [requestedPlan, hplan]
        rfl
      have hsources := h.sources
      rw [upperReceivePlan_plan hoffer hplan, hrequested]
      simp only [validateSources, hplan, Option.elim, inner_eq_ok] at hsources
      exact ⟨hsources.1, .refl plan⟩
    | none =>
      rcases Nat.lt_or_ge c.pinnedMemoryLimitBytes.toNat c.ringBytes with hover | hfits
      · obtain ⟨hframes, hupper⟩ := upperReceivePlan_reduced hoffer hplan h.limit.2 hover
        have hpinned := budget_lt_pinnedBytes hplan h.limit.2 hover
        have hfits := h.fits
        rw [hupper] at hsizes hfits ⊢
        split_ifs at hsizes hfits ⊢ with hshort
        · exact (not_inRange_empty hsizes).elim
        · refine ⟨validate_fromLimits hsizes, ?_⟩
          have hword : c.budgetFrames < 2 ^ 32 := hframes.trans c.ringDepth.toNat_lt
          refine ⟨?_, ?_, ?_, UInt64.le_trans hfits (UInt64.le_of_lt hpinned)⟩
          · rw [requestedPlan_fields hplan]
            exact UInt64.le_refl _
          · rw [requestedPlan_fields hplan, UInt32.le_iff_toNat_le]
            change (UInt32.ofNat c.budgetFrames).toNat ≤ c.ringDepth.toNat
            rw [UInt32.toNat_ofNat_of_lt' hword]
            exact hframes.le
          · rw [requestedPlan_fields hplan]
            exact Std.min_le_left
      · rw [upperReceivePlan_fits hoffer hplan hfits] at hsizes ⊢
        rw [requestedPlan_fields hplan] at hsizes ⊢
        exact ⟨validate_fromLimits hsizes, .refl _⟩

lemma Accepted.within_offer (h : c.Accepted c.upperReceivePlan) {offer : StreamOffer}
    (hoffer : c.discoveryOffer = some offer) :
    c.upperReceivePlan.maxFrameBytes ≤ offer.geometry.maxFrameBytes ∧
      c.upperReceivePlan.ringDepth ≤ offer.geometry.ringDepth ∧
      c.upperReceivePlan.creditWindow ≤ offer.geometry.creditWindow := by
  have hvalid := h.upper.1
  rw [upperReceivePlan_offer hoffer, validate_intersect_eq_ok] at hvalid
  obtain ⟨hrequested, hdiscovered⟩ := hvalid
  have hbelow := intersect_below_right hrequested hdiscovered
  rw [← upperReceivePlan_offer hoffer] at hbelow
  split_ifs at hbelow hdiscovered with hinvalid
  · exact absurd hdiscovered validate_empty
  · have hgeometry := (StreamOffer.validate_eq_ok.mp (not_not.mp hinvalid)).2.2.2.2
    have hroom : ¬ c.pinnedMemoryLimitBytes / offer.geometry.maxFrameBytes < 2 := by
      rw [← derive_eq_empty hgeometry]
      intro hempty
      rw [hempty] at hdiscovered
      exact validate_empty hdiscovered
    have hdeepest := derive_deepest hgeometry hroom
    refine ⟨?_, UInt32.le_trans hbelow.depth hdeepest.depth, ?_⟩
    · rw [← hdeepest.frame]
      exact hbelow.frame
    · refine UInt32.le_trans hbelow.window ?_
      rw [hdeepest.window]
      exact Std.min_le_left

lemma requestedPlan_normalize (h : c.upperReceivePlan.validate = .ok) :
    (c.receivePlan.isSome ∧ c.normalize.requestedPlan = c.requestedPlan) ∨
    (c.receivePlan = none ∧ c.normalize.requestedPlan = c.upperReceivePlan) := by
  have hwritten : c.normalize.receivePlan = c.receivePlan := rfl
  cases hplan : c.receivePlan with
  | some =>
    left
    rw [requestedPlan, requestedPlan, hwritten, hplan]
    exact ⟨rfl, rfl⟩
  | none =>
    right
    rw [requestedPlan, hwritten, hplan]
    exact ⟨rfl, fromLimits_of_validate h⟩

lemma Accepted.upper_normalize (h : c.Accepted c.upperReceivePlan) :
    c.normalize.upperReceivePlan = c.upperReceivePlan := by
  have hvalid := h.upper.1
  have hrequested := requestedPlan_normalize hvalid
  cases hoffer : c.discoveryOffer with
  | some offer =>
    have hoffer' : c.normalize.discoveryOffer = some offer := hoffer
    have hmeet := upperReceivePlan_offer hoffer
    rw [upperReceivePlan_offer hoffer']
    rcases hrequested with ⟨-, hsame⟩ | ⟨-, hsame⟩
    · rw [hsame, hmeet]
      rfl
    · -- the meet with the offer is met with the offer again
      rw [hmeet, validate_intersect_eq_ok] at hvalid
      rw [hsame, hmeet, intersect_assoc]
      exact congrArg _ (intersect_self hvalid.2)
  | none =>
    have hoffer' : c.normalize.discoveryOffer = none := hoffer
    rcases hrequested with ⟨hsome, -⟩ | ⟨hplan, hsame⟩
    · obtain ⟨plan, hplan⟩ := Option.isSome_iff_exists.mp hsome
      have hplan' : c.normalize.receivePlan = some plan := hplan
      rw [upperReceivePlan_plan hoffer hplan, upperReceivePlan_plan hoffer' hplan']
    · have hplan' : c.normalize.receivePlan = none := hplan
      have hfits : c.normalize.ringBytes ≤ c.normalize.pinnedMemoryLimitBytes.toNat := by
        rw [ringBytes]
        change c.upperReceivePlan.maxFrameBytes.toNat * c.upperReceivePlan.ringDepth.toNat ≤
          c.pinnedMemoryLimitBytes.toNat
        rw [← (ReceivePlan.validate_eq_ok.mp hvalid).2]
        exact UInt64.le_iff_toNat_le.mp h.fits
      rw [upperReceivePlan_fits hoffer' hplan' hfits, hsame]

lemma Accepted.normalize (h : c.Accepted c.upperReceivePlan) :
    c.normalize.Accepted c.normalize.upperReceivePlan := by
  rw [h.upper_normalize]
  exact ⟨h.sources, h.name, h.sizes, h.limit, h.queue, h.establishment, h.timeouts, h.affinity,
    h.buffer, h.owned, h.kind, h.fits, h.holds, h.bounded⟩

/-! ### What uses the plan -/

/-- The ring of the `ReceiveArena` that the engine makes from its configuration; `address` is the
caller's buffer, if there is one. -/
def registerRing (c : SubscriberConfig) (total address : UInt64) (ucx : UcxAnswers) :
    UInt64 × Except BulkError RegisteredRing :=
  if c.receiveBuffer then
    RegisteredRing.adopted total c.maxFrameBytes c.ringDepth address c.receiveBufferBytes
      c.pinnedMemoryLimitBytes ucx
  else
    RegisteredRing.allocated total c.maxFrameBytes c.ringDepth false c.pinnedMemoryLimitBytes
      "subscriber" ucx

lemma Accepted.registerRing_normalize (h : c.Accepted c.upperReceivePlan) (total address : UInt64)
    (ucx : UcxAnswers) :
    c.normalize.registerRing total address ucx = RegisteredRing.ofRegion
      (if c.receiveBuffer then
        RegisteredMemory.adopted total c.receiveBufferBytes c.pinnedMemoryLimitBytes address ucx
      else RegisteredMemory.ucxAllocated total c.upperReceivePlan.pinnedBytes
        c.pinnedMemoryLimitBytes "subscriber" ucx)
      c.upperReceivePlan.maxFrameBytes c.upperReceivePlan.maxFrameBytes
      c.upperReceivePlan.ringDepth := by
  obtain ⟨hsizes, hpinned⟩ := ReceivePlan.validate_eq_ok.mp h.upper.1
  have hregion : c.upperReceivePlan.maxFrameBytes * c.upperReceivePlan.ringDepth.toUInt64 =
      c.upperReceivePlan.pinnedBytes :=
    UInt64.toNat_inj.mp ((toNat_region hsizes.product_lt).trans hpinned.symm)
  unfold registerRing SubscriberConfig.normalize
  split_ifs with hbuffer
  · rw [RegisteredRing.adopted, checkedCallerRegion, if_neg (not_overflows hsizes.product_lt),
      hregion, if_neg (UInt64.not_lt.mpr (h.holds hbuffer))]
  · rw [RegisteredRing.allocated, computeStride_packed, checkedRegionBytes,
      if_neg (not_overflows hsizes.product_lt), hregion]

end SubscriberConfig

/-- A configuration that validates has one plan: it validates, is within everything that was asked
for, offered and permitted, and is what the written-back configuration asks for, registers and
checks grants against. -/
theorem subscriber_plan_fixed {c : SubscriberConfig} (h : c.validate = .ok) :
    let plan := c.upperReceivePlan
    let written := c.normalize
    plan.validate = .ok ∧ plan.Below c.requestedPlan ∧
    (∀ offer, c.discoveryOffer = some offer → plan.maxFrameBytes ≤ offer.geometry.maxFrameBytes ∧
      plan.ringDepth ≤ offer.geometry.ringDepth ∧
      plan.creditWindow ≤ offer.geometry.creditWindow) ∧
    plan.pinnedBytes ≤ c.pinnedMemoryLimitBytes ∧
    (c.receiveBuffer = true → plan.pinnedBytes ≤ c.receiveBufferBytes) ∧
    (written.validate = .ok ∧ written.upperReceivePlan = plan ∧
      ReceivePlan.fromLimits written.maxFrameBytes written.ringDepth written.creditWindow = plan) ∧
    (∀ total address ucx, written.registerRing total address ucx = RegisteredRing.ofRegion
      (if c.receiveBuffer then
        RegisteredMemory.adopted total c.receiveBufferBytes c.pinnedMemoryLimitBytes address ucx
      else RegisteredMemory.ucxAllocated total plan.pinnedBytes c.pinnedMemoryLimitBytes
        "subscriber" ucx)
      plan.maxFrameBytes plan.maxFrameBytes plan.ringDepth) ∧
    (∀ address instanceId, (openRequest written address instanceId).Asks plan) ∧
    ∀ granted, ClientSession.exceeds granted written = decide
      (plan.maxFrameBytes < granted.maxFrameBytes ∨ plan.ringDepth < granted.ringDepth ∨
        plan.creditWindow < granted.creditWindow) := by
  have haccepted := SubscriberConfig.validate_eq_ok.mp h
  obtain ⟨hvalid, hbelow⟩ := haccepted.upper
  exact ⟨hvalid, hbelow, fun _ => haccepted.within_offer, haccepted.fits, haccepted.holds,
    ⟨SubscriberConfig.validate_eq_ok.mpr haccepted.normalize, haccepted.upper_normalize,
      ReceivePlan.fromLimits_of_validate hvalid⟩,
    haccepted.registerRing_normalize, fun _ _ => ⟨rfl, rfl, rfl⟩, fun _ => rfl⟩

/-- The default sizes under the smallest budget. -/
def thriftyClient : SubscriberConfig where
  streamName := [97]
  pinnedMemoryLimitBytes := 16777216

theorem subscriber_plan_fixed_thrifty :
    thriftyClient.upperReceivePlan = .fromLimits 8388608 2 2 ∧
    thriftyClient.normalize.validate = .ok ∧
    thriftyClient.normalize.upperReceivePlan = thriftyClient.upperReceivePlan := by
  obtain ⟨-, -, -, -, -, ⟨hvalid, hupper, -⟩, -⟩ :=
    subscriber_plan_fixed (c := thriftyClient) (by decide +kernel)
  exact ⟨by decide +kernel, hvalid, hupper⟩

/-! ### Larger budgets -/

namespace SubscriberConfig

open ReceivePlan

variable {c : SubscriberConfig}

/-- The configuration with another budget. -/
def withBudget (c : SubscriberConfig) (limit : UInt64) : SubscriberConfig :=
  { c with pinnedMemoryLimitBytes := limit }

lemma ringBytes_le_iff (hframe : 0 < c.maxFrameBytes.toNat) (limit : ℕ) :
    c.ringBytes ≤ limit ↔ c.ringDepth.toNat ≤ limit / c.maxFrameBytes.toNat := by
  rw [Nat.le_div_iff_mul_le hframe, ringBytes, Nat.mul_comm]

section Fields

variable (hoffer : c.discoveryOffer = none) (hplan : c.receivePlan = none)
  (hlimit : c.pinnedMemoryLimitBytes ≤ kMaxPinnedBytes)
include hoffer hplan hlimit

lemma upperReceivePlan_room (hroom : 2 ≤ c.budgetFrames) :
    ∃ depth window, c.upperReceivePlan = fromLimits c.maxFrameBytes depth window ∧
      depth.toNat = min c.ringDepth.toNat c.budgetFrames ∧
      window.toNat = if c.ringDepth.toNat ≤ c.budgetFrames then c.creditWindow.toNat
        else min c.creditWindow.toNat c.budgetFrames := by
  have hframe : 0 < c.maxFrameBytes.toNat := by
    by_contra hzero
    rw [budgetFrames, Nat.eq_zero_of_not_pos hzero, Nat.div_zero] at hroom
    omega
  have hfits := ringBytes_le_iff hframe c.pinnedMemoryLimitBytes.toNat
  by_cases hdeep : c.ringDepth.toNat ≤ c.budgetFrames
  · refine ⟨c.ringDepth, c.creditWindow, ?_, (Nat.min_eq_left hdeep).symm, (if_pos hdeep).symm⟩
    rw [upperReceivePlan_fits hoffer hplan (hfits.mpr hdeep), requestedPlan_fields hplan]
  · have hover : c.pinnedMemoryLimitBytes.toNat < c.ringBytes :=
      Nat.lt_of_not_le (mt hfits.mp hdeep)
    obtain ⟨hlt, hupper⟩ := upperReceivePlan_reduced hoffer hplan hlimit hover
    have hword : (UInt32.ofNat c.budgetFrames).toNat = c.budgetFrames :=
      UInt32.toNat_ofNat_of_lt' (hlt.trans c.ringDepth.toNat_lt)
    rw [if_neg (Nat.not_lt.mpr hroom)] at hupper
    refine ⟨_, _, hupper, ?_, ?_⟩
    · rw [hword, Nat.min_eq_right hlt.le]
    · rw [if_neg hdeep, UInt32.toNat_min, hword]

lemma room_of_sizes (hsizes : SizesInRange c.upperReceivePlan.maxFrameBytes
    c.upperReceivePlan.ringDepth c.upperReceivePlan.creditWindow) : 2 ≤ c.budgetFrames := by
  rcases Nat.lt_or_ge c.pinnedMemoryLimitBytes.toNat c.ringBytes with hover | hfits
  · obtain ⟨-, hupper⟩ := upperReceivePlan_reduced hoffer hplan hlimit hover
    by_contra hshort
    rw [hupper, if_pos (Nat.lt_of_not_le hshort)] at hsizes
    exact not_inRange_empty hsizes
  · rw [upperReceivePlan_fits hoffer hplan hfits, requestedPlan_fields hplan] at hsizes
    have hframe : 4096 ≤ c.maxFrameBytes.toNat := UInt64.le_iff_toNat_le.mp hsizes.frame.1
    have hdepth : 2 ≤ c.ringDepth.toNat := UInt32.le_iff_toNat_le.mp hsizes.depth.1
    exact hdepth.trans ((ringBytes_le_iff (by omega) _).mp hfits)

lemma sizes_upper_iff (hroom : 2 ≤ c.budgetFrames) :
    SizesInRange c.upperReceivePlan.maxFrameBytes c.upperReceivePlan.ringDepth
      c.upperReceivePlan.creditWindow ↔
    (kMinFrameBytes ≤ c.maxFrameBytes ∧ c.maxFrameBytes ≤ kMaxFrameBytesHardCap) ∧
    (2 ≤ c.ringDepth.toNat ∧ min c.ringDepth.toNat c.budgetFrames ≤ kMaxRingDepth.toNat) ∧
    1 ≤ c.creditWindow.toNat ∧
    (c.ringDepth.toNat ≤ c.budgetFrames → c.creditWindow.toNat ≤ c.ringDepth.toNat) := by
  obtain ⟨depth, window, hupper, hdepth, hwindow⟩ :=
    upperReceivePlan_room hoffer hplan hlimit hroom
  have hmin : kMinRingDepth.toNat = 2 := rfl
  rw [hupper]
  constructor
  · rintro ⟨hframe, ⟨hlow, hhigh⟩, hpos, hle⟩
    simp only [fromLimits, UInt32.le_iff_toNat_le, hdepth, hwindow, hmin] at hlow hhigh hpos hle
    refine ⟨hframe, ⟨by omega, hhigh⟩, ?_, fun hdeep => ?_⟩
    · split_ifs at hpos
      · exact hpos
      · exact (Nat.le_min.mp hpos).1
    · rw [if_pos hdeep] at hle
      omega
  · rintro ⟨hframe, ⟨hlow, hhigh⟩, hpos, hle⟩
    refine ⟨hframe, ⟨?_, ?_⟩, ?_, ?_⟩ <;>
      simp only [fromLimits, UInt32.le_iff_toNat_le, hdepth, hwindow, hmin]
    · omega
    · exact hhigh
    · change 1 ≤ _
      split_ifs <;> omega
    · split_ifs with hdeep
      · have := hle hdeep
        omega
      · omega

lemma fits_of_sizes (hsizes : SizesInRange c.upperReceivePlan.maxFrameBytes
    c.upperReceivePlan.ringDepth c.upperReceivePlan.creditWindow) :
    c.upperReceivePlan.pinnedBytes ≤ c.pinnedMemoryLimitBytes := by
  have hroom := room_of_sizes hoffer hplan hlimit hsizes
  obtain ⟨depth, window, hupper, hdepth, -⟩ := upperReceivePlan_room hoffer hplan hlimit hroom
  rw [hupper] at hsizes ⊢
  have hvalid : (fromLimits c.maxFrameBytes depth window).validate = .ok :=
    validate_fromLimits hsizes
  rw [UInt64.le_iff_toNat_le, (ReceivePlan.validate_eq_ok.mp hvalid).2]
  calc c.maxFrameBytes.toNat * depth.toNat ≤ c.maxFrameBytes.toNat * c.budgetFrames :=
        Nat.mul_le_mul_left _ (hdepth.trans_le (Nat.min_le_right _ _))
    _ ≤ c.pinnedMemoryLimitBytes.toNat := Nat.mul_div_le _ _

end Fields

lemma Accepted.withBudget (h : c.Accepted c.upperReceivePlan) (hbuffer : c.receiveBuffer = false)
    {limit : UInt64} {upper : ReceivePlan} (hle : c.pinnedMemoryLimitBytes ≤ limit)
    (hmax : limit ≤ kMaxPinnedBytes)
    (hsizes : SizesInRange upper.maxFrameBytes upper.ringDepth upper.creditWindow)
    (hfits : upper.pinnedBytes ≤ limit) : (c.withBudget limit).Accepted upper :=
  ⟨h.sources, h.name, hsizes, ⟨UInt64.le_trans h.limit.1 hle, hmax⟩, h.queue, h.establishment,
    h.timeouts, h.affinity, h.buffer, h.owned, h.kind, hfits,
    fun hgiven => absurd (hbuffer.symm.trans hgiven) (by decide),
    fun hgiven => absurd (hbuffer.symm.trans hgiven) (by decide)⟩

end SubscriberConfig

open SubscriberConfig ReceivePlan in
/-- Every larger budget keeps a configuration without an offer or a buffer valid, and its plan no
smaller, exactly if the plan is given or the fields are in range once the largest budget is reached:
what a small budget cut down to size is not looked at before. -/
theorem larger_budget_kept {c : SubscriberConfig} (hoffer : c.discoveryOffer = none)
    (hbuffer : c.receiveBuffer = false) (h : c.validate = .ok) :
    (∀ limit, c.pinnedMemoryLimitBytes ≤ limit → limit ≤ kMaxPinnedBytes →
      (c.withBudget limit).validate = .ok ∧
      c.upperReceivePlan.ringDepth ≤ (c.withBudget limit).upperReceivePlan.ringDepth ∧
      c.upperReceivePlan.creditWindow ≤ (c.withBudget limit).upperReceivePlan.creditWindow) ↔
    c.receivePlan.isSome ∨
      (min c.ringDepth.toNat (kMaxPinnedBytes.toNat / c.maxFrameBytes.toNat) ≤
        kMaxRingDepth.toNat ∧
      (c.maxFrameBytes.toNat * c.ringDepth.toNat ≤ kMaxPinnedBytes.toNat →
        c.creditWindow ≤ c.ringDepth)) := by
  have haccepted := SubscriberConfig.validate_eq_ok.mp h
  cases hplan : c.receivePlan with
  | some =>
    refine iff_of_true (fun limit hle hmax => ?_) (.inl rfl)
    have hupper : (c.withBudget limit).upperReceivePlan = c.upperReceivePlan :=
      (upperReceivePlan_plan (c := c.withBudget limit) hoffer hplan).trans
        (upperReceivePlan_plan hoffer hplan).symm
    refine ⟨SubscriberConfig.validate_eq_ok.mpr ?_, ?_, ?_⟩ <;> rw [hupper]
    · exact haccepted.withBudget hbuffer hle hmax haccepted.sizes
        (UInt64.le_trans haccepted.fits hle)
    all_goals exact UInt32.le_refl _
  | none =>
    have hroom := room_of_sizes hoffer hplan haccepted.limit.2 haccepted.sizes
    obtain ⟨hframe, ⟨hlow, -⟩, hpos, -⟩ :=
      (sizes_upper_iff hoffer hplan haccepted.limit.2 hroom).mp haccepted.sizes
    have hframe' : 0 < c.maxFrameBytes.toNat :=
      Nat.lt_of_lt_of_le (by decide) (UInt64.le_iff_toNat_le.mp hframe.1)
    have hmore : ∀ {limit : UInt64}, c.pinnedMemoryLimitBytes ≤ limit →
        c.budgetFrames ≤ (c.withBudget limit).budgetFrames := fun hle =>
      Nat.div_le_div_right (UInt64.le_iff_toNat_le.mp hle)
    have hwithin : (c.maxFrameBytes.toNat * c.ringDepth.toNat ≤ kMaxPinnedBytes.toNat →
        c.creditWindow ≤ c.ringDepth) ↔
        (c.ringDepth.toNat ≤ kMaxPinnedBytes.toNat / c.maxFrameBytes.toNat →
          c.creditWindow.toNat ≤ c.ringDepth.toNat) := by
      rw [UInt32.le_iff_toNat_le, ← ringBytes_le_iff hframe']
      rfl
    rw [hwithin]
    simp only [Option.isSome_none, Bool.false_eq_true, false_or]
    constructor
    · intro hall
      -- the largest budget is one of them
      have hmax := hall kMaxPinnedBytes haccepted.limit.2 (UInt64.le_refl _)
      obtain ⟨-, ⟨-, hhigh⟩, -, hle⟩ := (sizes_upper_iff (c := c.withBudget kMaxPinnedBytes) hoffer
        hplan (UInt64.le_refl _) (hroom.trans (hmore haccepted.limit.2))).mp
          (SubscriberConfig.validate_eq_ok.mp hmax.1).sizes
      exact ⟨hhigh, hle⟩
    · rintro ⟨hhigh, hle⟩ limit hlarger hmax
      have hroom' := hroom.trans (hmore hlarger)
      have hframes : (c.withBudget limit).budgetFrames ≤
          kMaxPinnedBytes.toNat / c.maxFrameBytes.toNat :=
        Nat.div_le_div_right (UInt64.le_iff_toNat_le.mp hmax)
      have hsizes := (sizes_upper_iff (c := c.withBudget limit) hoffer hplan hmax hroom').mpr
        ⟨hframe, ⟨hlow, (min_le_min_left _ hframes).trans hhigh⟩, hpos,
          fun hdeep => hle (hdeep.trans hframes)⟩
      have hfits := fits_of_sizes (c := c.withBudget limit) hoffer hplan hmax hsizes
      refine ⟨SubscriberConfig.validate_eq_ok.mpr (haccepted.withBudget hbuffer hlarger hmax hsizes
        hfits), ?_⟩
      obtain ⟨depth, window, hupper, hdepth, hwindow⟩ :=
        upperReceivePlan_room hoffer hplan haccepted.limit.2 hroom
      obtain ⟨depth', window', hupper', hdepth', hwindow'⟩ :=
        upperReceivePlan_room (c := c.withBudget limit) hoffer hplan hmax hroom'
      have hmore' := hmore hlarger
      rw [hupper, hupper']
      dsimp only [fromLimits]
      rw [UInt32.le_iff_toNat_le, UInt32.le_iff_toNat_le, hdepth, hdepth', hwindow, hwindow']
      refine ⟨min_le_min_left _ hmore', ?_⟩
      change _ ≤ if c.ringDepth.toNat ≤ (c.withBudget limit).budgetFrames then
        c.creditWindow.toNat else min c.creditWindow.toNat (c.withBudget limit).budgetFrames
      split_ifs <;> omega

/-- A ring twice as deep as any may be, which the smallest budget cuts to 256 frames. -/
def deepClient : SubscriberConfig where
  streamName := [97]
  maxFrameBytes := 65536
  ringDepth := 2048
  pinnedMemoryLimitBytes := 16777216

theorem larger_budget_refused : deepClient.discoveryOffer = none ∧
    deepClient.receiveBuffer = false ∧ deepClient.validate = .ok ∧
    deepClient.pinnedMemoryLimitBytes ≤ 1073741824 ∧ 1073741824 ≤ kMaxPinnedBytes ∧
    (deepClient.withBudget 1073741824).validate = .depthTooLarge := by
  decide +kernel

theorem larger_budget_kept_thrifty :
    (thriftyClient.withBudget 1073741824).validate = .ok ∧
    thriftyClient.upperReceivePlan.ringDepth ≤
      (thriftyClient.withBudget 1073741824).upperReceivePlan.ringDepth := by
  have hall := (larger_budget_kept (c := thriftyClient) rfl rfl (by decide +kernel)).mpr
    (.inr ⟨by decide +kernel, fun _ => by decide⟩)
  obtain ⟨hvalid, hdepth, -⟩ := hall 1073741824 (by decide) (by decide)
  exact ⟨hvalid, hdepth⟩

end TangoBulk
