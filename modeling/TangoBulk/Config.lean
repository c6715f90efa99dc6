import TangoBulk.Geometry
import TangoBulk.LibBytes

/-! Publisher and subscriber configurations: the ranges that are enforced before anything
is allocated, what the publisher's constructor accepts, and the receive plan a subscriber
asks for. -/
namespace TangoBulk

open ByteString

/-- One byte of `[A-Za-z0-9_.-]`. -/
def isStreamNameByte (c : UInt8) : Bool :=
  (65 ≤ c ∧ c ≤ 90) ∨ (97 ≤ c ∧ c ≤ 122) ∨ (48 ≤ c ∧ c ≤ 57) ∨ c = 95 ∨ c = 46 ∨ c = 45

def isValidStreamName (name : Bytes) : Bool :=
  kMinStreamNameBytes ≤ name.length ∧ name.length ≤ kMaxStreamNameBytes ∧
    name.all isStreamNameByte

def validateCommon (streamName : Bytes) (maxFrameBytes : UInt64) (ringDepth creditWindow : UInt32)
    (pinnedMemoryLimitBytes : UInt64) : Status :=
  if !isValidStreamName streamName then .malformedMessage
  else if maxFrameBytes < kMinFrameBytes ∨ kMaxFrameBytesHardCap < maxFrameBytes then
    .frameTooLarge
  else if ringDepth < kMinRingDepth ∨ kMaxRingDepth < ringDepth then .depthTooLarge
  else if creditWindow < 1 ∨ ringDepth < creditWindow then .depthTooLarge
  else if pinnedMemoryLimitBytes < kMinPinnedBytes ∨ kMaxPinnedBytes < pinnedMemoryLimitBytes then
    .resourceExhausted
  else .ok

/-- The sizing rules common to both configurations, to receive plans and to grants. -/
structure SizesInRange (maxFrameBytes : UInt64) (ringDepth creditWindow : UInt32) : Prop where
  frame : kMinFrameBytes ≤ maxFrameBytes ∧ maxFrameBytes ≤ kMaxFrameBytesHardCap
  depth : kMinRingDepth ≤ ringDepth ∧ ringDepth ≤ kMaxRingDepth
  window : 1 ≤ creditWindow ∧ creditWindow ≤ ringDepth

lemma validateCommon_ok {name : Bytes} {frame : UInt64} {depth window : UInt32}
    {limit : UInt64} (h : validateCommon name frame depth window limit = .ok) :
    isValidStreamName name = true ∧ SizesInRange frame depth window := by
  unfold validateCommon at h
  split_ifs at h with h1 h2 h3 h4 h5
  simp only [not_or, UInt64.not_lt, UInt32.not_lt] at h2 h3 h4
  exact ⟨by simpa using h1, h2, h3, h4⟩

lemma check_eq_ok {c : Prop} [Decidable c] {refusal rest : Status} (h : refusal ≠ .ok) :
    (if c then refusal else rest) = .ok ↔ ¬ c ∧ rest = .ok := by
  split_ifs with hc
  · simp [hc, h]
  · simp [hc]

lemma inner_eq_ok {status rest : Status} :
    (if status ≠ .ok then status else rest) = .ok ↔ status = .ok ∧ rest = .ok := by
  by_cases hs : status = .ok
  · simp [hs]
  · simp [hs]

/-! ### Publisher -/

structure PublisherConfig where
  streamName : Bytes
  frameMetadata : FrameMetadata := {}
  maxFrameBytes : UInt64 := 8388608
  ringDepth : UInt32 := 32
  creditWindow : UInt32 := 16
  maxSessions : UInt32 := 4
  fanoutMode : FanoutMode := .bestEffort
  publishQueueDepth : UInt32 := 256
  leaseTtlMs : UInt32 := 10000
  renewIntervalMs : UInt32 := 3333
  maxRenewalsPerTtl : UInt32 := 10
  pinnedMemoryLimitBytes : UInt64 := 1073741824
  engineCpuAffinity : ℤ := -1

/-- No array was declared: an opaque byte stream. -/
def FrameMetadata.undeclared (m : FrameMetadata) : Bool := m.elementType = .unknown ∧ m.rank = 0

namespace PublisherConfig

/-- The declared layout resolves. -/
def validateMetadata (c : PublisherConfig) : Status :=
  if c.frameMetadata.undeclared then .ok else (c.frameMetadata.resolve c.maxFrameBytes).1

def validate (c : PublisherConfig) : Status :=
  let common := validateCommon c.streamName c.maxFrameBytes c.ringDepth c.creditWindow
    c.pinnedMemoryLimitBytes
  if common ≠ .ok then common
  else if c.validateMetadata ≠ .ok then c.validateMetadata
  else if c.maxSessions < 1 ∨ kMaxSessions < c.maxSessions then .depthTooLarge
  else if c.fanoutMode ≠ .bestEffort ∧ c.fanoutMode ≠ .allActive then .malformedMessage
  else if c.publishQueueDepth < kMinPublishQueue ∨ kMaxPublishQueue < c.publishQueueDepth then
    .depthTooLarge
  else if c.leaseTtlMs < kMinLeaseTtlMs ∨ kMaxLeaseTtlMs < c.leaseTtlMs then .malformedMessage
  else if c.renewIntervalMs < c.leaseTtlMs / 10 ∨ c.leaseTtlMs / 2 < c.renewIntervalMs then
    .renewTooFrequent
  else if c.maxRenewalsPerTtl < kMinRenewalsPerTtl ∨
      kMaxRenewalsPerTtl < c.maxRenewalsPerTtl then .renewTooFrequent
  else if c.engineCpuAffinity < -1 then .malformedMessage
  else .ok

/-- The layout the constructor stores: opaque bytes of the frame size, or the declared array
with its inferrable fields filled in. -/
def settleMetadata (c : PublisherConfig) : Status × PublisherConfig :=
  if c.frameMetadata.undeclared then
    (.ok, { c with frameMetadata := { c.frameMetadata with
      elementType := .byte, elementSize := 1, payloadBytes := c.maxFrameBytes } })
  else
    ((c.frameMetadata.resolve c.maxFrameBytes).1,
      { c with frameMetadata := (c.frameMetadata.resolve c.maxFrameBytes).2 })

/-- The `BulkPublisher` constructor up to the allocation: the configuration it runs with, or
the status of the exception. -/
def construct (c : PublisherConfig) : Except Status PublisherConfig :=
  if c.settleMetadata.1 ≠ .ok then .error c.settleMetadata.1
  else if c.settleMetadata.2.validate ≠ .ok then .error c.settleMetadata.2.validate
  else .ok c.settleMetadata.2

/-- What every check of `validate` leaves true. -/
structure Valid (c : PublisherConfig) : Prop where
  name : isValidStreamName c.streamName = true
  sizes : SizesInRange c.maxFrameBytes c.ringDepth c.creditWindow
  sessions : 1 ≤ c.maxSessions ∧ c.maxSessions ≤ kMaxSessions
  mode : c.fanoutMode = .bestEffort ∨ c.fanoutMode = .allActive
  queue : kMinPublishQueue ≤ c.publishQueueDepth ∧ c.publishQueueDepth ≤ kMaxPublishQueue
  metadata : c.validateMetadata = .ok

lemma validate_eq_ok {c : PublisherConfig} :
    c.validate = .ok ↔
      validateCommon c.streamName c.maxFrameBytes c.ringDepth c.creditWindow
        c.pinnedMemoryLimitBytes = .ok ∧
      c.validateMetadata = .ok ∧
      ¬ (c.maxSessions < 1 ∨ kMaxSessions < c.maxSessions) ∧
      ¬ (c.fanoutMode ≠ .bestEffort ∧ c.fanoutMode ≠ .allActive) ∧
      ¬ (c.publishQueueDepth < kMinPublishQueue ∨ kMaxPublishQueue < c.publishQueueDepth) ∧
      ¬ (c.leaseTtlMs < kMinLeaseTtlMs ∨ kMaxLeaseTtlMs < c.leaseTtlMs) ∧
      ¬ (c.renewIntervalMs < c.leaseTtlMs / 10 ∨ c.leaseTtlMs / 2 < c.renewIntervalMs) ∧
      ¬ (c.maxRenewalsPerTtl < kMinRenewalsPerTtl ∨ kMaxRenewalsPerTtl < c.maxRenewalsPerTtl) ∧
      ¬ c.engineCpuAffinity < -1 := by
  have hdepth : Status.depthTooLarge ≠ .ok := by decide
  have hmalformed : Status.malformedMessage ≠ .ok := by decide
  have hrenew : Status.renewTooFrequent ≠ .ok := by decide
  unfold validate
  rw [inner_eq_ok, inner_eq_ok, check_eq_ok hdepth, check_eq_ok hmalformed, check_eq_ok hdepth,
    check_eq_ok hmalformed, check_eq_ok hrenew, check_eq_ok hrenew, check_eq_ok hmalformed,
    eq_self_iff_true, and_true]

lemma validate_ok {c : PublisherConfig} (h : c.validate = .ok) : c.Valid := by
  obtain ⟨hcommon, hmetadata, hsessions, hmode, hqueue, -⟩ := validate_eq_ok.mp h
  obtain ⟨hname, hsizes⟩ := validateCommon_ok hcommon
  simp only [not_or, not_and_or, not_not, UInt32.not_lt] at hsessions hmode hqueue
  exact ⟨hname, hsizes, hsessions, hmode, hqueue, hmetadata⟩

lemma construct_ok {c c' : PublisherConfig} (h : c.construct = .ok c') :
    c'.Valid ∧ c.settleMetadata = (.ok, c') := by
  unfold construct at h
  split_ifs at h with h1 h2
  cases h
  refine ⟨validate_ok (not_not.mp h2), ?_⟩
  rw [← not_not.mp h1]

lemma construct_metadata {c c' : PublisherConfig} (h : c.construct = .ok c') :
    c'.frameMetadata.validate c'.maxFrameBytes = .ok := by
  obtain ⟨hvalid, hsettle⟩ := construct_ok h
  unfold settleMetadata at hsettle
  split_ifs at hsettle with hundeclared
  · obtain rfl := (Prod.mk.inj hsettle).2
    have hrank : c.frameMetadata.rank = 0 := by
      simp only [FrameMetadata.undeclared, decide_eq_true_eq] at hundeclared
      exact hundeclared.2
    have hframe : c.maxFrameBytes ≠ 0 := by
      intro hz
      have hmin := hvalid.sizes.frame.1
      rw [show c.maxFrameBytes = 0 from hz] at hmin
      exact absurd hmin (by decide)
    exact FrameMetadata.validate_of_resolve (by simp) hframe hrank hvalid.metadata
  · obtain ⟨hok, rfl⟩ := Prod.mk.inj hsettle
    exact FrameMetadata.resolve_validate hok

end PublisherConfig

/-! ### Subscriber -/

/-- `PinnedLedger::checked_bytes`. -/
def checkedBytes (frameBytes : UInt64) (ringDepth : UInt32) : Option UInt64 :=
  if frameBytes.toNat * ringDepth.toNat < 2 ^ 64 then some (frameBytes * ringDepth.toUInt64)
  else none

structure ReceivePlan where
  maxFrameBytes : UInt64 := 0
  ringDepth : UInt32 := 0
  creditWindow : UInt32 := 0
  pinnedBytes : UInt64 := 0
  deriving DecidableEq

namespace ReceivePlan

def validate (p : ReceivePlan) : Status :=
  match checkedBytes p.maxFrameBytes p.ringDepth with
  | none => .resourceExhausted
  | some requiredBytes =>
    if p.maxFrameBytes < kMinFrameBytes ∨ kMaxFrameBytesHardCap < p.maxFrameBytes then
      .frameTooLarge
    else if p.ringDepth < kMinRingDepth ∨ kMaxRingDepth < p.ringDepth then .depthTooLarge
    else if p.creditWindow = 0 ∨ p.ringDepth < p.creditWindow then .depthTooLarge
    else if p.pinnedBytes ≠ requiredBytes then .resourceExhausted
    else .ok

/-- An overflowing plan keeps a byte count that no budget allows. -/
def fromLimits (maxFrameBytes : UInt64) (ringDepth creditWindow : UInt32) : ReceivePlan where
  maxFrameBytes := maxFrameBytes
  ringDepth := ringDepth
  creditWindow := creditWindow
  pinnedBytes := (checkedBytes maxFrameBytes ringDepth).getD (UInt64.ofNat (2 ^ 64 - 1))

def intersect (upper grant : ReceivePlan) : ReceivePlan :=
  if upper.validate ≠ .ok ∨ grant.validate ≠ .ok then {}
  else fromLimits (min upper.maxFrameBytes grant.maxFrameBytes)
    (min upper.ringDepth grant.ringDepth) (min upper.creditWindow grant.creditWindow)

/-- The deepest ring of the geometry's frames that the budget holds. -/
def derive (geometry : GeometryBlock) (pinnedMemoryLimitBytes : UInt64) : ReceivePlan :=
  if geometry.validate ≠ .ok then {}
  else
    let depth := UInt32.ofNat
      (min geometry.ringDepth.toNat (pinnedMemoryLimitBytes / geometry.maxFrameBytes).toNat)
    if depth < kMinRingDepth then {}
    else fromLimits geometry.maxFrameBytes depth (min geometry.creditWindow depth)

end ReceivePlan

/-- What discovery said about a stream before the Open. -/
structure StreamOffer where
  version : UInt32 := 1
  streamName : Bytes
  geometry : GeometryBlock
  ageMs : UInt64 := 0
  status : Status
  message : String := ""

def StreamOffer.validate (o : StreamOffer) : Status :=
  if o.version ≠ 1 then .unsupportedVersion
  else if o.status ≠ .ok then o.status
  else if !isValidStreamName o.streamName then .malformedMessage
  else if 5000 < o.ageMs then .transportFailure
  else o.geometry.validate

inductive DeliveryMode
  | push | pull
  deriving DecidableEq

inductive ReconnectPolicy
  | failFast | boundedRetry
  deriving DecidableEq

/-- `receiveBuffer` is whether the caller supplies the ring. -/
structure SubscriberConfig where
  streamName : Bytes
  maxFrameBytes : UInt64 := 8388608
  ringDepth : UInt32 := 32
  creditWindow : UInt32 := 16
  deliveryQueueDepth : UInt32 := 64
  deliveryMode : DeliveryMode := .push
  dropPolicy : DropPolicy := .dropNewest
  reconnectPolicy : ReconnectPolicy := .boundedRetry
  reconnectMaxAttempts : UInt32 := 10
  reconnectBackoffMs : UInt32 := 500
  commandTimeoutMs : UInt32 := 5000
  establishmentTimeoutMs : UInt32 := 30000
  probeTimeoutMs : UInt32 := 5000
  pinnedMemoryLimitBytes : UInt64 := 1073741824
  engineCpuAffinity : ℤ := -1
  receiveBuffer : Bool := false
  receiveBufferBytes : UInt64 := 0
  receiveMemoryKind : MemoryKind := .host
  receivePlan : Option ReceivePlan := none
  discoveryOffer : Option StreamOffer := none

namespace SubscriberConfig

def requestedPlan (c : SubscriberConfig) : ReceivePlan :=
  c.receivePlan.getD (.fromLimits c.maxFrameBytes c.ringDepth c.creditWindow)

/-- Without discovery, a plan from the individual fields is reduced to the budget's depth. -/
def reduceToBudget (c : SubscriberConfig) (upper : ReceivePlan) : ReceivePlan :=
  let budgetDepth := c.pinnedMemoryLimitBytes / upper.maxFrameBytes
  if budgetDepth < kMinRingDepth.toUInt64 then {}
  else
    let reduced := ReceivePlan.fromLimits upper.maxFrameBytes
      (UInt32.ofNat (min upper.ringDepth.toNat budgetDepth.toNat)) upper.creditWindow
    { reduced with creditWindow := min reduced.creditWindow reduced.ringDepth }

def upperReceivePlan (c : SubscriberConfig) : ReceivePlan :=
  match c.discoveryOffer with
  | some offer =>
    let discovered :=
      if offer.validate ≠ .ok then {}
      else ReceivePlan.derive offer.geometry c.pinnedMemoryLimitBytes
    c.requestedPlan.intersect discovered
  | none =>
    if c.receivePlan = none ∧ c.requestedPlan.maxFrameBytes ≠ 0 ∧
        c.pinnedMemoryLimitBytes < c.requestedPlan.pinnedBytes then
      c.reduceToBudget c.requestedPlan
    else c.requestedPlan

/-- The checks on the optional plan and offer. -/
def validateSources (c : SubscriberConfig) : Status :=
  let plan := c.receivePlan.elim .ok ReceivePlan.validate
  if plan ≠ .ok then plan
  else
    match c.discoveryOffer with
    | none => .ok
    | some offer => if offer.streamName ≠ c.streamName then .malformedMessage else offer.validate

/-- The checks up to the sizes of the upper plan. -/
def validatePlan (c : SubscriberConfig) : Status :=
  let upper := c.upperReceivePlan
  if c.validateSources ≠ .ok then c.validateSources
  else if c.requestedPlan.validate = .ok ∧ upper.maxFrameBytes = 0 then .resourceExhausted
  else validateCommon c.streamName upper.maxFrameBytes upper.ringDepth upper.creditWindow
    c.pinnedMemoryLimitBytes

/-- The checks on the receive buffer and its memory. -/
def validateBuffer (c : SubscriberConfig) : Status :=
  let upper := c.upperReceivePlan
  if c.receiveBuffer ≠ decide (c.receiveBufferBytes ≠ 0) then .malformedMessage
  else if !c.receiveBuffer ∧ c.receiveMemoryKind ≠ .host then .malformedMessage
  else if c.receiveMemoryKind ≠ .host ∧ c.receiveMemoryKind ≠ .cuda ∧
      c.receiveMemoryKind ≠ .rocm then .malformedMessage
  else if c.pinnedMemoryLimitBytes < upper.pinnedBytes then .resourceExhausted
  else if c.receiveBuffer ∧ c.receiveBufferBytes < upper.pinnedBytes then .resourceExhausted
  else if c.receiveBuffer ∧ c.pinnedMemoryLimitBytes < c.receiveBufferBytes then
    .resourceExhausted
  else .ok

def validate (c : SubscriberConfig) : Status :=
  if c.validatePlan ≠ .ok then c.validatePlan
  else if c.deliveryQueueDepth < kMinDeliveryQueue ∨ kMaxDeliveryQueue < c.deliveryQueueDepth then
    .depthTooLarge
  else if c.establishmentTimeoutMs = 0 then .malformedMessage
  else if c.commandTimeoutMs = 0 ∨ c.probeTimeoutMs = 0 then .malformedMessage
  else if c.engineCpuAffinity < -1 then .malformedMessage
  else c.validateBuffer

/-- `SubscriptionFactory::open` writes the upper plan back before anything else reads the
sizes. -/
def normalize (c : SubscriberConfig) : SubscriberConfig :=
  { c with
    maxFrameBytes := c.upperReceivePlan.maxFrameBytes
    ringDepth := c.upperReceivePlan.ringDepth
    creditWindow := c.upperReceivePlan.creditWindow }

lemma validate_depth {c : SubscriberConfig} (h : c.validate = .ok) :
    kMinDeliveryQueue ≤ c.deliveryQueueDepth ∧ c.deliveryQueueDepth ≤ kMaxDeliveryQueue := by
  unfold validate at h
  split_ifs at h with h1 h2
  · exact absurd h h1
  · simpa only [not_or, UInt32.not_lt] using h2

end SubscriberConfig

end TangoBulk
