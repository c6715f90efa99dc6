import TangoBulk.OfferRow
import TangoBulk.PublisherGrant

/-! From discovery to the grant. A publisher offers its configured geometry in a row of text, a
client plans a ring within the offer and its own budget, and the Open asks for the plan. -/
namespace TangoBulk

open ByteString Transition

/-! ### The offer -/

namespace Publisher

/-- The offer of a snapshot taken now; the publisher accepts sessions while it runs. -/
def streamOffer (p : Publisher) : StreamOffer where
  streamName := p.config.streamName
  geometry := p.currentGeometry
  status := if p.running then .ok else .unknownStream
  message := if p.running then "" else "publisher is not accepting sessions"

/-- The rows that a read of `BulkStreams` returns. -/
def bulkStreams (p : Publisher) : List Bytes :=
  if p.streamOffer.status = .ok then [p.streamOffer.toBulkStreamRow] else []

end Publisher

/-- The loop of `discover` over the rows, with the offer found so far. -/
def discoverRows (streamName : Bytes) : List Bytes → Option StreamOffer → StreamOffer
  | [], some offer => offer
  | [], none =>
    { streamName, geometry := .unarmed, status := .unknownStream
      message := "stream was not present in BulkStreams" }
  | row :: rest, found =>
    let offer := StreamOffer.fromBulkStreamRow row
    if offer.outcome = .malformed ∨ offer.outcome = .unavailable then offer
    else if offer.streamName = streamName then
      match found with
      | some _ =>
        { offer with status := .malformedMessage
                     message := "BulkStreams contains duplicate stream rows" }
      | none => discoverRows streamName rest (some offer)
    else discoverRows streamName rest found

/-- What a client makes of the attribute once it was read. -/
def discover (streamName : Bytes) (rows : List Bytes) : StreamOffer :=
  if rows = [] then
    { streamName, geometry := .unarmed, status := .unknownStream
      message := "BulkStreams is empty" }
  else discoverRows streamName rows none

namespace Publisher

variable {p q : Publisher} {c c' : PublisherConfig}

lemma currentGeometry_validate (hc : c.construct = .ok c') (hp : p.config = c')
    (hg : p.generation = 1) : p.currentGeometry.validate = .ok := by
  subst hp
  have hsizes := (PublisherConfig.construct_ok hc).1.sizes
  obtain ⟨-, helement, -, hpayload, -, hshape⟩ :=
    FrameMetadata.validate_ok (PublisherConfig.construct_metadata hc)
  rw [GeometryBlock.validate_ok]
  refine ⟨?_, helement, hsizes.frame, hsizes.depth, ⟨?_, hsizes.window.2⟩,
    validateShapeAndStrides_mono hpayload hshape⟩
  · change p.generation ≠ 0
    rw [hg]
    decide
  · exact UInt32.pos_iff_ne_zero.mp hsizes.window.1

lemma streamOffer_validate (hc : c.construct = .ok c') (hp : p.config = c')
    (hg : p.generation = 1) (hrunning : p.running = true) : p.streamOffer.validate = .ok := by
  have hname : isValidStreamName p.config.streamName = true := by
    rw [hp]
    exact (PublisherConfig.construct_ok hc).1.name
  have hgeometry := currentGeometry_validate hc hp hg
  simp [StreamOffer.validate, streamOffer, hrunning, hname, hgeometry]

end Publisher

lemma discover_bulkStreams {p : Publisher} (hrunning : p.running = true)
    (hname : isValidStreamName p.config.streamName = true) (hvalid : p.streamOffer.validate = .ok) :
    discover p.config.streamName p.bulkStreams = p.streamOffer := by
  have hstatus : p.streamOffer.status = .ok := if_pos hrunning
  have hmessage : p.streamOffer.rowMessage = p.streamOffer.message := by
    rw [StreamOffer.rowMessage, if_pos hvalid]
    exact (if_pos hrunning).symm
  have hread : StreamOffer.fromBulkStreamRow p.streamOffer.toBulkStreamRow = p.streamOffer := by
    rw [StreamOffer.fromBulkStreamRow_toBulkStreamRow hstatus (separator_not_mem_name hname),
      hmessage]
  have hrows : p.bulkStreams = [p.streamOffer.toBulkStreamRow] := if_pos hstatus
  have hsame : p.streamOffer.streamName = p.config.streamName := rfl
  rw [hrows, discover, if_neg (List.cons_ne_nil _ _), discoverRows, hread,
    StreamOffer.outcome_eq_available.mpr hvalid, if_neg (by decide), if_pos hsame, discoverRows]

lemma discover_validated {p : Publisher} (hname : isValidStreamName p.config.streamName = true)
    (hoffer : p.running = true → p.streamOffer.validate = .ok)
    (h : (discover p.config.streamName p.bulkStreams).validate = .ok) :
    discover p.config.streamName p.bulkStreams = p.streamOffer := by
  cases hrunning : p.running with
  | true => exact discover_bulkStreams hrunning hname (hoffer hrunning)
  | false =>
    have hrows : p.bulkStreams = [] := by
      simp [Publisher.bulkStreams, Publisher.streamOffer, hrunning]
    rw [hrows] at h
    simp [discover, StreamOffer.validate] at h

/-! ### The plan -/

/-- The overload of `derive` for an offer. -/
def ReceivePlan.deriveOffer (offer : StreamOffer) (pinnedMemoryLimitBytes : UInt64) :
    ReceivePlan :=
  if offer.validate ≠ .ok then {} else derive offer.geometry pinnedMemoryLimitBytes

/-- A ring of the offered frames, no deeper and with no wider window than offered. -/
structure ReceivePlan.Within (plan : ReceivePlan) (offered : GeometryBlock) : Prop where
  frame : plan.maxFrameBytes = offered.maxFrameBytes
  depth : kMinRingDepth ≤ plan.ringDepth ∧ plan.ringDepth ≤ offered.ringDepth
  window : plan.creditWindow ≠ 0 ∧ plan.creditWindow ≤ offered.creditWindow ∧
    plan.creditWindow ≤ plan.ringDepth

lemma ne_zero_of_minDepth {depth : UInt32} (h : kMinRingDepth ≤ depth) : depth ≠ 0 := by
  rintro rfl
  exact absurd h (by decide)

lemma min_ne_zero {a b : UInt32} (ha : a ≠ 0) (hb : b ≠ 0) : min a b ≠ 0 := by
  rcases Std.min_eq_or (a := a) (b := b) with hmin | hmin
  all_goals rwa [hmin]

lemma ReceivePlan.derive_within {g : GeometryBlock} {budget : UInt64}
    (h : derive g budget ≠ {}) : (derive g budget).Within g := by
  unfold derive at h ⊢
  dsimp only at h ⊢
  split_ifs at h ⊢ with hinvalid hshallow
  · exact absurd rfl h
  · exact absurd rfl h
  · obtain ⟨-, -, -, -, ⟨hwindow, -⟩, -⟩ := GeometryBlock.validate_ok.mp (not_not.mp hinvalid)
    have hdepth := UInt32.not_lt.mp hshallow
    refine ⟨rfl, ⟨hdepth, ?_⟩, ⟨?_, Std.min_le_left, Std.min_le_right⟩⟩
    · rw [UInt32.le_iff_toNat_le]
      exact (Nat.mod_le _ _).trans (Nat.min_le_left _ _)
    · exact min_ne_zero hwindow (ne_zero_of_minDepth hdepth)

lemma ReceivePlan.deriveOffer_within {offer : StreamOffer} {budget : UInt64}
    (h : deriveOffer offer budget ≠ {}) :
    offer.validate = .ok ∧ (deriveOffer offer budget).Within offer.geometry := by
  unfold deriveOffer at h ⊢
  split_ifs at h ⊢ with hinvalid
  · exact absurd rfl h
  · exact ⟨not_not.mp hinvalid, derive_within h⟩

/-- The geometry with the sizes of a plan. -/
def ReceivePlan.sized (plan : ReceivePlan) (g : GeometryBlock) : GeometryBlock :=
  { g with
    maxFrameBytes := plan.maxFrameBytes
    ringDepth := plan.ringDepth
    creditWindow := plan.creditWindow }

lemma ReceivePlan.Within.sized_validate {plan : ReceivePlan} {g : GeometryBlock}
    (h : plan.Within g) (hg : g.validate = .ok) : (plan.sized g).validate = .ok := by
  obtain ⟨hgeneration, helement, hframe, hdepth, -, hshape⟩ := GeometryBlock.validate_ok.mp hg
  rw [GeometryBlock.validate_ok]
  rw [← h.frame] at hframe hshape
  exact ⟨hgeneration, helement, hframe, ⟨h.depth.1, UInt32.le_trans h.depth.2 hdepth.2⟩,
    ⟨h.window.1, h.window.2.2⟩, hshape⟩

/-! ### The grant -/

/-- The checks `handle_open` makes of a request besides its sizes. -/
structure OpenAcceptable (c : PublisherConfig) (request : OpenRequest) : Prop where
  transport : request.requestedTransport = .any ∨ request.requestedTransport = .activeMessage
  memoryKind : request.requestedMemoryKind = .host ∨ request.requestedMemoryKind = .cuda ∨
    request.requestedMemoryKind = .rocm
  version : request.versionMin ≤ kVersionMajor ∧ kVersionMajor ≤ request.versionMax
  stream : request.streamName = c.streamName

/-- The request asks for the sizes of the plan. -/
structure OpenRequest.Asks (request : OpenRequest) (plan : ReceivePlan) : Prop where
  frame : request.requestedMaxFrameBytes = plan.maxFrameBytes
  depth : request.requestedRingDepth = plan.ringDepth
  window : request.requestedCreditWindow = plan.creditWindow

namespace Publisher

variable {p q : Publisher} {request : OpenRequest} {plan : ReceivePlan}

lemma clampGeometry_asks (hasks : request.Asks plan) (h : plan.Within q.currentGeometry) :
    q.clampGeometry request = plan.sized q.currentGeometry := by
  have hframe : min plan.maxFrameBytes q.config.maxFrameBytes = plan.maxFrameBytes :=
    Std.LawfulOrderLeftLeaningMin.min_eq_left _ _ (UInt64.le_of_eq h.frame)
  have hdepth : min plan.ringDepth q.config.ringDepth = plan.ringDepth :=
    Std.LawfulOrderLeftLeaningMin.min_eq_left _ _ h.depth.2
  have hwindow : min plan.creditWindow q.config.creditWindow = plan.creditWindow :=
    Std.LawfulOrderLeftLeaningMin.min_eq_left _ _ h.window.2.1
  rw [clampGeometry, hasks.frame, hasks.depth, hasks.window, hframe, hdepth, hwindow,
    ReceivePlan.sized]

lemma screenOpen_acceptable (h : OpenAcceptable q.config request)
    (hvalid : (q.clampGeometry request).validate = .ok) :
    q.screenOpen request = .granted (q.clampGeometry request) := by
  obtain ⟨-, -, ⟨hframe, -⟩, ⟨hdepth, -⟩, ⟨hwindow, -⟩, -⟩ := GeometryBlock.validate_ok.mp hvalid
  have hbytes : (q.clampGeometry request).maxFrameBytes ≠ 0 := by
    intro hzero
    rw [hzero] at hframe
    exact absurd hframe (by decide)
  unfold screenOpen
  rw [if_neg (by simpa only [ne_eq, not_and_or, not_not] using h.transport),
    if_neg (by simpa only [ne_eq, not_and_or, not_not] using h.memoryKind),
    if_neg (by simpa [not_or] using h.version), if_neg (not_not.mpr h.stream),
    if_neg (by simp [hbytes, ne_zero_of_minDepth hdepth, hwindow])]

lemma handleOpen_acceptable (h : OpenAcceptable q.config request)
    (hvalid : (q.clampGeometry request).validate = .ok) (hseat : q.selectSeat ≠ none)
    (fresh : Fresh) :
    ∃ reply q', q.handleOpen request true (.ok fresh) = (.ok (.openReply reply), q') ∧
      reply.geometry = q.clampGeometry request := by
  obtain ⟨k, hk⟩ := Option.ne_none_iff_exists'.mp hseat
  refine ⟨(q.claimSeat k request fresh).openReplyFor k request, q.claimSeat k request fresh, ?_,
    rfl⟩
  rw [handleOpen, screenOpen_acceptable h hvalid, hk]
  rfl

lemma currentGeometry_eq (hconfig : p.config = q.config)
    (hgeneration : p.generation = q.generation) : p.currentGeometry = q.currentGeometry := by
  rw [currentGeometry, currentGeometry, hconfig, hgeneration]

end Publisher

/-- The configured geometry is valid and on offer while the publisher runs. An Open that asks
for a plan made from the offer as it was read back is granted the plan, now or later. -/
theorem discovered_plan_granted {c c' : PublisherConfig} (hc : c.construct = .ok c')
    {epoch : UInt64} {address : Bytes} {offered opened : List PublisherEvent} {p q : Publisher}
    (hp : publisherMachine.Reaches anyStep (Publisher.create c' epoch address) offered p)
    (hq : publisherMachine.Reaches anyStep (Publisher.create c' epoch address) opened q) :
    p.currentGeometry.validate = .ok ∧ (p.running = true → p.streamOffer.outcome = .available) ∧
    ∀ (budget : UInt64) (request : OpenRequest) (fresh : Publisher.Fresh),
      let offer := discover c'.streamName p.bulkStreams
      let plan := ReceivePlan.deriveOffer offer budget
      plan ≠ {} → OpenAcceptable c' request → request.Asks plan → q.selectSeat ≠ none →
      ∃ reply q', q.handleOpen request true (.ok fresh) = (.ok (.openReply reply), q') ∧
        reply.geometry.maxFrameBytes = plan.maxFrameBytes ∧
        reply.geometry.ringDepth = plan.ringDepth ∧
        reply.geometry.creditWindow = plan.creditWindow ∧
        reply.geometry.validate = .ok ∧
        reply.geometry.describesSameArray offer.geometry = true := by
  obtain ⟨hpc, hpg⟩ := reach_identity hp
  obtain ⟨hqc, hqg⟩ := reach_identity hq
  have hgeometry := Publisher.currentGeometry_validate hc hpc hpg
  have hsame : p.currentGeometry = q.currentGeometry :=
    Publisher.currentGeometry_eq (hpc.trans hqc.symm) (hpg.trans hqg.symm)
  refine ⟨hgeometry,
    fun hrunning => StreamOffer.outcome_eq_available.mpr
      (Publisher.streamOffer_validate hc hpc hpg hrunning), ?_⟩
  intro budget request fresh offer plan hplan hrequest hasks hseat
  obtain ⟨hoffer, hwithin⟩ := ReceivePlan.deriveOffer_within hplan
  have hname : isValidStreamName p.config.streamName = true := by
    rw [hpc]
    exact (PublisherConfig.construct_ok hc).1.name
  have hread : offer.geometry = q.currentGeometry := by
    have hoffered := discover_validated hname (Publisher.streamOffer_validate hc hpc hpg)
    rw [hpc] at hoffered
    rw [← hsame]
    exact congrArg StreamOffer.geometry (hoffered hoffer)
  rw [hread] at hwithin
  have hclamp := Publisher.clampGeometry_asks hasks hwithin
  have hvalid : (q.clampGeometry request).validate = .ok := by
    rw [hclamp]
    exact hwithin.sized_validate (hsame ▸ hgeometry)
  rw [← hqc] at hrequest
  obtain ⟨reply, q', hopen, hreply⟩ := Publisher.handleOpen_acceptable hrequest hvalid hseat fresh
  refine ⟨reply, q', hopen, ?_⟩
  rw [hread, hreply]
  refine ⟨?_, ?_, ?_, hvalid, ?_⟩
  · rw [hclamp]
    rfl
  · rw [hclamp]
    rfl
  · rw [hclamp]
    rfl
  · simp [GeometryBlock.describesSameArray, Publisher.clampGeometry]

/-- A publisher of four frames and a client with memory for three. -/
def deepConfig : PublisherConfig := { wideConfig with ringDepth := 4, creditWindow := 4 }

def threeFrames : OpenRequest :=
  { sampleOpen with
    requestedMaxFrameBytes := 8192
    requestedRingDepth := 3
    requestedCreditWindow := 3 }

/-- The client asks for three frames and is granted them. -/
theorem discovered_plan_granted_three :
    let p := Publisher.create deepConfig 1 [1]
    let offer := discover deepConfig.streamName p.bulkStreams
    let plan := ReceivePlan.deriveOffer offer 25000
    plan = .fromLimits 8192 3 3 ∧
      ∃ reply p', p.handleOpen threeFrames true (.ok (sampleFresh 7)) =
          (.ok (.openReply reply), p') ∧
        reply.geometry.maxFrameBytes = plan.maxFrameBytes ∧
        reply.geometry.ringDepth = plan.ringDepth ∧
        reply.geometry.creditWindow = plan.creditWindow ∧
        reply.geometry.validate = .ok ∧
        reply.geometry.describesSameArray offer.geometry = true := by
  have hplan : ReceivePlan.deriveOffer
      (discover deepConfig.streamName (Publisher.create deepConfig 1 [1]).bulkStreams) 25000 =
        .fromLimits 8192 3 3 := by
    decide +kernel
  have hmade : deepConfig.construct = .ok deepConfig := rfl
  have hstart : publisherMachine.Reaches anyStep (Publisher.create deepConfig 1 [1]) []
    (Publisher.create deepConfig 1 [1]) := .start
  obtain ⟨-, -, hagree⟩ := discovered_plan_granted hmade hstart hstart
  have hagree := hagree 25000 threeFrames (sampleFresh 7)
  refine ⟨hplan, hagree ?_ ⟨.inl rfl, .inl rfl, by decide, rfl⟩ ?_ (by decide +kernel)⟩
  · rw [hplan]
    decide
  · rw [hplan]
    exact ⟨rfl, rfl, rfl⟩

end TangoBulk
