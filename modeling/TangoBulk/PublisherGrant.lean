import TangoBulk.ProtocolRoundTrip
import TangoBulk.PublisherEffects
import TangoBulk.Subscription

/-! What an Open grants. The publisher clamps the three sizes of a request one by one, while a
geometry is valid only if they agree with each other and with the configured array. -/
namespace TangoBulk

open ByteString Transition

/-! ### The configured array -/

/-- The array and the memory it spans fit the given number of bytes. -/
structure ArrayFits (m : FrameMetadata) (bytes : UInt64) : Prop where
  described : ∀ n ∈ (elementCount m.rank.toNat m.shape).bind (mulOverflow · m.elementSize.toNat),
    n ≤ bytes.toNat
  spanned : hasZeroDimension m.rank.toNat m.shape = true ∨
    ∀ n ∈ (lastOffset m.rank.toNat m.shape m.strides).bind (addOverflow · m.elementSize.toNat),
      n ≤ bytes.toNat

lemma option_bound {x : Option ℕ} {limit bytes : ℕ} (h : ∃ n, x = some n ∧ n ≤ limit) :
    (∃ n, x = some n ∧ n ≤ bytes) ↔ ∀ n ∈ x, n ≤ bytes := by
  obtain ⟨n, rfl, -⟩ := h
  simp

lemma validateShapeAndStrides_fits {m : FrameMetadata} {limit bytes : UInt64}
    (h : validateShapeAndStrides m.rank m.shape m.strides m.elementSize limit = .ok) :
    validateShapeAndStrides m.rank m.shape m.strides m.elementSize bytes = .ok ↔
      ArrayFits m bytes := by
  obtain ⟨hrank, hzero, hdescribed, hspanned⟩ := validateShapeAndStrides_ok.mp h
  rw [validateShapeAndStrides_ok, option_bound hdescribed]
  constructor
  · rintro ⟨-, -, hd, hs⟩
    refine ⟨hd, hs.imp_right ?_⟩
    rintro ⟨n, hn, hle⟩ k hk
    obtain rfl := Option.some.inj (hn.symm.trans hk)
    exact hle
  · rintro ⟨hd, hs⟩
    refine ⟨hrank, hzero, hd, ?_⟩
    rcases hs with hs | hs
    · exact .inl hs
    · rcases hspanned with hz | ⟨n, hn, -⟩
      · exact .inl hz
      · exact .inr ⟨n, hn, hs n hn⟩

/-! ### The clamped geometry -/

/-- The request asks for sizes that are valid on their own, for a ring at least as deep as the
window it will be granted, and for frames that hold the configured array. -/
structure Fitting (c : PublisherConfig) (request : OpenRequest) : Prop where
  frame : kMinFrameBytes ≤ request.requestedMaxFrameBytes
  depth : kMinRingDepth ≤ request.requestedRingDepth
  window : request.requestedCreditWindow ≤ request.requestedRingDepth ∨
    c.creditWindow ≤ request.requestedRingDepth
  array : ArrayFits c.frameMetadata request.requestedMaxFrameBytes

namespace Publisher

variable {p p' : Publisher} {request : OpenRequest} {c c' : PublisherConfig}

lemma screenOpen_granted {geometry : GeometryBlock} (h : p.screenOpen request = .granted geometry) :
    geometry = p.clampGeometry request ∧ (p.clampGeometry request).creditWindow ≠ 0 := by
  unfold screenOpen at h
  dsimp only at h
  split_ifs at h with h1 h2 h3 h4 h5
  simp only [not_or] at h5
  exact ⟨(OpenScreen.granted.inj h).symm, h5.2.2⟩

/-- When the clamped geometry is valid. -/
lemma clampGeometry_validate (hc : c.construct = .ok c') (hp : p.config = c')
    (hg : p.generation = 1) (hw : (p.clampGeometry request).creditWindow ≠ 0) :
    (p.clampGeometry request).validate = .ok ↔ Fitting c' request := by
  subst hp
  obtain ⟨hvalid, -⟩ := PublisherConfig.construct_ok hc
  obtain ⟨-, helement, -, hpayload, -, hshape⟩ :=
    FrameMetadata.validate_ok (PublisherConfig.construct_metadata hc)
  have hconfigured := validateShapeAndStrides_mono hpayload hshape
  have hsizes := hvalid.sizes
  have harray : validateShapeAndStrides p.config.frameMetadata.rank p.config.frameMetadata.shape
      p.config.frameMetadata.strides p.config.frameMetadata.elementSize
      (min request.requestedMaxFrameBytes p.config.maxFrameBytes) = .ok ↔
      ArrayFits p.config.frameMetadata request.requestedMaxFrameBytes := by
    rw [← validateShapeAndStrides_fits hconfigured]
    constructor
    · exact validateShapeAndStrides_mono Std.min_le_left
    · intro hreq
      rcases Std.min_eq_or (a := request.requestedMaxFrameBytes) (b := p.config.maxFrameBytes)
        with hmin | hmin
      · rw [hmin]
        exact hreq
      · rw [hmin]
        exact hconfigured
  rw [GeometryBlock.validate_ok]
  constructor
  · rintro ⟨-, -, ⟨hframe, -⟩, ⟨hdepth, -⟩, ⟨-, hwindow⟩, hfits⟩
    refine ⟨UInt64.le_trans hframe Std.min_le_left, UInt32.le_trans hdepth Std.min_le_left, ?_,
      harray.mp hfits⟩
    exact Std.min_le.mp (UInt32.le_trans hwindow Std.min_le_left)
  · rintro ⟨hframe, hdepth, hwindow, hfits⟩
    refine ⟨?_, helement, ⟨Std.le_min_iff.mpr ⟨hframe, hsizes.frame.1⟩, ?_⟩,
      ⟨Std.le_min_iff.mpr ⟨hdepth, hsizes.depth.1⟩, ?_⟩, ⟨hw, Std.le_min_iff.mpr ⟨?_, ?_⟩⟩,
      harray.mpr hfits⟩
    · change p.generation ≠ 0
      rw [hg]
      decide
    · exact UInt64.le_trans Std.min_le_right hsizes.frame.2
    · exact UInt32.le_trans Std.min_le_right hsizes.depth.2
    · exact Std.min_le.mpr hwindow
    · exact UInt32.le_trans Std.min_le_right hsizes.window.2

lemma handleOpen_reply {connected : Bool} {drawn : Except (DrawFailure × String) Fresh}
    {reply : OpenReply} (h : p.handleOpen request connected drawn = (.ok (.openReply reply), p')) :
    reply.status = .ok ∧ reply.geometry = p.clampGeometry request ∧
      (p.clampGeometry request).creditWindow ≠ 0 := by
  unfold handleOpen at h
  cases hscreen : p.screenOpen request with
  | throws | refused => simp [hscreen] at h
  | granted =>
    obtain ⟨-, hwindow⟩ := screenOpen_granted hscreen
    rw [hscreen] at h
    cases hseat : p.selectSeat with
    | none => simp [hseat] at h
    | some =>
      rw [hseat] at h
      split_ifs at h
      · simp at h
      · cases drawn with
        | error => simp at h
        | ok =>
          simp only [Prod.mk.injEq, Except.ok.injEq, CoordinationReply.openReply.injEq] at h
          obtain ⟨rfl, -⟩ := h
          exact ⟨rfl, rfl, hwindow⟩

/-! ### Runs -/

lemma publish_identity (p : Publisher) (lease : Option ℕ) (metadata : FrameMetadata)
    (realtimeNs : UInt64) (contended : Bool) :
    (p.publish lease metadata realtimeNs contended).2.config = p.config ∧
    (p.publish lease metadata realtimeNs contended).2.generation = p.generation := by
  obtain hdrifts | ⟨i, resolved, queue, -, -, heq⟩ :=
    p.publish_cases lease metadata realtimeNs contended
  · exact ⟨congrArg Ledger.config hdrifts.ledger, congrArg Ledger.generation hdrifts.ledger⟩
  · rw [heq]
    exact ⟨rfl, rfl⟩

lemma handleProbeAck_identity (p : Publisher) (header : Bytes) :
    (p.handleProbeAck header).config = p.config ∧
    (p.handleProbeAck header).generation = p.generation := by
  unfold handleProbeAck
  split
  · exact ⟨rfl, rfl⟩
  · split
    · exact ⟨rfl, rfl⟩
    · split_ifs
      · exact ⟨rfl, rfl⟩
      · unfold arm
        dsimp only
        split_ifs <;> exact ⟨rfl, rfl⟩

end Publisher

lemma publisherStep_identity {p p' : Publisher} {i : PublisherInput} {es : List PublisherEvent}
    (hs : publisherStep p i = some (p', es)) :
    p'.config = p.config ∧ p'.generation = p.generation := by
  by_cases hi : i.moving = true
  · have hl := (publisherStep_moves hi hs).ledger
    exact ⟨congrArg Publisher.Ledger.config hl, congrArg Publisher.Ledger.generation hl⟩
  · cases i with
    | publish lease metadata realtimeNs contended =>
      obtain ⟨-, rfl, -⟩ := of_guard hs
      exact p.publish_identity lease metadata realtimeNs contended
    | submit =>
      obtain ⟨q, hq, rfl, -⟩ := of_mapped hs
      obtain ⟨item, hf⟩ := Publisher.submitReady_fanned hq
      exact ⟨hf.config, hf.generation⟩
    | probeAck header =>
      cases hs
      exact p.handleProbeAck_identity header
    | _ => exact absurd rfl hi

lemma reach_identity {c : PublisherConfig} {epoch : UInt64} {address : Bytes}
    {trace : List PublisherEvent} {p : Publisher}
    (h : publisherMachine.Reaches anyStep (Publisher.create c epoch address) trace p) :
    p.config = c ∧ p.generation = 1 := by
  refine h.invariant (fun p => p.config = c ∧ p.generation = 1) ⟨rfl, rfl⟩ ?_
  rintro p i p' es ⟨hc, hg⟩ - hs
  obtain ⟨hc', hg'⟩ := publisherStep_identity hs
  exact ⟨hc'.trans hc, hg'.trans hg⟩

/-! ### Adoption -/

lemma adoptOpenReply_encoded {reply : OpenReply} {correlationId : UInt64} {data : Bytes}
    (h : encodeOpenReply reply correlationId = .ok data) (s : ClientSession)
    (config : SubscriberConfig) :
    s.adoptOpenReply data config correlationId = s.adoptReply reply config := by
  have henvelope := decodeEnvelope_makeMessage (encodeOpenReply_ok h).2
  obtain ⟨size, hdecode⟩ := decodeOpenReply_encodeOpenReply h
  unfold ClientSession.adoptOpenReply
  rw [henvelope]
  dsimp only
  rw [if_neg (by simp [madeEnvelope]), if_neg (by simp [madeEnvelope]), hdecode]

/-- The grant is a valid geometry within what was asked for and what is configured, and a
client whose configuration validated and produced the request adopts the reply. -/
structure WellGranted (c : PublisherConfig) (data : Bytes) (request : OpenRequest)
    (correlationId : UInt64) (reply : OpenReply) : Prop where
  valid : reply.geometry.validate = .ok
  requested : reply.geometry.maxFrameBytes ≤ request.requestedMaxFrameBytes ∧
    reply.geometry.ringDepth ≤ request.requestedRingDepth ∧
    reply.geometry.creditWindow ≤ request.requestedCreditWindow
  configured : reply.geometry.maxFrameBytes ≤ c.maxFrameBytes ∧
    reply.geometry.ringDepth ≤ c.ringDepth ∧ reply.geometry.creditWindow ≤ c.creditWindow
  adopted : ∀ client : SubscriberConfig, client.validate = .ok → ∀ address instanceId expected,
    makeOpenRequest client.normalize address instanceId expected = .ok data →
    ∀ answer, encodeOpenReply reply correlationId = .ok answer →
    ∀ s : ClientSession, (s.adoptOpenReply answer client.normalize expected).1 = .ok

/-- An Open is granted a well-formed session exactly if the request fits. -/
theorem grant_well_formed {c c' : PublisherConfig} (hc : c.construct = .ok c') {epoch : UInt64}
    {address : Bytes} {trace : List PublisherEvent} {p p' : Publisher}
    (hp : publisherMachine.Reaches anyStep (Publisher.create c' epoch address) trace p)
    {data : Bytes} {request : OpenRequest} {envelope : Envelope}
    (hd : decodeOpen data = .ok (request, envelope)) {connected : Bool}
    {drawn : Except (Publisher.DrawFailure × String) Publisher.Fresh} {reply : OpenReply}
    (h : p.handleOpen request connected drawn = (.ok (.openReply reply), p')) :
    WellGranted c' data request envelope.correlationId reply ↔ Fitting c' request := by
  obtain ⟨hconfig, hgeneration⟩ := reach_identity hp
  obtain ⟨hstatus, hgeometry, hwindow⟩ := Publisher.handleOpen_reply h
  have hvalid : reply.geometry.validate = .ok ↔ Fitting c' request := by
    rw [hgeometry]
    exact Publisher.clampGeometry_validate hc hconfig hgeneration hwindow
  have hrequested : reply.geometry.maxFrameBytes ≤ request.requestedMaxFrameBytes ∧
      reply.geometry.ringDepth ≤ request.requestedRingDepth ∧
      reply.geometry.creditWindow ≤ request.requestedCreditWindow := by
    rw [hgeometry]
    exact ⟨Std.min_le_left, Std.min_le_left, Std.min_le_left⟩
  have hconfigured : reply.geometry.maxFrameBytes ≤ c'.maxFrameBytes ∧
      reply.geometry.ringDepth ≤ c'.ringDepth ∧
      reply.geometry.creditWindow ≤ c'.creditWindow := by
    rw [hgeometry, ← hconfig]
    exact ⟨Std.min_le_right, Std.min_le_right, Std.min_le_right⟩
  refine ⟨fun hw => hvalid.mp hw.valid, fun hfit => ⟨hvalid.mpr hfit, hrequested, hconfigured, ?_⟩⟩
  intro client _ clientAddress instanceId expected hmade answer hanswer s
  obtain ⟨size, hround⟩ := decodeOpen_encodeOpen hmade
  rw [hd] at hround
  obtain ⟨hrequest, henvelope⟩ := Prod.mk.inj (Except.ok.inj hround)
  have hcorrelation : envelope.correlationId = expected := congrArg Envelope.correlationId henvelope
  rw [hrequest] at hrequested
  have hexceeds : ClientSession.exceeds reply.geometry client.normalize = false := by
    obtain ⟨h1, h2, h3⟩ := hrequested
    have hf : ¬ client.normalize.maxFrameBytes < reply.geometry.maxFrameBytes :=
      UInt64.not_lt.mpr h1
    have hr : ¬ client.normalize.ringDepth < reply.geometry.ringDepth := UInt32.not_lt.mpr h2
    have hcw : ¬ client.normalize.creditWindow < reply.geometry.creditWindow :=
      UInt32.not_lt.mpr h3
    simp [ClientSession.exceeds, hf, hr, hcw]
  rw [← hcorrelation, adoptOpenReply_encoded hanswer, ClientSession.adoptReply,
    if_neg (not_not.mpr hstatus), if_neg (not_not.mpr (hvalid.mpr hfit)),
    if_neg (by simp [hexceeds])]

lemma exists_of_isOk {ε α : Type} {x : Except ε α} (h : x.isOk = true) : ∃ a, x = .ok a := by
  cases x with
  | error => cases h
  | ok a => exact ⟨a, rfl⟩

/-- The sample Open is granted a well-formed session. -/
theorem grant_well_formed_sample : ∃ data envelope reply,
    decodeOpen data = .ok (sampleOpen, envelope) ∧
    ((Publisher.create sampleConfig 1 [1]).handleOpen sampleOpen true
      (.ok (sampleFresh 7))).1 = .ok (.openReply reply) ∧
    WellGranted sampleConfig data sampleOpen envelope.correlationId reply := by
  obtain ⟨data, hdata⟩ := exists_of_isOk (x := encodeOpen sampleOpen 5) (by decide +kernel)
  obtain ⟨size, hdecoded⟩ := decodeOpen_encodeOpen hdata
  have hreply : ∃ reply, ((Publisher.create sampleConfig 1 [1]).handleOpen sampleOpen true
      (.ok (sampleFresh 7))).1 = .ok (.openReply reply) := ⟨_, rfl⟩
  obtain ⟨reply, hreply⟩ := hreply
  refine ⟨data, _, reply, hdecoded, hreply, ?_⟩
  refine (grant_well_formed (c := sampleConfig) rfl .start hdecoded (Prod.ext hreply rfl)).mpr ?_
  exact ⟨by decide, by decide, by decide, ⟨by decide, by decide⟩⟩

/-- A publisher of frames of 8192 bytes. -/
def wideConfig : PublisherConfig :=
  { sampleConfig with
    maxFrameBytes := 8192
    frameMetadata := { elementType := .byte, elementSize := 1, rank := 1,
                       shape := Dims.zero.store 0 8192, strides := Dims.zero.store 0 1,
                       payloadBytes := 8192 } }

/-- A client that takes frames of up to 4096 bytes. -/
def narrowClient : SubscriberConfig where
  streamName := [97]
  maxFrameBytes := 4096
  ringDepth := 2
  creditWindow := 2

/-- A validated client asks for less than the configured array needs. The Open is answered
with `Ok`, the granted geometry does not validate and the client does not adopt it. -/
theorem grant_not_well_formed : ∃ data envelope reply answer,
    wideConfig.construct = .ok wideConfig ∧ narrowClient.validate = .ok ∧
    makeOpenRequest narrowClient.normalize [1] .zero 5 = .ok data ∧
    decodeOpen data = .ok (openRequest narrowClient.normalize [1] .zero, envelope) ∧
    ((Publisher.create wideConfig 1 [1]).handleOpen
      (openRequest narrowClient.normalize [1] .zero) true (.ok (sampleFresh 7))).1 =
        .ok (.openReply reply) ∧
    reply.status = .ok ∧ reply.geometry.validate = .geometryMismatch ∧
    encodeOpenReply reply envelope.correlationId = .ok answer ∧
    ∀ s : ClientSession, (s.adoptOpenReply answer narrowClient.normalize 5).1 =
      .geometryMismatch := by
  let request := openRequest narrowClient.normalize [1] .zero
  let claimed := (Publisher.create wideConfig 1 [1]).claimSeat 0 request (sampleFresh 7)
  let reply := claimed.openReplyFor 0 request
  obtain ⟨data, hdata⟩ :=
    exists_of_isOk (x := makeOpenRequest narrowClient.normalize [1] .zero 5) (by decide +kernel)
  obtain ⟨answer, hanswer⟩ := exists_of_isOk (x := encodeOpenReply reply 5) (by decide +kernel)
  have hvalidate : reply.geometry.validate = .geometryMismatch := by decide +kernel
  obtain ⟨size, hdecoded⟩ := decodeOpen_encodeOpen hdata
  refine ⟨data, _, reply, answer, rfl, by decide +kernel, hdata, hdecoded, rfl, rfl, hvalidate,
    hanswer, fun s => ?_⟩
  have hstatus : reply.status = .ok := rfl
  rw [adoptOpenReply_encoded hanswer, ClientSession.adoptReply, if_neg (not_not.mpr hstatus),
    if_pos (by rw [hvalidate]; simp)]

end TangoBulk
