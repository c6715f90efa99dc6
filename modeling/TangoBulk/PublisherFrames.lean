import TangoBulk.PublisherFrameSize

/-! The header of a published frame at the far end. What `publish` checks of the metadata is
enough for the decoder of a frame and for the comparison with the array a session was granted. -/
namespace TangoBulk

open ByteString Transition

/-- The three fields `submit_to` completes. -/
def FrameHeader.complete (header : FrameHeader) (sequence streamId droppedBefore : UInt64) :
    FrameHeader :=
  { header with sequence, streamId, droppedBefore }

namespace Publisher

variable {p q : Publisher} {metadata resolved : FrameMetadata}

lemma sessionHeader_eq (p : Publisher) (s : Session) (item : PublishItem) :
    p.sessionHeader s item = item.header.complete (UInt64.ofNat s.window.nextSequence) s.streamId
      (UInt64.ofNat (p.droppedBeforeAll + s.droppedForSession)) :=
  rfl

/-- The part of `screenPublish` that looks at the metadata. -/
def checkMetadata (p : Publisher) (metadata : FrameMetadata) : Option FrameMetadata :=
  let resolved := metadata.resolve p.config.maxFrameBytes
  if resolved.1 ≠ .ok ∨ p.config.maxFrameBytes < resolved.2.payloadBytes then none
  else if 0 < p.config.frameMetadata.rank ∧
      !resolved.2.describesSameArray p.config.frameMetadata then none
  else some resolved.2

lemma screenPublish_eq (p : Publisher) (metadata : FrameMetadata) :
    p.screenPublish metadata =
      if !p.running then .error .shutdown
      else (p.checkMetadata metadata).elim (.error .badMetadata) fun resolved =>
        if p.armedSessions = 0 then .error .noSession else .ok resolved := by
  unfold screenPublish checkMetadata
  dsimp only
  split_ifs <;> rfl

lemma checkMetadata_eq_some (h : p.checkMetadata metadata = some resolved) :
    metadata.resolve p.config.maxFrameBytes = (.ok, resolved) ∧
      (p.config.frameMetadata.rank ≠ 0 →
        resolved.describesSameArray p.config.frameMetadata = true) := by
  unfold checkMetadata at h
  dsimp only at h
  split_ifs at h with hbad harray
  cases h
  rw [not_or, not_not] at hbad
  refine ⟨Prod.ext hbad.1 rfl, fun hrank => ?_⟩
  by_contra hother
  exact harray ⟨UInt32.pos_iff_ne_zero.mpr hrank, by simpa using hother⟩

lemma makeItem_checkFrame (h : metadata.resolve p.config.maxFrameBytes = (.ok, resolved))
    (i : ℕ) (realtimeNs : UInt64) (ordinal : ℕ) (sequence streamId droppedBefore : UInt64) :
    checkFrame ((p.makeItem i resolved realtimeNs ordinal).header.complete sequence streamId
      droppedBefore) = .ok () := by
  have hvalid : resolved.validate p.config.maxFrameBytes = .ok := by
    have hval := FrameMetadata.resolve_validate (congrArg Prod.fst h)
    rw [h] at hval
    exact hval
  obtain ⟨-, hsize, hpayload, -, hcap, hshape⟩ := FrameMetadata.validate_ok hvalid
  have hfits : ¬ (resolved.payloadBytes = 0 ∨ kMaxFrameBytesHardCap < resolved.payloadBytes) :=
    not_or.mpr ⟨hpayload, UInt64.not_lt.mpr hcap⟩
  simp [checkFrame, makeItem, FrameHeader.complete, hfits, hsize, hshape]

lemma describesGranted_clampGeometry (hconfig : p.config = q.config)
    (h : resolved.describesSameArray p.config.frameMetadata = true) (i : ℕ) (realtimeNs : UInt64)
    (ordinal : ℕ) (sequence streamId droppedBefore : UInt64) (request : OpenRequest) :
    SubscriberEngine.describesGranted
      ((p.makeItem i resolved realtimeNs ordinal).header.complete sequence streamId droppedBefore)
      (q.clampGeometry request) = true := by
  rw [hconfig] at h
  exact h

end Publisher

/-- A frame with checked metadata is decoded as it was sent and passes the two comparisons of
`handle_frame` with any grant of the same publisher, derived before or after. -/
theorem published_frame_acceptable {c : PublisherConfig} {epoch : UInt64} {address : Bytes}
    {published granted : List PublisherEvent} {p q : Publisher}
    (hp : publisherMachine.Reaches anyStep (Publisher.create c epoch address) published p)
    (hq : publisherMachine.Reaches anyStep (Publisher.create c epoch address) granted q)
    {metadata resolved : FrameMetadata} (hchecks : p.checkMetadata metadata = some resolved)
    (i : ℕ) (realtimeNs : UInt64) (ordinal : ℕ) (sequence streamId droppedBefore : UInt64)
    (request : OpenRequest) :
    let header := (p.makeItem i resolved realtimeNs ordinal).header.complete sequence streamId
      droppedBefore
    let geometry := q.clampGeometry request
    decodeFrame (encodeFrame header) = .ok header ∧
      header.generation = geometry.generation ∧
      (geometry.rank ≠ 0 → SubscriberEngine.describesGranted header geometry = true) := by
  intro header geometry
  obtain ⟨hresolve, harray⟩ := Publisher.checkMetadata_eq_some hchecks
  obtain ⟨hpc, hpg⟩ := reach_identity hp
  obtain ⟨hqc, hqg⟩ := reach_identity hq
  refine ⟨?_, hpg.trans hqg.symm, fun hrank => ?_⟩
  · rw [decodeFrame_encodeFrame, Publisher.makeItem_checkFrame hresolve]
    rfl
  · have hconfig : p.config = q.config := hpc.trans hqc.symm
    have hset : p.config.frameMetadata.rank ≠ 0 := by
      rw [hconfig]
      exact hrank
    exact Publisher.describesGranted_clampGeometry hconfig (harray hset) i realtimeNs ordinal
      sequence streamId droppedBefore request

/-- A frame of the configured array that leaves its element size, bytes and strides to be
inferred, at a session that was granted half the ring. -/
theorem published_frame_acceptable_inferred :
    let p := Publisher.create wideConfig 1 [1]
    let header := (p.makeItem 0 wideConfig.frameMetadata 9 0).header.complete 3 7 2
    let geometry := p.clampGeometry { sampleOpen with requestedRingDepth := 1 }
    p.checkMetadata { elementType := .byte, rank := 1, shape := Dims.zero.store 0 8192 } =
        some wideConfig.frameMetadata ∧
      decodeFrame (encodeFrame header) = .ok header ∧
      header.generation = geometry.generation ∧
      (geometry.rank ≠ 0 → SubscriberEngine.describesGranted header geometry = true) := by
  have hchecks : (Publisher.create wideConfig 1 [1]).checkMetadata
      { elementType := .byte, rank := 1, shape := Dims.zero.store 0 8192 } =
        some wideConfig.frameMetadata := by
    decide +kernel
  exact ⟨hchecks, published_frame_acceptable .start .start hchecks 0 9 0 3 7 2 _⟩

end TangoBulk
