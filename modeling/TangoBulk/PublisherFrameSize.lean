import TangoBulk.PublisherAdmission
import TangoBulk.PublisherGrant
import TangoBulk.SubscriberEngine

/-! Frame sizes and grants. A frame is measured against the publisher's own limit when it is
published, and each session is granted a limit of its own, which no later step looks at. -/
namespace TangoBulk

open ByteString Transition Function

/-! ### Submissions -/

/-- A frame handed to `submit_to`, with the grant of the session it is for. -/
structure Submission where
  seat : ℕ
  header : FrameHeader
  granted : GeometryBlock

namespace Publisher

/-- The frames that the loop of `fan_out` over the given seats submits. -/
def submissions (item : PublishItem) (answers : ℕ → SendAnswer) :
    Publisher → List ℕ → List Submission
  | _, [] => []
  | p, k :: rest =>
    let visited := p.visitSeat item k
    let others := submissions item answers (fanOutSeat item answers p k) rest
    if visited.1 then
      { seat := k
        header := visited.2.sessionHeader (visited.2.sessions k) item
        granted := (visited.2.sessions k).geometry } :: others
    else others

/-- The frames a call submits. -/
def submitted (p : Publisher) : PublisherInput → List Submission
  | .submit answers =>
    match p.publishQueue.pop with
    | none => []
    | some (item, queue) =>
      submissions item answers ({ p with publishQueue := queue }.startFanOut item) p.seats
  | _ => []

end Publisher

/-- The publisher, reporting what it submits. -/
def submissionMachine : Machine Publisher PublisherInput Submission where
  step p input := (publisherStep p input).map fun r => (r.1, p.submitted input)

/-- Every client asks for frames of at least `limit` bytes and every frame published has at
most that many. -/
def withinLimit (limit : UInt64) (p : Publisher) : PublisherInput → Prop
  | .open _ request _ => limit ≤ request.requestedMaxFrameBytes
  | .publish _ metadata _ _ =>
    (metadata.resolve p.config.maxFrameBytes).1 = .ok →
      (metadata.resolve p.config.maxFrameBytes).2.payloadBytes ≤ limit
  | _ => True

instance (limit : UInt64) (p : Publisher) (input : PublisherInput) :
    Decidable (withinLimit limit p input) := by
  cases input <;> unfold withinLimit <;> infer_instance

/-! ### Sizes -/

namespace Publisher

/-- The live sessions were granted frames of at least `bound` bytes. -/
def Grants (bound : UInt64) (p : Publisher) : Prop :=
  ∀ k, (p.sessions k).state.live = true → bound ≤ (p.sessions k).geometry.maxFrameBytes

/-- Frames on their way fit what every live session was granted. -/
structure Fitted (bound : UInt64) (p : Publisher) : Prop where
  queued : ∀ item ∈ p.publishQueue.items, item.header.payloadBytes ≤ bound
  granted : p.Grants bound

variable {p p' : Publisher} {bound : UInt64} {item : PublishItem}

lemma Fitted.drifts (h : p.Fitted bound) (hd : p.Drifts p') : p'.Fitted bound where
  queued := by
    rw [show p'.publishQueue = p.publishQueue from congrArg Ledger.publishQueue hd.ledger]
    exact h.queued
  granted k hlive := by
    obtain ⟨hbefore, hgeometry⟩ := (hd.sessions k).live hlive
    rw [hgeometry]
    exact h.granted k hbefore

lemma Grants.update {k : ℕ} {s : Session} (h : p.Grants bound)
    (hsessions : p'.sessions = update p.sessions k s)
    (hs : s.state.live = true → bound ≤ s.geometry.maxFrameBytes) : p'.Grants bound := by
  intro j hlive
  rw [hsessions] at hlive ⊢
  by_cases hj : j = k
  · subst hj
    rw [update_self] at hlive ⊢
    exact hs hlive
  · rw [update_of_ne hj] at hlive ⊢
    exact h j hlive

lemma Grants.fanOutSeat (h : p.Grants bound) (item : PublishItem) (answers : ℕ → SendAnswer)
    (k : ℕ) : (fanOutSeat item answers p k).Grants bound := by
  refine h.update (sessions_fanOutSeat p item answers k) fun hlive => ?_
  obtain ⟨hbefore, hgeometry⟩ := fanSession_live p item (answers k) _ hlive
  rw [hgeometry]
  exact h k hbefore

lemma visitSeat_submits {k : ℕ} (h : (p.visitSeat item k).1 = true) :
    (p.sessions k).state.live = true ∧
      ((p.visitSeat item k).2.sessions k).geometry = (p.sessions k).geometry := by
  unfold visitSeat at h ⊢
  dsimp only at h ⊢
  split_ifs at h ⊢ with hin hroom
  simp only [Bool.not_eq_true', Bool.not_eq_false] at hin
  exact ⟨eligible_live hin, by simp [setSession]⟩

lemma Grants.submissions (h : p.Grants bound) (answers : ℕ → SendAnswer)
    (hsize : item.header.payloadBytes ≤ bound) (ks : List ℕ) :
    ∀ sub ∈ Publisher.submissions item answers p ks,
      sub.header.payloadBytes ≤ sub.granted.maxFrameBytes := by
  induction ks generalizing p with
  | nil => simp [Publisher.submissions]
  | cons k rest ih =>
    have hothers := ih (h.fanOutSeat item answers k)
    intro sub hsub
    simp only [Publisher.submissions] at hsub
    split_ifs at hsub with hvisit
    · rcases List.mem_cons.mp hsub with rfl | hsub
      · obtain ⟨hlive, hgeometry⟩ := visitSeat_submits hvisit
        rw [hgeometry]
        exact UInt64.le_trans hsize (h k hlive)
      · exact hothers sub hsub
    · exact hothers sub hsub

lemma Fitted.submitted (h : p.Fitted bound) (input : PublisherInput) :
    ∀ sub ∈ p.submitted input, sub.header.payloadBytes ≤ sub.granted.maxFrameBytes := by
  cases input with
  | submit answers =>
    simp only [Publisher.submitted]
    split
    · simp
    · rename_i item queue hpop
      have hitem : item ∈ p.publishQueue.items := by
        rw [(Fifo.pop_eq_some.mp hpop).1]
        exact List.mem_cons_self
      have hgranted : Grants bound ({ p with publishQueue := queue }.startFanOut item) := h.granted
      exact hgranted.submissions answers (h.queued item hitem) p.seats
  | _ => simp [Publisher.submitted]

lemma screenPublish_ok {metadata resolved : FrameMetadata}
    (h : p.screenPublish metadata = .ok resolved) :
    metadata.resolve p.config.maxFrameBytes = (.ok, resolved) ∧
      resolved.payloadBytes ≤ p.config.maxFrameBytes := by
  unfold screenPublish at h
  dsimp only at h
  split_ifs at h with hrunning hbad harray harmed
  cases h
  simp only [not_or, not_not, UInt64.not_lt] at hbad
  exact ⟨Prod.ext hbad.1 rfl, hbad.2⟩

lemma Fitted.publish {limit : UInt64} {lease : Option ℕ} {metadata : FrameMetadata}
    {realtimeNs : UInt64} {contended : Bool} (h : p.Fitted (min limit p.config.maxFrameBytes))
    (hlimit : withinLimit limit p (.publish lease metadata realtimeNs contended)) :
    (p.publish lease metadata realtimeNs contended).2.Fitted
      (min limit p.config.maxFrameBytes) := by
  rcases p.publish_cases lease metadata realtimeNs contended with
    hd | ⟨i, resolved, queue, hscreen, hpush, heq⟩
  · exact h.drifts hd
  · rw [heq]
    obtain ⟨hresolve, hmax⟩ := screenPublish_ok hscreen
    obtain ⟨-, hitems, -⟩ := Fifo.push_eq_some.mp hpush
    refine ⟨fun item hitem => ?_, h.granted⟩
    change item ∈ queue.items at hitem
    rw [hitems] at hitem
    rcases List.mem_append.mp hitem with hold | hnew
    · exact h.queued item hold
    · obtain rfl := List.mem_singleton.mp hnew
      have hsmall : resolved.payloadBytes ≤ limit := by
        simpa [withinLimit, hresolve] using hlimit
      exact Std.le_min_iff.mpr ⟨hsmall, hmax⟩

lemma Fitted.fanned {answers : ℕ → SendAnswer} (h : p.Fitted bound)
    (hf : p.Fanned p' item answers) : p'.Fitted bound := by
  refine ⟨fun queued hqueued => h.queued queued ?_, fun k hlive => ?_⟩
  · rw [hf.popped]
    exact List.mem_cons_of_mem _ hqueued
  · rw [hf.sessions k] at hlive ⊢
    split_ifs at hlive ⊢ with hk
    · obtain ⟨hbefore, hgeometry⟩ := fanSession_live p item (answers k) _ hlive
      rw [hgeometry]
      exact h.granted k hbefore
    · exact h.granted k hlive

lemma Fitted.probeAck (h : p.Fitted bound) (header : Bytes) :
    (p.handleProbeAck header).Fitted bound := by
  cases harming : p.armingSeat header with
  | none => exact h.drifts (drifts_handleProbeAck harming)
  | some k =>
    have hopen : (p.sessions k).state.live = true := by
      rw [armingSeat_open harming]
      rfl
    have hswapped : (p.swapArmed k).Grants bound :=
      h.granted.update rfl fun _ => h.granted k hopen
    have hleveled : ((p.swapArmed k).levelOrdinal k).Grants bound :=
      hswapped.update rfl fun hlive => hswapped k hlive
    rw [handleProbeAck_of_arming harming]
    exact ⟨h.queued, hleveled⟩

lemma Fitted.step {limit : UInt64} {input : PublisherInput} {es : List PublisherEvent}
    (h : p.Fitted (min limit p.config.maxFrameBytes)) (hlimit : withinLimit limit p input)
    (hs : publisherStep p input = some (p', es)) :
    p'.Fitted (min limit p.config.maxFrameBytes) := by
  cases input with
  | publish =>
    obtain ⟨-, rfl, -⟩ := of_guard hs
    exact h.publish hlimit
  | submit =>
    obtain ⟨q, hsubmit, rfl, -⟩ := of_mapped hs
    obtain ⟨item, hf⟩ := submitReady_fanned hsubmit
    exact h.fanned hf
  | probeAck header =>
    cases hs
    exact h.probeAck header
  | «open» =>
    obtain ⟨-, rfl, -⟩ := of_guard hs
    refine ⟨h.queued, h.granted.update rfl fun _ => ?_⟩
    exact Std.le_min_iff.mpr ⟨UInt64.le_trans Std.min_le_left hlimit, Std.min_le_right⟩
  | _ => exact h.drifts (publisherStep_drifts rfl hs)

lemma fitted_create (c : PublisherConfig) (serverEpochId : UInt64) (workerAddress : Bytes)
    (bound : UInt64) : (create c serverEpochId workerAddress).Fitted bound := by
  refine ⟨fun item hitem => ?_, fun k hlive => ?_⟩
  · cases hitem
  · cases hlive

end Publisher

/-! ### The oversize drop -/

namespace SubscriberEngine

variable {e : SubscriberEngine} {frame : FrameHeader}

lemma oversize_receive (e : SubscriberEngine) (frame : FrameHeader) (slotIndex length : ℕ)
    (arrival : Arrival) :
    (e.receive frame slotIndex length arrival).1.counters .droppedOversize =
      e.counters .droppedOversize := by
  unfold receive
  cases arrival with
  | rndv answer => cases answer <;> rfl
  | eager =>
    split_ifs <;> rfl

lemma oversize_handleFrame {header : Bytes} (length : ℕ) (arrival : Arrival)
    (h : ∀ frame, decodeFrame header = .ok frame → frame.payloadBytes ≤ e.granted.maxFrameBytes) :
    (e.handleFrame header length arrival).1.counters .droppedOversize =
      e.counters .droppedOversize := by
  unfold handleFrame
  split_ifs
  · rfl
  · split
    case h_1 => rfl
    case h_2 frame hdecode =>
      have hfits := UInt64.not_lt.mpr (h frame hdecode)
      split_ifs
      · rfl
      · rfl
      · unfold handleSessionFrame
        dsimp only
        split_ifs
        · rfl
        · rfl
        · rfl
        · exact oversize_receive e frame _ length arrival

end SubscriberEngine

/-- No frame exceeds the grant of the session it is submitted to, and no subscriber that holds
this grant drops it as oversize, if the clients ask for frames as large as those published. -/
theorem frames_within_grant (limit : UInt64) (c : PublisherConfig) (serverEpochId : UInt64)
    (workerAddress : Bytes) {trace : List Submission} {p : Publisher}
    (hrun : submissionMachine.Reaches (withinLimit limit)
      (.create c serverEpochId workerAddress) trace p) :
    ∀ sub ∈ trace, sub.header.payloadBytes ≤ sub.granted.maxFrameBytes ∧
      ∀ (e : SubscriberEngine) (length : ℕ) (arrival : Arrival), e.granted = sub.granted →
        (e.handleFrame (encodeFrame sub.header) length arrival).1.counters .droppedOversize =
          e.counters .droppedOversize := by
  have hfits : ∀ sub ∈ trace, sub.header.payloadBytes ≤ sub.granted.maxFrameBytes := by
    refine hrun.events (fun p => p.config = c ∧ p.Fitted (min limit c.maxFrameBytes)) _
      ⟨rfl, Publisher.fitted_create ..⟩ ?_
    rintro p input p' es ⟨rfl, h⟩ hok hs
    obtain ⟨⟨q, reported⟩, hstep, rfl, rfl⟩ := of_mapped hs
    exact ⟨⟨(publisherStep_identity hstep).1, h.step hok hstep⟩, h.submitted input⟩
  intro sub hsub
  refine ⟨hfits sub hsub, fun e length arrival hgranted => ?_⟩
  refine SubscriberEngine.oversize_handleFrame length arrival fun frame hdecode => ?_
  rw [decodeFrame_encoded hdecode, hgranted]
  exact hfits sub hsub

/-- A client opens, arms and is sent one frame. -/
def oneFrame (payloadBytes : UInt64) : List PublisherInput :=
  [.open 0 sampleOpen (sampleFresh 1), .probeAck (sampleProbeAck 1), .acquire,
    .publish (some 0) { elementType := .byte, payloadBytes := payloadBytes } 0 false,
    .submit fun _ => .completed]

theorem frames_within_grant_sample :
    ∃ trace p, submissionMachine.Reaches (withinLimit 4096) (.create sampleConfig 7 [1]) trace p ∧
      trace.length = 1 ∧ ∀ sub ∈ trace, sub.header.payloadBytes ≤ sub.granted.maxFrameBytes ∧
        ∀ (e : SubscriberEngine) (length : ℕ) (arrival : Arrival), e.granted = sub.granted →
          (e.handleFrame (encodeFrame sub.header) length arrival).1.counters .droppedOversize =
            e.counters .droppedOversize := by
  obtain ⟨trace, p, hrun, hlen⟩ := submissionMachine.exists_of_run (withinLimit 4096)
    (.create sampleConfig 7 [1]) (oneFrame 4096) (P := fun _ t => t.length = 1)
    (by decide +kernel)
  exact ⟨trace, p, hrun, hlen, frames_within_grant 4096 sampleConfig 7 [1] hrun⟩

/-- A publisher of larger frames than the sample client asks for. -/
def largeConfig : PublisherConfig :=
  { sampleConfig with
    maxFrameBytes := 8192
    frameMetadata := { elementType := .byte, elementSize := 1, payloadBytes := 8192 } }

/-- The client was granted 4096 bytes and is sent a frame of 8192. -/
theorem frame_exceeds_grant :
    largeConfig.construct = .ok largeConfig ∧
      ∃ trace p, submissionMachine.Reaches anyStep (.create largeConfig 7 [1]) trace p ∧
        ∃ sub ∈ trace, sub.header.payloadBytes = 8192 ∧ sub.granted.maxFrameBytes = 4096 :=
  ⟨rfl, submissionMachine.exists_of_run anyStep (.create largeConfig 7 [1]) (oneFrame 8192)
    (by decide +kernel)⟩

end TangoBulk
