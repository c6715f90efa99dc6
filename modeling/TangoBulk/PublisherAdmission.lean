import TangoBulk.PublisherEffects

/-! Admission and fan-out under concurrency. A publish runs on an application thread and the
session it is meant for may arm, move its window or end between any two of its steps; the
engine arms a session in three steps of its own. The other calls are single steps. -/
namespace TangoBulk

open ByteString Transition

/-- How far the publish that holds the reservation has got. -/
inductive PublishStage
  | idle
  | reserved (i : ℕ) (resolved : FrameMetadata)
  | loaded (i : ℕ) (resolved : FrameMetadata) (admitted credited : ℕ)
  | admitting (i : ℕ) (item : PublishItem)
  | pushed (i : ℕ) (item : PublishItem)
  | refused (i : ℕ) (result : PublishResult)
  | accepted (item : PublishItem)
  deriving DecidableEq

/-- How far the engine has got with arming a session: the state is `Armed`, then its ordinal is
stored, then the gauges are refreshed. -/
inductive ArmStage
  | idle | swapped (k : ℕ) | leveled (k : ℕ)
  deriving DecidableEq

/-- `screened` lists the leases whose publish has yet to try the reservation. -/
structure FanoutState where
  publisher : Publisher
  screened : List (ℕ × FrameMetadata) := []
  stage : PublishStage := .idle
  arming : ArmStage := .idle

inductive FanoutInput
  | call (input : PublisherInput)
  | screen (i : ℕ) (metadata : FrameMetadata)
  | reserve (i : ℕ) (resolved : FrameMetadata)
  | load
  | decide (realtimeNs : UInt64)
  | push
  | count
  | leave
  | probeAck (header : Bytes)
  | level
  | refresh

/-- `accepted` reports the frame and the sessions that were armed or active when `publish`
returned. -/
inductive FanoutEvent
  | called (event : PublisherEvent)
  | refused (i : ℕ) (result : PublishResult)
  | accepted (ordinal : ℕ) (armed : List ℕ)
  deriving DecidableEq

/-- The calls of the engine thread. -/
def PublisherInput.ofEngine : PublisherInput → Bool
  | .submit _ | .complete .. | .credit _ | .probe .. | .expire .. | .teardown _ => true
  | _ => false

namespace Publisher

/-- The check and the CAS of `handle_probe_ack`: the session it arms, if any. -/
def armingSeat (p : Publisher) (header : Bytes) : Option ℕ :=
  match decodeProbeAck header with
  | .error _ => none
  | .ok ack =>
    match p.sessionForStream ack.streamId with
    | none => none
    | some k =>
      if ack.value = (p.sessions k).probeToken ∧ (p.sessions k).state = .open then some k else none

/-- The CAS from `Open` to `Armed`. -/
def swapArmed (p : Publisher) (k : ℕ) : Publisher :=
  p.setSession k { p.sessions k with state := .armed }

/-- The store of `processed_ordinal`. -/
def levelOrdinal (p : Publisher) (k : ℕ) : Publisher :=
  p.setSession k { p.sessions k with processedOrdinal := p.admitted }

variable {p : Publisher} {header : Bytes}

lemma handleProbeAck_of_arming {k : ℕ} (h : p.armingSeat header = some k) :
    p.handleProbeAck header = ((p.swapArmed k).levelOrdinal k).refreshGauges := by
  unfold armingSeat at h
  unfold handleProbeAck
  cases hdecode : decodeProbeAck header with
  | error => simp [hdecode] at h
  | ok ack =>
    rw [hdecode] at h
    dsimp only at h ⊢
    cases hfind : p.sessionForStream ack.streamId with
    | none => simp [hfind] at h
    | some =>
      rw [hfind] at h
      dsimp only at h ⊢
      split_ifs at h with hmatch
      cases h
      rw [if_neg (not_not.mpr hmatch.1), arm, if_pos hmatch.2]
      congr 1
      simp only [swapArmed, levelOrdinal, setSession, Function.update_self, Function.update_idem]

lemma drifts_handleProbeAck (h : p.armingSeat header = none) :
    p.Drifts (p.handleProbeAck header) := by
  unfold armingSeat at h
  unfold handleProbeAck
  cases hdecode : decodeProbeAck header with
  | error e => exact .of_rest rfl
  | ok ack =>
    rw [hdecode] at h
    dsimp only at h ⊢
    cases hfind : p.sessionForStream ack.streamId with
    | none => exact .of_rest rfl
    | some k =>
      rw [hfind] at h
      dsimp only at h ⊢
      by_cases htoken : ack.value = (p.sessions k).probeToken
      · have hclosed : ¬ (p.sessions k).state = .open := by
          intro hopen
          rw [if_pos ⟨htoken, hopen⟩] at h
          cases h
        rw [if_neg (not_not.mpr htoken), arm, if_neg hclosed]
        exact .of_rest rfl
      · rw [if_pos htoken]
        exact .of_rest rfl

lemma armingSeat_open {k : ℕ} (h : p.armingSeat header = some k) :
    (p.sessions k).state = .open := by
  unfold armingSeat at h
  split at h
  · cases h
  · split at h
    · cases h
    · split_ifs at h with hmatch
      cases h
      exact hmatch.2

end Publisher

namespace PublishStage

/-- The lease a publish under the reservation works on. -/
def lease : PublishStage → Option ℕ
  | .reserved i _ | .loaded i _ _ _ | .admitting i _ | .pushed i _ | .refused i _ => some i
  | .idle | .accepted _ => none

/-- The ordinal assigned to an item that is not in the queue yet. -/
def assigned : PublishStage → List ℕ
  | .admitting _ item => [item.ordinal]
  | _ => []

/-- Whether the stage has taken an ordinal that is not counted yet. -/
def taken : PublishStage → ℕ
  | .admitting .. | .pushed .. => 1
  | _ => 0

/-- The frame of this publish is counted and not yet reported. -/
def counted : PublishStage → List ℕ
  | .accepted item => [item.ordinal]
  | _ => []

end PublishStage

def FanoutEvent.ordinal : FanoutEvent → Option ℕ
  | .accepted ordinal _ => some ordinal
  | .called _ | .refused .. => none

def FanoutState.create (c : PublisherConfig) (epoch : UInt64) (address : Bytes) : FanoutState where
  publisher := Publisher.create c epoch address

/-- No publish in progress works on the lease of slot `i`. -/
def FanoutState.untouched (s : FanoutState) (i : ℕ) : Bool :=
  i ∉ s.screened.map Prod.fst ∧ s.stage.lease ≠ some i

/-- One step. A handle is used by one publish at a time, and the engine runs one call at a
time. -/
def fanoutStep (s : FanoutState) : FanoutInput → Option (FanoutState × List FanoutEvent)
  | .call (.publish ..) | .call (.probeAck _) => none
  | .call (.reset i) =>
    if s.untouched i then
      (publisherStep s.publisher (.reset i)).map fun r =>
        ({ s with publisher := r.1 }, r.2.map .called)
    else none
  | .call input =>
    if input.ofEngine ∧ s.arming ≠ .idle then none
    else
      (publisherStep s.publisher input).map fun r =>
        ({ s with publisher := r.1 }, r.2.map .called)
  | .screen i metadata =>
    if i ∈ s.publisher.handles ∧ s.untouched i then
      match s.publisher.screenPublish metadata with
      | .error result =>
        some ({ s with publisher := s.publisher.refusePublish i result }, [.refused i result])
      | .ok resolved => some ({ s with screened := (i, resolved) :: s.screened }, [])
    else none
  | .reserve i resolved =>
    if (i, resolved) ∈ s.screened then
      let left := { s with screened := s.screened.erase (i, resolved) }
      if s.stage = .idle then some ({ left with stage := .reserved i resolved }, [])
      else
        some ({ left with publisher := s.publisher.refusePublish i .queueFull },
          [.refused i .queueFull])
    else none
  | .load =>
    match s.stage with
    | .reserved i resolved =>
      some ({ s with stage := .loaded i resolved s.publisher.admitted s.publisher.credited }, [])
    | _ => none
  | .decide realtimeNs =>
    match s.stage with
    | .loaded i resolved admitted credited =>
      match s.publisher.admission admitted credited with
      | some result =>
        some ({ s with publisher := s.publisher.refusePublish i result,
                       stage := .refused i result }, [])
      | none =>
        some ({ s with
          stage := .admitting i (s.publisher.makeItem i resolved realtimeNs admitted) }, [])
    | _ => none
  | .push =>
    match s.stage with
    | .admitting i item =>
      match s.publisher.publishQueue.push item with
      | none =>
        some ({ s with publisher := s.publisher.refusePublish i .queueFull,
                       stage := .refused i .queueFull }, [])
      | some queue =>
        some ({ s with publisher := { s.publisher with publishQueue := queue },
                       stage := .pushed i item }, [])
    | _ => none
  | .count =>
    match s.stage with
    | .pushed i item =>
      some ({ s with publisher := s.publisher.acceptPublish i, stage := .accepted item }, [])
    | _ => none
  | .leave =>
    match s.stage with
    | .refused i result => some ({ s with stage := .idle }, [.refused i result])
    | .accepted item =>
      some ({ s with stage := .idle }, [.accepted item.ordinal s.publisher.armedSeats])
    | _ => none
  | .probeAck header =>
    if s.arming ≠ .idle then none
    else
      match s.publisher.armingSeat header with
      | none => some ({ s with publisher := s.publisher.handleProbeAck header }, [])
      | some k => some ({ s with publisher := s.publisher.swapArmed k, arming := .swapped k }, [])
  | .level =>
    match s.arming with
    | .swapped k =>
      some ({ s with publisher := s.publisher.levelOrdinal k, arming := .leveled k }, [])
    | _ => none
  | .refresh =>
    match s.arming with
    | .leveled _ =>
      some ({ s with publisher := s.publisher.refreshGauges, arming := .idle }, [])
    | _ => none

def fanoutMachine : Machine FanoutState FanoutInput FanoutEvent := ⟨fanoutStep⟩

/-- No session arms across a publish: when its ordinal is stored no counted frame is queued,
and no admission is decided while the engine is arming. -/
def armsClear (s : FanoutState) : FanoutInput → Prop
  | .level => ∀ item ∈ s.publisher.publishQueue.items, s.publisher.admitted ≤ item.ordinal
  | .decide _ => s.arming = .idle
  | _ => True

instance (s : FanoutState) (i : FanoutInput) : Decidable (armsClear s i) := by
  cases i <;> unfold armsClear <;> infer_instance

/-! ### What one step does -/

lemma PublishStage.assigned_nil {stage : PublishStage} (h : stage.taken = 0) :
    stage.assigned = [] := by
  cases stage <;> simp_all [PublishStage.taken, PublishStage.assigned]

lemma FanoutEvent.ordinals_called (es : List PublisherEvent) :
    (es.map FanoutEvent.called).filterMap FanoutEvent.ordinal = [] := by
  rw [List.filterMap_map, List.filterMap_eq_nil_iff]
  exact fun _ _ => rfl

namespace FanoutState

/-- The ordinals of the frames that are queued or about to be. -/
def ordinals (s : FanoutState) : List ℕ :=
  s.publisher.publishQueue.items.map (·.ordinal) ++ s.stage.assigned

/-- How many ordinals have been given out. -/
def bound (s : FanoutState) : ℕ := s.publisher.admitted + s.stage.taken

/-- The changes a step can make, and what it reports. -/
inductive Change (s : FanoutState) : FanoutInput → List FanoutEvent → FanoutState → Prop
  | drifted {input : FanoutInput} {es : List FanoutEvent} {p' : Publisher}
      (quiet : es.filterMap FanoutEvent.ordinal = []) (hd : s.publisher.Drifts p')
      (screened : List (ℕ × FrameMetadata)) :
      Change s input es { s with publisher := p', screened := screened }
  | opened {k : ℕ} {request : OpenRequest} {fresh : Publisher.Fresh} {p' : Publisher}
      {called : List PublisherEvent}
      (hs : publisherStep s.publisher (.open k request fresh) = some (p', called)) :
      Change s (.call (.open k request fresh)) (called.map .called) { s with publisher := p' }
  | fanned {answers : ℕ → SendAnswer} {item : PublishItem} {p' : Publisher}
      {called : List PublisherEvent} (harm : s.arming = .idle)
      (hf : s.publisher.Fanned p' item answers) :
      Change s (.call (.submit answers)) (called.map .called) { s with publisher := p' }
  | reserved {i : ℕ} {resolved : FrameMetadata} (hst : s.stage = .idle)
      (screened : List (ℕ × FrameMetadata)) :
      Change s (.reserve i resolved) []
        { s with stage := .reserved i resolved, screened := screened }
  | loaded {i : ℕ} {resolved : FrameMetadata} (hst : s.stage = .reserved i resolved) :
      Change s .load []
        { s with stage := .loaded i resolved s.publisher.admitted s.publisher.credited }
  | left {es : List FanoutEvent} (hold : s.stage.taken = 0)
      (told : es.filterMap FanoutEvent.ordinal = s.stage.counted) :
      Change s .leave es { s with stage := .idle }
  | declined {i a c : ℕ} {resolved : FrameMetadata} {result : PublishResult} {p' : Publisher}
      {realtimeNs : UInt64} (hst : s.stage = .loaded i resolved a c)
      (hd : s.publisher.Drifts p') :
      Change s (.decide realtimeNs) [] { s with publisher := p', stage := .refused i result }
  | decided {i a c : ℕ} {resolved : FrameMetadata} {item : PublishItem} {realtimeNs : UInt64}
      (hst : s.stage = .loaded i resolved a c) (hlets : s.publisher.admission a c = none)
      (hitem : item.ordinal = a) :
      Change s (.decide realtimeNs) [] { s with stage := .admitting i item }
  | overflowed {i : ℕ} {item : PublishItem} {result : PublishResult} {p' : Publisher}
      (hst : s.stage = .admitting i item) (hd : s.publisher.Drifts p') :
      Change s .push [] { s with publisher := p', stage := .refused i result }
  | pushed {i : ℕ} {item : PublishItem} {queue : Fifo PublishItem}
      (hst : s.stage = .admitting i item)
      (hpush : s.publisher.publishQueue.push item = some queue) :
      Change s .push [] { s with publisher := { s.publisher with publishQueue := queue },
                                 stage := .pushed i item }
  | counted {i : ℕ} {item : PublishItem} (hst : s.stage = .pushed i item) :
      Change s .count []
        { s with publisher := s.publisher.acceptPublish i, stage := .accepted item }
  | swapped {header : Bytes} {k : ℕ} (harm : s.arming = .idle)
      (hopen : (s.publisher.sessions k).state = .open) :
      Change s (.probeAck header) []
        { s with publisher := s.publisher.swapArmed k, arming := .swapped k }
  | leveled {k : ℕ} (harm : s.arming = .swapped k) :
      Change s .level [] { s with publisher := s.publisher.levelOrdinal k, arming := .leveled k }
  | refreshed {k : ℕ} (harm : s.arming = .leveled k) :
      Change s .refresh [] { s with publisher := s.publisher.refreshGauges, arming := .idle }

variable {s s' : FanoutState} {es : List FanoutEvent}

open Publisher

/-- What a whole call of the publisher does. -/
lemma fanoutStep_call {input : PublisherInput}
    (hs : fanoutStep s (.call input) = some (s', es)) : s.Change (.call input) es s' := by
  have hdrift : ∀ r, input.drifting = true → publisherStep s.publisher input = some r →
      s.Change (.call input) (r.2.map .called) { s with publisher := r.1 } := fun r hi hr =>
    .drifted (FanoutEvent.ordinals_called _) (publisherStep_drifts hi (hr : _ = some (r.1, r.2)))
      s.screened
  have hguarded : input.drifting = true → (if input.ofEngine = true ∧ s.arming ≠ .idle then none
      else (publisherStep s.publisher input).map fun r =>
        ({ s with publisher := r.1 }, r.2.map FanoutEvent.called)) = some (s', es) →
      s.Change (.call input) es s' := by
    intro hi hs
    split_ifs at hs
    obtain ⟨r, hr, rfl, rfl⟩ := of_mapped hs
    exact hdrift r hi hr
  cases input with
  | publish | probeAck => cases hs
  | reset =>
    simp only [fanoutStep, Option.ite_none_right_eq_some] at hs
    obtain ⟨r, hr, rfl, rfl⟩ := of_mapped hs.2
    exact hdrift r rfl hr
  | submit =>
    simp only [fanoutStep] at hs
    split_ifs at hs with hguard
    obtain ⟨r, hr, rfl, rfl⟩ := of_mapped hs
    obtain ⟨p', hp', rfl⟩ := Option.map_eq_some_iff.mp hr
    obtain ⟨item, hf⟩ := submitReady_fanned hp'
    exact .fanned (not_not.mp fun harm => hguard ⟨rfl, harm⟩) hf
  | «open» =>
    simp only [fanoutStep] at hs
    split_ifs at hs
    obtain ⟨⟨p', called⟩, hr, rfl, rfl⟩ := of_mapped hs
    exact .opened hr
  | acquire | complete | credit | probe | expire
  | openThrows | teardown | renew | close | shutdown =>
    exact hguarded rfl hs

lemma fanoutStep_change {i : FanoutInput} (hs : fanoutStep s i = some (s', es)) :
    s.Change i es s' := by
  cases i with
  | call => exact fanoutStep_call hs
  | screen i =>
    obtain ⟨-, hs⟩ := Option.ite_none_right_eq_some.mp hs
    split at hs
    · cases hs
      exact .drifted rfl (drifts_refusePublish _ i _) s.screened
    · cases hs
      exact .drifted rfl (.of_rest rfl) _
  | reserve i =>
    obtain ⟨-, hs⟩ := Option.ite_none_right_eq_some.mp hs
    split_ifs at hs with hidle
    · cases hs
      exact .reserved hidle _
    · cases hs
      exact .drifted rfl (drifts_refusePublish s.publisher i .queueFull) _
  | load =>
    simp only [fanoutStep] at hs
    split at hs
    case h_1 i resolved hst =>
      cases hs
      exact .loaded hst
    case h_2 => cases hs
  | decide =>
    simp only [fanoutStep] at hs
    split at hs
    case h_1 i resolved a c hst =>
      split at hs
      case h_1 result _ =>
        cases hs
        exact .declined hst (drifts_refusePublish s.publisher i result)
      case h_2 hlets =>
        cases hs
        exact .decided hst hlets rfl
    case h_2 => cases hs
  | push =>
    simp only [fanoutStep] at hs
    split at hs
    case h_1 i item hst =>
      split at hs
      case h_1 =>
        cases hs
        exact .overflowed hst (drifts_refusePublish s.publisher i .queueFull)
      case h_2 queue hpush =>
        cases hs
        exact .pushed hst hpush
    case h_2 => cases hs
  | count =>
    simp only [fanoutStep] at hs
    split at hs
    case h_1 i item hst =>
      cases hs
      exact .counted hst
    case h_2 => cases hs
  | leave =>
    simp only [fanoutStep] at hs
    split at hs
    case h_1 i result hst | h_2 item hst =>
      cases hs
      exact .left (by rw [hst]; rfl) (by rw [hst]; rfl)
    case h_3 => cases hs
  | probeAck =>
    simp only [fanoutStep] at hs
    split_ifs at hs with harm
    split at hs
    case h_1 hnone =>
      cases hs
      exact .drifted rfl (drifts_handleProbeAck hnone) s.screened
    case h_2 k hsome =>
      cases hs
      exact .swapped (not_not.mp harm) (armingSeat_open hsome)
  | level =>
    simp only [fanoutStep] at hs
    split at hs
    case h_1 k harm =>
      cases hs
      exact .leveled harm
    case h_2 => cases hs
  | refresh =>
    simp only [fanoutStep] at hs
    split at hs
    case h_1 k harm =>
      cases hs
      exact .refreshed harm
    case h_2 => cases hs

end FanoutState

end TangoBulk
