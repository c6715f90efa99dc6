import TangoBulk.SubscriptionGrants

/-! A subscription never changes the array it was opened for: the geometry of a retired transport
is the reference for every later grant. -/
namespace TangoBulk

open ByteString Transition

/-! ### The array of a geometry -/

namespace GeometryBlock

/-- The part of a geometry that describes the array. -/
def array (g : GeometryBlock) : ElementType × UInt32 × UInt32 × Dims × Dims :=
  (g.elementType, g.elementSize, g.rank, g.shape, g.strides)

lemma describesSameArray_iff (a b : GeometryBlock) :
    a.describesSameArray b = true ↔ a.array = b.array := by
  simp [describesSameArray, array]

lemma generation_ne_zero {g : GeometryBlock} (h : g.validate = .ok) : g.generation ≠ 0 := by
  intro hzero
  simp [validate, hzero] at h

end GeometryBlock

/-- The geometry of a transport that is published. -/
def ControlEvent.geometry : ControlEvent → Option GeometryBlock
  | .installed geometry => some geometry
  | _ => none

/-- The geometries of the transports published so far. -/
def published (trace : List ControlEvent) : List GeometryBlock :=
  trace.filterMap ControlEvent.geometry

lemma published_append (t t' : List ControlEvent) :
    published (t ++ t') = published t ++ published t' := List.filterMap_append ..

lemma mem_published {g : GeometryBlock} {trace : List ControlEvent} :
    g ∈ published trace ↔ .installed g ∈ trace := by
  simp only [published, List.mem_filterMap]
  constructor
  · rintro ⟨e, he, hg⟩
    cases e with
    | installed =>
      cases hg
      exact he
    | _ => cases hg
  · exact fun h => ⟨_, h, rfl⟩

/-- The geometry is one to compare grants with, and describes what was published. -/
structure Refers (gs : List GeometryBlock) (g : GeometryBlock) : Prop where
  armed : g.generation ≠ 0
  same : ∀ g' ∈ gs, g'.array = g.array

/-- Which geometry is the reference at each stage. -/
def Arrays (gs : List GeometryBlock) (m : SessionMemory) : ControlStage → Prop
  | .opening _ .activate =>
    (gs ≠ [] → Refers gs m.retiredGeometry) ∧ Refers gs m.currentGeometry
  | .opening _ .storeProbing | .opening _ .probe | .opening _ (.abandon _)
  | .opening _ .storeActive | .factory .start | .reconnect .opened => Refers gs m.currentGeometry
  | .session (.closed _) => gs ≠ [] → Refers gs m.retiredGeometry
  | .session _ => Refers gs m.currentGeometry
  | .opening _ _ | .factory _ | .reconnect _ => gs ≠ [] → Refers gs m.retiredGeometry
  | .leave _ => True

namespace SessionMemory

lemma closeSession_published (m : SessionMemory) (discardQueued : Bool) :
    published (m.closeSession discardQueued).2 = [] := by
  cases htransport : m.transport with
  | true =>
    obtain ⟨request, -, heq⟩ := closeSession_live htransport discardQueued
    rw [heq]
    cases discardQueued <;> rfl
  | false =>
    rw [closeSession_idle htransport]
    rfl

lemma opening_not_mem_closeSession (m : SessionMemory) (discardQueued : Bool)
    (caller : OpenCaller) : .opening caller ∉ (m.closeSession discardQueued).2 := by
  cases htransport : m.transport with
  | true =>
    obtain ⟨request, -, heq⟩ := closeSession_live htransport discardQueued
    rw [heq]
    cases discardQueued <;> simp
  | false =>
    rw [closeSession_idle htransport]
    simp

lemma closeSession_refers {m : SessionMemory} {gs : List GeometryBlock}
    (htransport : m.transport = true) (h : Refers gs m.currentGeometry) (discardQueued : Bool) :
    Refers gs (m.closeSession discardQueued).1.retiredGeometry := by
  obtain ⟨request, -, heq⟩ := closeSession_live htransport discardQueued
  rw [heq]
  rwa [if_pos h.armed]

end SessionMemory

/-- The correlation identifier of the Open that the thread waits for. -/
def ControlStage.awaiting : ControlStage → Option UInt64
  | .opening _ (.openCall correlationId) => some correlationId
  | _ => none

namespace ControlView

/-- The reference after the step, which a transport published in it agrees with. -/
structure Keeps (gs : List GeometryBlock) (r : ControlResult) : Prop where
  next : Arrays (gs ++ published r.events) r.memory r.next
  same : published r.events = [] ∨ Refers (gs ++ published r.events) r.memory.currentGeometry

variable {gs : List GeometryBlock} {v : ControlView} {caller : OpenCaller} {i : ControlInput}
  {r : ControlResult}

lemma Keeps.quiet (next : Arrays gs r.memory r.next) (events : published r.events = []) :
    Keeps gs r where
  next := by
    rw [events, List.append_nil]
    exact next
  same := .inl events

lemma failOpen_keeps {memory : SessionMemory} {events : List ControlEvent} {error : BulkError}
    (h : gs ≠ [] → Refers gs memory.retiredGeometry) (hevents : published events = []) :
    Keeps gs (failOpen memory events caller error) := by
  refine .quiet ?_ ?_
  · cases caller <;> exact h
  · rw [failOpen, published_append, hevents]
    rfl

lemma replied_keeps {correlationId : UInt64} {reply : Bytes}
    (h : gs ≠ [] → Refers gs v.memory.retiredGeometry)
    (hreply : ¬ ErrorWithoutError reply correlationId) :
    Keeps gs (v.replied caller correlationId reply) := by
  have hreads := readGrant_reads v.config v.memory.retiredGeometry correlationId reply
  unfold replied
  dsimp only
  split
  case h_1 => exact failOpen_keeps h rfl
  case h_2 candidate hread =>
    obtain ⟨request, -, heq⟩ := SessionMemory.handClose_eq
      { v.memory with geometryChanges := v.memory.geometryChanges + 1
                      call := { v.memory.call with grant := grantOf correlationId reply } }
      candidate
    rw [heq]
    exact failOpen_keeps h rfl
  case h_3 candidate hread =>
    rw [hread] at hreads
    obtain - | - | ⟨_, hadopts, hsame⟩ := hreads
    obtain ⟨granted, hgranting, rfl⟩ | ⟨herror, -⟩ := hadopts
    · refine .quiet ⟨h, GeometryBlock.generation_ne_zero hgranting.valid, fun g hg => ?_⟩ rfl
      have hreference := h (List.ne_nil_of_mem hg)
      rw [hreference.same g hg]
      exact (GeometryBlock.describesSameArray_iff _ _).mp (hsame hreference.armed)
    · exact absurd herror hreply

lemma replied_otherArray (caller : OpenCaller) {correlationId : UInt64} {data : Bytes}
    {reply : OpenReply} (hgranting : Granting data v.config correlationId reply)
    (harmed : v.memory.retiredGeometry.generation ≠ 0)
    (hother : v.memory.retiredGeometry.describesSameArray reply.geometry = false) :
    ∃ request, SessionMemory.closesSession reply.sessionId request = true ∧
      ∃ memory, v.replied caller correlationId data =
        failOpen memory [.handed .close request] caller otherArrayError := by
  have hread : readGrant v.config v.memory.retiredGeometry correlationId data =
      .otherArray (.ofReply reply) := by
    unfold readGrant
    rw [ClientSession.adoptOpenReply_granting _ hgranting]
    rw [if_neg (not_not.mpr rfl), if_pos ⟨harmed, by simp [ClientSession.ofReply, hother]⟩]
  obtain ⟨request, hcloses, heq⟩ := SessionMemory.handClose_eq
    { v.memory with geometryChanges := v.memory.geometryChanges + 1
                    call := { v.memory.call with grant := grantOf correlationId data } }
    (.ofReply reply)
  refine ⟨request, hcloses, ?_⟩
  unfold replied
  dsimp only
  rw [hread]
  dsimp only
  rw [heq]
  exact ⟨_, rfl⟩

lemma activated_keeps {failure : Option BulkError} (htransport : v.memory.transport = false)
    (h : (gs ≠ [] → Refers gs v.memory.retiredGeometry) ∧ Refers gs v.memory.currentGeometry) :
    Keeps gs (v.activated caller failure) := by
  cases failure with
  | some =>
    obtain ⟨request, -, heq⟩ := v.memory.handClose_eq v.memory.session
    unfold activated
    rw [heq]
    exact failOpen_keeps h.1 rfl
  | none =>
    unfold activated
    simp only [SessionMemory.publishTransport, htransport]
    have hrefers : Refers (gs ++ published [ControlEvent.installed v.memory.currentGeometry])
        v.memory.currentGeometry := by
      refine ⟨h.2.armed, fun g hg => ?_⟩
      obtain hg | hg := List.mem_append.mp hg
      · exact h.2.same g hg
      · rw [List.mem_singleton.mp hg]
    exact ⟨hrefers, .inr hrefers⟩

lemma abandon_keeps {error : BulkError} (htransport : v.memory.transport = true)
    (h : Refers gs v.memory.currentGeometry) : Keeps gs (v.abandon caller error) := by
  have hrefers := SessionMemory.closeSession_refers htransport h true
  refine .quiet ?_ ?_
  · cases caller <;> exact fun _ => hrefers
  · rw [abandon, published_append, SessionMemory.closeSession_published]
    rfl

lemma openStep_keeps {stage : OpenStage} (hr : v.openStep caller stage i = some r)
    (hcalled : Called v.config v.memory (.opening caller stage))
    (hreply : ∀ correlationId reply, stage = .openCall correlationId → i = .replied reply →
      ¬ ErrorWithoutError reply correlationId)
    (h : Arrays gs v.memory (.opening caller stage)) : Keeps gs r := by
  unfold openStep at hr
  split at hr <;> cases hr
  case h_1 => exact .quiet h rfl
  case h_2 => exact failOpen_keeps h rfl
  case h_3 => exact .quiet h rfl
  case h_4 =>
    unfold ask
    dsimp only
    split
    · exact failOpen_keeps h rfl
    · exact .quiet h rfl
  case h_5 | h_6 => exact failOpen_keeps h rfl
  case h_7 => exact replied_keeps h (hreply _ _ rfl rfl)
  case h_8 => exact activated_keeps hcalled.1 h
  case h_9 => exact .quiet h rfl
  case h_10 =>
    unfold probe
    dsimp only
    split_ifs <;> exact .quiet h rfl
  case h_11 => exact abandon_keeps hcalled.1 h
  case h_12 =>
    refine .quiet ?_ rfl
    cases caller <;> exact h

lemma factoryStep_keeps {stage : FactoryStage} (hr : v.factoryStep stage i = some r)
    (hcalled : Called v.config v.memory (.factory stage))
    (h : Arrays gs v.memory (.factory stage)) : Keeps gs r := by
  unfold factoryStep at hr
  split at hr <;> cases hr
  case h_2 =>
    unfold retry
    split_ifs <;> exact .quiet h rfl
  case h_4 =>
    unfold retryBackoff
    dsimp only
    split_ifs <;> exact .quiet h rfl
  case h_9 =>
    unfold closeSession
    rw [SessionMemory.closeSession_idle hcalled]
    exact .quiet h rfl
  all_goals exact .quiet h rfl

lemma whileRunning_keeps {next : ControlStage} (h : Arrays gs v.memory next) :
    Keeps gs (v.whileRunning next) := by
  refine .quiet ?_ rfl
  obtain hgo | ⟨-, hgo⟩ := v.whileRunning_next next
  · rw [hgo]
    exact h
  · rw [hgo]
    trivial

lemma renewal_keeps {status : Status} {session : ClientSession} {error : BulkError}
    (h : Refers gs v.memory.currentGeometry) : Keeps gs (v.renewal status session error) := by
  refine .quiet ?_ rfl
  simp only [renewal]
  split_ifs <;> exact h

lemma sessionStep_keeps {stage : SessionStage} (hr : v.sessionStep stage i = some r)
    (hcalled : Called v.config v.memory (.session stage))
    (h : Arrays gs v.memory (.session stage)) : Keeps gs r := by
  unfold sessionStep at hr
  split at hr <;> first | (obtain rfl := Option.some.inj hr) | cases hr
  case h_4 =>
    unfold look
    split_ifs <;> exact .quiet h rfl
  case h_5 =>
    unfold renew
    dsimp only
    split
    case h_1 error _ =>
      exact renewal_keeps (v := { v with memory := { v.memory with
        correlation := v.memory.correlation + 1 } }) h
    case h_2 => exact .quiet h rfl
  case h_6 | h_7 => exact renewal_keeps h
  case h_8 =>
    have hrefers := SessionMemory.closeSession_refers hcalled h false
    exact .quiet (fun _ => hrefers) (SessionMemory.closeSession_published _ _)
  all_goals exact whileRunning_keeps h

lemma reconnectStep_keeps {stage : ReconnectStage} (hr : v.reconnectStep stage i = some r)
    (h : Arrays gs v.memory (.reconnect stage)) : Keeps gs r := by
  unfold reconnectStep at hr
  split at hr <;> cases hr
  case h_1 =>
    refine .quiet ?_ rfl
    simp only [goTo]
    split_ifs <;> exact h
  case h_2 =>
    refine whileRunning_keeps ?_
    unfold nextAttempt
    split_ifs <;> exact h
  case h_4 =>
    unfold backoff
    split_ifs
    · exact .quiet h rfl
    · exact .quiet trivial rfl
  case h_5 =>
    unfold backoffWoken
    split_ifs
    · exact .quiet h rfl
    · exact .quiet trivial rfl
  case h_8 =>
    refine .quiet ?_ rfl
    simp only [goTo]
    split_ifs <;> exact h
  case h_10 => exact .quiet trivial rfl
  all_goals exact .quiet h rfl

lemma leaveStep_keeps {stage : LeaveStage} (hr : v.leaveStep stage i = some r) : Keeps gs r := by
  unfold leaveStep at hr
  split at hr <;> cases hr
  case h_1 => exact .quiet trivial rfl
  case h_2 => exact .quiet trivial (SessionMemory.closeSession_published _ _)
  case h_3 => exact .quiet trivial rfl

lemma program_keeps {stage : ControlStage} (hr : v.program i stage = some r)
    (hcalled : Called v.config v.memory stage)
    (hreply : ∀ reply, i = .replied reply →
      ∀ correlationId ∈ stage.awaiting, ¬ ErrorWithoutError reply correlationId)
    (h : Arrays gs v.memory stage) : Keeps gs r := by
  cases stage with
  | factory => exact factoryStep_keeps hr hcalled h
  | opening =>
    refine openStep_keeps hr hcalled (fun correlationId reply hstage hi => ?_) h
    exact hreply reply hi correlationId (by rw [hstage]; rfl)
  | session => exact sessionStep_keeps hr hcalled h
  | reconnect => exact reconnectStep_keeps hr h
  | leave => exact leaveStep_keeps hr

end ControlView

/-! ### The subscription -/

lemma errorWithoutError_iff (data : Bytes) (correlationId : UInt64) :
    ErrorWithoutError data correlationId ↔ (decodeError data).toOption.any (fun decoded =>
      decoded.2.correlationId = correlationId ∧ decoded.1.status = .ok) = true := by
  unfold ErrorWithoutError
  cases hdecoded : decodeError data with
  | error => simp [Except.toOption]
  | ok decoded =>
    obtain ⟨message, envelope⟩ := decoded
    simp [Except.toOption]

instance (data : Bytes) (correlationId : UInt64) : Decidable (ErrorWithoutError data correlationId) :=
  decidable_of_iff _ (errorWithoutError_iff data correlationId).symm

namespace SubscriptionState

/-- What is taken for a grant is one. -/
def RepliesGrant (s : SubscriptionState) : SubscriptionInput → Prop
  | .control (.replied reply) =>
    ∀ correlationId ∈ s.control.awaiting, ¬ ErrorWithoutError reply correlationId
  | _ => True

instance (s : SubscriptionState) (i : SubscriptionInput) : Decidable (s.RepliesGrant i) :=
  match i with
  | .control (.replied reply) =>
    -- Not by the finiteness of the identifiers, which would try them all.
    decidable_of_iff
      (s.control.awaiting.all (fun correlationId => !decide (ErrorWithoutError reply correlationId))
        = true)
      (by simp [RepliesGrant, Option.all_eq_true])
  | .control .go | .control (.built _) | .control (.asked _ _) | .control (.threw _)
  | .control (.activated _) | .control (.observed _ _ _) | .control (.renewed _ _ _)
  | .control (.clock _ _) | .dispatch _ | .close _ | .interrupt _ => inferInstanceAs (Decidable True)

/-- The transports published so far describe one array, and the next one is compared with it. -/
structure OneArray (config : SubscriberConfig) (trace : List ControlEvent)
    (s : SubscriptionState) : Prop where
  tracked : s.Tracked config
  arrays : Arrays (published trace) s.memory s.control
  same : ∀ g ∈ published trace, ∀ g' ∈ published trace, g'.array = g.array

variable {config : SubscriberConfig} {s s' : SubscriptionState} {trace events : List ControlEvent}

lemma OneArray.quiet (h : s.OneArray config trace) (htracked : s'.Tracked config)
    (harrays : Arrays (published trace) s'.memory s'.control) (hevents : published events = []) :
    s'.OneArray config (trace ++ events) := by
  have htrace : published (trace ++ events) = published trace := by
    rw [published_append, hevents, List.append_nil]
  exact ⟨htracked, by rwa [htrace], by rw [htrace]; exact h.same⟩

lemma controlStep_oneArray {input : ControlInput} (h : s.OneArray config trace)
    (hok : s.RepliesGrant (.control input)) (hs : s.controlStep input = some (s', events)) :
    s'.OneArray config (trace ++ events) := by
  have htracked := (controlStep_tracked h.tracked hs).1
  obtain ⟨r, -, hr, rfl, rfl⟩ := controlStep_moves hs
  obtain ⟨⟨-, rfl, hcalled⟩, harrays, hsame⟩ := h
  have hkeeps : ControlView.Keeps (published trace) r := by
    refine ControlView.program_keeps hr hcalled (fun reply hi => ?_) harrays
    rw [hi] at hok
    exact hok
  obtain ⟨-, hmemory, hcontrol⟩ :=
    apply_view { s with control := r.next, memory := r.memory } r.effect
  refine ⟨htracked, ?_, ?_⟩
  · rw [published_append, hmemory, hcontrol]
    exact hkeeps.next
  · rw [published_append]
    obtain hnone | hrefers := hkeeps.same
    · rw [hnone, List.append_nil]
      exact hsame
    · exact fun g hg g' hg' => (hrefers.same g' hg').trans (hrefers.same g hg).symm

lemma closeStep_oneArray {expired : Bool} (h : s.OneArray config trace)
    (hs : s.closeStep expired = some (s', events)) : s'.OneArray config (trace ++ events) := by
  have htracked := (closeStep_tracked h.tracked hs).1
  have hcloses := closeStep_closes hs
  obtain ⟨hsame, rfl⟩ | ⟨hfinished, hclosed⟩ := hcloses.session h.tracked.joined
  · refine h.quiet htracked ?_ rfl
    rw [hcloses.control, hsame]
    exact h.arrays
  · refine h.quiet htracked ?_ ?_
    · rw [hcloses.control, hfinished]
      trivial
    · have hevents := s.memory.closeSession_published true
      rwa [hclosed] at hevents

lemma step_oneArray {i : SubscriptionInput} (h : s.OneArray config trace)
    (hok : s.RepliesGrant i) (hs : s.step i = some (s', events)) :
    s'.OneArray config (trace ++ events) := by
  have htracked := (step_tracked h.tracked hs).1
  cases i with
  | control => exact controlStep_oneArray h hok hs
  | dispatch =>
    obtain ⟨hnext, rfl⟩ := of_map_eq hs
    obtain ⟨-, hmemory, hcontrol⟩ := (dispatches hnext).view
    refine h.quiet htracked ?_ rfl
    rw [hmemory, hcontrol]
    exact h.arrays
  | close => exact closeStep_oneArray h hs
  | interrupt =>
    obtain ⟨hnext, rfl⟩ := of_map_eq hs
    have hcall := interruptStep_interrupts hnext
    refine h.quiet htracked ?_ rfl
    rw [hcall.memory, hcall.control]
    exact h.arrays

lemma oneArray_of_reaches (h : subscriptionMachine.Reaches RepliesGrant (create config) trace s) :
    s.OneArray config trace :=
  h.traceInvariant (fun trace s => s.OneArray config trace)
    ⟨create_tracked config, fun hne => absurd rfl hne, by simp [published]⟩
    fun _ _ _ _ _ hone hok hs => step_oneArray hone hok hs

/-! ### Giving up -/

/-- Only the control thread takes steps, and nothing from outside decides them. -/
def alone (_ : SubscriptionState) (i : SubscriptionInput) : Prop := i = .control .go

/-- Run by itself, the control thread publishes a failure; and however the threads are
interleaved there is no further Open, and the loop ends in a failure or with `close`. -/
structure GivesUp (s : SubscriptionState) : Prop where
  fails : ∃ trace s', subscriptionMachine.Reaches alone s trace s' ∧ s'.state = .failed
  final : ∀ trace s', subscriptionMachine.Reaches anyStep s trace s' →
    (∀ caller, .opening caller ∉ trace) ∧
    (s'.control = .leave .finished →
      s'.state = .failed ∨ s'.state = .closed ∧ s'.announced = true)

/-- The control thread is on its way to a failure. -/
def dooms : ControlStage → Bool
  | .reconnect (.openFailed error) => error.status = .geometryMismatch
  | .reconnect (.fail _) | .reconnect (.storeFailed _) | .leave _ => true
  | _ => false

structure Doomed (s : SubscriptionState) : Prop where
  stage : dooms s.control = true
  left : s.control.left = true → s.state = .failed ∨ s.state = .closed ∧ s.announced = true


/-- The step publishes a state. -/
def publishes : ControlEffect → Bool
  | .store _ _ => true
  | _ => false

lemma program_dooms {v : ControlView} {i : ControlInput} {r : ControlResult}
    {stage : ControlStage} (hr : v.program i stage = some r) (h : dooms stage = true) :
    dooms r.next = true ∧ (∀ caller, .opening caller ∉ r.events) ∧
      ((∃ error, r.effect = .store .failed error) ∨
        (r.next.left = true → stage.left = true) ∧ publishes r.effect = false) := by
  cases stage with
  | reconnect =>
    simp only [ControlView.program, ControlView.reconnectStep] at hr
    split at hr <;> cases hr
    case h_8 error =>
      have hmismatch : error.status = .geometryMismatch := of_decide_eq_true h
      rw [if_pos hmismatch]
      exact ⟨rfl, by simp [ControlView.goTo], .inr ⟨Bool.false_ne_true.elim, rfl⟩⟩
    case h_9 => exact ⟨rfl, by simp [ControlView.goTo], .inr ⟨Bool.false_ne_true.elim, rfl⟩⟩
    case h_10 error => exact ⟨rfl, by simp [ControlView.store], .inl ⟨error, rfl⟩⟩
    all_goals cases h
  | leave =>
    simp only [ControlView.program, ControlView.leaveStep] at hr
    split at hr <;> cases hr
    case h_1 => exact ⟨rfl, by simp [ControlView.goTo], .inr ⟨fun _ => rfl, rfl⟩⟩
    case h_2 =>
      exact ⟨rfl, SessionMemory.opening_not_mem_closeSession _ _, .inr ⟨fun _ => rfl, rfl⟩⟩
    case h_3 =>
      refine ⟨rfl, by simp [ControlView.goTo], .inr ⟨fun _ => rfl, ?_⟩⟩
      split_ifs <;> rfl
  | _ => cases h

lemma controlStep_doomed {input : ControlInput} (h : s.Doomed)
    (hs : s.controlStep input = some (s', events)) :
    s'.Doomed ∧ ∀ caller, .opening caller ∉ events := by
  obtain ⟨r, -, hr, rfl, rfl⟩ := controlStep_moves hs
  obtain ⟨hdooms, hopening, heffect⟩ := program_dooms hr h.stage
  obtain ⟨-, -, hcontrol⟩ := apply_view { s with control := r.next, memory := r.memory } r.effect
  refine ⟨⟨by rw [hcontrol]; exact hdooms, fun hleft => ?_⟩, hopening⟩
  obtain ⟨error, hfailed⟩ | ⟨hstays, hquiet⟩ := heffect
  · rw [hfailed]
    exact .inl rfl
  · rw [hcontrol] at hleft
    have hstill := h.left (hstays hleft)
    cases he : r.effect with
    | store =>
      rw [he] at hquiet
      cases hquiet
    | fail =>
      rw [apply, setTerminal_eq]
      exact hstill
    | _ => exact hstill

lemma Dispatches.state (h : s.Dispatches s') :
    (s'.state = s.state ∧ s'.announced = s.announced) ∨ s'.state = .failed := by
  cases h with
  | stores => exact .inr rfl
  | _ => exact .inl ⟨rfl, rfl⟩

lemma step_doomed {i : SubscriptionInput} (h : s.Doomed)
    (hs : s.step i = some (s', events)) : s'.Doomed ∧ ∀ caller, .opening caller ∉ events := by
  cases i with
  | control => exact controlStep_doomed h hs
  | dispatch =>
    obtain ⟨hnext, rfl⟩ := of_map_eq hs
    obtain ⟨-, -, hcontrol⟩ := (dispatches hnext).view
    refine ⟨⟨by rw [hcontrol]; exact h.stage, fun hleft => ?_⟩, by simp⟩
    rw [hcontrol] at hleft
    obtain ⟨hstate, hannounced⟩ | hfailed := (dispatches hnext).state
    · rw [hstate, hannounced]
      exact h.left hleft
    · exact .inl hfailed
  | close =>
    have hcloses := closeStep_closes hs
    refine ⟨⟨by rw [hcloses.control]; exact h.stage, fun hleft => ?_⟩, fun caller hopening => ?_⟩
    · rw [hcloses.control] at hleft
      obtain ⟨hstate, hannounced⟩ | hclosed := hcloses.state
      · rw [hstate, hannounced]
        exact h.left hleft
      · exact .inr hclosed
    · obtain ⟨-, rfl⟩ | ⟨-, -, hclosed⟩ := hcloses.memory
      · simp at hopening
      · have hnone := s.memory.opening_not_mem_closeSession true caller
        rw [hclosed] at hnone
        exact hnone hopening
  | interrupt =>
    obtain ⟨hnext, rfl⟩ := of_map_eq hs
    have hcall := interruptStep_interrupts hnext
    refine ⟨⟨by rw [hcall.control]; exact h.stage, fun hleft => ?_⟩, by simp⟩
    rw [hcall.control] at hleft
    rw [hcall.state, hcall.announced]
    exact h.left hleft

lemma Doomed.of_reaches (h : s.Doomed) (hreach : subscriptionMachine.Reaches anyStep s trace s') :
    s'.Doomed ∧ ∀ caller, .opening caller ∉ trace := by
  refine hreach.traceInvariant (fun trace s' => s'.Doomed ∧ ∀ caller, .opening caller ∉ trace)
    ⟨h, by simp⟩ ?_
  rintro trace s i s' events ⟨hdoomed, hnone⟩ - hs
  obtain ⟨hdoomed', hnone'⟩ := step_doomed hdoomed hs
  refine ⟨hdoomed', fun caller hopening => ?_⟩
  obtain hopening | hopening := List.mem_append.mp hopening
  · exact hnone caller hopening
  · exact hnone' caller hopening

lemma openFailed_fails {error : BulkError} (hcontrol : s.control = .reconnect (.openFailed error))
    (hmismatch : error.status = .geometryMismatch) :
    ∃ trace s', subscriptionMachine.Reaches alone s trace s' ∧ s'.state = .failed := by
  have hfail : ∃ s₁, s.controlStep .go = some (s₁, []) ∧ s₁.control = .reconnect (.fail error) := by
    rw [controlStep, hcontrol]
    simp only [ControlView.program, ControlView.reconnectStep, if_pos hmismatch]
    exact ⟨_, rfl, rfl⟩
  obtain ⟨s₁, hstep₁, hcontrol₁⟩ := hfail
  have htell : ∃ s₂, s₁.controlStep .go = some (s₂, []) ∧
      s₂.control = .reconnect (.storeFailed error) := by
    rw [controlStep, hcontrol₁]
    refine ⟨_, rfl, ?_⟩
    dsimp only [apply]
    rw [setTerminal_eq]
    rfl
  obtain ⟨s₂, hstep₂, hcontrol₂⟩ := htell
  have hstore : ∃ s₃, s₂.controlStep .go = some (s₃, []) ∧ s₃.state = .failed := by
    rw [controlStep, hcontrol₂]
    exact ⟨_, rfl, rfl⟩
  obtain ⟨s₃, hstep₃, hfailed⟩ := hstore
  have hgo : ∀ s, alone s (.control .go) := fun _ => rfl
  have hreach := ((Machine.Reaches.start (M := subscriptionMachine)).next (hgo s) hstep₁).next
    (hgo s₁) hstep₂
  exact ⟨_, s₃, hreach.next (hgo s₂) hstep₃, hfailed⟩

lemma givesUp_of_mismatch {error : BulkError}
    (hcontrol : s.control = .reconnect (.openFailed error))
    (hmismatch : error.status = .geometryMismatch) : s.GivesUp := by
  have hdoomed : s.Doomed := by
    constructor
    · rw [hcontrol]
      exact decide_eq_true hmismatch
    · rw [hcontrol]
      nofun
  refine ⟨openFailed_fails hcontrol hmismatch, fun trace s' hreach => ?_⟩
  obtain ⟨hdoomed', hnone⟩ := hdoomed.of_reaches hreach
  exact ⟨hnone, fun hfinished => hdoomed'.left (by rw [hfinished]; rfl)⟩

end SubscriptionState

lemma controlStep_openCall {s : SubscriptionState} {caller : OpenCaller}
    {correlationId : UInt64} {data : Bytes}
    (h : s.control = .opening caller (.openCall correlationId)) :
    s.controlStep (.replied data) =
      some ({ s with control := (s.view.replied caller correlationId data).next
                     memory := (s.view.replied caller correlationId data).memory }.apply
          (s.view.replied caller correlationId data).effect,
        (s.view.replied caller correlationId data).events) := by
  rw [SubscriptionState.controlStep, h]
  rfl

lemma grantReply_encodes (geometry : GeometryBlock) (correlationId : UInt64) :
    encodeOpenReply (grantMessage geometry) correlationId =
      .ok (grantReply geometry correlationId) := by
  obtain ⟨data, hencode, -⟩ :=
    CoordMessage.encodes (m := .openReply (grantMessage geometry))
      (by simp [CoordMessage.Bounded, grantMessage, kMaxUcxAddressBytes])
      (by simp [CoordMessage.Unaddressed, grantMessage]) correlationId
  have hdata : encodeOpenReply (grantMessage geometry) correlationId = .ok data := hencode
  rw [grantReply, hdata]
  rfl

lemma grantReply_granting {geometry : GeometryBlock} {config : SubscriberConfig}
    (correlationId : UInt64) (h : Fits config (grantMessage geometry)) :
    Granting (grantReply geometry correlationId) config correlationId (grantMessage geometry) where
  decoded := by
    obtain ⟨size, hdecode⟩ :=
      decodeOpenReply_encodeOpenReply (grantReply_encodes geometry correlationId)
    exact ⟨_, hdecode, rfl⟩
  accepted := rfl
  valid := h.valid
  within := h.within

/-- Two bytes more than the small geometry. -/
def otherGeometry : GeometryBlock := { smallGeometry with shape := Dims.zero.store 0 6 }

/-- All transports of a subscription describe the array of the first. A grant for another one is
closed, and the subscription gives up if it was reconnecting. -/
theorem subscription_keeps_array {config : SubscriberConfig} {trace : List ControlEvent}
    {s : SubscriptionState}
    (hreach : subscriptionMachine.Reaches SubscriptionState.RepliesGrant (.create config) trace s) :
    (∀ g g', .installed g ∈ trace → .installed g' ∈ trace → g.describesSameArray g' = true) ∧
    ∀ caller correlationId data reply g, s.control = .opening caller (.openCall correlationId) →
      Granting data config correlationId reply → .installed g ∈ trace →
      g.describesSameArray reply.geometry = false →
      ∃ s' events, subscriptionMachine.step s (.control (.replied data)) = some (s', events) ∧
        (∃ request, .handed .close request ∈ events ∧
          SessionMemory.closesSession reply.sessionId request = true) ∧
        .openReturned caller false s'.memory.call ∈ events ∧
        (caller = .reconnect → s'.GivesUp) := by
  have hone := SubscriptionState.oneArray_of_reaches hreach
  refine ⟨fun g g' hg hg' => ?_, ?_⟩
  · rw [GeometryBlock.describesSameArray_iff]
    exact hone.same g' (mem_published.mpr hg') g (mem_published.mpr hg)
  · intro caller correlationId data reply g hcontrol hgranting hg hother
    have harrays := hone.arrays
    rw [hcontrol] at harrays
    have hreference := harrays (List.ne_nil_of_mem (mem_published.mpr hg))
    have hsame := hreference.same g (mem_published.mpr hg)
    have hdiffers : s.memory.retiredGeometry.describesSameArray reply.geometry = false := by
      rw [Bool.eq_false_iff, ne_eq, GeometryBlock.describesSameArray_iff] at hother ⊢
      rwa [← hsame]
    rw [← hone.tracked.configured] at hgranting
    obtain ⟨request, hcloses, memory, heq⟩ := ControlView.replied_otherArray (v := s.view)
      caller hgranting hreference.armed hdiffers
    have hstep : s.controlStep (.replied data) =
        some ({ s with control := caller.failed ControlView.otherArrayError, memory := memory },
          [.handed .close request, .ingress .retire, .openReturned caller false memory.call]) := by
      rw [controlStep_openCall hcontrol, heq]
      rfl
    refine ⟨_, _, hstep, ⟨request, by simp, hcloses⟩, by simp, ?_⟩
    rintro rfl
    exact SubscriptionState.givesUp_of_mismatch rfl rfl

/-- A session for four bytes is lost; the Open that replaces it is granted six. -/
theorem subscription_keeps_array_sample :
    ∃ trace s s' events, subscriptionMachine.Reaches SubscriptionState.RepliesGrant
        (.create { streamName := [97] }) trace s ∧
      subscriptionMachine.step s (.control (.replied (grantReply otherGeometry 3))) =
        some (s', events) ∧ s'.GivesUp := by
  obtain ⟨trace, s, hreach, hcontrol, hinstalled⟩ := subscriptionMachine.exists_of_run
    SubscriptionState.RepliesGrant (.create { streamName := [97] })
    (askInputs ++ adoptInputs (grantReply smallGeometry 1) ++ loseInputs ++ backoffInputs ++
      askInputs)
    (P := fun s t => s.control = .opening .reconnect (.openCall 3) ∧
      ∃ g ∈ published t, g.describesSameArray otherGeometry = false) (by decide +kernel)
  obtain ⟨g, hg, hother⟩ := hinstalled
  have hfits : Fits { streamName := [97] } (grantMessage otherGeometry) :=
    ⟨by decide +kernel, by decide⟩
  obtain ⟨s', events, hs, -, -, hgives⟩ := (subscription_keeps_array hreach).2 .reconnect 3 _ _ g
    hcontrol (grantReply_granting 3 hfits) (mem_published.mp hg) hother
  exact ⟨trace, s, s', events, hreach, hs, hgives rfl⟩

end TangoBulk
