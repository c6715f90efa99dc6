import TangoBulk.SubscriptionMachine

/-! The states a subscription publishes. `transition` is an unconditional store made by three
threads, so what is final depends on who still has a store to make. -/
namespace TangoBulk

open ByteString Transition

namespace ControlStage

/-- The state the thread publishes in its next step. -/
def stores : ControlStage → Option SubscriberState
  | .factory .created | .factory (.storeOpening _) | .reconnect .storeOpening => some .opening
  | .factory (.storeRetrying _ _) | .reconnect (.storeReconnecting _) => some .reconnecting
  | .opening _ .storeProbing => some .probing
  | .opening _ .storeActive => some .active
  | .factory (.storeFailed _) | .reconnect (.storeFailed _) => some .failed
  | _ => none

/-- The thread publishes no further state. -/
def left : ControlStage → Bool
  | .leave _ | .factory .shutdown | .factory .refused => true
  | _ => false

/-- The subscription is not open yet. -/
def establishing : ControlStage → Bool
  | .factory _ | .opening (.factory _) _ => true
  | _ => false

@[simp] lemma left_opening (caller : OpenCaller) (stage : OpenStage) :
    (opening caller stage).left = false := rfl

@[simp] lemma left_failed (caller : OpenCaller) (error : BulkError) :
    (caller.failed error).left = false := by
  cases caller <;> rfl

@[simp] lemma stores_failed (caller : OpenCaller) (error : BulkError) :
    (caller.failed error).stores = none := by
  cases caller <;> rfl

lemma stores_opening_ne (caller : OpenCaller) (stage : OpenStage) :
    (opening caller stage).stores ≠ some .failed := by
  cases stage <;> simp [stores]

lemma establishing_failed (caller : OpenCaller) (stage : OpenStage) (error : BulkError) :
    (caller.failed error).establishing = (opening caller stage).establishing := by
  cases caller <;> rfl

lemma establishing_opening (caller : OpenCaller) (stage stage' : OpenStage) :
    (opening caller stage).establishing = (opening caller stage').establishing := by
  cases caller <;> rfl

end ControlStage

namespace ControlView

/-- What a step of the thread can do to the shared members, and when the thread leaves. -/
inductive Moves (v : ControlView) (stage : ControlStage) (r : ControlResult) : Prop
  | quiet (effect : r.effect = .none) (stores : stage.stores = none)
      (stays : stage.left = true → r.next.left = true)
      (leaves : r.next.left = true → stage.left = true ∨ v.running = false ∨
        stage = .reconnect .backoff ∧ v.config.reconnectBackoffMs = 0)
      (unfailed : r.next.stores ≠ some .failed)
      (phase : r.next.establishing = stage.establishing)
  | store (state : SubscriberState) (error : BulkError) (effect : r.effect = .store state error)
      (stores : stage.stores = some state) (leaves : r.next.left = decide (state = .failed))
      (unfailed : r.next.stores ≠ some .failed)
      (phase : r.next.establishing = stage.establishing)
  | fail (error : BulkError) (effect : r.effect = .fail error) (stores : stage.stores = none)
      (stays : stage.left = false) (next : r.next.stores = some .failed)
      (phase : r.next.establishing = stage.establishing)
  | start (effect : r.effect = .start) (stage : stage = .factory .start)
      (next : r.next = .session .loop)
  | stop (effect : r.effect = .stop) (stays : stage.left = true) (next : r.next.left = true)
      (phase : r.next.establishing = stage.establishing)
      (failed : stage.establishing = true ∨ v.state = .failed)

/-! ### `open_subscription` -/

/-- Where `open_subscription` goes on before it succeeds. -/
def Proceeds (caller : OpenCaller) (next : ControlStage) : Prop :=
  (∃ stage, stage ≠ .makeIngress ∧ next = .opening caller stage) ∨
    ∃ error, next = caller.failed error

/-- A step of `open_subscription` that publishes no state. -/
structure Within (caller : OpenCaller) (r : ControlResult) : Prop where
  effect : r.effect = .none
  next : Proceeds caller r.next

lemma failOpen_within (memory : SessionMemory) (events : List ControlEvent)
    (caller : OpenCaller) (error : BulkError) :
    Within caller (failOpen memory events caller error) := ⟨rfl, .inr ⟨error, rfl⟩⟩

variable (v : ControlView) (caller : OpenCaller)

lemma makeIngress_within : Within caller (v.makeIngress caller) :=
  ⟨rfl, .inl ⟨.build, by simp, rfl⟩⟩

lemma goTo_within {stage : OpenStage} (h : stage ≠ .makeIngress) :
    Within caller (v.goTo (.opening caller stage)) := ⟨rfl, .inl ⟨stage, h, rfl⟩⟩

lemma ask_within (address : Bytes) (instanceId : ClientInstanceId) :
    Within caller (v.ask caller address instanceId) := by
  unfold ask
  dsimp only
  split
  · exact failOpen_within _ _ _ _
  · exact ⟨rfl, .inl ⟨_, by simp, rfl⟩⟩

lemma replied_within (correlationId : UInt64) (reply : Bytes) :
    Within caller (v.replied caller correlationId reply) := by
  unfold replied
  dsimp only
  split
  · exact failOpen_within _ _ _ _
  · exact failOpen_within _ _ _ _
  · exact ⟨rfl, .inl ⟨_, by simp, rfl⟩⟩

lemma activated_within (failure : Option BulkError) :
    Within caller (v.activated caller failure) := by
  cases failure with
  | some => exact failOpen_within _ _ _ _
  | none => exact ⟨rfl, .inl ⟨_, by simp, rfl⟩⟩

lemma probe_within (state : SubscriberState) (reported : BulkError) (expired : Bool) :
    Within caller (v.probe caller state reported expired) := by
  unfold probe
  dsimp only
  split_ifs <;> exact goTo_within _ _ (by simp)

lemma abandon_within (error : BulkError) : Within caller (v.abandon caller error) :=
  ⟨rfl, .inr ⟨error, rfl⟩⟩

variable {v caller} {i : ControlInput} {r : ControlResult}

lemma Within.moves {stage : OpenStage} (h : Within caller r)
    (hstores : (ControlStage.opening caller stage).stores = none) :
    v.Moves (.opening caller stage) r := by
  obtain ⟨stage', -, hnext⟩ | ⟨error, hnext⟩ := h.next
  · exact .quiet h.effect hstores (by simp) (by simp [hnext])
      (hnext ▸ ControlStage.stores_opening_ne caller stage')
      (hnext ▸ ControlStage.establishing_opening caller stage' stage)
  · exact .quiet h.effect hstores (by simp) (by simp [hnext]) (by simp [hnext])
      (hnext ▸ ControlStage.establishing_failed caller stage error)

lemma storeActive_moves : v.Moves (.opening caller .storeActive) (v.storeActive caller) :=
  .store .active noError rfl rfl (by cases caller <;> rfl)
    (by cases caller <;> simp [storeActive, OpenCaller.opened, ControlStage.stores])
    (by cases caller <;> rfl)

lemma openStep_moves {stage : OpenStage} (h : v.openStep caller stage i = some r) :
    v.Moves (.opening caller stage) r := by
  unfold openStep at h
  split at h <;> cases h
  case h_1 => exact (makeIngress_within _ _).moves rfl
  case h_2 => exact (failOpen_within _ _ _ _).moves rfl
  case h_3 => exact (goTo_within _ _ (by simp)).moves rfl
  case h_4 => exact (ask_within _ _ _ _).moves rfl
  case h_5 | h_6 => exact (failOpen_within _ _ _ _).moves rfl
  case h_7 => exact (replied_within _ _ _ _).moves rfl
  case h_8 => exact (activated_within _ _ _).moves rfl
  case h_9 =>
    exact .store .probing noError rfl rfl rfl (by simp [store, ControlStage.stores])
      (ControlStage.establishing_opening _ _ _)
  case h_10 => exact (probe_within _ _ _ _ _).moves rfl
  case h_11 => exact (abandon_within _ _ _).moves rfl
  case h_12 => exact storeActive_moves

/-! ### `SubscriptionFactory::open` -/

lemma factory_moves {stage next : FactoryStage} (heffect : r.effect = .none)
    (hstores : (ControlStage.factory stage).stores = none)
    (hleft : (ControlStage.factory stage).left = false) (hnext : r.next = .factory next)
    (hunfailed : (ControlStage.factory next).stores ≠ some .failed)
    (hstays : (ControlStage.factory next).left = false) : v.Moves (.factory stage) r :=
  .quiet heffect hstores (by simp [hleft]) (by simp [hnext, hstays]) (by rwa [hnext])
    (by rw [hnext]; rfl)

lemma factoryStep_moves {stage : FactoryStage} (h : v.factoryStep stage i = some r) :
    v.Moves (.factory stage) r := by
  unfold factoryStep at h
  split at h <;> cases h
  case h_1 => exact .store .opening noError rfl rfl rfl (by simp [store, ControlStage.stores]) rfl
  case h_2 =>
    unfold retry
    split_ifs
    all_goals exact factory_moves rfl rfl rfl rfl (by simp [ControlStage.stores]) rfl
  case h_3 => exact .store .reconnecting _ rfl rfl rfl (by simp [store, ControlStage.stores]) rfl
  case h_4 =>
    unfold retryBackoff
    dsimp only
    split_ifs
    all_goals exact factory_moves rfl rfl rfl rfl (by simp [ControlStage.stores]) rfl
  case h_5 => exact .store .opening noError rfl rfl rfl (by simp [store, ControlStage.stores]) rfl
  case h_6 => exact .start rfl rfl rfl
  case h_7 => exact .fail _ rfl rfl rfl rfl rfl
  case h_8 => exact .store .failed _ rfl rfl rfl (by simp [store, ControlStage.stores]) rfl
  case h_9 => exact .stop rfl rfl rfl rfl (.inl rfl)

/-! ### The open subscription -/

lemma whileRunning_moves {stage next : ControlStage} (hstores : stage.stores = none)
    (hleft : stage.left = false) (hnext : next.left = false)
    (hunfailed : next.stores ≠ some .failed)
    (hphase : stage.establishing = false ∧ next.establishing = false) :
    v.Moves stage (v.whileRunning next) := by
  obtain hgo | ⟨hrunning, hgo⟩ := v.whileRunning_next next
  · exact .quiet rfl hstores (by simp [hleft]) (by simp [hgo, hnext]) (by rwa [hgo])
      (by rw [hgo, hphase.1, hphase.2])
  · exact .quiet rfl hstores (by simp [hleft]) (fun _ => .inr (.inl hrunning))
      (by simp [hgo, ControlStage.stores]) (by rw [hgo, hphase.1]; rfl)

lemma session_moves {stage next : SessionStage} (heffect : r.effect = .none)
    (hnext : r.next = .session next) : v.Moves (.session stage) r :=
  .quiet heffect rfl (by simp [ControlStage.left]) (by simp [hnext, ControlStage.left])
    (by simp [hnext, ControlStage.stores]) (by rw [hnext]; rfl)

lemma sessionStep_moves {stage : SessionStage} (h : v.sessionStep stage i = some r) :
    v.Moves (.session stage) r := by
  unfold sessionStep at h
  split at h <;> first | (obtain rfl := Option.some.inj h) | cases h
  case h_4 =>
    unfold look
    split_ifs
    all_goals exact session_moves rfl rfl
  case h_5 =>
    unfold renew
    dsimp only
    split
    all_goals exact session_moves rfl rfl
  case h_6 | h_7 | h_8 => exact session_moves rfl rfl
  all_goals exact whileRunning_moves rfl rfl rfl (by simp [ControlStage.stores]) ⟨rfl, rfl⟩

lemma reconnect_moves {stage next : ReconnectStage} (heffect : r.effect = .none)
    (hstores : (ControlStage.reconnect stage).stores = none) (hnext : r.next = .reconnect next)
    (hunfailed : (ControlStage.reconnect next).stores ≠ some .failed) :
    v.Moves (.reconnect stage) r :=
  .quiet heffect hstores (by simp [ControlStage.left]) (by simp [hnext, ControlStage.left])
    (by rwa [hnext]) (by rw [hnext]; rfl)

lemma nextAttempt_stores (error : BulkError) :
    (ControlStage.reconnect (v.nextAttempt error)).stores ≠ some .failed := by
  unfold nextAttempt
  split_ifs <;> simp [ControlStage.stores]

lemma backoff_moves : v.Moves (.reconnect .backoff) v.backoff := by
  unfold backoff
  split_ifs with hpos
  · exact reconnect_moves rfl rfl rfl (by simp [ControlStage.stores])
  · rw [backoffDelay_pos_iff, not_not] at hpos
    exact .quiet rfl rfl (by simp [ControlStage.left]) (fun _ => .inr (.inr ⟨rfl, hpos⟩))
      (by simp [goTo, ControlStage.stores]) rfl

lemma backoffWoken_moves : v.Moves (.reconnect .woken) v.backoffWoken := by
  unfold backoffWoken
  split_ifs with hrunning
  · exact reconnect_moves rfl rfl rfl (by simp [ControlStage.stores])
  · exact .quiet rfl rfl (by simp [ControlStage.left])
      (fun _ => .inr (.inl (by simpa using hrunning))) (by simp [goTo, ControlStage.stores]) rfl

lemma reconnectStep_moves {stage : ReconnectStage} (h : v.reconnectStep stage i = some r) :
    v.Moves (.reconnect stage) r := by
  unfold reconnectStep at h
  split at h <;> cases h
  case h_1 => exact reconnect_moves rfl rfl rfl (by split_ifs <;> simp [ControlStage.stores])
  case h_2 => exact whileRunning_moves rfl rfl rfl (nextAttempt_stores _) ⟨rfl, rfl⟩
  case h_3 =>
    exact .store .reconnecting _ rfl rfl rfl (by simp [storeReconnecting, ControlStage.stores]) rfl
  case h_4 => exact backoff_moves
  case h_5 => exact backoffWoken_moves
  case h_6 => exact .store .opening noError rfl rfl rfl (by simp [store, ControlStage.stores]) rfl
  case h_7 =>
    exact .quiet rfl rfl (by simp [ControlStage.left]) (by simp [goTo, ControlStage.left])
      (by simp [goTo, ControlStage.stores]) rfl
  case h_8 => exact reconnect_moves rfl rfl rfl (by split_ifs <;> simp [ControlStage.stores])
  case h_9 => exact .fail _ rfl rfl rfl rfl rfl
  case h_10 => exact .store .failed _ rfl rfl rfl (by simp [store, ControlStage.stores]) rfl

lemma leaveStep_moves {stage : LeaveStage} (h : v.leaveStep stage i = some r) :
    v.Moves (.leave stage) r := by
  unfold leaveStep at h
  split at h <;> cases h
  case h_3 =>
    by_cases hfailed : v.state = .failed
    · exact .stop (by simp [hfailed]) rfl rfl rfl (.inr hfailed)
    · exact .quiet (by simp [hfailed]) rfl (fun _ => rfl) (fun _ => .inl rfl)
        (by simp [goTo, ControlStage.stores]) rfl
  case h_1 =>
    exact .quiet rfl rfl (fun _ => rfl) (fun _ => .inl rfl) (by simp [goTo, ControlStage.stores])
      rfl
  case h_2 =>
    exact .quiet rfl rfl (fun _ => rfl) (fun _ => .inl rfl)
      (by simp [closeSession, ControlStage.stores]) rfl

lemma program_moves {stage : ControlStage} (h : v.program i stage = some r) : v.Moves stage r := by
  cases stage with
  | factory => exact factoryStep_moves h
  | opening => exact openStep_moves h
  | session => exact sessionStep_moves h
  | reconnect => exact reconnectStep_moves h
  | leave => exact leaveStep_moves h

end ControlView

lemma ControlStage.stores_of_left {stage : ControlStage} (h : stage.left = true) :
    stage.stores = none := by
  unfold left at h
  split at h
  all_goals first | rfl | cases h

/-! ### The subscription -/

/-- `close` has stopped waiting for the control thread. -/
def CloseStage.pastControl : CloseStage → Bool
  | .joinDispatch | .closeSession | .store | .complete => true
  | _ => false

/-- `close` has stopped waiting for the dispatch thread. -/
def CloseStage.pastDispatch : CloseStage → Bool
  | .closeSession | .store | .complete => true
  | _ => false

namespace SubscriptionState

/-- No thread publishes a state that a later one has overtaken: the control thread publishes
nothing but a failure once a callback has thrown, and neither thread publishes anything once
`close` has stopped waiting for it. -/
def Unraced (s : SubscriptionState) : SubscriptionInput → Prop
  | .control _ => ∀ state ∈ s.control.stores,
      s.controlDetached = false ∧ (state = .failed ∨ s.dispatch.hasFailed = false)
  | .dispatch _ => s.dispatch = .storing → s.dispatchDetached = false
  | _ => True

instance (s : SubscriptionState) (i : SubscriptionInput) : Decidable (s.Unraced i) :=
  match i with
  | .control _ => inferInstanceAs (Decidable (∀ state ∈ s.control.stores,
      s.controlDetached = false ∧ (state = .failed ∨ s.dispatch.hasFailed = false)))
  | .dispatch _ =>
    inferInstanceAs (Decidable (s.dispatch = .storing → s.dispatchDetached = false))
  | .close _ => inferInstanceAs (Decidable True)
  | .interrupt _ => inferInstanceAs (Decidable True)

/-- A published failure is only followed by the end, and the end by nothing. -/
structure Absorbs (s s' : SubscriptionState) : Prop where
  failed : s.state = .failed → s'.state = .failed ∨ s'.state = .closed
  announced : s.announced = true → s'.state = .closed

variable {s s' : SubscriptionState} {events : List ControlEvent} {input : ControlInput}

lemma setTerminal_eq (s : SubscriptionState) (terminal : Terminal) :
    s.setTerminal terminal =
      { s with terminal := if s.terminal = .none then terminal else s.terminal } := by
  unfold setTerminal
  split_ifs <;> rfl

lemma controlStep_moves (h : s.controlStep input = some (s', events)) :
    ∃ r, s.view.Moves s.control r ∧ s.view.program input s.control = some r ∧
      s' = { s with control := r.next, memory := r.memory }.apply r.effect ∧
      events = r.events := by
  simp only [controlStep, Option.map_eq_some_iff] at h
  obtain ⟨r, hr, heq⟩ := h
  rw [Prod.mk.injEq] at heq
  exact ⟨r, ControlView.program_moves hr, hr, heq.1.symm, heq.2.symm⟩

lemma control_ne_finished {r : ControlResult}
    (h : s.view.program input s.control = some r) : s.control ≠ .leave .finished := by
  intro hfinished
  rw [hfinished] at h
  cases h

/-! ### Which threads there are -/

/-- The threads exist once the subscription is open, and `close` goes past the ones that have
finished or that it has detached. -/
structure Joined (s : SubscriptionState) : Prop where
  phase : s.controlStarted = !s.control.establishing
  unstarted : s.controlStarted = false → s.dispatch = .absent ∧ s.closing = .idle
  control : s.closing.pastControl = true →
    s.control = .leave .finished ∨ s.controlDetached = true
  dispatch : s.closing.pastDispatch = true →
    s.dispatchJoined = true ∨ s.dispatchDetached = true
  announced : s.announced = true → s.closing = .complete

lemma create_joined (config : SubscriberConfig) : (create config).Joined where
  phase := rfl
  unstarted := fun _ => ⟨rfl, rfl⟩
  control := nofun
  dispatch := nofun
  announced := nofun

lemma Joined.control_detached (h : s.Joined) (hpast : s.closing.pastControl = true)
    {r : ControlResult} (hr : s.view.program input s.control = some r) : s.controlDetached = true :=
  (h.control hpast).resolve_left (control_ne_finished hr)

lemma Joined.closing_started (h : s.Joined) (hclosing : s.closing ≠ .idle) :
    s.controlStarted = true := by
  by_contra hunstarted
  exact hclosing (h.unstarted (by simpa using hunstarted)).2

lemma controlStep_joined (h : s.Joined)
    (hs : s.controlStep input = some (s', events)) : s'.Joined := by
  obtain ⟨r, hmoves, hr, rfl, -⟩ := controlStep_moves hs
  have hcontrol : s.closing.pastControl = true →
      r.next = .leave .finished ∨ s.controlDetached = true :=
    fun hpast => .inr (h.control_detached hpast hr)
  have hphase : r.next.establishing = s.control.establishing →
      s.controlStarted = !r.next.establishing := fun hsame => by
    rw [hsame]
    exact h.phase
  cases hmoves with
  | quiet heffect _ _ _ _ hsame | store state error heffect _ _ _ hsame =>
    rw [heffect]
    exact { h with phase := hphase hsame, control := hcontrol }
  | fail error heffect _ _ _ hsame =>
    rw [heffect, apply, setTerminal_eq]
    exact { h with phase := hphase hsame, control := hcontrol }
  | start heffect hstage hnext =>
    have hunstarted : s.controlStarted = false := by rw [h.phase, hstage]; rfl
    obtain ⟨-, hidle⟩ := h.unstarted hunstarted
    rw [heffect]
    exact { phase := by rw [hnext]; rfl
            unstarted := nofun
            control := hcontrol
            dispatch := fun hpast => absurd hpast (by
              rw [show _ = s.closing from rfl, hidle]
              nofun)
            announced := h.announced }
  | stop heffect _ _ hsame =>
    rw [heffect]
    exact { h with phase := hphase hsame, control := hcontrol }

lemma Joined.move_dispatch (h : s.Joined) (hbusy : s.dispatchJoined = false)
    (stage : DispatchStage) : { s with dispatch := stage }.Joined :=
  { h with
    unstarted := fun hstarted => by
      have habsent := (h.unstarted hstarted).1
      rw [dispatchJoined, habsent] at hbusy
      cases hbusy
    dispatch := fun hpast => .inr ((h.dispatch hpast).resolve_left (by simp [hbusy])) }

/-- A step of the dispatch thread; `tells` is the `callback_failed` of the delivery. -/
inductive Dispatches (s : SubscriptionState) : SubscriptionState → Prop
  | throws : s.dispatch = .working ∨ s.dispatch = .draining →
    Dispatches s { s with dispatch := .failing }
  | tells {terminal} : s.dispatch = .failing → terminal ≠ .none →
    Dispatches s { s with terminal := terminal, dispatch := .storing }
  | stores : s.dispatch = .storing →
    Dispatches s { s.transition .failed callbackError with dispatch := .stopping }
  | stops : s.dispatch = .stopping → Dispatches s { s with running := false, dispatch := .draining }
  | exits : s.dispatch = .working ∨ s.dispatch = .draining →
    Dispatches s { s with dispatch := .finished s.dispatch.hasFailed }

lemma setTerminal_terminal (s : SubscriptionState) (terminal : Terminal)
    (h : terminal ≠ .none) : (s.setTerminal terminal).terminal ≠ .none := by
  unfold setTerminal
  split_ifs with hnone
  · exact h
  · exact hnone

lemma dispatches {input : DispatchInput} (hs : s.dispatchStep input = some s') :
    s.Dispatches s' := by
  cases input with
  | throw =>
    rw [dispatchStep, Option.ite_none_right_eq_some] at hs
    obtain ⟨hlooping, rfl⟩ := hs.imp_right Option.some.inj
    exact .throws (hlooping.imp_right And.left)
  | exit =>
    rw [dispatchStep, Option.ite_none_right_eq_some] at hs
    obtain ⟨⟨-, hlooping⟩, rfl⟩ := hs.imp_right Option.some.inj
    exact .exits hlooping
  | go =>
    simp only [dispatchStep] at hs
    split at hs <;> cases hs
    case h_1 hstage =>
      have hset := s.setTerminal_terminal .callbackFailed (by simp)
      rw [setTerminal_eq] at hset ⊢
      exact .tells hstage hset
    case h_2 hstage => exact .stores hstage
    case h_3 hstage => exact .stops hstage

lemma Dispatches.view (h : s.Dispatches s') :
    s'.config = s.config ∧ s'.memory = s.memory ∧ s'.control = s.control := by
  cases h <;> exact ⟨rfl, rfl, rfl⟩

lemma Dispatches.joined (h : s.Joined) (hmoves : s.Dispatches s') : s'.Joined := by
  cases hmoves with
  | tells hstage | stores hstage | stops hstage =>
    exact { h.move_dispatch (by simp [dispatchJoined, hstage]) _ with }
  | throws hstage | exits hstage =>
    refine h.move_dispatch ?_ _
    rcases hstage with hstage | hstage <;> simp [dispatchJoined, hstage]

lemma Joined.move_close (h : s.Joined) (hstarted : s.controlStarted = true)
    (hopen : s.closing ≠ .complete) (stage : CloseStage)
    (hcontrol : stage.pastControl = true →
      s.control = .leave .finished ∨ s.controlDetached = true)
    (hdispatch : stage.pastDispatch = true →
      s.dispatchJoined = true ∨ s.dispatchDetached = true) :
    { s with closing := stage }.Joined :=
  { h with
    unstarted := fun hunstarted => by
      rw [show s.controlStarted = false from hunstarted] at hstarted
      cases hstarted
    control := hcontrol
    dispatch := hdispatch
    announced := fun ha => absurd (h.announced ha) hopen }

lemma closeStep_joined {expired : Bool} (h : s.Joined)
    (hs : s.closeStep expired = some (s', events)) : s'.Joined := by
  unfold closeStep at hs
  split at hs
  case h_1 hstage =>
    rw [Option.ite_none_right_eq_some] at hs
    obtain ⟨hbegun, heq⟩ := hs
    cases heq
    exact h.move_close hbegun (by simp [hstage]) _ nofun nofun
  case h_2 hstage =>
    cases hs
    exact { h.move_close (h.closing_started (by simp [hstage])) (by simp [hstage]) .stopped nofun
      nofun with }
  case h_3 hstage =>
    cases hs
    rw [setTerminal_eq]
    exact { h.move_close (h.closing_started (by simp [hstage])) (by simp [hstage]) .joinControl
      nofun nofun with }
  case h_4 hstage =>
    have hstarted := h.closing_started (by simp [hstage])
    split_ifs at hs with hfinished hexpired
    · cases hs
      exact h.move_close hstarted (by simp [hstage]) _ (fun _ => .inl hfinished) nofun
    · cases hs
      have hdetached : { s with controlDetached := true }.Joined :=
        { h with control := fun _ => .inr rfl }
      exact hdetached.move_close hstarted (by simp [hstage]) _ (fun _ => .inr rfl) nofun
  case h_5 hstage =>
    have hstarted := h.closing_started (by simp [hstage])
    have hcontrol := h.control (by rw [hstage]; rfl)
    split_ifs at hs with hjoined hexpired
    · cases hs
      exact h.move_close hstarted (by simp [hstage]) _ (fun _ => hcontrol) (fun _ => .inl hjoined)
    · cases hs
      have hdetached : { s with dispatchDetached := true }.Joined :=
        { h with dispatch := fun _ => .inr rfl }
      exact hdetached.move_close hstarted (by simp [hstage]) _ (fun _ => hcontrol) (fun _ => .inr rfl)
  case h_6 hstage =>
    have hmoved : { s with closing := .store }.Joined :=
      h.move_close (h.closing_started (by simp [hstage])) (by simp [hstage]) _
        (fun _ => h.control (by rw [hstage]; rfl)) (fun _ => h.dispatch (by rw [hstage]; rfl))
    split_ifs at hs
    · cases hs
      exact { hmoved with }
    · cases hs
      exact hmoved
  case h_7 hstage =>
    cases hs
    exact { h.move_close (h.closing_started (by simp [hstage])) (by simp [hstage]) .complete
      (fun _ => h.control (by rw [hstage]; rfl)) (fun _ => h.dispatch (by rw [hstage]; rfl)) with
      announced := fun _ => rfl }
  case h_8 => cases hs

lemma interruptStep_joined {call : InterruptCall} (h : s.Joined)
    (hs : s.interruptStep call = some s') : s'.Joined := by
  cases call with
  | flag | stop =>
    rw [interruptStep, Option.ite_none_right_eq_some] at hs
    obtain ⟨-, rfl⟩ := hs.imp_right Option.some.inj
    exact { h with }
  | delivery =>
    rw [interruptStep, Option.ite_none_right_eq_some] at hs
    obtain ⟨-, rfl⟩ := hs.imp_right Option.some.inj
    rw [setTerminal_eq]
    exact { h with }

/-! ### What is published -/

/-- Who may still publish a state after a failure and after the end. -/
structure Settled (s : SubscriptionState) : Prop where
  joined : s.Joined
  failed : s.state = .failed → s.control.left = true ∨ s.dispatch.hasFailed = true
  closed : s.announced = true → s.state = .closed

lemma create_settled (config : SubscriberConfig) : (create config).Settled where
  joined := create_joined config
  failed := nofun
  closed := nofun

lemma Settled.quiet (h : s.Settled) (hjoined : s'.Joined) (hstate : s'.state = s.state)
    (hannounced : s'.announced = s.announced) (hleft : s.control.left = true → s'.control.left = true)
    (hfailed : s.dispatch.hasFailed = true → s'.dispatch.hasFailed = true) :
    s'.Settled ∧ s.Absorbs s' :=
  ⟨⟨hjoined, fun hf => (h.failed (hstate.symm.trans hf)).imp hleft hfailed,
      fun ha => hstate.trans (h.closed (hannounced.symm.trans ha))⟩,
    ⟨fun hf => .inl (hstate.trans hf), fun ha => hstate.trans (h.closed ha)⟩⟩

lemma controlStep_settled (h : s.Settled)
    (hok : s.Unraced (.control input)) (hs : s.controlStep input = some (s', events)) :
    s'.Settled ∧ s.Absorbs s' := by
  have hjoined := controlStep_joined h.joined hs
  obtain ⟨r, hmoves, hr, rfl, -⟩ := controlStep_moves hs
  cases hmoves with
  | quiet heffect _ hstays =>
    rw [heffect] at hjoined ⊢
    exact h.quiet hjoined rfl rfl hstays id
  | store state error heffect hstores hleaves _ _ =>
    rw [heffect] at hjoined ⊢
    obtain ⟨hattached, hrace⟩ := hok state hstores
    have hopen : s.announced ≠ true := fun ha => by
      have hpast := congrArg CloseStage.pastControl (h.joined.announced ha)
      rw [h.joined.control_detached hpast hr] at hattached
      cases hattached
    refine ⟨⟨hjoined, fun hfailed => .inl (hleaves.trans (decide_eq_true hfailed)),
      fun ha => absurd ha hopen⟩, ⟨fun hfailed => ?_, fun ha => absurd ha hopen⟩⟩
    obtain hleft | hthrown := h.failed hfailed
    · rw [ControlStage.stores_of_left hleft] at hstores
      cases hstores
    · exact .inl (hrace.resolve_right (by simp [hthrown]))
  | fail error heffect _ hstays =>
    rw [heffect, apply, setTerminal_eq] at hjoined ⊢
    exact h.quiet hjoined rfl rfl (fun hleft => by simp [hstays] at hleft) id
  | start heffect hstage =>
    have hunstarted : s.controlStarted = false := by rw [h.joined.phase, hstage]; rfl
    have habsent := (h.joined.unstarted hunstarted).1
    rw [heffect] at hjoined ⊢
    exact h.quiet hjoined rfl rfl (fun hleft => by rw [hstage] at hleft; cases hleft)
      (fun hfailed => by rw [habsent] at hfailed; cases hfailed)
  | stop heffect _ hnext _ _ =>
    rw [heffect] at hjoined ⊢
    exact h.quiet hjoined rfl rfl (fun _ => hnext) id

lemma Dispatches.settled (h : s.Settled) (hok : s.dispatch = .storing → s.dispatchDetached = false)
    (hmoves : s.Dispatches s') : s'.Settled ∧ s.Absorbs s' := by
  have hjoined := hmoves.joined h.joined
  cases hmoves with
  | throws | tells | stops => exact h.quiet hjoined rfl rfl id (fun _ => rfl)
  | stores hstage =>
    have hopen : s.announced ≠ true := fun ha => by
      have hpast := congrArg CloseStage.pastDispatch (h.joined.announced ha)
      obtain hover | hdetached := h.joined.dispatch hpast
      · rw [dispatchJoined, hstage] at hover
        cases hover
      · rw [hok hstage] at hdetached
        cases hdetached
    exact ⟨⟨hjoined, fun _ => .inr rfl, fun ha => absurd ha hopen⟩,
      ⟨fun _ => .inl rfl, fun ha => absurd ha hopen⟩⟩
  | exits => exact h.quiet hjoined rfl rfl id (fun hfailed => by rw [hfailed]; rfl)

/-- What a step of `close` leaves alone. Only its last one publishes, and only the one after the
waits may close the session. -/
structure Closes (s s' : SubscriptionState) (events : List ControlEvent) : Prop where
  closing : s'.closing ≠ .idle
  config : s'.config = s.config
  interrupted : s'.interrupted = s.interrupted
  control : s'.control = s.control
  dispatch : s'.dispatch = s.dispatch
  terminal : s.terminal ≠ .none → s'.terminal ≠ .none
  memory : (s'.memory = s.memory ∧ events = []) ∨
    s.closing = .closeSession ∧ (s.controlStarted = false ∨ s.controlDetached = false) ∧
      s.memory.closeSession true = (s'.memory, events)
  state : (s'.state = s.state ∧ s'.announced = s.announced) ∨
    (s'.state = .closed ∧ s'.announced = true)

lemma closeStep_closes {expired : Bool}
    (hs : s.closeStep expired = some (s', events)) : s.Closes s' events := by
  unfold closeStep at hs
  split at hs
  case h_1 =>
    obtain ⟨-, rfl, rfl⟩ := of_guard hs
    exact ⟨nofun, rfl, rfl, rfl, rfl, id, .inl ⟨rfl, rfl⟩, .inl ⟨rfl, rfl⟩⟩
  case h_2 =>
    cases hs
    exact ⟨nofun, rfl, rfl, rfl, rfl, id, .inl ⟨rfl, rfl⟩, .inl ⟨rfl, rfl⟩⟩
  case h_3 =>
    cases hs
    have hset := s.setTerminal_terminal .closed nofun
    rw [setTerminal_eq] at hset ⊢
    exact ⟨nofun, rfl, rfl, rfl, rfl, fun _ => hset, .inl ⟨rfl, rfl⟩, .inl ⟨rfl, rfl⟩⟩
  case h_4 | h_5 =>
    split_ifs at hs
    all_goals
      cases hs
      exact ⟨nofun, rfl, rfl, rfl, rfl, id, .inl ⟨rfl, rfl⟩, .inl ⟨rfl, rfl⟩⟩
  case h_6 hstage =>
    split_ifs at hs with hlate
    · cases hs
      have hthread : s.controlStarted = false ∨ s.controlDetached = false := by
        simpa using hlate.imp_right And.right
      exact ⟨nofun, rfl, rfl, rfl, rfl, id, .inr ⟨hstage, hthread, rfl⟩, .inl ⟨rfl, rfl⟩⟩
    · cases hs
      exact ⟨nofun, rfl, rfl, rfl, rfl, id, .inl ⟨rfl, rfl⟩, .inl ⟨rfl, rfl⟩⟩
  case h_7 =>
    cases hs
    exact ⟨nofun, rfl, rfl, rfl, rfl, id, .inl ⟨rfl, rfl⟩, .inr ⟨rfl, rfl⟩⟩
  case h_8 => cases hs

lemma Closes.session (h : s.Closes s' events) (hjoined : s.Joined) :
    (s'.memory = s.memory ∧ events = []) ∨
      s.control = .leave .finished ∧ s.memory.closeSession true = (s'.memory, events) := by
  obtain hsame | ⟨hstage, hthread, hclosed⟩ := h.memory
  · exact .inl hsame
  · have hstarted := hjoined.closing_started (by rw [hstage]; nofun)
    have hattached := hthread.resolve_left (by rw [hstarted]; nofun)
    have hover := hjoined.control (by rw [hstage]; rfl)
    exact .inr ⟨hover.resolve_right (by rw [hattached]; nofun), hclosed⟩

lemma closeStep_settled {expired : Bool} (h : s.Settled)
    (hs : s.closeStep expired = some (s', events)) : s'.Settled ∧ s.Absorbs s' := by
  have hjoined := closeStep_joined h.joined hs
  have hcloses := closeStep_closes hs
  obtain ⟨hstate, hannounced⟩ | ⟨hclosed, -⟩ := hcloses.state
  · exact h.quiet hjoined hstate hannounced (by rw [hcloses.control]; exact id)
      (by rw [hcloses.dispatch]; exact id)
  · have hunfailed : s'.state ≠ .failed := by rw [hclosed]; nofun
    exact ⟨⟨hjoined, fun hfailed => absurd hfailed hunfailed, fun _ => hclosed⟩,
      ⟨fun _ => .inr hclosed, fun _ => hclosed⟩⟩

/-- What a step of `interrupt` leaves alone. -/
structure Interrupts (s s' : SubscriptionState) : Prop where
  flag : s'.interrupted = true
  config : s'.config = s.config
  closing : s'.closing = s.closing
  control : s'.control = s.control
  dispatch : s'.dispatch = s.dispatch
  terminal : s.terminal ≠ .none → s'.terminal ≠ .none
  memory : s'.memory = s.memory
  state : s'.state = s.state
  announced : s'.announced = s.announced

lemma interruptStep_interrupts {call : InterruptCall} (hs : s.interruptStep call = some s') :
    s.Interrupts s' := by
  cases call with
  | flag =>
    rw [interruptStep, Option.ite_none_right_eq_some] at hs
    obtain ⟨-, rfl⟩ := hs.imp_right Option.some.inj
    exact ⟨rfl, rfl, rfl, rfl, rfl, id, rfl, rfl, rfl⟩
  | stop =>
    rw [interruptStep, Option.ite_none_right_eq_some] at hs
    obtain ⟨hflag, rfl⟩ := hs.imp_right Option.some.inj
    exact ⟨hflag, rfl, rfl, rfl, rfl, id, rfl, rfl, rfl⟩
  | delivery =>
    rw [interruptStep, Option.ite_none_right_eq_some] at hs
    obtain ⟨hflag, rfl⟩ := hs.imp_right Option.some.inj
    have hset := s.setTerminal_terminal .interrupted nofun
    rw [setTerminal_eq] at hset ⊢
    exact ⟨hflag, rfl, rfl, rfl, rfl, fun _ => hset, rfl, rfl, rfl⟩

lemma interruptStep_settled {call : InterruptCall} (h : s.Settled)
    (hs : s.interruptStep call = some s') : s'.Settled ∧ s.Absorbs s' := by
  have hjoined := interruptStep_joined h.joined hs
  have hcall := interruptStep_interrupts hs
  exact h.quiet hjoined hcall.state hcall.announced (by rw [hcall.control]; exact id)
    (by rw [hcall.dispatch]; exact id)

lemma step_settled {i : SubscriptionInput} (h : s.Settled)
    (hok : s.Unraced i) (hs : s.step i = some (s', events)) : s'.Settled ∧ s.Absorbs s' := by
  cases i with
  | control => exact controlStep_settled h hok hs
  | dispatch =>
    obtain ⟨hnext, -⟩ := of_map_eq hs
    exact (dispatches hnext).settled h hok
  | close => exact closeStep_settled h hs
  | interrupt =>
    obtain ⟨hnext, -⟩ := of_map_eq hs
    exact interruptStep_settled h hnext

lemma settled_of_reaches {config : SubscriberConfig} {trace : List ControlEvent}
    (h : subscriptionMachine.Reaches Unraced (create config) trace s) : s.Settled :=
  h.invariant Settled (create_settled config) fun _ _ _ _ hsettled hok hs =>
    (step_settled hsettled hok hs).1

end SubscriptionState

/-! ### Runs -/

/-- A grant of a session with the given geometry. -/
def grantMessage (geometry : GeometryBlock) : OpenReply where
  versionSelected := 1
  status := .ok
  grantedCaps := 0
  sessionId := .zero
  streamId := 1
  leaseTtlMs := 10000
  renewIntervalMs := 3333
  transportSelected := .activeMessage
  serverEpochId := 1
  geometry := geometry
  serverUcxAddress := [1]

def grantReply (geometry : GeometryBlock) (correlationId : UInt64) : Bytes :=
  (encodeOpenReply (grantMessage geometry) correlationId).toOption.getD []

/-- Four bytes in a ring of two frames. -/
def smallGeometry : GeometryBlock where
  generation := 1
  elementType := .uInt8
  elementSize := 1
  rank := 1
  maxFrameBytes := 4096
  ringDepth := 2
  creditWindow := 1
  shape := Dims.zero.store 0 4
  strides := Dims.zero.store 0 1

/-- From the store of `opening` to the reply of the channel. -/
def askInputs : List SubscriptionInput :=
  [.control .go, .control .go, .control (.built none), .control (.asked [1] .zero)]

/-- From the reply to the session's loop. -/
def adoptInputs (reply : Bytes) : List SubscriptionInput :=
  [.control (.replied reply), .control (.activated none), .control .go,
    .control (.observed .active noError false), .control .go, .control .go]

/-- The transport of an open session fails, and the loop of `reconnect` has an attempt left. -/
def loseInputs : List SubscriptionInput :=
  [.control .go, .control .go, .control .go, .control (.observed .failed noError false),
    .control .go, .control .go, .control .go, .control .go]

/-- From the store of `reconnecting` to the store of `opening`. -/
def backoffInputs : List SubscriptionInput := [.control .go, .control .go, .control .go]

/-- In a run without races the terminal states are final. -/
theorem terminal_states_absorbing {config : SubscriberConfig} {trace : List ControlEvent}
    {s s' : SubscriptionState} {i : SubscriptionInput} {events : List ControlEvent}
    (hreach : subscriptionMachine.Reaches SubscriptionState.Unraced (.create config) trace s)
    (hok : s.Unraced i) (hs : subscriptionMachine.step s i = some (s', events)) : s.Absorbs s' :=
  (SubscriptionState.step_settled (SubscriptionState.settled_of_reaches hreach) hok hs).2

/-- A session that is not to be reopened fails, and the application closes. -/
theorem terminal_states_absorbing_sample :
    ∃ trace s s' events, subscriptionMachine.Reaches SubscriptionState.Unraced
        (.create { streamName := [97], reconnectPolicy := .failFast }) trace s ∧
      s.state = .failed ∧ subscriptionMachine.step s (.close false) = some (s', events) ∧
      s.Absorbs s' := by
  obtain ⟨trace, s, hreach, hfailed, hsome⟩ := subscriptionMachine.exists_of_run
    SubscriptionState.Unraced (.create { streamName := [97], reconnectPolicy := .failFast })
    (askInputs ++ adoptInputs (grantReply smallGeometry 1) ++ loseInputs ++
      [SubscriptionInput.control .go, .control .go, .control .go, .control .go, .close false,
        .close false, .close false, .close false, .dispatch .exit, .close false, .close false])
    (P := fun s _ => s.state = .failed ∧ (subscriptionMachine.step s (.close false)).isSome)
    (by decide +kernel)
  obtain ⟨⟨s', events⟩, hs⟩ := Option.isSome_iff_exists.mp hsome
  have hok : s.Unraced (.close false) := trivial
  exact ⟨trace, s, s', events, hreach, hfailed, hs, terminal_states_absorbing hreach hok hs⟩

/-- The callback throws while the control thread is about to publish `reconnecting`: the failure
is overwritten. The control thread is inside the channel when `close` gives up on it: so is the
end. -/
theorem terminal_states_overwritten :
    (∃ trace s, subscriptionMachine.Reaches anyStep (.create { streamName := [97] }) trace s ∧
      s.state = .failed ∧
      ∃ r ∈ subscriptionMachine.step s (.control .go), r.1.state = .reconnecting) ∧
    ∃ trace s, subscriptionMachine.Reaches anyStep (.create { streamName := [97] }) trace s ∧
      (s.announced = true ∧ s.state = .closed) ∧
      ∃ r ∈ subscriptionMachine.step s (.control .go), r.1.state = .probing := by
  constructor
  · exact subscriptionMachine.exists_of_run anyStep _
      (askInputs ++ adoptInputs (grantReply smallGeometry 1) ++ loseInputs ++
        [SubscriptionInput.dispatch .throw, .dispatch .go, .dispatch .go])
      (P := fun s _ => s.state = .failed ∧
        ∃ r ∈ subscriptionMachine.step s (.control .go), r.1.state = .reconnecting)
      (by decide +kernel)
  · exact subscriptionMachine.exists_of_run anyStep _
      (askInputs ++ adoptInputs (grantReply smallGeometry 1) ++ loseInputs ++ backoffInputs ++
        askInputs ++ [SubscriptionInput.close false, .close false, .close false, .close true,
          .dispatch .exit, .close false, .close false, .close false,
          .control (.replied (grantReply smallGeometry 3)), .control (.activated none)])
      (by decide +kernel)

end TangoBulk
