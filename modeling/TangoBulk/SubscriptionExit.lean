import TangoBulk.SubscriptionStates

/-! How the control loop of a subscription ends: on request, or with a failure that is published
and told to every reader. -/
namespace TangoBulk

open ByteString Transition

/-! ### The attempts -/

namespace ControlStage

/-- The loop of `reconnect` has an attempt left that it has not begun. -/
def hasAttempt : ControlStage → Bool
  | .reconnect (.storeReconnecting _) | .reconnect .backoff | .reconnect .woken => true
  | _ => false

/-- An attempt has begun whose Open has not. -/
def begun : ControlStage → Bool
  | .reconnect .storeOpening | .opening .reconnect .makeIngress => true
  | _ => false

/-- The thread is in the loop of `reconnect`. -/
def retrying : ControlStage → Bool
  | .opening .reconnect _ | .reconnect (.attempt _) | .reconnect (.storeReconnecting _)
  | .reconnect .backoff | .reconnect .woken | .reconnect .storeOpening
  | .reconnect (.openFailed _) => true
  | _ => false

/-- `reconnect` has its new session. -/
def reopened : ControlStage → Bool
  | .reconnect .opened => true
  | _ => false

lemma ne_opened {stage : ControlStage} (h : stage.reopened = false) :
    stage ≠ .reconnect .opened := by
  rintro rfl
  cases h

lemma stores_ne_closed (stage : ControlStage) : stage.stores ≠ some .closed := by
  unfold stores
  split <;> simp

lemma begun_opening {caller : OpenCaller} {stage : OpenStage} (h : stage ≠ .makeIngress) :
    (opening caller stage).begun = false := by
  cases caller with
  | factory => rfl
  | reconnect =>
    cases stage with
    | makeIngress => exact absurd rfl h
    | _ => rfl

end ControlStage

/-- The Opens since the last active session are attempts, and the attempts are bounded. -/
structure Counted (config : SubscriberConfig) (memory : SessionMemory) (stage : ControlStage) :
    Prop where
  attempt : memory.attempt ≤ config.reconnectMaxAttempts.toNat
  opens : memory.opens + stage.begun.toNat ≤ memory.attempt
  spare : stage.hasAttempt = true → memory.attempt < config.reconnectMaxAttempts.toNat
  policy : stage.retrying = true → config.reconnectPolicy = .boundedRetry
  fresh : stage = .reconnect .opened → memory.opens = 0

namespace SessionMemory

/-- The Close of a session and the retirement of its transport leave the counters alone. -/
structure SameCounts (m m' : SessionMemory) : Prop where
  attempt : m'.attempt = m.attempt
  opens : m'.opens = m.opens

lemma handClose_counts (m : SessionMemory) (session : ClientSession) :
    m.SameCounts (m.handClose session).1 := by
  obtain ⟨request, -, heq⟩ := m.handClose_eq session
  rw [heq]
  exact ⟨rfl, rfl⟩

lemma publishTransport_counts (m : SessionMemory) (next discardQueued : Bool) :
    m.SameCounts (m.publishTransport next discardQueued).1 := by
  unfold publishTransport
  split_ifs <;> exact ⟨rfl, rfl⟩

lemma SameCounts.trans {m m' m'' : SessionMemory} (h : m.SameCounts m')
    (h' : m'.SameCounts m'') : m.SameCounts m'' :=
  ⟨h'.attempt.trans h.attempt, h'.opens.trans h.opens⟩

lemma closeSession_counts (m : SessionMemory) (discardQueued : Bool) :
    m.SameCounts (m.closeSession discardQueued).1 := by
  unfold closeSession
  split_ifs
  · exact (m.handClose_counts m.session).trans (publishTransport_counts _ false discardQueued)
  · exact publishTransport_counts _ _ _

end SessionMemory

namespace Counted

variable {config : SubscriberConfig} {m m' : SessionMemory} {stage next : ControlStage}

lemma move (h : Counted config m stage) (hm : m.SameCounts m') (hbegun : next.begun = false)
    (hspare : next.hasAttempt = true → stage.hasAttempt = true)
    (hpolicy : next.retrying = true → stage.retrying = true)
    (hfresh : next ≠ .reconnect .opened) : Counted config m' next where
  attempt := by
    rw [hm.attempt]
    exact h.attempt
  opens := by
    have := h.opens
    rw [hm.attempt, hm.opens, hbegun, Bool.toNat_false]
    omega
  spare := by
    rw [hm.attempt]
    exact fun hnext => h.spare (hspare hnext)
  policy := fun hnext => h.policy (hpolicy hnext)
  fresh := fun hnext => absurd hnext hfresh

lemma settle (h : Counted config m stage) (hm : m.SameCounts m') (hbegun : next.begun = false)
    (hspare : next.hasAttempt = false) (hpolicy : next.retrying = false)
    (hfresh : next.reopened = false) : Counted config m' next :=
  h.move hm hbegun (fun hnext => absurd hnext (ne_true_of_eq_false hspare))
    (fun hnext => absurd hnext (ne_true_of_eq_false hpolicy)) (ControlStage.ne_opened hfresh)

lemma same (h : Counted config m stage) (hm : m.SameCounts m') : Counted config m' stage where
  attempt := by
    rw [hm.attempt]
    exact h.attempt
  opens := by
    rw [hm.attempt, hm.opens]
    exact h.opens
  spare := by
    rw [hm.attempt]
    exact h.spare
  policy := h.policy
  fresh := by
    rw [hm.opens]
    exact h.fresh

end Counted

namespace ControlView

variable {v : ControlView} {caller : OpenCaller} {i : ControlInput} {r : ControlResult}

/-- The counters after a step of `open_subscription`. -/
lemma openStep_counts {stage : OpenStage} (h : v.openStep caller stage i = some r) :
    (v.memory.SameCounts r.memory ∧ Proceeds caller r.next) ∨
    (stage = .makeIngress ∧ r = v.makeIngress caller) ∨
    (stage = .storeActive ∧ r = v.storeActive caller) := by
  unfold openStep at h
  split at h <;> cases h
  case h_1 => exact .inr (.inl ⟨rfl, rfl⟩)
  case h_12 => exact .inr (.inr ⟨rfl, rfl⟩)
  case h_3 => exact .inl ⟨⟨rfl, rfl⟩, (goTo_within _ _ (by simp)).next⟩
  case h_4 =>
    refine .inl ⟨?_, (ask_within _ _ _ _).next⟩
    unfold ask
    dsimp only
    split <;> exact ⟨rfl, rfl⟩
  case h_7 =>
    refine .inl ⟨?_, (replied_within _ _ _ _).next⟩
    unfold replied
    dsimp only
    split
    case h_1 => exact ⟨rfl, rfl⟩
    case h_2 candidate _ =>
      obtain ⟨request, -, heq⟩ := SessionMemory.handClose_eq _ candidate
      rw [heq]
      exact ⟨rfl, rfl⟩
    case h_3 => exact ⟨rfl, rfl⟩
  case h_8 failure =>
    refine .inl ⟨?_, (activated_within _ _ _).next⟩
    cases failure with
    | some =>
      obtain ⟨request, -, heq⟩ := v.memory.handClose_eq v.memory.session
      simp only [activated, heq]
      exact ⟨rfl, rfl⟩
    | none => exact SessionMemory.publishTransport_counts _ _ _
  case h_9 => exact .inl ⟨⟨rfl, rfl⟩, .inl ⟨_, by simp, rfl⟩⟩
  case h_10 =>
    refine .inl ⟨?_, (probe_within _ _ _ _ _).next⟩
    unfold probe
    dsimp only
    split_ifs <;> exact ⟨rfl, rfl⟩
  case h_11 =>
    exact .inl ⟨SessionMemory.closeSession_counts _ _, (abandon_within _ _ _).next⟩
  all_goals exact .inl ⟨⟨rfl, rfl⟩, (failOpen_within _ _ _ _).next⟩

lemma openStep_counted {stage : OpenStage} (hr : v.openStep caller stage i = some r)
    (h : Counted v.config v.memory (.opening caller stage)) : Counted v.config r.memory r.next := by
  obtain ⟨hcounts, hnext⟩ | ⟨rfl, rfl⟩ | ⟨rfl, rfl⟩ := openStep_counts hr
  · obtain ⟨stage', hstage, hnext⟩ | ⟨error, hnext⟩ := hnext
    · rw [hnext]
      refine h.move hcounts (ControlStage.begun_opening hstage) (by simp [ControlStage.hasAttempt])
        ?_ (by simp)
      cases caller <;> exact id
    · rw [hnext]
      cases caller with
      | factory attempt => exact h.settle hcounts rfl rfl rfl rfl
      | reconnect =>
        exact h.move hcounts rfl (fun hnext => absurd hnext Bool.false_ne_true) (fun _ => rfl)
          (ControlStage.ne_opened rfl)
  · cases caller with
    | factory attempt => exact h.settle ⟨rfl, rfl⟩ rfl rfl rfl rfl
    | reconnect =>
      exact { h with opens := h.opens, spare := Bool.false_ne_true.elim
                     fresh := (ControlStage.ne_opened rfl).elim }
  · cases caller with
    | factory =>
      exact { h with opens := Nat.zero_le _, spare := Bool.false_ne_true.elim
                     policy := Bool.false_ne_true.elim, fresh := (ControlStage.ne_opened rfl).elim }
    | reconnect =>
      exact { h with opens := Nat.zero_le _, spare := Bool.false_ne_true.elim
                     policy := Bool.false_ne_true.elim, fresh := fun _ => rfl }

lemma factoryStep_counted {stage : FactoryStage} (hr : v.factoryStep stage i = some r)
    (h : Counted v.config v.memory (.factory stage)) : Counted v.config r.memory r.next := by
  unfold factoryStep at hr
  split at hr <;> cases hr
  case h_2 =>
    unfold retry
    split_ifs <;> exact h.settle ⟨rfl, rfl⟩ rfl rfl rfl rfl
  case h_4 =>
    unfold retryBackoff
    dsimp only
    split_ifs <;> exact h.settle ⟨rfl, rfl⟩ rfl rfl rfl rfl
  case h_9 => exact h.settle (SessionMemory.closeSession_counts _ _) rfl rfl rfl rfl
  all_goals exact h.settle ⟨rfl, rfl⟩ rfl rfl rfl rfl

lemma whileRunning_counted {stage next : ControlStage} (h : Counted v.config v.memory stage)
    (hnext : Counted v.config v.memory next) :
    Counted v.config (v.whileRunning next).memory (v.whileRunning next).next := by
  obtain hgo | ⟨-, hgo⟩ := v.whileRunning_next next
  · rw [hgo]
    exact hnext
  · rw [hgo]
    exact h.settle ⟨rfl, rfl⟩ rfl rfl rfl rfl

lemma sessionStep_counted {stage : SessionStage} (hr : v.sessionStep stage i = some r)
    (h : Counted v.config v.memory (.session stage)) : Counted v.config r.memory r.next := by
  unfold sessionStep at hr
  split at hr <;> first | (obtain rfl := Option.some.inj hr) | cases hr
  case h_4 =>
    unfold look
    split_ifs <;> exact h.settle ⟨rfl, rfl⟩ rfl rfl rfl rfl
  case h_5 =>
    unfold renew
    dsimp only
    split <;> exact h.settle ⟨rfl, rfl⟩ rfl rfl rfl rfl
  case h_6 | h_7 => exact h.settle ⟨rfl, rfl⟩ rfl rfl rfl rfl
  case h_8 => exact h.settle (SessionMemory.closeSession_counts _ _) rfl rfl rfl rfl
  all_goals exact whileRunning_counted h (h.settle ⟨rfl, rfl⟩ rfl rfl rfl rfl)

lemma nextAttempt_counted {error : BulkError}
    (h : Counted v.config v.memory (.reconnect (.attempt error))) :
    Counted v.config v.memory (.reconnect (v.nextAttempt error)) := by
  unfold nextAttempt
  split_ifs with hspent
  · exact h.settle ⟨rfl, rfl⟩ rfl rfl rfl rfl
  · exact { h with spare := fun _ => Nat.not_le.mp hspent, policy := fun _ => h.policy rfl
                   fresh := (ControlStage.ne_opened rfl).elim }

lemma reconnectStep_counted {stage : ReconnectStage} (hr : v.reconnectStep stage i = some r)
    (h : Counted v.config v.memory (.reconnect stage)) : Counted v.config r.memory r.next := by
  unfold reconnectStep at hr
  split at hr <;> cases hr
  case h_1 =>
    simp only [goTo]
    split_ifs with hpolicy
    · exact { h with spare := Bool.false_ne_true.elim, policy := fun _ => hpolicy
                     fresh := (ControlStage.ne_opened rfl).elim }
    · exact h.settle ⟨rfl, rfl⟩ rfl rfl rfl rfl
  case h_2 => exact whileRunning_counted h (nextAttempt_counted h)
  case h_3 => exact h.move ⟨rfl, rfl⟩ rfl (fun _ => rfl) (fun _ => rfl) (ControlStage.ne_opened rfl)
  case h_4 =>
    unfold backoff
    split_ifs
    · exact h.move ⟨rfl, rfl⟩ rfl (fun _ => rfl) (fun _ => rfl) (ControlStage.ne_opened rfl)
    · exact h.settle ⟨rfl, rfl⟩ rfl rfl rfl rfl
  case h_5 =>
    unfold backoffWoken
    split_ifs
    · exact { attempt := h.spare rfl
              opens := Nat.succ_le_succ h.opens
              spare := Bool.false_ne_true.elim
              policy := fun _ => h.policy rfl
              fresh := (ControlStage.ne_opened rfl).elim }
    · exact h.settle ⟨rfl, rfl⟩ rfl rfl rfl rfl
  case h_6 =>
    exact { h with opens := h.opens, spare := Bool.false_ne_true.elim, policy := fun _ => h.policy rfl
                   fresh := (ControlStage.ne_opened rfl).elim }
  case h_7 =>
    exact { attempt := Nat.zero_le _
            opens := (h.fresh rfl).le
            spare := Bool.false_ne_true.elim
            policy := Bool.false_ne_true.elim
            fresh := (ControlStage.ne_opened rfl).elim }
  case h_8 =>
    simp only [goTo]
    split_ifs
    · exact h.settle ⟨rfl, rfl⟩ rfl rfl rfl rfl
    · exact h.move ⟨rfl, rfl⟩ rfl (fun hnext => absurd hnext Bool.false_ne_true) (fun _ => rfl)
        (ControlStage.ne_opened rfl)
  all_goals exact h.settle ⟨rfl, rfl⟩ rfl rfl rfl rfl

lemma leaveStep_counted {stage : LeaveStage} (hr : v.leaveStep stage i = some r)
    (h : Counted v.config v.memory (.leave stage)) : Counted v.config r.memory r.next := by
  unfold leaveStep at hr
  split at hr <;> cases hr
  case h_2 => exact h.settle (SessionMemory.closeSession_counts _ _) rfl rfl rfl rfl
  all_goals exact h.settle ⟨rfl, rfl⟩ rfl rfl rfl rfl

lemma program_counted {stage : ControlStage} (hr : v.program i stage = some r)
    (h : Counted v.config v.memory stage) : Counted v.config r.memory r.next := by
  cases stage with
  | factory => exact factoryStep_counted hr h
  | opening => exact openStep_counted hr h
  | session => exact sessionStep_counted hr h
  | reconnect => exact reconnectStep_counted hr h
  | leave => exact leaveStep_counted hr h

end ControlView

/-! ### The way out -/

/-- `fail_delivery` has told the delivery. -/
def DispatchStage.hasTold : DispatchStage → Bool
  | .storing | .stopping | .draining | .finished true => true
  | _ => false

/-- `fail_delivery` has published the failure. -/
def DispatchStage.hasPublished : DispatchStage → Bool
  | .stopping | .draining | .finished true => true
  | _ => false

namespace SubscriptionState

/-- Somebody asked the subscription to end. -/
def Requested (s : SubscriptionState) : Prop := s.closing ≠ .idle ∨ s.interrupted = true

/-- The failure is published, and the delivery tells every reader. -/
def Told (s : SubscriptionState) : Prop := s.state = .failed ∧ s.terminal ≠ .none

/-- What no step takes back. -/
structure Grows (s s' : SubscriptionState) : Prop where
  closing : s.closing ≠ .idle → s'.closing ≠ .idle
  interrupted : s.interrupted = true → s'.interrupted = true
  terminal : s.terminal ≠ .none → s'.terminal ≠ .none
  closed : s'.state = .closed → s.state = .closed ∨ s'.closing ≠ .idle

variable {s s' : SubscriptionState}

lemma setTerminal_grows (s : SubscriptionState) (terminal : Terminal) (h : terminal ≠ .none) :
    s.Grows (s.setTerminal terminal) := by
  have hset := s.setTerminal_terminal terminal h
  rw [setTerminal_eq] at hset ⊢
  exact ⟨id, id, fun _ => hset, .inl⟩

variable {events : List ControlEvent}

lemma controlStep_grows {input : ControlInput} (hs : s.controlStep input = some (s', events)) :
    s.Grows s' := by
  obtain ⟨r, hmoves, -, rfl, -⟩ := controlStep_moves hs
  cases hmoves with
  | quiet heffect =>
    rw [heffect]
    exact ⟨id, id, id, .inl⟩
  | store state error heffect hstores =>
    rw [heffect]
    refine ⟨id, id, id, fun hclosed => ?_⟩
    rw [show state = .closed from hclosed] at hstores
    exact absurd hstores (ControlStage.stores_ne_closed _)
  | fail error heffect =>
    rw [heffect]
    obtain ⟨hclosing, hinterrupted, hterminal, hclosed⟩ := setTerminal_grows
      { s with control := r.next, memory := r.memory } .sessionFailed (by simp)
    exact ⟨hclosing, hinterrupted, hterminal, hclosed⟩
  | start heffect | stop heffect =>
    rw [heffect]
    exact ⟨id, id, id, .inl⟩

lemma Dispatches.grows (h : s.Dispatches s') : s.Grows s' := by
  cases h with
  | tells _ hset => exact ⟨id, id, fun _ => hset, .inl⟩
  | stores => exact ⟨id, id, id, by simp [transition]⟩
  | _ => exact ⟨id, id, id, .inl⟩

lemma Closes.counts (h : s.Closes s' events) : s.memory.SameCounts s'.memory := by
  obtain ⟨hsame, -⟩ | ⟨-, -, hclosed⟩ := h.memory
  · rw [hsame]
    exact ⟨rfl, rfl⟩
  · have := s.memory.closeSession_counts true
    rwa [hclosed] at this

lemma Grows.outcome (hgrows : s.Grows s') (habsorbs : s.Absorbs s')
    (h : s.Requested ∨ s.Told) : s'.Requested ∨ s'.Told := by
  obtain (hclosing | hinterrupted) | ⟨hfailed, hterminal⟩ := h
  · exact .inl (.inl (hgrows.closing hclosing))
  · exact .inl (.inr (hgrows.interrupted hinterrupted))
  · obtain hstill | hclosed := habsorbs.failed hfailed
    · exact .inr ⟨hstill, hgrows.terminal hterminal⟩
    · obtain hwas | hclosing := hgrows.closed hclosed
      · rw [hfailed] at hwas
        cases hwas
      · exact .inl (.inl hclosing)

/-- Whoever has ended, has ended on request or aloud. -/
structure Accounted (config : SubscriberConfig) (s : SubscriptionState) : Prop where
  config : s.config = config
  stopped : s.running = false → s.Requested ∨ s.Told
  left : s.control.left = true → s.Requested ∨ s.Told
  told : s.control.stores = some .failed → s.terminal ≠ .none
  thrown : s.dispatch.hasTold = true → s.terminal ≠ .none
  published : s.dispatch.hasPublished = true → s.Requested ∨ s.Told
  counted : Counted s.config s.memory s.control

lemma create_accounted (config : SubscriberConfig) : (create config).Accounted config where
  config := rfl
  stopped := Bool.false_ne_true.symm.elim
  left := Bool.false_ne_true.elim
  told := by simp [create, ControlStage.stores]
  thrown := Bool.false_ne_true.elim
  published := Bool.false_ne_true.elim
  counted := ⟨Nat.zero_le _, le_rfl, Bool.false_ne_true.elim, Bool.false_ne_true.elim,
    (ControlStage.ne_opened rfl).elim⟩

/-- The backoff of `reconnect` waits. -/
def Waits (config : SubscriberConfig) : Prop :=
  config.reconnectPolicy = .boundedRetry → config.reconnectMaxAttempts ≠ 0 →
    config.reconnectBackoffMs ≠ 0

variable {config : SubscriberConfig}

lemma Accounted.backoff_waits (hwaits : Waits config) (h : s.Accounted config)
    (hstage : s.control = .reconnect .backoff) : s.config.reconnectBackoffMs ≠ 0 := by
  have hspare := h.counted.spare (by rw [hstage]; rfl)
  have hpolicy := h.counted.policy (by rw [hstage]; rfl)
  rw [h.config] at hspare hpolicy ⊢
  refine hwaits hpolicy fun hzero => ?_
  rw [hzero] at hspare
  exact absurd hspare (Nat.not_lt_zero _)

lemma controlStep_accounted {input : ControlInput} (hwaits : Waits config)
    (h : s.Accounted config) (habsorbs : s.Absorbs s')
    (hs : s.controlStep input = some (s', events)) : s'.Accounted config := by
  have hgrows := controlStep_grows hs
  have hkeep := hgrows.outcome habsorbs
  obtain ⟨r, hmoves, hr, rfl, -⟩ := controlStep_moves hs
  have hcounted : Counted s.config r.memory r.next := ControlView.program_counted hr h.counted
  cases hmoves with
  | quiet heffect _ _ hleaves hunfailed _ =>
    rw [heffect] at hkeep ⊢
    refine { h with
      stopped := fun hstop => hkeep (h.stopped hstop)
      left := fun hleft => hkeep ?_
      told := fun htold => absurd htold hunfailed
      published := fun hpublished => hkeep (h.published hpublished)
      counted := hcounted }
    obtain hstay | hstop | ⟨hstage, hzero⟩ := hleaves hleft
    · exact h.left hstay
    · exact h.stopped hstop
    · exact absurd hzero (h.backoff_waits hwaits hstage)
  | store state error heffect hstores hleaves hunfailed _ =>
    rw [heffect] at hkeep ⊢
    refine { h with
      stopped := fun hstop => hkeep (h.stopped hstop)
      left := fun hleft => .inr ?_
      told := fun htold => absurd htold hunfailed
      published := fun hpublished => hkeep (h.published hpublished)
      counted := hcounted }
    obtain rfl : state = .failed := of_decide_eq_true (hleaves.symm.trans hleft)
    exact ⟨rfl, h.told hstores⟩
  | fail error heffect _ _ hnext _ =>
    have hset := setTerminal_terminal { s with control := r.next, memory := r.memory }
      .sessionFailed (by simp)
    rw [heffect, apply] at hkeep ⊢
    rw [setTerminal_eq] at hkeep hset ⊢
    exact { h with
      stopped := fun hstop => hkeep (h.stopped hstop)
      left := fun hleft => absurd hnext (by simp [ControlStage.stores_of_left hleft])
      told := fun _ => hset
      thrown := fun _ => hset
      published := fun hpublished => hkeep (h.published hpublished)
      counted := hcounted }
  | start heffect _ hnext =>
    rw [heffect] at hkeep ⊢
    have hleft : r.next.left ≠ true := by rw [hnext]; exact Bool.false_ne_true
    have htold : r.next.stores ≠ some .failed := by simp [hnext, ControlStage.stores]
    have hdispatch : s.startThreads.dispatch.hasTold ≠ true ∧
        s.startThreads.dispatch.hasPublished ≠ true := by
      simp only [startThreads]
      split_ifs <;> exact ⟨Bool.false_ne_true, Bool.false_ne_true⟩
    exact { config := h.config
            stopped := fun hstop => hkeep (h.stopped hstop)
            left := fun hl => absurd hl hleft
            told := fun ht => absurd ht htold
            thrown := fun ht => absurd ht hdispatch.1
            published := fun hp => absurd hp hdispatch.2
            counted := hcounted }
  | stop heffect hstays hnext _ _ =>
    rw [heffect] at hkeep ⊢
    have htold : r.next.stores ≠ some .failed := by
      simp [ControlStage.stores_of_left hnext]
    exact { h with
      stopped := fun _ => hkeep (h.left hstays)
      left := fun _ => hkeep (h.left hstays)
      told := fun ht => absurd ht htold
      published := fun hpublished => hkeep (h.published hpublished)
      counted := hcounted }

lemma Dispatches.accounted (h : s.Accounted config) (habsorbs : s.Absorbs s')
    (hmoves : s.Dispatches s') : s'.Accounted config := by
  have hkeep := hmoves.grows.outcome habsorbs
  have hleft : s.control.left = true → s'.Requested ∨ s'.Told := fun hleft => hkeep (h.left hleft)
  have hstopped : s.running = false → s'.Requested ∨ s'.Told := fun hstop => hkeep (h.stopped hstop)
  cases hmoves with
  | throws =>
    exact { h with
      stopped := hstopped
      left := hleft
      thrown := Bool.false_ne_true.elim
      published := Bool.false_ne_true.elim }
  | tells _ hset =>
    exact { h with
      stopped := hstopped
      left := hleft
      told := fun _ => hset
      thrown := fun _ => hset
      published := Bool.false_ne_true.elim }
  | stores hstage =>
    have htold := h.thrown (by rw [hstage]; rfl)
    exact { h with
      stopped := hstopped
      left := hleft
      thrown := fun _ => htold
      published := fun _ => .inr ⟨rfl, htold⟩ }
  | stops hstage =>
    have hpublished := hkeep (h.published (by rw [hstage]; rfl))
    exact { h with
      stopped := fun _ => hpublished
      left := hleft
      thrown := fun _ => h.thrown (by rw [hstage]; rfl)
      published := fun _ => hpublished }
  | exits hlooping =>
    refine { h with
      stopped := hstopped
      left := hleft
      thrown := fun hthrown => ?_
      published := fun hpublished => ?_ }
    · obtain hworking | hdraining := hlooping
      · rw [hworking] at hthrown
        cases hthrown
      · exact h.thrown (by rw [hdraining]; rfl)
    · obtain hworking | hdraining := hlooping
      · rw [hworking] at hpublished
        cases hpublished
      · exact hkeep (h.published (by rw [hdraining]; rfl))

lemma closeStep_accounted {expired : Bool} (h : s.Accounted config)
    (hs : s.closeStep expired = some (s', events)) : s'.Accounted config := by
  have hcloses := closeStep_closes hs
  have hrequested : s'.Requested ∨ s'.Told := .inl (.inl hcloses.closing)
  exact { config := hcloses.config.trans h.config
          stopped := fun _ => hrequested
          left := fun _ => hrequested
          told := fun htold => hcloses.terminal (h.told (hcloses.control ▸ htold))
          thrown := fun hthrown => hcloses.terminal (h.thrown (hcloses.dispatch ▸ hthrown))
          published := fun _ => hrequested
          counted := by
            rw [hcloses.config, hcloses.control]
            exact h.counted.same hcloses.counts }

lemma interruptStep_accounted {call : InterruptCall} (h : s.Accounted config)
    (hs : s.interruptStep call = some s') : s'.Accounted config := by
  have hcall := interruptStep_interrupts hs
  have hrequested : s'.Requested ∨ s'.Told := .inl (.inr hcall.flag)
  exact { config := hcall.config.trans h.config
          stopped := fun _ => hrequested
          left := fun _ => hrequested
          told := fun htold => hcall.terminal (h.told (hcall.control ▸ htold))
          thrown := fun hthrown => hcall.terminal (h.thrown (hcall.dispatch ▸ hthrown))
          published := fun _ => hrequested
          counted := by
            rw [hcall.config, hcall.control, hcall.memory]
            exact h.counted }

lemma step_accounted {i : SubscriptionInput} (hwaits : Waits config) (h : s.Accounted config)
    (habsorbs : s.Absorbs s') (hs : s.step i = some (s', events)) : s'.Accounted config := by
  cases i with
  | control => exact controlStep_accounted hwaits h habsorbs hs
  | dispatch =>
    obtain ⟨hnext, -⟩ := of_map_eq hs
    exact (dispatches hnext).accounted h habsorbs
  | close => exact closeStep_accounted h hs
  | interrupt =>
    obtain ⟨hnext, -⟩ := of_map_eq hs
    exact interruptStep_accounted h hnext

lemma accounted_of_reaches {trace : List ControlEvent} (hwaits : Waits config)
    (h : subscriptionMachine.Reaches Unraced (create config) trace s) : s.Accounted config := by
  have hboth : s.Settled ∧ s.Accounted config := by
    refine h.invariant (fun s => s.Settled ∧ s.Accounted config)
      ⟨create_settled config, create_accounted config⟩ ?_
    rintro s i s' events ⟨hsettled, haccounted⟩ hok hs
    obtain ⟨hsettled', habsorbs⟩ := step_settled hsettled hok hs
    exact ⟨hsettled', step_accounted hwaits haccounted habsorbs hs⟩
  exact hboth.2

end SubscriptionState

/-- A control loop that nobody asked to end has published its failure, within its attempts. -/
theorem control_loop_exit {config : SubscriberConfig} (hwaits : SubscriptionState.Waits config)
    {trace : List ControlEvent} {s : SubscriptionState}
    (hreach : subscriptionMachine.Reaches SubscriptionState.Unraced (.create config) trace s)
    (hexit : s.control = .leave .finished) (hclose : s.closing = .idle)
    (hinterrupt : s.interrupted = false) :
    s.state = .failed ∧ s.terminal ≠ .none ∧
      s.memory.opens ≤ config.reconnectMaxAttempts.toNat := by
  have h := SubscriptionState.accounted_of_reaches hwaits hreach
  have hleft : s.control.left = true := by rw [hexit]; rfl
  obtain (hclosing | hinterrupted) | ⟨hfailed, hterminal⟩ := h.left hleft
  · exact absurd hclose hclosing
  · rw [hinterrupt] at hinterrupted
    cases hinterrupted
  · have hopens := h.counted.opens
    have hattempt := h.counted.attempt
    rw [h.config] at hattempt
    exact ⟨hfailed, hterminal, by omega⟩

/-- The single attempt to reopen a lost session fails. -/
theorem control_loop_exit_sample :
    ∃ trace s, subscriptionMachine.Reaches SubscriptionState.Unraced
        (.create { streamName := [97], reconnectMaxAttempts := 1 }) trace s ∧
      s.control = .leave .finished ∧ s.closing = .idle ∧ s.interrupted = false ∧
      s.state = .failed ∧ s.terminal ≠ .none ∧ s.memory.opens ≤ 1 := by
  obtain ⟨trace, s, hreach, hexit, hclose, hinterrupt⟩ := subscriptionMachine.exists_of_run
    SubscriptionState.Unraced (.create { streamName := [97], reconnectMaxAttempts := 1 })
    (askInputs ++ adoptInputs (grantReply smallGeometry 1) ++ loseInputs ++ backoffInputs ++
      [SubscriptionInput.control .go, .control .go,
        .control (.built (some ControlView.transportError)), .control .go, .control .go,
        .control .go, .control .go, .control .go, .control .go, .control .go])
    (P := fun s _ => s.control = .leave .finished ∧ s.closing = .idle ∧ s.interrupted = false)
    (by decide +kernel)
  have hwaits : SubscriptionState.Waits { streamName := [97], reconnectMaxAttempts := 1 } :=
    fun _ _ => by decide
  exact ⟨trace, s, hreach, hexit, hclose, hinterrupt,
    control_loop_exit hwaits hreach hexit hclose hinterrupt⟩

/-- A valid configuration without a backoff: the loop ends in its first attempt, with the state
still `reconnecting` and nobody told. -/
theorem control_loop_quits_quietly :
    SubscriberConfig.validate { streamName := [97], reconnectBackoffMs := 0 } = .ok ∧
    ∃ trace s, subscriptionMachine.Reaches anyStep
        (.create { streamName := [97], reconnectBackoffMs := 0 }) trace s ∧
      s.control = .leave .finished ∧ s.closing = .idle ∧ s.interrupted = false ∧
      s.state = .reconnecting ∧ s.terminal = .none := by
  refine ⟨by decide +kernel, ?_⟩
  exact subscriptionMachine.exists_of_run anyStep _
    (askInputs ++ adoptInputs (grantReply smallGeometry 1) ++ loseInputs ++
      [SubscriptionInput.control .go, .control .go, .control .go, .control .go, .control .go])
    (P := fun s _ => s.control = .leave .finished ∧ s.closing = .idle ∧ s.interrupted = false ∧
      s.state = .reconnecting ∧ s.terminal = .none) (by decide +kernel)

end TangoBulk
