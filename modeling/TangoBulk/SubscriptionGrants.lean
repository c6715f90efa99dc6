import TangoBulk.Adoption
import TangoBulk.SubscriptionStates

/-! What becomes of the sessions a subscription is granted: a call of `open_subscription` that
fails after a grant has closed it, if the grant was one the client could hold. -/
namespace TangoBulk

open ByteString Transition

/-- The client can hold what the reply grants. -/
structure Fits (config : SubscriberConfig) (reply : OpenReply) : Prop where
  valid : reply.geometry.validate = .ok
  within : reply.geometry.maxFrameBytes ≤ config.maxFrameBytes ∧
    reply.geometry.ringDepth ≤ config.ringDepth ∧
    reply.geometry.creditWindow ≤ config.creditWindow

section Reply

variable {config : SubscriberConfig} {correlationId : UInt64} {data : Bytes} {reply : OpenReply}

lemma grantOf_eq_some :
    ControlView.grantOf correlationId data = some reply ↔
      ∃ envelope, decodeOpenReply data = .ok (reply, envelope) ∧ reply.status = .ok ∧
        envelope.correlationId = correlationId := by
  unfold ControlView.grantOf
  cases hdecoded : decodeOpenReply data with
  | error => simp
  | ok decoded =>
    obtain ⟨decoded, envelope⟩ := decoded
    simp only [Option.ite_none_right_eq_some, Option.some.injEq, Except.ok.injEq, Prod.mk.injEq]
    constructor
    · rintro ⟨⟨hstatus, hcorrelation⟩, rfl⟩
      exact ⟨envelope, ⟨rfl, rfl⟩, hstatus, hcorrelation⟩
    · rintro ⟨envelope', ⟨rfl, rfl⟩, hstatus, hcorrelation⟩
      exact ⟨⟨hstatus, hcorrelation⟩, rfl⟩

lemma granting_iff :
    Granting data config correlationId reply ↔
      ControlView.grantOf correlationId data = some reply ∧ Fits config reply := by
  rw [grantOf_eq_some]
  constructor
  · intro h
    obtain ⟨envelope, hdecoded, hcorrelation⟩ := h.decoded
    exact ⟨⟨envelope, hdecoded, h.accepted, hcorrelation⟩, h.valid, h.within⟩
  · rintro ⟨⟨envelope, hdecoded, hstatus, hcorrelation⟩, hfits⟩
    exact ⟨⟨envelope, hdecoded, hcorrelation⟩, hstatus, hfits.valid, hfits.within⟩

/-- The session that a subscription makes of the bytes: of a reply it can hold, or of an Error
without an error. -/
def Adopts (data : Bytes) (config : SubscriberConfig) (correlationId : UInt64)
    (candidate : ClientSession) : Prop :=
  (∃ reply, Granting data config correlationId reply ∧ candidate = .ofReply reply) ∨
    (ErrorWithoutError data correlationId ∧ candidate = .fresh)

/-- The three readings of a reply. -/
inductive Reads (config : SubscriberConfig) (retired : GeometryBlock) (correlationId : UInt64)
    (data : Bytes) : Grant → Prop
  | refused (error : BulkError) (nothing : ∀ reply, ¬ Granting data config correlationId reply) :
      Reads config retired correlationId data (.refused error)
  | otherArray (candidate : ClientSession) (adopts : Adopts data config correlationId candidate)
      (armed : retired.generation ≠ 0)
      (differs : retired.describesSameArray candidate.granted = false) :
      Reads config retired correlationId data (.otherArray candidate)
  | taken (candidate : ClientSession) (adopts : Adopts data config correlationId candidate)
      (same : retired.generation ≠ 0 → retired.describesSameArray candidate.granted = true) :
      Reads config retired correlationId data (.taken candidate)

lemma readGrant_adopted {retired : GeometryBlock} {candidate : ClientSession}
    (hadopted : ClientSession.fresh.adoptOpenReply data config correlationId = (.ok, candidate))
    (hadopts : Adopts data config correlationId candidate) :
    Reads config retired correlationId data (readGrant config retired correlationId data) := by
  unfold readGrant
  rw [hadopted]
  rw [if_neg (not_not.mpr rfl)]
  split_ifs with hother
  · exact .otherArray candidate hadopts hother.1 (by simpa using hother.2)
  · exact .taken candidate hadopts (by simpa using hother)

lemma readGrant_reads (config : SubscriberConfig) (retired : GeometryBlock)
    (correlationId : UInt64) (data : Bytes) :
    Reads config retired correlationId data (readGrant config retired correlationId data) := by
  obtain ⟨reply, hgranting, hadopted⟩ | ⟨herror, hadopted⟩ | ⟨hrefused, -⟩ :=
    ClientSession.fresh.adoptOpenReply_cases data config correlationId
  · exact readGrant_adopted hadopted (.inl ⟨reply, hgranting, rfl⟩)
  · exact readGrant_adopted hadopted (.inr ⟨herror, rfl⟩)
  · unfold readGrant
    rw [if_pos hrefused]
    refine .refused _ fun reply hgranting => hrefused ?_
    rw [ClientSession.adoptOpenReply_granting _ hgranting]

lemma Adopts.of_grant {candidate : ClientSession} (h : Adopts data config correlationId candidate)
    (hgrant : ControlView.grantOf correlationId data = some reply) :
    candidate = .ofReply reply ∧ Fits config reply := by
  obtain ⟨reply', hgranting, rfl⟩ | ⟨herror, -⟩ := h
  · obtain ⟨hgrant', hfits⟩ := granting_iff.mp hgranting
    obtain rfl : reply' = reply := Option.some.inj (hgrant'.symm.trans hgrant)
    exact ⟨rfl, hfits⟩
  · obtain ⟨envelope, hreply, -⟩ := grantOf_eq_some.mp hgrant
    obtain ⟨message, envelope', herror, -⟩ := herror
    obtain ⟨henvelope, htype⟩ := decodeOpenReply_envelope hreply
    obtain ⟨henvelope', htype'⟩ := decodeError_envelope herror
    obtain rfl : envelope = envelope' := Except.ok.inj (henvelope.symm.trans henvelope')
    rw [htype] at htype'
    cases htype'

end Reply

/-! ### The session of a subscription -/

namespace SessionMemory

variable {m : SessionMemory}

lemma closeSession_idle (h : m.transport = false) (discardQueued : Bool) :
    m.closeSession discardQueued = (m, []) := by
  have hsame : { m with transport := false } = m := by rw [← h]
  simp [closeSession, publishTransport, h, hsame]

lemma closeSession_live (h : m.transport = true) (discardQueued : Bool) :
    ∃ request, closesSession m.session.sessionId request = true ∧
      m.closeSession discardQueued =
        ({ m with
            transport := false
            correlation := m.correlation + 1
            call := { m.call with closes := m.call.closes ++ [request] }
            lastLeaseTtlMs := max m.lastLeaseTtlMs m.session.leaseTtlMs
            retiredGeometry :=
              if m.currentGeometry.generation ≠ 0 then m.currentGeometry else m.retiredGeometry
            session := .fresh
            currentGeometry := .unarmed },
          [.handed .close request, .ingress .retire] ++
            if discardQueued then [.ingress (.discard false)] else []) := by
  obtain ⟨request, hcloses, heq⟩ := m.handClose_eq m.session
  refine ⟨request, hcloses, ?_⟩
  simp [closeSession, publishTransport, h, heq]

end SessionMemory

/-! ### One call of `open_subscription` -/

/-- The call has been granted a session that it can hold and has not closed. -/
structure Granted (config : SubscriberConfig) (m : SessionMemory) : Prop where
  unclosed : m.call.closes = []
  session : ∀ reply, m.call.grant = some reply →
    m.session.sessionId = reply.sessionId ∧ Fits config reply

/-- Whether there is a transport at each stage, and what the call has been granted. -/
def Called (config : SubscriberConfig) (m : SessionMemory) : ControlStage → Prop
  | .opening _ .makeIngress => m.transport = false
  | .opening _ .build | .opening _ .ask | .opening _ (.openCall _) =>
    m.transport = false ∧ m.call = {}
  | .opening _ .activate => m.transport = false ∧ Granted config m
  | .opening _ .storeProbing | .opening _ .probe | .opening _ (.abandon _)
  | .opening _ .storeActive => m.transport = true ∧ Granted config m
  | .factory .start | .reconnect .opened => m.transport = true
  | .session (.closed _) => m.transport = false
  | .session _ => m.transport = true
  | .factory _ | .reconnect _ => m.transport = false
  | .leave _ => True

/-- A call that failed has closed what it was granted exactly once, if the client could hold
it. -/
def ClosesGrant (config : SubscriberConfig) : ControlEvent → Prop
  | .openReturned _ false record => ∀ reply, record.grant = some reply →
      (record.closes.countP (SessionMemory.closesSession reply.sessionId) = 1 ↔ Fits config reply)
  | _ => True

namespace ControlView

/-- The stage after the step, and the calls that end with it. -/
structure Calls (config : SubscriberConfig) (r : ControlResult) : Prop where
  next : Called config r.memory r.next
  events : ∀ e ∈ r.events, ClosesGrant config e

variable {v : ControlView} {caller : OpenCaller} {i : ControlInput} {r : ControlResult}

variable {config : SubscriberConfig} {error : BulkError}

lemma Calls.quiet (next : Called config r.memory r.next) (events : r.events = []) :
    Calls config r := ⟨next, by simp [events]⟩

lemma called_failed {m : SessionMemory} (h : m.transport = false) :
    Called config m (caller.failed error) := by
  cases caller <;> exact h

lemma failOpen_calls {memory : SessionMemory} {events : List ControlEvent}
    (htransport : memory.transport = false) (hevents : ∀ e ∈ events, ClosesGrant config e)
    (hrecord : ClosesGrant config (.openReturned caller false memory.call)) :
    Calls config (failOpen memory events caller error) := by
  refine ⟨called_failed htransport, fun e he => ?_⟩
  simp only [failOpen, List.mem_append, List.mem_cons, List.not_mem_nil, or_false] at he
  obtain he | rfl | rfl := he
  · exact hevents e he
  · trivial
  · exact hrecord

lemma closesGrant_empty {m : SessionMemory} (h : m.call = {}) :
    ClosesGrant config (.openReturned caller false m.call) := by
  intro reply hreply
  rw [h] at hreply
  cases hreply

lemma closesGrant_closed {config : SubscriberConfig} {record : OpenRecord}
    {candidate : ClientSession} {request : Bytes}
    (hcloses : SessionMemory.closesSession candidate.sessionId request = true)
    (hrecord : record.closes = [request])
    (hgrant : ∀ reply, record.grant = some reply →
      candidate.sessionId = reply.sessionId ∧ Fits config reply) :
    ClosesGrant config (.openReturned caller false record) := by
  intro reply hreply
  obtain ⟨hid, hfits⟩ := hgrant reply hreply
  rw [hid] at hcloses
  simp [hrecord, hcloses, hfits]

lemma replied_calls {correlationId : UInt64} {reply : Bytes}
    (htransport : v.memory.transport = false) (hcall : v.memory.call = {}) :
    Calls v.config (v.replied caller correlationId reply) := by
  have hreads := readGrant_reads v.config v.memory.retiredGeometry correlationId reply
  unfold replied
  dsimp only
  split
  case h_1 error hread =>
    rw [hread] at hreads
    obtain ⟨_, hnothing⟩ := hreads
    refine failOpen_calls htransport (by simp) fun granted hgranted => ?_
    have hunheld : ¬ Fits v.config granted :=
      fun hfits => hnothing granted (granting_iff.mpr ⟨hgranted, hfits⟩)
    simp [hcall, hunheld]
  case h_2 candidate hread =>
    rw [hread] at hreads
    obtain - | ⟨_, hadopts, -⟩ := hreads
    obtain ⟨request, hcloses, heq⟩ := SessionMemory.handClose_eq
      { v.memory with geometryChanges := v.memory.geometryChanges + 1
                      call := { v.memory.call with grant := grantOf correlationId reply } }
      candidate
    rw [heq]
    refine failOpen_calls htransport (by simp [ClosesGrant]) (closesGrant_closed hcloses ?_ ?_)
    · simp [hcall]
    · intro granted hgranted
      obtain ⟨rfl, hfits⟩ := hadopts.of_grant hgranted
      exact ⟨rfl, hfits⟩
  case h_3 candidate hread =>
    rw [hread] at hreads
    obtain - | - | ⟨_, hadopts, -⟩ := hreads
    refine .quiet ⟨htransport, ⟨by simp [hcall], fun granted hgranted => ?_⟩⟩ rfl
    obtain ⟨rfl, hfits⟩ := hadopts.of_grant hgranted
    exact ⟨rfl, hfits⟩

lemma activated_calls {failure : Option BulkError} (htransport : v.memory.transport = false)
    (hgranted : Granted v.config v.memory) : Calls v.config (v.activated caller failure) := by
  cases failure with
  | some =>
    obtain ⟨request, hcloses, heq⟩ := v.memory.handClose_eq v.memory.session
    unfold activated
    rw [heq]
    refine failOpen_calls htransport (by simp [ClosesGrant]) (closesGrant_closed hcloses ?_ ?_)
    · simp [hgranted.unclosed]
    · exact hgranted.session
  | none =>
    unfold activated
    simp only [SessionMemory.publishTransport, htransport]
    exact ⟨⟨rfl, ⟨hgranted.unclosed, hgranted.session⟩⟩, by simp [ClosesGrant]⟩

lemma abandon_calls (htransport : v.memory.transport = true)
    (hgranted : Granted v.config v.memory) : Calls v.config (v.abandon caller error) := by
  obtain ⟨request, hcloses, heq⟩ := SessionMemory.closeSession_live htransport true
  unfold abandon
  rw [heq]
  refine ⟨called_failed rfl, fun e he => ?_⟩
  simp only [if_true, List.mem_append, List.mem_cons, List.not_mem_nil, or_false] at he
  obtain (((rfl | rfl) | rfl) | rfl) := he
  · trivial
  · trivial
  · trivial
  · exact closesGrant_closed hcloses (by simp [hgranted.unclosed]) hgranted.session

lemma probe_calls {state : SubscriberState} {reported : BulkError} {expired : Bool}
    (htransport : v.memory.transport = true) (hgranted : Granted v.config v.memory) :
    Calls v.config (v.probe caller state reported expired) := by
  unfold probe
  dsimp only
  split_ifs <;> exact .quiet ⟨htransport, hgranted⟩ rfl

lemma ask_calls {address : Bytes} {instanceId : ClientInstanceId}
    (htransport : v.memory.transport = false) (hcall : v.memory.call = {}) :
    Calls v.config (v.ask caller address instanceId) := by
  unfold ask
  dsimp only
  split
  · exact failOpen_calls htransport (by simp) (closesGrant_empty hcall)
  · exact ⟨⟨htransport, hcall⟩, by simp [ClosesGrant]⟩

lemma openStep_calls {stage : OpenStage} (hr : v.openStep caller stage i = some r)
    (h : Called v.config v.memory (.opening caller stage)) : Calls v.config r := by
  unfold openStep at hr
  split at hr <;> cases hr
  case h_1 => exact ⟨⟨h, rfl⟩, by simp [makeIngress, ClosesGrant]⟩
  case h_2 => exact failOpen_calls h.1 (by simp) (closesGrant_empty h.2)
  case h_3 => exact .quiet h rfl
  case h_4 => exact ask_calls h.1 h.2
  case h_5 | h_6 => exact failOpen_calls h.1 (by simp) (closesGrant_empty h.2)
  case h_7 => exact replied_calls h.1 h.2
  case h_8 => exact activated_calls h.1 h.2
  case h_9 => exact .quiet h rfl
  case h_10 => exact probe_calls h.1 h.2
  case h_11 => exact abandon_calls h.1 h.2
  case h_12 =>
    refine ⟨?_, by simp [storeActive, ClosesGrant]⟩
    cases caller <;> exact h.1

lemma factoryStep_calls {stage : FactoryStage} (hr : v.factoryStep stage i = some r)
    (h : Called v.config v.memory (.factory stage)) : Calls v.config r := by
  unfold factoryStep at hr
  split at hr <;> cases hr
  case h_2 =>
    unfold retry
    split_ifs <;> exact .quiet h rfl
  case h_4 =>
    unfold retryBackoff
    dsimp only
    split_ifs <;> exact .quiet h rfl
  case h_9 =>
    unfold closeSession
    rw [SessionMemory.closeSession_idle h]
    exact .quiet h rfl
  all_goals exact .quiet h rfl

lemma whileRunning_calls {next : ControlStage} (h : Called v.config v.memory next) :
    Calls v.config (v.whileRunning next) := by
  refine .quiet ?_ rfl
  obtain hgo | ⟨-, hgo⟩ := v.whileRunning_next next
  · rw [hgo]
    exact h
  · rw [hgo]
    trivial

lemma closeSession_events (config : SubscriberConfig) (m : SessionMemory) (discardQueued : Bool) :
    ∀ e ∈ (m.closeSession discardQueued).2, ClosesGrant config e := by
  cases htransport : m.transport with
  | true =>
    obtain ⟨request, -, heq⟩ := SessionMemory.closeSession_live htransport discardQueued
    rw [heq]
    cases discardQueued <;> simp [ClosesGrant]
  | false =>
    rw [SessionMemory.closeSession_idle htransport]
    simp

lemma renewal_calls {status : Status} {session : ClientSession} (h : v.memory.transport = true) :
    Calls v.config (v.renewal status session error) := by
  refine .quiet ?_ rfl
  simp only [renewal]
  split_ifs <;> exact h

lemma sessionStep_calls {stage : SessionStage} (hr : v.sessionStep stage i = some r)
    (h : Called v.config v.memory (.session stage)) : Calls v.config r := by
  unfold sessionStep at hr
  split at hr <;> first | (obtain rfl := Option.some.inj hr) | cases hr
  case h_4 =>
    unfold look
    split_ifs <;> exact .quiet h rfl
  case h_5 =>
    unfold renew
    dsimp only
    split
    case h_1 error _ =>
      exact renewal_calls (v := { v with memory := { v.memory with
        correlation := v.memory.correlation + 1 } }) h
    case h_2 => exact ⟨h, by simp [ClosesGrant]⟩
  case h_6 | h_7 => exact renewal_calls h
  case h_8 =>
    refine ⟨?_, closeSession_events _ _ _⟩
    obtain ⟨request, -, heq⟩ := SessionMemory.closeSession_live h false
    simp only [closeSession, heq]
    rfl
  all_goals exact whileRunning_calls h

lemma reconnectStep_calls {stage : ReconnectStage} (hr : v.reconnectStep stage i = some r)
    (h : Called v.config v.memory (.reconnect stage)) : Calls v.config r := by
  unfold reconnectStep at hr
  split at hr <;> cases hr
  case h_1 =>
    refine .quiet ?_ rfl
    simp only [goTo]
    split_ifs <;> exact h
  case h_2 =>
    refine whileRunning_calls ?_
    unfold nextAttempt
    split_ifs <;> exact h
  case h_4 =>
    unfold backoff
    split_ifs
    · exact .quiet h rfl
    · exact .quiet trivial rfl
  case h_5 =>
    unfold backoffWoken
    split_ifs
    · exact ⟨h, by simp [ClosesGrant]⟩
    · exact .quiet trivial rfl
  case h_8 =>
    refine .quiet ?_ rfl
    simp only [goTo]
    split_ifs <;> exact h
  case h_10 => exact .quiet trivial rfl
  all_goals exact .quiet h rfl

lemma leaveStep_calls {stage : LeaveStage} (hr : v.leaveStep stage i = some r) :
    Calls v.config r := by
  unfold leaveStep at hr
  split at hr <;> cases hr
  case h_1 => exact .quiet trivial rfl
  case h_2 => exact ⟨trivial, closeSession_events _ _ _⟩
  case h_3 => exact .quiet trivial rfl

lemma program_calls {stage : ControlStage} (hr : v.program i stage = some r)
    (h : Called v.config v.memory stage) : Calls v.config r := by
  cases stage with
  | factory => exact factoryStep_calls hr h
  | opening => exact openStep_calls hr h
  | session => exact sessionStep_calls hr h
  | reconnect => exact reconnectStep_calls hr h
  | leave => exact leaveStep_calls hr

end ControlView

namespace SubscriptionState

/-- The threads are accounted for, and the control thread keeps track of its session. -/
structure Tracked (config : SubscriberConfig) (s : SubscriptionState) : Prop where
  joined : s.Joined
  configured : s.config = config
  called : Called config s.memory s.control

variable {config : SubscriberConfig} {s s' : SubscriptionState} {events : List ControlEvent}

lemma create_tracked (config : SubscriberConfig) : (create config).Tracked config :=
  ⟨create_joined config, rfl, rfl⟩

lemma apply_view (s : SubscriptionState) (effect : ControlEffect) :
    (s.apply effect).config = s.config ∧ (s.apply effect).memory = s.memory ∧
      (s.apply effect).control = s.control := by
  cases effect with
  | fail =>
    rw [apply, setTerminal_eq]
    exact ⟨rfl, rfl, rfl⟩
  | _ => exact ⟨rfl, rfl, rfl⟩

lemma controlStep_tracked {input : ControlInput} (h : s.Tracked config)
    (hs : s.controlStep input = some (s', events)) :
    s'.Tracked config ∧ ∀ e ∈ events, ClosesGrant config e := by
  have hjoined := controlStep_joined h.joined hs
  obtain ⟨r, -, hr, rfl, rfl⟩ := controlStep_moves hs
  obtain ⟨hjoined', rfl, hcalled⟩ := h
  have hcalls := ControlView.program_calls hr hcalled
  obtain ⟨hconfig, hmemory, hcontrol⟩ :=
    apply_view { s with control := r.next, memory := r.memory } r.effect
  refine ⟨⟨hjoined, hconfig, ?_⟩, hcalls.events⟩
  rw [hmemory, hcontrol]
  exact hcalls.next

lemma closeStep_tracked {expired : Bool} (h : s.Tracked config)
    (hs : s.closeStep expired = some (s', events)) :
    s'.Tracked config ∧ ∀ e ∈ events, ClosesGrant config e := by
  have hjoined := closeStep_joined h.joined hs
  have hcloses := closeStep_closes hs
  obtain ⟨hsame, rfl⟩ | ⟨hfinished, hclosed⟩ := hcloses.session h.joined
  · refine ⟨⟨hjoined, hcloses.config.trans h.configured, ?_⟩, by simp⟩
    rw [hcloses.control, hsame]
    exact h.called
  · refine ⟨⟨hjoined, hcloses.config.trans h.configured, ?_⟩, ?_⟩
    · rw [hcloses.control, hfinished]
      trivial
    · have hevents := ControlView.closeSession_events config s.memory true
      rwa [hclosed] at hevents

lemma step_tracked {i : SubscriptionInput} (h : s.Tracked config)
    (hs : s.step i = some (s', events)) :
    s'.Tracked config ∧ ∀ e ∈ events, ClosesGrant config e := by
  cases i with
  | control => exact controlStep_tracked h hs
  | dispatch =>
    obtain ⟨hnext, rfl⟩ := of_map_eq hs
    obtain ⟨hconfig, hmemory, hcontrol⟩ := (dispatches hnext).view
    refine ⟨⟨(dispatches hnext).joined h.joined, hconfig.trans h.configured, ?_⟩, by simp⟩
    rw [hcontrol, hmemory]
    exact h.called
  | close => exact closeStep_tracked h hs
  | interrupt =>
    obtain ⟨hnext, rfl⟩ := of_map_eq hs
    have hcall := interruptStep_interrupts hnext
    refine ⟨⟨interruptStep_joined h.joined hnext, hcall.config.trans h.configured, ?_⟩, by simp⟩
    rw [hcall.control, hcall.memory]
    exact h.called

end SubscriptionState

/-- A failed call of `open_subscription` has closed the session it was granted exactly once if
and only if the client could hold it. -/
theorem failed_open_closes_grant {config : SubscriberConfig} {trace : List ControlEvent}
    {s : SubscriptionState} {caller : OpenCaller} {record : OpenRecord} {reply : OpenReply}
    (hreach : subscriptionMachine.Reaches anyStep (.create config) trace s)
    (hreturned : .openReturned caller false record ∈ trace) (hgrant : record.grant = some reply) :
    record.closes.countP (SessionMemory.closesSession reply.sessionId) = 1 ↔
      Fits config reply := by
  have hevents := hreach.events (SubscriptionState.Tracked config) (ClosesGrant config)
    (SubscriptionState.create_tracked config)
    fun _ _ _ _ htracked _ hs => SubscriptionState.step_tracked htracked hs
  exact hevents _ hreturned reply hgrant

/-- The transport does not adopt the grant: the session is closed. -/
theorem failed_open_closes_grant_sample :
    ∃ trace s reply,
      subscriptionMachine.Reaches anyStep (.create { streamName := [97] }) trace s ∧
      .openReturned (.factory 0) false s.memory.call ∈ trace ∧
      s.memory.call.grant = some reply ∧
      (s.memory.call.closes.countP (SessionMemory.closesSession reply.sessionId) = 1 ↔
        Fits { streamName := [97] } reply) := by
  obtain ⟨trace, s, hreach, hreturned, hgrant⟩ := subscriptionMachine.exists_of_run anyStep
    (.create { streamName := [97] })
    (askInputs ++ [SubscriptionInput.control (.replied (grantReply smallGeometry 1)),
      .control (.activated (some ControlView.transportError))])
    (P := fun s t => .openReturned (.factory 0) false s.memory.call ∈ t ∧
      s.memory.call.grant.isSome) (by decide +kernel)
  obtain ⟨reply, hreply⟩ := Option.isSome_iff_exists.mp hgrant
  exact ⟨trace, s, reply, hreach, hreturned, hreply,
    failed_open_closes_grant hreach hreturned hreply⟩

/-- A ring that is deeper than a subscription asks for by default. -/
def deepGeometry : GeometryBlock := { smallGeometry with ringDepth := 64 }

/-- A publisher grants a deeper ring than was asked for: the call fails and the seat is kept
until its lease runs out. -/
theorem unheld_grant_left_open :
    ∃ trace s, subscriptionMachine.Reaches anyStep (.create { streamName := [97] }) trace s ∧
      .openReturned (.factory 0) false s.memory.call ∈ trace ∧
      s.memory.call.grant.isSome ∧ s.memory.call.closes = [] :=
  subscriptionMachine.exists_of_run anyStep _
    (askInputs ++ [SubscriptionInput.control (.replied (grantReply deepGeometry 1))])
    (by decide +kernel)

end TangoBulk
