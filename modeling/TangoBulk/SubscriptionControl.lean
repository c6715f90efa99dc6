import TangoBulk.DeliveryQueue
import TangoBulk.ProtocolRoundTrip
import TangoBulk.SubscriberEngine
import TangoBulk.Subscription

/-! The thread that opens a subscription, keeps its session and reopens it, as a program with
one step for every access to the shared flags and every call it makes. What comes from outside
is the step's input. -/
namespace TangoBulk

open ByteString

/-! ### Delays -/

/-- The doubling loop of `backoff_delay`. -/
def doubledDelay : ℕ → ℕ → ℕ → ℕ
  | 0, delay, _ => delay
  | attempt + 1, delay, leaseTtlMs =>
    if delay < leaseTtlMs then doubledDelay attempt (delay * 2) leaseTtlMs else delay

def backoffDelay (attempt : ℕ) (backoffMs leaseTtlMs : UInt32) : ℕ :=
  min (doubledDelay attempt backoffMs.toNat leaseTtlMs.toNat) (max leaseTtlMs.toNat 1)

lemma le_doubledDelay (attempt delay leaseTtlMs : ℕ) :
    delay ≤ doubledDelay attempt delay leaseTtlMs := by
  induction attempt generalizing delay with
  | zero => exact le_rfl
  | succ attempt ih =>
    simp only [doubledDelay]
    split_ifs
    · have := ih (delay * 2)
      omega
    · exact le_rfl

lemma doubledDelay_zero (attempt leaseTtlMs : ℕ) : doubledDelay attempt 0 leaseTtlMs = 0 := by
  induction attempt with
  | zero => rfl
  | succ attempt ih => simp [doubledDelay, ih]

lemma backoffDelay_pos_iff (attempt : ℕ) (backoffMs leaseTtlMs : UInt32) :
    0 < backoffDelay attempt backoffMs leaseTtlMs ↔ backoffMs ≠ 0 := by
  constructor
  · rintro hpos rfl
    simp [backoffDelay, doubledDelay_zero] at hpos
  · intro hne
    have hdelay : 0 < backoffMs.toNat := by
      rw [Nat.pos_iff_ne_zero]
      exact fun h => hne (UInt32.toNat_inj.mp (by simpa using h))
    have := le_doubledDelay attempt backoffMs.toNat leaseTtlMs.toNat
    simp only [backoffDelay]
    omega

lemma min_doubledDelay (attempt delay leaseTtlMs : ℕ) :
    min (doubledDelay attempt delay leaseTtlMs) (max leaseTtlMs 1) =
      min (delay * 2 ^ attempt) (max leaseTtlMs 1) := by
  induction attempt generalizing delay with
  | zero => rw [doubledDelay, pow_zero, mul_one]
  | succ attempt ih =>
    rw [doubledDelay]
    split_ifs with hlt
    · rw [ih, pow_succ', mul_assoc]
    · rcases Nat.eq_zero_or_pos delay with rfl | hpos
      · rw [zero_mul]
      · have hgrown : delay ≤ delay * 2 ^ (attempt + 1) :=
          Nat.le_mul_of_pos_right delay (Nat.two_pow_pos _)
        have hcap : max leaseTtlMs 1 ≤ delay := max_le (Nat.not_lt.mp hlt) hpos
        rw [min_eq_right hcap, min_eq_right (hcap.trans hgrown)]

/-- The loop in the words it runs on, with the delays that it doubled. -/
def doubledWords : ℕ → UInt64 → UInt64 → UInt64 × List UInt64
  | 0, delay, _ => (delay, [])
  | attempt + 1, delay, leaseTtlMs =>
    if delay < leaseTtlMs then
      ((doubledWords attempt (delay * 2) leaseTtlMs).1,
        delay :: (doubledWords attempt (delay * 2) leaseTtlMs).2)
    else (delay, [])

/-- `backoff_delay` in the words it runs on. -/
def backoffDelayWord (attempt backoffMs leaseTtlMs : UInt32) : UInt64 :=
  min (doubledWords attempt.toNat backoffMs.toUInt64 leaseTtlMs.toUInt64).1
    (max leaseTtlMs 1).toUInt64

lemma doubledWords_exact {leaseTtlMs : UInt64} (httl : leaseTtlMs.toNat < 2 ^ 32) (attempt : ℕ)
    (delay : UInt64) :
    (doubledWords attempt delay leaseTtlMs).1.toNat =
        doubledDelay attempt delay.toNat leaseTtlMs.toNat ∧
      ∀ d ∈ (doubledWords attempt delay leaseTtlMs).2, d.toNat * 2 < 2 ^ 64 := by
  induction attempt generalizing delay with
  | zero => exact ⟨rfl, by simp [doubledWords]⟩
  | succ attempt ih =>
    rw [doubledWords, doubledDelay]
    by_cases hlt : delay < leaseTtlMs
    · have hnat : delay.toNat < leaseTtlMs.toNat := UInt64.lt_iff_toNat_lt.mp hlt
      have hfits : delay.toNat * 2 < 2 ^ 64 := by omega
      have htwice : (delay * 2).toNat = delay.toNat * 2 := by
        rw [UInt64.toNat_mul]
        exact Nat.mod_eq_of_lt hfits
      obtain ⟨hvalue, hdoubled⟩ := ih (delay * 2)
      rw [if_pos hlt, if_pos hnat]
      refine ⟨by rw [hvalue, htwice], ?_⟩
      intro d hd
      rcases List.mem_cons.mp hd with rfl | hd
      · exact hfits
      · exact hdoubled d hd
    · rw [if_neg hlt, if_neg (by rwa [UInt64.lt_iff_toNat_lt] at hlt)]
      exact ⟨rfl, by simp⟩

lemma toNat_backoffDelayWord (attempt backoffMs leaseTtlMs : UInt32) :
    (backoffDelayWord attempt backoffMs leaseTtlMs).toNat =
      backoffDelay attempt.toNat backoffMs leaseTtlMs := by
  have httl : leaseTtlMs.toUInt64.toNat < 2 ^ 32 := by simpa using leaseTtlMs.toNat_lt
  have hexact := (doubledWords_exact httl attempt.toNat backoffMs.toUInt64).1
  rw [backoffDelayWord, backoffDelay, UInt64.toNat_min, hexact]
  simp [UInt32.toNat_max]

lemma backoffDelay_eq (attempt : ℕ) (backoffMs leaseTtlMs : UInt32) :
    backoffDelay attempt backoffMs leaseTtlMs =
      min (backoffMs.toNat * 2 ^ attempt) (max leaseTtlMs.toNat 1) :=
  min_doubledDelay attempt backoffMs.toNat leaseTtlMs.toNat

lemma backoffDelay_mono {attempt later : ℕ} (h : attempt ≤ later) (backoffMs leaseTtlMs : UInt32) :
    backoffDelay attempt backoffMs leaseTtlMs ≤ backoffDelay later backoffMs leaseTtlMs := by
  rw [backoffDelay_eq, backoffDelay_eq]
  have hpow : 2 ^ attempt ≤ 2 ^ later := Nat.pow_le_pow_right (by omega) h
  exact min_le_min_right _ (Nat.mul_le_mul_left _ hpow)

/-- The delay doubles with every attempt up to the lease, and no doubling overflows. -/
theorem backoff_closed_form (attempt backoffMs leaseTtlMs : UInt32) :
    (backoffDelayWord attempt backoffMs leaseTtlMs).toNat =
        min (backoffMs.toNat * 2 ^ attempt.toNat) (max leaseTtlMs.toNat 1) ∧
    (∀ d ∈ (doubledWords attempt.toNat backoffMs.toUInt64 leaseTtlMs.toUInt64).2,
      d.toNat * 2 < 2 ^ 64) ∧
    (∀ later : UInt32, attempt ≤ later →
      backoffDelayWord attempt backoffMs leaseTtlMs ≤ backoffDelayWord later backoffMs leaseTtlMs) ∧
    (backoffDelayWord attempt backoffMs leaseTtlMs).toNat ≤ max leaseTtlMs.toNat 1 := by
  have httl : leaseTtlMs.toUInt64.toNat < 2 ^ 32 := by simpa using leaseTtlMs.toNat_lt
  refine ⟨?_, (doubledWords_exact httl attempt.toNat backoffMs.toUInt64).2, ?_, ?_⟩
  · rw [toNat_backoffDelayWord, backoffDelay_eq]
  · intro later hlater
    rw [UInt64.le_iff_toNat_le, toNat_backoffDelayWord, toNat_backoffDelayWord]
    exact backoffDelay_mono (UInt32.le_iff_toNat_le.mp hlater) backoffMs leaseTtlMs
  · rw [toNat_backoffDelayWord, backoffDelay_eq]
    exact min_le_right _ _

theorem backoff_closed_form_third :
    backoffDelayWord 2 200 1000 = 800 ∧ backoffDelayWord 3 200 1000 = 1000 ∧
    backoffDelayWord 2 200 1000 ≤ backoffDelayWord 3 200 1000 :=
  ⟨by decide, by decide, (backoff_closed_form 2 200 1000).2.2.1 3 (by decide)⟩

/-- What `open` retries. -/
def retryableEstablishment (status : Status) : Bool :=
  status = .transportFailure ∨ status = .unknownStream ∨ status = .unknownSession ∨
    status = .sessionExpired

/-! ### What the thread owns -/

/-- The Opens of a subscription are made by `SubscriptionFactory::open`, which counts its
retries, and by `reconnect`. -/
inductive OpenCaller
  | factory (attempt : ℕ)
  | reconnect
  deriving DecidableEq

inductive IngressCall
  | make
  | retire
  | discard (reconnecting : Bool)
  deriving DecidableEq

/-- What a call of `open_subscription` has seen and done: the Ok reply of the channel and the
Close requests. -/
structure OpenRecord where
  grant : Option OpenReply := none
  closes : List Bytes := []
  deriving DecidableEq

inductive ControlEvent
  | ingress (call : IngressCall)
  | handed (type : CoordType) (request : Bytes)
  | opening (caller : OpenCaller)
  | installed (geometry : GeometryBlock)
  | openReturned (caller : OpenCaller) (opened : Bool) (record : OpenRecord)
  deriving DecidableEq

/-- The members that only the control thread touches. `opens` counts the Opens since the last
session that was active, `call` records the current call of `open_subscription`. -/
structure SessionMemory where
  transport : Bool := false
  session : ClientSession := .fresh
  currentGeometry : GeometryBlock := .unarmed
  retiredGeometry : GeometryBlock := .unarmed
  lastLeaseTtlMs : UInt32 := 0
  attempt : ℕ := 0
  correlation : UInt64 := 0
  reconnects : ℕ := 0
  geometryChanges : ℕ := 0
  renewalsSent : ℕ := 0
  renewalsFailed : ℕ := 0
  opens : ℕ := 0
  call : OpenRecord := {}

namespace SessionMemory

/-- The Close of a session; an exception of the channel changes nothing. -/
def handClose (m : SessionMemory) (session : ClientSession) :
    SessionMemory × List ControlEvent :=
  let correlation := m.correlation + 1
  match session.makeCloseRequest correlation with
  | .error _ => ({ m with correlation := correlation }, [])
  | .ok request =>
    ({ m with correlation := correlation
              call := { m.call with closes := m.call.closes ++ [request] } },
      [.handed .close request])

/-- The request is a Close of the session. -/
def closesSession (sessionId : SessionId) (request : Bytes) : Bool :=
  match decodeClose request with
  | .error _ => false
  | .ok (decoded, _) => decoded.sessionId = sessionId

lemma makeCloseRequest_closes (session : ClientSession) (correlationId : UInt64) :
    ∃ request, session.makeCloseRequest correlationId = .ok request ∧
      closesSession session.sessionId request = true := by
  obtain ⟨request, hrequest, -⟩ :=
    CoordMessage.encodes (m := .close ⟨session.sessionId, .clientShutdown⟩) trivial id
      correlationId
  obtain ⟨size, hdecode⟩ := decodeClose_encodeClose hrequest
  refine ⟨request, hrequest, ?_⟩
  rw [closesSession, hdecode]
  exact decide_eq_true rfl

lemma handClose_eq (m : SessionMemory) (session : ClientSession) :
    ∃ request, closesSession session.sessionId request = true ∧
      m.handClose session =
        ({ m with correlation := m.correlation + 1
                  call := { m.call with closes := m.call.closes ++ [request] } },
          [.handed .close request]) := by
  obtain ⟨request, hrequest, hcloses⟩ := makeCloseRequest_closes session (m.correlation + 1)
  refine ⟨request, hcloses, ?_⟩
  rw [handClose]
  simp only [hrequest]

def publishTransport (m : SessionMemory) (next discardQueued : Bool) :
    SessionMemory × List ControlEvent :=
  if m.transport then
    ({ m with transport := next
              lastLeaseTtlMs := max m.lastLeaseTtlMs m.session.leaseTtlMs
              retiredGeometry :=
                if m.currentGeometry.generation ≠ 0 then m.currentGeometry else m.retiredGeometry
              session := .fresh
              currentGeometry := .unarmed },
      .ingress .retire :: if discardQueued then [.ingress (.discard false)] else [])
  else ({ m with transport := next }, [])

def closeSession (m : SessionMemory) (discardQueued : Bool) :
    SessionMemory × List ControlEvent :=
  let closed := if m.transport then m.handClose m.session else (m, [])
  let out := closed.1.publishTransport false discardQueued
  (out.1, closed.2 ++ out.2)

end SessionMemory

/-! ### The program -/

/-- Where the thread stands in `open_subscription`, named by what it does next. -/
inductive OpenStage
  | makeIngress
  | build
  | ask
  | openCall (correlationId : UInt64)
  | activate
  | storeProbing
  | probe
  | abandon (error : BulkError)
  | storeActive
  deriving DecidableEq

/-- `SubscriptionFactory::open` around its Opens. -/
inductive FactoryStage
  | created
  | openFailed (attempt : ℕ) (error : BulkError)
  | storeRetrying (attempt : ℕ) (error : BulkError)
  | backoff (attempt : ℕ) (error : BulkError)
  | storeOpening (attempt : ℕ)
  | start
  | fail (error : BulkError)
  | storeFailed (error : BulkError)
  | shutdown
  | refused
  deriving DecidableEq

/-- `run_session`, and the end of the session it reports. -/
inductive SessionStage
  | loop
  | wait
  | woken
  | look
  | renew
  | renewCall (correlationId : UInt64)
  | lost (error : BulkError)
  | closed (error : BulkError)
  deriving DecidableEq

inductive ReconnectStage
  | policy (error : BulkError)
  | attempt (error : BulkError)
  | storeReconnecting (error : BulkError)
  | backoff
  | woken
  | storeOpening
  | opened
  | openFailed (error : BulkError)
  | fail (error : BulkError)
  | storeFailed (error : BulkError)
  deriving DecidableEq

/-- The end of `control_loop`. -/
inductive LeaveStage
  | interrupted
  | close
  | state
  | finished
  deriving DecidableEq

inductive ControlStage
  | factory (stage : FactoryStage)
  | opening (caller : OpenCaller) (stage : OpenStage)
  | session (stage : SessionStage)
  | reconnect (stage : ReconnectStage)
  | leave (stage : LeaveStage)
  deriving DecidableEq

/-- Where `open_subscription` returns to. -/
def OpenCaller.opened : OpenCaller → ControlStage
  | .factory _ => .factory .start
  | .reconnect => .reconnect .opened

def OpenCaller.failed (error : BulkError) : OpenCaller → ControlStage
  | .factory attempt => .factory (.openFailed attempt error)
  | .reconnect => .reconnect (.openFailed error)

inductive ControlInput
  | go
  | built (failure : Option BulkError)
  | asked (address : Bytes) (instanceId : ClientInstanceId)
  | threw (error : BulkError)
  | replied (reply : Bytes)
  | activated (failure : Option BulkError)
  | observed (state : SubscriberState) (reported : BulkError) (due : Bool)
  | renewed (framesDelivered creditsReturned : UInt64) (clientState : UInt32)
  | clock (remainingMs : ℤ) (expired : Bool)

/-- What a step does to the shared members: the store of `transition`, its `fail` of the
delivery, the start of the threads, and `running` set to false. -/
inductive ControlEffect
  | none
  | store (state : SubscriberState) (error : BulkError)
  | fail (error : BulkError)
  | start
  | stop
  deriving DecidableEq

structure ControlResult where
  next : ControlStage
  memory : SessionMemory
  effect : ControlEffect := .none
  events : List ControlEvent := []

/-- What the thread can read. -/
structure ControlView where
  config : SubscriberConfig
  running : Bool
  interrupted : Bool
  state : SubscriberState
  memory : SessionMemory

namespace ControlView

def goTo (v : ControlView) (next : ControlStage) : ControlResult where
  next := next
  memory := v.memory

def store (v : ControlView) (state : SubscriberState) (error : BulkError)
    (next : ControlStage) : ControlResult where
  next := next
  memory := v.memory
  effect := .store state error

def closeSession (v : ControlView) (discardQueued : Bool) (next : ControlStage) :
    ControlResult :=
  let closed := v.memory.closeSession discardQueued
  { next := next, memory := closed.1, events := closed.2 }

/-! #### `open_subscription` -/

/-- The call returns false before it has published its transport. -/
def failOpen (memory : SessionMemory) (events : List ControlEvent) (caller : OpenCaller)
    (error : BulkError) : ControlResult where
  next := caller.failed error
  memory := memory
  events := events ++ [.ingress .retire, .openReturned caller false memory.call]

def makeIngress (v : ControlView) (caller : OpenCaller) : ControlResult where
  next := .opening caller .build
  memory := { v.memory with
    call := {}
    opens := if caller = .reconnect then v.memory.opens + 1 else v.memory.opens }
  events := [.opening caller, .ingress .make]

def ask (v : ControlView) (caller : OpenCaller) (address : Bytes)
    (instanceId : ClientInstanceId) : ControlResult :=
  let correlation := v.memory.correlation + 1
  let memory := { v.memory with correlation := correlation }
  match makeOpenRequest v.config address instanceId correlation with
  | .error error => failOpen memory [] caller error
  | .ok request =>
    { next := .opening caller (.openCall correlation)
      memory := memory
      events := [.handed .open request] }

/-- The reply of the publisher, if it grants something. -/
def grantOf (correlationId : UInt64) (reply : Bytes) : Option OpenReply :=
  match decodeOpenReply reply with
  | .error _ => none
  | .ok (decoded, envelope) =>
    if decoded.status = .ok ∧ envelope.correlationId = correlationId then some decoded else none

def otherArrayError : BulkError where
  status := .geometryMismatch
  message := "the reopened session describes a different array than the one that was retired; " ++
    "the application must open a new subscription with the new contract in hand"
  origin := "subscriber"

def replied (v : ControlView) (caller : OpenCaller) (correlationId : UInt64) (reply : Bytes) :
    ControlResult :=
  let memory := { v.memory with
    call := { v.memory.call with grant := grantOf correlationId reply } }
  match readGrant v.config memory.retiredGeometry correlationId reply with
  | .refused error => failOpen memory [] caller error
  | .otherArray candidate =>
    let closed := { memory with geometryChanges := memory.geometryChanges + 1 }.handClose candidate
    failOpen closed.1 closed.2 caller otherArrayError
  | .taken candidate =>
    { next := .opening caller .activate
      memory := { memory with session := candidate, currentGeometry := candidate.granted } }

def activated (v : ControlView) (caller : OpenCaller) : Option BulkError → ControlResult
  | some error =>
    let closed := v.memory.handClose v.memory.session
    failOpen { closed.1 with session := .fresh, currentGeometry := .unarmed } closed.2 caller error
  | none =>
    let installed := v.memory.publishTransport true true
    { next := .opening caller .storeProbing
      memory := installed.1
      events := installed.2 ++ [.installed v.memory.currentGeometry] }

def unprobedError : BulkError where
  status := .transportFailure
  message := "the transport failed before the probe was answered"
  origin := "subscriber"

def probeTimeoutError : BulkError where
  status := .transportFailure
  message := "no Probe arrived within probe_timeout_ms; the publisher " ++
    "cannot reach this client's UCX endpoint"
  origin := "subscriber"

/-- One turn of the loop that waits for the probe. -/
def probe (v : ControlView) (caller : OpenCaller) (state : SubscriberState)
    (reported : BulkError) (expired : Bool) : ControlResult :=
  let observed := if v.memory.transport then state else .failed
  if observed = .active then v.goTo (.opening caller .storeActive)
  else if observed = .failed ∨ !v.running then
    let error := if v.memory.transport then reported else noError
    v.goTo (.opening caller (.abandon (if error.status = .ok then unprobedError else error)))
  else if expired then v.goTo (.opening caller (.abandon probeTimeoutError))
  else v.goTo (.opening caller .probe)

def storeActive (v : ControlView) (caller : OpenCaller) : ControlResult where
  next := caller.opened
  memory := { v.memory with opens := 0 }
  effect := .store .active noError
  events := [.openReturned caller true v.memory.call]

/-- The session that was not probed is closed before the call returns false. -/
def abandon (v : ControlView) (caller : OpenCaller) (error : BulkError) : ControlResult :=
  let closed := v.memory.closeSession true
  { next := caller.failed error
    memory := closed.1
    events := closed.2 ++ [.openReturned caller false closed.1.call] }

def openStep (v : ControlView) (caller : OpenCaller) :
    OpenStage → ControlInput → Option ControlResult
  | .makeIngress, .go => some (v.makeIngress caller)
  | .build, .built (some error) => some (failOpen v.memory [] caller error)
  | .build, .built none => some (v.goTo (.opening caller .ask))
  | .ask, .asked address instanceId => some (v.ask caller address instanceId)
  | .ask, .threw error =>
    some (failOpen { v.memory with correlation := v.memory.correlation + 1 } [] caller error)
  | .openCall _, .threw error => some (failOpen v.memory [] caller error)
  | .openCall correlationId, .replied reply => some (v.replied caller correlationId reply)
  | .activate, .activated failure => some (v.activated caller failure)
  | .storeProbing, .go => some (v.store .probing noError (.opening caller .probe))
  | .probe, .observed state reported expired => some (v.probe caller state reported expired)
  | .abandon error, .go => some (v.abandon caller error)
  | .storeActive, .go => some (v.storeActive caller)
  | _, _ => none

/-! #### `SubscriptionFactory::open` -/

def retry (v : ControlView) (attempt : ℕ) (error : BulkError) (expired : Bool) : ControlResult :=
  if v.config.reconnectPolicy = .boundedRetry ∧ attempt < v.config.reconnectMaxAttempts.toNat ∧
      retryableEstablishment error.status ∧ !expired then
    v.goTo (.factory (.storeRetrying attempt error))
  else v.goTo (.factory (.fail error))

def retryBackoff (v : ControlView) (attempt : ℕ) (error : BulkError) (remainingMs : ℤ)
    (expired : Bool) : ControlResult :=
  let delay := backoffDelay attempt v.config.reconnectBackoffMs v.memory.lastLeaseTtlMs
  if 0 < min (delay : ℤ) remainingMs ∧ v.running ∧ !expired then
    v.goTo (.factory (.storeOpening (attempt + 1)))
  else v.goTo (.factory (.fail error))

def factoryStep (v : ControlView) : FactoryStage → ControlInput → Option ControlResult
  | .created, .go => some (v.store .opening noError (.opening (.factory 0) .makeIngress))
  | .openFailed attempt error, .clock _ expired => some (v.retry attempt error expired)
  | .storeRetrying attempt error, .go =>
    some (v.store .reconnecting error (.factory (.backoff attempt error)))
  | .backoff attempt error, .clock remainingMs expired =>
    some (v.retryBackoff attempt error remainingMs expired)
  | .storeOpening attempt, .go =>
    some (v.store .opening noError (.opening (.factory attempt) .makeIngress))
  | .start, .go => some { v.goTo (.session .loop) with effect := .start }
  | .fail error, .go =>
    some { v.goTo (.factory (.storeFailed error)) with effect := .fail error }
  | .storeFailed error, .go => some (v.store .failed error (.factory .shutdown))
  | .shutdown, .go => some { v.closeSession true (.factory .refused) with effect := .stop }
  | _, _ => none

/-! #### `run_session` -/

def disappearedError : BulkError where
  status := .internal
  message := "the transport disappeared"
  origin := "subscriber"

def transportError : BulkError where
  status := .transportFailure
  message := "the transport reported a failure"
  origin := "subscriber"

def look (v : ControlView) (state : SubscriberState) (reported : BulkError) (due : Bool) :
    ControlResult :=
  if !v.memory.transport then v.goTo (.session (.lost disappearedError))
  else if state = .failed then
    v.goTo (.session (.lost (if reported.status ≠ .ok then reported else transportError)))
  else if due then v.goTo (.session .renew)
  else v.goTo (.session .wait)

/-- How `run_session` goes on after a renewal. -/
def renewal (v : ControlView) (status : Status) (session : ClientSession) (error : BulkError) :
    ControlResult :=
  let next : SessionStage :=
    if status = .ok ∨ status = .renewTooFrequent then .wait else .lost error
  { next := .session next
    memory := { v.memory with
      session := session
      renewalsFailed := v.memory.renewalsFailed + if status = .ok then 0 else 1 } }

def renew (v : ControlView) (framesDelivered creditsReturned : UInt64) (clientState : UInt32) :
    ControlResult :=
  let correlation := v.memory.correlation + 1
  let memory := { v.memory with correlation := correlation }
  match memory.session.makeRenewRequest correlation framesDelivered creditsReturned
      clientState with
  | .error error => { v with memory := memory }.renewal error.status memory.session error
  | .ok request =>
    { next := .session (.renewCall correlation)
      memory := { memory with renewalsSent := memory.renewalsSent + 1 }
      events := [.handed .renew request] }

def renewReplied (v : ControlView) (correlationId : UInt64) (reply : Bytes) : ControlResult :=
  let adopted := v.memory.session.adoptRenewReply reply correlationId
  v.renewal adopted.1 adopted.2
    { status := adopted.1
      message := "BulkRenew was refused: " ++ adopted.1.toString
      origin := "subscriber" }

/-- A step that goes on while the subscription runs. -/
def whileRunning (v : ControlView) (next : ControlStage) : ControlResult :=
  v.goTo (if v.running then next else .leave .interrupted)

lemma whileRunning_next (v : ControlView) (next : ControlStage) :
    (v.whileRunning next).next = next ∨
      v.running = false ∧ (v.whileRunning next).next = .leave .interrupted := by
  cases hrunning : v.running <;> simp [whileRunning, goTo, hrunning]

def sessionStep (v : ControlView) : SessionStage → ControlInput → Option ControlResult
  | .loop, .go => some (v.whileRunning (.session .wait))
  | .wait, .go => some (v.whileRunning (.session .woken))
  | .woken, .go => some (v.whileRunning (.session .look))
  | .look, .observed state reported due => some (v.look state reported due)
  | .renew, .renewed framesDelivered creditsReturned clientState =>
    some (v.renew framesDelivered creditsReturned clientState)
  | .renewCall correlationId, .replied reply => some (v.renewReplied correlationId reply)
  | .renewCall _, .threw error => some (v.renewal error.status v.memory.session error)
  | .lost error, .go => some (v.closeSession false (.session (.closed error)))
  | .closed error, .go => some (v.whileRunning (.reconnect (.policy error)))
  | _, _ => none

/-! #### `reconnect` -/

/-- The attempt that the loop of `reconnect` is about to make, if there is one left. -/
def nextAttempt (v : ControlView) (error : BulkError) : ReconnectStage :=
  if v.config.reconnectMaxAttempts.toNat ≤ v.memory.attempt then
    .fail { error with message := "reconnect attempts exhausted: " ++ error.message }
  else .storeReconnecting error

def storeReconnecting (v : ControlView) (error : BulkError) : ControlResult where
  next := .reconnect .backoff
  memory := { v.memory with reconnects := v.memory.reconnects + 1 }
  effect := .store .reconnecting error

def backoff (v : ControlView) : ControlResult :=
  if 0 < backoffDelay v.memory.attempt v.config.reconnectBackoffMs v.memory.lastLeaseTtlMs then
    v.goTo (.reconnect .woken)
  else v.goTo (.leave .interrupted)

def backoffWoken (v : ControlView) : ControlResult :=
  if v.running then
    { next := .reconnect .storeOpening
      memory := { v.memory with attempt := v.memory.attempt + 1 }
      events := [.ingress (.discard true)] }
  else v.goTo (.leave .interrupted)

def reconnectStep (v : ControlView) : ReconnectStage → ControlInput → Option ControlResult
  | .policy error, .go =>
    some (v.goTo (.reconnect (if v.config.reconnectPolicy = .boundedRetry then .attempt error
      else .fail error)))
  | .attempt error, .go => some (v.whileRunning (.reconnect (v.nextAttempt error)))
  | .storeReconnecting error, .go => some (v.storeReconnecting error)
  | .backoff, .go => some v.backoff
  | .woken, .go => some v.backoffWoken
  | .storeOpening, .go => some (v.store .opening noError (.opening .reconnect .makeIngress))
  | .opened, .go => some { v.goTo (.session .loop) with memory := { v.memory with attempt := 0 } }
  | .openFailed error, .go =>
    some (v.goTo (.reconnect (if error.status = .geometryMismatch then .fail error
      else .attempt error)))
  | .fail error, .go =>
    some { v.goTo (.reconnect (.storeFailed error)) with effect := .fail error }
  | .storeFailed error, .go => some (v.store .failed error (.leave .interrupted))
  | _, _ => none

/-! #### The end of `control_loop` -/

def leaveStep (v : ControlView) : LeaveStage → ControlInput → Option ControlResult
  | .interrupted, .go => some (v.goTo (.leave (if v.interrupted then .state else .close)))
  | .close, .go => some (v.closeSession true (.leave .state))
  | .state, .go =>
    some { v.goTo (.leave .finished) with effect := if v.state = .failed then .stop else .none }
  | _, _ => none

/-- One step of the thread. -/
def program (v : ControlView) (input : ControlInput) : ControlStage → Option ControlResult
  | .factory stage => v.factoryStep stage input
  | .opening caller stage => v.openStep caller stage input
  | .session stage => v.sessionStep stage input
  | .reconnect stage => v.reconnectStep stage input
  | .leave stage => v.leaveStep stage input

end ControlView

end TangoBulk
