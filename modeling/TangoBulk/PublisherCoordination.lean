import TangoBulk.PublisherMachine
import TangoBulk.PublisherRoster

/-! The coordination plane against the engine, one atomic access after another. Control threads
exclude each other by `session_mutex`, which an Open holds for its selection and again for its
claim but not in between; the engine takes no lock, and what it does is one thread's program. -/
namespace TangoBulk

open ByteString Transition

/-- A call of `handle_open`. `began` and `ended` are positions in the order in which Opens start and
are answered, and `n` counts the tenancies of seat `k` up to this one. -/
inductive OpenCall
  | unused
  -- the seat is selected, the endpoint is being made
  | selected (k : ℕ) (request : OpenRequest) (began : ℕ)
  -- the lock is released again, the reply is not built yet
  | claimed (k n : ℕ) (request : OpenRequest) (began : ℕ)
  | granted (k n : ℕ) (reply : OpenReply) (began ended : ℕ)
  | failed (result : Except BulkError Publisher.CoordinationReply)

namespace OpenCall

/-- Under way, past its selection. -/
def outstanding : OpenCall → Bool
  | .selected .. | .claimed .. => true
  | _ => false

/-- The tenancy this call began. -/
def tenure : OpenCall → Option (ℕ × ℕ)
  | .claimed k n _ _ | .granted k n _ _ _ => some (k, n)
  | _ => none

def began : OpenCall → ℕ
  | .selected _ _ b | .claimed _ _ _ b | .granted _ _ _ b _ => b
  | _ => 0

def reply : OpenCall → Option OpenReply
  | .granted _ _ r _ _ => some r
  | _ => none

def ended : OpenCall → Option ℕ
  | .granted _ _ _ _ e => some e
  | _ => none

/-- This call was answered before the other one began. -/
def precedes (x y : OpenCall) : Bool := x.ended.any fun e => e < y.began

def overlaps (x y : OpenCall) : Bool := !x.precedes y && !y.precedes x

end OpenCall

/-- The loops of the engine that visit every seat: `sweep_sessions` with its one reading of the
clock, and `shutdown_all_sessions`. -/
inductive SeatLoop
  | sweeping (now : ℕ) (rest : List ℕ)
  | stopping (rest : List ℕ)

/-- What such a loop does at a seat: `begin_expiry`, the test for `Expiring`, and the teardown, whose
bounded waits run callbacks. -/
inductive SeatVisit
  | ending (stage : EndStage)
  | judging
  | tearing

/-- Where the engine thread is. -/
inductive EngineTask
  | idle
  | fanning (item : PublishItem) (rest : List ℕ)
  -- the seat was eligible and has credit; `submit_to` is next
  | sending (item : PublishItem) (k : ℕ) (rest : List ℕ)
  -- `begin_expiry` of a session whose send was refused
  | failing (item : PublishItem) (k : ℕ) (rest : List ℕ) (stage : EndStage)
  | dropping (item : PublishItem) (rest : List ℕ)
  | looping (loop : SeatLoop)
  | visiting (k : ℕ) (visit : SeatVisit) (loop : SeatLoop)

/-- `ucp_worker_progress` runs callbacks here. -/
def EngineTask.progresses : EngineTask → Bool
  | .idle | .visiting _ .tearing _ => true
  | _ => false

/-- `closing` is the Close that holds `session_mutex`, `arming` the ProbeAck whose session was found
and whose CAS is next, and `tenancy k` counts the claims of seat `k`. -/
structure CoordState where
  publisher : Publisher
  opens : ℕ → OpenCall := fun _ => .unused
  calls : ℕ := 0
  clock : ℕ := 0
  tenancy : ℕ → ℕ := fun _ => 0
  closing : Option (ℕ × EndStage) := none
  engine : EngineTask := .idle
  arming : Option (ℕ × UInt64 × UInt64) := none
  exited : Bool := false

inductive CoordInput
  -- a call that touches no seat's place in its life, as one step
  | call (input : PublisherInput)
  | openSelect (request : OpenRequest)
  | openConnectFailed (call : ℕ)
  | openClaim (call : ℕ) (fresh : Publisher.Fresh)
  | openClaimThrows (call : ℕ) (failure : Publisher.DrawFailure) (what : String)
  | openReply (call : ℕ)
  | close (request : CloseRequest)
  | closeStep
  | submitReady
  | startSweep (now : ℕ)
  | startStop
  | probeAck (header : Bytes)
  | armStep
  | engineStep (answer : SendAnswer)

/-- What happens to tenancy `n` of seat `k`. -/
inductive CoordEvent
  | opened (k n : ℕ) (streamId probeToken : UInt64)
  -- the ProbeAck with these fields armed the session
  | acked (k n : ℕ) (streamId probeToken : UInt64)
  | submitted (k n : ℕ)
  -- the CAS of `begin_expiry` with this reason won
  | ended (k n : ℕ) (reason : EndReason)
  | tornDown (k n : ℕ)
  deriving DecidableEq

namespace CoordState

/-! ### Open -/

def answerOpen (s : CoordState) (call : ℕ) (x : OpenCall) : CoordState :=
  { s with opens := Function.update s.opens call x, clock := s.clock + 1 }

/-- `handle_open` up to the end of its first critical section. -/
def openSelect (s : CoordState) (request : OpenRequest) : Option CoordState :=
  let numbered := { s with calls := s.calls + 1 }
  match s.publisher.screenOpen request with
  | .throws e => some (numbered.answerOpen s.calls (.failed (.error e)))
  | .refused m => some (numbered.answerOpen s.calls (.failed (.ok (.error m))))
  | .granted _ =>
    if s.closing.isSome then none
    else
      match s.publisher.selectSeat with
      | none =>
        let refusal : ErrorMessage :=
          { status := .tooManySessions, message := textBytes "no free session on this publisher" }
        some ({ numbered with publisher := s.publisher.bump .sessionsRejected 1 }.answerOpen s.calls
          (.failed (.ok (.error refusal))))
      | some k => some (numbered.answerOpen s.calls (.selected k request s.clock))

/-- The endpoint could not be made. -/
def openConnectFailed (s : CoordState) (call : ℕ) : Option CoordState :=
  match s.opens call with
  | .selected _ _ _ =>
    let error : BulkError :=
      { status := .transportFailure, message := "could not create an endpoint to the client",
        origin := "publisher" }
    some (s.answerOpen call (.failed (.error error)))
  | _ => none

/-- The second critical section of `handle_open`. -/
def openClaim (s : CoordState) (call : ℕ) (fresh : Publisher.Fresh) :
    Option (CoordState × List CoordEvent) :=
  match s.opens call with
  | .selected k request began =>
    if s.closing.isSome then none
    else
      let n := s.tenancy k + 1
      some ({ s with
        publisher := s.publisher.claimSeat k request fresh
        opens := Function.update s.opens call (.claimed k n request began)
        tenancy := Function.update s.tenancy k n },
        [.opened k n fresh.streamId fresh.probeToken])
  | _ => none

/-- The second critical section of `handle_open`, left by an exception of the random generator. -/
def openClaimThrows (s : CoordState) (call : ℕ) (failure : Publisher.DrawFailure) (what : String) :
    Option CoordState :=
  match s.opens call with
  | .selected k _ _ =>
    if s.closing.isSome then none
    else
      some ({ s with publisher := s.publisher.abandonClaim k failure }.answerOpen call
        (.failed (.error (Publisher.rngFailure what))))
  | _ => none

/-- The reply is built from what the seat holds, outside the lock. -/
def openReply (s : CoordState) (call : ℕ) : Option CoordState :=
  match s.opens call with
  | .claimed k n request began =>
    some (s.answerOpen call
      (.granted k n (s.publisher.openReplyFor k request) began s.clock))
  | _ => none

/-! ### Ends -/

/-- A step of `begin_expiry`, whoever runs it: what follows it and what it reports. -/
def endStep (s : CoordState) (k : ℕ) (reason : EndReason) (stage : EndStage) :
    CoordState × Option EndStage × List CoordEvent :=
  let done := s.publisher.endStep k reason stage
  ({ s with publisher := done.1 }, done.2,
    if done.2 = some .claimed then [.ended k (s.tenancy k) reason] else [])

/-- `handle_close` takes the lock and finds its session. -/
def close (s : CoordState) (request : CloseRequest) : Option CoordState :=
  if s.closing.isSome then none
  else
    some { s with closing := (s.publisher.sessionForId request.sessionId).map fun k => (k, .begun) }

def closeStep (s : CoordState) : Option (CoordState × List CoordEvent) :=
  match s.closing with
  | none => none
  | some (k, stage) =>
    let done := s.endStep k .close stage
    some ({ done.1 with closing := done.2.1.map fun next => (k, next) }, done.2.2)

/-! ### The engine -/

/-- One turn of `submit_ready_frames` begins. -/
def submitReady (s : CoordState) : Option CoordState :=
  match s.engine with
  | .idle =>
    if s.publisher.running ∧ s.arming.isNone then
      s.publisher.publishQueue.pop.map fun popped =>
        { s with
          publisher := { s.publisher with publishQueue := popped.2 }.startFanOut popped.1
          engine := .fanning popped.1 s.publisher.seats }
    else none
  | _ => none

def startSweep (s : CoordState) (now : ℕ) : Option CoordState :=
  match s.engine with
  | .idle =>
    if s.publisher.running ∧ s.arming.isNone then
      some { s with engine := .looping (.sweeping now s.publisher.seats) }
    else none
  | _ => none

/-- The engine leaves its loop. -/
def startStop (s : CoordState) : Option CoordState :=
  match s.engine with
  | .idle =>
    if !s.publisher.running ∧ !s.exited ∧ s.arming.isNone then
      some { s with engine := .looping (.stopping s.publisher.seats), exited := true }
    else none
  | _ => none

/-- `handle_probe_ack` up to its CAS. -/
def probeAck (s : CoordState) (header : Bytes) : Option CoordState :=
  let malformed := { s with publisher := s.publisher.bump .malformedMessages 1 }
  if s.engine.progresses ∧ s.arming.isNone then
    match decodeProbeAck header with
    | .error _ => some malformed
    | .ok ack =>
      match s.publisher.sessionForStream ack.streamId with
      | none => some malformed
      | some k =>
        if ack.value ≠ (s.publisher.sessions k).probeToken then some malformed
        else some { s with arming := some (k, ack.streamId, ack.value) }
  else none

def armStep (s : CoordState) : Option (CoordState × List CoordEvent) :=
  match s.arming with
  | none => none
  | some (k, streamId, token) =>
    some ({ s with publisher := s.publisher.arm k, arming := none },
      if (s.publisher.sessions k).state = .open then [.acked k (s.tenancy k) streamId token] else [])

def SeatLoop.next (p : Publisher) : SeatLoop → EngineTask
  | .sweeping _ [] | .stopping [] => .idle
  | .sweeping now (k :: rest) =>
    if (p.sessions k).state.live ∧ (p.sessions k).deadlineMs ≤ now then
      .visiting k (.ending .begun) (.sweeping now rest)
    else .visiting k .judging (.sweeping now rest)
  | .stopping (k :: rest) => .visiting k (.ending .begun) (.stopping rest)

/-- The next access of the engine; `answer` is the transport's where it is asked. -/
def engineStep (s : CoordState) (answer : SendAnswer) : Option (CoordState × List CoordEvent) :=
  match s.engine with
  | .idle => none
  | .fanning item [] =>
    some ({ s with publisher := s.publisher.finishFanOut item, engine := .idle }, [])
  | .fanning item (k :: rest) =>
    let visited := s.publisher.visitSeat item k
    some ({ s with
      publisher := visited.2
      engine := if visited.1 then .sending item k rest else .fanning item rest }, [])
  | .sending item k rest =>
    let sent := s.publisher.trySend k item answer
    if sent.1 then
      some ({ s with publisher := sent.2, engine := .fanning item rest },
        [.submitted k (s.tenancy k)])
    else some ({ s with publisher := sent.2, engine := .failing item k rest .begun }, [])
  | .failing item k rest stage =>
    let done := s.endStep k .transport stage
    some ({ done.1 with
      engine := match done.2.1 with
        | some next => .failing item k rest next
        | none => .dropping item rest }, done.2.2)
  | .dropping item rest =>
    some ({ s with
      publisher := s.publisher.unref item.slotIndex
      engine := .fanning item rest }, [])
  | .looping loop => some ({ s with engine := SeatLoop.next s.publisher loop }, [])
  | .visiting k (.ending stage) loop =>
    let done := s.endStep k .expire stage
    some ({ done.1 with
      engine := match done.2.1 with
        | some next => .visiting k (.ending next) loop
        | none => .visiting k .judging loop }, done.2.2)
  | .visiting k .judging loop =>
    let expiring := (s.publisher.sessions k).state = .expiring
    some ({ s with engine := if expiring then .visiting k .tearing loop else .looping loop }, [])
  | .visiting k .tearing loop =>
    some ({ s with publisher := s.publisher.teardown k, engine := .looping loop },
      [.tornDown k (s.tenancy k)])

/-! ### The whole -/

/-- Whose call it is, and when that thread may make it: the application at any time, a callback
inside progress, a probe between the engine's tasks, a Renew while the lock is free. -/
def mayCall (s : CoordState) : PublisherInput → Bool
  | .acquire | .reset _ | .publish .. | .shutdown => true
  | .complete .. | .credit _ => s.engine.progresses && s.arming.isNone
  | .probe .. =>
    match s.engine with
    | .idle => s.publisher.running && s.arming.isNone
    | _ => false
  | .renew .. => s.closing.isNone
  | _ => false

def step (s : CoordState) : CoordInput → Option (CoordState × List CoordEvent)
  | .call input =>
    if s.mayCall input then
      (publisherStep s.publisher input).map fun done => ({ s with publisher := done.1 }, [])
    else none
  | .openSelect request => (s.openSelect request).map fun s' => (s', [])
  | .openConnectFailed call => (s.openConnectFailed call).map fun s' => (s', [])
  | .openClaim call fresh => s.openClaim call fresh
  | .openClaimThrows call failure what =>
    (s.openClaimThrows call failure what).map fun s' => (s', [])
  | .openReply call => (s.openReply call).map fun s' => (s', [])
  | .close request => (s.close request).map fun s' => (s', [])
  | .closeStep => s.closeStep
  | .submitReady => s.submitReady.map fun s' => (s', [])
  | .startSweep now => (s.startSweep now).map fun s' => (s', [])
  | .startStop => s.startStop.map fun s' => (s', [])
  | .probeAck header => (s.probeAck header).map fun s' => (s', [])
  | .armStep => s.armStep
  | .engineStep answer => if s.arming.isNone then s.engineStep answer else none

/-- A publisher as constructed, before its first call. -/
def start (c : PublisherConfig) (serverEpochId : UInt64) (workerAddress : Bytes) : CoordState where
  publisher := .create c serverEpochId workerAddress

end CoordState

def coordMachine : Machine CoordState CoordInput CoordEvent := ⟨CoordState.step⟩

end TangoBulk
