import TangoBulk.BoundedQueue
import TangoBulk.CreditWindow
import TangoBulk.ProtocolCoord

/-! The publisher: its producer slots, its session table, and what application threads, the
engine and the coordination plane do to them. Each definition is one uninterrupted piece of
the source; what the transport answers, random identifiers and the clock are arguments. -/
namespace TangoBulk

open ByteString

inductive EndReason
  | none | close | expire | transport
  deriving DecidableEq

structure PublishItem where
  slotIndex : ℕ
  payloadBytes : UInt64
  ordinal : ℕ
  header : FrameHeader
  deriving DecidableEq

/-- A send in flight to one session: its header and what it reads. -/
structure InFlight where
  header : Bytes := []
  slotIndex : ℕ := 0
  ordinal : ℕ := 0
  deriving DecidableEq

/-- One client's lease over the stream. `inflight` is indexed by `sequence % ringDepth` of the
publisher, and `ep` is whether the endpoint exists. -/
structure Session where
  id : SessionId := .zero
  streamId : UInt64 := 0
  probeToken : UInt64 := 0
  geometry : GeometryBlock
  receiveMemoryKind : MemoryKind := .host
  state : SessionState := .unknown
  deadlineMs : ℕ := 0
  endReason : EndReason := .none
  retiredSeq : ℕ := 0
  poisoned : Bool := false
  rateWindowStartMs : ℕ := 0
  renewalsInWindow : ℕ := 0
  lastActivityMs : ℕ := 0
  ep : Bool := false
  probeSent : Bool := false
  window : CreditWindow
  inflight : ℕ → InFlight := fun _ => {}
  droppedForSession : ℕ := 0
  processedOrdinal : ℕ := 0
  sendsInflight : ℕ := 0

/-- A transport send that has started and not completed. -/
structure Send where
  seat : ℕ
  sequence : ℕ
  slotIndex : ℕ
  headerIndex : ℕ
  deriving DecidableEq

inductive PublisherCounter
  | framesPublished | framesSubmitted | framesCompleted | framesCredited | droppedNoSession
  | droppedQueueFull | droppedCreditStalled | droppedBadMetadata | acquireFailed
  | sessionsOpened | sessionsClosed | sessionsExpired | sessionsRejected | renewalsAccepted
  | renewalsLate | renewalsRejected | malformedMessages | transportErrors
  deriving DecidableEq

/-- What is watched but not acted on: a failed assertion, a slot pushed to the free list or a
header rewritten while a send that uses it is outstanding, and the frames withheld from a
session because its window was closed, as `(seat, ordinal)`. -/
structure Monitor where
  assertFailed : Bool := false
  freedBusy : Bool := false
  rewroteBusy : Bool := false
  withheld : List (ℕ × ℕ) := []
  deriving DecidableEq

/-- `handles` lists the slots of the engaged `SlotHandle`s and `sends` the outstanding
transport sends. -/
structure Publisher where
  config : PublisherConfig
  serverEpochId : UInt64
  workerAddress : Bytes
  freeSlots : Fifo ℕ
  handles : List ℕ := []
  publishQueue : Fifo PublishItem
  slotRefs : ℕ → ℕ := fun _ => 0
  sessions : ℕ → Session
  counters : PublisherCounter → ℕ := fun _ => 0
  admitted : ℕ := 0
  credited : ℕ := 0
  allActiveAdmissionLimit : ℕ := 2 ^ 64 - 1
  droppedBeforeAll : ℕ := 0
  armedSessions : ℕ := 0
  running : Bool := true
  retireCounter : ℕ := 0
  generation : UInt32 := 1
  sends : List Send := []
  monitor : Monitor := {}

inductive PublishResult
  | accepted | noSession | queueFull | creditStalled | badMetadata | shutdown | wouldBlock
  deriving DecidableEq

/-- What `ucp_am_send_nbx` answers: an error, completion at once, or a request. -/
inductive SendAnswer
  | refused | completed | pending
  deriving DecidableEq

def SessionState.live (s : SessionState) : Bool := s = .open ∨ s = .armed ∨ s = .active

def SessionState.eligible (s : SessionState) : Bool := s = .armed ∨ s = .active

namespace Publisher

def depth (p : Publisher) : ℕ := p.config.ringDepth.toNat

def seats (p : Publisher) : List ℕ := List.range p.config.maxSessions.toNat

def currentGeometry (p : Publisher) : GeometryBlock where
  generation := p.generation
  elementType := p.config.frameMetadata.elementType
  elementSize := p.config.frameMetadata.elementSize
  rank := p.config.frameMetadata.rank
  maxFrameBytes := p.config.maxFrameBytes
  ringDepth := p.config.ringDepth
  creditWindow := p.config.creditWindow
  shape := p.config.frameMetadata.shape
  strides := p.config.frameMetadata.strides

/-- An unused seat of the session table. -/
def emptySession (c : PublisherConfig) : Session where
  geometry :=
    { generation := 0, elementType := .unknown, elementSize := 0, rank := 0, maxFrameBytes := 0,
      ringDepth := 0, creditWindow := 0, shape := Dims.zero, strides := Dims.zero }
  window := { ringDepth := c.ringDepth.toNat, width := c.creditWindow.toNat }

/-- `ProducerSlots`' free list starts with every index. -/
def fillSlots (depth : ℕ) : Fifo ℕ :=
  (List.range depth).foldl (fun free i => (free.push i).getD free) (boundedQueue depth)

/-- The publisher as the constructor leaves it. -/
def create (c : PublisherConfig) (serverEpochId : UInt64) (workerAddress : Bytes) :
    Publisher where
  config := c
  serverEpochId := serverEpochId
  workerAddress := workerAddress
  freeSlots := fillSlots c.ringDepth.toNat
  publishQueue := boundedQueue c.publishQueueDepth.toNat
  sessions := fun _ => emptySession c

def bump (p : Publisher) (c : PublisherCounter) (n : ℕ) : Publisher :=
  { p with counters := Function.update p.counters c (p.counters c + n) }

def setSession (p : Publisher) (k : ℕ) (s : Session) : Publisher :=
  { p with sessions := Function.update p.sessions k s }

@[simp] lemma setSession_self (p : Publisher) (k : ℕ) (s : Session) :
    (p.setSession k s).sessions k = s := by
  simp [setSession]

lemma setSession_of_ne (p : Publisher) {j k : ℕ} (s : Session) (h : j ≠ k) :
    (p.setSession k s).sessions j = p.sessions j := by
  simp [setSession, Function.update_of_ne h]

def failAssertion (p : Publisher) : Publisher :=
  { p with monitor := { p.monitor with assertFailed := true } }

/-! ### Producer slots -/

/-- `ProducerSlots::release`. Calls on the free list are taken whole: the push is refused only when
the list is full. -/
def releaseSlot (p : Publisher) (i : ℕ) : Publisher :=
  let watched := { p with monitor := { p.monitor with
    freedBusy := p.monitor.freedBusy || p.sends.any (·.slotIndex = i) } }
  match p.freeSlots.push i with
  | some free => { watched with freeSlots := free }
  | none => watched.failAssertion

def tryAcquire (p : Publisher) : Option ℕ × Publisher :=
  match p.freeSlots.pop with
  | none => (none, p.bump .acquireFailed 1)
  | some (i, free) => (some i, { p with freeSlots := free, handles := i :: p.handles })

/-- `SlotHandle::reset` of an engaged handle, and what its destructor and a move onto it do. -/
def resetHandle (p : Publisher) (i : ℕ) : Publisher :=
  { p with handles := p.handles.erase i }.releaseSlot i

/-- Drop one claim on a producer slot; hand it back at zero. -/
def releaseSlotRef (p : Publisher) (i : ℕ) : Publisher :=
  match p.slotRefs i with
  | 0 => p.failAssertion
  | refs + 1 =>
    let dropped := { p with slotRefs := Function.update p.slotRefs i refs }
    if refs = 0 then dropped.releaseSlot i else dropped

/-! ### Admission -/

/-- How far a session has got, in publisher ordinals. -/
def retiredOrdinal (p : Publisher) (s : Session) : ℕ :=
  if s.window.outstanding = 0 then s.processedOrdinal
  else (s.inflight (s.window.creditedEnd % p.depth)).ordinal

def armedSeats (p : Publisher) : List ℕ := p.seats.filter fun k => (p.sessions k).state.eligible

/-- Publisher-wide admission headroom, recomputed on the engine. -/
def refreshGauges (p : Publisher) : Publisher :=
  let retired := p.armedSeats.map fun k => p.retiredOrdinal (p.sessions k)
  let best := retired.foldl max 0
  let worst := retired.foldl min p.admitted
  let strictLimit := p.armedSeats.foldl
    (fun limit k => min limit
      (p.retiredOrdinal (p.sessions k) + (p.sessions k).geometry.creditWindow.toNat)) (2 ^ 64 - 1)
  { p with
    credited :=
      if p.armedSeats = [] then p.admitted
      else if p.config.fanoutMode = .allActive then worst else best
    allActiveAdmissionLimit := if p.armedSeats = [] then 2 ^ 64 - 1 else strictLimit
    armedSessions := p.armedSeats.length }

/-! ### Publishing -/

/-- The checks `publish` makes before it takes the reservation. -/
def screenPublish (p : Publisher) (metadata : FrameMetadata) :
    Except PublishResult FrameMetadata :=
  let resolved := metadata.resolve p.config.maxFrameBytes
  if !p.running then .error .shutdown
  else if resolved.1 ≠ .ok ∨ p.config.maxFrameBytes < resolved.2.payloadBytes then
    .error .badMetadata
  else if 0 < p.config.frameMetadata.rank ∧
      !resolved.2.describesSameArray p.config.frameMetadata then .error .badMetadata
  else if p.armedSessions = 0 then .error .noSession
  else .ok resolved.2

/-- The admission decision under the reservation, from the loaded counters; `none` admits. -/
def admission (p : Publisher) (admitted credited : ℕ) : Option PublishResult :=
  if p.config.fanoutMode = .allActive ∧ p.allActiveAdmissionLimit ≤ admitted then
    some .wouldBlock
  else if p.config.fanoutMode = .bestEffort ∧
      p.config.creditWindow.toNat ≤ (admitted + 2 ^ 64 - credited) % 2 ^ 64 then
    some .creditStalled
  else none

def makeItem (p : Publisher) (i : ℕ) (resolved : FrameMetadata) (realtimeNs : UInt64)
    (ordinal : ℕ) : PublishItem where
  slotIndex := i
  payloadBytes := resolved.payloadBytes
  ordinal := ordinal
  header :=
    { generation := p.generation
      streamId := 0
      sequence := 0
      payloadBytes := resolved.payloadBytes
      timestampNs := if resolved.timestampNs ≠ 0 then resolved.timestampNs else realtimeNs
      eventCounter := resolved.eventCounter
      droppedBefore := 0
      elementType := resolved.elementType
      elementSize := resolved.elementSize
      rank := resolved.rank
      quality := resolved.quality
      memoryKind := resolved.memoryKind
      endian := resolved.endian
      shape := resolved.shape
      strides := resolved.strides }

/-- The counters and the lease of a publish that is not accepted: `queueFull` and
`wouldBlock` leave the lease with the caller. -/
def refusePublish (p : Publisher) (i : ℕ) : PublishResult → Publisher
  | .shutdown => p.resetHandle i
  | .badMetadata => (p.bump .droppedBadMetadata 1).resetHandle i
  | .noSession =>
    { p.bump .droppedNoSession 1 with droppedBeforeAll := p.droppedBeforeAll + 1 }.resetHandle i
  | .creditStalled =>
    { p.bump .droppedCreditStalled 1 with
      droppedBeforeAll := p.droppedBeforeAll + 1 }.resetHandle i
  | .queueFull => p.bump .droppedQueueFull 1
  | .wouldBlock | .accepted => p

/-- The item is in the queue: count it and let go of the lease. -/
def acceptPublish (p : Publisher) (i : ℕ) : Publisher :=
  { p with admitted := p.admitted + 1, handles := p.handles.erase i }.bump .framesPublished 1

/-- `publish` of the lease of slot `i` as one step. `contended` is whether another publish
holds the reservation. -/
def publishLease (p : Publisher) (i : ℕ) (metadata : FrameMetadata) (realtimeNs : UInt64)
    (contended : Bool) : PublishResult × Publisher :=
  match p.screenPublish metadata with
  | .error result => (result, p.refusePublish i result)
  | .ok resolved =>
    if contended then (.queueFull, p.refusePublish i .queueFull)
    else
      match p.admission p.admitted p.credited with
      | some result => (result, p.refusePublish i result)
      | none =>
        match p.publishQueue.push (p.makeItem i resolved realtimeNs p.admitted) with
        | none => (.queueFull, p.refusePublish i .queueFull)
        | some queue => (.accepted, { p with publishQueue := queue }.acceptPublish i)

/-- `publish`; an empty handle is refused at once. -/
def publish (p : Publisher) (lease : Option ℕ) (metadata : FrameMetadata) (realtimeNs : UInt64)
    (contended : Bool) : PublishResult × Publisher :=
  match lease with
  | none => (.badMetadata, p)
  | some i => p.publishLease i metadata realtimeNs contended

/-! ### Ending a session -/

/-- The load and the CAS of `begin_expiry`: whether this caller ends the session. -/
def claimEnd (p : Publisher) (k : ℕ) (reason : EndReason) : Bool × Publisher :=
  let s := p.sessions k
  if s.state.live ∧ s.endReason = .none then (true, p.setSession k { s with endReason := reason })
  else (false, p)

/-- The store of `begin_expiry`. -/
def storeExpiring (p : Publisher) (k : ℕ) : Publisher :=
  p.setSession k { p.sessions k with state := .expiring }

def beginExpiry (p : Publisher) (k : ℕ) (reason : EndReason) : Bool × Publisher :=
  if (p.claimEnd k reason).1 then (true, (p.claimEnd k reason).2.storeExpiring k)
  else (false, p)

/-! ### Fan-out -/

/-- The header `submit_to` completes for one session. -/
def sessionHeader (p : Publisher) (s : Session) (item : PublishItem) : FrameHeader :=
  { item.header with
    sequence := UInt64.ofNat s.window.nextSequence
    streamId := s.streamId
    droppedBefore := UInt64.ofNat (p.droppedBeforeAll + s.droppedForSession) }

/-- The entry `submit_to` writes for the session's next sequence. -/
def inFlightEntry (p : Publisher) (s : Session) (item : PublishItem) : InFlight where
  header := encodeFrame (p.sessionHeader s item)
  slotIndex := item.slotIndex
  ordinal := item.ordinal

/-- The session with the entry of its next sequence written. -/
def recordedSession (p : Publisher) (s : Session) (item : PublishItem) : Session :=
  { s with
    inflight := Function.update s.inflight (s.window.nextSequence % p.depth)
      (p.inFlightEntry s item) }

lemma recordedSession_entry (p : Publisher) (s : Session) (item : PublishItem) :
    (p.recordedSession s item).inflight (s.window.nextSequence % p.depth) =
      p.inFlightEntry s item :=
  Function.update_self ..

/-- The write of the `InFlight` entry before the send. -/
def recordInFlight (p : Publisher) (k : ℕ) (item : PublishItem) : Publisher :=
  let s := p.sessions k
  let index := s.window.nextSequence % p.depth
  { p.setSession k (p.recordedSession s item) with
    monitor := { p.monitor with
      rewroteBusy := p.monitor.rewroteBusy ||
        p.sends.any fun send => send.seat = k ∧ send.headerIndex = index } }

lemma recordInFlight_session (p : Publisher) (k : ℕ) (item : PublishItem) :
    (p.recordInFlight k item).sessions k = p.recordedSession (p.sessions k) item :=
  p.setSession_self k _

/-- What an accepted send does to its session: the window advances, an armed session becomes
active and a request that is not complete is counted. -/
def noteSentSession (s : Session) (pending : Bool) : Session :=
  { s with
    window := s.window.noteSubmitted.2
    state := if s.state = .armed then .active else s.state
    sendsInflight := if pending then s.sendsInflight + 1 else s.sendsInflight }

def noteSent (p : Publisher) (k : ℕ) (item : PublishItem) (pending : Bool) : Publisher :=
  let sequence := (p.sessions k).window.nextSequence
  let counted := (p.setSession k (noteSentSession (p.sessions k) pending)).bump .framesSubmitted 1
  if pending then
    { counted with
      sends :=
        { seat := k, sequence, slotIndex := item.slotIndex, headerIndex := sequence % p.depth } ::
          p.sends }
  else counted.bump .framesCompleted 1

/-- `submit_to` up to the end of a session whose send is refused. -/
def trySend (p : Publisher) (k : ℕ) (item : PublishItem) (answer : SendAnswer) :
    Bool × Publisher :=
  let recorded := p.recordInFlight k item
  match answer with
  | .refused => (false, recorded.bump .transportErrors 1)
  | .completed => (true, recorded.noteSent k item false)
  | .pending => (true, recorded.noteSent k item true)

def submitTo (p : Publisher) (k : ℕ) (item : PublishItem) (answer : SendAnswer) :
    Bool × Publisher :=
  let sent := p.trySend k item answer
  if sent.1 then sent else (false, (sent.2.beginExpiry k .transport).2)

lemma submitTo_refused (p : Publisher) (k : ℕ) (item : PublishItem) :
    p.submitTo k item .refused =
      (false, (((p.recordInFlight k item).bump .transportErrors 1).beginExpiry k .transport).2) :=
  rfl

lemma submitTo_completed (p : Publisher) (k : ℕ) (item : PublishItem) :
    p.submitTo k item .completed = (true, (p.recordInFlight k item).noteSent k item false) := rfl

lemma submitTo_pending (p : Publisher) (k : ℕ) (item : PublishItem) :
    p.submitTo k item .pending = (true, (p.recordInFlight k item).noteSent k item true) := rfl

/-- The eligibility check of `fan_out` for one seat. A session without credit is skipped and
records the gap; for the others the slot gains a reference. -/
def visitSeat (p : Publisher) (item : PublishItem) (k : ℕ) : Bool × Publisher :=
  let s := p.sessions k
  if !s.state.eligible then (false, p)
  else
    let seen := { s with processedOrdinal := item.ordinal + 1 }
    if !s.window.canSubmit then
      (false, { p.setSession k { seen with droppedForSession := s.droppedForSession + 1 } with
        monitor := { p.monitor with withheld := (k, item.ordinal) :: p.monitor.withheld } })
    else
      (true, { p.setSession k seen with
        slotRefs := Function.update p.slotRefs item.slotIndex (p.slotRefs item.slotIndex + 1) })

/-- Take back the reference of a send that was refused. -/
def unref (p : Publisher) (i : ℕ) : Publisher :=
  { p with slotRefs := Function.update p.slotRefs i (p.slotRefs i - 1) }

def fanOutSeat (item : PublishItem) (answers : ℕ → SendAnswer) (p : Publisher) (k : ℕ) :
    Publisher :=
  let visited := p.visitSeat item k
  if visited.1 then
    let submitted := visited.2.submitTo k item (answers k)
    if submitted.1 then submitted.2 else submitted.2.unref item.slotIndex
  else visited.2

/-- The slot starts with the engine's own reference. -/
def startFanOut (p : Publisher) (item : PublishItem) : Publisher :=
  { p with slotRefs := Function.update p.slotRefs item.slotIndex 1 }

def finishFanOut (p : Publisher) (item : PublishItem) : Publisher :=
  let counted :=
    if p.slotRefs item.slotIndex = 1 ∧ p.armedSessions = 0 then
      { p.bump .droppedNoSession 1 with droppedBeforeAll := p.droppedBeforeAll + 1 }
    else p
  (counted.releaseSlotRef item.slotIndex).refreshGauges

/-- Submit one frame to every eligible session and account for the slot. -/
def fanOut (p : Publisher) (item : PublishItem) (answers : ℕ → SendAnswer) : Publisher :=
  (p.seats.foldl (fanOutSeat item answers) (p.startFanOut item)).finishFanOut item

/-- One turn of `submit_ready_frames`. -/
def submitReady (p : Publisher) (answers : ℕ → SendAnswer) : Option Publisher :=
  p.publishQueue.pop.map fun popped =>
    { p with publishQueue := popped.2 }.fanOut popped.1 answers

/-- The completion of the given outstanding send, inside `ucp_worker_progress`. -/
def onSendComplete (p : Publisher) (send : Send) (success : Bool) : Publisher :=
  let counted := if success then p else p.bump .transportErrors 1
  let s := p.sessions send.seat
  { (counted.bump .framesCompleted 1).setSession send.seat
      { s with sendsInflight := s.sendsInflight - 1 } with sends := p.sends.erase send }

def completedSession (s : Session) : Session := { s with sendsInflight := s.sendsInflight - 1 }

lemma onSendComplete_eq (p : Publisher) (send : Send) (success : Bool) :
    ∃ counters, (∀ c, c ≠ .framesCompleted → c ≠ .transportErrors → counters c = p.counters c) ∧
      p.onSendComplete send success =
      { p.setSession send.seat (completedSession (p.sessions send.seat)) with
        sends := p.sends.erase send
        counters := counters } := by
  cases success with
  | false =>
    refine ⟨_, fun c hcompleted herrors => ?_, rfl⟩
    simp [bump, setSession, hcompleted, herrors]
  | true =>
    refine ⟨_, fun c hcompleted herrors => ?_, rfl⟩
    simp [bump, setSession, hcompleted]

/-! ### Credits and probes -/

/-- The live session with this stream id. -/
def sessionForStream (p : Publisher) (streamId : UInt64) : Option ℕ :=
  if streamId = 0 then none
  else p.seats.find? fun k => (p.sessions k).state.live ∧ (p.sessions k).streamId = streamId

/-- The producer slot a session's sequence reads. -/
def slotOf (p : Publisher) (k sequence : ℕ) : ℕ :=
  ((p.sessions k).inflight (sequence % p.depth)).slotIndex

/-- One turn of the release loop of `handle_credit`; the last release counts the frame. -/
def creditSequence (k : ℕ) (p : Publisher) (sequence : ℕ) : Publisher :=
  let i := p.slotOf k sequence
  let released := p.releaseSlotRef i
  if p.slotRefs i = 1 then released.bump .framesCredited 1 else released

/-- The window of the seat after a credit. -/
def moveWindow (p : Publisher) (k ack : ℕ) : Publisher :=
  let s := p.sessions k
  p.setSession k { s with window := (s.window.applyCredit ack).2 }

/-- The sequences a credit releases. -/
def releasedSequences (p : Publisher) (k ack : ℕ) : List ℕ :=
  let w := (p.sessions k).window
  List.range' w.creditedEnd (w.applyCredit ack).1.released

/-- The part of `handle_credit` after the session is found. -/
def applyCredit (p : Publisher) (k ack : ℕ) : Publisher :=
  let outcome := ((p.sessions k).window.applyCredit ack).1
  if outcome.status ≠ .ok then p.bump .malformedMessages 1
  else
    let released := (p.releasedSequences k ack).foldl (creditSequence k) (p.moveWindow k ack)
    if outcome.released ≠ 0 then released.refreshGauges else released

def handleCredit (p : Publisher) (header : Bytes) : Publisher :=
  match decodeCredit header with
  | .error _ => p.bump .malformedMessages 1
  | .ok credit =>
    match p.sessionForStream credit.streamId with
    | none => p.bump .malformedMessages 1
    | some k => p.applyCredit k credit.value.toNat

/-- The CAS of `handle_probe_ack` and what follows it. A session that arms starts level with
the current publish count. -/
def arm (p : Publisher) (k : ℕ) : Publisher :=
  let s := p.sessions k
  if s.state = .open then
    (p.setSession k { s with state := .armed, processedOrdinal := p.admitted }).refreshGauges
  else p

def handleProbeAck (p : Publisher) (header : Bytes) : Publisher :=
  match decodeProbeAck header with
  | .error _ => p.bump .malformedMessages 1
  | .ok ack =>
    match p.sessionForStream ack.streamId with
    | none => p.bump .malformedMessages 1
    | some k =>
      if ack.value ≠ (p.sessions k).probeToken then p.bump .malformedMessages 1 else p.arm k

/-- `send_pending_probes` for one seat. -/
def sendProbe (p : Publisher) (k : ℕ) (accepted : Bool) : Publisher :=
  let s := p.sessions k
  if s.state = .open ∧ s.ep ∧ !s.probeSent then
    let marked := p.setSession k { s with probeSent := true }
    if accepted then marked else marked.bump .transportErrors 1
  else p

/-! ### Teardown -/

def releaseSequence (k : ℕ) (p : Publisher) (sequence : ℕ) : Publisher :=
  p.releaseSlotRef (p.slotOf k sequence)

/-- What `teardown` leaves in the seat; one with sends still outstanding is poisoned. -/
def retiredSession (p : Publisher) (s : Session) : Session :=
  { s with
    ep := false
    window := s.window.reset 0
    probeSent := false
    droppedForSession := 0
    processedOrdinal := 0
    retiredSeq := p.retireCounter + 1
    poisoned := s.poisoned || s.sendsInflight ≠ 0
    state := .closed }

/-- Steps 4 to 6 of `teardown`. The bounded waits before them only run completions and other
callbacks, which are steps of their own. -/
def teardown (p : Publisher) (k : ℕ) : Publisher :=
  let s := p.sessions k
  let released := (List.range' s.window.creditedEnd s.window.outstanding).foldl
    (releaseSequence k) p
  let counted := released.bump (if s.endReason = .close then .sessionsClosed else .sessionsExpired) 1
  { counted.setSession k (p.retiredSession s) with
    retireCounter := p.retireCounter + 1 }.refreshGauges

/-! ### The coordination plane -/

inductive CoordinationReply
  | openReply (msg : OpenReply)
  | renewReply (msg : RenewReply)
  | closeReply (msg : CloseReply)
  | error (msg : ErrorMessage)
  deriving DecidableEq

/-- What `handle_open` decides before it looks for a seat. -/
inductive OpenScreen
  | throws (error : BulkError)
  | refused (msg : ErrorMessage)
  | granted (geometry : GeometryBlock)
  deriving DecidableEq

/-- The clamp of `handle_open`: each size on its own, downward. -/
def clampGeometry (p : Publisher) (request : OpenRequest) : GeometryBlock :=
  { p.currentGeometry with
    maxFrameBytes := min request.requestedMaxFrameBytes p.config.maxFrameBytes
    ringDepth := min request.requestedRingDepth p.config.ringDepth
    creditWindow := min request.requestedCreditWindow p.config.creditWindow }

def screenOpen (p : Publisher) (request : OpenRequest) : OpenScreen :=
  let geometry := p.clampGeometry request
  if request.requestedTransport ≠ .any ∧ request.requestedTransport ≠ .activeMessage then
    .throws { status := .malformedMessage, message := "Open requested an unsupported transport",
              origin := "publisher" }
  else if request.requestedMemoryKind ≠ .host ∧ request.requestedMemoryKind ≠ .cuda ∧
      request.requestedMemoryKind ≠ .rocm then
    .throws { status := .malformedMessage, message := "Open requested an unsupported memory kind",
              origin := "publisher" }
  else if kVersionMajor < request.versionMin ∨ request.versionMax < kVersionMajor then
    .refused { status := .unsupportedVersion, message := textBytes "no common protocol major" }
  else if request.streamName ≠ p.config.streamName then
    .refused { status := .unknownStream, message := textBytes "no such stream on this publisher" }
  else if geometry.maxFrameBytes = 0 ∨ geometry.ringDepth = 0 ∨ geometry.creditWindow = 0 then
    .refused { status := .malformedMessage, message := textBytes "Open requested a zero geometry" }
  else .granted geometry

/-- The seat loop of `handle_open`: a never-used seat first, else the one retired longest ago
that is not poisoned. -/
def selectFrom (p : Publisher) : List ℕ → Option ℕ → Option ℕ
  | [], best => best
  | k :: rest, best =>
    let s := p.sessions k
    if s.state = .unknown then some k
    else if s.state ≠ .closed ∨ s.poisoned then p.selectFrom rest best
    else
      match best with
      | none => p.selectFrom rest (some k)
      | some b =>
        if s.retiredSeq < (p.sessions b).retiredSeq then p.selectFrom rest (some k)
        else p.selectFrom rest (some b)

def selectSeat (p : Publisher) : Option ℕ := p.selectFrom p.seats none

/-- The identifiers drawn for a new session, and the time of the claim. -/
structure Fresh where
  id : SessionId
  streamId : UInt64
  probeToken : UInt64
  now : ℕ

/-- The draw that throws in the claim of `handle_open`, with what was drawn before it. -/
inductive DrawFailure
  | sessionId
  | streamId (id : SessionId)
  | probeToken (id : SessionId) (streamId : UInt64)

def DrawFailure.id : DrawFailure → Option SessionId
  | .sessionId => none
  | .streamId id | .probeToken id _ => some id

def DrawFailure.stream : DrawFailure → Option UInt64
  | .probeToken _ drawn => some drawn
  | _ => none

/-- `throw_rng_failure`, with the call that failed and the text of its error. -/
def rngFailure (what : String) : BulkError where
  status := .internal
  message := "cannot obtain cryptographic randomness: " ++ what
  origin := "protocol"

/-- What a claim that throws leaves in the seat, under the state it had. -/
def abandonedSession (s : Session) (failure : DrawFailure) : Session :=
  { s with
    endReason := .none
    id := failure.id.getD s.id
    streamId := failure.stream.getD s.streamId }

def abandonClaim (p : Publisher) (k : ℕ) (failure : DrawFailure) : Publisher :=
  p.setSession k (abandonedSession (p.sessions k) failure)

/-- What the claim of `handle_open` leaves in the seat. -/
def claimedSession (p : Publisher) (s : Session) (request : OpenRequest) (fresh : Fresh) :
    Session :=
  let geometry := p.clampGeometry request
  { s with
    endReason := .none
    id := fresh.id
    streamId := fresh.streamId
    probeToken := fresh.probeToken
    geometry := geometry
    window := { ringDepth := geometry.ringDepth.toNat, width := geometry.creditWindow.toNat }
    receiveMemoryKind := request.requestedMemoryKind
    ep := true
    probeSent := false
    deadlineMs := fresh.now + p.config.leaseTtlMs.toNat
    rateWindowStartMs := fresh.now
    renewalsInWindow := 0
    lastActivityMs := fresh.now
    state := .open }

/-- The claim of `handle_open` under the lock, counted as an opened session. -/
def claimSeat (p : Publisher) (k : ℕ) (request : OpenRequest) (fresh : Fresh) : Publisher :=
  (p.setSession k (p.claimedSession (p.sessions k) request fresh)).bump .sessionsOpened 1

/-- The reply of `handle_open`, from what the seat holds when it is built. -/
def openReplyFor (p : Publisher) (k : ℕ) (request : OpenRequest) : OpenReply where
  versionSelected := kVersionMajor
  status := .ok
  grantedCaps := request.requestedCaps &&& (kCapsCreditCoalescing ||| kCapsProbe)
  sessionId := (p.sessions k).id
  streamId := (p.sessions k).streamId
  leaseTtlMs := p.config.leaseTtlMs
  renewIntervalMs := p.config.renewIntervalMs
  transportSelected := .activeMessage
  serverEpochId := p.serverEpochId
  geometry := p.clampGeometry request
  serverUcxAddress := p.workerAddress

/-- `handle_open` with nothing in between; `connected` is whether the endpoint was made, `drawn` what
the random generator gave. -/
def handleOpen (p : Publisher) (request : OpenRequest) (connected : Bool)
    (drawn : Except (DrawFailure × String) Fresh) :
    Except BulkError CoordinationReply × Publisher :=
  match p.screenOpen request with
  | .throws e => (.error e, p)
  | .refused m => (.ok (.error m), p)
  | .granted _ =>
    match p.selectSeat with
    | none =>
      (.ok (.error { status := .tooManySessions,
                     message := textBytes "no free session on this publisher" }),
        p.bump .sessionsRejected 1)
    | some k =>
      if !connected then
        (.error { status := .transportFailure,
                  message := "could not create an endpoint to the client",
                  origin := "publisher" }, p)
      else
        match drawn with
        | .error (failure, what) => (.error (rngFailure what), p.abandonClaim k failure)
        | .ok fresh =>
          (.ok (.openReply ((p.claimSeat k request fresh).openReplyFor k request)),
            p.claimSeat k request fresh)

/-- The session with this identifier, in whatever state but unused. -/
def sessionForId (p : Publisher) (id : SessionId) : Option ℕ :=
  p.seats.find? fun k => (p.sessions k).state ≠ .unknown ∧ (p.sessions k).id = id

lemma sessionForId_some {p : Publisher} {k : ℕ} {id : SessionId} (h : p.sessionForId id = some k) :
    (p.sessions k).state ≠ .unknown ∧ (p.sessions k).id = id := by
  have hfound := List.find?_some h
  simpa only [decide_eq_true_eq] using hfound

/-- The difference of two 64-bit clock readings. -/
def elapsedMs (now since : ℕ) : ℕ := (now + 2 ^ 64 - since) % 2 ^ 64

/-- The lease part of `handle_renew`, for a session that has not ended. -/
def renewLease (p : Publisher) (k : ℕ) (now : ℕ) : Status × Publisher :=
  let s := p.sessions k
  let windowed :=
    if p.config.leaseTtlMs.toNat ≤ elapsedMs now s.rateWindowStartMs then
      { s with rateWindowStartMs := now, renewalsInWindow := 0 }
    else s
  if p.config.maxRenewalsPerTtl.toNat ≤ windowed.renewalsInWindow then
    (.renewTooFrequent, (p.setSession k windowed).bump .renewalsRejected 1)
  else
    let late := if p.config.renewIntervalMs.toNat < elapsedMs now windowed.lastActivityMs then 1
      else 0
    (.ok, ((p.setSession k { windowed with
      renewalsInWindow := windowed.renewalsInWindow + 1
      lastActivityMs := now
      deadlineMs := now + p.config.leaseTtlMs.toNat }).bump .renewalsLate late).bump
        .renewalsAccepted 1)

def handleRenew (p : Publisher) (request : RenewRequest) (now : ℕ) : RenewReply × Publisher :=
  let reply : RenewReply :=
    { sessionId := request.sessionId
      status := .unknownSession
      leaseTtlMs := p.config.leaseTtlMs
      renewIntervalMs := p.config.renewIntervalMs
      serverState := .unknown
      geometry := (emptySession p.config).geometry }
  match p.sessionForId request.sessionId with
  | none => (reply, p)
  | some k =>
    let s := p.sessions k
    let found := { reply with geometry := s.geometry, serverState := s.state }
    if s.state = .expiring ∨ s.state = .closed then
      ({ found with
          status := if s.state = .closed ∧ s.endReason = .close then .unknownSession
            else .sessionExpired }, p)
    else
      ({ found with status := (p.renewLease k now).1 }, (p.renewLease k now).2)

def handleClose (p : Publisher) (request : CloseRequest) : CloseReply × Publisher :=
  let reply : CloseReply :=
    { sessionId := request.sessionId
      status := .unknownSession
      framesCreditedFinal := UInt32.ofNat (p.counters .framesCredited) }
  match p.sessionForId request.sessionId with
  | none => (reply, p)
  | some k =>
    if (p.beginExpiry k .close).1 then
      ({ reply with status := .ok }, (p.beginExpiry k .close).2)
    else (reply, p)

end Publisher

end TangoBulk
