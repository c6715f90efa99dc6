import TangoBulk.LibTransition
import TangoBulk.SubscriptionControl

/-! A subscription as its threads move it: the control thread's program, the dispatch thread with
the failures of its callback, one call of `close` with its two bounded waits, and `interrupt`. -/
namespace TangoBulk

open Transition

/-- How far the dispatch thread has got in `fail_delivery`: the terminal of the delivery, the
published state and `running` are set one after the other. -/
inductive DispatchStage
  | absent | working | failing | storing | stopping | draining
  | finished (failed : Bool)
  deriving DecidableEq

/-- A callback has thrown. -/
def DispatchStage.hasFailed : DispatchStage → Bool
  | .absent | .working | .finished false => false
  | _ => true

/-- How far the call of `close` has got. -/
inductive CloseStage
  | idle | started | stopped | joinControl | joinDispatch | closeSession | store | complete
  deriving DecidableEq

/-- `controlDetached` and `dispatchDetached` say that `close` has stopped waiting for the thread,
`announced` that it has published `closed`. -/
structure SubscriptionState where
  config : SubscriberConfig
  state : SubscriberState := .closed
  running : Bool := true
  interrupted : Bool := false
  terminal : Terminal := .none
  lastError : BulkError := noError
  control : ControlStage := .factory .created
  controlStarted : Bool := false
  dispatch : DispatchStage := .absent
  closing : CloseStage := .idle
  controlDetached : Bool := false
  dispatchDetached : Bool := false
  announced : Bool := false
  memory : SessionMemory := {}

inductive DispatchInput
  | throw | go | exit
  deriving DecidableEq

inductive InterruptCall
  | flag | stop | delivery
  deriving DecidableEq

inductive SubscriptionInput
  | control (input : ControlInput)
  | dispatch (input : DispatchInput)
  | close (expired : Bool)
  | interrupt (call : InterruptCall)

namespace SubscriptionState

/-- The first terminal of the delivery stands. -/
def setTerminal (s : SubscriptionState) (terminal : Terminal) : SubscriptionState :=
  if s.terminal = .none then { s with terminal := terminal } else s

/-- The store of `transition`; the delivery has been told of a failure before. -/
def transition (s : SubscriptionState) (next : SubscriberState) (error : BulkError) :
    SubscriptionState :=
  { s with state := next
           lastError := if next = .failed then error
             else if next = .active then noError else s.lastError }

def view (s : SubscriptionState) : ControlView where
  config := s.config
  running := s.running
  interrupted := s.interrupted
  state := s.state
  memory := s.memory

/-- The threads are started; without a callback there is no dispatch thread. -/
def startThreads (s : SubscriptionState) : SubscriptionState :=
  { s with controlStarted := true
           dispatch := if s.config.deliveryMode = .push then .working else .absent }

def apply (s : SubscriptionState) : ControlEffect → SubscriptionState
  | .none => s
  | .store state error => s.transition state error
  | .fail _ => s.setTerminal .sessionFailed
  | .start => s.startThreads
  | .stop => { s with running := false }

def controlStep (s : SubscriptionState) (input : ControlInput) :
    Option (SubscriptionState × List ControlEvent) :=
  (s.view.program input s.control).map fun r =>
    ({ s with control := r.next, memory := r.memory }.apply r.effect, r.events)

def callbackError : BulkError where
  status := .internal
  message := "the frame callback threw"
  origin := "subscriber"

/-- The dispatch loop goes on delivering. -/
def dispatchActive (s : SubscriptionState) : Bool :=
  s.running ∧ !s.interrupted ∧ s.state ≠ .failed

def dispatchStep (s : SubscriptionState) : DispatchInput → Option SubscriptionState
  -- After a session failure the queued frames are still delivered, also by a loop that has failed.
  | .throw =>
    if s.dispatch = .working ∨ (s.dispatch = .draining ∧ s.terminal = .sessionFailed) then
      some { s with dispatch := .failing }
    else none
  | .go =>
    match s.dispatch with
    -- The `fail` inside `transition` finds the terminal of `callback_failed`.
    | .failing => some { s.setTerminal .callbackFailed with dispatch := .storing }
    | .storing => some { s.transition .failed callbackError with dispatch := .stopping }
    | .stopping => some { s with running := false, dispatch := .draining }
    | _ => none
  | .exit =>
    if !s.dispatchActive ∧ (s.dispatch = .working ∨ s.dispatch = .draining) then
      some { s with dispatch := .finished s.dispatch.hasFailed }
    else none

def dispatchJoined (s : SubscriptionState) : Bool :=
  match s.dispatch with
  | .absent | .finished _ => true
  | _ => false

/-- The next step of `shutdown(true)`; `expired` is whether its deadline has passed, or the
thread that is waited for is the caller. -/
def closeStep (s : SubscriptionState) (expired : Bool) :
    Option (SubscriptionState × List ControlEvent) :=
  match s.closing with
  | .idle => if s.controlStarted then some ({ s with closing := .started }, []) else none
  | .started => some ({ s with running := false, closing := .stopped }, [])
  | .stopped => some ({ s.setTerminal .closed with closing := .joinControl }, [])
  | .joinControl =>
    if s.control = .leave .finished then some ({ s with closing := .joinDispatch }, [])
    else if expired then some ({ s with closing := .joinDispatch, controlDetached := true }, [])
    else none
  | .joinDispatch =>
    if s.dispatchJoined then some ({ s with closing := .closeSession }, [])
    else if expired then some ({ s with closing := .closeSession, dispatchDetached := true }, [])
    else none
  | .closeSession =>
    if !s.controlStarted ∨ (s.interrupted ∧ !s.controlDetached) then
      let closed := s.memory.closeSession true
      some ({ s with memory := closed.1, closing := .store }, closed.2)
    else some ({ s with closing := .store }, [])
  | .store =>
    some ({ s.transition .closed noError with closing := .complete, announced := true }, [])
  | .complete => none

def interruptStep (s : SubscriptionState) : InterruptCall → Option SubscriptionState
  | .flag => if s.controlStarted then some { s with interrupted := true } else none
  | .stop => if s.interrupted then some { s with running := false } else none
  | .delivery => if s.interrupted then some (s.setTerminal .interrupted) else none

def step (s : SubscriptionState) :
    SubscriptionInput → Option (SubscriptionState × List ControlEvent)
  | .control input => s.controlStep input
  | .dispatch input => (s.dispatchStep input).map fun s' => (s', [])
  | .close expired => s.closeStep expired
  | .interrupt call => (s.interruptStep call).map fun s' => (s', [])

/-- A subscription that `SubscriptionFactory::open` has just constructed. -/
def create (config : SubscriberConfig) : SubscriptionState where
  config := config

end SubscriptionState

def subscriptionMachine : Machine SubscriptionState SubscriptionInput ControlEvent :=
  ⟨SubscriptionState.step⟩

end TangoBulk
