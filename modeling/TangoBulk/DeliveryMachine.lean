import TangoBulk.DeliveryQueue

/-! Pushes, readers and terminal calls of a delivery queue, interleaved at their atomic
accesses. Threads are anonymous: the state lists how far each call in progress has got. -/
namespace TangoBulk

open Transition

/-- How far a push has got: inside the barrier, with its ingress looked at, let in, with the
oldest frame to evict, with the second attempt to make, with the counters to settle, and
with the barrier to leave. -/
inductive PushStage (φ : Type)
  | entered (ingress : Option ℕ) (frame : φ)
  | sighted (ingress : Option ℕ) (frame : φ) (current : Bool)
  | cleared (ingress : Option ℕ) (frame : φ)
  | evicting (ingress : Option ℕ) (frame : φ)
  | retrying (ingress : Option ℕ) (frame : φ)
  | tallying (ingress : Option ℕ) (frame : φ) (queued dropped : Bool)
  | settled (ingress : Option ℕ) (frame : φ) (queued : Bool)
  deriving DecidableEq

/-- The push may still put its frame into the queue. -/
def PushStage.letIn {φ : Type} : PushStage φ → Bool
  | .cleared .. | .evicting .. | .retrying .. => true
  | _ => false

/-- The push may be between its claim of a cell and the store that makes the cell readable. -/
def PushStage.claiming {φ : Type} : PushStage φ → Bool
  | .cleared .. | .retrying .. => true
  | _ => false

/-- How far a read has got: past its first look, past a failed pop, or asleep. -/
inductive ReadStage
  | looked | emptied | asleep
  deriving DecidableEq

/-- What the second look of a read is followed by if there is no terminal. -/
inductive ReadMode
  | tryRead | expired | wait
  deriving DecidableEq

inductive TerminalCall
  | fail (error : BulkError)
  | callbackFailed (error : BulkError)
  | close
  | interrupt

def TerminalCall.ending : TerminalCall → Ending
  | .fail error => .fail error
  | .callbackFailed error => .callbackFailed error
  | .close => .close
  | .interrupt => .interrupt

/-- `ending` is the call that holds the transition lock and has stopped the pushes. -/
structure DeliveryState (φ : Type) where
  delivery : DeliveryQueue φ
  pushing : List (PushStage φ) := []
  reading : List ReadStage := []
  ending : Option TerminalCall := none

inductive DeliveryInput (φ : Type)
  | push (ingress : Option ℕ) (frame : φ)
  | advance (stage : PushStage φ)
  | retire (ingress : ℕ)
  | terminate (call : TerminalCall)
  | publish
  | look
  | pop
  | stall
  | lookAgain (mode : ReadMode)
  | wake (ready : Bool)

inductive DeliveryEvent (φ : Type)
  | pushed (frame : φ) (queued : Bool)
  | read (result : DeliveryRead φ)
  deriving DecidableEq

namespace DeliveryState

variable {φ : Type}

def create (capacity : ℕ) (policy : DropPolicy) : DeliveryState φ where
  delivery := .create capacity policy

/-- The next step of a push: what it leaves, the stage it reaches, and what it reports. -/
def pushStep (d : DeliveryQueue φ) :
    PushStage φ → DeliveryQueue φ × Option (PushStage φ) × List (DeliveryEvent φ)
  | .entered ingress frame => (d, some (.sighted ingress frame (d.current ingress)), [])
  | .sighted ingress frame current =>
    if current ∧ d.accepting then (d, some (.cleared ingress frame), [])
    else ({ d with discarded := d.discarded + 1 }, some (.settled ingress frame false), [])
  | .cleared ingress frame =>
    match d.queue.push frame with
    | some queue => ({ d with queue := queue }, some (.tallying ingress frame true false), [])
    | none =>
      if d.policy = .dropOldest then (d, some (.evicting ingress frame), [])
      else (d, some (.tallying ingress frame false true), [])
  | .evicting ingress frame =>
    match d.queue.pop with
    | some popped =>
      ({ d with queue := popped.2 }.consumeOne, some (.retrying ingress frame), [])
    | none => (d, some (.tallying ingress frame false true), [])
  | .retrying ingress frame =>
    match d.queue.push frame with
    | some queue => ({ d with queue := queue }, some (.tallying ingress frame true true), [])
    | none => (d, some (.tallying ingress frame false true), [])
  | .tallying ingress frame queued dropped =>
    (d.settlePush queued dropped, some (.settled ingress frame queued), [])
  | .settled ingress frame queued => (d.leavePush ingress, none, [.pushed frame queued])

variable [DecidableEq φ]

def step (s : DeliveryState φ) : DeliveryInput φ → Option (DeliveryState φ × List (DeliveryEvent φ))
  | .push ingress frame =>
    some ({ s with delivery := s.delivery.enterPush ingress
                   pushing := .entered ingress frame :: s.pushing }, [])
  | .advance stage =>
    if stage ∈ s.pushing then
      let done := pushStep s.delivery stage
      some ({ s with delivery := done.1
                     pushing := done.2.1.toList ++ s.pushing.erase stage }, done.2.2)
    else none
  | .retire ingress =>
    some ({ s with delivery := { s.delivery with
              retired := Function.update s.delivery.retired ingress true } }, [])
  | .terminate call =>
    match s.ending with
    | some _ => none
    | none =>
      match s.delivery.stopAccepting with
      | none => some (s, [])
      | some d => some ({ s with delivery := d, ending := some call }, [])
  | .publish =>
    match s.ending with
    | none => none
    | some call =>
      if s.delivery.waited call.ending then
        some ({ s with delivery := s.delivery.publishTerminal call.ending, ending := none }, [])
      else none
  | .look =>
    match s.delivery.firstLook with
    | some result => some (s, [.read result])
    | none => some ({ s with reading := .looked :: s.reading }, [])
  | .pop =>
    if .looked ∈ s.reading then
      match s.delivery.takeOne with
      | some taken =>
        some ({ s with delivery := taken.2, reading := s.reading.erase .looked },
          [.read { kind := .frame, frame := some taken.1 }])
      | none => some ({ s with reading := .emptied :: s.reading.erase .looked }, [])
    else none
  | .stall =>
    -- A pop also finds nothing while the push that claimed the next cell has yet to fill it.
    if .looked ∈ s.reading ∧ s.pushing.any PushStage.claiming then
      some ({ s with reading := .emptied :: s.reading.erase .looked }, [])
    else none
  | .lookAgain mode =>
    if .emptied ∈ s.reading then
      let left := { s with reading := s.reading.erase .emptied }
      match s.delivery.secondLook with
      | some result => some (left, [.read result])
      | none =>
        match mode with
        | .tryRead => some ({ left with delivery := s.delivery.armReader }, [.read {}])
        | .expired =>
          some ({ left with delivery := s.delivery.armReader }, [.read { kind := .timeout }])
        | .wait =>
          let waiting := s.delivery.beginAwait
          if waiting.1 then
            some ({ left with delivery := waiting.2, reading := .asleep :: left.reading }, [])
          else some ({ left with delivery := waiting.2 }, [])
    else none
  | .wake ready =>
    if .asleep ∈ s.reading ∧ (ready → s.delivery.hasFd → 0 < s.delivery.tokens) then
      let awake := { s with delivery := s.delivery.endAwait ready
                            reading := s.reading.erase .asleep }
      if ready then some (awake, [])
      else some ({ awake with delivery := awake.delivery.armReader }, [.read { kind := .timeout }])
    else none

end DeliveryState

def deliveryMachine (φ : Type) [DecidableEq φ] :
    Machine (DeliveryState φ) (DeliveryInput φ) (DeliveryEvent φ) := ⟨DeliveryState.step⟩

end TangoBulk
