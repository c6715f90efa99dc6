import TangoBulk.BoundedQueue
import TangoBulk.LibTransition
import TangoBulk.ProtocolCoord

/-! The queue between a transport and the readers of a subscription, as the pieces its calls
are made of: the push with its barrier, the calls that end the delivery, and the looks and
the pop of a read. `Fifo` is what the underlying queue is for two cells or more. -/
namespace TangoBulk

inductive Terminal
  | none | closed | interrupted | sessionFailed | callbackFailed
  deriving DecidableEq

inductive ReadKind
  | frame | empty | timeout | closed | interrupted | sessionFailed | callbackFailed
  deriving DecidableEq

def readKind : Terminal → ReadKind
  | .closed => .closed
  | .interrupted => .interrupted
  | .sessionFailed => .sessionFailed
  | .callbackFailed => .callbackFailed
  | .none => .empty

def noError : BulkError where
  status := .ok
  message := ""
  origin := ""

structure DeliveryRead (φ : Type) where
  kind : ReadKind := .empty
  frame : Option φ := none
  error : BulkError := noError
  deriving DecidableEq

/-- `tokens` is the counter of the eventfd, `retired` and `ingressPushes` the fields of the
ingresses. -/
structure DeliveryQueue (φ : Type) where
  queue : Fifo φ
  policy : DropPolicy
  hasFd : Bool := true
  tokens : ℕ := 0
  activePushes : ℕ := 0
  accepting : Bool := true
  terminal : Terminal := .none
  terminalError : BulkError := noError
  waitingReaders : ℕ := 0
  armedReader : Bool := false
  retired : ℕ → Bool := fun _ => false
  ingressPushes : ℕ → ℕ := fun _ => 0
  taken : ℕ := 0
  dropped : ℕ := 0
  discarded : ℕ := 0
  highWater : ℕ := 0

/-- What a terminal call passes to `set_terminal`. -/
structure Ending where
  terminal : Terminal
  error : BulkError := noError
  waitForPushes : Bool
  discard : Bool
  deriving DecidableEq

namespace Ending

def fail (error : BulkError) : Ending where
  terminal := .sessionFailed
  error := error
  waitForPushes := true
  discard := false

def callbackFailed (error : BulkError) : Ending where
  terminal := .callbackFailed
  error := error
  waitForPushes := true
  discard := true

def close : Ending where
  terminal := .closed
  waitForPushes := true
  discard := true

def interrupt : Ending where
  terminal := .interrupted
  waitForPushes := false
  discard := false

end Ending

namespace DeliveryQueue

variable {φ : Type}

def create (capacity : ℕ) (policy : DropPolicy) : DeliveryQueue φ where
  queue := boundedQueue capacity
  policy := policy

/-! ### The eventfd -/

/-- A write to the eventfd; one that would overflow its counter is refused. -/
def writeTokens (d : DeliveryQueue φ) (n : ℕ) : DeliveryQueue φ :=
  if d.hasFd ∧ d.tokens + n ≤ 2 ^ 64 - 2 then { d with tokens := d.tokens + n } else d

/-- A read of the eventfd, which is a semaphore. -/
def consumeOne (d : DeliveryQueue φ) : DeliveryQueue φ :=
  if d.hasFd then { d with tokens := d.tokens - 1 } else d

def drainWakeups (d : DeliveryQueue φ) : DeliveryQueue φ :=
  if d.hasFd then { d with tokens := 0 } else d

def signalOne (d : DeliveryQueue φ) : DeliveryQueue φ :=
  if d.waitingReaders ≠ 0 then
    { d with waitingReaders := d.waitingReaders - 1 }.writeTokens 1
  else if d.armedReader then { d with armedReader := false }.writeTokens 1
  else d

def signalAll (d : DeliveryQueue φ) : DeliveryQueue φ :=
  { d with waitingReaders := 0 }.writeTokens (max d.waitingReaders 1)

def removeWaiter (d : DeliveryQueue φ) : DeliveryQueue φ :=
  { d with waitingReaders := d.waitingReaders - 1 }

/-! ### Pushing -/

/-- The barrier a push enters before it looks at anything. -/
def enterPush (d : DeliveryQueue φ) (ingress : Option ℕ) : DeliveryQueue φ :=
  let entered := { d with activePushes := d.activePushes + 1 }
  match ingress with
  | none => entered
  | some n =>
    { entered with ingressPushes := Function.update d.ingressPushes n (d.ingressPushes n + 1) }

/-- Whether the ingress of a push is still the current one. -/
def current (d : DeliveryQueue φ) : Option ℕ → Bool
  | none => true
  | some n => !d.retired n

def leavePush (d : DeliveryQueue φ) (ingress : Option ℕ) : DeliveryQueue φ :=
  let left := { d with activePushes := d.activePushes - 1 }
  match ingress with
  | none => left
  | some n =>
    { left with ingressPushes := Function.update d.ingressPushes n (d.ingressPushes n - 1) }

/-- The counters and the wakeup after the attempts to enqueue. -/
def settlePush (d : DeliveryQueue φ) (queued dropped : Bool) : DeliveryQueue φ :=
  let counted := if dropped then { d with dropped := d.dropped + 1 } else d
  if queued then
    { counted with highWater := max counted.highWater counted.queue.items.length }.signalOne
  else counted

/-! ### Ending the delivery -/

/-- `set_terminal` up to its wait for the pushes in progress; an earlier terminal stands. -/
def stopAccepting (d : DeliveryQueue φ) : Option (DeliveryQueue φ) :=
  if d.terminal ≠ .none then none else some { d with accepting := false }

/-- Whether the wait of `set_terminal` is over. -/
def waited (d : DeliveryQueue φ) (e : Ending) : Bool := !e.waitForPushes || d.activePushes = 0

/-- The rest of `set_terminal`. -/
def publishTerminal (d : DeliveryQueue φ) (e : Ending) : DeliveryQueue φ :=
  let emptied :=
    if e.discard then
      { d with queue := .empty d.queue.capacity
               discarded := d.discarded + d.queue.items.length }.drainWakeups
    else if e.terminal = .interrupted then
      { d with discarded := d.discarded + d.queue.items.length }
    else d
  { emptied with terminalError := e.error, terminal := e.terminal }.signalAll

/-! ### Reading -/

def takeOne (d : DeliveryQueue φ) : Option (φ × DeliveryQueue φ) :=
  d.queue.pop.map fun popped =>
    let out := { d with queue := popped.2, armedReader := false }.consumeOne
    (popped.1, { out with taken := out.taken + 1 })

def terminalResult (d : DeliveryQueue φ) (t : Terminal) : DeliveryRead φ where
  kind := readKind t
  error := if t = .sessionFailed ∨ t = .callbackFailed then d.terminalError else noError

/-- The first look of a read at the terminal; `none` lets it go on to the queue. -/
def firstLook (d : DeliveryQueue φ) : Option (DeliveryRead φ) :=
  if d.terminal ≠ .none ∧ d.terminal ≠ .sessionFailed then some (d.terminalResult d.terminal)
  else none

/-- The second look, of a read that found no frame. -/
def secondLook (d : DeliveryQueue φ) : Option (DeliveryRead φ) :=
  if d.terminal ≠ .none then some (d.terminalResult d.terminal) else none

/-- What a read that found no terminal either does before it returns. -/
def armReader (d : DeliveryQueue φ) : DeliveryQueue φ := { d with armedReader := true }

/-- The entry of `await`: whether the reader goes on to block in `poll`. -/
def beginAwait (d : DeliveryQueue φ) : Bool × DeliveryQueue φ :=
  let waiting := { d with waitingReaders := d.waitingReaders + 1, armedReader := false }
  if d.queue.items ≠ [] ∨ d.terminal ≠ .none then (false, waiting.removeWaiter)
  else (true, waiting)

/-- The way out of `await`; `ready` is what `poll` answered. -/
def endAwait (d : DeliveryQueue φ) (ready : Bool) : DeliveryQueue φ :=
  (if ready then d.consumeOne else d).removeWaiter

end DeliveryQueue

end TangoBulk
