import TangoBulk.DeliveryCalls
import TangoBulk.SubscriptionIngress

/-! A subscription with its delivery queue. The threads of the subscription make and retire
ingresses and empty the queue in the order of their program. -/
namespace TangoBulk

open Transition Function

/-- A frame with the number of the ingress it is pushed through. -/
structure Tagged (φ : Type) where
  ingress : ℕ
  frame : φ
  deriving DecidableEq

namespace PushStage

variable {φ : Type}

def ingress : PushStage φ → Option ℕ
  | .entered ingress _ | .sighted ingress _ _ | .cleared ingress _ | .evicting ingress _
  | .retrying ingress _ | .tallying ingress _ _ _ | .settled ingress _ _ => ingress

def frame : PushStage φ → φ
  | .entered _ frame | .sighted _ frame _ | .cleared _ frame | .evicting _ frame
  | .retrying _ frame | .tallying _ frame _ _ | .settled _ frame _ => frame

/-- The push has found its ingress current and is not done with the queue. -/
def admitted : PushStage φ → Bool
  | .sighted _ _ current => current
  | .cleared .. | .evicting .. | .retrying .. | .tallying .. => true
  | .entered .. | .settled .. => false

/-- The push may have claimed a cell that cannot be read yet. -/
def filling : PushStage φ → Bool
  | .cleared .. | .retrying .. | .tallying .. => true
  | _ => false

lemma admitted_of_filling {stage : PushStage φ} (h : stage.filling = true) :
    stage.admitted = true := by
  cases stage <;> first | rfl | cases h

end PushStage

/-- How far a read has got: at the top of its loop, past its first look, past a failed pop, or
asleep. -/
inductive ReadPoint
  | begun | looked | emptied | asleep
  deriving DecidableEq

inductive ReadMove
  | look
  | pop
  | stall
  | lookAgain (mode : ReadMode)
  | wake (ready : Bool)

/-- The next step of `try_read_result` or `read_result`: a point of its loop, or its result. -/
def DeliveryQueue.readStep {φ : Type} (d : DeliveryQueue φ) (filling : Bool) :
    ReadPoint → ReadMove → Option (DeliveryQueue φ × (ReadPoint ⊕ DeliveryRead φ))
  | .begun, .look =>
    match d.firstLook with
    | some result => some (d, .inr result)
    | none => some (d, .inl .looked)
  | .looked, .pop =>
    match d.takeOne with
    | some taken => some (taken.2, .inr { kind := .frame, frame := some taken.1 })
    | none => some (d, .inl .emptied)
  | .looked, .stall => if filling then some (d, .inl .emptied) else none
  | .emptied, .lookAgain mode =>
    match d.secondLook with
    | some result => some (d, .inr result)
    | none =>
      match mode with
      | .tryRead => some (d.armReader, .inr {})
      | .expired => some (d.armReader, .inr { kind := .timeout })
      | .wait => some (d.beginAwait.2, .inl (if d.beginAwait.1 then .asleep else .begun))
  | .asleep, .wake ready =>
    if ready → d.hasFd → 0 < d.tokens then
      if ready then some (d.endAwait true, .inl .begun)
      else some ((d.endAwait false).armReader, .inr { kind := .timeout })
    else none
  | _, _ => none

/-- How far the thread of the subscription has got with a call: it waits for the pushes through
the ingress it has retired, or has popped `count` frames. -/
inductive IngressStage
  | idle
  | waiting (previous : Option ℕ)
  | discarding (reconnecting : Bool) (count : ℕ)
  deriving DecidableEq

def IngressStage.previous : IngressStage → Option ℕ
  | .waiting previous => previous
  | _ => none

/-- `pending` are the calls the threads of the subscription have still to make before they go
on. -/
structure GenerationState (φ : Type) where
  subscription : SubscriptionState
  calls : DeliveryState (Tagged φ)
  pending : List IngressCall := []
  stage : IngressStage := .idle
  currentIngress : Option ℕ := none
  made : ℕ := 0
  readers : ℕ → Option ReadPoint := fun _ => none

/-- An ingress takes frames from the moment it is made. -/
inductive GenerationInput (φ : Type)
  | subscription (input : SubscriptionInput)
  | ingress
  | stall
  | delivery (input : DeliveryInput (Tagged φ))
  | overwrite (n : ℕ) (frame : Tagged φ)
  | start (reader : ℕ)
  | read (reader : ℕ) (move : ReadMove)

inductive GenerationEvent (φ : Type)
  | made (n : ℕ)
  | discarded
  | started (reader : ℕ)
  | returned (reader : ℕ) (result : DeliveryRead (Tagged φ))
  deriving DecidableEq

def SubscriptionInput.ofControl : SubscriptionInput → Bool
  | .control _ => true
  | _ => false

/-- A step of a push through an ingress that has been made, or of a terminal call. -/
def DeliveryInput.fits {φ : Type} (made : ℕ) : DeliveryInput (Tagged φ) → Bool
  | .push (some n) frame => frame.ingress = n ∧ n < made
  | .advance _ | .terminate _ | .publish => true
  | _ => false

namespace GenerationState

variable {φ : Type}

def create (config : SubscriberConfig) (hasFd : Bool) : GenerationState φ where
  subscription := .create config
  calls :=
    { delivery := { DeliveryQueue.create config.deliveryQueueDepth.toNat config.dropPolicy with
        hasFd } }

def queue (s : GenerationState φ) : DeliveryQueue (Tagged φ) := s.calls.delivery

def setQueue (s : GenerationState φ) (d : DeliveryQueue (Tagged φ)) : GenerationState φ :=
  { s with calls := { s.calls with delivery := d } }

/-- The threads of the subscription have made all their calls. -/
def idle (s : GenerationState φ) : Bool := s.pending = [] ∧ s.stage = .idle

def filling (s : GenerationState φ) : Bool := s.calls.pushing.any PushStage.filling

/-- `make_ingress` and `retire_ingress` up to their wait. -/
def retireCurrent (s : GenerationState φ) (pending : List IngressCall) (next : Option ℕ) :
    GenerationState φ :=
  { s.setQueue (s.queue.retire s.currentIngress) with
      pending := pending
      stage := .waiting s.currentIngress
      currentIngress := next }

/-- The rest of `discard` after its last pop. -/
def endDiscard (s : GenerationState φ) (reconnecting : Bool) (count : ℕ) :
    GenerationState φ × List (GenerationEvent φ) :=
  ({ s.setQueue { s.queue with discarded := s.queue.discarded + count }.drainWakeups with
      stage := .idle },
    if reconnecting then [.discarded] else [])

def ingressStep (s : GenerationState φ) : Option (GenerationState φ × List (GenerationEvent φ)) :=
  match s.stage with
  | .idle =>
    match s.pending with
    | [] => none
    | .make :: rest =>
      some ({ s.retireCurrent rest (some s.made) with made := s.made + 1 }, [.made s.made])
    | .retire :: rest => some (s.retireCurrent rest none, [])
    | .discard reconnecting :: rest =>
      some ({ s with pending := rest, stage := .discarding reconnecting 0 }, [])
  | .waiting previous =>
    if s.queue.ingressWaited previous then some ({ s with stage := .idle }, []) else none
  | .discarding reconnecting count =>
    match s.queue.queue.pop with
    | some popped =>
      some ({ s.setQueue { s.queue with queue := popped.2 }.consumeOne with
          stage := .discarding reconnecting (count + 1) }, [])
    | none => some (s.endDiscard reconnecting count)

variable [DecidableEq φ]

def step (s : GenerationState φ) :
    GenerationInput φ → Option (GenerationState φ × List (GenerationEvent φ))
  | .subscription input =>
    match s.subscription.step input with
    | none => none
    | some (next, events) =>
      if s.idle ∨ input.ofControl = false ∧ ingressCalls events = [] then
        some ({ s with subscription := next, pending := s.pending ++ ingressCalls events }, [])
      else none
  | .ingress => s.ingressStep
  | .stall =>
    -- The pop of `discard` finds nothing while the push that claimed the next cell fills it.
    match s.stage with
    | .discarding reconnecting count =>
      if s.filling then some (s.endDiscard reconnecting count) else none
    | _ => none
  | .delivery input =>
    if input.fits s.made then (s.calls.step input).map fun r => ({ s with calls := r.1 }, [])
    else none
  | .overwrite n frame =>
    -- A queue of one cell takes a frame although it is full. The pops that follow never return,
    -- so the steps they take here are more than there are.
    if .cleared (some n) frame ∈ s.calls.pushing ∧ s.queue.queue.capacity = 1 then
      some ({ s with calls := { s.calls with
          delivery := { s.queue with queue := ⟨1, [frame], Nat.le_refl 1⟩ }
          pushing := .tallying (some n) frame true false ::
            s.calls.pushing.erase (.cleared (some n) frame) } }, [])
    else none
  | .start reader =>
    if s.readers reader = none then
      some ({ s with readers := Function.update s.readers reader (some .begun) },
        [.started reader])
    else none
  | .read reader move =>
    match s.readers reader with
    | none => none
    | some point =>
      match s.queue.readStep s.filling point move with
      | none => none
      | some (d, .inl next) =>
        some ({ s.setQueue d with readers := Function.update s.readers reader (some next) }, [])
      | some (d, .inr result) =>
        some ({ s.setQueue d with readers := Function.update s.readers reader none },
          [.returned reader result])

end GenerationState

def generationMachine (φ : Type) [DecidableEq φ] :
    Machine (GenerationState φ) (GenerationInput φ) (GenerationEvent φ) := ⟨GenerationState.step⟩

/-! ### The fence of the ingresses -/

/-- What a step of a push may do: its frame gets into the queue only after it was let in, and it
leaves the barrier with its last step. -/
structure PushMoves {φ : Type} (d d' : DeliveryQueue φ) (stage : PushStage φ)
    (next : Option (PushStage φ)) : Prop where
  retired : d'.retired = d.retired
  inside : next.isSome = true → d'.ingressPushes = d.ingressPushes
  leaves : next = none → ∀ n, stage.ingress = some n →
    d'.ingressPushes = Function.update d.ingressPushes n (d.ingressPushes n - 1)
  same : ∀ stage' ∈ next, stage'.ingress = stage.ingress ∧ stage'.frame = stage.frame
  admitted : ∀ stage' ∈ next, stage'.admitted = true →
    stage.admitted = true ∨ d.current stage.ingress = true
  items : ∀ frame ∈ d'.queue.items, frame ∈ d.queue.items ∨
    stage.admitted = true ∧ frame = stage.frame

/-- The frames of `d'` were in `d`, and the ingresses are as they were. -/
structure Shrinks {φ : Type} (d d' : DeliveryQueue φ) : Prop where
  retired : d'.retired = d.retired
  pushes : d'.ingressPushes = d.ingressPushes
  items : ∀ frame ∈ d'.queue.items, frame ∈ d.queue.items

section Delivery

variable {φ : Type} {d d' : DeliveryQueue φ}

lemma Shrinks.of_ledger (hretired : d'.ledger.retired = d.ledger.retired)
    (hpushes : d'.ledger.ingressPushes = d.ledger.ingressPushes)
    (hitems : ∀ frame ∈ d'.ledger.queue.items, frame ∈ d.queue.items) : Shrinks d d' :=
  ⟨hretired, hpushes, hitems⟩

lemma Shrinks.same (h : d'.ledger = d.ledger) : Shrinks d d' :=
  .of_ledger (by rw [h]) (by rw [h]) (by rw [h]; exact fun _ => id)

lemma shrinks_takeOne {frame : φ} (h : d.takeOne = some (frame, d')) :
    Shrinks d d' ∧ frame ∈ d.queue.items := by
  obtain ⟨queue, hpop, hledger⟩ := DeliveryQueue.ledger_takeOne h
  have hitems := (Fifo.pop_eq_some.mp hpop).1
  refine ⟨.of_ledger (by rw [hledger]) (by rw [hledger]) ?_, ?_⟩
  · rw [hledger, hitems]
    exact fun _ => List.mem_cons_of_mem _
  · rw [hitems]
    exact List.mem_cons_self

lemma shrinks_publishTerminal (d : DeliveryQueue φ) (e : Ending) :
    Shrinks d (d.publishTerminal e) := by
  have hledger := d.ledger_publishTerminal e
  refine .of_ledger (by rw [hledger]) (by rw [hledger]) ?_
  rw [hledger]
  dsimp only
  split_ifs with hdiscard
  · simp
  · exact fun _ => id

lemma secondLook_frame {result : DeliveryRead φ}
    (h : d.secondLook = some result) : result.frame = none := by
  unfold DeliveryQueue.secondLook at h
  split_ifs at h
  cases h
  rfl

lemma firstLook_frame {result : DeliveryRead φ}
    (h : d.firstLook = some result) : result.frame = none := by
  unfold DeliveryQueue.firstLook at h
  split_ifs at h
  cases h
  rfl

/-- A read only takes frames out, and returns one that was there. -/
lemma readStep_shrinks {filling : Bool} {point : ReadPoint} {move : ReadMove}
    {done : ReadPoint ⊕ DeliveryRead φ} (h : d.readStep filling point move = some (d', done)) :
    Shrinks d d' ∧
      ∀ result, done = .inr result → ∀ frame ∈ result.frame, frame ∈ d.queue.items := by
  have hnothing : ∀ {r : DeliveryRead φ}, r.frame = none → ∀ result,
      (Sum.inr r : ReadPoint ⊕ DeliveryRead φ) = .inr result →
      ∀ frame ∈ result.frame, frame ∈ d.queue.items := by
    intro r hr result heq frame hframe
    cases heq
    rw [hr] at hframe
    cases hframe
  have hpoint : ∀ {point : ReadPoint} (result : DeliveryRead φ),
      (Sum.inl point : ReadPoint ⊕ DeliveryRead φ) = .inr result →
      ∀ frame ∈ result.frame, frame ∈ d.queue.items := by
    intro point result heq
    cases heq
  unfold DeliveryQueue.readStep at h
  split at h
  case h_1 =>
    split at h
    case h_1 result hlook =>
      cases h
      exact ⟨.same rfl, hnothing (firstLook_frame hlook)⟩
    case h_2 =>
      cases h
      exact ⟨.same rfl, hpoint⟩
  case h_2 =>
    split at h
    case h_1 taken htake =>
      cases h
      obtain ⟨hshrinks, hmem⟩ := shrinks_takeOne htake
      refine ⟨hshrinks, fun result heq frame hframe => ?_⟩
      cases heq
      cases hframe
      exact hmem
    case h_2 =>
      cases h
      exact ⟨.same rfl, hpoint⟩
  case h_3 =>
    split_ifs at h
    cases h
    exact ⟨.same rfl, hpoint⟩
  case h_4 =>
    split at h
    case h_1 result hlook =>
      cases h
      exact ⟨.same rfl, hnothing (secondLook_frame hlook)⟩
    case h_2 =>
      split at h
      case h_1 | h_2 =>
        cases h
        exact ⟨.same rfl, hnothing rfl⟩
      case h_3 =>
        cases h
        exact ⟨.same d.ledger_beginAwait, hpoint⟩
  case h_5 =>
    split_ifs at h
    · cases h
      exact ⟨.same (d.ledger_endAwait true), hpoint⟩
    · cases h
      exact ⟨.same (d.ledger_endAwait false), hnothing rfl⟩
  case h_6 => cases h

lemma PushMoves.advances {stage stage' : PushStage φ} (hshrinks : Shrinks d d')
    (hingress : stage'.ingress = stage.ingress) (hframe : stage'.frame = stage.frame)
    (hadmitted : stage'.admitted = true →
      stage.admitted = true ∨ d.current stage.ingress = true) :
    PushMoves d d' stage (some stage') where
  retired := hshrinks.retired
  inside _ := hshrinks.pushes
  leaves h := by cases h
  same := by
    rintro _ ⟨⟩
    exact ⟨hingress, hframe⟩
  admitted := by
    rintro _ ⟨⟩
    exact hadmitted
  items frame hmem := .inl (hshrinks.items frame hmem)

lemma PushMoves.enqueues {stage stage' : PushStage φ} {queue : Fifo φ}
    (hitems : ∀ frame ∈ queue.items, frame ∈ d.queue.items ∨ frame = stage.frame)
    (hingress : stage'.ingress = stage.ingress) (hframe : stage'.frame = stage.frame)
    (hadmitted : stage.admitted = true) :
    PushMoves d { d with queue } stage (some stage') where
  retired := rfl
  inside _ := rfl
  leaves h := by cases h
  same := by
    rintro _ ⟨⟩
    exact ⟨hingress, hframe⟩
  admitted _ _ _ := .inl hadmitted
  items frame hmem := (hitems frame hmem).imp_right fun h => ⟨hadmitted, h⟩

lemma push_items {queue : Fifo φ} {frame : φ} (h : d.queue.push frame = some queue) :
    ∀ x ∈ queue.items, x ∈ d.queue.items ∨ x = frame := by
  intro x hx
  rw [(Fifo.push_eq_some.mp h).2.1, List.mem_append, List.mem_singleton] at hx
  exact hx

lemma pushStep_moves (d : DeliveryQueue φ) (stage : PushStage φ) :
    PushMoves d (DeliveryState.pushStep d stage).1 stage (DeliveryState.pushStep d stage).2.1 := by
  cases stage with
  | entered ingress frame => exact .advances (.same rfl) rfl rfl .inr
  | sighted =>
    simp only [DeliveryState.pushStep]
    split_ifs with hin
    · exact .advances (.same rfl) rfl rfl fun _ => .inl hin.1
    · exact .advances ⟨rfl, rfl, fun _ => id⟩ rfl rfl (fun h => by cases h)
  | cleared ingress frame =>
    simp only [DeliveryState.pushStep]
    cases hpush : d.queue.push frame with
    | some queue => exact .enqueues (push_items hpush) rfl rfl rfl
    | none =>
      split_ifs <;> exact .advances (.same rfl) rfl rfl fun _ => .inl rfl
  | evicting =>
    simp only [DeliveryState.pushStep]
    cases hpop : d.queue.pop with
    | some popped =>
      have hitems := (Fifo.pop_eq_some.mp hpop).1
      have hledger := DeliveryQueue.ledger_consumeOne { d with queue := popped.2 }
      refine .advances (.of_ledger (by rw [hledger]; rfl) (by rw [hledger]; rfl) ?_) rfl rfl
        fun _ => .inl rfl
      rw [hledger, hitems]
      exact fun _ => List.mem_cons_of_mem _
    | none => exact .advances (.same rfl) rfl rfl fun _ => .inl rfl
  | retrying ingress frame =>
    simp only [DeliveryState.pushStep]
    cases hpush : d.queue.push frame with
    | some queue => exact .enqueues (push_items hpush) rfl rfl rfl
    | none => exact .advances (.same rfl) rfl rfl fun _ => .inl rfl
  | tallying ingress frame queued dropped =>
    have hledger := d.ledger_settlePush queued dropped
    rw [DeliveryState.pushStep]
    refine .advances (.of_ledger (by rw [hledger]) (by rw [hledger]) ?_) rfl rfl
      (fun h => by cases h)
    rw [hledger]
    exact fun _ => id
  | settled ingress =>
    have hqueue : (d.leavePush ingress).queue = d.queue := by cases ingress <;> rfl
    have hretired : (d.leavePush ingress).retired = d.retired := by cases ingress <;> rfl
    exact
      { retired := hretired
        inside := by
          intro h
          cases h
        leaves := by
          rintro - n hn
          obtain rfl : ingress = some n := hn
          rfl
        same := by
          intro _ h
          cases h
        admitted := by
          intro _ h
          cases h
        items := by
          intro x hx
          rw [DeliveryState.pushStep, hqueue] at hx
          exact .inl hx }

end Delivery

/-- Every push is counted by its ingress, all ingresses but the current one are retired, and only
the pushes through the current one and the one that is waited for may be past the check. -/
structure Fenced {φ : Type} (d : DeliveryQueue (Tagged φ)) (pushing : List (PushStage (Tagged φ)))
    (made : ℕ) (current previous : Option ℕ) : Prop where
  tagged : ∀ stage ∈ pushing,
    stage.ingress = some stage.frame.ingress ∧ stage.frame.ingress < made
  counted : ∀ n, d.ingressPushes n = pushing.countP fun stage => stage.ingress = some n
  retired : ∀ n < made, current ≠ some n → d.retired n = true
  admitted : ∀ stage ∈ pushing, stage.admitted = true →
    stage.ingress = current ∨ stage.ingress = previous

namespace Fenced

variable {φ : Type} {d d' : DeliveryQueue (Tagged φ)} {pushing : List (PushStage (Tagged φ))}
  {made : ℕ} {current previous : Option ℕ}

lemma shrinks (h : Fenced d pushing made current previous) (hd : Shrinks d d') :
    Fenced d' pushing made current previous where
  tagged := h.tagged
  counted := by rw [hd.pushes]; exact h.counted
  retired := by rw [hd.retired]; exact h.retired
  admitted := h.admitted

lemma enter (h : Fenced d pushing made current previous) {frame : Tagged φ}
    (hmade : frame.ingress < made) :
    Fenced (d.enterPush (some frame.ingress)) (.entered (some frame.ingress) frame :: pushing)
      made current previous where
  tagged := by
    rw [List.forall_mem_cons]
    exact ⟨⟨rfl, hmade⟩, h.tagged⟩
  counted n := by
    have hcount := h.counted n
    rw [List.countP_cons]
    by_cases hn : frame.ingress = n
    · subst hn
      simp [DeliveryQueue.enterPush, PushStage.ingress, hcount]
    · have hother : n ≠ frame.ingress := fun heq => hn heq.symm
      simp [DeliveryQueue.enterPush, PushStage.ingress, hcount, hn, hother]
  retired := h.retired
  admitted := by
    rw [List.forall_mem_cons]
    exact ⟨(fun h => by cases h), h.admitted⟩

lemma enters (h : Fenced d pushing made current previous) {stage : PushStage (Tagged φ)}
    {next : Option (PushStage (Tagged φ))} (hmem : stage ∈ pushing)
    (hmoves : PushMoves d d' stage next) : ∀ frame ∈ d'.queue.items,
      frame ∈ d.queue.items ∨ some frame.ingress = current ∨ some frame.ingress = previous := by
  intro frame hframe
  obtain hold | ⟨hadmitted, rfl⟩ := hmoves.items frame hframe
  · exact .inl hold
  · rw [← (h.tagged stage hmem).1]
    exact .inr (h.admitted stage hmem hadmitted)

lemma moves [DecidableEq φ] (h : Fenced d pushing made current previous)
    {stage : PushStage (Tagged φ)} {next : Option (PushStage (Tagged φ))} (hmem : stage ∈ pushing)
    (hmoves : PushMoves d d' stage next) :
    Fenced d' (next.toList ++ pushing.erase stage) made current previous := by
  obtain ⟨htagged, hmade⟩ := h.tagged stage hmem
  have hrest : ∀ stage' ∈ next.toList ++ pushing.erase stage, stage' ∈ next ∨ stage' ∈ pushing := by
    intro stage' hstage
    rw [List.mem_append, Option.mem_toList] at hstage
    exact hstage.imp_right List.mem_of_mem_erase
  refine ⟨fun stage' hstage => ?_, fun n => ?_, ?_, fun stage' hstage hin => ?_⟩
  · obtain hnext | hold := hrest stage' hstage
    · obtain ⟨hingress, hframe⟩ := hmoves.same stage' hnext
      rw [hingress, hframe]
      exact ⟨htagged, hmade⟩
    · exact h.tagged stage' hold
  · have hcount := h.counted n
    rw [(List.perm_cons_erase hmem).countP_eq, List.countP_cons] at hcount
    rw [List.countP_append]
    cases next with
    | some stage' =>
      have hsame := (hmoves.same stage' rfl).1
      rw [hmoves.inside rfl, hcount, Option.toList_some, List.countP_singleton, hsame, add_comm]
    | none =>
      rw [hmoves.leaves rfl _ htagged, Option.toList_none, List.countP_nil, zero_add]
      by_cases hn : n = stage.frame.ingress
      · subst hn
        rw [update_self, hcount]
        simp [htagged]
      · rw [update_of_ne hn, hcount]
        have hother : stage.frame.ingress ≠ n := fun heq => hn heq.symm
        simp [htagged, hother]
  · rw [hmoves.retired]
    exact h.retired
  · obtain hnext | hold := hrest stage' hstage
    · rw [(hmoves.same stage' hnext).1]
      obtain hadmitted | hcurrent := hmoves.admitted stage' hnext hin
      · exact h.admitted stage hmem hadmitted
      · rw [htagged, DeliveryQueue.current, Bool.not_eq_true'] at hcurrent
        have hretired := h.retired _ hmade
        rw [hcurrent] at hretired
        refine .inl ?_
        rw [htagged]
        by_contra hne
        cases hretired fun heq => hne heq.symm
    · exact h.admitted stage' hold hin

lemma retire (h : Fenced d pushing made current none) {made' : ℕ} {next : Option ℕ}
    (hmade : made ≤ made') (hnext : ∀ n < made', next ≠ some n → n < made) :
    Fenced (d.retire current) pushing made' next current where
  tagged stage hmem := by
    obtain ⟨htagged, hlt⟩ := h.tagged stage hmem
    exact ⟨htagged, hlt.trans_le hmade⟩
  counted := by cases current <;> exact h.counted
  retired n hn hne := by
    have hold := h.retired n (hnext n hn hne)
    cases current with
    | none => exact hold (by simp)
    | some m =>
      by_cases heq : n = m
      · subst heq
        exact update_self ..
      · have hsame : (d.retire (some m)).retired n = d.retired n := update_of_ne heq ..
        rw [hsame]
        exact hold fun h => heq (Option.some.inj h).symm
  admitted stage hmem hin := by
    obtain hcurrent | hnone := h.admitted stage hmem hin
    · exact .inr hcurrent
    · rw [(h.tagged stage hmem).1] at hnone
      cases hnone

lemma waited (h : Fenced d pushing made current previous)
    (hwaited : d.ingressWaited previous = true) : Fenced d pushing made current none where
  tagged := h.tagged
  counted := h.counted
  retired := h.retired
  admitted stage hmem hin := by
    obtain hcurrent | hprevious := h.admitted stage hmem hin
    · exact .inl hcurrent
    · have htagged := (h.tagged stage hmem).1
      rw [← hprevious, htagged, DeliveryQueue.ingressWaited, decide_eq_true_eq, h.counted,
        List.countP_eq_zero] at hwaited
      exact absurd (decide_eq_true htagged) (hwaited stage hmem)

end Fenced

/-! ### What holds in every run -/

namespace GenerationState

variable {φ : Type} {s s' : GenerationState φ} {config : SubscriberConfig}
  {events : List (GenerationEvent φ)}

/-- Reconnecting discards while there is no current ingress. -/
structure Ruled (config : SubscriberConfig) (s : GenerationState φ) : Prop where
  tracked : s.subscription.Tracked config
  ordered : Follows s.currentIngress.isSome s.pending s.subscription.holdsIngress
  barred : ∀ count, s.stage = .discarding true count → s.currentIngress = none
  fenced : Fenced s.queue s.calls.pushing s.made s.currentIngress s.stage.previous

/-- No frame of ingress `n` is in the queue, or will be. -/
structure Clean (s : GenerationState φ) (n : ℕ) : Prop where
  made : n < s.made
  current : s.currentIngress ≠ some n
  previous : s.stage.previous ≠ some n
  queued : ∀ frame ∈ s.queue.queue.items, frame.ingress ≠ n

/-- What a step reports. -/
inductive Reports (s s' : GenerationState φ) : List (GenerationEvent φ) → Prop
  | quiet : Reports s s' []
  | made (last : s.made < s'.made) : Reports s s' [.made s.made]
  | discarded (emptied : ∀ n < s'.made, s'.Clean n) : Reports s s' [.discarded]
  | started (reader : ℕ) : Reports s s' [.started reader]
  | returned (reader : ℕ) (result : DeliveryRead (Tagged φ))
      (taken : ∀ frame ∈ result.frame, frame ∈ s.queue.queue.items) :
      Reports s s' [.returned reader result]

structure Keeps (config : SubscriberConfig) (s s' : GenerationState φ)
    (events : List (GenerationEvent φ)) : Prop where
  ruled : s'.Ruled config
  grows : s.made ≤ s'.made
  clean : ∀ n, s.Clean n → s'.Clean n
  reports : s.Reports s' events

lemma create_ruled (config : SubscriberConfig) (hasFd : Bool) :
    (create config hasFd : GenerationState φ).Ruled config where
  tracked := SubscriptionState.create_tracked config
  ordered := Follows.quiet (fun h => by cases h)
  barred _ h := by cases h
  fenced :=
    { tagged := by simp [create]
      counted := fun n => rfl
      retired := fun n h => absurd h (Nat.not_lt_zero n)
      admitted := by simp [create] }

lemma Ruled.delivers (h : s.Ruled config) (hsub : s'.subscription = s.subscription)
    (hpending : s'.pending = s.pending) (hcurrent : s'.currentIngress = s.currentIngress)
    (hprevious : s'.stage.previous = s.stage.previous)
    (hbarred : ∀ count, s'.stage = .discarding true count → s.currentIngress = none)
    (hmade : s'.made = s.made)
    (hfenced : Fenced s'.queue s'.calls.pushing s.made s.currentIngress s.stage.previous)
    (hitems : ∀ frame ∈ s'.queue.queue.items, frame ∈ s.queue.queue.items ∨
      some frame.ingress = s.currentIngress ∨ some frame.ingress = s.stage.previous)
    (hreports : s.Reports s' events) : Keeps config s s' events where
  ruled :=
    { tracked := by rw [hsub]; exact h.tracked
      ordered := by rw [hsub, hpending, hcurrent]; exact h.ordered
      barred := by rw [hcurrent]; exact hbarred
      fenced := by rw [hmade, hcurrent, hprevious]; exact hfenced }
  grows := hmade.ge
  clean n hclean :=
    { made := by rw [hmade]; exact hclean.made
      current := by rw [hcurrent]; exact hclean.current
      previous := by rw [hprevious]; exact hclean.previous
      queued := by
        intro frame hframe heq
        subst heq
        obtain hold | hnow | hbefore := hitems frame hframe
        · exact hclean.queued frame hold rfl
        · exact hclean.current hnow.symm
        · exact hclean.previous hbefore.symm }
  reports := hreports

lemma Ruled.reads (h : s.Ruled config) {d : DeliveryQueue (Tagged φ)} (hd : Shrinks s.queue d)
    (readers : ℕ → Option ReadPoint) (hreports : s.Reports { s.setQueue d with readers } events) :
    Keeps config s { s.setQueue d with readers } events :=
  h.delivers rfl rfl rfl rfl h.barred rfl (h.fenced.shrinks hd)
    (fun frame hframe => .inl (hd.items frame hframe)) hreports

lemma idle_iff : s.idle = true ↔ s.pending = [] ∧ s.stage = .idle := decide_eq_true_iff

lemma subscribes (h : s.Ruled config) {input : SubscriptionInput} {next : SubscriptionState}
    {calls : List ControlEvent} (hs : s.subscription.step input = some (next, calls))
    (hfree : s.idle = true ∨ input.ofControl = false ∧ ingressCalls calls = []) :
    Keeps config s { s with subscription := next, pending := s.pending ++ ingressCalls calls }
      [] := by
  have hleads := SubscriptionState.step_leads h.tracked hs
  obtain ⟨left, hleft, hknown⟩ := h.ordered
  refine ⟨⟨(SubscriptionState.step_tracked h.tracked hs).1, ?_, h.barred, h.fenced⟩, le_rfl,
    fun n hclean => ⟨hclean.made, hclean.current, hclean.previous, hclean.queued⟩, .quiet⟩
  by_cases hnone : ingressCalls calls = []
  · rw [hnone] at hleads ⊢
    obtain ⟨held, hheld, hgoes⟩ := hleads
    cases hheld
    rw [List.append_nil]
    exact ⟨left, hleft, fun h => hgoes (hknown h)⟩
  · have hidle := hfree.resolve_right fun hquiet => hnone hquiet.2
    rw [(idle_iff.mp hidle).1] at hleft ⊢
    cases hleft
    exact hleads.mono hknown

lemma retires (h : s.Ruled config) (hstage : s.stage = .idle) {rest : List IngressCall}
    {made : ℕ} {next : Option ℕ} (hmade : s.made ≤ made)
    (hnext : ∀ n < made, next ≠ some n → n < s.made) (hfresh : ∀ n < s.made, next ≠ some n)
    (hordered : Follows next.isSome rest s.subscription.holdsIngress)
    (hreports : s.Reports { s.retireCurrent rest next with made } events) :
    Keeps config s { s.retireCurrent rest next with made } events := by
  have hfenced := h.fenced
  rw [hstage] at hfenced
  have hqueue : (s.queue.retire s.currentIngress).queue = s.queue.queue := by
    cases s.currentIngress <;> rfl
  refine ⟨⟨h.tracked, hordered, fun _ hdiscard => ?_, hfenced.retire hmade hnext⟩, hmade,
    fun n hclean => ⟨hclean.made.trans_le hmade, hfresh n hclean.made, hclean.current, ?_⟩,
    hreports⟩
  · cases hdiscard
  · intro frame hframe
    refine hclean.queued frame ?_
    rw [← hqueue]
    exact hframe

lemma makes (h : s.Ruled config) (hstage : s.stage = .idle) {rest : List IngressCall}
    (hpending : s.pending = .make :: rest) :
    Keeps config s { s.retireCurrent rest (some s.made) with made := s.made + 1 }
      [.made s.made] := by
  have hordered := h.ordered
  rw [hpending] at hordered
  refine retires h hstage (Nat.le_succ _) (fun n hn hne => ?_) (fun n hn heq => ?_) hordered
    (.made (Nat.lt_succ_self _))
  · have hother : n ≠ s.made := fun heq => hne (congrArg some heq.symm)
    omega
  · cases heq
    exact absurd hn (lt_irrefl _)

lemma discards (h : s.Ruled config) {reconnecting : Bool} {count : ℕ}
    (hstage : s.stage = .discarding reconnecting count)
    (hempty : reconnecting = true → s.queue.queue.items = []) :
    Keeps config s (s.endDiscard reconnecting count).1 (s.endDiscard reconnecting count).2 := by
  have hledger := DeliveryQueue.ledger_drainWakeups
    { s.queue with discarded := s.queue.discarded + count }
  have hd : Shrinks s.queue
      { s.queue with discarded := s.queue.discarded + count }.drainWakeups := by
    refine .of_ledger (by rw [hledger]; rfl) (by rw [hledger]; rfl) ?_
    rw [hledger]
    exact fun _ => id
  have hprevious : s.stage.previous = none := by rw [hstage]; rfl
  refine h.delivers rfl rfl rfl hprevious.symm (fun _ hnext => ?_) rfl (h.fenced.shrinks hd)
    (fun frame hframe => .inl (hd.items frame hframe)) ?_
  · cases hnext
  · cases reconnecting with
    | false => exact .quiet
    | true =>
      refine .discarded fun n hn => ⟨hn, ?_, (fun h => by cases h), fun frame hframe => ?_⟩
      · have hnone : (s.endDiscard true count).1.currentIngress = none := h.barred count hstage
        rw [hnone]
        exact by simp
      · have hin := hd.items frame hframe
        rw [hempty rfl] at hin
        cases hin

lemma not_filling (h : s.Ruled config) {count : ℕ} (hstage : s.stage = .discarding true count) :
    s.filling = false := by
  rw [filling, List.any_eq_false]
  intro stage hmem hfills
  have htagged := (h.fenced.tagged stage hmem).1
  obtain hcurrent | hprevious :=
    h.fenced.admitted stage hmem (PushStage.admitted_of_filling hfills)
  · rw [h.barred count hstage, htagged] at hcurrent
    cases hcurrent
  · rw [hstage, htagged] at hprevious
    cases hprevious

lemma ingressStep_keeps (h : s.Ruled config) (hs : s.ingressStep = some (s', events)) :
    Keeps config s s' events := by
  unfold ingressStep at hs
  split at hs
  case h_1 hstage =>
    have hordered := h.ordered
    split at hs
    case h_1 => cases hs
    case h_2 rest hpending =>
      cases hs
      exact makes h hstage hpending
    case h_3 rest hpending =>
      cases hs
      rw [hpending] at hordered
      exact retires h hstage le_rfl (fun n hn _ => hn) (by simp) hordered .quiet
    case h_4 reconnecting rest hpending =>
      cases hs
      rw [hpending] at hordered
      obtain ⟨left, hleft, hknown⟩ := hordered
      have hprevious : s.stage.previous = none := by rw [hstage]; rfl
      have hfenced := h.fenced
      rw [hprevious] at hfenced
      have hclean : ∀ n, s.Clean n →
          { s with pending := rest, stage := .discarding reconnecting 0 }.Clean n := fun n hn =>
        ⟨hn.made, hn.current, (fun h => by cases h), hn.queued⟩
      cases reconnecting with
      | false =>
        exact ⟨⟨h.tracked, ⟨left, hleft, hknown⟩, by simp, hfenced⟩, le_rfl, hclean,
          .quiet⟩
      | true =>
        rw [followCalls, Option.ite_none_left_eq_some] at hleft
        refine ⟨⟨h.tracked, ⟨left, hleft.2, hknown⟩, fun _ _ => ?_, hfenced⟩, le_rfl, hclean,
          .quiet⟩
        exact Option.not_isSome_iff_eq_none.mp hleft.1
  case h_2 previous hstage =>
    obtain ⟨hwaited, rfl, rfl⟩ := of_guard hs
    have hfenced := h.fenced
    rw [hstage] at hfenced
    exact ⟨⟨h.tracked, h.ordered, by simp, hfenced.waited hwaited⟩, le_rfl,
      fun n hn => ⟨hn.made, hn.current, (fun h => by cases h), hn.queued⟩, .quiet⟩
  case h_3 reconnecting count hstage =>
    split at hs
    case h_1 popped hpop =>
      cases hs
      have hledger := DeliveryQueue.ledger_consumeOne { s.queue with queue := popped.2 }
      have hd : Shrinks s.queue { s.queue with queue := popped.2 }.consumeOne := by
        refine .of_ledger (by rw [hledger]; rfl) (by rw [hledger]; rfl) ?_
        rw [hledger, (Fifo.pop_eq_some.mp hpop).1]
        exact fun _ => List.mem_cons_of_mem _
      have hprevious : s.stage.previous = none := by rw [hstage]; rfl
      refine h.delivers rfl rfl rfl hprevious.symm (fun _ hnext => ?_) rfl (h.fenced.shrinks hd)
        (fun frame hframe => .inl (hd.items frame hframe)) .quiet
      cases hnext
      exact h.barred count hstage
    case h_2 hpop =>
      cases hs
      exact discards h hstage fun _ => Fifo.pop_eq_none.mp hpop

variable {trace : List (GenerationEvent φ)}

lemma sublist_snoc (before : List (GenerationEvent φ)) {e e' : GenerationEvent φ}
    (h : (before ++ [e]).Sublist (trace ++ [e'])) :
    (before ++ [e]).Sublist trace ∨ e = e' ∧ before.Sublist trace := by
  obtain ⟨front, back, heq, hfront, hback⟩ := List.sublist_append_iff.mp h
  obtain rfl | rfl := List.sublist_singleton.mp hback
  · rw [List.append_nil] at heq
    exact .inl (heq ▸ hfront)
  · obtain ⟨rfl, hlast⟩ := List.append_inj' heq rfl
    exact .inr ⟨List.head_eq_of_cons_eq hlast, hfront⟩

/-- What the trace says of the ingresses. -/
structure Isolated (config : SubscriberConfig) (trace : List (GenerationEvent φ))
    (s : GenerationState φ) : Prop where
  ruled : s.Ruled config
  numbered : ∀ n, [.made n].Sublist trace → n < s.made
  cleaned : ∀ n, [.made n, .discarded].Sublist trace → s.Clean n
  isolated : ∀ n reader result, [.made n, .discarded, .returned reader result].Sublist trace →
    ∀ frame ∈ result.frame, frame.ingress ≠ n

lemma Isolated.step (h : Isolated config trace s) (hkeeps : Keeps config s s' events) :
    Isolated config (trace ++ events) s' := by
  obtain ⟨hruled, hgrows, hclean, hreports⟩ := hkeeps
  have hnumbered : ∀ n, [.made n].Sublist trace → n < s'.made := fun n hn =>
    (h.numbered n hn).trans_le hgrows
  have hcleaned : ∀ n, [.made n, .discarded].Sublist trace → s'.Clean n := fun n hn =>
    hclean n (h.cleaned n hn)
  -- An event is the last of a list in the trace, or the list was in the trace before.
  have hsplit : ∀ {e : GenerationEvent φ} (before : List (GenerationEvent φ)) (e'),
      (before ++ [e']).Sublist (trace ++ [e]) → e' ≠ e → (before ++ [e']).Sublist trace :=
    fun before e' hsub hne => (sublist_snoc before hsub).resolve_right fun hlast => hne hlast.1
  cases hreports with
  | quiet =>
    rw [List.append_nil]
    exact ⟨hruled, hnumbered, hcleaned, h.isolated⟩
  | made hlast =>
    refine ⟨hruled, fun n hn => ?_, fun n hn => ?_, fun n reader result hn => ?_⟩
    · obtain hold | ⟨heq, -⟩ := sublist_snoc [] hn
      · exact hnumbered n hold
      · cases heq
        exact hlast
    · exact hcleaned n (hsplit [.made n] _ hn (by simp))
    · exact h.isolated n reader result (hsplit [.made n, .discarded] _ hn (by simp))
  | discarded hemptied =>
    refine ⟨hruled, fun n hn => ?_, fun n hn => ?_, fun n reader result hn => ?_⟩
    · exact hnumbered n (hsplit [] _ hn (by simp))
    · obtain hold | ⟨-, hmade⟩ := sublist_snoc [.made n] hn
      · exact hcleaned n hold
      · exact hemptied n (hnumbered n hmade)
    · exact h.isolated n reader result (hsplit [.made n, .discarded] _ hn (by simp))
  | started reader =>
    refine ⟨hruled, fun n hn => ?_, fun n hn => ?_, fun n reader result hn => ?_⟩
    · exact hnumbered n (hsplit [] _ hn (by simp))
    · exact hcleaned n (hsplit [.made n] _ hn (by simp))
    · exact h.isolated n reader result (hsplit [.made n, .discarded] _ hn (by simp))
  | returned reader result htaken =>
    refine ⟨hruled, fun n hn => ?_, fun n hn => ?_, fun n reader' result' hn frame hframe => ?_⟩
    · exact hnumbered n (hsplit [] _ hn (by simp))
    · exact hcleaned n (hsplit [.made n] _ hn (by simp))
    · obtain hold | ⟨heq, hbefore⟩ := sublist_snoc [.made n, .discarded] hn
      · exact h.isolated n reader' result' hold frame hframe
      · cases heq
        exact (h.cleaned n hbefore).queued frame (htaken frame hframe)

variable [DecidableEq φ]

/-- A step of a push or of a terminal call. -/
lemma deliveryStep_keeps (h : s.Ruled config) {input : DeliveryInput (Tagged φ)}
    (hfits : input.fits s.made = true) {calls : DeliveryState (Tagged φ)}
    {told : List (DeliveryEvent (Tagged φ))} (hs : s.calls.step input = some (calls, told)) :
    Keeps config s { s with calls } [] := by
  have hshrinks : calls.pushing = s.calls.pushing → Shrinks s.queue calls.delivery →
      Keeps config s { s with calls } [] := by
    intro hpushing hd
    refine h.delivers rfl rfl rfl rfl h.barred rfl ?_
      (fun frame hframe => .inl (hd.items frame hframe)) .quiet
    rw [hpushing]
    exact h.fenced.shrinks hd
  unfold DeliveryState.step at hs
  split at hs
  case h_1 ingress frame =>
    cases hs
    cases ingress with
    | none => cases hfits
    | some =>
      rw [DeliveryInput.fits, decide_eq_true_eq] at hfits
      obtain ⟨rfl, hmade⟩ := hfits
      exact h.delivers rfl rfl rfl rfl h.barred rfl (h.fenced.enter hmade) (fun _ => .inl) .quiet
  case h_2 stage =>
    obtain ⟨hmem, rfl, -⟩ := of_guard hs
    have hmoves := pushStep_moves s.queue stage
    exact h.delivers rfl rfl rfl rfl h.barred rfl (h.fenced.moves hmem hmoves)
      (h.fenced.enters hmem hmoves) .quiet
  case h_4 call =>
    split at hs
    case h_1 => cases hs
    case h_2 =>
      split at hs
      case h_1 =>
        cases hs
        exact hshrinks rfl (.same rfl)
      case h_2 d hstop =>
        cases hs
        rw [DeliveryQueue.stopAccepting, Option.ite_none_left_eq_some] at hstop
        obtain rfl := Option.some.inj hstop.2
        exact hshrinks rfl ⟨rfl, rfl, fun _ => id⟩
  case h_5 =>
    split at hs
    case h_1 => cases hs
    case h_2 call _ =>
      obtain ⟨-, rfl, -⟩ := of_guard hs
      exact hshrinks rfl (shrinks_publishTerminal s.queue call.ending)
  all_goals cases hfits

lemma step_keeps {i : GenerationInput φ} (h : s.Ruled config)
    (hs : s.step i = some (s', events)) : Keeps config s s' events := by
  cases i with
  | subscription =>
    simp only [step] at hs
    split at hs
    case h_1 => cases hs
    case h_2 next calls hnext =>
      obtain ⟨hguard, rfl, rfl⟩ := of_guard hs
      exact subscribes h hnext hguard
  | ingress => exact ingressStep_keeps h hs
  | stall =>
    simp only [step] at hs
    split at hs
    case h_1 reconnecting count hstage =>
      obtain ⟨hfilling, rfl, rfl⟩ := of_guard hs
      refine discards h hstage fun hreconnecting => ?_
      rw [hreconnecting] at hstage
      rw [not_filling h hstage] at hfilling
      cases hfilling
    case h_2 => cases hs
  | delivery =>
    obtain ⟨hfits, hs⟩ := Option.ite_none_right_eq_some.mp hs
    obtain ⟨⟨calls, told⟩, hstep, rfl, rfl⟩ := of_mapped hs
    exact deliveryStep_keeps h hfits hstep
  | overwrite n frame =>
    obtain ⟨⟨hmem, -⟩, rfl, rfl⟩ := of_guard hs
    have hmoves : PushMoves s.queue { s.queue with queue := ⟨1, [frame], Nat.le_refl 1⟩ }
        (.cleared (some n) frame) (some (.tallying (some n) frame true false)) :=
      .enqueues (fun x hx => .inr (List.mem_singleton.mp hx)) rfl rfl rfl
    exact h.delivers rfl rfl rfl rfl h.barred rfl (h.fenced.moves hmem hmoves)
      (h.fenced.enters hmem hmoves) .quiet
  | start reader =>
    obtain ⟨-, rfl, rfl⟩ := of_guard hs
    exact h.reads (.same rfl) _ (.started reader)
  | read reader =>
    simp only [step] at hs
    split at hs
    case h_1 => cases hs
    case h_2 point hpoint =>
      split at hs
      case h_1 => cases hs
      case h_2 d next hread =>
        cases hs
        exact h.reads (readStep_shrinks hread).1 _ .quiet
      case h_3 d result hread =>
        cases hs
        obtain ⟨hd, htaken⟩ := readStep_shrinks hread
        exact h.reads hd _ (.returned reader result (htaken result rfl))

lemma isolated_of_reaches {hasFd : Bool}
    (h : (generationMachine φ).Reaches anyStep (.create config hasFd) trace s) :
    Isolated config trace s :=
  h.traceInvariant (Isolated config)
    ⟨create_ruled config hasFd, by simp, by simp, by simp⟩
    fun _ _ _ _ _ hisolated _ hs => hisolated.step (step_keeps hisolated.ruled hs)

end GenerationState

/-- A read that starts after `reconnect` has discarded returns no frame that was pushed through an
ingress made before. -/
theorem reconnect_isolates {φ : Type} [DecidableEq φ] {config : SubscriberConfig} {hasFd : Bool}
    {trace : List (GenerationEvent φ)} {s : GenerationState φ} {n reader : ℕ}
    {result : DeliveryRead (Tagged φ)} {frame : Tagged φ}
    (hreach : (generationMachine φ).Reaches anyStep (.create config hasFd) trace s)
    (horder : [.made n, .discarded, .started reader, .returned reader result].Sublist trace)
    (hframe : result.frame = some frame) : frame.ingress ≠ n := by
  have hisolated := GenerationState.isolated_of_reaches hreach
  refine hisolated.isolated n reader result (List.Sublist.trans ?_ horder) frame hframe
  exact .cons_cons _ (.cons_cons _ (.cons _ (List.Sublist.refl _)))

/-- A push that is let in and finds room. -/
def pushInputs (n frame : ℕ) : List (GenerationInput ℕ) :=
  [.delivery (.push (some n) ⟨n, frame⟩), .delivery (.advance (.entered (some n) ⟨n, frame⟩)),
    .delivery (.advance (.sighted (some n) ⟨n, frame⟩ true)),
    .delivery (.advance (.cleared (some n) ⟨n, frame⟩)),
    .delivery (.advance (.tallying (some n) ⟨n, frame⟩ true false)),
    .delivery (.advance (.settled (some n) ⟨n, frame⟩ true))]

open GenerationInput in
/-- The first session leaves a frame in the queue and a push in the barrier; the second one pushes
a frame of its own. -/
def reconnectInputs : List (GenerationInput ℕ) :=
  (askInputs.take 2).map subscription ++ [ingress, ingress] ++
    (askInputs.drop 2 ++ adoptInputs (grantReply smallGeometry 1)).map subscription ++
    pushInputs 0 7 ++ [delivery (.push (some 0) ⟨0, 8⟩)] ++
    (loseInputs.take 5).map subscription ++
    [ingress, delivery (.advance (.entered (some 0) ⟨0, 8⟩)),
      delivery (.advance (.sighted (some 0) ⟨0, 8⟩ false)),
      delivery (.advance (.settled (some 0) ⟨0, 8⟩ false)), ingress] ++
    (loseInputs.drop 5 ++ backoffInputs).map subscription ++ [ingress, ingress, ingress] ++
    (askInputs.take 2).map subscription ++ [ingress, ingress] ++ pushInputs 1 9 ++
    [start 0, read 0 .look, read 0 .pop]

theorem reconnect_isolates_sample :
    ∃ trace s, (generationMachine ℕ).Reaches anyStep (.create { streamName := [97] } true) trace s ∧
      [.made 0, .discarded, .started 0,
        .returned 0 { kind := .frame, frame := some ⟨1, 9⟩ }].Sublist trace ∧
      (⟨1, 9⟩ : Tagged ℕ).ingress ≠ 0 := by
  obtain ⟨trace, s, hreach, horder⟩ := (generationMachine ℕ).exists_of_run anyStep
    (.create { streamName := [97] } true) reconnectInputs
    (P := fun _ t => [.made 0, .discarded, .started 0,
      .returned 0 { kind := .frame, frame := some ⟨1, 9⟩ }].Sublist t) (by decide +kernel)
  exact ⟨trace, s, hreach, horder, reconnect_isolates hreach horder rfl⟩

end TangoBulk
