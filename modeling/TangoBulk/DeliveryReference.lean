import TangoBulk.DeliveryCalls

/-! What a delivery queue is for: a list of frames with a bound, and the call that ended it. The
flags, the barrier and the ring of the queue answer every sequence of calls as this list does. -/
namespace TangoBulk

open Transition

/-- Whether a terminal lets go of the queued frames; an interrupt leaves them, out of the reach of
any read. -/
def TerminalCall.empties : TerminalCall → Bool
  | .close | .callbackFailed _ => true
  | .fail _ | .interrupt => false

/-- `ended` is the first terminal call. -/
structure DeliverySpec (φ : Type) where
  capacity : ℕ
  policy : DropPolicy
  frames : List φ := []
  ended : Option TerminalCall := none
  current : Option ℕ := none
  made : ℕ := 0

namespace DeliverySpec

variable {φ : Type}

/-- `admitted` says whether the frame comes from outside or through the current ingress. -/
def push (r : DeliverySpec φ) (admitted : Bool) (frame : φ) : Bool × DeliverySpec φ :=
  if !admitted || r.ended.isSome then (false, r)
  else if r.frames.length < r.capacity then (true, { r with frames := r.frames ++ [frame] })
  else if r.policy = .dropOldest then (true, { r with frames := r.frames.tail ++ [frame] })
  else (false, r)

/-- The oldest frame, or what there is to say instead. -/
def take (r : DeliverySpec φ) (otherwise : DeliveryRead φ) : DeliveryRead φ × DeliverySpec φ :=
  match r.frames with
  | [] => (otherwise, r)
  | frame :: rest => ({ kind := .frame, frame := some frame }, { r with frames := rest })

def read (r : DeliverySpec φ) (nothing : ReadKind) : DeliveryRead φ × DeliverySpec φ :=
  match r.ended with
  | none => r.take { kind := nothing }
  | some (.fail error) => r.take { kind := .sessionFailed, error }
  | some (.callbackFailed error) => ({ kind := .callbackFailed, error }, r)
  | some .close => ({ kind := .closed }, r)
  | some .interrupt => ({ kind := .interrupted }, r)

def finish (r : DeliverySpec φ) (call : TerminalCall) : DeliverySpec φ :=
  match r.ended with
  | some _ => r
  | none => { r with ended := some call, frames := if call.empties then [] else r.frames }

def step (r : DeliverySpec φ) : DeliveryCall φ → Option (DeliverySpec φ × List (DeliveryAnswer φ))
  | .push frame =>
    let done := r.push true frame
    some (done.2, [.pushed done.1])
  | .ingressPush n frame =>
    if n < r.made then
      let done := r.push (r.current = some n) frame
      some (done.2, [.pushed done.1])
    else none
  | .tryReadResult =>
    let done := r.read .empty
    some (done.2, [.read done.1])
  | .readResult _ =>
    let done := r.read .timeout
    some (done.2, [.read done.1])
  | .tryTake | .take _ => some ({ r with frames := r.frames.tail }, [.took r.frames.head?])
  | .discard => some ({ r with frames := [] }, [.discarded r.frames.length])
  | .makeIngress =>
    some ({ r with current := some r.made, made := r.made + 1 }, [.ingress r.made])
  | .retireIngress => some ({ r with current := none }, [.done])
  | .terminal call => some (r.finish call, [.done])

end DeliverySpec

def specMachine (φ : Type) : Machine (DeliverySpec φ) (DeliveryCall φ) (DeliveryAnswer φ) :=
  ⟨DeliverySpec.step⟩

/-! ### The list -/

namespace DeliverySpec

variable {φ : Type} {r r' : DeliverySpec φ} {first : TerminalCall}

lemma push_keeps (r : DeliverySpec φ) (admitted : Bool) (frame : φ) :
    ∃ frames, (r.push admitted frame).2 = { r with frames } := by
  unfold push
  split_ifs <;> exact ⟨_, rfl⟩

lemma take_keeps (r : DeliverySpec φ) (otherwise : DeliveryRead φ) :
    ∃ frames, (r.take otherwise).2 = { r with frames } := by
  unfold take
  split <;> exact ⟨_, rfl⟩

lemma read_keeps (r : DeliverySpec φ) (nothing : ReadKind) :
    ∃ frames, (r.read nothing).2 = { r with frames } := by
  unfold read
  split
  · exact r.take_keeps _
  · exact r.take_keeps _
  all_goals exact ⟨_, rfl⟩

end DeliverySpec

/-! ### The queue keeps to the list -/

/-- The ledger of a queue between two calls stands for the list. -/
structure DeliveryQueue.Ledger.Stands {φ : Type} (l : DeliveryQueue.Ledger φ)
    (r : DeliverySpec φ) : Prop where
  frames : l.queue.items = r.frames
  capacity : l.queue.capacity = r.capacity
  room : 0 < r.capacity
  policy : l.policy = r.policy
  terminal : l.terminal = r.ended.elim .none fun call => call.ending.terminal
  error : ∀ call ∈ r.ended, l.terminalError = call.ending.error
  accepting : l.accepting = r.ended.isNone
  retired : ∀ n, l.retired n = decide (n < r.made ∧ r.current ≠ some n)
  current : ∀ n ∈ r.current, n < r.made
  idle : l.activePushes = 0 ∧ ∀ n, l.ingressPushes n = 0

namespace DeliverySite

variable {φ : Type}

structure Refines (s : DeliverySite φ) (r : DeliverySpec φ) : Prop where
  stands : s.delivery.ledger.Stands r
  current : s.currentIngress = r.current
  made : s.made = r.made

end DeliverySite

namespace DeliveryQueue

variable {φ : Type} {l l' : Ledger φ} {r : DeliverySpec φ}

lemma Ledger.Stands.unset_iff (h : l.Stands r) : l.terminal = .none ↔ r.ended = none := by
  rw [h.terminal]
  cases hended : r.ended with
  | none => simp
  | some call => simp [call.ending_terminal]

lemma Ledger.Stands.reframe (h : l.Stands r) {queue : Fifo φ} {frames : List φ}
    (hitems : queue.items = frames) (hcap : queue.capacity = l.queue.capacity)
    {taken dropped discarded : ℕ} :
    Ledger.Stands { l with
      queue := queue, taken := taken, dropped := dropped, discarded := discarded }
      { r with frames } :=
  ⟨hitems, hcap.trans h.capacity, h.room, h.policy, h.terminal, h.error, h.accepting, h.retired,
    h.current, h.idle⟩

lemma Ledger.Stands.recount (h : l.Stands r) {dropped discarded : ℕ} :
    Ledger.Stands { l with dropped := dropped, discarded := discarded } r :=
  ⟨h.frames, h.capacity, h.room, h.policy, h.terminal, h.error, h.accepting, h.retired,
    h.current, h.idle⟩

lemma Ledger.Pushes.stands {admitted queued : Bool} {frame : φ}
    (hp : l.Pushes (admitted && l.accepting) frame queued l') (h : l.Stands r) :
    (r.push admitted frame).1 = queued ∧ l'.Stands (r.push admitted frame).2 := by
  have hlet : (!admitted || r.ended.isSome) = !(admitted && l.accepting) := by
    rw [h.accepting]
    cases admitted <;> cases r.ended <;> rfl
  unfold DeliverySpec.push
  rw [hlet]
  cases hp with
  | refused shut =>
    rw [shut, Bool.not_false, if_pos rfl]
    exact ⟨rfl, h.recount⟩
  | fits queue admits appended =>
    obtain ⟨hlt, hitems, hcap⟩ := Fifo.push_eq_some.mp appended
    rw [h.frames, h.capacity] at hlt
    rw [admits, Bool.not_true, if_neg Bool.false_ne_true, if_pos hlt]
    exact ⟨rfl, h.reframe (by rw [hitems, h.frames]) hcap⟩
  | newest admits full policy =>
    have hfull := Fifo.push_eq_none.mp full
    rw [h.frames, h.capacity] at hfull
    rw [h.policy] at policy
    rw [admits, Bool.not_true, if_neg Bool.false_ne_true, if_neg (by omega), if_neg policy]
    exact ⟨rfl, h.recount⟩
  | oldest first rest queue admits full policy evicted appended =>
    have hfull := Fifo.push_eq_none.mp full
    obtain ⟨hold, hcap⟩ := Fifo.pop_eq_some.mp evicted
    obtain ⟨-, hitems, hcap'⟩ := Fifo.push_eq_some.mp appended
    rw [h.frames, h.capacity] at hfull
    rw [h.policy] at policy
    rw [h.frames] at hold
    rw [admits, Bool.not_true, if_neg Bool.false_ne_true, if_neg (by omega), if_pos policy]
    exact ⟨rfl, h.reframe (by rw [hitems, hold, List.tail_cons]) (hcap'.trans hcap)⟩

lemma Ledger.Takes.stands {taken : Option φ} (ht : l.Takes taken l') (h : l.Stands r) :
    r.frames.head? = taken ∧ l'.Stands { r with frames := r.frames.tail } := by
  rw [← h.frames]
  cases ht with
  | frame frame queue oldest =>
    obtain ⟨hitems, hcap⟩ := Fifo.pop_eq_some.mp oldest
    rw [hitems]
    exact ⟨rfl, h.reframe rfl hcap⟩
  | nothing empty =>
    rw [empty]
    exact ⟨rfl, h.reframe empty rfl⟩

lemma Ledger.Stands.take (h : l.Stands r) {frame : φ} {queue : Fifo φ}
    (hpop : l.queue.pop = some (frame, queue)) (otherwise : DeliveryRead φ) :
    (r.take otherwise).1 = { kind := .frame, frame := some frame } ∧
      Ledger.Stands { l with queue := queue, taken := l.taken + 1 } (r.take otherwise).2 := by
  obtain ⟨hitems, hcap⟩ := Fifo.pop_eq_some.mp hpop
  rw [h.frames] at hitems
  unfold DeliverySpec.take
  rw [hitems]
  exact ⟨rfl, h.reframe rfl hcap⟩

lemma Ledger.Stands.take_nothing (h : l.Stands r) (hempty : l.queue.items = [])
    (otherwise : DeliveryRead φ) :
    (r.take otherwise).1 = otherwise ∧ l.Stands (r.take otherwise).2 := by
  rw [h.frames] at hempty
  unfold DeliverySpec.take
  rw [hempty]
  exact ⟨rfl, h⟩

lemma Ledger.Reads.barred {nothing : ReadKind} {result : DeliveryRead φ}
    (hr : l.Reads nothing result l') (hset : l.terminal ≠ .none)
    (hnot : l.terminal ≠ .sessionFailed) :
    result = { kind := readKind l.terminal
               error := if l.terminal = .callbackFailed then l.terminalError else noError } ∧
      l' = l := by
  cases hr with
  | ended => simp [hnot]
  | frame frame queue unbarred =>
    rcases unbarred with hnone | hfailed
    · exact absurd hnone hset
    · exact absurd hfailed hnot
  | nothing empty unset => exact absurd unset hset

lemma Ledger.Reads.stands {nothing : ReadKind} {result : DeliveryRead φ}
    (hr : l.Reads nothing result l') (h : l.Stands r) :
    (r.read nothing).1 = result ∧ l'.Stands (r.read nothing).2 := by
  have hterminal := h.terminal
  have herror := h.error
  unfold DeliverySpec.read
  cases hended : r.ended with
  | none =>
    rw [hended] at hterminal
    cases hr with
    | ended set => exact absurd hterminal set
    | frame frame queue unbarred oldest => exact h.take oldest _
    | nothing empty unset => exact h.take_nothing empty _
  | some call =>
    rw [hended] at hterminal
    have hset := herror call hended
    cases call with
    | fail error =>
      have hfailed : l.terminal = .sessionFailed := hterminal
      cases hr with
      | ended set drained =>
        have hkeep := h.take_nothing (drained hfailed) { kind := .sessionFailed, error := error }
        refine ⟨hkeep.1.trans ?_, hkeep.2⟩
        simp [hfailed, readKind, hset, TerminalCall.ending, Ending.fail]
      | frame frame queue unbarred oldest => exact h.take oldest _
      | nothing empty unset =>
        rw [hfailed] at unset
        cases unset
    | callbackFailed =>
      have hcallback : l.terminal = .callbackFailed := hterminal
      obtain ⟨rfl, rfl⟩ := hr.barred (by simp [hcallback]) (by simp [hcallback])
      exact ⟨by simp [hcallback, readKind, hset, TerminalCall.ending, Ending.callbackFailed], h⟩
    | close =>
      have hclosed : l.terminal = .closed := hterminal
      obtain ⟨rfl, rfl⟩ := hr.barred (by simp [hclosed]) (by simp [hclosed])
      exact ⟨by simp [hclosed, readKind], h⟩
    | interrupt =>
      have hinterrupted : l.terminal = .interrupted := hterminal
      obtain ⟨rfl, rfl⟩ := hr.barred (by simp [hinterrupted]) (by simp [hinterrupted])
      exact ⟨by simp [hinterrupted, readKind], h⟩

end DeliveryQueue

namespace DeliverySite

variable {φ : Type} {s : DeliverySite φ} {r : DeliverySpec φ}

lemma Refines.sound (h : s.Refines r) : s.delivery.ledger.Sound := by
  refine ⟨h.stands.capacity ▸ h.stands.room, fun hset => ?_⟩
  have hended : r.ended ≠ none := fun hnone => hset (h.stands.unset_iff.mpr hnone)
  rw [h.stands.accepting]
  cases hr : r.ended with
  | none => exact absurd hr hended
  | some => rfl

/-- What the next states of both machines have to satisfy. -/
def Agree (x : Option (DeliverySite φ × List (DeliveryAnswer φ)))
    (y : Option (DeliverySpec φ × List (DeliveryAnswer φ))) : Prop :=
  Option.Rel (fun x y => x.1.Refines y.1 ∧ x.2 = y.2) x y

lemma Refines.pushFrom (h : s.Refines r) {ingress : Option ℕ} {admitted : Bool} (frame : φ)
    (hcurrent : s.delivery.current ingress = admitted) :
    Agree (some (s.pushFrom ingress frame))
      (some ((r.push admitted frame).2, [.pushed (r.push admitted frame).1])) := by
  obtain ⟨queued, hanswer, hpushes⟩ := pushFrom_spec h.sound ingress frame
  rw [hcurrent] at hpushes
  obtain ⟨hqueued, hstands⟩ := DeliveryQueue.Ledger.Pushes.stands hpushes h.stands
  obtain ⟨frames, hkeeps⟩ := r.push_keeps admitted frame
  refine .some ⟨⟨hstands, ?_, ?_⟩, ?_⟩
  · exact h.current.trans (congrArg DeliverySpec.current hkeeps).symm
  · exact h.made.trans (congrArg DeliverySpec.made hkeeps).symm
  · rw [hanswer, hqueued]

lemma Refines.reads (h : s.Refines r) {nothing : ReadKind} {result : DeliveryRead φ}
    {d : DeliveryQueue φ} (hr : s.delivery.ledger.Reads nothing result d.ledger) :
    Agree (some ({ s with delivery := d }, [.read result]))
      (some ((r.read nothing).2, [.read (r.read nothing).1])) := by
  obtain ⟨hresult, hstands⟩ := hr.stands h.stands
  obtain ⟨frames, hkeeps⟩ := r.read_keeps nothing
  refine .some ⟨⟨hstands, ?_, ?_⟩, ?_⟩
  · exact h.current.trans (congrArg DeliverySpec.current hkeeps).symm
  · exact h.made.trans (congrArg DeliverySpec.made hkeeps).symm
  · rw [hresult]

lemma Refines.takes (h : s.Refines r) {taken : Option φ} {d : DeliveryQueue φ}
    (ht : s.delivery.ledger.Takes taken d.ledger) :
    Agree (some ({ s with delivery := d }, [.took taken]))
      (some ({ r with frames := r.frames.tail }, [.took r.frames.head?])) := by
  obtain ⟨htaken, hstands⟩ := ht.stands h.stands
  exact .some ⟨⟨hstands, h.current, h.made⟩, by rw [htaken]⟩

lemma Refines.retireIngress (h : s.Refines r) :
    ∃ s', s.retireIngress = some s' ∧ s'.Refines { r with current := none } := by
  have hstands := h.stands
  cases hcurrent : r.current with
  | none =>
    have hsite : s.currentIngress = none := h.current.trans hcurrent
    refine ⟨s, ?_, ?_⟩
    · simp only [DeliverySite.retireIngress, hsite, DeliveryQueue.ingressWaited, if_true,
        DeliveryQueue.retire]
      rw [← hsite]
    · rw [← hcurrent]
      exact h
  | some n =>
    have hsite : s.currentIngress = some n := h.current.trans hcurrent
    have hmade : n < r.made := hstands.current n hcurrent
    refine ⟨{ s with delivery := s.delivery.retire (some n), currentIngress := none },
      ?_, ⟨?_, rfl, h.made⟩⟩
    · have hwaited : s.delivery.ingressPushes n = 0 := hstands.idle.2 n
      simp [DeliverySite.retireIngress, hsite, DeliveryQueue.ingressWaited, hwaited]
    · refine ⟨hstands.frames, hstands.capacity, hstands.room, hstands.policy, hstands.terminal,
        hstands.error, hstands.accepting, fun m => ?_, by simp, hstands.idle⟩
      have hold := hstands.retired m
      change Function.update s.delivery.retired n true m = _
      by_cases hm : m = n
      · subst hm
        simp [hmade]
      · rw [Function.update_of_ne hm]
        refine hold.trans ?_
        rw [hcurrent]
        simp [Ne.symm hm]

lemma Refines.setTerminal (h : s.Refines r) (call : TerminalCall) :
    ∃ s', s.setTerminal call.ending = some s' ∧ s'.Refines (r.finish call) := by
  have hstands := h.stands
  cases hended : r.ended with
  | some =>
    have hset : s.delivery.terminal ≠ .none := by
      intro hnone
      have hopen := hstands.unset_iff.mp hnone
      rw [hended] at hopen
      cases hopen
    refine ⟨s, ?_, ?_⟩
    · simp [DeliverySite.setTerminal, DeliveryQueue.stopAccepting, hset]
    · simpa [DeliverySpec.finish, hended] using h
  | none =>
    have hunset : s.delivery.terminal = .none := hstands.unset_iff.mpr hended
    have hidle : s.delivery.activePushes = 0 := hstands.idle.1
    refine ⟨{ s with
      delivery := { s.delivery with accepting := false }.publishTerminal call.ending }, ?_, ?_⟩
    · simp [DeliverySite.setTerminal, DeliveryQueue.stopAccepting, hunset, DeliveryQueue.waited,
        hidle]
    · have hfinish : r.finish call = { r with
          ended := some call, frames := if call.empties then [] else r.frames } := by
        simp [DeliverySpec.finish, hended]
      have hempties : call.ending.discard = call.empties := by cases call <;> rfl
      rw [hfinish]
      refine ⟨?_, h.current, h.made⟩
      rw [DeliveryQueue.ledger_publishTerminal, hempties]
      refine ⟨?_, ?_, hstands.room, hstands.policy, rfl, by simp, rfl, hstands.retired,
        hstands.current, hstands.idle⟩
      · cases call.empties with
        | true => rfl
        | false => exact hstands.frames
      · cases call.empties with
        | true | false => exact hstands.capacity

lemma lockstep : (callMachine φ).Lockstep (specMachine φ) DeliverySite.Refines := by
  intro s r call h
  change Agree (s.step call) (r.step call)
  cases call with
  | push frame => exact h.pushFrom frame rfl
  | ingressPush n frame =>
    simp only [step, DeliverySpec.step, h.made]
    split_ifs with hmade
    · refine h.pushFrom frame ?_
      have hretired : s.delivery.retired n = _ := h.stands.retired n
      simp [DeliveryQueue.current, hretired, hmade]
    · exact .none
  | tryReadResult => exact h.reads s.delivery.tryReadResult_reads
  | readResult polls => exact h.reads (s.delivery.readResult_reads polls)
  | tryTake => exact h.takes s.delivery.tryTake_takes
  | take polls => exact h.takes (s.delivery.take_takes polls)
  | discard =>
    have hframes : s.delivery.queue.items = r.frames := h.stands.frames
    refine .some ⟨⟨?_, h.current, h.made⟩, by rw [hframes]⟩
    change DeliveryQueue.Ledger.Stands s.delivery.discard.ledger _
    rw [DeliveryQueue.ledger_discard]
    exact h.stands.reframe (Fifo.empty_items s.delivery.queue.capacity) rfl
  | makeIngress =>
    obtain ⟨s', hretire, hrefines⟩ := h.retireIngress
    simp only [step, DeliverySpec.step, hretire, Option.map_some, h.made]
    have hstands := hrefines.stands
    refine .some ⟨⟨⟨hstands.frames, hstands.capacity, hstands.room, hstands.policy,
      hstands.terminal, hstands.error, hstands.accepting, fun n => ?_, by simp, hstands.idle⟩,
      rfl, rfl⟩, rfl⟩
    rw [hstands.retired n]
    -- the ingress just made is the only one that is not retired
    simp only [decide_eq_decide, ne_eq, Option.some.injEq, reduceCtorEq, not_false_eq_true, and_true]
    omega
  | retireIngress =>
    obtain ⟨s', hretire, hrefines⟩ := h.retireIngress
    simp only [step, DeliverySpec.step, hretire, Option.map_some]
    exact .some ⟨hrefines, rfl⟩
  | terminal call =>
    obtain ⟨s', hends, hrefines⟩ := h.setTerminal call
    simp only [step, DeliverySpec.step, hends, Option.map_some]
    exact .some ⟨hrefines, rfl⟩

end DeliverySite

/-- Every sequence of calls is answered as the bounded list with its first terminal answers it. -/
theorem delivery_refines {φ : Type} {capacity : ℕ} (hcap : 2 ≤ capacity) (policy : DropPolicy)
    (hasFd : Bool) (calls : List (DeliveryCall φ)) :
    ((callMachine φ).run anyStep (.create capacity policy hasFd) calls).map Prod.snd =
      ((specMachine φ).run anyStep { capacity := roundUpPow2 capacity, policy } calls).map
        Prod.snd := by
  refine DeliverySite.lockstep.run calls ⟨?_, rfl, rfl⟩
  have hroom : 0 < roundUpPow2 capacity := by
    have hle := le_roundUpPow2 capacity
    omega
  exact ⟨rfl, rfl, hroom, rfl, rfl, by simp, rfl, fun n => by simp [DeliveryQueue.ledger,
    DeliverySite.create, DeliveryQueue.create], by simp, rfl, fun n => rfl⟩

theorem delivery_refines_sample :
    ((callMachine ℕ).run anyStep (.create 2 .dropOldest true)
      [.makeIngress, .push 1, .ingressPush 0 2, .push 3, .makeIngress, .ingressPush 0 4,
        .tryReadResult, .terminal (.fail noError), .terminal .close, .ingressPush 1 5,
        .readResult [], .tryReadResult]).map Prod.snd =
      some [.ingress 0, .pushed true, .pushed true, .pushed true, .ingress 1, .pushed false,
        .read { kind := .frame, frame := some 2 }, .done, .done, .pushed false,
        .read { kind := .frame, frame := some 3 }, .read { kind := .sessionFailed }] := by
  rw [delivery_refines (by omega)]
  decide +kernel

end TangoBulk
