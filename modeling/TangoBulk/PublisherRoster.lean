import TangoBulk.PublisherEffects

/-! What the coordination plane and the engine share about the session table: who sits where, how
far each session has come, and the three counters of the sessions' ends. -/
namespace TangoBulk

open ByteString Transition

/-- The part of a session that says whose it is and where it is in its life. -/
structure Seat where
  state : SessionState
  endReason : EndReason
  id : SessionId
  streamId : UInt64
  probeToken : UInt64
  deriving DecidableEq

def Session.seat (s : Session) : Seat where
  state := s.state
  endReason := s.endReason
  id := s.id
  streamId := s.streamId
  probeToken := s.probeToken

/-- Where a caller of `begin_expiry` is: before the load of the state, before the CAS of
`end_reason`, or before the store of `Expiring`. -/
inductive EndStage
  | begun | loaded | claimed
  deriving DecidableEq

/-- The session table and the sessions opened, closed and expired so far. -/
structure Roster where
  size : ℕ
  seats : ℕ → Seat
  opened : ℕ
  closed : ℕ
  expired : ℕ

namespace Roster

def setSeat (r : Roster) (k : ℕ) (x : Seat) : Roster :=
  { r with seats := Function.update r.seats k x }

/-- The claim of `handle_open`. -/
def claim (r : Roster) (k : ℕ) (fresh : Publisher.Fresh) : Roster :=
  { r.setSeat k ⟨.open, .none, fresh.id, fresh.streamId, fresh.probeToken⟩ with
    opened := r.opened + 1 }

/-- A claim of `handle_open` that throws. -/
def abandon (r : Roster) (k : ℕ) (failure : Publisher.DrawFailure) : Roster :=
  r.setSeat k { r.seats k with
    endReason := .none
    id := failure.id.getD (r.seats k).id
    streamId := failure.stream.getD (r.seats k).streamId }

/-- The CAS from `Open` to `Armed`. -/
def arm (r : Roster) (k : ℕ) : Roster :=
  if (r.seats k).state = .open then r.setSeat k { r.seats k with state := .armed } else r

/-- The CAS from `Armed` to `Active`. -/
def activate (r : Roster) (k : ℕ) : Roster :=
  if (r.seats k).state = .armed then r.setSeat k { r.seats k with state := .active } else r

/-- The end of `teardown`. -/
def retire (r : Roster) (k : ℕ) : Roster :=
  let left := r.setSeat k { r.seats k with state := .closed }
  if (r.seats k).endReason = .close then { left with closed := r.closed + 1 }
  else { left with expired := r.expired + 1 }

/-- The next step of `begin_expiry` and where it leads; `none` is its return. -/
def endStep (r : Roster) (k : ℕ) (reason : EndReason) : EndStage → Roster × Option EndStage
  | .begun => (r, if (r.seats k).state.live then some .loaded else none)
  | .loaded =>
    if (r.seats k).endReason = .none then
      (r.setSeat k { r.seats k with endReason := reason }, some .claimed)
    else (r, none)
  | .claimed => (r.setSeat k { r.seats k with state := .expiring }, none)

lemma seats_retire (r : Roster) (k : ℕ) :
    (r.retire k).seats = Function.update r.seats k { r.seats k with state := .closed } := by
  unfold retire
  split_ifs <;> rfl

lemma setSeat_self (r : Roster) (k : ℕ) : r.setSeat k (r.seats k) = r := by
  simp [setSeat]

end Roster

/-- When each seat was last retired, and which ones are not to be used again. -/
structure Shelf where
  counter : ℕ
  retiredSeq : ℕ → ℕ
  poisoned : ℕ → Bool

namespace Publisher

def roster (p : Publisher) : Roster where
  size := p.config.maxSessions.toNat
  seats := fun k => (p.sessions k).seat
  opened := p.counters .sessionsOpened
  closed := p.counters .sessionsClosed
  expired := p.counters .sessionsExpired

def shelf (p : Publisher) : Shelf where
  counter := p.retireCounter
  retiredSeq := fun k => (p.sessions k).retiredSeq
  poisoned := fun k => (p.sessions k).poisoned

/-- All that is remembered of who sits where. -/
def records (p : Publisher) : Roster × Shelf := (p.roster, p.shelf)

/-! ### The steps of `begin_expiry` -/

/-- The CAS of `begin_expiry`. -/
def swapEnd (p : Publisher) (k : ℕ) (reason : EndReason) : Bool × Publisher :=
  if (p.sessions k).endReason = .none then
    (true, p.setSession k { p.sessions k with endReason := reason })
  else (false, p)

/-- The next step of `begin_expiry`, as for a roster. -/
def endStep (p : Publisher) (k : ℕ) (reason : EndReason) :
    EndStage → Publisher × Option EndStage
  | .begun => (p, if (p.sessions k).state.live then some .loaded else none)
  | .loaded =>
    let swapped := p.swapEnd k reason
    (swapped.2, if swapped.1 then some .claimed else none)
  | .claimed => (p.storeExpiring k, none)

lemma beginExpiry_eq_endSteps (p : Publisher) (k : ℕ) (reason : EndReason) :
    (p.beginExpiry k reason).2 =
      match (p.endStep k reason .begun).2 with
      | none => p
      | some _ =>
        match (p.endStep k reason .loaded).2 with
        | none => p
        | some _ => ((p.endStep k reason .loaded).1.endStep k reason .claimed).1 := by
  by_cases hlive : (p.sessions k).state.live = true
  · by_cases hnone : (p.sessions k).endReason = .none
    all_goals simp [beginExpiry, claimEnd, endStep, swapEnd, hlive, hnone]
  · simp [beginExpiry, claimEnd, endStep, hlive]

/-! ### What each call does to the roster -/

section Roster

variable {p p' : Publisher} {k : ℕ}

lemma roster_of_rest (h : p'.rest = p.rest) : p'.roster = p.roster := by
  have hs : p'.sessions = p.sessions := congrArg Rest.sessions h
  have hc : p'.config = p.config := congrArg Rest.config h
  have ht : p'.tally = p.tally := congrArg Rest.tally h
  obtain ⟨ho, hcl, he⟩ : p'.counters .sessionsOpened = p.counters .sessionsOpened ∧
      p'.counters .sessionsClosed = p.counters .sessionsClosed ∧
      p'.counters .sessionsExpired = p.counters .sessionsExpired := by
    simpa [tally] using ht
  simp [roster, hs, hc, ho, hcl, he]

lemma roster_setSession (p : Publisher) (k : ℕ) (s : Session) :
    (p.setSession k s).roster = p.roster.setSeat k s.seat := by
  have hseats : (fun j => ((p.setSession k s).sessions j).seat) =
      Function.update (fun j => (p.sessions j).seat) k s.seat := by
    funext j
    by_cases hj : j = k
    · subst hj
      simp
    · simp [p.setSession_of_ne s hj, hj]
  unfold roster Roster.setSeat
  rw [hseats]
  rfl

lemma shelf_setSession {s : Session} (hr : s.retiredSeq = (p.sessions k).retiredSeq)
    (hp : s.poisoned = (p.sessions k).poisoned) : (p.setSession k s).shelf = p.shelf := by
  have hseat : ∀ {α : Type} (f : Session → α), f s = f (p.sessions k) →
      (fun j => f ((p.setSession k s).sessions j)) = fun j => f (p.sessions j) := by
    intro α f hf
    funext j
    by_cases hj : j = k
    · rw [hj, setSession_self, hf]
    · rw [p.setSession_of_ne s hj]
  unfold shelf
  rw [hseat Session.retiredSeq hr, hseat Session.poisoned hp]
  rfl

lemma records_of_rest (h : p'.rest = p.rest) : p'.records = p.records := by
  have hc : p'.retireCounter = p.retireCounter := congrArg Rest.retireCounter h
  have hs : p'.sessions = p.sessions := congrArg Rest.sessions h
  refine Prod.ext (roster_of_rest h) ?_
  simp only [records, shelf, hc, hs]

lemma records_setSession {s : Session} (h : s.seat = (p.sessions k).seat)
    (hr : s.retiredSeq = (p.sessions k).retiredSeq) (hp : s.poisoned = (p.sessions k).poisoned) :
    (p.setSession k s).records = p.records := by
  refine Prod.ext ?_ (shelf_setSession hr hp)
  rw [records, roster_setSession, h]
  exact p.roster.setSeat_self k

lemma records_releaseSlotRef (p : Publisher) (i : ℕ) : (p.releaseSlotRef i).records = p.records :=
  records_of_rest (rest_releaseSlotRef p i)

lemma records_tryAcquire (p : Publisher) : p.tryAcquire.2.records = p.records := by
  unfold tryAcquire
  split <;> rfl

lemma records_resetHandle (p : Publisher) (i : ℕ) : (p.resetHandle i).records = p.records :=
  records_of_rest (p := { p with handles := p.handles.erase i }) (rest_releaseSlot _ i)

lemma records_refusePublish (p : Publisher) (i : ℕ) (result : PublishResult) :
    (p.refusePublish i result).records = p.records := by
  cases result with
  | accepted | wouldBlock | queueFull => rfl
  | shutdown | badMetadata | noSession | creditStalled => exact records_resetHandle _ i

lemma records_publish (p : Publisher) (lease : Option ℕ) (metadata : FrameMetadata)
    (realtimeNs : UInt64) (contended : Bool) :
    (p.publish lease metadata realtimeNs contended).2.records = p.records := by
  unfold publish
  split
  · rfl
  · unfold publishLease
    split
    · exact records_refusePublish p _ _
    · split_ifs
      · rfl
      · split
        · exact records_refusePublish p _ _
        · split <;> rfl

lemma records_finishFanOut (p : Publisher) (item : PublishItem) :
    (p.finishFanOut item).records = p.records := by
  unfold finishFanOut
  split_ifs
  · exact records_releaseSlotRef { p.bump .droppedNoSession 1 with
      droppedBeforeAll := p.droppedBeforeAll + 1 } item.slotIndex
  · exact records_releaseSlotRef p item.slotIndex

lemma records_visitSeat (p : Publisher) (item : PublishItem) (k : ℕ) :
    (p.visitSeat item k).2.records = p.records := by
  unfold visitSeat
  dsimp only
  split_ifs
  · rfl
  all_goals exact records_setSession (p := p) (k := k) rfl rfl rfl

lemma records_recordInFlight (p : Publisher) (k : ℕ) (item : PublishItem) :
    (p.recordInFlight k item).records = p.records :=
  records_setSession (p := p) (k := k) rfl rfl rfl

lemma roster_noteSent (p : Publisher) (k : ℕ) (item : PublishItem) (pending : Bool) :
    (p.noteSent k item pending).roster = p.roster.activate k := by
  have hset : (p.setSession k (noteSentSession (p.sessions k) pending)).roster =
      p.roster.activate k := by
    rw [roster_setSession]
    unfold Roster.activate
    split_ifs with harmed
    · have hs : (p.sessions k).state = .armed := harmed
      simp [noteSentSession, Session.seat, hs, roster]
    · have hs : (p.sessions k).state ≠ .armed := harmed
      have hseat : (noteSentSession (p.sessions k) pending).seat = p.roster.seats k := by
        simp [noteSentSession, Session.seat, hs, roster]
      rw [hseat]
      exact p.roster.setSeat_self k
  unfold noteSent
  cases pending with
  | false | true => exact hset

lemma roster_trySend (p : Publisher) (k : ℕ) (item : PublishItem) (answer : SendAnswer) :
    (p.trySend k item answer).2.roster =
      if (p.trySend k item answer).1 then p.roster.activate k else p.roster := by
  have hrecorded := congrArg Prod.fst (p.records_recordInFlight k item)
  have hsent : ∀ pending, ((p.recordInFlight k item).noteSent k item pending).roster =
      p.roster.activate k := fun pending =>
    (roster_noteSent _ k item pending).trans (congrArg (Roster.activate · k) hrecorded)
  cases answer with
  | refused => exact hrecorded
  | completed => exact hsent false
  | pending => exact hsent true

lemma records_onSendComplete (p : Publisher) (send : Send) (success : Bool) :
    (p.onSendComplete send success).records = p.records := by
  obtain ⟨counters, hcounters, heq⟩ := p.onSendComplete_eq send success
  have hset : (p.setSession send.seat (completedSession (p.sessions send.seat))).records =
      p.records := records_setSession rfl rfl rfl
  have hopened := hcounters .sessionsOpened (by decide) (by decide)
  have hclosed := hcounters .sessionsClosed (by decide) (by decide)
  have hexpired := hcounters .sessionsExpired (by decide) (by decide)
  rw [heq]
  simp only [records, roster, hopened, hclosed, hexpired]
  exact hset

lemma records_applyCredit (p : Publisher) (k ack : ℕ) :
    (p.applyCredit k ack).records = p.records := by
  have hmoved : (p.moveWindow k ack).records = p.records := records_setSession rfl rfl rfl
  have hreleased := (records_of_rest
    (rest_creditSequences k (p.releasedSequences k ack) (p.moveWindow k ack))).trans hmoved
  unfold applyCredit
  dsimp only
  split_ifs
  · rfl
  all_goals exact hreleased

lemma records_handleCredit (p : Publisher) (header : Bytes) :
    (p.handleCredit header).records = p.records := by
  unfold handleCredit
  split
  · rfl
  · split
    · rfl
    · exact records_applyCredit p _ _

lemma records_sendProbe (p : Publisher) (k : ℕ) (accepted : Bool) :
    (p.sendProbe k accepted).records = p.records := by
  unfold sendProbe
  dsimp only
  split_ifs
  · exact records_setSession rfl rfl rfl
  · exact records_setSession (p := p) (k := k) rfl rfl rfl
  · rfl

lemma records_renewLease (p : Publisher) (k now : ℕ) :
    (p.renewLease k now).2.records = p.records := by
  unfold renewLease
  dsimp only
  split_ifs
  all_goals exact records_setSession (p := p) (k := k) rfl rfl rfl

lemma records_handleRenew (p : Publisher) (request : RenewRequest) (now : ℕ) :
    (p.handleRenew request now).2.records = p.records := by
  unfold handleRenew
  dsimp only
  split
  · rfl
  · split_ifs
    · rfl
    · rfl
    · exact records_renewLease p _ now

lemma roster_arm (p : Publisher) (k : ℕ) : (p.arm k).roster = p.roster.arm k := by
  unfold arm Roster.arm
  by_cases hopen : (p.sessions k).state = .open
  · rw [if_pos hopen, if_pos (show (p.roster.seats k).state = .open from hopen)]
    exact roster_setSession p k _
  · rw [if_neg hopen, if_neg (show ¬ (p.roster.seats k).state = .open from hopen)]

lemma roster_endStep (p : Publisher) (k : ℕ) (reason : EndReason) (stage : EndStage) :
    (p.endStep k reason stage).1.roster = (p.roster.endStep k reason stage).1 ∧
      (p.endStep k reason stage).2 = (p.roster.endStep k reason stage).2 := by
  cases stage with
  | begun => exact ⟨rfl, rfl⟩
  | loaded =>
    unfold endStep Roster.endStep swapEnd
    by_cases hnone : (p.sessions k).endReason = .none
    · rw [if_pos hnone, if_pos (show (p.roster.seats k).endReason = .none from hnone)]
      exact ⟨roster_setSession p k _, rfl⟩
    · rw [if_neg hnone, if_neg (show ¬ (p.roster.seats k).endReason = .none from hnone)]
      exact ⟨rfl, rfl⟩
  | claimed => exact ⟨roster_setSession p k _, rfl⟩

lemma roster_claimSeat (p : Publisher) (k : ℕ) (request : OpenRequest) (fresh : Fresh) :
    (p.claimSeat k request fresh).roster = p.roster.claim k fresh := by
  have hset := roster_setSession p k (p.claimedSession (p.sessions k) request fresh)
  exact congrArg (fun r : Roster => { r with opened := r.opened + 1 }) hset

lemma roster_abandonClaim (p : Publisher) (k : ℕ) (failure : DrawFailure) :
    (p.abandonClaim k failure).roster = p.roster.abandon k failure :=
  roster_setSession p k _

lemma roster_teardown (p : Publisher) (k : ℕ) : (p.teardown k).roster = p.roster.retire k := by
  have hreleased := roster_of_rest (rest_releaseSequences k (List.range'
    (p.sessions k).window.creditedEnd (p.sessions k).window.outstanding) p)
  have hset := roster_setSession ((List.range' (p.sessions k).window.creditedEnd
    (p.sessions k).window.outstanding).foldl (releaseSequence k) p) k
    (p.retiredSession (p.sessions k))
  rw [hreleased] at hset
  unfold teardown Roster.retire
  dsimp only
  by_cases hclose : (p.sessions k).endReason = .close
  · rw [if_pos hclose, if_pos (show (p.roster.seats k).endReason = .close from hclose)]
    have hcount := congrArg (fun r : Roster => { r with closed := r.closed + 1 }) hset
    exact hcount
  · rw [if_neg hclose, if_neg (show ¬ (p.roster.seats k).endReason = .close from hclose)]
    have hcount := congrArg (fun r : Roster => { r with expired := r.expired + 1 }) hset
    exact hcount

end Roster

end Publisher

end TangoBulk
