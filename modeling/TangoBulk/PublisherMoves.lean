import TangoBulk.PublisherRecord

/-! What one access of the coordination plane or of the engine can do: to the session table, to the
Opens, to the publisher and to the Close under way. It is a move of the table as long as no Open
claims a seat that is taken. -/
namespace TangoBulk

open ByteString Transition Function

/-! ### Accesses are moves -/

/-- The call of `begin_expiry` the engine is in. -/
def EngineTask.ending : EngineTask → Option (ℕ × EndStage)
  | .failing _ k _ stage | .visiting k (.ending stage) _ => some (k, stage)
  | _ => none

def EngineTask.use : EngineTask → SeatUse
  | .sending _ k _ => .sending k
  | .visiting k .tearing _ => .tearing k
  | _ => .none

/-- The two that may be ending a session. -/
def enders (closing ending : Option (ℕ × EndStage)) : Ender → Option (ℕ × EndStage)
  | .control => closing
  | .engine => ending

lemma update_enders_control (closing ending x : Option (ℕ × EndStage)) :
    update (enders closing ending) .control x = enders x ending := by
  funext e
  cases e <;> simp [enders]

lemma update_enders_engine (closing ending x : Option (ℕ × EndStage)) :
    update (enders closing ending) .engine x = enders closing x := by
  funext e
  cases e <;> simp [enders]

/-- The seat an Open has selected and not claimed. -/
def OpenCall.target : OpenCall → Option ℕ
  | .selected k _ _ => some k
  | _ => none

lemma OpenCall.outstanding_of_target {x : OpenCall} {k : ℕ} (h : x.target = some k) :
    x.outstanding = true := by
  cases x <;> first | rfl | cases h

/-- The Open whose claim an input is, whether it goes through or throws. -/
def CoordInput.claims : CoordInput → Option ℕ
  | .openClaim a _ | .openClaimThrows a _ _ => some a
  | _ => none

/-- Neither a claim nor a step of a Close. -/
def CoordInput.passes : CoordInput → Bool
  | .openClaim .. | .openClaimThrows .. | .close _ | .closeStep => false
  | _ => true

namespace Publisher

variable {p p' : Publisher} {k : ℕ}

lemma selectFrom_free (p : Publisher) (ks : List ℕ) (best : Option ℕ)
    (hbest : ∀ b ∈ best, b ∈ p.seats ∧ (p.sessions b).state.free = true)
    (hks : ∀ j ∈ ks, j ∈ p.seats) (h : p.selectFrom ks best = some k) :
    k ∈ p.seats ∧ (p.sessions k).state.free = true := by
  induction ks generalizing best with
  | nil => exact hbest k h
  | cons j rest ih =>
    have hrest : ∀ i ∈ rest, i ∈ p.seats := fun i hi => hks i (List.mem_cons_of_mem j hi)
    have hj : j ∈ p.seats := hks j List.mem_cons_self
    unfold selectFrom at h
    dsimp only at h
    split_ifs at h with hunknown hskip
    · cases h
      exact ⟨hj, by simp [SessionState.free, hunknown]⟩
    · exact ih best hbest hrest h
    · have hfree : (p.sessions j).state.free = true := by
        have hclosed := not_not.mp (not_or.mp hskip).1
        simp [SessionState.free, hclosed]
      cases best with
      | none => exact ih (some j) (by simpa using ⟨hj, hfree⟩) hrest h
      | some b =>
        dsimp only at h
        split_ifs at h
        · exact ih (some j) (by simpa using ⟨hj, hfree⟩) hrest h
        · exact ih (some b) hbest hrest h

lemma selectSeat_free (h : p.selectSeat = some k) :
    k ∈ p.seats ∧ (p.sessions k).state.free = true :=
  p.selectFrom_free p.seats none (by simp) (fun _ hj => hj) h

end Publisher

namespace CoordState

variable {s s' : CoordState} {i : CoordInput} {es : List CoordEvent} {k : ℕ}

/-- The session table of a state. -/
def table (s : CoordState) : SeatTable where
  roster := s.publisher.roster
  tenancy := s.tenancy
  enders := enders s.closing s.engine.ending
  use := s.engine.use
  arming := s.arming

/-- An Open claims a seat of the table that is free. -/
def claimsFree (s : CoordState) (i : CoordInput) : Prop :=
  ∀ call ∈ i.claims, ∀ k ∈ (s.opens call).target,
    k ∈ s.publisher.seats ∧ (s.publisher.sessions k).state.free = true

/-- What a step does to the calls of `handle_open`. -/
inductive OpenMove (s : CoordState) (i : CoordInput) (s' : CoordState) : Prop
  | idle (opens : s'.opens = s.opens) (calls : s'.calls = s.calls) (clock : s'.clock = s.clock)
      (tenancy : s'.tenancy = s.tenancy)
  | refused (result : Except BulkError Publisher.CoordinationReply)
      (opens : s'.opens = Function.update s.opens s.calls (.failed result))
      (calls : s'.calls = s.calls + 1) (clock : s'.clock = s.clock + 1)
      (tenancy : s'.tenancy = s.tenancy)
  | selected (k : ℕ) (request : OpenRequest) (input : i = .openSelect request)
      (first : s.publisher.selectSeat = some k) (publisher : s'.publisher = s.publisher)
      (opens : s'.opens = Function.update s.opens s.calls (.selected k request s.clock))
      (calls : s'.calls = s.calls + 1) (clock : s'.clock = s.clock + 1)
      (tenancy : s'.tenancy = s.tenancy)
  | failed (call k : ℕ) (request : OpenRequest) (began : ℕ)
      (result : Except BulkError Publisher.CoordinationReply)
      (was : s.opens call = .selected k request began)
      (opens : s'.opens = Function.update s.opens call (.failed result))
      (calls : s'.calls = s.calls) (clock : s'.clock = s.clock + 1)
      (tenancy : s'.tenancy = s.tenancy)
  | claimed (call k : ℕ) (request : OpenRequest) (began : ℕ) (fresh : Publisher.Fresh)
      (input : i = .openClaim call fresh)
      (was : s.opens call = .selected k request began)
      (publisher : s'.publisher = s.publisher.claimSeat k request fresh)
      (opens : s'.opens =
        Function.update s.opens call (.claimed k (s.tenancy k + 1) request began))
      (calls : s'.calls = s.calls) (clock : s'.clock = s.clock)
      (tenancy : s'.tenancy = Function.update s.tenancy k (s.tenancy k + 1))
  | granted (call k n : ℕ) (request : OpenRequest) (began : ℕ) (input : i = .openReply call)
      (was : s.opens call = .claimed k n request began)
      (opens : s'.opens = Function.update s.opens call
        (.granted k n (s.publisher.openReplyFor k request) began s.clock))
      (calls : s'.calls = s.calls) (clock : s'.clock = s.clock + 1)
      (tenancy : s'.tenancy = s.tenancy)

/-- What a step does to the publisher, as one of the pieces of the source. -/
inductive Touch (s : CoordState) (i : CoordInput) : Publisher → Prop
  | none : Touch s i s.publisher
  | counts (c : PublisherCounter) : Touch s i (s.publisher.bump c 1)
  | calls {input : PublisherInput} {p' : Publisher} {out : List PublisherEvent}
      (may : s.mayCall input = true) (taken : publisherStep s.publisher input = some (p', out)) :
      Touch s i p'
  | claims (call k : ℕ) (request : OpenRequest) (fresh : Publisher.Fresh)
      (input : i = .openClaim call fresh) (target : (s.opens call).target = some k) :
      Touch s i (s.publisher.claimSeat k request fresh)
  | abandons (call k : ℕ) (failure : Publisher.DrawFailure) (what : String)
      (input : i = .openClaimThrows call failure what)
      (target : (s.opens call).target = some k) : Touch s i (s.publisher.abandonClaim k failure)
  | ends (k : ℕ) (reason : EndReason) (stage : EndStage)
      (closes : reason = .close → i = .closeStep) :
      Touch s i (s.publisher.endStep k reason stage).1
  | pops (queue : Fifo PublishItem) (item : PublishItem) :
      Touch s i ({ s.publisher with publishQueue := queue }.startFanOut item)
  | visits (item : PublishItem) (k : ℕ) : Touch s i (s.publisher.visitSeat item k).2
  | sends (k : ℕ) (item : PublishItem) (answer : SendAnswer) :
      Touch s i (s.publisher.trySend k item answer).2
  | drops (slot : ℕ) : Touch s i (s.publisher.unref slot)
  | finishes (item : PublishItem) : Touch s i (s.publisher.finishFanOut item)
  | arms (k : ℕ) : Touch s i (s.publisher.arm k)
  | tearsDown {k : ℕ} {loop : SeatLoop} (task : s.engine = .visiting k .tearing loop) :
      Touch s i (s.publisher.teardown k)

/-- A step as the Close under way sees it. -/
inductive CloseMove (s : CoordState) (i : CoordInput) (s' : CoordState) : Prop
  | claims (call k : ℕ) (fresh : Publisher.Fresh) (input : i = .openClaim call fresh)
      (target : (s.opens call).target = some k)
      (unlocked : s.closing = none) (closing : s'.closing = none)
      (table : s'.table = { s.table with
        roster := s.table.roster.claim k fresh
        tenancy := Function.update s.tenancy k (s.tenancy k + 1) })
  | abandons (call k : ℕ) (failure : Publisher.DrawFailure) (what : String)
      (input : i = .openClaimThrows call failure what)
      (target : (s.opens call).target = some k)
      (unlocked : s.closing = none) (closing : s'.closing = none)
      (table : s'.table = { s.table with roster := s.table.roster.abandon k failure })
  | locks (request : CloseRequest) (input : i = .close request) (unlocked : s.closing = none)
      (after : s' = { s with closing :=
        (s.publisher.sessionForId request.sessionId).map fun k => (k, .begun) })
  | ends (k : ℕ) (stage : EndStage) (input : i = .closeStep) (held : s.closing = some (k, stage))
      (closing : s'.closing =
        (s.table.roster.endStep k .close stage).2.map fun next => (k, next))
      (roster : s'.table.roster = (s.table.roster.endStep k .close stage).1)
  | passes (passes : i.passes = true) (closing : s'.closing = s.closing)

/-- All that a step can do. -/
structure Moves (s : CoordState) (i : CoordInput) (es : List CoordEvent) (s' : CoordState) :
    Prop where
  table : s.claimsFree i → s.table.Move es s'.table
  opens : s.OpenMove i s'
  touch : s.Touch i s'.publisher
  closing : s.CloseMove i s'

lemma records_call {input : PublisherInput} {p' : Publisher} {out : List PublisherEvent}
    (hmay : s.mayCall input = true) (hs : publisherStep s.publisher input = some (p', out)) :
    p'.records = s.publisher.records := by
  cases input with
  | acquire =>
    cases hs
    exact Publisher.records_tryAcquire _
  | reset i =>
    obtain ⟨-, rfl, -⟩ := of_guard hs
    exact Publisher.records_resetHandle _ i
  | publish lease metadata realtimeNs contended =>
    obtain ⟨-, rfl, -⟩ := of_guard hs
    exact Publisher.records_publish _ lease metadata realtimeNs contended
  | complete send success =>
    obtain ⟨-, rfl, -⟩ := of_guard hs
    exact Publisher.records_onSendComplete _ send success
  | credit header =>
    cases hs
    exact Publisher.records_handleCredit _ header
  | probe k accepted =>
    obtain ⟨-, rfl, -⟩ := of_guard hs
    exact Publisher.records_sendProbe _ k accepted
  | renew request now =>
    cases hs
    exact Publisher.records_handleRenew _ request now
  | shutdown =>
    cases hs
    rfl
  | submit | probeAck | expire | teardown | «open» | openThrows | close =>
    simp [mayCall] at hmay

lemma moves_stay (pass : i.passes = true) (hr : s'.publisher.roster = s.publisher.roster)
    (hn : s'.tenancy = s.tenancy) (hc : s'.closing = s.closing) (hg : s'.engine = s.engine)
    (ha : s'.arming = s.arming) (hopens : s.OpenMove i s') (htouch : s.Touch i s'.publisher) :
    s.Moves i [] s' := by
  refine ⟨fun _ => ?_, hopens, htouch, .passes pass hc⟩
  have htable : s'.table = s.table := by
    unfold table
    rw [hr, hn, hc, hg, ha]
  rw [htable]
  exact .stay

lemma moves_turn (pass : i.passes = true) {p' : Publisher} {task : EngineTask} (exited : Bool)
    (hr : p'.roster = s.publisher.roster) (fresh : SeatTable.Fresh task.ending)
    (seen : s.table.Seen task.use) (htouch : s.Touch i p') :
    s.Moves i [] { s with publisher := p', engine := task, exited := exited } := by
  refine ⟨fun _ => ?_, .idle rfl rfl rfl rfl, htouch, .passes pass rfl⟩
  have htable : ({ s with publisher := p', engine := task, exited := exited } : CoordState).table =
      { s.table with
        enders := update s.table.enders .engine task.ending
        use := task.use } := by
    unfold table
    rw [hr, update_enders_engine]
  rw [htable]
  exact .turn fresh seen

lemma moves_openSelect {request : OpenRequest} (hs : s.openSelect request = some s') :
    s.Moves (.openSelect request) [] s' := by
  unfold openSelect at hs
  split at hs
  · cases hs
    exact moves_stay rfl rfl rfl rfl rfl rfl (.refused _ rfl rfl rfl rfl) .none
  · cases hs
    exact moves_stay rfl rfl rfl rfl rfl rfl (.refused _ rfl rfl rfl rfl) .none
  · split_ifs at hs
    split at hs
    · cases hs
      exact moves_stay rfl rfl rfl rfl rfl rfl (.refused _ rfl rfl rfl rfl) (.counts .sessionsRejected)
    · rename_i k hselect
      cases hs
      exact moves_stay rfl rfl rfl rfl rfl rfl
        (.selected k request rfl hselect rfl rfl rfl rfl rfl) .none

lemma moves_openClaim {call : ℕ} {fresh : Publisher.Fresh}
    (hs : s.openClaim call fresh = some (s', es)) : s.Moves (.openClaim call fresh) es s' := by
  unfold openClaim at hs
  split at hs
  case h_2 => cases hs
  case h_1 k request began hcall =>
    split_ifs at hs with hlocked
    cases hs
    have hnone : s.closing = none := Option.not_isSome_iff_eq_none.mp hlocked
    have htarget : (s.opens call).target = some k := by rw [hcall]; rfl
    have hroster := s.publisher.roster_claimSeat k request fresh
    refine ⟨fun hfree => ?_, .claimed call k request began fresh rfl hcall rfl rfl rfl rfl rfl,
      .claims call k request fresh rfl htarget, .claims call k fresh rfl htarget hnone hnone ?_⟩
    · obtain ⟨hseat, hstate⟩ := hfree call rfl k htarget
      have hmove : s.table.Move _ _ :=
        @SeatTable.Move.claim s.table k fresh (List.mem_range.mp hseat) hstate
      unfold table at hmove ⊢
      rw [hroster]
      exact hmove
    · unfold table
      rw [hroster]

lemma moves_openClaimThrows {call : ℕ} {failure : Publisher.DrawFailure} {what : String}
    (hs : s.openClaimThrows call failure what = some s') :
    s.Moves (.openClaimThrows call failure what) [] s' := by
  unfold openClaimThrows at hs
  split at hs
  case h_2 => cases hs
  case h_1 k request began hcall =>
    split_ifs at hs with hlocked
    cases hs
    have hnone : s.closing = none := Option.not_isSome_iff_eq_none.mp hlocked
    have htarget : (s.opens call).target = some k := by rw [hcall]; rfl
    have hroster := s.publisher.roster_abandonClaim k failure
    refine ⟨fun hfree => ?_, .failed call k request began _ hcall rfl rfl rfl rfl,
      .abandons call k failure what rfl htarget,
      .abandons call k failure what rfl htarget hnone hnone ?_⟩
    · have hmove : s.table.Move _ _ :=
        @SeatTable.Move.abandon s.table k failure (hfree call rfl k htarget).2 hnone
      unfold table answerOpen at *
      rw [hroster]
      exact hmove
    · unfold table answerOpen
      rw [hroster]

lemma table_endStep {e : Ender} {reason : EndReason} {stage : EndStage}
    (reasoned : reason ≠ .none) (held : s.table.enders e = some (k, stage))
    (closing : Option (ℕ × EndStage)) (task : EngineTask) (huse : task.use = s.engine.use)
    (henders : enders closing task.ending = update s.table.enders e
      ((s.endStep k reason stage).2.1.map fun next => (k, next))) :
    s.table.Move (s.endStep k reason stage).2.2
      { (s.endStep k reason stage).1 with closing := closing, engine := task }.table := by
  obtain ⟨hroster, hnext⟩ := s.publisher.roster_endStep k reason stage
  have hmove : s.table.Move _ _ := .ends reasoned held
  have htable : ({ (s.endStep k reason stage).1 with closing := closing, engine := task } :
      CoordState).table =
      { s.table with
        roster := (s.table.roster.endStep k reason stage).1
        enders := update s.table.enders e
          ((s.table.roster.endStep k reason stage).2.map fun next => (k, next)) } := by
    have hmap : (s.endStep k reason stage).2.1 = (s.table.roster.endStep k reason stage).2 := hnext
    rw [hmap] at henders
    rw [← henders]
    unfold table endStep
    rw [hroster, huse]
  rw [htable]
  have hevents : (s.endStep k reason stage).2.2 =
      if (s.table.roster.endStep k reason stage).2 = some .claimed then
        [.ended k (s.table.tenancy k) reason] else [] := by
    unfold endStep
    dsimp only
    rw [hnext]
    rfl
  rw [hevents]
  exact hmove

lemma moves_engineEnd (pass : i.passes = true) {reason : EndReason} {stage : EndStage}
    (reasoned : reason ≠ .none ∧ reason ≠ .close)
    (held : s.engine.ending = some (k, stage)) (unused : s.engine.use = .none) {task : EngineTask}
    (hending : task.ending = (s.endStep k reason stage).2.1.map fun next => (k, next))
    (huse : task.use = .none) :
    s.Moves i (s.endStep k reason stage).2.2
      { (s.endStep k reason stage).1 with engine := task } := by
  refine ⟨fun _ => table_endStep (e := .engine) reasoned.1 held s.closing task ?_ ?_,
    .idle rfl rfl rfl rfl, .ends k reason stage fun h => absurd h reasoned.2, .passes pass rfl⟩
  · rw [huse, unused]
  · rw [hending]
    exact (update_enders_engine ..).symm

lemma moves_close {request : CloseRequest} (hs : s.close request = some s') :
    s.Moves (.close request) [] s' := by
  unfold close at hs
  split_ifs at hs with hlocked
  cases hs
  have fresh : SeatTable.Fresh
      ((s.publisher.sessionForId request.sessionId).map fun k => (k, EndStage.begun)) := by
    intro k stage heq
    obtain ⟨j, -, hj⟩ := Option.map_eq_some_iff.mp heq
    exact (Prod.mk.inj hj).2.symm
  refine ⟨fun _ => ?_, .idle rfl rfl rfl rfl, .none,
    .locks request rfl (Option.not_isSome_iff_eq_none.mp hlocked) rfl⟩
  have hmove : s.table.Move _ _ := .lock fresh
  unfold table at hmove ⊢
  rw [update_enders_control] at hmove
  exact hmove

lemma moves_closeStep (hs : s.closeStep = some (s', es)) : s.Moves .closeStep es s' := by
  unfold closeStep at hs
  split at hs
  case h_1 => cases hs
  case h_2 k stage hclosing =>
    cases hs
    have held : s.table.enders .control = some (k, stage) := hclosing
    obtain ⟨hroster, hnext⟩ := s.publisher.roster_endStep k .close stage
    have hmap := congrArg (Option.map fun next => (k, next)) hnext
    exact ⟨fun _ => table_endStep (by decide) held _ s.engine rfl (update_enders_control ..).symm,
      .idle rfl rfl rfl rfl, .ends k .close stage fun _ => rfl,
      .ends k stage rfl hclosing hmap hroster⟩

lemma moves_submitReady (hs : s.submitReady = some s') : s.Moves .submitReady [] s' := by
  unfold submitReady at hs
  split at hs
  · split_ifs at hs
    obtain ⟨popped, -, rfl⟩ := Option.map_eq_some_iff.mp hs
    exact moves_turn rfl s.exited rfl (by simp [SeatTable.Fresh, EngineTask.ending]) trivial
      (.pops popped.2 popped.1)
  · cases hs

lemma moves_startSweep {now : ℕ} (hs : s.startSweep now = some s') :
    s.Moves (.startSweep now) [] s' := by
  unfold startSweep at hs
  split at hs
  · split_ifs at hs
    cases hs
    exact moves_turn rfl s.exited rfl (by simp [SeatTable.Fresh, EngineTask.ending]) trivial .none
  · cases hs

lemma moves_startStop (hs : s.startStop = some s') : s.Moves .startStop [] s' := by
  unfold startStop at hs
  split at hs
  · split_ifs at hs
    cases hs
    exact moves_turn rfl true rfl (by simp [SeatTable.Fresh, EngineTask.ending]) trivial .none
  · cases hs

lemma sessionForStream_live {p : Publisher} {streamId : UInt64}
    (h : p.sessionForStream streamId = some k) :
    (p.sessions k).state.live = true ∧ (p.sessions k).streamId = streamId := by
  unfold Publisher.sessionForStream at h
  split_ifs at h
  simpa using List.find?_some h

lemma moves_probeAck {header : Bytes} (hs : s.probeAck header = some s') :
    s.Moves (.probeAck header) [] s' := by
  unfold probeAck at hs
  split_ifs at hs
  split at hs
  · cases hs
    exact moves_stay rfl rfl rfl rfl rfl rfl (.idle rfl rfl rfl rfl) (.counts .malformedMessages)
  · split at hs
    · cases hs
      exact moves_stay rfl rfl rfl rfl rfl rfl (.idle rfl rfl rfl rfl) (.counts .malformedMessages)
    · rename_i ack _ _ k hfound
      split_ifs at hs with htoken
      · cases hs
        exact moves_stay rfl rfl rfl rfl rfl rfl (.idle rfl rfl rfl rfl) (.counts .malformedMessages)
      · cases hs
        obtain ⟨hlive, hstream⟩ := sessionForStream_live hfound
        have hmove : s.table.Move _ _ := .found (k := k) hlive
        have hids : ((s.table.roster.seats k).streamId, (s.table.roster.seats k).probeToken) =
            (ack.streamId, ack.value) := Prod.ext hstream (not_not.mp htoken).symm
        rw [hids] at hmove
        exact ⟨fun _ => hmove, .idle rfl rfl rfl rfl, .none, .passes rfl rfl⟩

lemma moves_armStep (hs : s.armStep = some (s', es)) : s.Moves .armStep es s' := by
  unfold armStep at hs
  split at hs
  case h_1 => cases hs
  case h_2 k streamId token harming =>
    cases hs
    refine ⟨fun _ => ?_, .idle rfl rfl rfl rfl, .arms k, .passes rfl rfl⟩
    have hmove : s.table.Move _ _ := .arm (k := k) harming
    have hroster := s.publisher.roster_arm k
    unfold table at hmove ⊢
    rw [hroster]
    exact hmove

lemma next_fresh (p : Publisher) (loop : SeatLoop) :
    SeatTable.Fresh (SeatLoop.next p loop).ending ∧ (SeatLoop.next p loop).use = .none := by
  unfold SeatLoop.next
  split
  · exact ⟨by simp [SeatTable.Fresh, EngineTask.ending], rfl⟩
  · exact ⟨by simp [SeatTable.Fresh, EngineTask.ending], rfl⟩
  · split_ifs
    all_goals exact ⟨by simp [SeatTable.Fresh, EngineTask.ending], rfl⟩
  · exact ⟨by simp [SeatTable.Fresh, EngineTask.ending], rfl⟩

lemma moves_engineStep {answer : SendAnswer} (still : s.arming = none)
    (hs : s.engineStep answer = some (s', es)) : s.Moves (.engineStep answer) es s' := by
  have hidle : ∀ {item rest}, SeatTable.Fresh (EngineTask.fanning item rest).ending := by
    simp [SeatTable.Fresh, EngineTask.ending]
  unfold engineStep at hs
  split at hs
  case h_1 => cases hs
  case h_2 item htask =>
    cases hs
    exact moves_turn rfl s.exited (congrArg Prod.fst (Publisher.records_finishFanOut _ item))
      (by simp [SeatTable.Fresh, EngineTask.ending]) trivial (.finishes item)
  case h_3 item k rest htask =>
    cases hs
    have hroster := congrArg Prod.fst (s.publisher.records_visitSeat item k)
    by_cases hvisit : (s.publisher.visitSeat item k).1 = true
    · have helig : (s.table.state k).eligible = true := by
        by_contra hskip
        have hnot : (s.publisher.sessions k).state.eligible = false :=
          Bool.eq_false_of_not_eq_true hskip
        simp [Publisher.visitSeat, hnot] at hvisit
      rw [if_pos hvisit]
      exact moves_turn rfl s.exited hroster (by simp [SeatTable.Fresh, EngineTask.ending]) helig
        (.visits item k)
    · rw [if_neg hvisit]
      exact moves_turn rfl s.exited hroster hidle trivial (.visits item k)
  case h_4 item k rest htask =>
    have hroster := s.publisher.roster_trySend k item answer
    dsimp only at hs
    split_ifs at hs with hsent
    · cases hs
      rw [if_pos hsent] at hroster
      have held : s.table.use = .sending k := by
        simp [table, htask, EngineTask.use]
      refine ⟨fun _ => ?_, .idle rfl rfl rfl rfl, .sends k item answer, .passes rfl rfl⟩
      have hmove : s.table.Move _ _ := .sent held
      unfold table at hmove ⊢
      rw [htask] at hmove ⊢
      rw [hroster]
      exact hmove
    · cases hs
      rw [if_neg hsent] at hroster
      exact moves_turn rfl s.exited hroster (by simp [SeatTable.Fresh, EngineTask.ending]) trivial
        (.sends k item answer)
  case h_5 item k rest stage htask =>
    cases hs
    have hreason : EndReason.transport ≠ .none ∧ EndReason.transport ≠ .close := by decide
    refine moves_engineEnd rfl hreason (by rw [htask]; rfl) (by rw [htask]; rfl) ?_ ?_
    all_goals cases (s.endStep k _ stage).2.1 <;> rfl
  case h_6 item rest htask =>
    cases hs
    exact moves_turn rfl s.exited rfl hidle trivial (.drops item.slotIndex)
  case h_7 loop htask =>
    cases hs
    obtain ⟨fresh, huse⟩ := next_fresh s.publisher loop
    refine moves_turn rfl s.exited rfl fresh ?_ .none
    rw [huse]
    trivial
  case h_8 k stage loop htask =>
    cases hs
    have hreason : EndReason.expire ≠ .none ∧ EndReason.expire ≠ .close := by decide
    refine moves_engineEnd rfl hreason (by rw [htask]; rfl) (by rw [htask]; rfl) ?_ ?_
    all_goals cases (s.endStep k _ stage).2.1 <;> rfl
  case h_9 k loop htask =>
    cases hs
    by_cases hexpiring : (s.publisher.sessions k).state = .expiring
    · rw [if_pos hexpiring]
      exact moves_turn rfl s.exited rfl (by simp [SeatTable.Fresh, EngineTask.ending]) hexpiring
        .none
    · rw [if_neg hexpiring]
      exact moves_turn rfl s.exited rfl (by simp [SeatTable.Fresh, EngineTask.ending]) trivial .none
  case h_10 k loop htask =>
    cases hs
    have held : s.table.use = .tearing k := by
      simp [table, htask, EngineTask.use]
    have hended : s.table.enders .engine = none := by
      simp [table, htask, enders, EngineTask.ending]
    refine ⟨fun _ => ?_, .idle rfl rfl rfl rfl, .tearsDown htask, .passes rfl rfl⟩
    have hmove : s.table.Move _ _ := .retire held still hended
    have hroster := s.publisher.roster_teardown k
    unfold table at hmove ⊢
    rw [htask] at hmove ⊢
    rw [hroster]
    exact hmove

/-- Every access does one of these things. -/
lemma step_moves (hs : s.step i = some (s', es)) : s.Moves i es s' := by
  cases i with
  | call =>
    obtain ⟨hmay, hs⟩ := Option.ite_none_right_eq_some.mp hs
    obtain ⟨⟨p', out⟩, hstep, rfl, rfl⟩ := of_mapped hs
    exact moves_stay rfl (congrArg Prod.fst (records_call hmay hstep)) rfl rfl rfl rfl
      (.idle rfl rfl rfl rfl) (.calls hmay hstep)
  | openSelect =>
    obtain ⟨hnext, rfl⟩ := of_map_eq hs
    exact moves_openSelect hnext
  | openConnectFailed call =>
    obtain ⟨hnext, rfl⟩ := of_map_eq hs
    unfold openConnectFailed at hnext
    split at hnext
    case h_1 k request began hcall =>
      cases hnext
      exact moves_stay rfl rfl rfl rfl rfl rfl
        (.failed call k request began _ hcall rfl rfl rfl rfl) .none
    case h_2 => cases hnext
  | openClaim => exact moves_openClaim hs
  | openClaimThrows =>
    obtain ⟨hnext, rfl⟩ := of_map_eq hs
    exact moves_openClaimThrows hnext
  | openReply call =>
    obtain ⟨hnext, rfl⟩ := of_map_eq hs
    unfold openReply at hnext
    split at hnext
    case h_1 k n request began hcall =>
      cases hnext
      exact moves_stay rfl rfl rfl rfl rfl rfl
        (.granted call k n request began rfl hcall rfl rfl rfl rfl) .none
    case h_2 => cases hnext
  | close =>
    obtain ⟨hnext, rfl⟩ := of_map_eq hs
    exact moves_close hnext
  | closeStep => exact moves_closeStep hs
  | submitReady =>
    obtain ⟨hnext, rfl⟩ := of_map_eq hs
    exact moves_submitReady hnext
  | startSweep =>
    obtain ⟨hnext, rfl⟩ := of_map_eq hs
    exact moves_startSweep hnext
  | startStop =>
    obtain ⟨hnext, rfl⟩ := of_map_eq hs
    exact moves_startStop hnext
  | probeAck =>
    obtain ⟨hnext, rfl⟩ := of_map_eq hs
    exact moves_probeAck hnext
  | armStep => exact moves_armStep hs
  | engineStep =>
    simp only [step, Option.ite_none_right_eq_some] at hs
    exact moves_engineStep (Option.isNone_iff_eq_none.mp hs.1) hs.2

end CoordState

/-! ### What only a claim does to a seat -/

/-- The session has ended, whether it is torn down or not. -/
def SessionState.gone (s : SessionState) : Bool := s = .expiring ∨ s = .closed

@[grind =] lemma SessionState.gone_iff {s : SessionState} :
    s.gone = true ↔ s = .expiring ∨ s = .closed := by
  simp [gone]

/-- A seat before and after an access that is no claim of it: its end is written once, and not taken
back. -/
structure Seat.Stays (i : CoordInput) (x x' : Seat) : Prop where
  id : x'.id = x.id
  reason : x'.endReason = x.endReason ∨
    (x.endReason = .none ∧ (x'.endReason = .close → i = .closeStep))
  gone : x.state.gone = true → x'.state.gone = true

namespace Seat

variable {i : CoordInput} {x x' : Seat}

lemma Stays.refl (x : Seat) : Stays i x x := ⟨rfl, .inl rfl, fun h => h⟩

lemma Stays.reason_eq (h : Stays i x x') (hended : x.endReason ≠ .none) :
    x'.endReason = x.endReason :=
  h.reason.resolve_right fun hnone => hended hnone.1

lemma stays_update {seats : ℕ → Seat} {k : ℕ} (h : Stays i (seats k) x) (j : ℕ) :
    Stays i (seats j) (update seats k x j) := by
  by_cases hj : j = k
  · subst hj
    rw [update_self]
    exact h
  · rw [update_of_ne hj]
    exact .refl _

lemma stays_endStep {r : Roster} {k : ℕ} {reason : EndReason} (stage : EndStage)
    (closes : reason = .close → i = .closeStep) (j : ℕ) :
    Stays i (r.seats j) ((r.endStep k reason stage).1.seats j) := by
  cases stage with
  | begun => exact .refl _
  | loaded =>
    unfold Roster.endStep
    dsimp only
    split_ifs with hnone
    · apply stays_update
      exact ⟨rfl, .inr ⟨hnone, closes⟩, fun h => h⟩
    · exact .refl _
  | claimed =>
    apply stays_update
    exact ⟨rfl, .inl rfl, fun _ => rfl⟩

/-- A session that goes on from a state in which it is not over. -/
lemma stays_promote {r : Roster} {k : ℕ} {s s' : SessionState} (hs : s.gone = false) (j : ℕ) :
    Stays i (r.seats j) ((if (r.seats k).state = s then
      r.setSeat k { r.seats k with state := s' } else r).seats j) := by
  split_ifs with hstate
  · apply stays_update
    refine ⟨rfl, .inl rfl, fun hgone => ?_⟩
    rw [hstate, hs] at hgone
    cases hgone
  · exact .refl _

end Seat

namespace CoordState

variable {s s' : CoordState} {i : CoordInput} {es : List CoordEvent} {k : ℕ}

lemma Touch.stays {p' : Publisher} (h : s.Touch i p')
    (hk : ∀ call ∈ i.claims, (s.opens call).target ≠ some k) :
    Seat.Stays i (s.publisher.roster.seats k) (p'.roster.seats k) := by
  have hsame : p'.records = s.publisher.records →
      Seat.Stays i (s.publisher.roster.seats k) (p'.roster.seats k) := by
    intro hrecords
    rw [(Prod.mk.inj hrecords).1]
    exact .refl _
  cases h with
  | none | counts | pops | drops => exact .refl _
  | calls may taken => exact hsame (records_call may taken)
  | claims call j request fresh input target =>
    subst input
    rw [Publisher.roster_claimSeat]
    have hne : k ≠ j := fun heq => hk call rfl (heq ▸ target)
    rw [show (s.publisher.roster.claim j fresh).seats k = s.publisher.roster.seats k from
      update_of_ne hne _ _]
    exact .refl _
  | abandons call j failure what input target =>
    subst input
    rw [Publisher.roster_abandonClaim]
    have hne : k ≠ j := fun heq => hk call rfl (heq ▸ target)
    rw [show (s.publisher.roster.abandon j failure).seats k = s.publisher.roster.seats k from
      update_of_ne hne _ _]
    exact .refl _
  | ends j reason stage closes =>
    rw [(s.publisher.roster_endStep j reason stage).1]
    exact Seat.stays_endStep stage closes k
  | visits item j => exact hsame (s.publisher.records_visitSeat item j)
  | sends =>
    rw [Publisher.roster_trySend]
    split_ifs
    · exact Seat.stays_promote rfl k
    · exact .refl _
  | finishes item => exact hsame (s.publisher.records_finishFanOut item)
  | arms =>
    rw [Publisher.roster_arm]
    exact Seat.stays_promote rfl k
  | @tearsDown j loop task =>
    rw [Publisher.roster_teardown, Roster.seats_retire]
    apply Seat.stays_update
    exact ⟨rfl, .inl rfl, fun _ => rfl⟩

lemma step_stays (hs : s.step i = some (s', es))
    (hk : ∀ call ∈ i.claims, (s.opens call).target ≠ some k) :
    Seat.Stays i (s.table.roster.seats k) (s'.table.roster.seats k) :=
  (step_moves hs).touch.stays hk

lemma claims_of_passes (h : i.passes = true) : i.claims = none := by
  cases i <;> first | rfl | cases h

lemma claimsFree_of_none (h : i.claims = none) : s.claimsFree i := by
  simp [claimsFree, h]

end CoordState

end TangoBulk
