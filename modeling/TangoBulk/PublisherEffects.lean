import TangoBulk.PublisherClaims
import TangoBulk.PublisherMachine

/-! What each call of the publisher does to one session. Fan-out visits the seats one after
another; seen from one seat it is a single change of its session. -/
namespace TangoBulk

open ByteString Transition Function

namespace Publisher

/-- `begin_expiry` on the session itself. -/
def endedSession (s : Session) (reason : EndReason) : Session :=
  if s.state.live ∧ s.endReason = .none then { s with endReason := reason, state := .expiring }
  else s

/-- What `fan_out` of an item does to the session of a visited seat. -/
def fanSession (p : Publisher) (item : PublishItem) (answer : SendAnswer) (s : Session) :
    Session :=
  let seen := { s with processedOrdinal := item.ordinal + 1 }
  if !s.state.eligible then s
  else if !s.window.canSubmit then { seen with droppedForSession := s.droppedForSession + 1 }
  else
    match answer with
    | .refused => endedSession (p.recordedSession seen item) .transport
    | .completed => noteSentSession (p.recordedSession seen item) false
    | .pending => noteSentSession (p.recordedSession seen item) true

variable {p p' : Publisher} {k : ℕ} {item : PublishItem}

lemma sessions_beginExpiry (p : Publisher) (k : ℕ) (reason : EndReason) :
    (p.beginExpiry k reason).2.sessions =
      update p.sessions k (endedSession (p.sessions k) reason) := by
  by_cases h : (p.sessions k).state.live = true ∧ (p.sessions k).endReason = .none
  · simp [beginExpiry, claimEnd, endedSession, h, storeExpiring, setSession]
  · simp [beginExpiry, claimEnd, endedSession, h]

/-- The parts of a publisher that are the same at every seat of a fan-out. -/
structure FanSettings where
  config : PublisherConfig
  droppedBeforeAll : ℕ
  admitted : ℕ
  limit : ℕ
  generation : UInt32
  publishQueue : Fifo PublishItem

def fanSettings (p : Publisher) : FanSettings where
  config := p.config
  droppedBeforeAll := p.droppedBeforeAll
  admitted := p.admitted
  limit := p.allActiveAdmissionLimit
  generation := p.generation
  publishQueue := p.publishQueue

lemma recordedSession_congr (h : p'.fanSettings = p.fanSettings) (item : PublishItem)
    (s : Session) : p'.recordedSession s item = p.recordedSession s item := by
  have hc : p'.config = p.config := congrArg FanSettings.config h
  have hd : p'.droppedBeforeAll = p.droppedBeforeAll := congrArg FanSettings.droppedBeforeAll h
  simp only [recordedSession, inFlightEntry, sessionHeader, depth, hc, hd]

lemma fanSettings_beginExpiry (p : Publisher) (k : ℕ) (reason : EndReason) :
    (p.beginExpiry k reason).2.fanSettings = p.fanSettings := by
  unfold beginExpiry claimEnd
  dsimp only
  split_ifs <;> rfl

lemma fanSettings_visitSeat (p : Publisher) (item : PublishItem) (k : ℕ) :
    (p.visitSeat item k).2.fanSettings = p.fanSettings := by
  unfold visitSeat
  dsimp only
  split_ifs <;> rfl

lemma fanSettings_recordInFlight (p : Publisher) (k : ℕ) (item : PublishItem) :
    (p.recordInFlight k item).fanSettings = p.fanSettings := rfl

lemma fanSettings_noteSent (p : Publisher) (k : ℕ) (item : PublishItem) (pending : Bool) :
    (p.noteSent k item pending).fanSettings = p.fanSettings := by
  unfold noteSent
  split_ifs <;> rfl

lemma fanSettings_submitTo (p : Publisher) (k : ℕ) (item : PublishItem) (answer : SendAnswer) :
    (p.submitTo k item answer).2.fanSettings = p.fanSettings := by
  cases answer with
  | refused => exact fanSettings_beginExpiry ((p.recordInFlight k item).bump .transportErrors 1) k _
  | completed => rw [submitTo_completed, fanSettings_noteSent, fanSettings_recordInFlight]
  | pending => rw [submitTo_pending, fanSettings_noteSent, fanSettings_recordInFlight]

lemma fanSettings_fanOutSeat (p : Publisher) (item : PublishItem) (answers : ℕ → SendAnswer)
    (k : ℕ) : (fanOutSeat item answers p k).fanSettings = p.fanSettings := by
  have hvisit := fanSettings_visitSeat p item k
  have hsub := (fanSettings_submitTo (p.visitSeat item k).2 k item (answers k)).trans hvisit
  unfold fanOutSeat
  dsimp only
  split_ifs
  · exact hsub
  · exact hsub
  · exact hvisit

lemma sessions_submitTo (p : Publisher) (k : ℕ) (item : PublishItem) (answer : SendAnswer) :
    (p.submitTo k item answer).2.sessions = update p.sessions k
      (match answer with
        | .refused => endedSession (p.recordedSession (p.sessions k) item) .transport
        | .completed => noteSentSession (p.recordedSession (p.sessions k) item) false
        | .pending => noteSentSession (p.recordedSession (p.sessions k) item) true) := by
  have hrec : (p.recordInFlight k item).sessions =
      update p.sessions k (p.recordedSession (p.sessions k) item) := rfl
  unfold submitTo
  cases answer with
  | refused =>
    have h := sessions_beginExpiry ((p.recordInFlight k item).bump .transportErrors 1) k .transport
    have hs : ((p.recordInFlight k item).bump .transportErrors 1).sessions =
      update p.sessions k (p.recordedSession (p.sessions k) item) := rfl
    rw [hs, update_self, update_idem] at h
    exact h
  | completed | pending =>
    change update (p.recordInFlight k item).sessions k _ = _
    rw [recordInFlight_session, hrec, update_idem]

lemma sessions_fanOutSeat (p : Publisher) (item : PublishItem) (answers : ℕ → SendAnswer)
    (k : ℕ) : (fanOutSeat item answers p k).sessions =
      update p.sessions k (p.fanSession item (answers k) (p.sessions k)) := by
  by_cases helig : (p.sessions k).state.eligible = true
  swap
  · simp [fanOutSeat, visitSeat, fanSession, helig]
  by_cases hroom : (p.sessions k).window.canSubmit = true
  swap
  · simp [fanOutSeat, visitSeat, fanSession, helig, hroom, setSession]
  let seen := { p.sessions k with processedOrdinal := item.ordinal + 1 }
  have hvisit : p.visitSeat item k = (true, { p.setSession k seen with
      slotRefs := update p.slotRefs item.slotIndex (p.slotRefs item.slotIndex + 1) }) := by
    simp [visitSeat, helig, hroom, seen]
  have hsub := sessions_submitTo (p.visitSeat item k).2 k item (answers k)
  have hrec := recordedSession_congr (fanSettings_visitSeat p item k) item seen
  have hself : (p.visitSeat item k).2.sessions k = seen := by
    rw [hvisit]
    exact p.setSession_self k seen
  have hother : (p.visitSeat item k).2.sessions = update p.sessions k seen := by
    rw [hvisit]
    rfl
  rw [hself, hrec, hother, update_idem] at hsub
  have hseat : (fanOutSeat item answers p k).sessions =
      ((p.visitSeat item k).2.submitTo k item (answers k)).2.sessions := by
    unfold fanOutSeat
    have htrue : (p.visitSeat item k).1 = true := by rw [hvisit]
    dsimp only
    rw [if_pos htrue]
    split_ifs <;> rfl
  rw [hseat, hsub]
  simp only [fanSession, helig, hroom, Bool.not_true, Bool.false_eq_true, if_false]
  rfl

lemma fanSession_congr (h : p'.fanSettings = p.fanSettings) (answer : SendAnswer) (s : Session) :
    p'.fanSession item answer s = p.fanSession item answer s := by
  simp only [fanSession, recordedSession_congr h]

lemma sessions_foldl_fanOutSeat (answers : ℕ → SendAnswer) (ks : List ℕ) (hks : ks.Nodup)
    (p : Publisher) (j : ℕ) : (ks.foldl (fanOutSeat item answers) p).sessions j =
      if j ∈ ks then p.fanSession item (answers j) (p.sessions j) else p.sessions j := by
  induction ks generalizing p with
  | nil => simp
  | cons k ks ih =>
    obtain ⟨hk, hks⟩ := List.nodup_cons.mp hks
    rw [List.foldl_cons, ih hks, sessions_fanOutSeat,
      fanSession_congr (fanSettings_fanOutSeat p item answers k)]
    by_cases hj : j = k
    · subst hj
      simp [hk]
    · simp [hj]

lemma fanSettings_foldl_fanOutSeat (answers : ℕ → SendAnswer) (ks : List ℕ) (p : Publisher) :
    (ks.foldl (fanOutSeat item answers) p).fanSettings = p.fanSettings := by
  induction ks generalizing p with
  | nil => rfl
  | cons k ks ih => exact (ih _).trans (fanSettings_fanOutSeat p item answers k)

lemma withheld_beginExpiry (p : Publisher) (k : ℕ) (reason : EndReason) :
    (p.beginExpiry k reason).2.monitor = p.monitor := by
  unfold beginExpiry claimEnd
  dsimp only
  split_ifs <;> rfl

lemma withheld_submitTo (p : Publisher) (k : ℕ) (item : PublishItem) (answer : SendAnswer) :
    (p.submitTo k item answer).2.monitor.withheld = p.monitor.withheld := by
  have hrec : (p.recordInFlight k item).monitor.withheld = p.monitor.withheld := rfl
  have hnote : ∀ pending, ((p.recordInFlight k item).noteSent k item pending).monitor.withheld =
      p.monitor.withheld := by
    intro pending
    unfold noteSent
    split_ifs <;> exact hrec
  cases answer with
  | refused =>
    rw [submitTo_refused, withheld_beginExpiry]
    exact hrec
  | completed =>
    rw [submitTo_completed]
    exact hnote false
  | pending =>
    rw [submitTo_pending]
    exact hnote true

lemma withheld_fanOutSeat (p : Publisher) (answers : ℕ → SendAnswer) (k : ℕ)
    (h : (p.sessions k).state.eligible = true → (p.sessions k).window.canSubmit = true) :
    (fanOutSeat item answers p k).monitor.withheld = p.monitor.withheld := by
  have hvisit : (p.visitSeat item k).2.monitor.withheld = p.monitor.withheld := by
    unfold visitSeat
    dsimp only
    split_ifs with h1 h2
    · rfl
    · simp only [Bool.not_eq_true', Bool.not_eq_false] at h1 h2
      exact absurd (h h1) (by simp [h2])
    · rfl
  have hsub := (withheld_submitTo (p.visitSeat item k).2 k item (answers k)).trans hvisit
  unfold fanOutSeat
  dsimp only
  split_ifs
  · exact hsub
  · exact hsub
  · exact hvisit

lemma withheld_foldl_fanOutSeat (answers : ℕ → SendAnswer) (ks : List ℕ) (hks : ks.Nodup)
    (p : Publisher) (h : ∀ k ∈ ks, (p.sessions k).state.eligible = true →
      (p.sessions k).window.canSubmit = true) :
    (ks.foldl (fanOutSeat item answers) p).monitor.withheld = p.monitor.withheld := by
  induction ks generalizing p with
  | nil => rfl
  | cons k ks ih =>
    obtain ⟨hk, hks⟩ := List.nodup_cons.mp hks
    have hrest : ∀ j ∈ ks, ((fanOutSeat item answers p k).sessions j).state.eligible = true →
        ((fanOutSeat item answers p k).sessions j).window.canSubmit = true := by
      intro j hj
      have hne : j ≠ k := fun he => hk (he ▸ hj)
      rw [sessions_fanOutSeat, update_of_ne hne]
      exact h j (List.mem_cons_of_mem k hj)
    rw [List.foldl_cons, ih hks _ hrest]
    exact withheld_fanOutSeat p answers k (h k List.mem_cons_self)

/-! ### Whole calls -/

/-- What admission and fan-out read besides the sessions. -/
structure Ledger where
  config : PublisherConfig
  generation : UInt32
  admitted : ℕ
  publishQueue : Fifo PublishItem
  withheld : List (ℕ × ℕ)

def ledger (p : Publisher) : Ledger where
  config := p.config
  generation := p.generation
  admitted := p.admitted
  publishQueue := p.publishQueue
  withheld := p.monitor.withheld

lemma ledger_of_rest (h : p'.rest = p.rest) : p'.ledger = p.ledger := by
  have hc : p'.config = p.config := congrArg Rest.config h
  have hg : p'.generation = p.generation := congrArg Rest.generation h
  have ha : p'.admitted = p.admitted := congrArg Rest.admitted h
  have hq : p'.publishQueue = p.publishQueue := congrArg Rest.publishQueue h
  have hw : p'.monitor.withheld = p.monitor.withheld := congrArg Rest.withheld h
  simp only [ledger, hc, hg, ha, hq, hw]

lemma ledger_refreshGauges (p : Publisher) : p.refreshGauges.ledger = p.ledger := rfl

lemma finishFanOut_frame (p : Publisher) (item : PublishItem) :
    (p.finishFanOut item).sessions = p.sessions ∧ (p.finishFanOut item).ledger = p.ledger := by
  unfold finishFanOut
  rw [ledger_refreshGauges]
  split_ifs
  · have hr := rest_releaseSlotRef { p.bump .droppedNoSession 1 with
      droppedBeforeAll := p.droppedBeforeAll + 1 } item.slotIndex
    exact ⟨congrArg Rest.sessions hr, ledger_of_rest hr⟩
  · have hr := rest_releaseSlotRef p item.slotIndex
    exact ⟨congrArg Rest.sessions hr, ledger_of_rest hr⟩

/-- A turn of `submit_ready_frames`: the oldest item leaves the queue and every seat of the
table changes once. -/
structure Fanned (p p' : Publisher) (item : PublishItem) (answers : ℕ → SendAnswer) : Prop where
  popped : p.publishQueue.items = item :: p'.publishQueue.items
  config : p'.config = p.config
  generation : p'.generation = p.generation
  admitted : p'.admitted = p.admitted
  sessions : ∀ j, p'.sessions j =
    if j ∈ p.seats then p.fanSession item (answers j) (p.sessions j) else p.sessions j
  withheld : (∀ k ∈ p.seats, (p.sessions k).state.eligible = true →
    (p.sessions k).window.canSubmit = true) → p'.monitor.withheld = p.monitor.withheld
  refreshed : ∃ q : Publisher, p' = q.refreshGauges

lemma submitReady_fanned {answers : ℕ → SendAnswer} (h : p.submitReady answers = some p') :
    ∃ item, Fanned p p' item answers := by
  obtain ⟨⟨item, queue⟩, hpop, rfl⟩ := Option.map_eq_some_iff.mp h
  let q := { p with publishQueue := queue }
  let fanned := q.seats.foldl (fanOutSeat item answers) (q.startFanOut item)
  have hnodup : p.seats.Nodup := List.nodup_range
  have hset : fanned.fanSettings = q.fanSettings :=
    fanSettings_foldl_fanOutSeat answers q.seats (q.startFanOut item)
  obtain ⟨hsessions, hledger⟩ := fanned.finishFanOut_frame item
  have hqueue : fanned.publishQueue = queue := congrArg FanSettings.publishQueue hset
  refine ⟨item, ?_, ?_, ?_, ?_, fun j => ?_, fun hroom => ?_, ⟨_, rfl⟩⟩
  · have hfinal : (fanned.finishFanOut item).publishQueue = fanned.publishQueue :=
      congrArg Ledger.publishQueue hledger
    change _ = item :: (fanned.finishFanOut item).publishQueue.items
    rw [hfinal, hqueue]
    exact (Fifo.pop_eq_some.mp hpop).1
  · exact (congrArg Ledger.config hledger).trans (congrArg FanSettings.config hset)
  · exact (congrArg Ledger.generation hledger).trans (congrArg FanSettings.generation hset)
  · exact (congrArg Ledger.admitted hledger).trans (congrArg FanSettings.admitted hset)
  · exact (congrFun hsessions j).trans
      (sessions_foldl_fanOutSeat answers q.seats hnodup (q.startFanOut item) j)
  · exact (congrArg Ledger.withheld hledger).trans
      (withheld_foldl_fanOutSeat answers q.seats hnodup (q.startFanOut item) hroom)

lemma eligible_live {st : SessionState} (h : st.eligible = true) : st.live = true := by
  cases st <;> simp_all [SessionState.eligible, SessionState.live]

/-- A call that leaves a session's window alone; it may end the session. -/
structure Undisturbed (s s' : Session) : Prop where
  window : s'.window = s.window
  inflight : s'.inflight = s.inflight
  processed : s'.processedOrdinal = s.processedOrdinal
  geometry : s'.geometry = s.geometry
  state : s'.state = s.state ∨ s.state.live = true ∧ s'.state = .expiring

lemma Undisturbed.refl (s : Session) : Undisturbed s s := ⟨rfl, rfl, rfl, rfl, .inl rfl⟩

/-- What a call other than a fan-out or a probe's answer does to one session. -/
inductive Move (p : Publisher) (s : Session) : Session → Prop
  | undisturbed {s' : Session} (h : Undisturbed s s') : Move p s s'
  | credited (ack : ℕ) : Move p s { s with window := (s.window.applyCredit ack).2 }
  | retired (h : s.state = .expiring) : Move p s (p.retiredSession s)
  | claimed (request : OpenRequest) (fresh : Fresh)
      (h : p.screenOpen request = .granted (p.clampGeometry request)) :
      Move p s (p.claimedSession s request fresh)

/-- What a call other than a fan-out, a probe's answer or an Open does to one session. -/
inductive Drift (p : Publisher) (s : Session) : Session → Prop
  | undisturbed {s' : Session} (h : Undisturbed s s') : Drift p s s'
  | credited (ack : ℕ) : Drift p s { s with window := (s.window.applyCredit ack).2 }
  | retired (h : s.state = .expiring) : Drift p s (p.retiredSession s)

lemma Drift.refl (p : Publisher) (s : Session) : Drift p s s := .undisturbed (.refl s)

variable {s : Session} {α : Type*}

lemma Drift.move {s' : Session} (h : Drift p s s') : Move p s s' := by
  cases h with
  | undisturbed h => exact .undisturbed h
  | credited ack => exact .credited ack
  | retired h => exact .retired h

lemma Drift.live {s' : Session} (h : Drift p s s') (hlive : s'.state.live = true) :
    s.state.live = true ∧ s'.geometry = s.geometry := by
  cases h with
  | undisturbed h =>
    rcases h.state with hstate | ⟨-, hstate⟩
    · exact ⟨hstate ▸ hlive, h.geometry⟩
    · simp [hstate, SessionState.live] at hlive
  | credited => exact ⟨hlive, rfl⟩
  | retired => simp [retiredSession, SessionState.live] at hlive

lemma undisturbed_update {f : ℕ → Session} (h : Undisturbed (f k) s) (j : ℕ) :
    Undisturbed (f j) (update f k s j) := by
  by_cases hj : j = k
  · subst hj
    rw [update_self]
    exact h
  · rw [update_of_ne hj]
    exact .refl _

lemma drift_update {f : ℕ → Session} (h : Drift p (f k) s) (j : ℕ) :
    Drift p (f j) (update f k s j) := by
  by_cases hj : j = k
  · subst hj
    rw [update_self]
    exact h
  · rw [update_of_ne hj]
    exact .refl p _

lemma endedSession_undisturbed (s : Session) (reason : EndReason) :
    Undisturbed s (endedSession s reason) := by
  unfold endedSession
  split_ifs with h
  · exact ⟨rfl, rfl, rfl, rfl, .inr ⟨h.1, rfl⟩⟩
  · exact .refl s

lemma fanSession_live (p : Publisher) (item : PublishItem) (answer : SendAnswer) (s : Session)
    (h : (p.fanSession item answer s).state.live = true) :
    s.state.live = true ∧ (p.fanSession item answer s).geometry = s.geometry := by
  have hended : ∀ t : Session, (endedSession t .transport).state.live = true →
      t.state.live = true ∧ (endedSession t .transport).geometry = t.geometry := fun t ht =>
    (Drift.undisturbed (p := p) (endedSession_undisturbed t .transport)).live ht
  unfold fanSession at h ⊢
  split_ifs at h ⊢ with hin hroom
  · exact ⟨h, rfl⟩
  · exact ⟨h, rfl⟩
  · have helig : s.state.live = true := by
      simp only [Bool.not_eq_true', Bool.not_eq_false] at hin
      exact eligible_live hin
    cases answer with
    | refused => exact ⟨helig, (hended _ h).2⟩
    | completed | pending => exact ⟨helig, rfl⟩

/-- The admission limit leaves room in every armed session's window. -/
def LimitSound (p : Publisher) : Prop :=
  ∀ k ∈ p.seats, (p.sessions k).state.eligible = true →
    p.allActiveAdmissionLimit ≤
      p.retiredOrdinal (p.sessions k) + (p.sessions k).geometry.creditWindow.toNat

lemma foldl_min_le (f : α → ℕ) (xs : List α) (init : ℕ) :
    xs.foldl (fun m x => min m (f x)) init ≤ init ∧
      ∀ x ∈ xs, xs.foldl (fun m x => min m (f x)) init ≤ f x := by
  induction xs generalizing init with
  | nil => simp
  | cons y ys ih =>
    obtain ⟨hinit, hall⟩ := ih (min init (f y))
    simp only [List.foldl_cons, List.mem_cons, forall_eq_or_imp]
    exact ⟨hinit.trans (min_le_left _ _), hinit.trans (min_le_right _ _), hall⟩

lemma init_le_foldl_max (f : α → ℕ) (xs : List α) (init : ℕ) :
    init ≤ xs.foldl (fun m x => max m (f x)) init := by
  induction xs generalizing init with
  | nil => exact le_refl init
  | cons y ys ih => exact (le_max_left _ _).trans (ih _)

lemma le_foldl_max (f : α → ℕ) (xs : List α) (init : ℕ) :
    ∀ x ∈ xs, f x ≤ xs.foldl (fun m x => max m (f x)) init := by
  induction xs generalizing init with
  | nil => simp
  | cons y ys ih =>
    intro x hx
    rcases List.mem_cons.mp hx with rfl | hx
    · exact (le_max_right _ _).trans (init_le_foldl_max f ys _)
    · exact ih _ x hx

lemma foldl_max_le (f : α → ℕ) (xs : List α) {init bound : ℕ} (hinit : init ≤ bound)
    (h : ∀ x ∈ xs, f x ≤ bound) : xs.foldl (fun m x => max m (f x)) init ≤ bound := by
  induction xs generalizing init with
  | nil => exact hinit
  | cons y ys ih =>
    exact ih (max_le hinit (h y List.mem_cons_self)) fun x hx => h x (List.mem_cons_of_mem _ hx)

lemma lt_foldl_min (f : α → ℕ) (xs : List α) {init bound : ℕ} (hinit : bound < init)
    (h : ∀ x ∈ xs, bound < f x) : bound < xs.foldl (fun m x => min m (f x)) init := by
  induction xs generalizing init with
  | nil => exact hinit
  | cons y ys ih =>
    exact ih (lt_min hinit (h y List.mem_cons_self)) fun x hx => h x (List.mem_cons_of_mem _ hx)

lemma refreshGauges_limitSound (p : Publisher) : p.refreshGauges.LimitSound := by
  intro k hk helig
  have hmem : k ∈ p.armedSeats := List.mem_filter.mpr ⟨hk, helig⟩
  have hne : p.armedSeats ≠ [] := List.ne_nil_of_mem hmem
  have hlimit := (foldl_min_le (fun k => p.retiredOrdinal (p.sessions k) +
    (p.sessions k).geometry.creditWindow.toNat) p.armedSeats (2 ^ 64 - 1)).2 k hmem
  have heq : p.refreshGauges.allActiveAdmissionLimit = p.armedSeats.foldl
      (fun limit k => min limit
        (p.retiredOrdinal (p.sessions k) + (p.sessions k).geometry.creditWindow.toNat))
      (2 ^ 64 - 1) := by
    simp only [refreshGauges, if_neg hne]
  rw [heq]
  exact hlimit

/-- What a call other than a publish, a fan-out or a probe's answer does: it leaves the
ledger, moves each session on its own, and keeps or recomputes the admission limit. -/
structure Moves (p p' : Publisher) : Prop where
  ledger : p'.ledger = p.ledger
  sessions : ∀ j, Move p (p.sessions j) (p'.sessions j)
  limit : p'.allActiveAdmissionLimit = p.allActiveAdmissionLimit ∨ p'.LimitSound

/-- What admission compares the count of frames with. -/
def gauges (p : Publisher) : ℕ × ℕ := (p.credited, p.allActiveAdmissionLimit)

/-- The gauges are as they were, and so is what they were computed from, but for sessions that
ended. -/
structure Steady (p p' : Publisher) : Prop where
  gauges : p'.gauges = p.gauges
  sessions : ∀ j, Undisturbed (p.sessions j) (p'.sessions j)

/-- What a call that is no Open, publish, fan-out or probe's answer does. -/
structure Drifts (p p' : Publisher) : Prop where
  ledger : p'.ledger = p.ledger
  sessions : ∀ j, Drift p (p.sessions j) (p'.sessions j)
  gauges : Steady p p' ∨ ∃ q : Publisher, p' = q.refreshGauges

lemma Drifts.moves (h : Drifts p p') : Moves p p' := by
  refine ⟨h.ledger, fun j => (h.sessions j).move, ?_⟩
  rcases h.gauges with hsteady | ⟨q, rfl⟩
  · exact .inl (congrArg Prod.snd hsteady.gauges)
  · exact .inr (refreshGauges_limitSound q)

lemma Drifts.of_undisturbed (hl : p'.ledger = p.ledger) (hg : p'.gauges = p.gauges)
    (hs : ∀ j, Undisturbed (p.sessions j) (p'.sessions j)) : Drifts p p' :=
  ⟨hl, fun j => .undisturbed (hs j), .inl ⟨hg, hs⟩⟩

lemma Drifts.of_sessions_eq (hl : p'.ledger = p.ledger) (hs : p'.sessions = p.sessions)
    (hg : p'.gauges = p.gauges) : Drifts p p' :=
  .of_undisturbed hl hg fun _ => hs ▸ .refl _

lemma gauges_of_rest (h : p'.rest = p.rest) : p'.gauges = p.gauges := by
  have hc : p'.credited = p.credited := congrArg Rest.credited h
  have hlim : p'.allActiveAdmissionLimit = p.allActiveAdmissionLimit := congrArg Rest.limit h
  simp only [gauges, hc, hlim]

lemma Drifts.of_rest (h : p'.rest = p.rest) : Drifts p p' :=
  .of_sessions_eq (ledger_of_rest h) (congrArg Rest.sessions h) (gauges_of_rest h)

lemma drifts_tryAcquire (p : Publisher) : Drifts p p.tryAcquire.2 := by
  unfold tryAcquire
  split <;> exact .of_sessions_eq rfl rfl rfl

/-- What the slots, the queue and the gauges are made of. -/
structure Stock where
  config : PublisherConfig
  freeSlots : Fifo ℕ
  handles : List ℕ
  publishQueue : Fifo PublishItem
  slotRefs : ℕ → ℕ
  sends : List Send
  monitor : Monitor
  admitted : ℕ
  generation : UInt32
  gauges : ℕ × ℕ

def stock (p : Publisher) : Stock where
  config := p.config
  freeSlots := p.freeSlots
  handles := p.handles
  publishQueue := p.publishQueue
  slotRefs := p.slotRefs
  sends := p.sends
  monitor := p.monitor
  admitted := p.admitted
  generation := p.generation
  gauges := p.gauges

/-- A call that leaves the stock and every window alone. -/
structure Quiet (p p' : Publisher) : Prop where
  stock : p'.stock = p.stock
  sessions : ∀ j, Undisturbed (p.sessions j) (p'.sessions j)

lemma Quiet.unseen (hstock : p'.stock = p.stock) (hs : p'.sessions = p.sessions) : p.Quiet p' :=
  ⟨hstock, fun _ => hs ▸ .refl _⟩

lemma Quiet.seat (hstock : p'.stock = p.stock) (hs : p'.sessions = update p.sessions k s)
    (h : Undisturbed (p.sessions k) s) : p.Quiet p' :=
  ⟨hstock, fun j => by rw [hs]; exact undisturbed_update h j⟩

lemma Quiet.drifts (h : p.Quiet p') : p.Drifts p' := by
  have hc : p'.config = p.config := congrArg Stock.config h.stock
  have hg : p'.generation = p.generation := congrArg Stock.generation h.stock
  have ha : p'.admitted = p.admitted := congrArg Stock.admitted h.stock
  have hq : p'.publishQueue = p.publishQueue := congrArg Stock.publishQueue h.stock
  have hm : p'.monitor = p.monitor := congrArg Stock.monitor h.stock
  refine .of_undisturbed ?_ (congrArg Stock.gauges h.stock) h.sessions
  simp only [ledger, hc, hg, ha, hq, hm]

lemma quiet_sendProbe (p : Publisher) (k : ℕ) (accepted : Bool) :
    p.Quiet (p.sendProbe k accepted) := by
  unfold sendProbe
  dsimp only
  split_ifs
  · exact .seat rfl rfl ⟨rfl, rfl, rfl, rfl, .inl rfl⟩
  · exact .seat rfl rfl ⟨rfl, rfl, rfl, rfl, .inl rfl⟩
  · exact .unseen rfl rfl

lemma quiet_beginExpiry (p : Publisher) (k : ℕ) (reason : EndReason) :
    p.Quiet (p.beginExpiry k reason).2 := by
  refine .seat ?_ (sessions_beginExpiry p k reason) (endedSession_undisturbed _ reason)
  unfold beginExpiry claimEnd
  dsimp only
  split_ifs <;> rfl

lemma quiet_abandonClaim (p : Publisher) (k : ℕ) (failure : DrawFailure) :
    p.Quiet (p.abandonClaim k failure) :=
  .seat rfl rfl ⟨rfl, rfl, rfl, rfl, .inl rfl⟩

lemma quiet_handleRenew (p : Publisher) (request : RenewRequest) (now : ℕ) :
    p.Quiet (p.handleRenew request now).2 := by
  have hlease : ∀ k, p.Quiet (p.renewLease k now).2 := by
    intro k
    unfold renewLease
    dsimp only
    split_ifs
    all_goals exact .seat rfl rfl ⟨rfl, rfl, rfl, rfl, .inl rfl⟩
  unfold handleRenew
  dsimp only
  split
  · exact .unseen rfl rfl
  · split_ifs
    · exact .unseen rfl rfl
    · exact .unseen rfl rfl
    · exact hlease _

lemma quiet_handleClose (p : Publisher) (request : CloseRequest) :
    p.Quiet (p.handleClose request).2 := by
  unfold handleClose
  split
  · exact .unseen rfl rfl
  · split_ifs
    · exact quiet_beginExpiry p _ .close
    · exact .unseen rfl rfl

lemma drifts_resetHandle (p : Publisher) (i : ℕ) : Drifts p (p.resetHandle i) := by
  have hr := rest_releaseSlot { p with handles := p.handles.erase i } i
  exact .of_sessions_eq (ledger_of_rest hr :) (congrArg Rest.sessions hr :) (gauges_of_rest hr :)

lemma refusePublish_cases (p : Publisher) (i : ℕ) (result : PublishResult) :
    p.Quiet (p.refusePublish i result) ∨
      ∃ q, p.Quiet q ∧ p.refusePublish i result = q.resetHandle i := by
  cases result with
  | queueFull | wouldBlock | accepted => exact .inl (.unseen rfl rfl)
  | shutdown | badMetadata | noSession | creditStalled =>
    refine .inr ⟨_, ?_, rfl⟩
    exact .unseen rfl rfl

lemma drifts_refusePublish (p : Publisher) (i : ℕ) (result : PublishResult) :
    Drifts p (p.refusePublish i result) := by
  obtain hquiet | ⟨q, hquiet, heq⟩ := p.refusePublish_cases i result
  · exact hquiet.drifts
  · have hr := rest_releaseSlot { q with handles := q.handles.erase i } i
    have hsessions : (q.resetHandle i).sessions = q.sessions := congrArg Rest.sessions hr
    rw [heq]
    refine .of_undisturbed ((q.drifts_resetHandle i).ledger.trans hquiet.drifts.ledger)
      ((gauges_of_rest hr :).trans (congrArg Stock.gauges hquiet.stock)) fun j => ?_
    rw [hsessions]
    exact hquiet.sessions j

lemma screenPublish_error {p : Publisher} {metadata : FrameMetadata} {r : PublishResult}
    (h : p.screenPublish metadata = .error r) : r ≠ .accepted := by
  unfold screenPublish at h
  dsimp only at h
  split_ifs at h
  all_goals
    cases h
    simp

lemma admission_some {p : Publisher} {a c : ℕ} {r : PublishResult} (h : p.admission a c = some r) :
    r = .wouldBlock ∨ r = .creditStalled := by
  unfold admission at h
  split_ifs at h
  · exact .inl (Option.some.inj h).symm
  · exact .inr (Option.some.inj h).symm

lemma publishLease_cases (p : Publisher) (i : ℕ) (metadata : FrameMetadata)
    (realtimeNs : UInt64) (contended : Bool) :
    (∃ result, result ≠ .accepted ∧
      p.publishLease i metadata realtimeNs contended = (result, p.refusePublish i result)) ∨
    ∃ resolved queue, p.screenPublish metadata = .ok resolved ∧
      p.publishQueue.push (p.makeItem i resolved realtimeNs p.admitted) = some queue ∧
      p.publishLease i metadata realtimeNs contended =
        (.accepted, { p with publishQueue := queue }.acceptPublish i) := by
  unfold publishLease
  split
  case h_1 result hscreen => exact .inl ⟨result, screenPublish_error hscreen, rfl⟩
  case h_2 resolved hscreen =>
    split_ifs
    · exact .inl ⟨.queueFull, by simp, rfl⟩
    · split
      case h_1 result hadmit =>
        refine .inl ⟨result, ?_, rfl⟩
        rcases admission_some hadmit with rfl | rfl
        all_goals simp
      case h_2 =>
        split
        case h_1 => exact .inl ⟨.queueFull, by simp, rfl⟩
        case h_2 queue hpush => exact .inr ⟨resolved, queue, hscreen, hpush, rfl⟩

lemma publish_cases (p : Publisher) (lease : Option ℕ) (metadata : FrameMetadata)
    (realtimeNs : UInt64) (contended : Bool) :
    p.Drifts (p.publish lease metadata realtimeNs contended).2 ∨
      ∃ i resolved queue, p.screenPublish metadata = .ok resolved ∧
        p.publishQueue.push (p.makeItem i resolved realtimeNs p.admitted) = some queue ∧
        (p.publish lease metadata realtimeNs contended).2 =
          { p with publishQueue := queue }.acceptPublish i := by
  cases lease with
  | none => exact .inl (.of_rest rfl)
  | some i =>
    rw [publish]
    obtain ⟨result, -, heq⟩ | ⟨resolved, queue, hscreen, hpush, heq⟩ :=
      p.publishLease_cases i metadata realtimeNs contended
    · rw [heq]
      exact .inl (p.drifts_refusePublish i result)
    · exact .inr ⟨i, resolved, queue, hscreen, hpush, congrArg Prod.snd heq⟩

lemma drifts_onSendComplete (p : Publisher) (send : Send) (success : Bool) :
    Drifts p (p.onSendComplete send success) := by
  have hseat : ∀ j, Undisturbed (p.sessions j) (update p.sessions send.seat
      (completedSession (p.sessions send.seat)) j) :=
    undisturbed_update ⟨rfl, rfl, rfl, rfl, .inl rfl⟩
  obtain ⟨counters, -, heq⟩ := p.onSendComplete_eq send success
  rw [heq]
  exact .of_undisturbed rfl rfl hseat

lemma rest_creditSequences (k : ℕ) (qs : List ℕ) (p : Publisher) :
    (qs.foldl (creditSequence k) p).rest = p.rest := by
  induction qs generalizing p with
  | nil => rfl
  | cons a qs ih => exact (ih _).trans (rest_creditSequence p k a)

lemma applyCredit_unmoved {w : CreditWindow} {ack : ℕ} (h : (w.applyCredit ack).1.released = 0) :
    (w.applyCredit ack).2 = w := by
  obtain ⟨-, he⟩ | ⟨-, -, he⟩ | ⟨-, hlo, he⟩ := w.applyCredit_cases ack
  · rw [he]
  · rw [he]
  · rw [he] at h
    dsimp only at h
    omega

lemma drifts_applyCredit (p : Publisher) (k ack : ℕ) : Drifts p (p.applyCredit k ack) := by
  have hr := rest_creditSequences k (p.releasedSequences k ack) (p.moveWindow k ack)
  have hsessions : ((p.releasedSequences k ack).foldl (creditSequence k)
      (p.moveWindow k ack)).sessions = (p.moveWindow k ack).sessions := congrArg Rest.sessions hr
  have hledger : ((p.releasedSequences k ack).foldl (creditSequence k)
      (p.moveWindow k ack)).ledger = (p.moveWindow k ack).ledger := ledger_of_rest hr
  unfold applyCredit
  dsimp only
  split_ifs with hbad hmoved
  · exact .of_sessions_eq rfl rfl rfl
  · refine ⟨hledger, fun j => ?_, .inr ⟨_, rfl⟩⟩
    change Drift p _ (((p.releasedSequences k ack).foldl (creditSequence k)
      (p.moveWindow k ack)).sessions j)
    rw [hsessions]
    exact drift_update (.credited ack) j
  · have hsame := applyCredit_unmoved (not_not.mp hmoved)
    have hgauges : ((p.releasedSequences k ack).foldl (creditSequence k)
        (p.moveWindow k ack)).gauges = (p.moveWindow k ack).gauges := gauges_of_rest hr
    refine .of_undisturbed hledger hgauges fun j => ?_
    rw [hsessions]
    have hseat : Undisturbed (p.sessions k)
        { p.sessions k with window := ((p.sessions k).window.applyCredit ack).2 } :=
      ⟨hsame, rfl, rfl, rfl, .inl rfl⟩
    exact undisturbed_update hseat j

lemma drifts_handleCredit (p : Publisher) (header : Bytes) : Drifts p (p.handleCredit header) := by
  unfold handleCredit
  split
  · exact .of_sessions_eq rfl rfl rfl
  · split
    · exact .of_sessions_eq rfl rfl rfl
    · exact drifts_applyCredit p _ _

lemma rest_releaseSequences (k : ℕ) (qs : List ℕ) (p : Publisher) :
    (qs.foldl (releaseSequence k) p).rest = p.rest := by
  induction qs generalizing p with
  | nil => rfl
  | cons a qs ih => exact (ih _).trans (rest_releaseSlotRef p _)

lemma sessions_teardown (p : Publisher) (k : ℕ) :
    (p.teardown k).sessions =
      update p.sessions k (p.retiredSession (p.sessions k)) := by
  have hreleased : (List.foldl (releaseSequence k) p (List.range'
      (p.sessions k).window.creditedEnd (p.sessions k).window.outstanding)).sessions =
      p.sessions := congrArg Rest.sessions (rest_releaseSequences k _ p)
  change update (List.foldl (releaseSequence k) p (List.range'
    (p.sessions k).window.creditedEnd (p.sessions k).window.outstanding)).sessions k _ = _
  rw [hreleased]

lemma ledger_teardown (p : Publisher) (k : ℕ) : (p.teardown k).ledger = p.ledger := by
  have hreleased := rest_releaseSequences k
    (List.range' (p.sessions k).window.creditedEnd (p.sessions k).window.outstanding) p
  unfold teardown
  rw [ledger_refreshGauges]
  simp only [ledger, bump, setSession]
  exact ledger_of_rest hreleased

lemma drifts_teardown (p : Publisher) (k : ℕ) (h : (p.sessions k).state = .expiring) :
    Drifts p (p.teardown k) := by
  refine ⟨ledger_teardown p k, fun j => ?_, .inr ⟨_, rfl⟩⟩
  rw [sessions_teardown]
  exact drift_update (.retired h) j

lemma moves_claimSeat (p : Publisher) (k : ℕ) (request : OpenRequest) (fresh : Fresh)
    (h : p.screenOpen request = .granted (p.clampGeometry request)) :
    Moves p (p.claimSeat k request fresh) := by
  refine ⟨rfl, fun j => ?_, .inl rfl⟩
  by_cases hj : j = k
  · subst hj
    exact (p.setSession_self j _) ▸ .claimed request fresh h
  · exact (p.setSession_of_ne _ hj) ▸ (Drift.refl p _).move

end Publisher

/-- The calls whose effect on admission and fan-out is a move of each session. -/
def PublisherInput.moving : PublisherInput → Bool
  | .publish .. | .submit _ | .probeAck _ => false
  | _ => true

def PublisherInput.drifting : PublisherInput → Bool
  | .publish .. | .submit _ | .probeAck _ | .open .. => false
  | _ => true

/-- The calls that leave slots and windows alone. -/
def PublisherInput.quiet : PublisherInput → Bool
  | .probe .. | .expire .. | .openThrows .. | .renew .. | .close _ | .shutdown => true
  | _ => false

variable {i : PublisherInput} {es : List PublisherEvent}

lemma publisherStep_quiet {p p' : Publisher} (hi : i.quiet = true)
    (hs : publisherStep p i = some (p', es)) : p.Quiet p' := by
  cases i with
  | probe k accepted =>
    obtain ⟨-, rfl, -⟩ := of_guard hs
    exact p.quiet_sendProbe k accepted
  | expire k reason =>
    obtain ⟨-, rfl, -⟩ := of_guard hs
    exact p.quiet_beginExpiry k reason
  | openThrows k request failure =>
    obtain ⟨-, rfl, -⟩ := of_guard hs
    exact p.quiet_abandonClaim k failure
  | renew request now =>
    cases hs
    exact p.quiet_handleRenew request now
  | close request =>
    cases hs
    exact p.quiet_handleClose request
  | shutdown =>
    cases hs
    exact .unseen rfl rfl
  | _ => cases hi

lemma publisherStep_drifts {p p' : Publisher} (hi : i.drifting = true)
    (hs : publisherStep p i = some (p', es)) : p.Drifts p' := by
  cases i with
  | publish | submit | probeAck => cases hi
  | acquire =>
    cases hs
    exact p.drifts_tryAcquire
  | reset i =>
    obtain ⟨-, rfl, -⟩ := of_guard hs
    exact p.drifts_resetHandle i
  | complete send success =>
    obtain ⟨-, rfl, -⟩ := of_guard hs
    exact p.drifts_onSendComplete send success
  | credit header =>
    cases hs
    exact p.drifts_handleCredit header
  | teardown k =>
    obtain ⟨hguard, rfl, -⟩ := of_guard hs
    exact p.drifts_teardown k hguard.2
  | «open» => cases hi
  | _ => exact (publisherStep_quiet rfl hs).drifts

lemma publisherStep_moves {p p' : Publisher} (hi : i.moving = true)
    (hs : publisherStep p i = some (p', es)) : p.Moves p' := by
  cases i with
  | publish | submit | probeAck => cases hi
  | «open» k request fresh =>
    obtain ⟨hguard, rfl, -⟩ := of_guard hs
    exact p.moves_claimSeat k request fresh hguard.2
  | _ => exact (publisherStep_drifts rfl hs).moves

end TangoBulk
