import TangoBulk.PublisherEffects
import TangoBulk.PublisherRenewals

/-! Leases over time: Renews against the engine's sweep, which reads the clock once, then looks at
one seat after another, and is not excluded by the lock that the Renews hold. -/
namespace TangoBulk

open Transition Function

/-! ### The lease of a seat -/

/-- What decides whether a session has ended and when it may. -/
structure SeatLease where
  state : SessionState
  endReason : EndReason
  deadlineMs : ℕ

namespace SeatLease

def live (l : SeatLease) : Prop := l.state.live = true

/-- The lease after `begin_expiry`. -/
def ended (l : SeatLease) (reason : EndReason) : SeatLease :=
  if l.state.live ∧ l.endReason = .none then { l with endReason := reason, state := .expiring }
  else l

lemma ended_deadline (l : SeatLease) (reason : EndReason) :
    (l.ended reason).deadlineMs = l.deadlineMs := by
  unfold ended
  split_ifs <;> rfl

lemma ended_of_live {l : SeatLease} {reason : EndReason} (h : (l.ended reason).live) :
    l.ended reason = l := by
  unfold ended at h ⊢
  split_ifs at h ⊢ with hl
  · simp [live, SessionState.live] at h
  · rfl

end SeatLease

def Session.lease (s : Session) : SeatLease where
  state := s.state
  endReason := s.endReason
  deadlineMs := s.deadlineMs

namespace Publisher

variable {p : Publisher} {k now : ℕ} {request : RenewRequest}

def lease (p : Publisher) (k : ℕ) : SeatLease := (p.sessions k).lease

lemma lease_update {p' : Publisher} {s : Session} {l : SeatLease}
    (h : p'.sessions = update p.sessions k s) (hl : s.lease = l) :
    p'.lease = update p.lease k l := by
  funext j
  by_cases hj : j = k
  · subst hj
    simp [lease, h, hl]
  · simp [lease, h, hj]

lemma lease_kept {p' : Publisher} {s : Session}
    (h : p'.sessions = update p.sessions k s) (hl : s.lease = p.lease k) : p'.lease = p.lease :=
  (lease_update h hl).trans (update_eq_self k _)

lemma lease_beginExpiry (p : Publisher) (k : ℕ) (reason : EndReason) :
    (p.beginExpiry k reason).2.lease = update p.lease k ((p.lease k).ended reason) := by
  refine lease_update (sessions_beginExpiry p k reason) ?_
  unfold endedSession SeatLease.ended lease Session.lease
  split_ifs <;> rfl

lemma lease_teardown (p : Publisher) (k : ℕ) :
    (p.teardown k).lease = update p.lease k { p.lease k with state := .closed } :=
  lease_update (sessions_teardown p k) rfl

lemma lease_claimSeat (p : Publisher) (k : ℕ) (request : OpenRequest) (fresh : Fresh) :
    (p.claimSeat k request fresh).lease = update p.lease k
      ⟨.open, .none, fresh.now + p.config.leaseTtlMs.toNat⟩ :=
  lease_update (s := p.claimedSession (p.sessions k) request fresh) rfl rfl

lemma beginExpiry_won {reason : EndReason} (h : (p.beginExpiry k reason).1 = true) :
    (p.lease k).live := by
  by_contra hdead
  have hlost : (p.claimEnd k reason).1 = false := by
    unfold claimEnd
    rw [if_neg fun hl => hdead hl.1]
  simp [beginExpiry, hlost] at h

lemma lease_handleClose (p : Publisher) (request : CloseRequest) :
    (p.handleClose request).2.lease = p.lease ∨ ∃ k, (p.handleClose request).2.lease =
      update p.lease k ((p.lease k).ended .close) := by
  unfold handleClose
  split
  · exact Or.inl rfl
  · split_ifs
    · exact Or.inr ⟨_, lease_beginExpiry p _ .close⟩
    · exact Or.inl rfl

lemma lease_renewLease (p : Publisher) (k now : ℕ) :
    ((p.renewLease k now).1 ≠ .ok ∧ (p.renewLease k now).2.lease = p.lease) ∨
      ((p.renewLease k now).1 = .ok ∧ (p.renewLease k now).2.lease = update p.lease k
        { p.lease k with deadlineMs := now + p.config.leaseTtlMs.toNat }) := by
  unfold renewLease
  dsimp only
  -- the rate window may open anew before the quota is looked at; it is no part of the lease
  split_ifs with hout
  · exact Or.inl ⟨by simp, lease_kept (k := k) rfl rfl⟩
  · exact Or.inr ⟨rfl, lease_update rfl rfl⟩
  · exact Or.inr ⟨rfl, lease_update rfl rfl⟩
  · exact Or.inl ⟨by simp, lease_kept (k := k) rfl rfl⟩
  all_goals exact Or.inr ⟨rfl, lease_update rfl rfl⟩

lemma lease_handleRenew (p : Publisher) (request : RenewRequest) (now : ℕ) :
    ((p.handleRenew request now).1.status ≠ .ok ∧
        (p.handleRenew request now).2.lease = p.lease) ∨
      ∃ k, p.sessionForId request.sessionId = some k ∧
        ((p.lease k).state ≠ .expiring ∧ (p.lease k).state ≠ .closed) ∧
        (p.handleRenew request now).1.status = .ok ∧
        (p.handleRenew request now).2.lease = update p.lease k
          { p.lease k with deadlineMs := now + p.config.leaseTtlMs.toNat } := by
  unfold handleRenew
  dsimp only
  split
  case h_1 => exact Or.inl ⟨by simp, rfl⟩
  case h_2 k hfound =>
    split_ifs with hended hclosed
    · exact Or.inl ⟨by simp, rfl⟩
    · exact Or.inl ⟨by simp, rfl⟩
    · rcases lease_renewLease p k now with ⟨hstatus, hlease⟩ | ⟨hstatus, hlease⟩
      · exact Or.inl ⟨hstatus, hlease⟩
      · exact Or.inr ⟨k, hfound, not_or.mp hended, hstatus, hlease⟩

end Publisher

/-! ### The sweep and the Renews -/

/-- Where the engine is in `sweep_sessions`. `now` is the one reading of the clock and `rest` the
seats not looked at yet. -/
inductive SweepStage
  | idle
  | sweeping (now : ℕ) (rest : List ℕ)
  -- the deadline was read and has passed; `begin_expiry` is next
  | ending (now k : ℕ) (rest : List ℕ)
  -- the test for `Expiring` is next
  | judged (now k : ℕ) (rest : List ℕ)
  | reaping (now k : ℕ) (rest : List ℕ)
  deriving DecidableEq

/-- `tenancy k` counts the sessions seat `k` has had, and `visited k` is the reading of the last
sweep that is done with ending the session of seat `k`. -/
structure LeaseState where
  publisher : Publisher
  clock : ℕ
  engine : SweepStage := .idle
  tenancy : ℕ → ℕ := fun _ => 0
  visited : ℕ → ℕ := fun _ => 0

inductive LeaseInput
  | wait (ms : ℕ)
  | open (k : ℕ) (request : OpenRequest) (fresh : Publisher.Fresh)
  | renew (request : RenewRequest)
  | close (request : CloseRequest)
  | startSweep
  | look
  | expire
  | judge
  | reap

/-- An answered Renew with the deadline before and after it, and a session ended by the sweep. -/
inductive LeaseEvent
  | renewed (k tenancy now : ℕ) (status : Status) (before after : ℕ)
  | expired (k tenancy now : ℕ)
  deriving DecidableEq

namespace LeaseState

/-- What a Renew reports; one that names no session is not about a lease. -/
def answer (s : LeaseState) (request : RenewRequest) : List LeaseEvent :=
  match s.publisher.sessionForId request.sessionId with
  | none => []
  | some k =>
    let done := s.publisher.handleRenew request s.clock
    [.renewed k (s.tenancy k) s.clock done.1.status (s.publisher.lease k).deadlineMs
      (done.2.lease k).deadlineMs]

/-- The next step of the sweep, with the session it ends. -/
def sweepStep (s : LeaseState) : LeaseInput → Option (LeaseState × List LeaseEvent)
  | .startSweep =>
    if s.engine = .idle then
      some ({ s with engine := .sweeping s.clock s.publisher.seats }, [])
    else none
  | .look =>
    match s.engine with
    | .sweeping _ [] => some ({ s with engine := .idle }, [])
    | .sweeping now (k :: rest) =>
      if (s.publisher.sessions k).state.live ∧ (s.publisher.sessions k).deadlineMs ≤ now then
        some ({ s with engine := .ending now k rest }, [])
      else some ({ s with engine := .judged now k rest }, [])
    | _ => none
  | .expire =>
    match s.engine with
    | .ending now k rest =>
      let done := s.publisher.beginExpiry k .expire
      some ({ s with publisher := done.2, engine := .judged now k rest },
        if done.1 then [.expired k (s.tenancy k) s.clock] else [])
    | _ => none
  | .judge =>
    match s.engine with
    | .judged now k rest =>
      let visited := Function.update s.visited k now
      if (s.publisher.sessions k).state = .expiring then
        some ({ s with visited := visited, engine := .reaping now k rest }, [])
      else some ({ s with visited := visited, engine := .sweeping now rest }, [])
    | _ => none
  | .reap =>
    match s.engine with
    | .reaping now k rest =>
      some ({ s with publisher := s.publisher.teardown k, engine := .sweeping now rest }, [])
    | _ => none
  | _ => none

def step (s : LeaseState) : LeaseInput → Option (LeaseState × List LeaseEvent)
  | .wait ms => some ({ s with clock := s.clock + ms }, [])
  | .open k request fresh =>
    if fresh.now = s.clock ∧ s.publisher.vacant k ∧
        s.publisher.screenOpen request = .granted (s.publisher.clampGeometry request) then
      some ({ s with
        publisher := s.publisher.claimSeat k request fresh
        tenancy := Function.update s.tenancy k (s.tenancy k + 1) }, [])
    else none
  | .renew request =>
    some ({ s with publisher := (s.publisher.handleRenew request s.clock).2 }, s.answer request)
  | .close request => some ({ s with publisher := (s.publisher.handleClose request).2 }, [])
  | input => s.sweepStep input

end LeaseState

/-- The leases of a publisher that is not shut down. -/
def leaseMachine : Machine LeaseState LeaseInput LeaseEvent := ⟨LeaseState.step⟩

/-- A publisher as constructed, at some time. -/
def LeaseState.start (c : PublisherConfig) (serverEpochId : UInt64) (workerAddress : ByteString.Bytes)
    (clock : ℕ) : LeaseState where
  publisher := .create c serverEpochId workerAddress
  clock := clock

/-! ### What one step does to a lease -/

/-- Whatever a step does to a seat, a lease that is live after it has the deadline it had, or one
lease time from now. -/
structure SeatLease.Prolongs (ttl clock : ℕ) (l l' : SeatLease) : Prop where
  known : (∀ raw h, l.state ≠ .other raw h) → ∀ raw h, l'.state ≠ .other raw h
  unended : (l.live → l.endReason = .none) → l'.live → l'.endReason = .none
  deadline : l'.live → (l.live ∧ l'.deadlineMs = l.deadlineMs) ∨ l'.deadlineMs = clock + ttl

namespace SeatLease.Prolongs

variable {ttl clock : ℕ} {l : SeatLease}

lemma refl (l : SeatLease) : l.Prolongs ttl clock l :=
  ⟨id, id, fun h => .inl ⟨h, rfl⟩⟩

lemma opened (l : SeatLease) : l.Prolongs ttl clock ⟨.open, .none, clock + ttl⟩ :=
  ⟨by simp, by simp, fun _ => .inr rfl⟩

lemma renewed (l : SeatLease) : l.Prolongs ttl clock { l with deadlineMs := clock + ttl } :=
  ⟨id, id, fun _ => .inr rfl⟩

lemma ended (l : SeatLease) (reason : EndReason) :
    l.Prolongs ttl clock (l.ended reason) where
  known h := by
    unfold SeatLease.ended
    split_ifs
    · simp
    · exact h
  unended h hlive := by
    have hsame := ended_of_live hlive
    rw [hsame] at hlive ⊢
    exact h hlive
  deadline hlive := by
    have hsame := ended_of_live hlive
    rw [hsame] at hlive ⊢
    exact .inl ⟨hlive, rfl⟩

lemma closed (l : SeatLease) : l.Prolongs ttl clock { l with state := .closed } where
  known _ := by simp
  unended _ hlive := by simp [live, SessionState.live] at hlive
  deadline hlive := by simp [live, SessionState.live] at hlive

lemma before {l' : SeatLease} (h : l.Prolongs ttl clock l') (httl : 0 < ttl) {bound : ℕ}
    (hbound : bound ≤ clock) (hl : l.live → bound < l.deadlineMs) (hlive : l'.live) :
    bound < l'.deadlineMs := by
  rcases h.deadline hlive with ⟨hlive, heq⟩ | heq
  · exact heq ▸ hl hlive
  · omega

lemma update {leases : ℕ → SeatLease} {k : ℕ} {l' : SeatLease}
    (h : (leases k).Prolongs ttl clock l') (j : ℕ) :
    (leases j).Prolongs ttl clock (update leases k l' j) := by
  by_cases hj : j = k
  · subst hj
    simpa using h
  · simpa [hj] using refl (leases j)

end SeatLease.Prolongs

namespace Publisher

variable (p : Publisher)

/-- A call that only moves leases as `Prolongs` says, under the same configuration. -/
structure Prolongs (clock : ℕ) (p p' : Publisher) : Prop where
  config : p'.config = p.config
  leases : ∀ k, (p.lease k).Prolongs p.config.leaseTtlMs.toNat clock (p'.lease k)

lemma prolongs_claimSeat (k : ℕ) (request : OpenRequest) (fresh : Fresh) :
    p.Prolongs fresh.now (p.claimSeat k request fresh) := by
  refine ⟨rfl, fun j => ?_⟩
  rw [lease_claimSeat]
  exact (SeatLease.Prolongs.opened _).update j

lemma prolongs_beginExpiry (clock k : ℕ) (reason : EndReason) :
    p.Prolongs clock (p.beginExpiry k reason).2 := by
  refine ⟨congrArg FanSettings.config (fanSettings_beginExpiry p k reason), fun j => ?_⟩
  rw [lease_beginExpiry]
  exact (SeatLease.Prolongs.ended _ _).update j

lemma prolongs_teardown (clock k : ℕ) : p.Prolongs clock (p.teardown k) := by
  refine ⟨?_, fun j => ?_⟩
  · change (List.foldl (releaseSequence k) p _).config = _
    exact congrArg Rest.config (rest_releaseSequences k _ p)
  · rw [lease_teardown]
    exact (SeatLease.Prolongs.closed _).update j

lemma prolongs_handleClose (clock : ℕ) (request : CloseRequest) :
    p.Prolongs clock (p.handleClose request).2 := by
  unfold handleClose
  split
  · exact ⟨rfl, fun _ => .refl _⟩
  · split_ifs
    · exact prolongs_beginExpiry p clock _ .close
    · exact ⟨rfl, fun _ => .refl _⟩

lemma config_handleRenew (request : RenewRequest) (now : ℕ) :
    (p.handleRenew request now).2.config = p.config := by
  unfold handleRenew
  dsimp only
  split
  · rfl
  · split_ifs
    · rfl
    · rfl
    · exact config_renewLease p _ now

lemma prolongs_handleRenew (request : RenewRequest) (now : ℕ) :
    p.Prolongs now (p.handleRenew request now).2 := by
  refine ⟨config_handleRenew p request now, fun j => ?_⟩
  rcases lease_handleRenew p request now with ⟨-, hlease⟩ | ⟨k, -, -, -, hlease⟩
  · rw [hlease]
    exact .refl _
  · rw [hlease]
    exact (SeatLease.Prolongs.renewed _).update j

end Publisher

/-! ### Invariant of the sweep -/

namespace SweepStage

def reading : SweepStage → Option ℕ
  | .idle => none
  | .sweeping now _ | .ending now _ _ | .judged now _ _ | .reaping now _ _ => some now

/-- The seat whose deadline was read as passed and whose session is about to be ended. -/
def condemned : SweepStage → Option (ℕ × ℕ)
  | .ending now k _ => some (now, k)
  | _ => none

/-- The seat the sweep is done with ending. -/
def passed : SweepStage → Option (ℕ × ℕ)
  | .judged now k _ | .reaping now k _ => some (now, k)
  | _ => none

end SweepStage

namespace LeaseState

/-- A session that a sweep is done with is live only if the sweep's reading was before its
deadline. -/
structure Held (c : PublisherConfig) (s : LeaseState) : Prop where
  config : s.publisher.config = c
  valid : c.validate = .ok
  known : ∀ k raw h, (s.publisher.lease k).state ≠ .other raw h
  unended : ∀ k, (s.publisher.lease k).live → (s.publisher.lease k).endReason = .none
  reading : ∀ now, s.engine.reading = some now → now ≤ s.clock
  passed : ∀ now k, s.engine.passed = some (now, k) → (s.publisher.lease k).live →
    now < (s.publisher.lease k).deadlineMs
  visitedAt : ∀ k, s.visited k ≤ s.clock
  visited : ∀ k, (s.publisher.lease k).live → s.visited k < (s.publisher.lease k).deadlineMs

variable {c : PublisherConfig} {s s' : LeaseState} {es : List LeaseEvent} {input : LeaseInput}

lemma held_start {serverEpochId : UInt64}
    {workerAddress : ByteString.Bytes} {clock : ℕ} (h : c.validate = .ok) :
    (start c serverEpochId workerAddress clock).Held c := by
  have hunused : ∀ k, ((start c serverEpochId workerAddress clock).publisher.lease k).state =
      .unknown := fun _ => rfl
  have hdead : ∀ k, ¬((start c serverEpochId workerAddress clock).publisher.lease k).live := by
    intro k hlive
    simp [SeatLease.live, hunused, SessionState.live] at hlive
  exact {
    config := rfl
    valid := h
    known := fun k raw hraw => by simp [hunused]
    unended := fun k hlive => absurd hlive (hdead k)
    reading := fun now hnow => by simp [start, SweepStage.reading] at hnow
    passed := fun now k hpassed => by simp [start, SweepStage.passed] at hpassed
    visitedAt := fun k => Nat.zero_le _
    visited := fun k hlive => absurd hlive (hdead k) }

lemma Held.ttl_pos (h : s.Held c) : 0 < s.publisher.config.leaseTtlMs.toNat :=
  h.config ▸ (PublisherConfig.validate_lease h.valid).1

variable {now k : ℕ}

lemma SweepStage.reading_of_passed {e : SweepStage} (h : e.passed = some (now, k)) :
    e.reading = some now := by
  cases e <;> simp_all [SweepStage.passed, SweepStage.reading]

lemma Held.prolong {p' : Publisher} (h : s.Held c) (hp : s.publisher.Prolongs s.clock p')
    (tenancy : ℕ → ℕ) : Held c { s with publisher := p', tenancy := tenancy } where
  config := hp.config.trans h.config
  valid := h.valid
  known k := (hp.leases k).known (h.known k)
  unended k := (hp.leases k).unended (h.unended k)
  reading := h.reading
  passed now k hpassed :=
    (hp.leases k).before h.ttl_pos (h.reading now (SweepStage.reading_of_passed hpassed))
      (h.passed now k hpassed)
  visitedAt := h.visitedAt
  visited k := (hp.leases k).before h.ttl_pos (h.visitedAt k) (h.visited k)

lemma Held.not_live_ended (h : s.Held c) (k : ℕ) (reason : EndReason) :
    ¬((s.publisher.lease k).ended reason).live := by
  intro hlive
  have hsame := SeatLease.ended_of_live hlive
  have hbefore : (s.publisher.lease k).live := hsame ▸ hlive
  rw [SeatLease.ended, if_pos ⟨hbefore, h.unended k hbefore⟩] at hlive
  simp [SeatLease.live, SessionState.live] at hlive

lemma Held.startSweep (h : s.Held c) :
    Held c { s with engine := .sweeping s.clock s.publisher.seats } :=
  { h with
    reading := fun now hnow => by
      cases hnow
      exact le_refl _
    passed := fun now k hpassed => by simp [SweepStage.passed] at hpassed }

lemma Held.look {rest : List ℕ} (h : s.Held c) (hengine : s.engine = .sweeping now (k :: rest))
    (hspared : ¬((s.publisher.sessions k).state.live ∧ (s.publisher.sessions k).deadlineMs ≤ now)) :
    Held c { s with engine := .judged now k rest } :=
  { h with
    reading := fun now' hnow => h.reading now' (by rw [hengine]; exact hnow)
    passed := fun now' k' hpassed hlive => by
      cases hpassed
      exact Nat.lt_of_not_le fun hle => hspared ⟨hlive, hle⟩ }

lemma Held.unjudged {e : SweepStage} (h : s.Held c)
    (hreading : ∀ now, e.reading = some now → s.engine.reading = some now)
    (hpassed : e.passed = none) : Held c { s with engine := e } :=
  { h with
    reading := fun now hnow => h.reading now (hreading now hnow)
    passed := fun now k hp => by simp [hpassed] at hp }

lemma Held.expire {rest : List ℕ} (h : s.Held c) (hengine : s.engine = .ending now k rest) :
    Held c { s with
      publisher := (s.publisher.beginExpiry k .expire).2, engine := .judged now k rest } :=
  { h.prolong (s.publisher.prolongs_beginExpiry s.clock k .expire) s.tenancy with
    reading := fun now' hnow => h.reading now' (by rw [hengine]; exact hnow)
    passed := fun now' k' hpassed hlive => by
      cases hpassed
      rw [Publisher.lease_beginExpiry, update_self] at hlive
      exact absurd hlive (h.not_live_ended _ _) }

lemma Held.judge (h : s.Held c) (hpassed : s.engine.passed = some (now, k)) :
    Held c { s with visited := update s.visited k now } :=
  { h with
    visitedAt := fun j => by
      by_cases hj : j = k
      · subst hj
        simpa using h.reading now (SweepStage.reading_of_passed hpassed)
      · simpa [hj] using h.visitedAt j
    visited := fun j hlive => by
      by_cases hj : j = k
      · subst hj
        simpa using h.passed now j hpassed hlive
      · simpa [hj] using h.visited j hlive }

lemma Held.sweepStep (h : s.Held c) (hs : s.sweepStep input = some (s', es)) : s'.Held c := by
  cases input with
  | startSweep =>
    obtain ⟨-, rfl, -⟩ := of_guard hs
    exact h.startSweep
  | look =>
    simp only [LeaseState.sweepStep] at hs
    split at hs
    case h_1 now hengine =>
      cases hs
      exact h.unjudged (by simp [SweepStage.reading]) rfl
    case h_2 now k rest hengine =>
      split_ifs at hs with hdue
      · cases hs
        exact h.unjudged (by simp [hengine, SweepStage.reading]) rfl
      · cases hs
        exact h.look hengine hdue
    case h_3 => cases hs
  | expire =>
    simp only [LeaseState.sweepStep] at hs
    split at hs
    case h_1 now k rest hengine =>
      cases hs
      exact h.expire hengine
    case h_2 => cases hs
  | judge =>
    simp only [LeaseState.sweepStep] at hs
    split at hs
    case h_1 now k rest hengine =>
      have hpassed : s.engine.passed = some (now, k) := by rw [hengine]; rfl
      have hjudged := h.judge hpassed
      split_ifs at hs
      · cases hs
        refine { hjudged with reading := ?_, passed := ?_ }
        · exact fun now' hnow => h.reading now' (by rw [hengine]; exact hnow)
        · exact fun now' k' hp => h.passed now' k' (by rw [hengine]; exact hp)
      · cases hs
        exact hjudged.unjudged (by simp [hengine, SweepStage.reading]) rfl
    case h_2 => cases hs
  | reap =>
    simp only [LeaseState.sweepStep] at hs
    split at hs
    case h_1 now k rest hengine =>
      cases hs
      have hreaped := h.prolong (s.publisher.prolongs_teardown s.clock k) s.tenancy
      exact hreaped.unjudged (by simp [hengine, SweepStage.reading]) rfl
    case h_2 => cases hs
  | _ => cases hs

lemma Held.step (h : s.Held c) (hs : s.step input = some (s', es)) : s'.Held c := by
  cases input with
  | wait =>
    cases hs
    exact { h with
      reading := fun now hnow => (h.reading now hnow).trans (Nat.le_add_right _ _)
      visitedAt := fun k => (h.visitedAt k).trans (Nat.le_add_right _ _) }
  | «open» k request fresh =>
    obtain ⟨⟨hnow, -⟩, rfl, -⟩ := of_guard hs
    exact h.prolong (hnow ▸ s.publisher.prolongs_claimSeat k request fresh) _
  | renew request =>
    cases hs
    exact h.prolong (s.publisher.prolongs_handleRenew request s.clock) s.tenancy
  | close request =>
    cases hs
    exact h.prolong (s.publisher.prolongs_handleClose s.clock request) s.tenancy
  | _ =>
    simp only [LeaseState.step] at hs
    exact h.sweepStep hs

/-! ### Renews after the deadline -/

/-- A Renew at or after the deadline of its session is only processed when a sweep that read the
clock at or after that deadline is done with the seat; the clock does not run out. -/
def sweptFirst (s : LeaseState) : LeaseInput → Prop
  | .open .. => s.clock + s.publisher.config.leaseTtlMs.toNat < 2 ^ 64
  | .renew request =>
    s.clock + s.publisher.config.leaseTtlMs.toNat < 2 ^ 64 ∧
      ∀ k ∈ s.publisher.sessionForId request.sessionId,
        (s.publisher.sessions k).deadlineMs ≤ s.clock →
          (s.publisher.sessions k).deadlineMs ≤ s.visited k
  | _ => True

instance (s : LeaseState) (input : LeaseInput) : Decidable (s.sweptFirst input) := by
  cases input <;> unfold sweptFirst <;> infer_instance

lemma Held.ended_of_visited {id : SessionId} (h : s.Held c)
    (hfound : s.publisher.sessionForId id = some k)
    (hvisited : (s.publisher.lease k).deadlineMs ≤ s.visited k) :
    (s.publisher.lease k).state = .expiring ∨ (s.publisher.lease k).state = .closed := by
  have hdead : ¬(s.publisher.lease k).live := fun hlive => by
    have := h.visited k hlive
    omega
  have hnamed : (s.publisher.lease k).state ≠ .unknown :=
    (Publisher.sessionForId_some hfound).1
  have hknown := h.known k
  unfold SeatLease.live at hdead
  generalize (s.publisher.lease k).state = state at hdead hnamed hknown
  cases state with
  | other raw h => exact absurd rfl (hknown raw h)
  | _ => simp_all [SessionState.live]

end LeaseState

/-- A Renew that finds its deadline passed is not answered Ok and leaves the deadline; one that
is answered Ok puts it one lease time ahead. -/
def LeaseEvent.honoursDeadline (ttl : ℕ) : LeaseEvent → Prop
  | .renewed _ _ now status before after =>
    (before ≤ now → status ≠ .ok ∧ after = before) ∧ (status = .ok → after = now + ttl)
  | .expired .. => True

def LeaseEvent.setsDeadline (ttl : ℕ) : LeaseEvent → Prop
  | .renewed _ _ now status _ after => status = .ok → after = now + ttl
  | .expired .. => True

namespace LeaseState

variable {c : PublisherConfig} {s s' : LeaseState} {es : List LeaseEvent} {input : LeaseInput}

lemma Held.answer_sets (request : RenewRequest) (h : s.Held c) :
    ∀ e ∈ s.answer request, e.setsDeadline c.leaseTtlMs.toNat := by
  rw [← h.config]
  unfold answer
  split
  case h_1 => simp
  case h_2 k hfound =>
    simp only [List.mem_singleton, forall_eq, LeaseEvent.setsDeadline]
    rcases s.publisher.lease_handleRenew request s.clock with
      ⟨hstatus, -⟩ | ⟨k', hfound', -, -, hlease⟩
    · exact fun hok => absurd hok hstatus
    · obtain rfl := Option.some.inj (hfound.symm.trans hfound')
      rw [hlease, update_self]
      exact fun _ => rfl

lemma Held.answer_honours {request : RenewRequest} (h : s.Held c)
    (hswept : ∀ k ∈ s.publisher.sessionForId request.sessionId,
      (s.publisher.sessions k).deadlineMs ≤ s.clock →
        (s.publisher.sessions k).deadlineMs ≤ s.visited k) :
    ∀ e ∈ s.answer request, e.honoursDeadline c.leaseTtlMs.toNat := by
  rw [← h.config]
  unfold answer
  split
  case h_1 => simp
  case h_2 k hfound =>
    simp only [List.mem_singleton, forall_eq, LeaseEvent.honoursDeadline]
    rcases s.publisher.lease_handleRenew request s.clock with
      ⟨hstatus, hlease⟩ | ⟨k', hfound', hopen, hstatus, hlease⟩
    · rw [hlease]
      exact ⟨fun _ => ⟨hstatus, rfl⟩, fun hok => absurd hok hstatus⟩
    · obtain rfl := Option.some.inj (hfound.symm.trans hfound')
      rw [hlease, update_self]
      refine ⟨fun hlate => ?_, fun _ => rfl⟩
      rcases h.ended_of_visited hfound (hswept k hfound hlate) with hended | hended
      · exact absurd hended hopen.1
      · exact absurd hended hopen.2

lemma sweepStep_reports (hs : s.sweepStep input = some (s', es)) :
    es = [] ∨ ∃ now k rest, s.engine = .ending now k rest ∧
      (s.publisher.beginExpiry k .expire).1 = true ∧
      es = [.expired k (s.tenancy k) s.clock] := by
  cases input with
  | expire =>
    simp only [sweepStep] at hs
    split at hs
    case h_1 now k rest hengine =>
      cases hs
      split_ifs with hwon
      · exact .inr ⟨now, k, rest, hengine, hwon, rfl⟩
      · exact .inl rfl
    case h_2 => cases hs
  | _ =>
    simp only [sweepStep] at hs
    (repeat' split at hs) <;> first
      | exact .inl (of_some_eq hs).2.symm
      | cases hs

lemma step_reports (hs : s.step input = some (s', es)) {e : LeaseEvent} (he : e ∈ es) :
    (∃ request, input = .renew request ∧ e ∈ s.answer request) ∨
      ∃ k tenancy now, e = .expired k tenancy now := by
  cases input with
  | wait | close =>
    cases hs
    cases he
  | «open» =>
    obtain ⟨-, -, rfl⟩ := of_guard hs
    cases he
  | renew request =>
    cases hs
    exact .inl ⟨request, rfl, he⟩
  | _ =>
    simp only [LeaseState.step] at hs
    rcases sweepStep_reports hs with rfl | ⟨-, k, -, -, -, rfl⟩
    · cases he
    · exact .inr ⟨_, _, _, List.mem_singleton.mp he⟩

lemma Held.sets (h : s.Held c) (hs : s.step input = some (s', es)) :
    ∀ e ∈ es, e.setsDeadline c.leaseTtlMs.toNat := by
  intro e he
  rcases step_reports hs he with ⟨request, -, hin⟩ | ⟨k, tenancy, now, rfl⟩
  · exact h.answer_sets request e hin
  · trivial

lemma Held.honours (h : s.Held c) (hswept : s.sweptFirst input)
    (hs : s.step input = some (s', es)) : ∀ e ∈ es, e.honoursDeadline c.leaseTtlMs.toNat := by
  intro e he
  rcases step_reports hs he with ⟨request, rfl, hin⟩ | ⟨k, tenancy, now, rfl⟩
  · exact h.answer_honours hswept.2 e hin
  · trivial

end LeaseState

/-- A Renew answered Ok puts the deadline one lease time ahead in every run; and none resurrects a
lease that has run out, if it is not processed ahead of the sweep that would have ended the
session. -/
theorem late_renew_refused (c : PublisherConfig) (serverEpochId : UInt64)
    (workerAddress : ByteString.Bytes) (clock : ℕ) (hvalid : c.validate = .ok)
    {trace : List LeaseEvent} {s : LeaseState}
    (hrun : leaseMachine.Reaches anyStep (.start c serverEpochId workerAddress clock) trace s) :
    (∀ e ∈ trace, e.setsDeadline c.leaseTtlMs.toNat) ∧
    (leaseMachine.Reaches LeaseState.sweptFirst (.start c serverEpochId workerAddress clock) trace s →
      ∀ e ∈ trace, e.honoursDeadline c.leaseTtlMs.toNat) := by
  have hstart : (LeaseState.start c serverEpochId workerAddress clock).Held c :=
    LeaseState.held_start hvalid
  refine ⟨?_, fun hswept => ?_⟩
  · exact hrun.events (LeaseState.Held c) _ hstart fun _ _ _ _ h _ hs => ⟨h.step hs, h.sets hs⟩
  · exact hswept.events (LeaseState.Held c) _ hstart
      fun _ _ _ _ h hok hs => ⟨h.step hs, h.honours hok hs⟩

/-- A lease that runs out and is renewed after the sweep, and one renewed in time. -/
def sweptRun : List LeaseInput :=
  [.open 0 sampleOpen (sampleFresh 1), .wait 500, .renew shortRenewal, .wait 1000, .startSweep,
    .look, .expire, .judge, .reap, .renew shortRenewal]

theorem late_renew_refused_sample :
    ∃ trace s, leaseMachine.Reaches LeaseState.sweptFirst (.start shortLease 7 [1] 0) trace s ∧
      trace = [.renewed 0 1 500 .ok 1000 1500, .expired 0 1 1500,
        .renewed 0 1 1500 .sessionExpired 1500 1500] ∧
      ∀ e ∈ trace, e.honoursDeadline shortLease.leaseTtlMs.toNat := by
  obtain ⟨trace, s, hrun, htrace⟩ := leaseMachine.exists_of_run LeaseState.sweptFirst
    (.start shortLease 7 [1] 0) sweptRun (P := fun _ t => t = [.renewed 0 1 500 .ok 1000 1500,
      .expired 0 1 1500, .renewed 0 1 1500 .sessionExpired 1500 1500]) (by decide +kernel)
  exact ⟨trace, s, hrun, htrace, (late_renew_refused shortLease 7 [1] 0 (by decide +kernel)
    (hrun.weaken fun _ _ _ => trivial)).2 hrun⟩

/-- No sweep has run since the deadline, and the Renew is answered Ok. -/
theorem late_renew_accepted :
    shortLease.validate = .ok ∧ ∃ trace s,
      leaseMachine.Reaches anyStep (.start shortLease 7 [1] 0) trace s ∧
        .renewed 0 1 1700 .ok 1000 2700 ∈ trace :=
  ⟨by decide +kernel, leaseMachine.exists_of_run anyStep (.start shortLease 7 [1] 0)
    [.open 0 sampleOpen (sampleFresh 1), .wait 1700, .renew shortRenewal] (by decide +kernel)⟩

end TangoBulk
