import TangoBulk.PublisherLease
import TangoBulk.PublisherSlots

/-! What an answered Renew promises, against a sweep that may have read the old deadline. -/
namespace TangoBulk

open Transition Function

/-- A session is not ended by the sweep before the lease time that an earlier Ok promised it. -/
def LeaseEvent.keepsPromise (ttl : ℕ) : LeaseEvent → LeaseEvent → Prop
  | .renewed k n now .ok _ _, .expired k' n' ended => k = k' → n = n' → now + ttl ≤ ended
  | _, _ => True

namespace LeaseState

variable {c : PublisherConfig} {trace : List LeaseEvent} {s s' : LeaseState}
  {es : List LeaseEvent} {input : LeaseInput}

/-- No Renew of a session is processed between the sweep's reading of its passed deadline and
`begin_expiry`; the clock does not run out. -/
def sparesCondemned (s : LeaseState) : LeaseInput → Prop
  | .open .. => s.clock + s.publisher.config.leaseTtlMs.toNat < 2 ^ 64
  | .renew request =>
    s.clock + s.publisher.config.leaseTtlMs.toNat < 2 ^ 64 ∧
      ∀ seat ∈ s.engine.condemned, s.publisher.sessionForId request.sessionId ≠ some seat.2
  | _ => True

instance (s : LeaseState) (input : LeaseInput) : Decidable (s.sparesCondemned input) :=
  match input with
  | .open .. => inferInstanceAs (Decidable (_ < _))
  | .renew _ => inferInstanceAs (Decidable (_ ∧ _))
  | .wait _ | .close _ | .startSweep | .look | .expire | .judge | .reap =>
    inferInstanceAs (Decidable True)

/-- Each Ok of the present session of a seat lies a lease time before its deadline. -/
def Promised (ttl : ℕ) (trace : List LeaseEvent) (s : LeaseState) : Prop :=
  ∀ k n now before after, .renewed k n now .ok before after ∈ trace →
    n ≤ s.tenancy k ∧ now ≤ s.clock ∧ (n = s.tenancy k → (s.publisher.lease k).live →
      now + ttl ≤ (s.publisher.lease k).deadlineMs)

/-- The seat the sweep is about to end is past its deadline, and is not free. -/
def Condemns (s : LeaseState) : Prop :=
  ∀ now k, s.engine.condemned = some (now, k) →
    (s.publisher.lease k).deadlineMs ≤ now ∧
      (s.publisher.lease k).state ≠ .unknown ∧ (s.publisher.lease k).state ≠ .closed

lemma Promised.prolong {ttl : ℕ} {p' : Publisher} (h : s.Promised ttl trace)
    (httl : s.publisher.config.leaseTtlMs.toNat = ttl)
    (hp : s.publisher.Prolongs s.clock p') (engine : SweepStage) (visited : ℕ → ℕ) :
    Promised ttl trace { s with publisher := p', engine := engine, visited := visited } := by
  intro k n now before after he
  obtain ⟨hn, hnow, hpromise⟩ := h k n now before after he
  refine ⟨hn, hnow, fun hcurrent hlive => ?_⟩
  rcases (hp.leases k).deadline hlive with ⟨hbefore, heq⟩ | heq
  · exact heq ▸ hpromise hcurrent hbefore
  · change now + ttl ≤ (p'.lease k).deadlineMs
    omega

lemma Promised.claim {ttl k : ℕ} {p' : Publisher} {l : SeatLease} (h : s.Promised ttl trace)
    (hp : p'.lease = update s.publisher.lease k l) :
    Promised ttl trace { s with
      publisher := p', tenancy := update s.tenancy k (s.tenancy k + 1) } := by
  intro j n now before after he
  obtain ⟨hn, hnow, hpromise⟩ := h j n now before after he
  by_cases hj : j = k
  · subst hj
    -- the seat has a new session, which no earlier Ok was for
    refine ⟨by simp only [update_self]; omega, hnow, fun hcurrent => ?_⟩
    simp only [update_self] at hcurrent
    omega
  · simpa [hj, hp] using ⟨hn, hnow, hpromise⟩

lemma Promised.answer {request : RenewRequest} (h : s.Promised c.leaseTtlMs.toNat trace)
    (hheld : s.Held c) :
    Promised c.leaseTtlMs.toNat (trace ++ s.answer request)
      { s with publisher := (s.publisher.handleRenew request s.clock).2 } := by
  have hp := s.publisher.prolongs_handleRenew request s.clock
  have hold := h.prolong (by rw [hheld.config]) hp s.engine s.visited
  intro k n now before after he
  rcases List.mem_append.mp he with he | he
  · exact hold k n now before after he
  · unfold LeaseState.answer at he
    split at he
    case h_1 => cases he
    case h_2 k' hfound =>
      simp only [List.mem_singleton, LeaseEvent.renewed.injEq] at he
      obtain ⟨rfl, rfl, rfl, hok, rfl, rfl⟩ := he
      refine ⟨le_refl _, le_refl _, fun _ _ => ?_⟩
      rcases s.publisher.lease_handleRenew request s.clock with
        ⟨hstatus, -⟩ | ⟨j, hfound', -, -, hlease⟩
      · exact absurd hok.symm hstatus
      · obtain rfl := Option.some.inj (hfound.symm.trans hfound')
        change _ ≤ ((s.publisher.handleRenew request s.clock).2.lease k).deadlineMs
        rw [hlease, update_self, hheld.config]

lemma Condemns.kept {p' : Publisher} (h : s.Condemns) (tenancy : ℕ → ℕ)
    (hkept : ∀ now k, s.engine.condemned = some (now, k) →
      (p'.lease k).deadlineMs = (s.publisher.lease k).deadlineMs ∧
        ((p'.lease k).state = (s.publisher.lease k).state ∨ (p'.lease k).state = .expiring)) :
    Condemns { s with publisher := p', tenancy := tenancy } := by
  intro now k hcondemned
  obtain ⟨hpast, hused, hclosed⟩ := h now k hcondemned
  obtain ⟨hdeadline, hstate⟩ := hkept now k hcondemned
  refine ⟨hdeadline.le.trans hpast, ?_⟩
  rcases hstate with hstate | hstate
  · change (p'.lease k).state ≠ _ ∧ (p'.lease k).state ≠ _
    rw [hstate]
    exact ⟨hused, hclosed⟩
  · change (p'.lease k).state ≠ _ ∧ (p'.lease k).state ≠ _
    rw [hstate]
    simp

lemma Condemns.claim {k : ℕ} {request : OpenRequest} {fresh : Publisher.Fresh}
    (h : s.Condemns) (hvacant : s.publisher.vacant k = true) (tenancy : ℕ → ℕ) :
    Condemns { s with publisher := s.publisher.claimSeat k request fresh, tenancy := tenancy } := by
  refine h.kept tenancy fun now j hcondemned => ?_
  obtain ⟨-, hused, hclosed⟩ := h now j hcondemned
  have hj : j ≠ k := by
    rintro rfl
    rcases (Publisher.vacant_iff.mp hvacant).2 with hfree | ⟨hfree, -⟩
    · exact hused hfree
    · exact hclosed hfree
  simp [Publisher.lease_claimSeat, hj]

lemma Condemns.renew {request : RenewRequest} (h : s.Condemns)
    (hspared : ∀ seat ∈ s.engine.condemned,
      s.publisher.sessionForId request.sessionId ≠ some seat.2) :
    Condemns { s with publisher := (s.publisher.handleRenew request s.clock).2 } := by
  refine h.kept s.tenancy fun now j hcondemned => ?_
  rcases s.publisher.lease_handleRenew request s.clock with
    ⟨-, hlease⟩ | ⟨k, hfound, -, -, hlease⟩
  · simp [hlease]
  · have hj : j ≠ k := by
      rintro rfl
      exact hspared _ hcondemned hfound
    simp [hlease, hj]

lemma Condemns.close (h : s.Condemns) (request : CloseRequest) :
    Condemns { s with publisher := (s.publisher.handleClose request).2 } := by
  refine h.kept s.tenancy fun now j hcondemned => ?_
  rcases s.publisher.lease_handleClose request with hlease | ⟨k, hlease⟩
  · simp [hlease]
  · rw [hlease]
    by_cases hj : j = k
    · subst hj
      rw [update_self]
      refine ⟨SeatLease.ended_deadline _ _, ?_⟩
      unfold SeatLease.ended
      split_ifs <;> simp
    · simp [hj]

lemma Condemns.of_none {s' : LeaseState} (h : s'.engine.condemned = none) : s'.Condemns := by
  intro now k hcondemned
  simp [h] at hcondemned

/-- What a step of the sweep does to the leases, and the seat it condemns. -/
lemma sweepStep_effect (hs : s.sweepStep input = some (s', es)) :
    s.publisher.Prolongs s.clock s'.publisher ∧ s'.clock = s.clock ∧ s'.tenancy = s.tenancy ∧
      s'.Condemns := by
  have hrefl : s.publisher.Prolongs s.clock s.publisher := ⟨rfl, fun _ => .refl _⟩
  cases input with
  | startSweep =>
    obtain ⟨-, rfl, -⟩ := of_guard hs
    exact ⟨hrefl, rfl, rfl, .of_none rfl⟩
  | look =>
    simp only [sweepStep] at hs
    split at hs
    case h_1 =>
      cases hs
      exact ⟨hrefl, rfl, rfl, .of_none rfl⟩
    case h_2 now k rest hengine =>
      split_ifs at hs with hdue
      · cases hs
        refine ⟨hrefl, rfl, rfl, fun now' k' hcondemned => ?_⟩
        cases hcondemned
        have hlive : (s.publisher.lease k).state.live = true := hdue.1
        exact ⟨hdue.2, fun hu => by simp [hu, SessionState.live] at hlive,
          fun hc => by simp [hc, SessionState.live] at hlive⟩
      · cases hs
        exact ⟨hrefl, rfl, rfl, .of_none rfl⟩
    case h_3 => cases hs
  | expire =>
    simp only [sweepStep] at hs
    split at hs
    case h_1 now k rest hengine =>
      cases hs
      exact ⟨s.publisher.prolongs_beginExpiry s.clock k .expire, rfl, rfl, .of_none rfl⟩
    case h_2 => cases hs
  | judge =>
    simp only [sweepStep] at hs
    split at hs
    case h_1 now k rest hengine =>
      split_ifs at hs
      all_goals
        cases hs
        exact ⟨hrefl, rfl, rfl, .of_none rfl⟩
    case h_2 => cases hs
  | reap =>
    simp only [sweepStep] at hs
    split at hs
    case h_1 now k rest hengine =>
      cases hs
      exact ⟨s.publisher.prolongs_teardown s.clock k, rfl, rfl, .of_none rfl⟩
    case h_2 => cases hs
  | _ => cases hs

/-- All that the run so far and the state know about promises. -/
structure Sworn (c : PublisherConfig) (trace : List LeaseEvent) (s : LeaseState) : Prop where
  held : s.Held c
  promised : s.Promised c.leaseTtlMs.toNat trace
  condemns : s.Condemns
  kept : trace.Pairwise (LeaseEvent.keepsPromise c.leaseTtlMs.toNat)

lemma Sworn.expired (h : s.Sworn c trace) {now k : ℕ} {rest : List ℕ}
    (hengine : s.engine = .ending now k rest)
    (hwon : (s.publisher.beginExpiry k .expire).1 = true) :
    ∀ e ∈ trace, e.keepsPromise c.leaseTtlMs.toNat (.expired k (s.tenancy k) s.clock) := by
  intro e he
  unfold LeaseEvent.keepsPromise
  split
  case h_1 k' n at' before after k'' n' ended heq =>
    cases heq
    rintro rfl rfl
    obtain ⟨-, -, hpromise⟩ := h.promised _ _ _ _ _ he
    have hdeadline := hpromise rfl (Publisher.beginExpiry_won hwon)
    have hpast := (h.condemns now k' (by rw [hengine]; rfl)).1
    have hreading := h.held.reading now (by rw [hengine]; rfl)
    omega
  case h_2 => trivial

lemma pairwise_answer {ttl : ℕ} (htrace : trace.Pairwise (LeaseEvent.keepsPromise ttl))
    (request : RenewRequest) :
    (trace ++ s.answer request).Pairwise (LeaseEvent.keepsPromise ttl) := by
  unfold answer
  split
  · simpa using htrace
  · refine List.pairwise_append.mpr ⟨htrace, List.pairwise_singleton _ _, ?_⟩
    simp [LeaseEvent.keepsPromise]

lemma Sworn.sweepStep (h : s.Sworn c trace) (hs : s.sweepStep input = some (s', es)) :
    s'.Sworn c (trace ++ es) := by
  obtain ⟨hp, hclock, htenancy, hcondemns⟩ := sweepStep_effect hs
  have hprolonged := h.promised.prolong (by rw [h.held.config]) hp s'.engine s'.visited
  have hpromised : s'.Promised c.leaseTtlMs.toNat trace := by
    obtain ⟨p', clock', engine', tenancy', visited'⟩ := s'
    obtain rfl : clock' = s.clock := hclock
    obtain rfl : tenancy' = s.tenancy := htenancy
    exact hprolonged
  have hheld := h.held.sweepStep hs
  rcases sweepStep_reports hs with rfl | ⟨now, k, rest, hengine, hwon, rfl⟩
  · rw [List.append_nil]
    exact ⟨hheld, hpromised, hcondemns, h.kept⟩
  · refine ⟨hheld, ?_, hcondemns, ?_⟩
    · intro j n at' before after he
      exact hpromised j n at' before after (by simpa using he)
    · refine List.pairwise_append.mpr ⟨h.kept, List.pairwise_singleton _ _, ?_⟩
      simpa using h.expired hengine hwon

lemma Sworn.step (h : s.Sworn c trace) (hspared : s.sparesCondemned input)
    (hs : s.step input = some (s', es)) : s'.Sworn c (trace ++ es) := by
  have hheld := h.held.step hs
  cases input with
  | wait =>
    cases hs
    rw [List.append_nil]
    refine ⟨hheld, fun k n now before after he => ?_, h.condemns, h.kept⟩
    obtain ⟨hn, hnow, hpromise⟩ := h.promised k n now before after he
    exact ⟨hn, hnow.trans (Nat.le_add_right _ _), hpromise⟩
  | «open» k request fresh =>
    obtain ⟨⟨-, hvacant, -⟩, rfl, rfl⟩ := of_guard hs
    rw [List.append_nil]
    exact ⟨hheld, h.promised.claim (s.publisher.lease_claimSeat k request fresh),
      h.condemns.claim hvacant _, h.kept⟩
  | renew request =>
    cases hs
    exact ⟨hheld, h.promised.answer h.held, h.condemns.renew hspared.2,
      pairwise_answer h.kept request⟩
  | close request =>
    cases hs
    rw [List.append_nil]
    exact ⟨hheld, h.promised.prolong (by rw [h.held.config])
      (s.publisher.prolongs_handleClose s.clock request) s.engine s.visited,
      h.condemns.close request, h.kept⟩
  | _ =>
    simp only [LeaseState.step] at hs
    exact h.sweepStep hs

lemma sworn_start {serverEpochId : UInt64} {workerAddress : ByteString.Bytes} {clock : ℕ}
    (hvalid : c.validate = .ok) : (start c serverEpochId workerAddress clock).Sworn c [] :=
  ⟨held_start hvalid, fun _ _ _ _ _ he => absurd he List.not_mem_nil, .of_none rfl, .nil⟩

end LeaseState

/-- An Ok to a Renew is good for a lease time, if no Renew of a session comes between the sweep's
reading of its passed deadline and `begin_expiry`. -/
theorem lease_promise_kept (c : PublisherConfig) (serverEpochId : UInt64)
    (workerAddress : ByteString.Bytes) (clock : ℕ) (hvalid : c.validate = .ok)
    {trace : List LeaseEvent} {s : LeaseState}
    (hrun : leaseMachine.Reaches LeaseState.sparesCondemned
      (.start c serverEpochId workerAddress clock) trace s) :
    trace.Pairwise (LeaseEvent.keepsPromise c.leaseTtlMs.toNat) := by
  have hsworn := hrun.traceInvariant (LeaseState.Sworn c) (LeaseState.sworn_start hvalid)
    fun _ _ _ _ _ h hok hs => h.step hok hs
  exact hsworn.kept

theorem lease_promise_kept_sample :
    ∃ trace s, leaseMachine.Reaches LeaseState.sparesCondemned (.start shortLease 7 [1] 0)
      trace s ∧ trace = [.renewed 0 1 500 .ok 1000 1500, .expired 0 1 1500,
        .renewed 0 1 1500 .sessionExpired 1500 1500] ∧
      trace.Pairwise (LeaseEvent.keepsPromise shortLease.leaseTtlMs.toNat) := by
  obtain ⟨trace, s, hrun, htrace⟩ := leaseMachine.exists_of_run LeaseState.sparesCondemned
    (.start shortLease 7 [1] 0) sweptRun (P := fun _ t => t = [.renewed 0 1 500 .ok 1000 1500,
      .expired 0 1 1500, .renewed 0 1 1500 .sessionExpired 1500 1500]) (by decide +kernel)
  exact ⟨trace, s, hrun, htrace,
    lease_promise_kept shortLease 7 [1] 0 (by decide +kernel) hrun⟩

/-- The sweep has read the old deadline when the Renew is answered Ok, and ends the session. -/
theorem lease_promise_broken :
    shortLease.validate = .ok ∧ ∃ trace s,
      leaseMachine.Reaches anyStep (.start shortLease 7 [1] 0) trace s ∧
        trace = [.renewed 0 1 1000 .ok 1000 2000, .expired 0 1 1000] :=
  ⟨by decide +kernel, leaseMachine.exists_of_run anyStep (.start shortLease 7 [1] 0)
    [.open 0 sampleOpen (sampleFresh 1), .wait 1000, .startSweep, .look, .renew shortRenewal,
      .expire] (by decide +kernel)⟩

end TangoBulk
