import TangoBulk.PublisherMachine

/-! Renewals of one session under the rate limit: a tumbling window of one lease time, with a
quota that does not depend on the renewal interval. -/
namespace TangoBulk

open Transition

lemma PublisherConfig.validate_lease {c : PublisherConfig} (h : c.validate = .ok) :
    0 < c.leaseTtlMs.toNat ∧ 2 * c.renewIntervalMs.toNat ≤ c.leaseTtlMs.toNat ∧
      2 ≤ c.maxRenewalsPerTtl.toNat := by
  obtain ⟨-, -, -, -, -, httl, hinterval, hquota, -⟩ := PublisherConfig.validate_eq_ok.mp h
  simp only [not_or, UInt32.not_lt] at httl hinterval hquota
  have httl := UInt32.le_iff_toNat_le.mp httl.1
  have hinterval := UInt32.le_iff_toNat_le.mp hinterval.2
  have hquota := UInt32.le_iff_toNat_le.mp hquota.1
  simp only [kMinLeaseTtlMs, kMinRenewalsPerTtl, UInt32.toNat_div, UInt32.toNat_ofNat,
    Nat.reducePow, Nat.reduceMod] at httl hinterval hquota
  omega

namespace Publisher

variable {p : Publisher} {k now : ℕ}

lemma elapsedMs_of_le {since : ℕ} (h : since ≤ now) (hnow : now < 2 ^ 64) :
    elapsedMs now since = now - since := by
  unfold elapsedMs
  omega

lemma sessionForId_congr {p' : Publisher} (hconfig : p'.config = p.config)
    (hsame : ∀ j, (p'.sessions j).state = (p.sessions j).state ∧
      (p'.sessions j).id = (p.sessions j).id) (id : SessionId) :
    p'.sessionForId id = p.sessionForId id := by
  simp only [sessionForId, seats, hconfig, hsame]

lemma config_renewLease (p : Publisher) (k now : ℕ) : (p.renewLease k now).2.config = p.config := by
  simp only [renewLease]
  split_ifs <;> rfl

lemma renewLease_same (p : Publisher) (k now j : ℕ) :
    ((p.renewLease k now).2.sessions j).state = (p.sessions j).state ∧
      ((p.renewLease k now).2.sessions j).id = (p.sessions j).id := by
  by_cases hj : j = k
  · subst hj
    simp only [renewLease]
    split_ifs <;> simp [bump]
  · simp only [renewLease]
    split_ifs <;> simp [bump, setSession_of_ne _ _ hj]

lemma renewLease_reopens (hquota : 0 < p.config.maxRenewalsPerTtl.toNat)
    (hout : p.config.leaseTtlMs.toNat ≤ elapsedMs now (p.sessions k).rateWindowStartMs) :
    let s := (p.renewLease k now).2.sessions k
    s.rateWindowStartMs = now ∧ s.renewalsInWindow = 1 ∧
      s.deadlineMs = now + p.config.leaseTtlMs.toNat := by
  simp [renewLease, hout, hquota.ne', bump]

lemma renewLease_counts
    (hin : elapsedMs now (p.sessions k).rateWindowStartMs < p.config.leaseTtlMs.toNat)
    (hquota : (p.sessions k).renewalsInWindow < p.config.maxRenewalsPerTtl.toNat) :
    let s := (p.renewLease k now).2.sessions k
    s.rateWindowStartMs = (p.sessions k).rateWindowStartMs ∧
      s.renewalsInWindow = (p.sessions k).renewalsInWindow + 1 ∧
      s.deadlineMs = now + p.config.leaseTtlMs.toNat := by
  simp [renewLease, Nat.not_le.mpr hin, Nat.not_le.mpr hquota, bump]

lemma renewLease_refuses
    (hin : elapsedMs now (p.sessions k).rateWindowStartMs < p.config.leaseTtlMs.toNat)
    (hquota : p.config.maxRenewalsPerTtl.toNat ≤ (p.sessions k).renewalsInWindow) :
    (p.renewLease k now).2.sessions k = p.sessions k := by
  simp [renewLease, Nat.not_le.mpr hin, hquota, bump]

lemma handleRenew_live {request : RenewRequest} (hfound : p.sessionForId request.sessionId = some k)
    (hlive : (p.sessions k).state.live = true) :
    (p.handleRenew request now).2 = (p.renewLease k now).2 ∧
      (p.handleRenew request now).1.status = (p.renewLease k now).1 := by
  have hnot : ¬((p.sessions k).state = .expiring ∨ (p.sessions k).state = .closed) := by
    rintro (h | h) <;> simp [h, SessionState.live] at hlive
  simp [handleRenew, hfound, hnot]

end Publisher

/-! ### Arrivals -/

/-- `arrived` is the time of the last arrival, at first that of the Open. -/
structure RenewalState where
  publisher : Publisher
  arrived : ℕ

/-- One arrival, with the deadline it finds. -/
structure RenewalArrival where
  now : ℕ
  deadlineMs : ℕ
  deriving DecidableEq

/-- The Renews of the session in seat `k`, each processed as it arrives. -/
def renewalMachine (k : ℕ) (request : RenewRequest) : Machine RenewalState ℕ RenewalArrival where
  step s now :=
    if s.arrived ≤ now then
      some ({ publisher := (s.publisher.handleRenew request now).2, arrived := now },
        [{ now := now, deadlineMs := (s.publisher.sessions k).deadlineMs }])
    else none

/-- The state right after the Open that claims seat `k`. -/
def RenewalState.opened (p : Publisher) (k : ℕ) (request : OpenRequest)
    (fresh : Publisher.Fresh) : RenewalState where
  publisher := p.claimSeat k request fresh
  arrived := fresh.now

/-- At most one renewal interval after the last arrival. -/
def RenewalState.diligent (s : RenewalState) (now : ℕ) : Prop :=
  now ≤ s.arrived + s.publisher.config.renewIntervalMs.toNat

/-- The last renewal that the quota of a rate window admits comes at least a renewal interval
after the window's start, and the clock does not run out. -/
def RenewalState.paced (k : ℕ) (s : RenewalState) (now : ℕ) : Prop :=
  let c := s.publisher.config
  let session := s.publisher.sessions k
  now + c.leaseTtlMs.toNat < 2 ^ 64 ∧
    (now < session.rateWindowStartMs + c.leaseTtlMs.toNat →
      session.renewalsInWindow + 1 = c.maxRenewalsPerTtl.toNat →
      session.rateWindowStartMs + c.renewIntervalMs.toNat ≤ now)

instance (s : RenewalState) (now : ℕ) : Decidable (s.diligent now) := by
  unfold RenewalState.diligent
  infer_instance

instance (k : ℕ) (s : RenewalState) (now : ℕ) : Decidable (s.paced k now) := by
  unfold RenewalState.paced
  infer_instance

/-- Between arrivals: either the quota lasts and the last arrival set the deadline, or it is used
up and the renewal that used it up set a deadline beyond the next window's first arrival. -/
structure RenewalState.OnTime (k : ℕ) (request : RenewRequest) (s : RenewalState) : Prop where
  valid : s.publisher.config.validate = .ok
  found : s.publisher.sessionForId request.sessionId = some k
  live : (s.publisher.sessions k).state.live = true
  started : (s.publisher.sessions k).rateWindowStartMs ≤ s.arrived
  lease : ((s.publisher.sessions k).renewalsInWindow <
        s.publisher.config.maxRenewalsPerTtl.toNat ∧
      (s.publisher.sessions k).deadlineMs = s.arrived + s.publisher.config.leaseTtlMs.toNat) ∨
    ((s.publisher.sessions k).renewalsInWindow = s.publisher.config.maxRenewalsPerTtl.toNat ∧
      (s.publisher.sessions k).rateWindowStartMs + s.publisher.config.renewIntervalMs.toNat +
        s.publisher.config.leaseTtlMs.toNat ≤ (s.publisher.sessions k).deadlineMs ∧
      s.arrived < (s.publisher.sessions k).rateWindowStartMs +
        s.publisher.config.leaseTtlMs.toNat)

namespace RenewalState

variable {k now : ℕ} {request : RenewRequest} {s : RenewalState}

lemma onTime_opened {p : Publisher} {k : ℕ} {openRequest : OpenRequest}
    {fresh : Publisher.Fresh} (hvalid : p.config.validate = .ok)
    (hfound : (p.claimSeat k openRequest fresh).sessionForId request.sessionId = some k) :
    (opened p k openRequest fresh).OnTime k request where
  valid := hvalid
  found := hfound
  live := by simp [opened, Publisher.claimSeat, Publisher.claimedSession, Publisher.bump,
    SessionState.live]
  started := by simp [opened, Publisher.claimSeat, Publisher.claimedSession, Publisher.bump]
  lease := by
    obtain ⟨-, -, hquota⟩ := PublisherConfig.validate_lease hvalid
    left
    simp only [opened, Publisher.claimSeat, Publisher.claimedSession, Publisher.bump,
      Publisher.setSession_self]
    exact ⟨by simp only [Publisher.setSession]; omega, rfl⟩

lemma OnTime.in_time (h : s.OnTime k request) (hdiligent : s.diligent now) :
    now < (s.publisher.sessions k).deadlineMs := by
  obtain ⟨httl, hinterval, -⟩ := PublisherConfig.validate_lease h.valid
  unfold diligent at hdiligent
  rcases h.lease with ⟨-, hdeadline⟩ | ⟨-, hdeadline, harrived⟩ <;> omega

lemma OnTime.renewed (h : s.OnTime k request)
    (hstarted : ((s.publisher.renewLease k now).2.sessions k).rateWindowStartMs ≤ now)
    (hlease : (((s.publisher.renewLease k now).2.sessions k).renewalsInWindow <
          s.publisher.config.maxRenewalsPerTtl.toNat ∧
        ((s.publisher.renewLease k now).2.sessions k).deadlineMs =
          now + s.publisher.config.leaseTtlMs.toNat) ∨
      (((s.publisher.renewLease k now).2.sessions k).renewalsInWindow =
          s.publisher.config.maxRenewalsPerTtl.toNat ∧
        ((s.publisher.renewLease k now).2.sessions k).rateWindowStartMs +
          s.publisher.config.renewIntervalMs.toNat + s.publisher.config.leaseTtlMs.toNat ≤
          ((s.publisher.renewLease k now).2.sessions k).deadlineMs ∧
        now < ((s.publisher.renewLease k now).2.sessions k).rateWindowStartMs +
          s.publisher.config.leaseTtlMs.toNat)) :
    OnTime k request ⟨(s.publisher.handleRenew request now).2, now⟩ := by
  rw [(Publisher.handleRenew_live h.found h.live).1]
  have hconfig := Publisher.config_renewLease s.publisher k now
  have hsame := Publisher.renewLease_same s.publisher k now
  refine ⟨hconfig ▸ h.valid, ?_, ?_, hstarted, hconfig ▸ hlease⟩
  · exact (Publisher.sessionForId_congr hconfig hsame _).trans h.found
  · rw [(hsame k).1]
    exact h.live

lemma OnTime.step (h : s.OnTime k request) (hpaced : s.paced k now) (hnow : s.arrived ≤ now) :
    OnTime k request ⟨(s.publisher.handleRenew request now).2, now⟩ := by
  obtain ⟨httl, -, hquota⟩ := PublisherConfig.validate_lease h.valid
  obtain ⟨hclock, hpace⟩ := hpaced
  have hstarted := h.started
  have helapsed := Publisher.elapsedMs_of_le (hstarted.trans hnow) (by omega)
  rcases Nat.lt_or_ge (Publisher.elapsedMs now (s.publisher.sessions k).rateWindowStartMs)
    s.publisher.config.leaseTtlMs.toNat with hin | hout
  · rcases h.lease with ⟨hleft, -⟩ | ⟨hused, hdeadline, -⟩
    · -- inside the window with quota left: only the renewal that uses it up needs its pace
      obtain ⟨hstart, hcount, hset⟩ := Publisher.renewLease_counts hin hleft
      refine h.renewed (by omega) ?_
      rw [hstart, hcount, hset]
      by_cases hlast : (s.publisher.sessions k).renewalsInWindow + 1 =
          s.publisher.config.maxRenewalsPerTtl.toNat
      · have := hpace (by omega) hlast
        exact Or.inr ⟨hlast, by omega, by omega⟩
      · exact Or.inl ⟨by omega, rfl⟩
    · have hkept := Publisher.renewLease_refuses hin hused.ge
      refine h.renewed (by rw [hkept]; omega) ?_
      rw [hkept]
      exact Or.inr ⟨hused, hdeadline, by omega⟩
  · obtain ⟨hstart, hcount, hset⟩ := Publisher.renewLease_reopens (by omega) hout
    refine h.renewed hstart.le ?_
    rw [hcount, hset]
    exact Or.inl ⟨by omega, rfl⟩

end RenewalState

/-- A client that renews at least once per interval finds its deadline ahead at every arrival,
if the renewals that use up a rate window's quota are not all in the window's first interval. -/
theorem diligent_renewals_in_time (p : Publisher) (k : ℕ) (openRequest : OpenRequest)
    (fresh : Publisher.Fresh) (request : RenewRequest) (hvalid : p.config.validate = .ok)
    (hfound : (p.claimSeat k openRequest fresh).sessionForId request.sessionId = some k)
    {trace : List RenewalArrival} {s : RenewalState}
    (hrun : (renewalMachine k request).Reaches (fun s now => s.diligent now ∧ s.paced k now)
      (.opened p k openRequest fresh) trace s) :
    ∀ arrival ∈ trace, arrival.now < arrival.deadlineMs := by
  refine hrun.events (RenewalState.OnTime k request) _
    (RenewalState.onTime_opened hvalid hfound) ?_
  intro s now s' es h hok hs
  obtain ⟨hnow, rfl, rfl⟩ := of_guard hs
  refine ⟨h.step hok.2 hnow, ?_⟩
  simpa using h.in_time hok.1

/-- The shortest lease, renewed twice per lease time. -/
def shortLease : PublisherConfig :=
  { sampleConfig with leaseTtlMs := 1000, renewIntervalMs := 500, maxRenewalsPerTtl := 2 }

def shortRenewal : RenewRequest where
  sessionId := (sampleFresh 1).id
  clientFramesDelivered := 0
  clientCreditsReturned := 0
  clientState := 3

theorem diligent_renewals_in_time_sample :
    ∃ trace s, (renewalMachine 0 shortRenewal).Reaches
      (fun s now => s.diligent now ∧ s.paced 0 now)
      (.opened (Publisher.create shortLease 7 [1]) 0 sampleOpen (sampleFresh 1)) trace s ∧
      trace.length = 4 ∧ ∀ arrival ∈ trace, arrival.now < arrival.deadlineMs := by
  obtain ⟨trace, s, hrun, hlen⟩ := (renewalMachine 0 shortRenewal).exists_of_run
    (fun s now => s.diligent now ∧ s.paced 0 now)
    (.opened (Publisher.create shortLease 7 [1]) 0 sampleOpen (sampleFresh 1))
    [1, 501, 900, 1400] (P := fun _ t => t.length = 4) (by decide +kernel)
  exact ⟨trace, s, hrun, hlen, diligent_renewals_in_time _ 0 sampleOpen (sampleFresh 1)
    shortRenewal (by decide +kernel) (by decide +kernel) hrun⟩

/-- Two renewals right after the Open use up the quota, and the next one that would count comes
when the lease has run out. -/
theorem early_renewals_cost_lease :
    shortLease.validate = .ok ∧
      ((Publisher.create shortLease 7 [1]).claimSeat 0 sampleOpen (sampleFresh 1)).sessionForId
        shortRenewal.sessionId = some 0 ∧
      ∃ trace s, (renewalMachine 0 shortRenewal).Reaches (fun s now => s.diligent now)
        (.opened (Publisher.create shortLease 7 [1]) 0 sampleOpen (sampleFresh 1)) trace s ∧
        { now := 1002, deadlineMs := 1002 } ∈ trace :=
  ⟨by decide +kernel, by decide +kernel,
    (renewalMachine 0 shortRenewal).exists_of_run (fun s now => s.diligent now)
      (.opened (Publisher.create shortLease 7 [1]) 0 sampleOpen (sampleFresh 1))
      [1, 2, 502, 1002] (by decide +kernel)⟩

end TangoBulk
