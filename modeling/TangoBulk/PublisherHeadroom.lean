import TangoBulk.PublisherStrict

/-! Admission at rest. When nothing is on its way only a publish can move the publisher, so the
gauges must admit it. -/
namespace TangoBulk

open ByteString Transition Function

/-! ### Gauges -/

namespace Publisher

variable {p p' : Publisher}

/-- What the gauges are computed from: for each armed session the ordinal it has got to and its
credit window. -/
def standings (p : Publisher) : List (ℕ × ℕ) :=
  p.armedSeats.map fun k =>
    (p.retiredOrdinal (p.sessions k), (p.sessions k).geometry.creditWindow.toNat)

/-- The gauges are what a refresh would make them, as far as admission with an armed session
reads them. -/
structure Current (p : Publisher) : Prop where
  limit : p.standings ≠ [] → p.allActiveAdmissionLimit =
    p.standings.foldl (fun limit r => min limit (r.1 + r.2)) (2 ^ 64 - 1)
  credited : p.standings ≠ [] → p.config.fanoutMode = .bestEffort →
    p.credited = p.standings.foldl (fun best r => max best r.1) 0

lemma current_refreshGauges (p : Publisher) : p.refreshGauges.Current := by
  have hne : p.refreshGauges.standings ≠ [] → p.armedSeats ≠ [] := by
    intro hs hempty
    exact hs (List.map_eq_nil_iff.mpr hempty)
  refine ⟨fun hs => ?_, fun hs hmode => ?_⟩
  · simp only [standings, List.foldl_map]
    simp only [refreshGauges, if_neg (hne hs)]
    rfl
  · have hstrict : ¬p.config.fanoutMode = .allActive := by
      rw [show p.config.fanoutMode = .bestEffort from hmode]
      simp
    simp only [standings, List.foldl_map]
    change (p.refreshGauges).credited = _
    simp only [refreshGauges, if_neg (hne hs), if_neg hstrict, List.foldl_map]
    rfl

lemma standings_congr (hconfig : p'.config = p.config)
    (heligible : ∀ k ∈ p.seats, (p'.sessions k).state.eligible = (p.sessions k).state.eligible)
    (hsame : ∀ k ∈ p.seats, (p.sessions k).state.eligible = true →
      (p'.sessions k).window = (p.sessions k).window ∧
      (p'.sessions k).inflight = (p.sessions k).inflight ∧
      (p'.sessions k).processedOrdinal = (p.sessions k).processedOrdinal ∧
      (p'.sessions k).geometry = (p.sessions k).geometry) : p'.standings = p.standings := by
  have hseats : p'.seats = p.seats := by simp only [seats, hconfig]
  have harmed : p'.armedSeats = p.armedSeats := by
    unfold armedSeats
    rw [hseats]
    exact List.filter_congr fun k hk => heligible k hk
  unfold standings
  rw [harmed]
  refine List.map_congr_left fun k hk => ?_
  obtain ⟨hk, helig⟩ := List.mem_filter.mp hk
  obtain ⟨hwindow, hinflight, hprocessed, hgeometry⟩ := hsame k hk helig
  simp only [retiredOrdinal, depth, hconfig, hwindow, hinflight, hprocessed, hgeometry]

lemma Current.congr (h : p.Current) (hconfig : p'.config = p.config)
    (hgauges : p'.gauges = p.gauges) (hstandings : p'.standings = p.standings) : p'.Current := by
  have hlimit : p'.allActiveAdmissionLimit = p.allActiveAdmissionLimit :=
    congrArg Prod.snd hgauges
  have hcredited : p'.credited = p.credited := congrArg Prod.fst hgauges
  refine ⟨?_, ?_⟩
  · rw [hlimit, hstandings]
    exact h.limit
  · rw [hcredited, hstandings, hconfig]
    exact h.credited

/-- Some session waits for its teardown, after which the gauges are refreshed, or they are
current. -/
def Settling (p : Publisher) : Prop :=
  (∃ k ∈ p.seats, (p.sessions k).state = .expiring) ∨ p.Current

lemma Settling.steady (h : p.Settling) (hconfig : p'.config = p.config)
    (hs : p.Steady p') : p'.Settling := by
  have hseats : p'.seats = p.seats := by simp only [seats, hconfig]
  by_cases hexpiring : ∃ k ∈ p'.seats, (p'.sessions k).state = .expiring
  · exact .inl hexpiring
  · have hstate : ∀ k ∈ p.seats, (p'.sessions k).state = (p.sessions k).state := by
      intro k hk
      rcases (hs.sessions k).state with hsame | ⟨-, hended⟩
      · exact hsame
      · exact absurd ⟨k, hseats ▸ hk, hended⟩ hexpiring
    rcases h with ⟨k, hk, hended⟩ | hcurrent
    · exact absurd ⟨k, hseats ▸ hk, (hstate k hk).trans hended⟩ hexpiring
    · refine .inr (hcurrent.congr hconfig hs.gauges (standings_congr hconfig ?_ ?_))
      · intro k hk
        rw [hstate k hk]
      · intro k hk _
        have hu := hs.sessions k
        exact ⟨hu.window, hu.inflight, hu.processed, hu.geometry⟩

lemma Settling.drifts (h : p.Settling) (hd : p.Drifts p') : p'.Settling := by
  rcases hd.gauges with hs | ⟨q, rfl⟩
  · exact h.steady (congrArg Ledger.config hd.ledger) hs
  · exact .inr q.current_refreshGauges

lemma Settling.claimSeat {k : ℕ} {request : OpenRequest} {fresh : Fresh} (h : p.Settling)
    (hvacant : (p.sessions k).state = .unknown ∨ (p.sessions k).state = .closed) :
    (p.claimSeat k request fresh).Settling := by
  have hother : ∀ j, j ≠ k → (p.claimSeat k request fresh).sessions j = p.sessions j :=
    fun j hj => p.setSession_of_ne _ hj
  have hself : (p.claimSeat k request fresh).sessions k =
      p.claimedSession (p.sessions k) request fresh := p.setSession_self k _
  rcases h with ⟨j, hj, hended⟩ | hcurrent
  · have hjk : j ≠ k := by
      rintro rfl
      rcases hvacant with hv | hv <;> simp [hv] at hended
    exact .inl ⟨j, hj, by rw [hother j hjk]; exact hended⟩
  · have hidle : (p.sessions k).state.eligible = false := by
      rcases hvacant with hv | hv <;> simp [hv, SessionState.eligible]
    refine .inr (hcurrent.congr rfl rfl (standings_congr rfl ?_ ?_))
    · intro j _
      by_cases hj : j = k
      · subst hj
        rw [hself, hidle]
        rfl
      · rw [hother j hj]
    · intro j _ helig
      have hj : j ≠ k := by
        rintro rfl
        rw [hidle] at helig
        cases helig
      rw [hother j hj]
      exact ⟨rfl, rfl, rfl, rfl⟩

/-- The window that admission adds to the session's ordinal is wide enough for two frames. -/
def roomy (p : Publisher) (k : ℕ) : Bool :=
  2 ≤ if p.config.fanoutMode = .allActive then (p.sessions k).geometry.creditWindow.toNat
    else p.config.creditWindow.toNat

lemma roomy_congr {k : ℕ} (hconfig : p'.config = p.config)
    (hgeometry : (p'.sessions k).geometry = (p.sessions k).geometry) : p'.roomy k = p.roomy k := by
  simp only [roomy, hconfig, hgeometry]

lemma Drift.eligible {s s' : Session} (h : Drift p s s') (helig : s'.state.eligible = true) :
    s.state.eligible = true ∧ s'.processedOrdinal = s.processedOrdinal ∧
      s'.geometry = s.geometry := by
  cases h with
  | undisturbed h =>
    rcases h.state with hstate | ⟨-, hstate⟩
    · exact ⟨hstate ▸ helig, h.processed, h.geometry⟩
    · simp [hstate, SessionState.eligible] at helig
  | credited => exact ⟨helig, rfl, rfl⟩
  | retired => simp [retiredSession, SessionState.eligible] at helig

lemma fanSession_eligible {item : PublishItem} {answer : SendAnswer} {s : Session}
    (h : (p.fanSession item answer s).state.eligible = true) :
    s.state.eligible = true ∧
      (p.fanSession item answer s).processedOrdinal = item.ordinal + 1 ∧
      (p.fanSession item answer s).geometry = s.geometry := by
  by_cases helig : s.state.eligible = true
  swap
  · rw [fanSession_of_ineligible _ _ _ helig] at h
    exact absurd h helig
  refine ⟨helig, ?_⟩
  unfold fanSession
  split_ifs
  · simp_all
  · exact ⟨rfl, rfl⟩
  · cases answer with
    | refused =>
      have hended := endedSession_undisturbed
        (p.recordedSession { s with processedOrdinal := item.ordinal + 1 } item) .transport
      exact ⟨hended.processed, hended.geometry⟩
    | completed | pending => exact ⟨rfl, rfl⟩

end Publisher

/-! ### Level sessions -/

namespace FanoutState

open Publisher

/-- The oldest ordinal that is still to be fanned out. -/
def oldest (s : FanoutState) : ℕ := s.bound - s.ordinals.length

/-- The session of seat `k` has got to the oldest frame on its way, or is one behind and has the
room for it. -/
structure Near (s : FanoutState) (k : ℕ) : Prop where
  above : (s.publisher.sessions k).processedOrdinal ≤ max s.oldest s.publisher.admitted
  level : s.oldest ≤ (s.publisher.sessions k).processedOrdinal ∨
    s.oldest ≤ (s.publisher.sessions k).processedOrdinal + 1 ∧ s.publisher.roomy k = true

/-- The frames on their way have consecutive ordinals, and the armed sessions are level with
them. -/
structure Level (s : FanoutState) : Prop where
  config : s.publisher.config.Valid
  loaded : ∀ i resolved a c, s.stage = .loaded i resolved a c → a = s.publisher.admitted
  counted : s.ordinals.length ≤ s.bound
  consecutive : s.ordinals = List.range' s.oldest s.ordinals.length
  near : ∀ k ∈ s.publisher.seats, (s.publisher.sessions k).state.eligible = true →
    s.arming ≠ .swapped k → s.Near k
  granted : ∀ k, (s.publisher.sessions k).state.live = true →
    1 ≤ (s.publisher.sessions k).geometry.creditWindow.toNat
  small : s.publisher.admitted + 2 ^ 32 ≤ 2 ^ 64
  gauges : s.arming = .idle → s.publisher.Settling

variable {s s' : FanoutState} {p' : Publisher}

variable {k i : ℕ} {item : PublishItem}

lemma Near.congr (h : s.Near k) (hconfig : s'.publisher.config = s.publisher.config)
    (hgeometry : (s'.publisher.sessions k).geometry = (s.publisher.sessions k).geometry)
    (hprocessed :
      (s'.publisher.sessions k).processedOrdinal = (s.publisher.sessions k).processedOrdinal)
    (holdest : s'.oldest = s.oldest) (hcount : s.publisher.admitted ≤ s'.publisher.admitted) :
    s'.Near k := by
  obtain ⟨habove, hlevel⟩ := h
  refine ⟨?_, ?_⟩
  · rw [hprocessed, holdest]
    exact habove.trans (max_le_max_left _ hcount)
  · rw [hprocessed, holdest, roomy_congr hconfig hgeometry]
    exact hlevel

lemma Level.publishing (h : s.Level) {stage : PublishStage}
    (hconfig : p'.config = s.publisher.config) (hsessions : p'.sessions = s.publisher.sessions)
    (hgauges : p'.gauges = s.publisher.gauges) (hcount : s.publisher.admitted ≤ p'.admitted)
    (hsmall : p'.admitted + 2 ^ 32 ≤ 2 ^ 64)
    (hloaded : ∀ i resolved a c, stage = .loaded i resolved a c → a = p'.admitted)
    (hlength : { s with publisher := p', stage := stage }.ordinals.length ≤
      { s with publisher := p', stage := stage }.bound)
    (holdest : { s with publisher := p', stage := stage }.oldest = s.oldest)
    (hordinals : { s with publisher := p', stage := stage }.ordinals =
      List.range' s.oldest { s with publisher := p', stage := stage }.ordinals.length) :
    Level { s with publisher := p', stage := stage } := by
  have hseats : p'.seats = s.publisher.seats := by simp only [seats, hconfig]
  refine ⟨hconfig ▸ h.config, hloaded, hlength, ?_, fun k hk helig hsw => ?_, ?_, hsmall, ?_⟩
  · rw [holdest]
    exact hordinals
  · rw [hsessions] at helig
    refine (h.near k (hseats ▸ hk) helig hsw).congr hconfig ?_ ?_ holdest hcount
    all_goals rw [hsessions]
  · rw [hsessions]
    exact h.granted
  · intro harm
    exact (h.gauges harm).steady hconfig ⟨hgauges, fun j => by rw [hsessions]; exact .refl _⟩

lemma Level.rescreen (h : s.Level) (screened : List (ℕ × FrameMetadata)) :
    Level { s with screened := screened } := by
  refine ⟨h.config, h.loaded, h.counted, h.consecutive, fun k hk helig hsw => ?_, h.granted,
    h.small, h.gauges⟩
  exact (h.near k hk helig hsw).congr rfl rfl rfl rfl le_rfl

lemma Level.restage (h : s.Level) {stage : PublishStage} (hold : s.stage.taken = 0)
    (hnew : stage.taken = 0)
    (hloaded : ∀ i resolved a c, stage = .loaded i resolved a c → a = s.publisher.admitted) :
    Level { s with stage := stage } := by
  have hordinals : { s with stage := stage }.ordinals = s.ordinals := by
    simp only [ordinals, PublishStage.assigned_nil hold, PublishStage.assigned_nil hnew]
  have hbound : { s with stage := stage }.bound = s.bound := by simp only [bound, hold, hnew]
  have holdest : { s with stage := stage }.oldest = s.oldest := by
    simp only [oldest, hordinals, hbound]
  refine h.publishing rfl rfl rfl le_rfl h.small hloaded ?_ holdest ?_
  · rw [hordinals, hbound]
    exact h.counted
  · rw [hordinals]
    exact h.consecutive

lemma Level.decided (h : s.Level) {a c : ℕ} {resolved : FrameMetadata}
    (hst : s.stage = .loaded i resolved a c) (hitem : item.ordinal = a) :
    Level { s with stage := .admitting i item } := by
  have ha := h.loaded i resolved a c hst
  have hordinals : { s with stage := .admitting i item }.ordinals = s.ordinals ++ [a] := by
    simp [ordinals, hst, PublishStage.assigned, hitem]
  have hbound : s.bound = a := by simp [bound, hst, PublishStage.taken, ha]
  have hnext : { s with stage := .admitting i item }.bound = a + 1 := by
    simp [bound, PublishStage.taken, ha]
  have hcounted := h.counted
  have holdest : { s with stage := .admitting i item }.oldest = s.oldest := by
    simp only [oldest, hordinals, hbound, hnext, List.length_append, List.length_singleton]
    omega
  refine h.publishing rfl rfl rfl le_rfl h.small (by simp) ?_ holdest
    ?_
  · rw [hordinals, hnext, List.length_append, List.length_singleton]
    omega
  · have hlast : s.oldest + s.ordinals.length = a := by
      unfold oldest
      omega
    rw [hordinals, List.length_append, List.length_singleton, List.range'_1_concat, hlast,
      ← h.consecutive]

lemma Level.notPushed (h : s.Level) (hst : s.stage = .admitting i item) (result : PublishResult) :
    Level { s with stage := .refused i result } := by
  have hordinals : s.ordinals =
      { s with stage := PublishStage.refused i result }.ordinals ++ [item.ordinal] := by
    simp [ordinals, hst, PublishStage.assigned]
  have hbound : s.bound = { s with stage := PublishStage.refused i result }.bound + 1 := by
    simp [bound, hst, PublishStage.taken]
  have hlength : s.ordinals.length =
      { s with stage := PublishStage.refused i result }.ordinals.length + 1 := by
    rw [hordinals, List.length_append, List.length_singleton]
  have hcounted := h.counted
  have hconsecutive := h.consecutive
  rw [hlength, List.range'_1_concat, hordinals] at hconsecutive
  have holdest : { s with stage := PublishStage.refused i result }.oldest = s.oldest := by
    simp only [oldest, hbound, hlength]
    omega
  refine h.publishing rfl rfl rfl le_rfl h.small (by simp) ?_ holdest
    (List.append_inj hconsecutive (by simp)).1
  omega

lemma Level.pushed (h : s.Level) {queue : Fifo PublishItem} (hst : s.stage = .admitting i item)
    (hpush : s.publisher.publishQueue.push item = some queue) :
    Level { s with publisher := { s.publisher with publishQueue := queue },
                   stage := .pushed i item } := by
  have hitems := (Fifo.push_eq_some.mp hpush).2.1
  have hordinals : { s with publisher := { s.publisher with publishQueue := queue },
                            stage := PublishStage.pushed i item }.ordinals = s.ordinals := by
    simp [ordinals, hst, PublishStage.assigned, hitems]
  have hbound : { s with publisher := { s.publisher with publishQueue := queue },
                         stage := PublishStage.pushed i item }.bound = s.bound := by
    simp [bound, hst, PublishStage.taken]
  refine h.publishing rfl rfl rfl le_rfl h.small (by simp) ?_ ?_ ?_
  · rw [hordinals, hbound]
    exact h.counted
  · simp only [oldest, hordinals, hbound]
  · rw [hordinals]
    exact h.consecutive

lemma Level.accepted (h : s.Level) (hst : s.stage = .pushed i item)
    (hsmall : s.publisher.admitted + 1 + 2 ^ 32 ≤ 2 ^ 64) :
    Level { s with publisher := s.publisher.acceptPublish i, stage := .accepted item } := by
  have hordinals : { s with publisher := s.publisher.acceptPublish i,
                            stage := PublishStage.accepted item }.ordinals = s.ordinals := by
    simp only [ordinals, hst, PublishStage.assigned]
    rfl
  have hbound : { s with publisher := s.publisher.acceptPublish i,
                         stage := PublishStage.accepted item }.bound = s.bound := by
    simp only [bound, hst, PublishStage.taken]
    rfl
  refine h.publishing rfl rfl rfl (Nat.le_succ _) hsmall (by simp)
    ?_ ?_ ?_
  · rw [hordinals, hbound]
    exact h.counted
  · simp only [oldest, hordinals, hbound]
  · rw [hordinals]
    exact h.consecutive

/-! ### Sessions that change -/

lemma Level.drifts (h : s.Level) (hd : s.publisher.Drifts p') :
    Level { s with publisher := p' } := by
  have hconfig : p'.config = s.publisher.config := congrArg Ledger.config hd.ledger
  have hcount : p'.admitted = s.publisher.admitted := congrArg Ledger.admitted hd.ledger
  have hqueue : p'.publishQueue = s.publisher.publishQueue :=
    congrArg Ledger.publishQueue hd.ledger
  have hseats : p'.seats = s.publisher.seats := by simp only [seats, hconfig]
  have hordinals : { s with publisher := p' }.ordinals = s.ordinals := by
    simp only [ordinals, hqueue]
  have hbound : { s with publisher := p' }.bound = s.bound := by simp only [bound, hcount]
  have holdest : { s with publisher := p' }.oldest = s.oldest := by
    simp only [oldest, hordinals, hbound]
  refine ⟨hconfig ▸ h.config, fun i r a c hst => (h.loaded i r a c hst).trans hcount.symm, ?_, ?_,
    fun k hk helig hsw => ?_, fun k hlive => ?_, hcount ▸ h.small, fun harm => ?_⟩
  · rw [hordinals, hbound]
    exact h.counted
  · rw [hordinals, holdest]
    exact h.consecutive
  · obtain ⟨hbefore, hprocessed, hgeometry⟩ := (hd.sessions k).eligible helig
    exact (h.near k (hseats ▸ hk) hbefore hsw).congr hconfig hgeometry hprocessed holdest hcount.ge
  · obtain ⟨hbefore, hgeometry⟩ := (hd.sessions k).live hlive
    rw [hgeometry]
    exact h.granted k hbefore
  · exact (h.gauges harm).drifts hd

/-- A change of one seat outside the queue and the count. -/
lemma Level.reseat (h : s.Level) {session : Session} {arming : ArmStage}
    (hledger : p'.ledger = s.publisher.ledger)
    (hsessions : p'.sessions = update s.publisher.sessions k session)
    (hother : ∀ j, j ≠ k → arming ≠ .swapped j → s.arming ≠ .swapped j)
    (hgranted : session.state.live = true → 1 ≤ session.geometry.creditWindow.toNat)
    (hnear : session.state.eligible = true → arming ≠ .swapped k →
      Near { s with publisher := p', arming := arming } k)
    (hgauges : arming = .idle → p'.Settling) :
    Level { s with publisher := p', arming := arming } := by
  have hconfig : p'.config = s.publisher.config := congrArg Ledger.config hledger
  have hcount : p'.admitted = s.publisher.admitted := congrArg Ledger.admitted hledger
  have hqueue : p'.publishQueue = s.publisher.publishQueue :=
    congrArg Ledger.publishQueue hledger
  have hseats : p'.seats = s.publisher.seats := by simp only [seats, hconfig]
  have hordinals : { s with publisher := p', arming := arming }.ordinals = s.ordinals := by
    simp only [ordinals, hqueue]
  have hbound : { s with publisher := p', arming := arming }.bound = s.bound := by
    simp only [bound, hcount]
  have holdest : { s with publisher := p', arming := arming }.oldest = s.oldest := by
    simp only [oldest, hordinals, hbound]
  have hself : p'.sessions k = session := by rw [hsessions, update_self]
  have hsame : ∀ j, j ≠ k → p'.sessions j = s.publisher.sessions j := fun j hj => by
    rw [hsessions, update_of_ne hj]
  refine ⟨hconfig ▸ h.config, fun i r a c hst => (h.loaded i r a c hst).trans hcount.symm, ?_, ?_,
    fun j hj helig hsw => ?_, fun j hlive => ?_, hcount ▸ h.small, hgauges⟩
  · rw [hordinals, hbound]
    exact h.counted
  · rw [hordinals, holdest]
    exact h.consecutive
  · by_cases hjk : j = k
    · subst hjk
      rw [hself] at helig
      exact hnear helig hsw
    · have hold := hsame j hjk
      rw [hold] at helig
      refine (h.near j (hseats ▸ hj) helig (hother j hjk hsw)).congr hconfig ?_ ?_ holdest hcount.ge
      · exact congrArg Session.geometry hold
      · exact congrArg Session.processedOrdinal hold
  · by_cases hjk : j = k
    · subst hjk
      rw [hself] at hlive ⊢
      exact hgranted hlive
    · rw [hsame j hjk] at hlive ⊢
      exact h.granted j hlive

lemma Level.opened (h : s.Level) {request : OpenRequest} {fresh : Publisher.Fresh}
    {es : List PublisherEvent}
    (hs : publisherStep s.publisher (.open k request fresh) = some (p', es)) :
    Level { s with publisher := p' } := by
  obtain ⟨⟨hvacant, hscreen⟩, rfl, -⟩ := of_guard hs
  have hstate := (vacant_iff.mp hvacant).2.imp_right And.left
  refine h.reseat rfl rfl (fun _ _ hsw => hsw) (fun _ => screenOpen_window hscreen)
    (fun h => by cases h) fun harm => (h.gauges harm).claimSeat hstate

/-- A fan-out brings every session that stays armed up to the frame. -/
lemma Level.fanned (h : s.Level) {answers : ℕ → SendAnswer}
    (hf : s.publisher.Fanned p' item answers) : Level { s with publisher := p' } := by
  have hseats : p'.seats = s.publisher.seats := by simp only [seats, hf.config]
  have hordinals : s.ordinals = item.ordinal :: { s with publisher := p' }.ordinals := by
    simp [ordinals, hf.popped]
  have hlength : s.ordinals.length = { s with publisher := p' }.ordinals.length + 1 := by
    rw [hordinals, List.length_cons]
  have hbound : { s with publisher := p' }.bound = s.bound := by simp only [bound, hf.admitted]
  have hcounted := h.counted
  have holdest : { s with publisher := p' }.oldest = s.oldest + 1 := by
    simp only [oldest, hbound, hlength]
    omega
  have hconsecutive := h.consecutive
  rw [hlength, List.range'_succ, hordinals] at hconsecutive
  obtain ⟨hhead, htail⟩ := List.cons.inj hconsecutive
  refine ⟨hf.config ▸ h.config, fun i r a c hst => (h.loaded i r a c hst).trans hf.admitted.symm,
    ?_, ?_, fun k hk helig _ => ?_, fun k hlive => ?_, hf.admitted ▸ h.small, fun _ => ?_⟩
  · rw [hbound]
    omega
  · rw [holdest]
    exact htail
  · have hk' : k ∈ s.publisher.seats := hseats ▸ hk
    have hsession := hf.sessions k
    rw [if_pos hk'] at hsession
    rw [hsession] at helig
    obtain ⟨-, hprocessed, -⟩ := fanSession_eligible helig
    have hdone : (p'.sessions k).processedOrdinal = { s with publisher := p' }.oldest := by
      rw [hsession, hprocessed, holdest, hhead]
    exact ⟨hdone.le.trans (le_max_left _ _), .inl hdone.ge⟩
  · rw [hf.sessions k] at hlive ⊢
    split_ifs at hlive ⊢ with hk
    · obtain ⟨hbefore, hgeometry⟩ := fanSession_live s.publisher item (answers k) _ hlive
      rw [hgeometry]
      exact h.granted k hbefore
    · exact h.granted k hlive
  · obtain ⟨q, rfl⟩ := hf.refreshed
    exact .inr q.current_refreshGauges

lemma Level.swap (h : s.Level) (harm : s.arming = .idle)
    (hopen : (s.publisher.sessions k).state = .open) :
    Level { s with publisher := s.publisher.swapArmed k, arming := .swapped k } := by
  refine h.reseat rfl rfl (fun j _ _ => by simp [harm]) (fun _ => ?_) (fun _ hsw => absurd rfl hsw)
    (by simp)
  exact h.granted k (by rw [hopen]; rfl)

lemma Level.leveled (h : s.Level) (harm : s.arming = .swapped k)
    (hcounted : s.oldest ≤ s.publisher.admitted ∨ s.publisher.roomy k = true) :
    Level { s with publisher := s.publisher.levelOrdinal k, arming := .leveled k } := by
  have htaken : s.stage.taken ≤ 1 := by cases s.stage <;> simp [PublishStage.taken]
  have holdest : s.oldest ≤ s.publisher.admitted + 1 := by
    unfold oldest bound
    omega
  have hprocessed : ((s.publisher.levelOrdinal k).sessions k).processedOrdinal =
      s.publisher.admitted := by simp [levelOrdinal]
  have hgeometry : ((s.publisher.levelOrdinal k).sessions k).geometry =
      (s.publisher.sessions k).geometry := by simp [levelOrdinal]
  have hroom : (s.publisher.levelOrdinal k).roomy k = s.publisher.roomy k :=
    roomy_congr rfl hgeometry
  refine h.reseat rfl rfl (fun j hj _ he => ?_) (h.granted k) (fun _ _ => ⟨?_, ?_⟩)
    (by simp)
  · rw [harm] at he
    exact hj (ArmStage.swapped.inj he).symm
  · rw [hprocessed]
    exact le_max_right _ _
  · rw [hprocessed, hroom]
    rcases hcounted with hlevel | hroomy
    · exact .inl hlevel
    · exact .inr ⟨holdest, hroomy⟩

lemma Level.refreshed (h : s.Level) (harm : s.arming = .leveled k) :
    Level { s with publisher := s.publisher.refreshGauges, arming := .idle } := by
  refine ⟨h.config, h.loaded, h.counted, h.consecutive, fun j hj helig _ => ?_, h.granted, h.small,
    fun _ => .inr s.publisher.current_refreshGauges⟩
  exact (h.near j hj helig (by simp [harm])).congr rfl rfl rfl rfl le_rfl

/-! ### Runs -/

/-- A session's ordinal is not stored between the pop of a frame and its count, unless its window
has room for two; the count stays in range. -/
def armsCounted (s : FanoutState) : FanoutInput → Prop
  | .level =>
    match s.stage, s.arming with
    | .pushed _ _, .swapped k => s.publisher.publishQueue.items = [] → s.publisher.roomy k = true
    | _, _ => True
  | .count => s.publisher.admitted + 1 + 2 ^ 32 ≤ 2 ^ 64
  | _ => True

instance (s : FanoutState) (i : FanoutInput) : Decidable (s.armsCounted i) := by
  unfold armsCounted
  split
  · split <;> infer_instance
  all_goals infer_instance

lemma oldest_le (s : FanoutState)
    (hout : ∀ i item, s.stage = .pushed i item → s.publisher.publishQueue.items ≠ []) :
    s.oldest ≤ s.publisher.admitted := by
  have hlength : s.stage.taken ≤ s.ordinals.length := by
    cases hst : s.stage with
    | admitting => simp [ordinals, hst, PublishStage.assigned, PublishStage.taken]
    | pushed i item =>
      have hpos := List.length_pos_of_ne_nil (hout i item hst)
      simp only [ordinals, PublishStage.taken, List.length_append, List.length_map]
      omega
    | _ => exact Nat.zero_le _
  unfold oldest bound
  omega

lemma Level.step {i : FanoutInput} {es : List FanoutEvent} (h : s.Level)
    (hok : s.armsCounted i) (hs : fanoutStep s i = some (s', es)) : s'.Level := by
  cases fanoutStep_change hs with
  | drifted quiet hd screened => exact (h.drifts hd).rescreen screened
  | opened hopen => exact h.opened hopen
  | fanned harm hf => exact h.fanned hf
  | @reserved i resolved hst screened =>
    have hnew : Level { s with stage := .reserved i resolved } :=
      h.restage (congrArg PublishStage.taken hst) rfl (by simp)
    exact hnew.rescreen screened
  | loaded hst =>
    refine h.restage (congrArg PublishStage.taken hst) rfl fun _ _ _ _ he => ?_
    cases he
    rfl
  | left hold => exact h.restage hold rfl fun _ _ _ _ he => by cases he
  | declined hst hd =>
    exact (h.drifts hd).restage (congrArg PublishStage.taken hst) rfl
      fun _ _ _ _ he => by cases he
  | decided hst hlets hitem => exact h.decided hst hitem
  | overflowed hst hd => exact (h.notPushed hst _).drifts hd
  | pushed hst hpush => exact h.pushed hst hpush
  | counted hst => exact h.accepted hst hok
  | swapped harm hopen => exact h.swap harm hopen
  | leveled harm =>
    refine h.leveled harm ?_
    by_cases hpopped : ∃ i item, s.stage = .pushed i item ∧ s.publisher.publishQueue.items = []
    · obtain ⟨i, item, hst, hempty⟩ := hpopped
      simp only [armsCounted, hst, harm] at hok
      exact .inr (hok hempty)
    · exact .inl (s.oldest_le fun i item hst hempty => hpopped ⟨i, item, hst, hempty⟩)
  | refreshed harm => exact h.refreshed harm

lemma level_create {c : PublisherConfig} (hc : c.Valid) (epoch : UInt64) (address : Bytes) :
    (create c epoch address).Level := by
  refine ⟨hc, (fun _ _ _ _ h => by cases h), Nat.zero_le _, rfl, fun k _ helig => ?_,
    fun k hlive => ?_, ?_, fun _ => .inr ⟨fun hne => ?_, fun hne => ?_⟩⟩
  · cases helig
  · cases hlive
  · change 0 + 2 ^ 32 ≤ 2 ^ 64
    decide
  all_goals
    refine absurd ?_ hne
    refine List.map_eq_nil_iff.mpr (List.filter_eq_nil_iff.mpr fun k _ => ?_)
    simp [create, Publisher.create, emptySession, SessionState.eligible]

/-- Nothing is on its way and every armed session has returned its credit. -/
structure AtRest (s : FanoutState) : Prop where
  unscreened : s.screened = []
  unpublished : s.stage = .idle
  settled : s.arming = .idle
  drained : s.publisher.publishQueue.items = []
  armed : s.publisher.armedSeats ≠ []
  returned : ∀ k ∈ s.publisher.armedSeats, (s.publisher.sessions k).window.outstanding = 0
  lasting : ∀ k ∈ s.publisher.seats, (s.publisher.sessions k).state ≠ .expiring

lemma Level.standing (h : s.Level) (hrest : s.AtRest) (hk : k ∈ s.publisher.armedSeats) :
    s.publisher.retiredOrdinal (s.publisher.sessions k) ≤ s.publisher.admitted ∧
      (s.publisher.admitted ≤ s.publisher.retiredOrdinal (s.publisher.sessions k) ∨
        s.publisher.admitted ≤ s.publisher.retiredOrdinal (s.publisher.sessions k) + 1 ∧
          s.publisher.roomy k = true) := by
  obtain ⟨hseat, helig⟩ := List.mem_filter.mp hk
  obtain ⟨habove, hlevel⟩ := h.near k hseat helig (by simp [hrest.settled])
  have holdest : s.oldest = s.publisher.admitted := by
    simp [oldest, bound, ordinals, hrest.unpublished, hrest.drained, PublishStage.assigned,
      PublishStage.taken]
  rw [retiredOrdinal_of_idle _ (hrest.returned k hk)]
  rw [holdest] at habove hlevel
  rw [max_self] at habove
  exact ⟨habove, hlevel⟩

lemma Level.limit_gt (h : s.Level) (hrest : s.AtRest) (hcurrent : s.publisher.Current)
    (hmode : s.publisher.config.fanoutMode = .allActive) :
    s.publisher.admitted < s.publisher.allActiveAdmissionLimit := by
  have hne : s.publisher.standings ≠ [] := by simpa [standings] using hrest.armed
  have hsmall := h.small
  rw [hcurrent.limit hne]
  refine lt_foldl_min _ _ (by omega) fun r hr => ?_
  obtain ⟨k, hk, rfl⟩ := List.mem_map.mp hr
  obtain ⟨-, hlevel⟩ := h.standing hrest hk
  have hgrant := h.granted k (eligible_live (List.mem_filter.mp hk).2)
  rcases hlevel with hlevel | ⟨hbehind, hroomy⟩
  · omega
  · simp only [roomy, hmode, if_true, decide_eq_true_eq] at hroomy
    omega

lemma Level.credited_near (h : s.Level) (hrest : s.AtRest) (hcurrent : s.publisher.Current)
    (hmode : s.publisher.config.fanoutMode = .bestEffort) :
    s.publisher.credited ≤ s.publisher.admitted ∧
      s.publisher.admitted < s.publisher.credited + s.publisher.config.creditWindow.toNat := by
  have hne : s.publisher.standings ≠ [] := by simpa [standings] using hrest.armed
  have hwindow : 1 ≤ s.publisher.config.creditWindow.toNat :=
    UInt32.le_iff_toNat_le.mp h.config.sizes.window.1
  rw [hcurrent.credited hne hmode]
  refine ⟨foldl_max_le _ _ (Nat.zero_le _) fun r hr => ?_, ?_⟩
  · obtain ⟨k, hk, rfl⟩ := List.mem_map.mp hr
    exact (h.standing hrest hk).1
  · obtain ⟨k, hk⟩ := List.exists_mem_of_ne_nil _ hrest.armed
    have hbest := le_foldl_max (fun r : ℕ × ℕ => r.1) s.publisher.standings 0 _
      (List.mem_map_of_mem hk)
    obtain ⟨-, hlevel⟩ := h.standing hrest hk
    rcases hlevel with hlevel | ⟨hbehind, hroomy⟩
    · omega
    · simp only [roomy, hmode, reduceCtorEq, if_false, decide_eq_true_eq] at hroomy
      omega

lemma Level.admits (h : s.Level) (hrest : s.AtRest) :
    s.publisher.admission s.publisher.admitted s.publisher.credited = none := by
  have hcurrent : s.publisher.Current := by
    rcases h.gauges hrest.settled with ⟨k, hk, hended⟩ | hcurrent
    · exact absurd hended (hrest.lasting k hk)
    · exact hcurrent
  have hsmall := h.small
  unfold admission
  split_ifs with hstrict hbest
  · have hlimit := h.limit_gt hrest hcurrent hstrict.1
    omega
  · obtain ⟨hle, hlt⟩ := h.credited_near hrest hcurrent hbest.1
    have hstalled := hbest.2
    omega
  · rfl

end FanoutState

lemma Publisher.publish_stalled {p : Publisher} {lease : Option ℕ} {metadata : FrameMetadata}
    {realtimeNs : UInt64} {contended : Bool} (hadmits : p.admission p.admitted p.credited = none) :
    (p.publish lease metadata realtimeNs contended).1 ≠ .creditStalled ∧
      (p.publish lease metadata realtimeNs contended).1 ≠ .wouldBlock := by
  unfold publish
  cases lease with
  | none => simp
  | some =>
    unfold publishLease
    simp only [hadmits]
    split
    case h_1 result hscreen =>
      unfold screenPublish at hscreen
      dsimp only at hscreen
      split_ifs at hscreen
      all_goals
        cases hscreen
        simp
    case h_2 resolved hscreen =>
      split_ifs
      · simp
      · split <;> simp

/-- A publisher at rest accepts the next publish as far as credit goes, in both fan-out modes, if
no session with room for a single frame arms between the pop of a frame and its count. -/
theorem admission_never_wedges {c : PublisherConfig} (hc : c.validate = .ok) (epoch : UInt64)
    (address : Bytes) {trace : List FanoutEvent} {s : FanoutState}
    (hrun : fanoutMachine.Reaches FanoutState.armsCounted (.create c epoch address) trace s)
    (hrest : s.AtRest) (lease : Option ℕ) (metadata : FrameMetadata) (realtimeNs : UInt64)
    (contended : Bool) :
    (s.publisher.publish lease metadata realtimeNs contended).1 ≠ .creditStalled ∧
      (s.publisher.publish lease metadata realtimeNs contended).1 ≠ .wouldBlock := by
  have hlevel := hrun.invariant FanoutState.Level
    (FanoutState.level_create (PublisherConfig.validate_ok hc) epoch address)
    fun _ _ _ _ h hok hs => h.step hok hs
  exact Publisher.publish_stalled (hlevel.admits hrest)

open FanoutInput in
/-- A frame sent to the only session and credited: the next one is admitted. -/
theorem admission_never_wedges_sample : ∃ trace s,
    fanoutMachine.Reaches FanoutState.armsCounted (.create strictConfig 1 [1]) trace s ∧
    s.AtRest ∧ s.publisher.admitted = 1 ∧
    (s.publisher.publish (some 1) sampleMetadata 5 false).1 ≠ .wouldBlock := by
  obtain ⟨trace, s, hreach, hcount, h₁, h₂, h₃, h₄, h₅, h₆, h₇⟩ :=
    fanoutMachine.exists_of_run FanoutState.armsCounted (FanoutState.create strictConfig 1 [1])
      ([call (.open 0 sampleOpen (sampleFresh 7))] ++ armSteps 7 ++
        [call .acquire, call .acquire] ++ publishSteps 0 resolvedSample ++
        [call (.submit fun _ => .completed), call (.credit (sampleCredit 7 0))])
      (P := fun s _ => s.publisher.admitted = 1 ∧ s.screened = [] ∧ s.stage = .idle ∧
        s.arming = .idle ∧ s.publisher.publishQueue.items = [] ∧ s.publisher.armedSeats ≠ [] ∧
        (∀ k ∈ s.publisher.armedSeats, (s.publisher.sessions k).window.outstanding = 0) ∧
        ∀ k ∈ s.publisher.seats, (s.publisher.sessions k).state ≠ .expiring) (by decide +kernel)
  have hrest : s.AtRest := ⟨h₁, h₂, h₃, h₄, h₅, h₆, h₇⟩
  exact ⟨trace, s, hreach, hrest, hcount,
    (admission_never_wedges (c := strictConfig) (by decide) 1 [1] hreach hrest
      (some 1) sampleMetadata 5 false).2⟩

open FanoutInput in
/-- A session with a window of one frame arms after the pop of a frame and before its count. It
is never sent that frame, so nothing it returns moves its ordinal, and with all credit back the
publisher refuses every frame. -/
theorem admission_wedged : ∃ trace s,
    fanoutMachine.Reaches anyStep (FanoutState.create strictConfig 1 [1]) trace s ∧
    s.AtRest ∧ (s.publisher.publish (some 1) sampleMetadata 5 false).1 = .wouldBlock := by
  obtain ⟨trace, s, hreach, hrefused, h₁, h₂, h₃, h₄, h₅, h₆, h₇⟩ :=
    fanoutMachine.exists_of_run anyStep (FanoutState.create strictConfig 1 [1])
      ([call (.open 0 sampleOpen (sampleFresh 7))] ++ armSteps 7 ++
        [call (.open 1 { sampleOpen with requestedCreditWindow := 1 } (sampleFresh 8))] ++
        [call .acquire, call .acquire, screen 0 resolvedSample, reserve 0 resolvedSample,
          load, .decide 5, push, call (.submit fun _ => .completed)] ++ armSteps 8 ++
        [count, leave, call (.credit (sampleCredit 7 0))])
      (P := fun s _ => (s.publisher.publish (some 1) sampleMetadata 5 false).1 = .wouldBlock ∧
        s.screened = [] ∧ s.stage = .idle ∧ s.arming = .idle ∧
        s.publisher.publishQueue.items = [] ∧ s.publisher.armedSeats ≠ [] ∧
        (∀ k ∈ s.publisher.armedSeats, (s.publisher.sessions k).window.outstanding = 0) ∧
        ∀ k ∈ s.publisher.seats, (s.publisher.sessions k).state ≠ .expiring) (by decide +kernel)
  exact ⟨trace, s, hreach, ⟨h₁, h₂, h₃, h₄, h₅, h₆, h₇⟩, hrefused⟩

end TangoBulk
