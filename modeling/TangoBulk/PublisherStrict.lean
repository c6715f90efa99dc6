import TangoBulk.PublisherAdmission
import TangoBulk.PublisherOrdinals

/-! Strict fan-out. Admission is decided in the ordinals of the publisher and submission in the
sequences of each session; the invariant keeps every frame on its way inside the window of
every armed session. -/
namespace TangoBulk

open ByteString Transition

namespace FanoutState

/-- The frames on their way fit the window of the session. -/
structure Fits (s : FanoutState) (t : Session) : Prop where
  bound : t.processedOrdinal ≤ s.bound
  ahead : ∀ o ∈ s.ordinals, t.processedOrdinal ≤ o
  room : ∀ o ∈ s.ordinals, o < s.publisher.retiredOrdinal t + t.window.width

/-- The admission limit and every armed session keep pace with the frames on their way. -/
structure Paced (s : FanoutState) : Prop where
  mode : s.publisher.config.fanoutMode = .allActive
  window : s.publisher.config.creditWindow.toNat ≤ s.publisher.depth
  inStep : ∀ k, s.publisher.InStep (s.publisher.sessions k)
  loaded : ∀ i resolved a c, s.stage = .loaded i resolved a c → a = s.publisher.admitted
  assigned : ∀ i item, s.stage = .admitting i item → item.ordinal = s.publisher.admitted
  ascending : s.ordinals.Pairwise (· < ·)
  below : ∀ o ∈ s.ordinals, o < s.bound
  fits : ∀ k ∈ s.publisher.seats, (s.publisher.sessions k).state.eligible = true →
    s.arming ≠ .swapped k → s.Fits (s.publisher.sessions k)
  limit : ∀ k ∈ s.publisher.seats, (s.publisher.sessions k).state.eligible = true →
    s.arming ≠ .swapped k → s.arming ≠ .leveled k →
    s.publisher.allActiveAdmissionLimit ≤ s.publisher.retiredOrdinal (s.publisher.sessions k) +
      (s.publisher.sessions k).geometry.creditWindow.toNat
  swapped : ∀ k, s.arming = .swapped k → (s.publisher.sessions k).window.outstanding = 0
  withheld : s.publisher.monitor.withheld = []

variable {s s' : FanoutState} {p' : Publisher}

open Publisher

lemma seats_congr {p p' : Publisher} (h : p'.config = p.config) : p'.seats = p.seats := by
  simp only [seats, h]

lemma Move.outstanding {p : Publisher} {t t' : Session} (hm : p.Move t t') (hv : t.window.Valid)
    (h : t.window.outstanding = 0) : t'.window.outstanding = 0 := by
  cases hm with
  | undisturbed hu => exact hu.window ▸ h
  | credited ack =>
    have hc := hv.credited_le
    have hout : t.window.nextSequence - t.window.creditedEnd = 0 := h
    obtain ⟨-, he⟩ | ⟨-, -, he⟩ | ⟨h1, h2, -⟩ := t.window.applyCredit_cases ack
    · rw [he]
      exact h
    · rw [he]
      exact h
    · omega
  | retired => simp [retiredSession, CreditWindow.outstanding, CreditWindow.reset]
  | claimed => rfl

/-- A call that moves the sessions and leaves the queue and the count keeps the pace. -/
lemma Paced.moves (h : s.Paced) (hm : s.publisher.Moves p') : Paced { s with publisher := p' } := by
  have hconfig : p'.config = s.publisher.config := congrArg Ledger.config hm.ledger
  have hletsted : p'.admitted = s.publisher.admitted := congrArg Ledger.admitted hm.ledger
  have hqueue : p'.publishQueue = s.publisher.publishQueue :=
    congrArg Ledger.publishQueue hm.ledger
  have hseats := seats_congr hconfig
  have hordinals : { s with publisher := p' }.ordinals = s.ordinals := by
    simp only [ordinals, hqueue]
  have hbound : { s with publisher := p' }.bound = s.bound := by simp only [bound, hletsted]
  have hmove : ∀ k, p'.InStep (p'.sessions k) ∧ ((p'.sessions k).state.eligible = true →
      Carried s.publisher (s.publisher.sessions k) (p'.sessions k)) := by
    intro k
    obtain ⟨hin, hcarried⟩ := (h.inStep k).move h.window (hm.sessions k)
    exact ⟨hin.congr hconfig, hcarried⟩
  refine ⟨hconfig ▸ h.mode, ?_, fun k => (hmove k).1, fun i r a c hst => ?_, fun i item hst => ?_,
    hordinals ▸ h.ascending, ?_, ?_, ?_, ?_, ?_⟩
  · rw [hconfig, depth_congr hconfig]
    exact h.window
  · exact (h.loaded i r a c hst).trans hletsted.symm
  · exact (h.assigned i item hst).trans hletsted.symm
  · rw [hordinals, hbound]
    exact h.below
  · intro k hk helig hsw
    have hc := (hmove k).2 helig
    have hfits := h.fits k (hseats ▸ hk) hc.eligible hsw
    refine ⟨?_, ?_, ?_⟩
    · rw [hbound, hc.processed]
      exact hfits.bound
    · rw [hordinals, hc.processed]
      exact hfits.ahead
    · rw [hordinals, hc.width, retiredOrdinal_congr hconfig]
      exact fun o ho => (hfits.room o ho).trans_le (Nat.add_le_add_right hc.retired _)
  · intro k hk helig hsw hlev
    rcases hm.limit with hsame | hsound
    · have hc := (hmove k).2 helig
      have hold := h.limit k (hseats ▸ hk) hc.eligible hsw hlev
      rw [hsame, hc.geometry, retiredOrdinal_congr hconfig]
      exact hold.trans (Nat.add_le_add_right hc.retired _)
    · exact hsound k hk helig
  · intro k hk
    exact Move.outstanding (hm.sessions k) (h.inStep k).valid (h.swapped k hk)
  · exact (congrArg Ledger.withheld hm.ledger).trans h.withheld

lemma Paced.rescreen (h : s.Paced) (screened : List (ℕ × FrameMetadata)) :
    Paced { s with screened := screened } := by
  refine ⟨h.mode, h.window, h.inStep, h.loaded, h.assigned, h.ascending, h.below,
    fun k hk he hsw => ?_, h.limit, h.swapped, h.withheld⟩
  have hfits := h.fits k hk he hsw
  exact ⟨hfits.bound, hfits.ahead, hfits.room⟩

lemma Paced.along (h : s.Paced) {stage : PublishStage} (hconfig : p'.config = s.publisher.config)
    (hsessions : p'.sessions = s.publisher.sessions)
    (hlimit : p'.allActiveAdmissionLimit = s.publisher.allActiveAdmissionLimit)
    (hwithheld : p'.monitor.withheld = s.publisher.monitor.withheld)
    (hordinals : { s with publisher := p', stage := stage }.ordinals = s.ordinals)
    (hbound : { s with publisher := p', stage := stage }.bound = s.bound)
    (hloaded : ∀ i resolved a c, stage = .loaded i resolved a c → a = p'.admitted)
    (hassigned : ∀ i item, stage ≠ .admitting i item) :
    Paced { s with publisher := p', stage := stage } := by
  have hseats := seats_congr hconfig
  have hretired := retiredOrdinal_congr hconfig
  refine ⟨hconfig ▸ h.mode, ?_, fun k => ?_, hloaded, fun i item hst => absurd hst (hassigned i item),
    hordinals ▸ h.ascending, ?_, fun k hk helig hsw => ?_, fun k hk helig hsw hlev => ?_,
    fun k hk => ?_, hwithheld.trans h.withheld⟩
  · rw [hconfig, depth_congr hconfig]
    exact h.window
  · rw [hsessions]
    exact (h.inStep k).congr hconfig
  · rw [hordinals, hbound]
    exact h.below
  · rw [hsessions] at helig ⊢
    have hfits := h.fits k (hseats ▸ hk) helig hsw
    refine ⟨hbound ▸ hfits.bound, hordinals ▸ hfits.ahead, ?_⟩
    rw [hordinals, hretired]
    exact hfits.room
  · rw [hsessions] at helig ⊢
    rw [hlimit, hretired]
    exact h.limit k (hseats ▸ hk) helig hsw hlev
  · rw [hsessions]
    exact h.swapped k hk

lemma Paced.restage (h : s.Paced) {stage : PublishStage} (hold : s.stage.taken = 0)
    (hnew : stage.taken = 0)
    (hloaded : ∀ i resolved a c, stage = .loaded i resolved a c → a = s.publisher.admitted) :
    Paced { s with stage := stage } := by
  refine h.along rfl rfl rfl rfl ?_ ?_ hloaded ?_
  · simp only [ordinals, PublishStage.assigned_nil hold, PublishStage.assigned_nil hnew]
  · simp only [bound, hold, hnew]
  · rintro i item rfl
    cases hnew

variable {i k : ℕ} {item : PublishItem}

/-- The admission decision: an admitted frame takes the next ordinal, which the limit keeps
inside every armed window. -/
lemma Paced.decided (h : s.Paced) (harm : s.arming = .idle) {resolved : FrameMetadata} {a c : ℕ}
    (hst : s.stage = .loaded i resolved a c) (hlets : s.publisher.admission a c = none)
    (hitem : item.ordinal = a) : Paced { s with stage := .admitting i item } := by
  have ha := h.loaded i resolved a c hst
  have hbefore : s.ordinals = s.publisher.publishQueue.items.map (·.ordinal) := by
    simp [ordinals, hst, PublishStage.assigned]
  have hbound : s.bound = s.publisher.admitted := by simp [bound, hst, PublishStage.taken]
  have hordinals : { s with stage := .admitting i item }.ordinals = s.ordinals ++ [a] := by
    rw [hbefore]
    simp [ordinals, PublishStage.assigned, hitem]
  have hlimit : a < s.publisher.allActiveAdmissionLimit := by
    unfold Publisher.admission at hlets
    split_ifs at hlets with h1
    exact not_le.mp fun hle => h1 ⟨h.mode, hle⟩
  have hbelow := h.below
  rw [hbound, ← ha] at hbelow
  refine ⟨h.mode, h.window, h.inStep, by simp, ?_, ?_, ?_, ?_, h.limit,
    h.swapped, h.withheld⟩
  · intro j item' he
    cases he
    exact hitem.trans ha
  · rw [hordinals]
    refine List.pairwise_append.mpr ⟨h.ascending, by simp, fun o ho b hb => ?_⟩
    rw [List.mem_singleton.mp hb]
    exact hbelow o ho
  · rw [hordinals]
    intro o ho
    have hnew : { s with stage := .admitting i item }.bound = a + 1 := by
      simp [bound, PublishStage.taken, ha]
    rw [hnew]
    rcases List.mem_append.mp ho with ho | ho
    · exact (hbelow o ho).trans (Nat.lt_succ_self a)
    · rw [List.mem_singleton.mp ho]
      exact Nat.lt_succ_self a
  · intro k hk helig hsw
    have hfits := h.fits k hk helig hsw
    have hlim := h.limit k hk helig (by simp [harm]) (by simp [harm])
    have hwidth := ((h.inStep k).grant (live_of_eligible helig).1).1
    have hproc := hfits.bound
    rw [hbound, ← ha] at hproc
    refine ⟨?_, ?_, ?_⟩
    · have hnew : { s with stage := .admitting i item }.bound = a + 1 := by
        simp [bound, PublishStage.taken, ha]
      rw [hnew]
      exact hproc.trans (Nat.le_succ a)
    · rw [hordinals]
      intro o ho
      rcases List.mem_append.mp ho with ho | ho
      · exact hfits.ahead o ho
      · rw [List.mem_singleton.mp ho]
        exact hproc
    · rw [hordinals]
      intro o ho
      rcases List.mem_append.mp ho with ho | ho
      · exact hfits.room o ho
      · rw [List.mem_singleton.mp ho, hwidth]
        exact hlimit.trans_le hlim

lemma Paced.pushed (h : s.Paced) {queue : Fifo PublishItem} (hst : s.stage = .admitting i item)
    (hpush : s.publisher.publishQueue.push item = some queue) :
    Paced { s with publisher := { s.publisher with publishQueue := queue },
                   stage := .pushed i item } := by
  have hitems := (Fifo.push_eq_some.mp hpush).2.1
  refine h.along rfl rfl rfl rfl ?_ ?_ (by simp) (by simp)
  · simp [ordinals, hst, PublishStage.assigned, hitems]
  · simp [bound, hst, PublishStage.taken]

lemma Paced.notPushed (h : s.Paced) (hst : s.stage = .admitting i item) (result : PublishResult) :
    Paced { s with stage := .refused i result } := by
  have ha := h.assigned i item hst
  have hordinals : s.ordinals =
      { s with stage := PublishStage.refused i result }.ordinals ++ [item.ordinal] := by
    simp [ordinals, hst, PublishStage.assigned]
  have hmem : ∀ o ∈ { s with stage := PublishStage.refused i result }.ordinals,
      o ∈ s.ordinals := by
    intro o ho
    rw [hordinals]
    exact List.mem_append_left _ ho
  have hlast : item.ordinal ∈ s.ordinals := by
    rw [hordinals]
    exact List.mem_append_right _ (List.mem_singleton_self _)
  have hascending := h.ascending
  rw [hordinals, List.pairwise_append] at hascending
  have hbound : { s with stage := PublishStage.refused i result }.bound = item.ordinal := by
    simp [bound, PublishStage.taken, ha]
  refine ⟨h.mode, h.window, h.inStep, by simp, by simp,
    hascending.1, ?_, fun k hk helig hsw => ?_, h.limit, h.swapped, h.withheld⟩
  · rw [hbound]
    exact fun o ho => hascending.2.2 o ho _ (List.mem_singleton_self _)
  · have hfits := h.fits k hk helig hsw
    exact ⟨hbound ▸ hfits.ahead _ hlast, fun o ho => hfits.ahead o (hmem o ho),
      fun o ho => hfits.room o (hmem o ho)⟩

lemma Paced.counted (h : s.Paced) (hst : s.stage = .pushed i item) :
    Paced { s with publisher := s.publisher.acceptPublish i, stage := .accepted item } := by
  refine h.along rfl rfl rfl rfl ?_ ?_ (by simp) (by simp)
  · simp only [ordinals, hst, PublishStage.assigned]
    rfl
  · simp only [bound, hst, PublishStage.taken]
    rfl

/-! ### Fan-out and arming -/

/-- A pop with its fan-out: the frame fits every armed window, and what is left still does. -/
lemma Paced.fanned (h : s.Paced) (harm : s.arming = .idle) {answers : ℕ → SendAnswer}
    (hf : s.publisher.Fanned p' item answers) : Paced { s with publisher := p' } := by
  have hordinals : s.ordinals = item.ordinal :: { s with publisher := p' }.ordinals := by
    simp [ordinals, hf.popped]
  have hhead : item.ordinal ∈ s.ordinals := by
    rw [hordinals]
    exact List.mem_cons_self
  have htail : ∀ o ∈ { s with publisher := p' }.ordinals, o ∈ s.ordinals := by
    intro o ho
    rw [hordinals]
    exact List.mem_cons_of_mem _ ho
  have hbound : { s with publisher := p' }.bound = s.bound := by simp only [bound, hf.admitted]
  have hascending := h.ascending
  rw [hordinals, List.pairwise_cons] at hascending
  have hseats := seats_congr hf.config
  have hnot : ∀ k, s.arming ≠ .swapped k := by simp [harm]
  have hroom : ∀ k ∈ s.publisher.seats, (s.publisher.sessions k).state.eligible = true →
      (s.publisher.sessions k).window.canSubmit = true := by
    intro k hk helig
    have hfits := h.fits k hk helig (hnot k)
    exact (h.inStep k).canSubmit (hfits.ahead _ hhead) (hfits.room _ hhead)
  obtain ⟨q, hq⟩ := hf.refreshed
  refine ⟨hf.config ▸ h.mode, ?_, fun k => ?_, fun i r a c hst => ?_, fun i it hst => ?_,
    hascending.2, fun o ho => ?_, fun k hk helig _ => ?_, fun k hk helig _ _ => ?_, fun k hk => ?_,
    (hf.withheld hroom).trans h.withheld⟩
  · rw [hf.config, depth_congr hf.config]
    exact h.window
  · refine InStep.congr ?_ hf.config
    rw [hf.sessions k]
    split_ifs with hk
    · by_cases helig : (s.publisher.sessions k).state.eligible = true
      · exact ((h.inStep k).fan (hroom k hk helig) helig
          ((h.fits k hk helig (hnot k)).ahead _ hhead) (answers k)).1
      · rw [fanSession_of_ineligible _ _ _ helig]
        exact h.inStep k
    · exact h.inStep k
  · exact (h.loaded i r a c hst).trans hf.admitted.symm
  · exact (h.assigned i it hst).trans hf.admitted.symm
  · rw [hbound]
    exact h.below o (htail o ho)
  · have hk' : k ∈ s.publisher.seats := hseats ▸ hk
    rw [hf.sessions k, if_pos hk'] at helig ⊢
    by_cases hbefore : (s.publisher.sessions k).state.eligible = true
    swap
    · rw [fanSession_of_ineligible _ _ _ hbefore] at helig
      exact absurd helig hbefore
    have hfits := h.fits k hk' hbefore (hnot k)
    obtain ⟨hproc, -, hwidth, hret⟩ := ((h.inStep k).fan (hroom k hk' hbefore) hbefore
      (hfits.ahead _ hhead) (answers k)).2 helig
    refine ⟨?_, fun o ho => ?_, fun o ho => ?_⟩
    · rw [hproc, hbound]
      exact h.below _ hhead
    · rw [hproc]
      exact hascending.1 o ho
    · rw [hwidth, retiredOrdinal_congr hf.config]
      exact (hfits.room o (htail o ho)).trans_le (Nat.add_le_add_right hret _)
  · subst hq
    exact refreshGauges_limitSound q k hk helig
  · exact absurd hk (hnot k)

lemma Paced.swap (h : s.Paced) (harm : s.arming = .idle)
    (hopen : (s.publisher.sessions k).state = .open) :
    Paced { s with publisher := s.publisher.swapArmed k, arming := .swapped k } := by
  have hother : ∀ j, j ≠ k → (s.publisher.swapArmed k).sessions j = s.publisher.sessions j :=
    fun j hj => setSession_of_ne _ _ hj
  have hself : (s.publisher.swapArmed k).sessions k =
      { s.publisher.sessions k with state := .armed } := setSession_self _ _ _
  have hidle := (h.inStep k).idle (.inr (.inl hopen))
  have hne : ∀ j, ArmStage.swapped k ≠ .swapped j → j ≠ k := fun j hsw hj => hsw (hj ▸ rfl)
  refine ⟨h.mode, h.window, fun j => ?_, h.loaded, h.assigned, h.ascending, h.below,
    fun j hj helig hsw => ?_, fun j hj helig hsw _ => ?_, fun j hj => ?_, h.withheld⟩
  · refine InStep.congr (p := s.publisher) ?_ rfl
    by_cases hj : j = k
    · subst hj
      rw [hself]
      refine .of_idle hidle (h.inStep j).valid (h.inStep j).width_le (fun _ => ?_)
      exact (h.inStep j).grant (by simp [hopen])
    · rw [hother j hj]
      exact h.inStep j
  · rw [hother j (hne j hsw)] at helig ⊢
    have hfits := h.fits j hj helig (by simp [harm])
    exact ⟨hfits.bound, hfits.ahead, hfits.room⟩
  · rw [hother j (hne j hsw)] at helig ⊢
    exact h.limit j hj helig (by simp [harm]) (by simp [harm])
  · cases hj
    rw [hself]
    exact hidle

/-- The store of the ordinal, with no counted frame in the queue. -/
lemma Paced.level (h : s.Paced) (harm : s.arming = .swapped k)
    (hclear : ∀ item ∈ s.publisher.publishQueue.items, s.publisher.admitted ≤ item.ordinal) :
    Paced { s with publisher := s.publisher.levelOrdinal k, arming := .leveled k } := by
  have hother : ∀ j, j ≠ k → (s.publisher.levelOrdinal k).sessions j = s.publisher.sessions j :=
    fun j hj => setSession_of_ne _ _ hj
  have hself : (s.publisher.levelOrdinal k).sessions k =
      { s.publisher.sessions k with processedOrdinal := s.publisher.admitted } :=
    setSession_self _ _ _
  have hidle := h.swapped k harm
  have hne : ∀ j, j ≠ k → s.arming ≠ .swapped j := by
    intro j hj he
    rw [harm] at he
    exact hj (ArmStage.swapped.inj he).symm
  have hmin : ∀ o ∈ s.ordinals, s.publisher.admitted ≤ o := by
    intro o ho
    rcases List.mem_append.mp ho with ho | ho
    · obtain ⟨item, hitem, rfl⟩ := List.mem_map.mp ho
      exact hclear item hitem
    · cases hst : s.stage <;> simp [hst, PublishStage.assigned] at ho
      rw [ho, h.assigned _ _ hst]
  have htaken : s.stage.taken ≤ 1 := by cases s.stage <;> simp [PublishStage.taken]
  have hbound : s.bound = s.publisher.admitted + s.stage.taken := rfl
  refine ⟨h.mode, h.window, fun j => ?_, h.loaded, h.assigned, h.ascending, h.below,
    fun j hj helig _ => ?_, fun j hj helig _ hlev => ?_, fun j hj => ?_, h.withheld⟩
  · refine InStep.congr (p := s.publisher) ?_ rfl
    by_cases hj : j = k
    · subst hj
      rw [hself]
      exact .of_idle hidle (h.inStep j).valid (h.inStep j).width_le (h.inStep j).grant
    · rw [hother j hj]
      exact h.inStep j
  · by_cases hjk : j = k
    · subst hjk
      rw [hself] at helig ⊢
      have hwidth := ((h.inStep j).grant (live_of_eligible helig).1).2
      refine ⟨Nat.le_add_right _ _, hmin, fun o ho => ?_⟩
      have hlt : o < s.bound := h.below o ho
      have hretired : (s.publisher.levelOrdinal j).retiredOrdinal { s.publisher.sessions j with
          processedOrdinal := s.publisher.admitted } = s.publisher.admitted := if_pos hidle
      change o < (s.publisher.levelOrdinal j).retiredOrdinal { s.publisher.sessions j with
        processedOrdinal := s.publisher.admitted } + (s.publisher.sessions j).window.width
      rw [hretired]
      omega
    · rw [hother j hjk] at helig ⊢
      have hfits := h.fits j hj helig (hne j hjk)
      exact ⟨hfits.bound, hfits.ahead, hfits.room⟩
  · have hjk : j ≠ k := fun he => hlev (he ▸ rfl)
    rw [hother j hjk] at helig ⊢
    exact h.limit j hj helig (hne j hjk) (by simp [harm])
  · cases hj

lemma Paced.refresh (h : s.Paced) (harm : s.arming = .leveled k) :
    Paced { s with publisher := s.publisher.refreshGauges, arming := .idle } := by
  refine ⟨h.mode, h.window, fun j => (h.inStep j).congr rfl, h.loaded, h.assigned, h.ascending,
    h.below, fun j hj helig _ => ?_, fun j hj helig _ _ => ?_, by simp,
    h.withheld⟩
  · have hfits := h.fits j hj helig (by simp [harm])
    exact ⟨hfits.bound, hfits.ahead, hfits.room⟩
  · exact s.publisher.refreshGauges_limitSound j hj helig

/-! ### Runs -/

lemma paced_create {c : PublisherConfig} (hc : c.Valid) (hm : c.fanoutMode = .allActive)
    (epoch : UInt64) (address : Bytes) : (create c epoch address).Paced := by
  have hwindow : c.creditWindow.toNat ≤ c.ringDepth.toNat :=
    UInt32.le_iff_toNat_le.mp hc.sizes.window.2
  refine ⟨hm, hwindow, fun k => ?_, (fun _ _ _ _ h => by cases h), (fun _ _ h => by cases h),
    .nil, (fun _ h => by cases h), fun k _ helig => ?_, fun k _ helig => ?_,
    (fun _ h => by cases h), rfl⟩
  · exact .of_idle rfl ⟨le_refl 0, Nat.zero_le _⟩ hwindow fun hs => absurd rfl hs
  all_goals cases helig

lemma fanoutStep_paced {i : FanoutInput} {es : List FanoutEvent} (h : s.Paced)
    (hok : armsClear s i) (hs : fanoutStep s i = some (s', es)) : s'.Paced := by
  cases fanoutStep_change hs with
  | drifted quiet hd screened => exact (h.moves hd.moves).rescreen screened
  | opened hopen => exact h.moves (publisherStep_moves rfl hopen)
  | fanned harm hf => exact h.fanned harm hf
  | @reserved i resolved hst screened =>
    have hnew : Paced { s with stage := .reserved i resolved } :=
      h.restage (congrArg PublishStage.taken hst) rfl (by simp)
    exact hnew.rescreen screened
  | loaded hst =>
    refine h.restage (congrArg PublishStage.taken hst) rfl fun _ _ _ _ he => ?_
    cases he
    rfl
  | left hold => exact h.restage hold rfl fun _ _ _ _ he => by cases he
  | declined hst hd =>
    exact (h.moves hd.moves).restage (congrArg PublishStage.taken hst) rfl
      fun _ _ _ _ he => by cases he
  | decided hst hlets hitem => exact h.decided hok hst hlets hitem
  | overflowed hst hd => exact (h.notPushed hst _).moves hd.moves
  | pushed hst hpush => exact h.pushed hst hpush
  | counted hst => exact h.counted hst
  | swapped harm hopen => exact h.swap harm hopen
  | leveled harm => exact h.level harm hok
  | refreshed harm => exact h.refresh harm

end FanoutState

/-- The frame took the session's next sequence. -/
structure SubmittedTo (p p' : Publisher) (item : PublishItem) (k : ℕ) : Prop where
  advanced : (p'.sessions k).window.nextSequence = (p.sessions k).window.nextSequence + 1
  slot : p'.slotOf k (p.sessions k).window.nextSequence = item.slotIndex
  ordinal : p'.ordinalOf (p'.sessions k) (p.sessions k).window.nextSequence = item.ordinal

lemma Publisher.Fanned.submittedTo {p p' : Publisher} {item : PublishItem}
    {answers : ℕ → SendAnswer} (hf : p.Fanned p' item answers) {k : ℕ} (hk : k ∈ p.seats)
    (helig : (p.sessions k).state.eligible = true)
    (hroom : (p.sessions k).window.canSubmit = true) (hans : answers k ≠ .refused) :
    SubmittedTo p p' item k := by
  have hsession : ∃ pending, p'.sessions k =
      Publisher.noteSentSession (p.offeredSession (p.sessions k) item) pending := by
    rw [hf.sessions k, if_pos hk]
    simp only [Publisher.fanSession, helig, hroom, Bool.not_true, Bool.false_eq_true, if_false]
    cases ha : answers k with
    | refused => exact absurd ha hans
    | completed => exact ⟨false, rfl⟩
    | pending => exact ⟨true, rfl⟩
  obtain ⟨pending, hsession⟩ := hsession
  have hdepth := Publisher.depth_congr hf.config
  have hentry := p.recordedSession_entry
    { p.sessions k with processedOrdinal := item.ordinal + 1 } item
  refine ⟨?_, ?_, ?_⟩
  · rw [hsession]
    rfl
  · simp only [Publisher.slotOf, hdepth, hsession]
    exact congrArg InFlight.slotIndex hentry
  · simp only [Publisher.ordinalOf, hdepth, hsession]
    exact congrArg InFlight.ordinal hentry

/-- In strict mode, while no session arms across a publish, fan-out withholds no frame: the
frame it pops goes to every session that is armed or active and whose send is not refused. -/
theorem strict_fanout {c : PublisherConfig} (hc : c.validate = .ok)
    (hm : c.fanoutMode = .allActive) (epoch : UInt64) (address : Bytes)
    {trace : List FanoutEvent} {s : FanoutState}
    (h : fanoutMachine.Reaches armsClear (FanoutState.create c epoch address) trace s) :
    s.publisher.monitor.withheld = [] ∧
    ∀ answers s' es, fanoutStep s (.call (.submit answers)) = some (s', es) →
      ∃ item, s.publisher.publishQueue.items = item :: s'.publisher.publishQueue.items ∧
        ∀ k ∈ s.publisher.seats, (s.publisher.sessions k).state.eligible = true →
          answers k ≠ .refused → SubmittedTo s.publisher s'.publisher item k := by
  have hpaced : s.Paced := by
    refine h.invariant FanoutState.Paced
      (FanoutState.paced_create (PublisherConfig.validate_ok hc) hm epoch address) ?_
    intro s i s' es hs hok hstep
    exact FanoutState.fanoutStep_paced hs hok hstep
  refine ⟨hpaced.withheld, fun answers s' es hs => ?_⟩
  simp only [fanoutStep] at hs
  split_ifs at hs with hguard
  have harm : s.arming = .idle := not_not.mp fun harm => hguard ⟨rfl, harm⟩
  obtain ⟨r, hr, rfl, -⟩ := of_mapped hs
  obtain ⟨p', hp', rfl⟩ := Option.map_eq_some_iff.mp hr
  obtain ⟨item, hf⟩ := Publisher.submitReady_fanned hp'
  refine ⟨item, hf.popped, fun k hk helig hans => hf.submittedTo hk helig ?_ hans⟩
  have hfits := hpaced.fits k hk helig (by simp [harm])
  have hhead : item.ordinal ∈ s.ordinals := by simp [FanoutState.ordinals, hf.popped]
  exact (hpaced.inStep k).canSubmit (hfits.ahead _ hhead) (hfits.room _ hhead)

/-- The sample publisher in strict mode. -/
def strictConfig : PublisherConfig := { sampleConfig with fanoutMode := .allActive }

/-- The steps of a publish that nothing interrupts. -/
def publishSteps (i : ℕ) (resolved : FrameMetadata) : List FanoutInput :=
  [.screen i resolved, .reserve i resolved, .load, .decide 5, .push, .count, .leave]

/-- The steps that arm a session, uninterrupted. -/
def armSteps (n : UInt64) : List FanoutInput := [.probeAck (sampleProbeAck n), .level, .refresh]

/-- The metadata of a sample frame as `publish` resolves it. -/
def resolvedSample : FrameMetadata := (sampleMetadata.resolve strictConfig.maxFrameBytes).2

open FanoutInput in
/-- Two armed sessions, the second with a window of one frame, and a frame for both. -/
theorem strict_fanout_sample : ∃ trace s,
    fanoutMachine.Reaches armsClear (FanoutState.create strictConfig 1 [1]) trace s ∧
    (.accepted 0 [0, 1] ∈ trace ∧ (s.publisher.sessions 1).window.nextSequence = 1) ∧
    s.publisher.monitor.withheld = [] := by
  obtain ⟨trace, s, hreach, hstate⟩ :=
    fanoutMachine.exists_of_run armsClear (FanoutState.create strictConfig 1 [1])
      ([call (.open 0 sampleOpen (sampleFresh 7))] ++ armSteps 7 ++
        [call (.open 1 { sampleOpen with requestedCreditWindow := 1 } (sampleFresh 8))] ++
        armSteps 8 ++ [call .acquire] ++ publishSteps 0 resolvedSample ++
        [call (.submit fun _ => .completed)])
      (P := fun s trace => .accepted 0 [0, 1] ∈ trace ∧
        (s.publisher.sessions 1).window.nextSequence = 1) (by decide +kernel)
  exact ⟨trace, s, hreach, hstate,
    (strict_fanout (c := strictConfig) (by decide) rfl 1 [1] hreach).1⟩

open FanoutInput in
/-- A session with a window of one frame arms while an older frame is queued. The frame that
is accepted next, with the session armed, is withheld from it: the older one has filled its
window. -/
theorem fanout_not_strict : ∃ trace s,
    fanoutMachine.Reaches anyStep (FanoutState.create strictConfig 1 [1]) trace s ∧
    .accepted 1 [0, 1] ∈ trace ∧ (s.publisher.sessions 1).state = .active ∧
    s.publisher.monitor.withheld = [(1, 1)] :=
  fanoutMachine.exists_of_run anyStep (FanoutState.create strictConfig 1 [1])
    ([call (.open 0 sampleOpen (sampleFresh 7))] ++ armSteps 7 ++
      [call .acquire, call .acquire] ++ publishSteps 0 resolvedSample ++
      [call (.open 1 { sampleOpen with requestedCreditWindow := 1 } (sampleFresh 8))] ++
      armSteps 8 ++ publishSteps 1 resolvedSample ++
      [call (.submit fun _ => .completed), call (.submit fun _ => .completed)]) (by decide +kernel)

end TangoBulk
