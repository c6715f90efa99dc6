import TangoBulk.PublisherAdmission

/-! Ordinals under concurrency. The engine may take a frame off the queue, and count it as
processed, before the publish that pushed it has counted it as admitted. -/
namespace TangoBulk

open ByteString Transition

/-! ### Sessions within a bound -/

/-- Nothing the session has recorded is past the first `n` ordinals. -/
structure Session.Within (n : ℕ) (s : Session) : Prop where
  processed : s.processedOrdinal ≤ n
  entries : ∀ index, (s.inflight index).ordinal ≤ n

namespace Publisher

variable {p p' : Publisher} {s s' : Session} {n : ℕ}

lemma within_mono {m : ℕ} (h : s.Within n) (hle : n ≤ m) : s.Within m :=
  ⟨h.processed.trans hle, fun index => (h.entries index).trans hle⟩

lemma Undisturbed.within (hu : Undisturbed s s') (h : s.Within n) : s'.Within n := by
  constructor
  · rw [hu.processed]
    exact h.processed
  · rw [hu.inflight]
    exact h.entries

lemma Move.within (hm : p.Move s s') (h : s.Within n) : s'.Within n := by
  cases hm with
  | undisturbed hu => exact hu.within h
  | credited => exact ⟨h.processed, h.entries⟩
  | retired => exact ⟨Nat.zero_le n, h.entries⟩
  | claimed => exact ⟨h.processed, h.entries⟩

lemma recordedSession_within {item : PublishItem} (h : s.Within n) (hitem : item.ordinal ≤ n) :
    (p.recordedSession s item).Within n := by
  refine ⟨h.processed, fun index => ?_⟩
  unfold recordedSession
  dsimp only
  by_cases hindex : index = s.window.nextSequence % p.depth
  · rw [hindex, Function.update_self]
    exact hitem
  · rw [Function.update_of_ne hindex]
    exact h.entries index

lemma fanSession_within {item : PublishItem} (answer : SendAnswer) (h : s.Within n)
    (hitem : item.ordinal < n) : (p.fanSession item answer s).Within n := by
  have hseen : ({ s with processedOrdinal := item.ordinal + 1 } : Session).Within n :=
    ⟨hitem, h.entries⟩
  have hrecorded := recordedSession_within (p := p) hseen hitem.le
  unfold fanSession
  split_ifs
  · exact h
  · exact ⟨hseen.processed, hseen.entries⟩
  · cases answer with
    | refused => exact (endedSession_undisturbed _ .transport).within hrecorded
    | completed | pending => exact ⟨hrecorded.processed, hrecorded.entries⟩

lemma retiredOrdinal_le (p : Publisher) (h : s.Within n) : p.retiredOrdinal s ≤ n := by
  unfold retiredOrdinal
  split_ifs
  · exact h.processed
  · exact h.entries _

lemma refreshGauges_credited_le (hadmitted : p.admitted ≤ n)
    (h : ∀ k, (p.sessions k).Within n) : p.refreshGauges.credited ≤ n := by
  have hretired : ∀ k ∈ p.armedSeats, p.retiredOrdinal (p.sessions k) ≤ n :=
    fun k _ => p.retiredOrdinal_le (h k)
  simp only [refreshGauges, List.foldl_map]
  split_ifs
  · exact hadmitted
  · exact (foldl_min_le _ p.armedSeats p.admitted).1.trans hadmitted
  · exact foldl_max_le _ p.armedSeats (Nat.zero_le n) hretired

lemma Drifts.credited_le (hd : p.Drifts p') (hadmitted : p.admitted ≤ n)
    (hcredited : p.credited ≤ n) (h : ∀ k, (p'.sessions k).Within n) : p'.credited ≤ n := by
  obtain hsteady | ⟨q, rfl⟩ := hd.gauges
  · have hsame : p'.credited = p.credited := congrArg Prod.fst hsteady.gauges
    rw [hsame]
    exact hcredited
  · have hq : q.admitted = p.admitted := congrArg Ledger.admitted hd.ledger
    exact refreshGauges_credited_le (hq ▸ hadmitted) h

end Publisher

/-! ### Frames pushed, counted and popped -/

namespace PublishStage

/-- The frame of this publish is in the queue and not yet counted. -/
def uncounted : PublishStage → ℕ
  | .pushed .. => 1
  | _ => 0

/-- The item a publish has made and not counted. -/
def item : PublishStage → Option PublishItem
  | .admitting _ item | .pushed _ item => some item
  | _ => none

lemma uncounted_of_taken {stage : PublishStage} (h : stage.taken = 0) : stage.uncounted = 0 := by
  cases stage <;> simp_all [taken, uncounted]

end PublishStage

/-- The frames that were ever in the queue. -/
def FanoutState.issued (s : FanoutState) : ℕ := s.publisher.admitted + s.stage.uncounted

/-- A state with what happened to the frames: the ordinals in the order in which they left the
queue, and in the order in which `publish` reported them accepted. -/
structure FanoutHistory where
  state : FanoutState
  left : List ℕ := []
  accepted : List ℕ := []

/-- The frame that a step takes off the queue. -/
def FanoutState.leaving (s : FanoutState) : FanoutInput → List ℕ
  | .call (.submit _) => (s.publisher.publishQueue.items.take 1).map (·.ordinal)
  | _ => []

/-- The steps of the publish that holds the reservation. -/
def FanoutInput.ofHolder : FanoutInput → Bool
  | .load | .decide _ | .push | .count | .leave => true
  | .call _ | .screen .. | .reserve .. | .probeAck _ | .level | .refresh => false

namespace FanoutHistory

def create (c : PublisherConfig) (epoch : UInt64) (address : Bytes) : FanoutHistory where
  state := FanoutState.create c epoch address

def step (h : FanoutHistory) (i : FanoutInput) : Option (FanoutHistory × List FanoutEvent) :=
  (fanoutStep h.state i).map fun r =>
    ({ state := r.1
       left := h.left ++ h.state.leaving i
       accepted := h.accepted ++ r.2.filterMap FanoutEvent.ordinal }, r.2)

end FanoutHistory

def historyMachine : Machine FanoutHistory FanoutInput FanoutEvent := ⟨FanoutHistory.step⟩

namespace FanoutState

variable {s s' : FanoutState} {i : FanoutInput} {es : List FanoutEvent} {left : List ℕ}

open Publisher

/-! ### Whose step it is -/

/-- The others report no accepted frame, and at most take a free reservation. -/
lemma Change.others (h : s.Change i es s') (hi : i.ofHolder = false) :
    es.filterMap FanoutEvent.ordinal = [] ∧
      (s'.stage = s.stage ∨ s.stage = .idle ∧ ∃ j resolved, s'.stage = .reserved j resolved) := by
  cases h with
  | drifted quiet => exact ⟨quiet, .inl rfl⟩
  | opened | fanned => exact ⟨FanoutEvent.ordinals_called _, .inl rfl⟩
  | reserved hst => exact ⟨rfl, .inr ⟨hst, _, _, rfl⟩⟩
  | swapped | leveled | refreshed => exact ⟨rfl, .inl rfl⟩
  | _ => cases hi

/-- A frame is reported once it was counted. -/
lemma Change.reports (h : s.Change i es s') (hcount : i ≠ .count) :
    es.filterMap FanoutEvent.ordinal ++ s'.stage.counted = s.stage.counted := by
  cases h with
  | drifted quiet =>
    rw [quiet]
    rfl
  | opened | fanned =>
    rw [FanoutEvent.ordinals_called]
    rfl
  | left hold told =>
    rw [told]
    exact List.append_nil _
  | counted => exact absurd rfl hcount
  | swapped | leveled | refreshed => rfl
  | reserved hst | loaded hst | declined hst | decided hst | overflowed hst | pushed hst =>
    rw [hst]
    rfl

lemma Change.admitted (h : s.Change i es s') (hcount : i ≠ .count) :
    s'.publisher.admitted = s.publisher.admitted := by
  cases h with
  | drifted quiet hd => exact congrArg Ledger.admitted hd.ledger
  | opened hopen => exact congrArg Ledger.admitted (publisherStep_moves rfl hopen).ledger
  | fanned harm hf => exact hf.admitted
  | declined hst hd | overflowed hst hd => exact congrArg Ledger.admitted hd.ledger
  | counted => exact absurd rfl hcount
  | _ => rfl

/-! ### The invariant -/

/-- The queue holds what was issued and has not left, and no session and no gauge is past it. -/
structure Numbered (left : List ℕ) (s : FanoutState) : Prop where
  left : left ++ s.publisher.publishQueue.items.map (·.ordinal) = List.range s.issued
  loaded : ∀ i resolved a c, s.stage = .loaded i resolved a c →
    a = s.publisher.admitted ∧ c ≤ a
  made : ∀ item, s.stage.item = some item → item.ordinal = s.publisher.admitted
  sessions : ∀ k, (s.publisher.sessions k).Within s.issued
  credited : s.publisher.credited ≤ s.issued

lemma admitted_le_issued (s : FanoutState) : s.publisher.admitted ≤ s.issued :=
  Nat.le_add_right _ _

variable {p' : Publisher} {item : PublishItem}

lemma Numbered.engine {screened : List (ℕ × FrameMetadata)} {arming : ArmStage}
    (h : s.Numbered left) (hledger : p'.ledger = s.publisher.ledger)
    (hsessions : ∀ k, (p'.sessions k).Within s.issued) (hcredited : p'.credited ≤ s.issued) :
    Numbered left { s with publisher := p', screened := screened, arming := arming } := by
  have hadmitted : p'.admitted = s.publisher.admitted := congrArg Ledger.admitted hledger
  have hqueue : p'.publishQueue = s.publisher.publishQueue :=
    congrArg Ledger.publishQueue hledger
  have hissued : { s with publisher := p', screened := screened, arming := arming }.issued =
      s.issued := by
    simp only [issued, hadmitted]
  refine ⟨?_, fun i r a c hst => ?_, fun item hst => ?_, ?_, ?_⟩
  · rw [hissued, hqueue]
    exact h.left
  · obtain ⟨ha, hle⟩ := h.loaded i r a c hst
    exact ⟨ha.trans hadmitted.symm, hle⟩
  · exact (h.made item hst).trans hadmitted.symm
  · rw [hissued]
    exact hsessions
  · rw [hissued]
    exact hcredited

lemma Numbered.drifts (h : s.Numbered left) (hd : s.publisher.Drifts p')
    (screened : List (ℕ × FrameMetadata)) :
    Numbered left { s with publisher := p', screened := screened } := by
  have hsessions : ∀ k, (p'.sessions k).Within s.issued := fun k =>
    (hd.sessions k).move.within (h.sessions k)
  exact h.engine hd.ledger hsessions (hd.credited_le s.admitted_le_issued h.credited hsessions)

lemma Numbered.reseat {k : ℕ} {session : Session} {arming : ArmStage} (h : s.Numbered left)
    (hsession : session.Within s.issued) :
    Numbered left { s with publisher := s.publisher.setSession k session, arming := arming } := by
  refine h.engine rfl (fun j => ?_) h.credited
  by_cases hj : j = k
  · rw [hj, setSession_self]
    exact hsession
  · rw [setSession_of_ne _ _ hj]
    exact h.sessions j

lemma Numbered.restage {stage : PublishStage} (h : s.Numbered left)
    (hold : s.stage.uncounted = 0) (hnew : stage.uncounted = 0)
    (hloaded : ∀ i resolved a c, stage = .loaded i resolved a c →
      a = s.publisher.admitted ∧ c ≤ a)
    (hmade : ∀ item, stage.item = some item → item.ordinal = s.publisher.admitted)
    (screened : List (ℕ × FrameMetadata)) :
    Numbered left { s with stage := stage, screened := screened } := by
  have hissued : { s with stage := stage, screened := screened }.issued = s.issued := by
    simp only [issued, hold, hnew]
  refine ⟨?_, hloaded, hmade, ?_, ?_⟩
  · rw [hissued]
    exact h.left
  · rw [hissued]
    exact h.sessions
  · rw [hissued]
    exact h.credited

lemma Numbered.fanned {answers : ℕ → SendAnswer} (h : s.Numbered left)
    (hf : s.publisher.Fanned p' item answers) :
    Numbered (left ++ [item.ordinal]) { s with publisher := p' } := by
  have hqueue : s.publisher.publishQueue.items.map (·.ordinal) =
      item.ordinal :: p'.publishQueue.items.map (·.ordinal) := by
    rw [hf.popped, List.map_cons]
  have hleft := h.left
  rw [hqueue] at hleft
  have hitem : item.ordinal < s.issued := by
    rw [← List.mem_range, ← hleft]
    simp
  have hissued : { s with publisher := p' }.issued = s.issued := by
    simp only [issued, hf.admitted]
  have hsessions : ∀ k, (p'.sessions k).Within s.issued := by
    intro k
    rw [hf.sessions k]
    split_ifs
    · exact fanSession_within (answers k) (h.sessions k) hitem
    · exact h.sessions k
  refine ⟨?_, fun i r a c hst => ?_, fun item hst => ?_, ?_, ?_⟩
  · rw [hissued, List.append_assoc]
    exact hleft
  · obtain ⟨ha, hle⟩ := h.loaded i r a c hst
    exact ⟨ha.trans hf.admitted.symm, hle⟩
  · exact (h.made item hst).trans hf.admitted.symm
  · rw [hissued]
    exact hsessions
  · rw [hissued]
    obtain ⟨q, rfl⟩ := hf.refreshed
    have hadmitted : q.admitted = s.publisher.admitted := hf.admitted
    exact refreshGauges_credited_le (hadmitted.trans_le s.admitted_le_issued) hsessions

lemma Numbered.pushed {i : ℕ} {queue : Fifo PublishItem} (h : s.Numbered left)
    (hst : s.stage = .admitting i item) (hpush : s.publisher.publishQueue.push item = some queue) :
    Numbered left { s with publisher := { s.publisher with publishQueue := queue },
                           stage := .pushed i item } := by
  have hitems := (Fifo.push_eq_some.mp hpush).2.1
  have hordinal : item.ordinal = s.publisher.admitted := h.made item (by rw [hst]; rfl)
  have hbefore : s.issued = s.publisher.admitted := by
    simp only [issued, hst, PublishStage.uncounted, Nat.add_zero]
  have hle : s.issued ≤ s.publisher.admitted + 1 := by omega
  have hleft := h.left
  refine ⟨?_, by simp, fun item' he => ?_, fun k => ?_, ?_⟩
  · change left ++ queue.items.map (·.ordinal) = List.range (s.publisher.admitted + 1)
    rw [hitems, List.map_append, ← List.append_assoc, hleft, hbefore, List.range_succ, ← hordinal]
    rfl
  · cases he
    exact hordinal
  · exact within_mono (h.sessions k) hle
  · exact h.credited.trans hle

lemma Numbered.counted {i : ℕ} (h : s.Numbered left) (hst : s.stage = .pushed i item) :
    Numbered left { s with publisher := s.publisher.acceptPublish i, stage := .accepted item } := by
  have hissued : { s with publisher := s.publisher.acceptPublish i,
                          stage := PublishStage.accepted item }.issued = s.issued := by
    simp only [issued, hst, PublishStage.uncounted]
    rfl
  refine ⟨?_, by simp, (fun _ h => by cases h), ?_, ?_⟩
  · rw [hissued]
    exact h.left
  · rw [hissued]
    exact h.sessions
  · rw [hissued]
    exact h.credited

lemma Numbered.load {i : ℕ} {resolved : FrameMetadata} (h : s.Numbered left)
    (hst : s.stage = .reserved i resolved) :
    Numbered left { s with
      stage := .loaded i resolved s.publisher.admitted s.publisher.credited } := by
  have hissued : s.issued = s.publisher.admitted := by
    simp only [issued, hst, PublishStage.uncounted, Nat.add_zero]
  refine h.restage (by rw [hst]; rfl) rfl (fun _ _ a c he => ?_) (fun _ he => by cases he) s.screened
  cases he
  exact ⟨rfl, h.credited.trans_eq hissued⟩

lemma Numbered.submit {answers : ℕ → SendAnswer} (h : s.Numbered left)
    (hs : fanoutStep s (.call (.submit answers)) = some (s', es)) :
    Numbered (left ++ s.leaving (.call (.submit answers))) s' := by
  simp only [fanoutStep] at hs
  split_ifs at hs
  obtain ⟨r, hr, rfl, -⟩ := of_mapped hs
  obtain ⟨p', hp', rfl⟩ := Option.map_eq_some_iff.mp hr
  obtain ⟨item, hf⟩ := submitReady_fanned hp'
  have hleaving : s.leaving (.call (.submit answers)) = [item.ordinal] := by
    simp only [leaving, hf.popped]
    rfl
  rw [hleaving]
  exact h.fanned hf

lemma Numbered.step (h : s.Numbered left) (hs : fanoutStep s i = some (s', es)) :
    Numbered (left ++ s.leaving i) s' := by
  by_cases hsubmit : ∃ answers, i = .call (.submit answers)
  · obtain ⟨answers, rfl⟩ := hsubmit
    exact h.submit hs
  have hleaving : s.leaving i = [] := by
    unfold leaving
    split
    · exact absurd ⟨_, rfl⟩ hsubmit
    · rfl
  rw [hleaving, List.append_nil]
  obtain hchange := fanoutStep_change hs
  cases hchange with
  | drifted quiet hd screened => exact h.drifts hd screened
  | opened hopen =>
    have hmoves := publisherStep_moves rfl hopen
    obtain ⟨-, rfl, -⟩ := of_guard hopen
    exact h.engine hmoves.ledger (fun k => (hmoves.sessions k).within (h.sessions k)) h.credited
  | fanned => exact absurd ⟨_, rfl⟩ hsubmit
  | reserved hst screened =>
    exact h.restage (by rw [hst]; rfl) rfl (fun _ _ _ _ he => by cases he)
      (fun _ he => by cases he) screened
  | loaded hst => exact h.load hst
  | left hold =>
    exact h.restage (PublishStage.uncounted_of_taken hold) rfl (fun _ _ _ _ he => by cases he)
      (fun _ he => by cases he) s.screened
  | declined hst hd | overflowed hst hd =>
    exact (h.drifts hd s.screened).restage (by dsimp only; rw [hst]; rfl) rfl
      (fun _ _ _ _ he => by cases he) (fun _ he => by cases he) s.screened
  | decided hst hlets hitem =>
    obtain ⟨ha, -⟩ := h.loaded _ _ _ _ hst
    refine h.restage (by rw [hst]; rfl) rfl (fun _ _ _ _ he => by cases he) (fun item he => ?_)
      s.screened
    cases he
    exact hitem.trans ha
  | pushed hst hpush => exact h.pushed hst hpush
  | counted hst => exact h.counted hst
  | swapped =>
    have hold := h.sessions
    exact h.reseat ⟨(hold _).processed, (hold _).entries⟩
  | leveled harm => exact h.reseat ⟨s.admitted_le_issued, (h.sessions _).entries⟩
  | refreshed =>
    exact h.engine rfl h.sessions (refreshGauges_credited_le s.admitted_le_issued h.sessions)

lemma numbered_create (c : PublisherConfig) (epoch : UInt64) (address : Bytes) :
    Numbered [] (create c epoch address) where
  left := rfl
  loaded := fun _ _ _ _ h => by cases h
  made := fun _ h => by cases h
  sessions := fun _ => ⟨le_rfl, fun _ => le_rfl⟩
  credited := le_rfl

end FanoutState

/-! ### Runs -/

namespace FanoutHistory

/-- The history is that of frames numbered in order. -/
structure InOrder (h : FanoutHistory) : Prop where
  numbered : h.state.Numbered h.left
  accepted : h.accepted ++ h.state.stage.counted = List.range h.state.publisher.admitted

variable {h h' : FanoutHistory} {i : FanoutInput} {es : List FanoutEvent}

lemma step_eq_some (hs : h.step i = some (h', es)) :
    fanoutStep h.state i = some (h'.state, es) ∧ h'.left = h.left ++ h.state.leaving i ∧
      h'.accepted = h.accepted ++ es.filterMap FanoutEvent.ordinal := by
  obtain ⟨⟨s', events⟩, hstep, rfl, rfl⟩ := of_mapped hs
  exact ⟨hstep, rfl, rfl⟩

lemma InOrder.step (hin : h.InOrder) (hs : h.step i = some (h', es)) : h'.InOrder := by
  obtain ⟨hstep, hleft, haccepted⟩ := step_eq_some hs
  refine ⟨?_, ?_⟩
  · rw [hleft]
    exact hin.numbered.step hstep
  have hold := hin.accepted
  by_cases hcount : i = .count
  · subst hcount
    simp only [fanoutStep] at hstep
    split at hstep
    case h_1 slot item hst =>
      obtain ⟨hstate, rfl⟩ := of_some_eq hstep
      have hordinal := hin.numbered.made item (by rw [hst]; rfl)
      rw [hst] at hold
      rw [haccepted, ← hstate]
      change h.accepted ++ [] ++ [item.ordinal] = List.range (h.state.publisher.admitted + 1)
      have hall : h.accepted = List.range h.state.publisher.admitted := by
        simpa [PublishStage.counted] using hold
      rw [List.append_nil, List.range_succ, hordinal, hall]
    case h_2 => cases hstep
  · have hchange := FanoutState.fanoutStep_change hstep
    rw [haccepted, List.append_assoc, hchange.reports hcount, hold,
      hchange.admitted hcount]

lemma inOrder_of_reaches {c : PublisherConfig} {epoch : UInt64} {address : Bytes}
    {trace : List FanoutEvent}
    (hreach : historyMachine.Reaches anyStep (create c epoch address) trace h) : h.InOrder := by
  refine hreach.invariant InOrder ⟨FanoutState.numbered_create c epoch address, rfl⟩ ?_
  intro h i h' es hin _ hs
  exact hin.step hs

/-- Steps of everyone but the publish that holds the reservation. -/
def othersOnly (_ : FanoutHistory) (i : FanoutInput) : Prop := i.ofHolder = false

instance (h : FanoutHistory) (i : FanoutInput) : Decidable (othersOnly h i) :=
  inferInstanceAs (Decidable (_ = _))

lemma waiting_of_reaches {trace : List FanoutEvent} {j : ℕ} {resolved : FrameMetadata}
    (hstage : h.state.stage = .reserved j resolved)
    (hreach : historyMachine.Reaches othersOnly h trace h') :
    h'.state.stage = .reserved j resolved ∧
      h'.state.publisher.admitted = h.state.publisher.admitted := by
  refine hreach.invariant (fun h' => h'.state.stage = .reserved j resolved ∧
    h'.state.publisher.admitted = h.state.publisher.admitted) ⟨hstage, rfl⟩ ?_
  rintro h₁ i h₂ es ⟨hheld, hsame⟩ hothers hs
  obtain ⟨hstep, -⟩ := step_eq_some hs
  have hcount : i ≠ .count := by
    rintro rfl
    cases hothers
  refine ⟨?_, ((FanoutState.fanoutStep_change hstep).admitted hcount).trans hsame⟩
  obtain ⟨-, hkept | ⟨hidle, -⟩⟩ := (FanoutState.fanoutStep_change hstep).others hothers
  · rw [hkept]
    exact hheld
  · rw [hheld] at hidle
    cases hidle

end FanoutHistory

/-- In every interleaving: the count that a publish reads under the reservation is not below the
gauge it reads after it, however long that takes, so the difference of the words is that of the
numbers; the frames leave the queue in the order of their ordinals, which are all those issued;
and the accepted ones are numbered from zero without a gap. Counts and ordinals are numbers here,
so the run is one of fewer than `2 ^ 64` frames. -/
theorem admission_in_order {c : PublisherConfig} {epoch : UInt64} {address : Bytes}
    {trace : List FanoutEvent} {h : FanoutHistory}
    (hreach : historyMachine.Reaches anyStep (.create c epoch address) trace h) :
    (∀ j resolved trace' h', h.state.stage = .reserved j resolved →
      historyMachine.Reaches FanoutHistory.othersOnly h trace' h' →
      h'.state.publisher.credited ≤ h.state.publisher.admitted) ∧
    (∀ j resolved admitted credited, h.state.stage = .loaded j resolved admitted credited →
      credited ≤ admitted ∧
      (admitted < 2 ^ 64 → (admitted + 2 ^ 64 - credited) % 2 ^ 64 = admitted - credited)) ∧
    h.left ++ h.state.publisher.publishQueue.items.map (·.ordinal) =
      List.range (h.state.publisher.admitted + h.state.stage.uncounted) ∧
    h.accepted ++ h.state.stage.counted = List.range h.state.publisher.admitted := by
  have hin := FanoutHistory.inOrder_of_reaches hreach
  refine ⟨?_, ?_, hin.numbered.left, hin.accepted⟩
  · intro j resolved trace' h' hstage hwait
    obtain ⟨hstage', hadmitted⟩ := FanoutHistory.waiting_of_reaches hstage hwait
    have hlater := hreach.trans (hwait.weaken fun _ _ _ => trivial)
    have hcredited := (FanoutHistory.inOrder_of_reaches hlater).numbered.credited
    have hissued : h'.state.issued = h.state.publisher.admitted := by
      simp only [FanoutState.issued, hstage', hadmitted, PublishStage.uncounted, Nat.add_zero]
    exact hcredited.trans_eq hissued
  · intro j resolved admitted credited hstage
    obtain ⟨-, hle⟩ := hin.numbered.loaded j resolved admitted credited hstage
    refine ⟨hle, fun hfits => ?_⟩
    omega

/-- The first frame is popped, sent and credited before it is counted; the gauge is past the count
then, and level with it when the next publish reads both. -/
theorem admission_in_order_sample :
    ∃ trace h, historyMachine.Reaches anyStep (.create sampleConfig 1 [1]) trace h ∧
      (∃ resolved, h.state.stage = .loaded 1 resolved 1 1 ∧ 1 - 1 = (1 + 2 ^ 64 - 1) % 2 ^ 64) ∧
      h.left = [0] ∧ h.accepted = [0] := by
  obtain ⟨trace, h, hreach, hstage, hleft, haccepted⟩ := historyMachine.exists_of_run anyStep
    (.create sampleConfig 1 [1])
    [.call (.open 0 sampleOpen (sampleFresh 7)), .probeAck (sampleProbeAck 7), .level, .refresh,
      .call .acquire, .screen 0 sampleMetadata,
      .reserve 0 (sampleMetadata.resolve sampleConfig.maxFrameBytes).2, .load, .decide 5, .push,
      .call (.submit fun _ => .completed), .call (.credit (sampleCredit 7 0)), .count, .leave,
      .call .acquire, .screen 1 sampleMetadata,
      .reserve 1 (sampleMetadata.resolve sampleConfig.maxFrameBytes).2, .load]
    (P := fun h _ => h.state.stage = .loaded 1
        (sampleMetadata.resolve sampleConfig.maxFrameBytes).2 1 1 ∧
      h.left = [0] ∧ h.accepted = [0]) (by decide +kernel)
  obtain ⟨-, hloaded, -⟩ := admission_in_order hreach
  obtain ⟨-, hwords⟩ := hloaded _ _ _ _ hstage
  exact ⟨trace, h, hreach, ⟨_, hstage, (hwords (by decide)).symm⟩, hleft, haccepted⟩

end TangoBulk
