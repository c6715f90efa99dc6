import TangoBulk.PublisherAnswers

/-! How long an ended session is remembered. Its identifier stays in its seat until an Open claims
the seat, and an Open takes a never-used seat first and otherwise the one retired longest ago. -/
namespace TangoBulk

open ByteString Transition Function

/-! ### The order of retirement -/

namespace Publisher

variable {p p' : Publisher} {k : ℕ}

lemma shelf_trySend (p : Publisher) (k : ℕ) (item : PublishItem) (answer : SendAnswer) :
    (p.trySend k item answer).2.shelf = p.shelf := by
  have hrecorded : (p.recordInFlight k item).shelf = p.shelf :=
    shelf_setSession (p := p) (k := k) rfl rfl
  have hsent : ∀ pending, ((p.recordInFlight k item).noteSent k item pending).shelf =
      (p.recordInFlight k item).shelf := by
    intro pending
    have hset := shelf_setSession (p := p.recordInFlight k item) (k := k)
      (s := noteSentSession ((p.recordInFlight k item).sessions k) pending) rfl rfl
    cases pending with
    | false | true => exact hset
  cases answer with
  | refused => exact hrecorded
  | completed => exact (hsent false).trans hrecorded
  | pending => exact (hsent true).trans hrecorded

lemma shelf_arm (p : Publisher) (k : ℕ) : (p.arm k).shelf = p.shelf := by
  unfold arm
  dsimp only
  split_ifs
  · exact shelf_setSession (p := p) (k := k) rfl rfl
  · rfl

lemma shelf_endStep (p : Publisher) (k : ℕ) (reason : EndReason) (stage : EndStage) :
    (p.endStep k reason stage).1.shelf = p.shelf := by
  cases stage with
  | begun => rfl
  | loaded =>
    unfold endStep swapEnd
    dsimp only
    split_ifs
    · exact shelf_setSession (p := p) (k := k) rfl rfl
    · rfl
  | claimed => exact shelf_setSession (p := p) (k := k) rfl rfl

lemma shelf_claimSeat (p : Publisher) (k : ℕ) (request : OpenRequest) (fresh : Fresh) :
    (p.claimSeat k request fresh).shelf = p.shelf :=
  shelf_setSession (p := p) (k := k) rfl rfl

lemma shelf_abandonClaim (p : Publisher) (k : ℕ) (failure : DrawFailure) :
    (p.abandonClaim k failure).shelf = p.shelf :=
  shelf_setSession (p := p) (k := k) rfl rfl

lemma shelf_teardown (p : Publisher) (k : ℕ) :
    (p.teardown k).shelf.counter = p.shelf.counter + 1 ∧ (p.teardown k).shelf.retiredSeq =
      update p.shelf.retiredSeq k (p.shelf.counter + 1) ∧
    ∀ j, j ≠ k → (p.teardown k).shelf.poisoned j = p.shelf.poisoned j := by
  have hsessions := sessions_teardown p k
  refine ⟨rfl, funext fun j => ?_, fun j hj => ?_⟩
  · by_cases hj : j = k
    · subst hj
      simp [shelf, hsessions, retiredSession]
    · simp [shelf, hsessions, hj]
  · simp [shelf, hsessions, hj]

end Publisher

namespace CoordState

variable {s s' : CoordState} {i : CoordInput} {es : List CoordEvent} {k : ℕ}

lemma state_endStep {r : Roster} {j : ℕ} {reason : EndReason} {stage : EndStage}
    (h : ((r.endStep k reason stage).1.seats j).state = .closed) : (r.seats j).state = .closed := by
  cases stage with
  | begun => exact h
  | loaded =>
    simp only [Roster.endStep] at h
    split_ifs at h
    · grind
    · exact h
  | claimed =>
    simp only [Roster.endStep] at h
    grind

/-- A step leaves the shelf alone and closes no seat, or it is the teardown of one. -/
lemma step_shelf (hs : s.step i = some (s', es)) :
    (s'.publisher.shelf = s.publisher.shelf ∧
      ∀ j, s'.table.state j = .closed → s.table.state j = .closed) ∨
    ∃ k, s.table.use = .tearing k ∧ s'.publisher = s.publisher.teardown k := by
  have htouch := (step_moves hs).touch
  change (s'.publisher.shelf = s.publisher.shelf ∧
    ∀ j, (s'.publisher.roster.seats j).state = .closed →
      (s.publisher.roster.seats j).state = .closed) ∨ _
  generalize s'.publisher = p' at htouch
  have hkept : p'.records = s.publisher.records → (p'.shelf = s.publisher.shelf ∧
      ∀ j, (p'.roster.seats j).state = .closed → (s.publisher.roster.seats j).state = .closed) ∨
      ∃ k, s.table.use = .tearing k ∧ p' = s.publisher.teardown k := by
    intro hrecords
    obtain ⟨hroster, hshelf⟩ := Prod.mk.inj hrecords
    exact .inl ⟨hshelf, fun j hclosed => by rw [hroster] at hclosed; exact hclosed⟩
  cases htouch with
  | counts => exact .inl ⟨rfl, fun _ hclosed => hclosed⟩
  | none | pops | drops => exact hkept rfl
  | calls may taken => exact hkept (records_call may taken)
  | claims call k request fresh =>
    refine .inl ⟨s.publisher.shelf_claimSeat k request fresh, fun j hclosed => ?_⟩
    rw [Publisher.roster_claimSeat] at hclosed
    simp only [Roster.claim] at hclosed
    grind
  | abandons call k failure =>
    refine .inl ⟨s.publisher.shelf_abandonClaim k failure, fun j hclosed => ?_⟩
    rwa [Publisher.roster_abandonClaim, Roster.state_abandon] at hclosed
  | ends k reason stage =>
    refine .inl ⟨s.publisher.shelf_endStep k reason stage, fun j hclosed => ?_⟩
    rw [(s.publisher.roster_endStep k reason stage).1] at hclosed
    exact state_endStep hclosed
  | visits item k =>
    exact hkept (s.publisher.records_visitSeat item k)
  | sends k item answer =>
    refine .inl ⟨s.publisher.shelf_trySend k item answer, fun j hclosed => ?_⟩
    rw [Publisher.roster_trySend] at hclosed
    simp only [Roster.activate] at hclosed
    split_ifs at hclosed
    · grind
    all_goals exact hclosed
  | finishes item =>
    exact hkept (s.publisher.records_finishFanOut item)
  | arms k =>
    refine .inl ⟨s.publisher.shelf_arm k, fun j hclosed => ?_⟩
    rw [Publisher.roster_arm] at hclosed
    simp only [Roster.arm] at hclosed
    split_ifs at hclosed
    · grind
    · exact hclosed
  | @tearsDown k loop task =>
    refine .inr ⟨k, ?_, rfl⟩
    simp [table, task, EngineTask.use]

end CoordState

/-! ### The seats ahead of one -/

namespace Publisher

variable {p p' : Publisher} {k : ℕ}

/-- An Open takes seat `j` before seat `k`: it was never used, or retired before `k` and may be
used again. -/
def precedes (p : Publisher) (j k : ℕ) : Bool :=
  (p.sessions j).state = .unknown ∨ ((p.sessions j).state = .closed ∧
    (p.sessions j).poisoned = false ∧ (p.sessions j).retiredSeq < (p.sessions k).retiredSeq)

def ahead (p : Publisher) (k : ℕ) : ℕ := p.seats.countP fun j => p.precedes j k

lemma precedes_iff {j : ℕ} : p.precedes j k = true ↔ (p.sessions j).state = .unknown ∨
    ((p.sessions j).state = .closed ∧ (p.sessions j).poisoned = false ∧
      (p.sessions j).retiredSeq < (p.sessions k).retiredSeq) := by
  simp [precedes]

/-- The seat loop returns a used seat only if none of those it looked at is ahead of it. -/
lemma selectFrom_first (p : Publisher) (ks : List ℕ) (best : Option ℕ)
    (h : p.selectFrom ks best = some k) (hused : (p.sessions k).state ≠ .unknown) :
    (∀ j ∈ ks, p.precedes j k = false) ∧
      ∀ b ∈ best, (p.sessions k).retiredSeq ≤ (p.sessions b).retiredSeq := by
  have hlater : ∀ j, (p.sessions j).state ≠ .unknown →
      (p.sessions k).retiredSeq ≤ (p.sessions j).retiredSeq → p.precedes j k = false := by
    intro j hj hle
    rw [Bool.eq_false_iff, Ne, precedes_iff]
    rintro (hunknown | ⟨-, -, hlt⟩)
    · exact hj hunknown
    · omega
  induction ks generalizing best with
  | nil =>
    refine ⟨by simp, fun b hb => ?_⟩
    have hbest : best = some k := h
    rw [hbest] at hb
    rw [Option.some.inj hb]
  | cons j rest ih =>
    unfold selectFrom at h
    dsimp only at h
    split_ifs at h with hunknown hskip
    · cases h
      exact absurd hunknown hused
    · obtain ⟨hrest, hbest⟩ := ih best h
      refine ⟨List.forall_mem_cons.mpr ⟨?_, hrest⟩, hbest⟩
      rw [Bool.eq_false_iff, Ne, precedes_iff]
      rintro (heq | ⟨hclosed, husable, -⟩)
      · exact hunknown heq
      · rcases hskip with hopen | hpoisoned
        · exact hopen hclosed
        · rw [husable] at hpoisoned
          cases hpoisoned
    · cases best with
      | none =>
        obtain ⟨hrest, hbest⟩ := ih (some j) h
        exact ⟨List.forall_mem_cons.mpr ⟨hlater j hunknown (hbest j rfl), hrest⟩, by simp⟩
      | some b =>
        dsimp only at h
        split_ifs at h with hlt
        · obtain ⟨hrest, hbest⟩ := ih (some j) h
          have hj := hbest j rfl
          refine ⟨List.forall_mem_cons.mpr ⟨hlater j hunknown hj, hrest⟩, fun b' hb' => ?_⟩
          obtain rfl := Option.some.inj hb'
          omega
        · obtain ⟨hrest, hbest⟩ := ih (some b) h
          have hb := hbest b rfl
          exact ⟨List.forall_mem_cons.mpr ⟨hlater j hunknown (by omega), hrest⟩, hbest⟩

lemma ahead_of_selectSeat (h : p.selectSeat = some k) (hused : (p.sessions k).state ≠ .unknown) :
    p.ahead k = 0 := by
  have hfirst := (p.selectFrom_first p.seats none h hused).1
  exact List.countP_eq_zero.mpr fun j hj => Bool.eq_false_iff.mp (hfirst j hj)

lemma ahead_congr (hseats : p'.seats = p.seats)
    (h : ∀ j, p'.precedes j k = p.precedes j k) : p'.ahead k = p.ahead k := by
  unfold ahead
  rw [hseats]
  exact List.countP_congr fun j _ => by rw [h j]

end Publisher

/-- The seat that a teardown is about to retire. -/
def EngineTask.tearing : EngineTask → Option ℕ
  | .visiting k .tearing _ => some k
  | _ => none

namespace CoordState

variable {s s' : CoordState} {i : CoordInput} {es : List CoordEvent} {k : ℕ}

/-- Every seat was retired at or before the present count. -/
def Shelved (s : CoordState) : Prop :=
  ∀ j, s.publisher.shelf.retiredSeq j ≤ s.publisher.shelf.counter

lemma Shelved.step (h : s.Shelved) (hs : s.step i = some (s', es)) : s'.Shelved := by
  intro j
  rcases step_shelf hs with ⟨hshelf, -⟩ | ⟨k, -, hafter⟩
  · rw [hshelf]
    exact h j
  · obtain ⟨hcounter, hretired, -⟩ := s.publisher.shelf_teardown k
    rw [hafter, hcounter, hretired, update_apply]
    split_ifs
    · exact le_rfl
    · exact (h j).trans (Nat.le_succ _)

lemma seats_eq (hmove : s.table.Move es s'.table) : s'.publisher.seats = s.publisher.seats :=
  congrArg List.range hmove.size

/-- Whether a seat is ahead of a closed one changes by a claim of either only. -/
lemma precedes_kept (hsound : s.table.Sound) (hshelved : s.Shelved)
    (hmove : s.table.Move es s'.table) (hs : s.step i = some (s', es))
    (hclosed : s.table.state k = .closed) {j : ℕ} (hsame : s'.tenancy j = s.tenancy j) :
    s'.publisher.precedes j k = s.publisher.precedes j k := by
  have hsound' := hmove.sound hsound
  rcases step_shelf hs with ⟨hshelf, hcloses⟩ | ⟨l, huse, hafter⟩
  · have hunknown : s'.table.state j = .unknown ↔ s.table.state j = .unknown := by
      rw [hsound'.numbered j, hsound.numbered j]
      exact iff_of_eq (congrArg (· = 0) hsame)
    have hshut : s'.table.state j = .closed ↔ s.table.state j = .closed := by
      refine ⟨hcloses j, fun hj => ?_⟩
      have hfree := hmove.free hsound (by rw [hj]; rfl) hsame
      rcases SessionState.free_iff.mp hfree with hu | hc
      · rw [hunknown.mp hu] at hj
        cases hj
      · exact hc
    have hretired : ∀ l, (s'.publisher.sessions l).retiredSeq = (s.publisher.sessions l).retiredSeq :=
      fun l => congrFun (congrArg Shelf.retiredSeq hshelf) l
    have hpoisoned : (s'.publisher.sessions j).poisoned = (s.publisher.sessions j).poisoned :=
      congrFun (congrArg Shelf.poisoned hshelf) j
    rw [Bool.eq_iff_iff, Publisher.precedes_iff, Publisher.precedes_iff, hretired j, hretired k,
      hpoisoned]
    exact or_congr hunknown (and_congr_left' hshut)
  · -- the seat torn down goes behind the closed one, and it was not ahead before
    have hexpiring : (s.publisher.sessions l).state = .expiring := hsound.tearing l huse
    have hkl : k ≠ l := by
      rintro rfl
      have hk : (s.publisher.sessions k).state = .closed := hclosed
      rw [hk] at hexpiring
      cases hexpiring
    have hsessions := Publisher.sessions_teardown s.publisher l
    rw [hafter]
    by_cases hjl : j = l
    · subst hjl
      have hle : (s.publisher.sessions k).retiredSeq ≤ s.publisher.retireCounter := hshelved k
      have hbefore : s.publisher.precedes j k = false := by
        simp [Publisher.precedes, hexpiring]
      rw [hbefore, Bool.eq_false_iff, Ne, Publisher.precedes_iff, hsessions, update_self,
        update_of_ne hkl]
      simp only [Publisher.retiredSession]
      rintro (hstate | ⟨-, -, hlt⟩)
      · cases hstate
      · omega
    · rw [Bool.eq_iff_iff, Publisher.precedes_iff, Publisher.precedes_iff, hsessions,
        update_of_ne hjl, update_of_ne hkl]

/-- A call that has selected a seat did so before this step, or does so in it. -/
lemma step_selected (hs : s.step i = some (s', es)) {c : ℕ}
    (h : (s'.opens c).target = some k) : (s.opens c).target = some k ∨
      (s.publisher.selectSeat = some k ∧ s'.publisher = s.publisher) := by
  have hupdate : ∀ {d : ℕ} {x : OpenCall}, s'.opens = update s.opens d x →
      (s.opens c).target = some k ∨ x.target = some k := by
    intro d x hopens
    rw [hopens] at h
    by_cases hcd : c = d
    · rw [hcd, update_self] at h
      exact .inr h
    · rw [update_of_ne hcd] at h
      exact .inl h
  cases (step_moves hs).opens with
  | idle opens => exact .inl (by rw [← opens]; exact h)
  | refused result opens => exact .inl ((hupdate opens).resolve_right (by simp [OpenCall.target]))
  | failed call j request began result was opens
  | claimed call j request began fresh input was publisher opens
  | granted call j n request began input was opens =>
    exact .inl ((hupdate opens).resolve_right (by simp [OpenCall.target]))
  | selected j request input first publisher opens =>
    refine (hupdate opens).imp_right fun hj => ⟨?_, publisher⟩
    cases hj
    exact first

/-! ### The Opens that have claimed a seat -/

/-- The Opens answered Ok. -/
def answered (s : CoordState) : ℕ := (List.range s.calls).countP fun c => (s.opens c).reply.isSome

/-- The Opens that have claimed a seat and are not answered yet. -/
def unanswered (s : CoordState) : ℕ :=
  (List.range s.calls).countP fun c => (s.opens c).tenure.isSome && (s.opens c).reply.isNone

def tenured (s : CoordState) : ℕ := (List.range s.calls).countP fun c => (s.opens c).tenure.isSome

lemma tenured_eq (s : CoordState) : s.tenured = s.answered + s.unanswered := by
  unfold tenured answered unanswered
  induction List.range s.calls with
  | nil => rfl
  | cons c rest ih =>
    simp only [List.countP_cons, ih]
    cases s.opens c <;> simp [OpenCall.tenure, OpenCall.reply] <;> omega

lemma Solo.tenured_update (h : s.Solo) {call : ℕ} {x : OpenCall}
    (opens : s'.opens = Function.update s.opens call x)
    (calls : s'.calls = s.calls ∨ s'.calls = s.calls + 1) (hcall : call < s'.calls) :
    s'.tenured + (s.opens call).tenure.isSome.toNat = s.tenured + x.tenure.isSome.toNat := by
  have hold : s.tenured = (List.range s'.calls).countP fun c => (s.opens c).tenure.isSome := by
    rcases calls with hsame | hmore
    · rw [tenured, hsame]
    · rw [tenured, hmore, List.range_succ, List.countP_append]
      simp [h.unused s.calls le_rfl, OpenCall.tenure]
  have hnew : (fun c => (s'.opens c).tenure.isSome) =
      Function.update (fun c => (s.opens c).tenure.isSome) call x.tenure.isSome := by
    funext c
    rw [opens, update_apply, update_apply]
    split_ifs <;> rfl
  rw [hold, tenured, hnew]
  exact SeatTable.countP_range_update _ _ hcall

/-- A step is a claim that goes through, or it leaves the tenancies and their Opens as they are. -/
lemma Solo.step_tenured (h : s.Solo) (hs : s.step i = some (s', es)) :
    (s'.tenancy = s.tenancy ∧ s'.tenured = s.tenured) ∨
    ∃ call j request fresh, (s.opens call).target = some j ∧
      s'.publisher = s.publisher.claimSeat j request fresh ∧
      s'.tenancy = Function.update s.tenancy j (s.tenancy j + 1) ∧
      s'.tenured = s.tenured + 1 := by
  have hcounted : ∀ {c : ℕ}, s.opens c ≠ .unused → c < s.calls := by
    intro c hc
    by_contra hout
    exact hc (h.unused c (not_lt.mp hout))
  have hfresh := h.unused s.calls le_rfl
  cases (step_moves hs).opens with
  | idle opens calls clock tenancy => exact .inl ⟨tenancy, by rw [tenured, opens, calls]; rfl⟩
  | refused result opens calls clock tenancy
  | selected k request input first publisher opens calls clock tenancy =>
    have hcount := h.tenured_update opens (.inr calls) (by omega)
    rw [hfresh] at hcount
    exact .inl ⟨tenancy, hcount⟩
  | failed call k request began result was opens calls clock tenancy =>
    have hcall := hcounted (c := call) (by simp [was])
    have hcount := h.tenured_update opens (.inl calls) (by omega)
    rw [was] at hcount
    exact .inl ⟨tenancy, hcount⟩
  | claimed call k request began fresh input was publisher opens calls clock tenancy =>
    have hcall := hcounted (c := call) (by simp [was])
    have hcount := h.tenured_update opens (.inl calls) (by omega)
    rw [was] at hcount
    exact .inr ⟨call, k, request, fresh, by rw [was]; rfl, publisher, tenancy, hcount⟩
  | granted call k n request began input was opens calls clock tenancy =>
    have hcall := hcounted (c := call) (by simp [was])
    have hcount := h.tenured_update opens (.inl calls) (by omega)
    rw [was] at hcount
    exact .inl ⟨tenancy, Nat.add_right_cancel hcount⟩

/-- The input is not a claim of seat `k` that throws. -/
def spares (s : CoordState) (k : ℕ) : CoordInput → Prop
  | .openClaimThrows call _ _ => (s.opens call).target ≠ some k
  | _ => True

instance (s : CoordState) (k : ℕ) (i : CoordInput) : Decidable (s.spares k i) :=
  match i with
  | .openClaimThrows _ _ _ => inferInstanceAs (Decidable (_ ≠ _))
  | .call _ | .openSelect _ | .openConnectFailed _ | .openClaim _ _ | .openReply _ | .close _
  | .closeStep | .submitReady | .startSweep _ | .startStop | .probeAck _ | .armStep
  | .engineStep _ => .isTrue trivial

lemma spares.target_ne (h : s.spares k i) (hs : s.step i = some (s', es))
    (hsame : s'.tenancy k = s.tenancy k) (call : ℕ) (hcall : call ∈ i.claims) :
    (s.opens call).target ≠ some k := by
  intro htarget
  cases (step_moves hs).closing with
  | claims c j fresh input target unlocked closing table =>
    subst input
    cases hcall
    obtain rfl := Option.some.inj (target.symm.trans htarget)
    have htenancy := congrFun (congrArg SeatTable.tenancy table) j
    simp only [update_self] at htenancy
    exact absurd (hsame.symm.trans htenancy) (Nat.succ_ne_self _).symm
  | abandons c j failure what input =>
    subst input
    cases hcall
    exact h htarget
  | locks request input | ends j stage input =>
    subst input
    cases hcall
  | passes pass =>
    rw [claims_of_passes pass] at hcall
    cases hcall

/-! ### Waiting to be claimed again -/

/-- Tenancy `n` of seat `k` is over and the seat is still its own. `m` counts the seats that were
ahead of it when it was retired and the Opens that had claimed one by then; no more of those seats
are gone than there were Opens since. -/
structure Waits (k n m : ℕ) (s : CoordState) : Prop where
  tenancy : s.tenancy k = n
  closed : s.table.state k = .closed
  count : m ≤ s.publisher.ahead k + s.tenured
  selected : ∀ c, (s.opens c).target = some k → s.publisher.ahead k = 0

lemma Waits.closed_step {n m : ℕ} (h : s.Waits k n m) (hsound : s.table.Sound)
    (hmove : s.table.Move es s'.table) (hsame : s'.tenancy k = s.tenancy k) :
    s'.table.state k = .closed := by
  have hfree := hmove.free hsound (by rw [h.closed]; rfl) hsame
  rcases SessionState.free_iff.mp hfree with hunknown | hclosed
  · rw [(hmove.sound hsound).numbered k, show s'.table.tenancy k = s.table.tenancy k from hsame,
      ← hsound.numbered k, h.closed] at hunknown
    cases hunknown
  · exact hclosed

/-- A claim of another seat takes at most that one from ahead. -/
lemma ahead_claim (hsound : s.table.Sound) (hshelved : s.Shelved)
    (hmove : s.table.Move es s'.table) (hs : s.step i = some (s', es))
    (hclosed : s.table.state k = .closed) {j : ℕ} {request : OpenRequest} {fresh : Publisher.Fresh}
    (hseat : j ∈ s.publisher.seats) (hp : s'.publisher = s.publisher.claimSeat j request fresh)
    (hother : ∀ l, l ≠ j → s'.tenancy l = s.tenancy l) :
    s'.publisher.ahead k + (s.publisher.precedes j k).toNat = s.publisher.ahead k := by
  have hprecedes : (fun l => s'.publisher.precedes l k) =
      update (fun l => s.publisher.precedes l k) j false := by
    funext l
    by_cases hl : l = j
    · rw [hl, update_self, Bool.eq_false_iff, Ne, Publisher.precedes_iff, hp]
      simp [Publisher.claimSeat, Publisher.bump, Publisher.claimedSession]
    · rw [update_of_ne hl]
      exact precedes_kept hsound hshelved hmove hs hclosed (hother l hl)
  have hahead := SeatTable.countP_range_update (fun l => s.publisher.precedes l k) false
    (List.mem_range.mp hseat)
  rw [← hprecedes, Bool.toNat_false] at hahead
  unfold Publisher.ahead
  rw [seats_eq hmove]
  exact hahead

/-- One step: the seat is claimed, and then more Opens have come than seats were ahead, or it
waits on. -/
lemma Waits.step {n m : ℕ} (h : s.Waits k n m) (hsound : s.table.Sound) (hsolo : s.Solo)
    (hshelved : s.Shelved) (hs : s.step i = some (s', es)) : s'.Waits k n m ∨ m < s'.tenured := by
  have hfree := hsolo.claimsFree i
  have hmove := (step_moves hs).table hfree
  have hused : (s.publisher.sessions k).state ≠ .unknown := by
    rw [show (s.publisher.sessions k).state = .closed from h.closed]
    decide
  -- a later selection of this seat finds none ahead of it
  have hselected : s'.publisher.ahead k ≤ s.publisher.ahead k → ∀ c,
      (s'.opens c).target = some k → s'.publisher.ahead k = 0 := by
    intro hle c hc
    rcases step_selected hs hc with hold | ⟨hselect, hp⟩
    · have hzero := h.selected c hold
      omega
    · rw [hp]
      exact Publisher.ahead_of_selectSeat hselect hused
  have hcount := h.count
  rcases hsolo.step_tenured hs with
    ⟨htenancy, htenured⟩ | ⟨call, j, request, fresh, htarget, hp, htenancy, htenured⟩
  · have hahead : s'.publisher.ahead k = s.publisher.ahead k :=
      Publisher.ahead_congr (seats_eq hmove) fun j =>
        precedes_kept hsound hshelved hmove hs h.closed (congrFun htenancy j)
    exact .inl ⟨(congrFun htenancy k).trans h.tenancy,
      h.closed_step hsound hmove (congrFun htenancy k), by omega, hselected hahead.le⟩
  · by_cases hj : j = k
    · subst hj
      have hzero := h.selected call htarget
      exact .inr (by omega)
    · have hother : ∀ l, l ≠ j → s'.tenancy l = s.tenancy l := by
        intro l hl
        rw [htenancy, update_of_ne hl]
      have hsame := hother k (Ne.symm hj)
      have hsum := ahead_claim hsound hshelved hmove hs h.closed (hsolo.selected call j htarget).1
        hp hother
      have hbound := Bool.toNat_le (s.publisher.precedes j k)
      exact .inl ⟨hsame.trans h.tenancy, h.closed_step hsound hmove hsame, by omega,
        hselected (by omega)⟩

/-- The engine is about to run steps 4 to 6 of `teardown` on seat `k`. -/
def tears (s : CoordState) (k : ℕ) : Prop := s.engine.tearing = some k

instance (s : CoordState) (k : ℕ) : Decidable (s.tears k) := inferInstanceAs (Decidable (_ = _))

lemma tears.task (h : s.tears k) : ∃ loop, s.engine = .visiting k .tearing loop := by
  unfold tears EngineTask.tearing at h
  split at h
  · rename_i j loop htask
    cases h
    exact ⟨loop, htask⟩
  · cases h

lemma tears.use (h : s.tears k) : s.table.use = .tearing k := by
  obtain ⟨loop, htask⟩ := h.task
  simp [table, htask, EngineTask.use]

lemma tears_step {answer : SendAnswer} (h : s.tears k)
    (hs : s.step (.engineStep answer) = some (s', es)) :
    s'.publisher = s.publisher.teardown k ∧ s'.tenancy = s.tenancy ∧ s'.opens = s.opens := by
  obtain ⟨loop, htask⟩ := h.task
  simp only [step, engineStep, htask, Option.ite_none_right_eq_some] at hs
  obtain ⟨rfl, -⟩ := of_some_eq hs.2
  exact ⟨rfl, rfl, rfl⟩

lemma waits_of_tears {answer : SendAnswer} (h : s.tears k) (hsound : s.table.Sound)
    (hsolo : s.Solo) (hs : s.step (.engineStep answer) = some (s', es)) :
    s'.Waits k (s.tenancy k) (s'.publisher.ahead k + s'.tenured) := by
  obtain ⟨hp, htenancy, hopens⟩ := tears_step h hs
  have hexpiring : (s.publisher.sessions k).state = .expiring := hsound.tearing k h.use
  refine ⟨congrFun htenancy k, ?_, le_rfl, fun c hc => ?_⟩
  · change (s'.publisher.sessions k).state = .closed
    rw [hp, Publisher.sessions_teardown, update_self]
    rfl
  · rw [hopens] at hc
    have hfree := (hsolo.selected c k hc).2
    rw [hexpiring] at hfree
    cases hfree

lemma ahead_of_tears {answer : SendAnswer} (h : s.tears k) (hsound : s.table.Sound)
    (hshelved : s.Shelved) (hs : s.step (.engineStep answer) = some (s', es))
    (hvacant : ∀ j ∈ s.publisher.seats, j ≠ k → s.publisher.vacant j = true) :
    s'.publisher.ahead k + 1 = s.publisher.config.maxSessions.toNat := by
  obtain ⟨hp, -⟩ := tears_step h hs
  have hexpiring : (s.publisher.sessions k).state = .expiring := hsound.tearing k h.use
  have hlt : k < s.publisher.config.maxSessions.toNat :=
    hsound.lt_size (k := k) (by rw [show s.table.state k = .expiring from hexpiring]; decide)
  have hmove := (step_moves hs).table (claimsFree_of_none rfl)
  have hprecedes : ∀ j ∈ s.publisher.seats, s'.publisher.precedes j k =
      update (fun _ => true) k false j := by
    intro j hj
    have hsessions := Publisher.sessions_teardown s.publisher k
    by_cases hjk : j = k
    · rw [hjk, update_self, Bool.eq_false_iff, Ne, Publisher.precedes_iff, hp, hsessions,
        update_self]
      simp [Publisher.retiredSession]
    · have hle : (s.publisher.sessions j).retiredSeq ≤ s.publisher.retireCounter := hshelved j
      have hfree := hvacant j hj hjk
      simp only [Publisher.vacant, decide_eq_true_eq, Bool.not_eq_true'] at hfree
      rw [update_of_ne hjk, Publisher.precedes_iff, hp, hsessions,
        update_self, update_of_ne hjk]
      refine hfree.2.imp_right fun hclosed => ⟨hclosed.1, hclosed.2, ?_⟩
      exact Nat.lt_succ_of_le hle
  have hcount := SeatTable.countP_range_update (fun _ => true) false hlt
  unfold Publisher.ahead
  rw [seats_eq hmove, List.countP_congr fun j hj => by rw [hprecedes j hj]]
  simpa [Publisher.seats] using hcount

end CoordState

/-! ### Runs -/

namespace CloseHistory

variable {h h' : CloseHistory} {i : CoordInput} {es trace : List CoordEvent} {k : ℕ}

/-- Opens do not overlap, and no identifier is drawn twice. -/
def orderly (h : CloseHistory) (i : CoordInput) : Prop := h.coord.alone i ∧ h.drawsNew i

instance (h : CloseHistory) (i : CoordInput) : Decidable (h.orderly i) :=
  inferInstanceAs (Decidable (_ ∧ _))

/-- And no Open throws in its claim of seat `k`. -/
def sparing (k : ℕ) (h : CloseHistory) (i : CoordInput) : Prop := h.orderly i ∧ h.coord.spares k i

instance (k : ℕ) (h : CloseHistory) (i : CoordInput) : Decidable (sparing k h i) :=
  inferInstanceAs (Decidable (_ ∧ _))

structure Kept (h : CloseHistory) : Prop where
  sound : h.coord.table.Sound
  solo : h.coord.Solo
  shelved : h.coord.Shelved
  truthful : h.Truthful

lemma start_kept (c : PublisherConfig) (serverEpochId : UInt64) (workerAddress : Bytes) :
    (start c serverEpochId workerAddress).Kept where
  sound := (CoordState.start_vacant c serverEpochId workerAddress).sound
  solo := by
    refine ⟨fun _ _ => rfl, fun c d hc => ?_, fun c k hc => ?_⟩
    all_goals cases hc
  shelved _ := le_rfl
  truthful := start_truthful c serverEpochId workerAddress

lemma Kept.step (hk : h.Kept) (hmeets : h.orderly i) (hs : h.step i = some (h', es)) : h'.Kept := by
  have htruthful := hk.truthful.step hmeets.2 hs
  obtain ⟨⟨s', out⟩, hstep, rfl, -⟩ := of_mapped hs
  have hmove := (CoordState.step_moves hstep).table (hk.solo.claimsFree i)
  exact ⟨hmove.sound hk.sound, hk.solo.step hk.sound hmeets.1 hstep, hk.shelved.step hstep,
    htruthful⟩

lemma Kept.finds (hk : h.Kept) (hknown : (h.seat k).state ≠ .unknown) :
    h.coord.publisher.sessionForId (h.seat k).id = some k := by
  have hseat : k ∈ h.coord.publisher.seats :=
    CoordState.mem_seats_iff.mpr (hk.sound.lt_size hknown)
  have hsome : (h.coord.publisher.sessionForId (h.seat k).id).isSome := by
    unfold Publisher.sessionForId
    rw [List.find?_isSome]
    have hstate : (h.coord.publisher.sessions k).state ≠ .unknown := hknown
    exact ⟨k, hseat, by simp only [decide_eq_true_eq]; exact ⟨hstate, rfl⟩⟩
  obtain ⟨l, hl⟩ := Option.isSome_iff_exists.mp hsome
  obtain ⟨hlknown, hlid⟩ := Publisher.sessionForId_some hl
  rw [hl, hk.truthful.distinct l k (hk.truthful.settled.used (k := l) hlknown)
    (hk.truthful.settled.used (k := k) hknown) hlid]

lemma waits_run {n m : ℕ} {h₁ : CloseHistory} (hk : h₁.Kept) (hw : h₁.coord.Waits k n m)
    (hreason : (h₁.seat k).endReason ≠ .none) (hrun : closeMachine.Reaches (sparing k) h₁ trace h) :
    h.Kept ∧ ((h.coord.Waits k n m ∧ (h.seat k).id = (h₁.seat k).id ∧
      (h.seat k).endReason = (h₁.seat k).endReason) ∨ m < h.coord.tenured) := by
  refine hrun.invariant (fun h => h.Kept ∧ ((h.coord.Waits k n m ∧ (h.seat k).id = (h₁.seat k).id ∧
    (h.seat k).endReason = (h₁.seat k).endReason) ∨ m < h.coord.tenured))
    ⟨hk, .inl ⟨hw, rfl, rfl⟩⟩ ?_
  rintro h i h' es ⟨hkept, hstate⟩ ⟨hmeets, hspares⟩ hs
  refine ⟨hkept.step hmeets hs, ?_⟩
  obtain ⟨⟨s', out⟩, hstep, rfl, rfl⟩ := of_mapped hs
  rcases hstate with ⟨hwaits, hid, hend⟩ | hmore
  · rcases hwaits.step hkept.sound hkept.solo hkept.shelved hstep with hon | hover
    · have hstays := CoordState.step_stays hstep
        (hspares.target_ne hstep (hon.tenancy.trans hwaits.tenancy.symm))
      have hnone : (h.seat k).endReason ≠ .none := by
        rw [hend]
        exact hreason
      exact .inl ⟨hon, hstays.id.trans hid, (hstays.reason_eq hnone).trans hend⟩
    · exact .inr hover
  · right
    rcases hkept.solo.step_tenured hstep with ⟨-, hsame⟩ | ⟨_, _, _, _, -, -, -, hmore'⟩
    · exact hmore.trans_eq hsame.symm
    · exact hmore.trans (hmore' ▸ Nat.lt_succ_self _)

end CloseHistory

/-- If every other seat is vacant when a session is torn down, and no Open throws in a claim of its
seat, it is found under its identifier, with the reason of its end, until the Opens answered Ok
since and the one that is about to be are as many as there are seats. -/
theorem ended_session_remembered {c : PublisherConfig} {serverEpochId : UInt64}
    {workerAddress : Bytes} {trace es later : List CoordEvent} {h h₁ h₂ : CloseHistory} {k : ℕ}
    {answer : SendAnswer}
    (hreach : closeMachine.Reaches CloseHistory.orderly (.start c serverEpochId workerAddress)
      trace h)
    (htears : h.coord.tears k)
    (hvacant : ∀ j ∈ h.coord.publisher.seats, j ≠ k → h.coord.publisher.vacant j = true)
    (htorn : closeMachine.step h (.engineStep answer) = some (h₁, es))
    (hrun : closeMachine.Reaches (CloseHistory.sparing k) h₁ later h₂)
    (hfew : h₂.coord.answered + h₂.coord.unanswered <
      h₁.coord.answered + h.coord.publisher.config.maxSessions.toNat) :
    h₂.coord.publisher.sessionForId (h.coord.publisher.sessions k).id = some k ∧
      (h₂.coord.publisher.sessions k).endReason = (h.coord.publisher.sessions k).endReason ∧
      (h₂.coord.publisher.sessions k).state = .closed := by
  have hk := hreach.invariant CloseHistory.Kept
    (CloseHistory.start_kept c serverEpochId workerAddress) fun _ _ _ _ hk hmeets hs =>
      hk.step hmeets hs
  have hmeets : h.orderly (.engineStep answer) := ⟨by simp [CoordState.alone, CoordInput.selects],
    by simp [CloseHistory.drawsNew, CoordInput.draws]⟩
  have hk₁ := hk.step hmeets htorn
  obtain ⟨⟨s₁, out⟩, hstep, heq⟩ := Option.map_eq_some_iff.mp htorn
  have hcoord : s₁ = h₁.coord := congrArg (fun r => r.1.coord) heq
  rw [hcoord] at hstep
  have hwaits := CoordState.waits_of_tears htears hk.sound hk.solo hstep
  have hahead := CoordState.ahead_of_tears htears hk.sound hk.shelved hstep hvacant
  -- the teardown itself changes neither the identifier nor the reason
  have hstays : Seat.Stays _ (h.seat k) (h₁.seat k) := CoordState.step_keeps rfl hstep k
  have hreason : (h.seat k).endReason ≠ .none :=
    hk.sound.reasoned k (hk.sound.tearing k htears.use)
  have hreason₁ : (h₁.seat k).endReason ≠ .none := by
    rw [hstays.reason_eq hreason]
    exact hreason
  obtain ⟨hk₂, hstate⟩ := CloseHistory.waits_run hk₁ hwaits hreason₁ hrun
  rcases hstate with ⟨hstill, hid, hend⟩ | hmore
  · have hfound := hk₂.finds (k := k) (by
      rw [show (h₂.seat k).state = .closed from hstill.closed]
      decide)
    rw [hid, hstays.id] at hfound
    exact ⟨hfound, hend.trans (hstays.reason_eq hreason), hstill.closed⟩
  · rw [CoordState.tenured_eq, CoordState.tenured_eq] at hmore
    omega

/-- One session is opened and closed; the engine is about to retire it. -/
def lonelySession : List CoordInput :=
  closedSample ++ [.startSweep 0, .engineStep .completed, .engineStep .completed]

/-- Of two sessions the second is closed; the engine is about to retire it. -/
def busyNeighbour : List CoordInput :=
  [.openSelect sampleOpen, .openClaim 0 (sampleFresh 1), .openReply 0,
    .openSelect sampleOpen, .openClaim 1 (sampleFresh 2), .openReply 1,
    .close { sessionId := (sampleFresh 2).id, reason := .normal }, .closeStep, .closeStep,
    .closeStep, .startSweep 0, .engineStep .completed, .engineStep .completed,
    .engineStep .completed, .engineStep .completed]

def nextOpen (call : ℕ) : List CoordInput :=
  [.openSelect sampleOpen, .openClaim call (sampleFresh 3), .openReply call]

theorem ended_session_remembered_sample :
    ∃ trace h h₁ es later h₂,
      closeMachine.Reaches CloseHistory.orderly (.start sampleConfig 1 [1]) trace h ∧
      h.coord.tears 0 ∧ closeMachine.step h (.engineStep .completed) = some (h₁, es) ∧
      closeMachine.Reaches (CloseHistory.sparing 0) h₁ later h₂ ∧
      h₂.coord.answered = h₁.coord.answered + 1 ∧
      h₂.coord.publisher.sessionForId (h.coord.publisher.sessions 0).id = some 0 := by
  obtain ⟨trace, h, hreach, htears, hvacant, hsize, ⟨h₁, es⟩, hstep, ⟨h₂, later⟩, hrun, hmore,
      hnone⟩ :=
    closeMachine.exists_of_run CloseHistory.orderly (.start sampleConfig 1 [1]) lonelySession
      (P := fun h _ => h.coord.tears 0 ∧
        (∀ j ∈ h.coord.publisher.seats, j ≠ 0 → h.coord.publisher.vacant j = true) ∧
        h.coord.publisher.config.maxSessions.toNat = 2 ∧
        ∃ r ∈ closeMachine.step h (.engineStep .completed),
        ∃ r' ∈ closeMachine.run (CloseHistory.sparing 0) r.1 (nextOpen 1),
          r'.1.coord.answered = r.1.coord.answered + 1 ∧ r'.1.coord.unanswered = 0)
      (by decide +kernel)
  have hlater := (Machine.Reaches.start (M := closeMachine)).extend_run (Option.mem_def.mp hrun)
  have hfound := ended_session_remembered hreach htears hvacant (Option.mem_def.mp hstep) hlater
    (by rw [hsize, hmore, hnone]; exact Nat.lt_succ_self _)
  exact ⟨trace, h, h₁, es, _, h₂, hreach, htears, hstep, hlater, hmore, hfound.1⟩

/-- From the teardown that is next in `h` a run leads to `h₂`, with fewer Opens answered Ok since
than there are seats. -/
def CloseHistory.Soon (h h₂ : CloseHistory) : Prop :=
  ∃ h₁ es later, closeMachine.step h (.engineStep .completed) = some (h₁, es) ∧
    closeMachine.Reaches CloseHistory.orderly h₁ later h₂ ∧
    h₂.coord.answered < h₁.coord.answered + h.coord.publisher.config.maxSessions.toNat

lemma CloseHistory.soon_of_run {h : CloseHistory} {inputs : List CoordInput}
    {r r' : CloseHistory × List CoordEvent}
    (hstep : r ∈ closeMachine.step h (.engineStep .completed))
    (hrun : r' ∈ closeMachine.run CloseHistory.orderly r.1 inputs)
    (hfew : r'.1.coord.answered <
      r.1.coord.answered + h.coord.publisher.config.maxSessions.toNat) : h.Soon r'.1 :=
  ⟨r.1, r.2, _, Option.mem_def.mp hstep,
    (Machine.Reaches.start (M := closeMachine)).extend_run (Option.mem_def.mp hrun), hfew⟩

/-- With a live session beside it, the identifier is gone after one Open, of two seats. With the other
seat vacant it is gone when the second Open has claimed its seat and is not answered yet, and its
reason is gone when that claim throws. -/
theorem ended_session_forgotten :
    (∃ trace h h₂, closeMachine.Reaches CloseHistory.orderly (.start sampleConfig 1 [1]) trace h ∧
      h.coord.tears 1 ∧ h.Soon h₂ ∧
      h₂.coord.publisher.sessionForId (h.coord.publisher.sessions 1).id = none) ∧
    ∃ trace h h₂ h₃,
      closeMachine.Reaches CloseHistory.orderly (.start sampleConfig 1 [1]) trace h ∧
      (h.coord.tears 0 ∧ h.coord.publisher.vacant 1 = true ∧
        (h.coord.publisher.sessions 0).endReason = .close) ∧
      h.Soon h₂ ∧ h₂.coord.publisher.sessionForId (h.coord.publisher.sessions 0).id = none ∧
      h.Soon h₃ ∧ (h₃.coord.publisher.sessions 0).endReason = .none := by
  constructor
  · obtain ⟨trace, h, hreach, htears, r, hstep, r', hrun, hfew, hgone⟩ :=
      closeMachine.exists_of_run CloseHistory.orderly (.start sampleConfig 1 [1]) busyNeighbour
        (P := fun h _ => h.coord.tears 1 ∧
          ∃ r ∈ closeMachine.step h (.engineStep .completed),
          ∃ r' ∈ closeMachine.run CloseHistory.orderly r.1 (nextOpen 2),
            r'.1.coord.answered <
              r.1.coord.answered + h.coord.publisher.config.maxSessions.toNat ∧
            r'.1.coord.publisher.sessionForId (h.coord.publisher.sessions 1).id = none)
        (by decide +kernel)
    exact ⟨trace, h, r'.1, hreach, htears, CloseHistory.soon_of_run hstep hrun hfew, hgone⟩
  · obtain ⟨trace, h, hreach, hstate, r, hstep, ⟨r', hrun, hfew, hgone⟩, r'', hrun', hfew', hnone⟩ :=
      closeMachine.exists_of_run CloseHistory.orderly (.start sampleConfig 1 [1]) lonelySession
        (P := fun h _ => (h.coord.tears 0 ∧ h.coord.publisher.vacant 1 = true ∧
            (h.coord.publisher.sessions 0).endReason = .close) ∧
          ∃ r ∈ closeMachine.step h (.engineStep .completed),
          (∃ r' ∈ closeMachine.run CloseHistory.orderly r.1
              (nextOpen 1 ++ [.openSelect sampleOpen, .openClaim 2 (sampleFresh 4)]),
            r'.1.coord.answered <
              r.1.coord.answered + h.coord.publisher.config.maxSessions.toNat ∧
            r'.1.coord.publisher.sessionForId (h.coord.publisher.sessions 0).id = none) ∧
          ∃ r' ∈ closeMachine.run CloseHistory.orderly r.1
              (nextOpen 1 ++ [.openSelect sampleOpen, .openClaimThrows 2 .sessionId "getrandom"]),
            r'.1.coord.answered <
              r.1.coord.answered + h.coord.publisher.config.maxSessions.toNat ∧
            (r'.1.coord.publisher.sessions 0).endReason = .none)
        (by decide +kernel)
    exact ⟨trace, h, r'.1, r''.1, hreach, hstate, CloseHistory.soon_of_run hstep hrun hfew, hgone,
      CloseHistory.soon_of_run hstep hrun' hfew', hnone⟩

end TangoBulk
