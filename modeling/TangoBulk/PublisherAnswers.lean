import TangoBulk.PublisherLifecycle

/-! What a client is told about a session it has closed. The answer is read from two atomics, the
state and the reason of the end, that the closing thread and the engine move at different times. -/
namespace TangoBulk

open ByteString Transition Function

namespace SeatTable

variable {t t' : SeatTable} {k : ℕ} {es : List CoordEvent}

/-- Nobody acts on a seat that was never claimed. -/
structure Settled (t : SeatTable) : Prop where
  vacant : ∀ k, t.tenancy k = 0 → t.state k = .unknown
  ending : ∀ e k stage, t.enders e = some (k, stage) → t.tenancy k = 0 → stage = .begun
  tearing : ∀ k, t.use = .tearing k → t.tenancy k ≠ 0

lemma Vacant.settled (h : t.Vacant) : t.Settled where
  vacant k _ := (h.seats k).1
  ending e k stage heq := by
    rw [h.enders e] at heq
    cases heq
  tearing k huse := by
    rw [h.use] at huse
    cases huse

lemma Settled.used (h : t.Settled) (hknown : t.state k ≠ .unknown) : t.tenancy k ≠ 0 :=
  mt (h.vacant k) hknown

lemma Settled.setEnder (h : t.Settled) (e : Ender) {x : Option (ℕ × EndStage)}
    (hx : ∀ k stage, x = some (k, stage) → t.tenancy k = 0 → stage = .begun) (e' : Ender) (k : ℕ)
    (stage : EndStage) (heq : update t.enders e x e' = some (k, stage))
    (hfree : t.tenancy k = 0) : stage = .begun := by
  by_cases he : e' = e
  · rw [he, update_self] at heq
    exact hx k stage heq hfree
  · rw [update_of_ne he] at heq
    exact h.ending e' k stage heq hfree

lemma Settled.vacant_update (h : t.Settled) {j : ℕ} {x : Seat} (hused : t.tenancy j ≠ 0)
    (hfree : t.tenancy k = 0) : (update t.roster.seats j x k).state = .unknown := by
  have hne : k ≠ j := by
    rintro rfl
    exact hused hfree
  rw [update_of_ne hne]
  exact h.vacant k hfree

lemma Settled.claim (h : t.Settled) (j : ℕ) (fresh : Publisher.Fresh) :
    Settled { t with
      roster := t.roster.claim j fresh
      tenancy := update t.tenancy j (t.tenancy j + 1) } := by
  have hold : ∀ k, update t.tenancy j (t.tenancy j + 1) k = 0 →
      k ≠ j ∧ t.tenancy k = 0 := by
    intro k hk
    by_cases hj : k = j
    · simp [hj] at hk
    · rw [update_of_ne hj] at hk
      exact ⟨hj, hk⟩
  refine ⟨fun k hk => ?_, fun e k stage heq hk => ?_, fun k huse hk => ?_⟩
  · obtain ⟨hne, hfree⟩ := hold k hk
    have hseat : (t.roster.claim j fresh).seats k = t.roster.seats k :=
      update_of_ne hne _ _
    rw [state, hseat]
    exact h.vacant k hfree
  · exact h.ending e k stage heq (hold k hk).2
  · exact h.tearing k huse (hold k hk).2

lemma Settled.abandon (h : t.Settled) (j : ℕ) (failure : Publisher.DrawFailure) :
    Settled { t with roster := t.roster.abandon j failure } := by
  refine ⟨fun k hfree => ?_, h.ending, h.tearing⟩
  simp only [state, Roster.state_abandon]
  exact h.vacant k hfree

lemma Settled.ends (h : t.Settled) {e : Ender} {stage : EndStage} (reason : EndReason)
    (held : t.enders e = some (k, stage)) :
    Settled { t with
      roster := (t.roster.endStep k reason stage).1
      enders := update t.enders e
        ((t.roster.endStep k reason stage).2.map fun next => (k, next)) } := by
  cases stage with
  | begun =>
    refine ⟨h.vacant, h.setEnder e fun j stage heq hfree => ?_, h.tearing⟩
    obtain ⟨next, hnext, rfl, rfl⟩ := of_mapped heq
    -- it goes on only if the state it has loaded is a live one
    simp only [Roster.endStep, Option.ite_none_right_eq_some] at hnext
    have hlive : (t.state k).live = true := hnext.1
    rw [h.vacant k hfree] at hlive
    cases hlive
  | loaded =>
    have hused : t.tenancy k ≠ 0 := fun hfree => absurd (h.ending e k _ held hfree) (by decide)
    refine ⟨fun j hfree => ?_, h.setEnder e fun j stage heq hfree => ?_, h.tearing⟩
    · simp only [Roster.endStep, state]
      split_ifs
      · exact h.vacant_update hused hfree
      · exact h.vacant j hfree
    · obtain ⟨next, hnext, rfl, rfl⟩ := of_mapped heq
      exact absurd hfree hused
  | claimed =>
    have hused : t.tenancy k ≠ 0 := fun hfree => absurd (h.ending e k _ held hfree) (by decide)
    refine ⟨fun j hfree => h.vacant_update hused hfree, h.setEnder e ?_, h.tearing⟩
    intro j stage heq
    cases heq

lemma Move.settled (m : Move t es t') (h : t.Settled) : t'.Settled := by
  cases m with
  | stay | found => exact ⟨h.vacant, h.ending, h.tearing⟩
  | lock fresh =>
    exact ⟨h.vacant, h.setEnder .control fun k stage heq _ => fresh k stage heq, h.tearing⟩
  | @turn x u fresh seen =>
    refine ⟨h.vacant, h.setEnder .engine fun k stage heq _ => fresh k stage heq, ?_⟩
    intro k huse
    have hu : u = .tearing k := huse
    rw [hu] at seen
    exact h.used (by rw [show t.state k = .expiring from seen]; decide)
  | ends reasoned held => exact h.ends _ held
  | claim seated free => exact h.claim _ _
  | abandon free unlocked => exact h.abandon _ _
  | @arm j streamId token held =>
    refine ⟨fun k hfree => ?_, h.ending, h.tearing⟩
    simp only [Roster.arm, state]
    split_ifs with hopen
    · exact h.vacant_update (h.used (by rw [show t.state j = .open from hopen]; decide)) hfree
    · exact h.vacant k hfree
  | @sent j held =>
    refine ⟨fun k hfree => ?_, h.ending, by simp⟩
    simp only [Roster.activate, state]
    split_ifs with harmed
    · exact h.vacant_update (h.used (by rw [show t.state j = .armed from harmed]; decide)) hfree
    · exact h.vacant k hfree
  | @retire j held still done =>
    refine ⟨fun k hfree => ?_, h.ending, by simp⟩
    simp only [state, Roster.seats_retire]
    exact h.vacant_update (h.tearing j held) hfree

end SeatTable

/-- The identifier of the session that a Close asks to end. -/
def CoordInput.asks : CoordInput → Option SessionId
  | .close request => some request.sessionId
  | _ => none

/-- The identifier that a claim draws for its session. -/
def CoordInput.draws : CoordInput → Option SessionId
  | .openClaim _ fresh => some fresh.id
  | .openClaimThrows _ failure _ => failure.id
  | _ => none

namespace CoordState

variable {s s' : CoordState} {i : CoordInput} {es : List CoordEvent} {k : ℕ}

/-- The step returns from a `begin_expiry` that won, and the Close is answered Ok. -/
def confirms (s : CoordState) : CoordInput → Bool
  | .closeStep => s.closing.any fun held => held.2 = .claimed
  | _ => false

/-- The seat whose end a claim clears under the identifier it had: the first draw throws. -/
def clears (s : CoordState) : CoordInput → Option ℕ
  | .openClaimThrows call .sessionId _ => (s.opens call).target.filter fun k => s.tenancy k ≠ 0
  | _ => none

lemma step_tenancy (hclaims : i.claims = none) (hs : s.step i = some (s', es)) :
    s'.tenancy = s.tenancy := by
  cases (step_moves hs).opens with
  | claimed call k request began fresh input =>
    rw [input] at hclaims
    cases hclaims
  | idle _ _ _ tenancy | refused _ _ _ _ tenancy | selected _ _ _ _ _ _ _ _ tenancy
  | failed _ _ _ _ _ _ _ _ _ tenancy | granted _ _ _ _ _ _ _ _ _ _ tenancy => exact tenancy

lemma of_passes (s : CoordState) (h : i.passes = true) :
    i.asks = none ∧ i.draws = none ∧ s.confirms i = false ∧ s.clears i = none := by
  cases i <;> first | exact ⟨rfl, rfl, rfl, rfl⟩ | cases h

lemma step_keeps (hclaims : i.claims = none) (hs : s.step i = some (s', es)) (k : ℕ) :
    Seat.Stays i (s.table.roster.seats k) (s'.table.roster.seats k) :=
  step_stays hs (by simp [hclaims])

end CoordState

/-! ### The Closes answered Ok -/

/-- A state with the identifier that the last Close asked for, those drawn so far, those for which a
Close was answered Ok, and those of them whose end a claim has cleared since. -/
structure CloseHistory where
  coord : CoordState
  asked : SessionId := .zero
  issued : List SessionId := []
  closed : List SessionId := []
  cleared : List SessionId := []

namespace CloseHistory

variable {h h' : CloseHistory} {i : CoordInput} {es : List CoordEvent} {k : ℕ}

def seat (h : CloseHistory) (k : ℕ) : Seat := h.coord.table.roster.seats k

/-- The identifiers of closed sessions whose end the step clears. -/
def clearedBy (h : CloseHistory) (i : CoordInput) : List SessionId :=
  ((h.coord.clears i).toList.map fun k => (h.seat k).id).filter (· ∈ h.closed)

def step (h : CloseHistory) (i : CoordInput) : Option (CloseHistory × List CoordEvent) :=
  (h.coord.step i).map fun done =>
    ({ coord := done.1
       asked := i.asks.getD h.asked
       issued := i.draws.toList ++ h.issued
       closed := if h.coord.confirms i then h.asked :: h.closed else h.closed
       cleared := h.clearedBy i ++ h.cleared }, done.2)

def start (c : PublisherConfig) (serverEpochId : UInt64) (workerAddress : Bytes) : CloseHistory where
  coord := .start c serverEpochId workerAddress

/-- No identifier is drawn twice. -/
def drawsNew (h : CloseHistory) (i : CoordInput) : Prop := ∀ id ∈ i.draws, id ∉ h.issued

instance (h : CloseHistory) (i : CoordInput) : Decidable (h.drawsNew i) :=
  decidable_of_iff (i.draws.all fun id => id ∉ h.issued) (by simp [drawsNew, Option.all_eq_true])

end CloseHistory

def closeMachine : Machine CloseHistory CoordInput CoordEvent := ⟨CloseHistory.step⟩

namespace CloseHistory

variable {h h' : CloseHistory} {i : CoordInput} {es : List CoordEvent} {k : ℕ} {s' : CoordState}

lemma mem_clearedBy (h : CloseHistory) {call : ℕ} (what : String) (id : SessionId)
    (target : (h.coord.opens call).target = some k) :
    id ∈ h.clearedBy (.openClaimThrows call .sessionId what) ↔
      h.coord.tenancy k ≠ 0 ∧ (h.seat k).id = id ∧ id ∈ h.closed := by
  unfold clearedBy CoordState.clears
  dsimp only
  rw [target]
  by_cases hk : h.coord.tenancy k = 0
  · simp [hk]
  · simp [hk, and_comm]

/-- A session for which a Close was answered Ok has ended, by that Close unless a claim has cleared
its end. -/
def Over (h : CloseHistory) (k : ℕ) : Prop :=
  (h.seat k).state.gone = true ∧ ((h.seat k).endReason = .close ↔ (h.seat k).id ∉ h.cleared)

/-- What ties the seats to the Closes. The Close under way is not of a session that a Close has ended
beyond its first look at the state. -/
structure Truthful (h : CloseHistory) : Prop where
  settled : h.coord.table.Settled
  issued : ∀ k, h.coord.tenancy k ≠ 0 → (h.seat k).id ∈ h.issued
  distinct : ∀ j k, h.coord.tenancy j ≠ 0 → h.coord.tenancy k ≠ 0 →
    (h.seat j).id = (h.seat k).id → j = k
  known : ∀ id ∈ h.closed, id ∈ h.issued
  cleared : ∀ id ∈ h.cleared, id ∈ h.closed
  ended : ∀ k, h.coord.tenancy k ≠ 0 → (h.seat k).id ∈ h.closed → h.Over k
  asked : ∀ k stage, h.coord.closing = some (k, stage) →
    h.coord.tenancy k ≠ 0 ∧ (h.seat k).id = h.asked
  claimed : ∀ k, h.coord.closing = some (k, .claimed) → (h.seat k).endReason = .close
  refused : ∀ k stage, h.coord.closing = some (k, stage) → h.asked ∈ h.closed → stage = .begun

lemma start_truthful (c : PublisherConfig) (serverEpochId : UInt64) (workerAddress : Bytes) :
    (start c serverEpochId workerAddress).Truthful where
  settled := (CoordState.start_vacant c serverEpochId workerAddress).settled
  issued k hk := absurd rfl hk
  distinct j k hj := absurd rfl hj
  known id hid := by cases hid
  cleared id hid := by cases hid
  ended k hk := absurd rfl hk
  asked k stage heq := by cases heq
  claimed k heq := by cases heq
  refused k stage heq := by cases heq

lemma Truthful.seats_kept (ht : h.Truthful) (h' : CloseHistory)
    (htenancy : h'.coord.tenancy = h.coord.tenancy) (hids : ∀ k, (h'.seat k).id = (h.seat k).id)
    (hissued : h'.issued = h.issued) :
    (∀ k, h'.coord.tenancy k ≠ 0 → (h'.seat k).id ∈ h'.issued) ∧
    (∀ j k, h'.coord.tenancy j ≠ 0 → h'.coord.tenancy k ≠ 0 →
      (h'.seat j).id = (h'.seat k).id → j = k) := by
  rw [htenancy, hissued]
  refine ⟨fun k hk => ?_, fun j k hj hk heq => ?_⟩
  · rw [hids k]
    exact ht.issued k hk
  · rw [hids j, hids k] at heq
    exact ht.distinct j k hj hk heq

lemma Over.kept (hover : h.Over k) (hi : i ≠ .closeStep)
    (hstays : Seat.Stays i (h.seat k) (s'.table.roster.seats k)) :
    Over { h with coord := s' } k := by
  obtain ⟨hgone, hreason⟩ := hover
  refine ⟨hstays.gone hgone, ?_⟩
  change (s'.table.roster.seats k).endReason = .close ↔ (s'.table.roster.seats k).id ∉ h.cleared
  rw [hstays.id, ← hreason]
  rcases hstays.reason with hsame | ⟨hnone, hclose⟩
  · rw [hsame]
  · rw [hnone]
    exact iff_of_false (fun h => hi (hclose h)) (by decide)

lemma Truthful.passes (ht : h.Truthful) (pass : i.passes = true)
    (hs : h.coord.step i = some (s', es)) (closing : s'.closing = h.coord.closing) :
    Truthful { h with coord := s' } := by
  have hclaims := CoordState.claims_of_passes pass
  have htenancy := CoordState.step_tenancy hclaims hs
  have hstays := CoordState.step_keeps hclaims hs
  have hmove := (CoordState.step_moves hs).table (CoordState.claimsFree_of_none hclaims)
  have hi : i ≠ .closeStep := by
    rintro rfl
    cases pass
  obtain ⟨hissued, hdistinct⟩ :=
    ht.seats_kept { h with coord := s' } htenancy (fun k => (hstays k).id) rfl
  refine ⟨hmove.settled ht.settled, hissued, hdistinct, ht.known, ht.cleared, ?_, ?_, ?_, ?_⟩
  · intro k hk hid
    rw [show s'.tenancy = h.coord.tenancy from htenancy] at hk
    exact (ht.ended k hk ((hstays k).id ▸ hid)).kept hi (hstays k)
  · intro k stage hheld
    rw [show s'.closing = h.coord.closing from closing] at hheld
    obtain ⟨hk, hid⟩ := ht.asked k stage hheld
    exact ⟨(congrFun htenancy k).trans_ne hk, (hstays k).id.trans hid⟩
  · intro k hheld
    rw [show s'.closing = h.coord.closing from closing] at hheld
    have hreason := ht.claimed k hheld
    exact ((hstays k).reason_eq (fun hnone => by cases hnone.symm.trans hreason)).trans hreason
  · intro k stage hheld
    rw [show s'.closing = h.coord.closing from closing] at hheld
    exact ht.refused k stage hheld

/-- A claim writes to its seat, under a new identifier or under the one that was there. -/
lemma Truthful.writes (ht : h.Truthful) (drawn : List SessionId) {x : Seat}
    {cleared' : List SessionId} (settled : s'.table.Settled) (closing : s'.closing = none)
    (seats : s'.table.roster.seats = update h.coord.table.roster.seats k x)
    (tenancy : ∀ j, j ≠ k → s'.tenancy j = h.coord.tenancy j)
    (hid : s'.tenancy k ≠ 0 → (x.id ∈ drawn ∧ x.id ∉ h.issued) ∨
      (x.id = (h.seat k).id ∧ h.coord.tenancy k ≠ 0))
    (hclosed : ∀ id ∈ cleared', id ∈ h.closed)
    (hcleared : ∀ id, id ≠ x.id ∨ s'.tenancy k = 0 → (id ∈ cleared' ↔ id ∈ h.cleared))
    (hover : s'.tenancy k ≠ 0 → x.id ∈ h.closed →
      x.state.gone = true ∧ (x.endReason = .close ↔ x.id ∉ cleared')) :
    Truthful { h with coord := s', issued := drawn ++ h.issued, cleared := cleared' } := by
  have hown : s'.table.roster.seats k = x := by rw [seats, update_self]
  -- every other seat is as it was, and its identifier is not the one in this seat
  have hother : ∀ j, j ≠ k → s'.tenancy j ≠ 0 →
      h.coord.tenancy j ≠ 0 ∧ s'.table.roster.seats j = h.seat j := by
    intro j hj hused
    rw [tenancy j hj] at hused
    exact ⟨hused, by rw [seats, update_of_ne hj]; rfl⟩
  have hapart : ∀ j, j ≠ k → s'.tenancy j ≠ 0 → s'.tenancy k ≠ 0 → (h.seat j).id ≠ x.id := by
    intro j hj hused hk heq
    obtain ⟨hold, -⟩ := hother j hj hused
    rcases hid hk with ⟨-, hnew⟩ | ⟨hsame, hk'⟩
    · exact hnew (heq ▸ ht.issued j hold)
    · exact hj (ht.distinct j k hold hk' (heq.trans hsame))
  have hnone : ∀ {P : Prop} {y : ℕ × EndStage}, s'.closing = some y → P := by
    intro P y hheld
    rw [closing] at hheld
    cases hheld
  refine ⟨settled, ?_, ?_, fun id hmem => List.mem_append_right _ (ht.known id hmem), hclosed, ?_,
    fun _ _ => hnone, fun _ => hnone, fun _ _ => hnone⟩
  · intro j hused
    change (s'.table.roster.seats j).id ∈ drawn ++ h.issued
    by_cases hj : j = k
    · rw [hj] at hused ⊢
      rw [hown]
      rcases hid hused with ⟨hmem, -⟩ | ⟨hsame, hk⟩
      · exact List.mem_append_left _ hmem
      · exact List.mem_append_right _ (hsame ▸ ht.issued k hk)
    · obtain ⟨hold, hseat⟩ := hother j hj hused
      rw [hseat]
      exact List.mem_append_right _ (ht.issued j hold)
  · intro j l hj hl heq
    change (s'.table.roster.seats j).id = (s'.table.roster.seats l).id at heq
    by_cases hjk : j = k
    · by_cases hlk : l = k
      · rw [hjk, hlk]
      · rw [hjk, hown, (hother l hlk hl).2] at heq
        exact absurd heq.symm (hapart l hlk hl (hjk ▸ hj))
    · obtain ⟨hold, hseat⟩ := hother j hjk hj
      by_cases hlk : l = k
      · rw [hlk, hown, hseat] at heq
        exact absurd heq (hapart j hjk hj (hlk ▸ hl))
      · obtain ⟨hold', hseat'⟩ := hother l hlk hl
        rw [hseat, hseat'] at heq
        exact ht.distinct j l hold hold' heq
  · intro j hused hmem
    change (s'.table.roster.seats j).id ∈ h.closed at hmem
    change (s'.table.roster.seats j).state.gone = true ∧
      ((s'.table.roster.seats j).endReason = .close ↔ (s'.table.roster.seats j).id ∉ cleared')
    by_cases hj : j = k
    · rw [hj] at hused hmem ⊢
      rw [hown] at hmem ⊢
      exact hover hused hmem
    · obtain ⟨hold, hseat⟩ := hother j hj hused
      rw [hseat] at hmem ⊢
      obtain ⟨hgone, hreason⟩ := ht.ended j hold hmem
      have hkept : (h.seat j).id ≠ x.id ∨ s'.tenancy k = 0 := by
        by_cases hk : s'.tenancy k = 0
        · exact .inr hk
        · exact .inl (hapart j hj hused hk)
      rw [hcleared _ hkept]
      exact ⟨hgone, hreason⟩

lemma Truthful.claims (ht : h.Truthful) {fresh : Publisher.Fresh}
    (hnew : fresh.id ∉ h.issued) (closing : s'.closing = none)
    (table : s'.table = { h.coord.table with
      roster := h.coord.table.roster.claim k fresh
      tenancy := update h.coord.tenancy k (h.coord.tenancy k + 1) }) :
    Truthful { h with coord := s', issued := fresh.id :: h.issued } := by
  have htenancy : s'.tenancy = update h.coord.tenancy k (h.coord.tenancy k + 1) :=
    congrArg SeatTable.tenancy table
  refine ht.writes [fresh.id] ?_ closing
    (congrArg (fun t : SeatTable => t.roster.seats) table) ?_ ?_ ht.cleared (fun _ _ => .rfl) ?_
  · rw [table]
    exact ht.settled.claim k fresh
  · intro j hj
    rw [htenancy, update_of_ne hj]
  · exact fun _ => .inl ⟨List.mem_singleton_self _, hnew⟩
  · exact fun _ hmem => absurd (ht.known _ hmem) hnew

lemma Truthful.abandons (ht : h.Truthful) {call : ℕ}
    {failure : Publisher.DrawFailure} {what : String} (hnew : ∀ id ∈ failure.id, id ∉ h.issued)
    (target : (h.coord.opens call).target = some k) (closing : s'.closing = none)
    (table : s'.table = { h.coord.table with
      roster := h.coord.table.roster.abandon k failure }) :
    Truthful { h with
      coord := s'
      issued := failure.id.toList ++ h.issued
      cleared := h.clearedBy (.openClaimThrows call failure what) ++ h.cleared } := by
  have htenancy : s'.tenancy = h.coord.tenancy := congrArg SeatTable.tenancy table
  have hsettled : s'.table.Settled := by
    rw [table]
    exact ht.settled.abandon k failure
  have hseats := congrArg (fun t : SeatTable => t.roster.seats) table
  cases hdrawn : failure.id with
  | some id =>
    have hnot := hnew id hdrawn
    have hclears : h.clearedBy (.openClaimThrows call failure what) = [] := by
      cases failure <;> first | rfl | cases hdrawn
    rw [hclears]
    refine ht.writes [id] hsettled closing hseats (fun j _ => congrFun htenancy j) ?_
      ht.cleared (fun _ _ => .rfl) ?_
    · rw [hdrawn]
      exact fun _ => .inl ⟨List.mem_singleton_self _, hnot⟩
    · rw [hdrawn]
      exact fun _ hmem => absurd (ht.known _ hmem) hnot
  | none =>
    obtain rfl : failure = .sessionId := by
      cases failure <;> first | rfl | cases hdrawn
    have hmem := fun id => h.mem_clearedBy what id target
    refine ht.writes [] hsettled closing hseats (fun j _ => congrFun htenancy j) ?_ ?_ ?_
      ?_
    · rw [htenancy]
      exact fun hk => .inr ⟨rfl, hk⟩
    · intro id hid
      rcases List.mem_append.mp hid with hid | hid
      · exact ((hmem id).mp hid).2.2
      · exact ht.cleared id hid
    · intro id hother
      rw [List.mem_append, hmem, htenancy] at *
      refine or_iff_right fun hid => ?_
      exact hother.elim (fun hne => hne hid.2.1.symm) hid.1
    · intro hk hid
      rw [htenancy] at hk
      refine ⟨(ht.ended k hk hid).1, iff_of_false (by simp) (not_not.mpr ?_)⟩
      exact List.mem_append_left _ ((hmem _).mpr ⟨hk, rfl, hid⟩)

lemma seats_endStep_of_ne {r : Roster} {j : ℕ} {reason : EndReason} (hj : j ≠ k)
    (stage : EndStage) : (r.endStep k reason stage).1.seats j = r.seats j := by
  cases stage with
  | begun => rfl
  | loaded =>
    unfold Roster.endStep
    dsimp only
    split_ifs
    · exact update_of_ne hj _ _
    · rfl
  | claimed => exact update_of_ne hj _ _

lemma Truthful.locks (ht : h.Truthful) (request : CloseRequest) :
    Truthful { h with
      coord := { h.coord with closing :=
        (h.coord.publisher.sessionForId request.sessionId).map fun k => (k, .begun) }
      asked := request.sessionId } := by
  have hfound : ∀ k stage, (h.coord.publisher.sessionForId request.sessionId).map
      (fun k => (k, EndStage.begun)) = some (k, stage) →
      stage = .begun ∧ (h.coord.table.state k ≠ .unknown ∧ (h.seat k).id = request.sessionId) := by
    intro k stage heq
    obtain ⟨j, hj, rfl, rfl⟩ := of_mapped heq
    have hmatch := List.find?_some hj
    simp only [decide_eq_true_eq] at hmatch
    exact ⟨rfl, hmatch⟩
  refine ⟨⟨ht.settled.vacant, fun e k stage heq hfree => ?_, ht.settled.tearing⟩, ht.issued,
    ht.distinct, ht.known, ht.cleared, ht.ended, fun k stage heq => ?_, fun k heq => ?_,
    fun k stage heq _ => ?_⟩
  · cases e with
    | control => exact (hfound k stage heq).1
    | engine => exact ht.settled.ending .engine k stage heq hfree
  · obtain ⟨-, hknown, hid⟩ := hfound k stage heq
    exact ⟨ht.settled.used hknown, hid⟩
  · obtain ⟨hstage, -⟩ := hfound k .claimed heq
    cases hstage
  · exact (hfound k stage heq).1

/-- A step of `begin_expiry` for the Close; its last one is answered Ok. -/
lemma Truthful.ends (ht : h.Truthful) {stage : EndStage}
    (hs : h.coord.step .closeStep = some (s', es)) (held : h.coord.closing = some (k, stage))
    (closing : s'.closing =
      (h.coord.table.roster.endStep k .close stage).2.map fun next => (k, next))
    (roster : s'.table.roster = (h.coord.table.roster.endStep k .close stage).1) :
    Truthful { h with
      coord := s'
      closed := if h.coord.confirms .closeStep then h.asked :: h.closed else h.closed } := by
  have htenancy := CoordState.step_tenancy rfl hs
  have hstays := CoordState.step_keeps rfl hs
  have hsettled := ((CoordState.step_moves hs).table
    (CoordState.claimsFree_of_none rfl)).settled ht.settled
  obtain ⟨hissued, hdistinct⟩ :=
    ht.seats_kept { h with coord := s' } htenancy (fun j => (hstays j).id) rfl
  obtain ⟨hused, hid⟩ := ht.asked k stage held
  have hconfirms : h.coord.confirms .closeStep = decide (stage = .claimed) := by
    simp [CoordState.confirms, held]
  -- it does not touch the seat of a session that a Close has ended
  have hkept : ∀ j, s'.tenancy j ≠ 0 → (s'.table.roster.seats j).id ∈ h.closed →
      Over { h with coord := s' } j := by
    intro j hj hmem
    rw [show s'.tenancy = h.coord.tenancy from htenancy] at hj
    rw [(hstays j).id] at hmem
    have hsame : s'.table.roster.seats j = h.seat j := by
      rw [roster]
      by_cases hjk : j = k
      · subst hjk
        have hbegun := ht.refused j stage held (hid ▸ hmem)
        rw [hbegun]
        rfl
      · exact seats_endStep_of_ne hjk stage
    have hover := ht.ended j hj hmem
    unfold Over at hover ⊢
    rwa [← hsame] at hover
  -- whoever is still being closed is the one from before, and further than its first look
  have hon : ∀ j next, s'.closing = some (j, next) → j = k ∧
      (h.coord.table.roster.endStep k .close stage).2 = some next := by
    intro j next hnext
    rw [closing] at hnext
    obtain ⟨next', hnext', hpair⟩ := Option.map_eq_some_iff.mp hnext
    cases hpair
    exact ⟨rfl, hnext'⟩
  have hasked : ∀ j next, s'.closing = some (j, next) →
      s'.tenancy j ≠ 0 ∧ (s'.table.roster.seats j).id = h.asked := by
    intro j next hnext
    obtain ⟨rfl, -⟩ := hon j next hnext
    exact ⟨(congrFun htenancy j).trans_ne hused, (hstays j).id.trans hid⟩
  cases stage with
  | begun =>
    rw [hconfirms]
    refine ⟨hsettled, hissued, hdistinct, ht.known, ht.cleared, hkept, hasked, fun j hnext => ?_,
      fun j next hnext hclosed => ?_⟩
    · obtain ⟨-, heq⟩ := hon j .claimed hnext
      simp [Roster.endStep] at heq
    · obtain ⟨rfl, heq⟩ := hon j next hnext
      simp only [Roster.endStep, Option.ite_none_right_eq_some] at heq
      -- it goes on, so the state it has loaded is a live one, which that of a closed session is not
      have hlive : (h.seat j).state.live = true := heq.1
      have hgone := (ht.ended j hused (hid.symm ▸ hclosed)).1
      grind
  | loaded =>
    rw [hconfirms]
    refine ⟨hsettled, hissued, hdistinct, ht.known, ht.cleared, hkept, hasked, fun j hnext => ?_,
      fun j next hnext hclosed => ?_⟩
    · obtain ⟨rfl, heq⟩ := hon j .claimed hnext
      change (s'.table.roster.seats j).endReason = .close
      rw [roster]
      simp only [Roster.endStep] at heq ⊢
      split_ifs at heq ⊢
      simp [Roster.setSeat]
    · cases ht.refused k .loaded held hclosed
  | claimed =>
    rw [hconfirms]
    have hnone : ∀ {P : Prop} {x : ℕ × EndStage}, s'.closing = some x → P := by
      intro P x hnext
      rw [closing] at hnext
      cases hnext
    have hfirst : h.asked ∉ h.closed := fun hmem => by cases ht.refused k .claimed held hmem
    have hown : Over { h with coord := s' } k := by
      have hseat : s'.table.roster.seats k = { h.seat k with state := .expiring } := by
        rw [roster]
        exact update_self ..
      unfold Over seat
      rw [hseat]
      refine ⟨rfl, iff_of_true (ht.claimed k held) fun hmem => ?_⟩
      exact hfirst (hid ▸ ht.cleared _ hmem)
    refine ⟨hsettled, hissued, hdistinct, fun id hmem => ?_,
      fun id hmem => List.mem_cons_of_mem _ (ht.cleared id hmem), fun j hj hmem => ?_, hasked,
      fun _ => hnone, fun _ _ => hnone⟩
    · rcases List.mem_cons.mp hmem with rfl | hold
      · rw [← hid]
        exact ht.issued k hused
      · exact ht.known id hold
    · rcases List.mem_cons.mp hmem with heq | hold
      · have hsame : (s'.table.roster.seats j).id = (s'.table.roster.seats k).id :=
          heq.trans ((hstays k).id.trans hid).symm
        rw [hdistinct j k hj ((congrFun htenancy k).trans_ne hused) hsame]
        exact hown
      · exact hkept j hj hold

lemma Truthful.step (ht : h.Truthful) (hnew : h.drawsNew i) (hs : h.step i = some (h', es)) :
    h'.Truthful := by
  obtain ⟨⟨s', out⟩, hstep, rfl, -⟩ := of_mapped hs
  cases (CoordState.step_moves hstep).closing with
  | claims call k fresh input target unlocked closing table =>
    subst input
    exact ht.claims (hnew _ rfl) closing table
  | abandons call k failure what input target unlocked closing table =>
    subst input
    exact ht.abandons hnew target closing table
  | locks request input unlocked after =>
    subst input after
    exact ht.locks request
  | ends k stage input held closing roster =>
    subst input
    exact ht.ends hstep held closing roster
  | passes pass closing =>
    obtain ⟨hasks, hdraws, hconfirms, hclears⟩ := h.coord.of_passes pass
    have hcleared : h.clearedBy i = [] := by simp [clearedBy, hclears]
    rw [hasks, hdraws, hconfirms, hcleared]
    exact ht.passes pass hstep closing

lemma reach_truthful {c : PublisherConfig} {serverEpochId : UInt64} {workerAddress : Bytes}
    {trace : List CoordEvent}
    (hreach : closeMachine.Reaches drawsNew (start c serverEpochId workerAddress) trace h) :
    h.Truthful := by
  refine hreach.invariant Truthful (start_truthful c serverEpochId workerAddress) ?_
  intro h i h' es ht hnew hs
  exact ht.step hnew hs

/-! ### The answers -/

/-- No Open claims a seat, as while a Renew holds `session_mutex`. -/
def claimless (_ : CloseHistory) (i : CoordInput) : Prop := i.claims = none

instance (h : CloseHistory) (i : CoordInput) : Decidable (h.claimless i) :=
  inferInstanceAs (Decidable (_ = _))

/-- What no step but a claim changes. -/
structure Keeps (h h' : CloseHistory) : Prop where
  tenancy : h'.coord.tenancy = h.coord.tenancy
  ids : ∀ k, (h'.seat k).id = (h.seat k).id
  closed : h.closed ⊆ h'.closed
  cleared : h'.cleared = h.cleared

lemma of_claims_none (hclaims : i.claims = none) : i.draws = none ∧ h.clearedBy i = [] := by
  cases i <;> first | exact ⟨rfl, rfl⟩ | cases hclaims

lemma claimless_keeps {trace : List CoordEvent} (ht : h.Truthful)
    (hreach : closeMachine.Reaches claimless h trace h') : h'.Truthful ∧ h.Keeps h' := by
  refine hreach.invariant (fun h' => h'.Truthful ∧ h.Keeps h')
    ⟨ht, rfl, fun _ => rfl, fun _ hid => hid, rfl⟩ ?_
  rintro h₁ i h₂ es ⟨ht₁, hkeeps⟩ hquiet hs
  obtain ⟨hdraws, hcleared⟩ := h₁.of_claims_none hquiet
  refine ⟨ht₁.step (by simp [drawsNew, hdraws]) hs, ?_⟩
  obtain ⟨⟨s', out⟩, hstep, rfl, -⟩ := of_mapped hs
  refine ⟨(CoordState.step_tenancy hquiet hstep).trans hkeeps.tenancy,
    fun k => (CoordState.step_keeps hquiet hstep k).id.trans (hkeeps.ids k), fun id hid => ?_, ?_⟩
  · split_ifs
    · exact List.mem_cons_of_mem _ (hkeeps.closed hid)
    · exact hkeeps.closed hid
  · rw [hcleared]
    exact hkeeps.cleared

end CloseHistory

namespace Publisher

variable {p : Publisher} {k : ℕ} {id : SessionId}

/-- The status of a Renew of a session that has ended, by the state and the reason it has loaded. -/
def endedStatus (state : SessionState) (reason : EndReason) : Status :=
  if state = .closed ∧ reason = .close then .unknownSession else .sessionExpired

lemma handleRenew_unknown {request : RenewRequest} (now : ℕ)
    (h : p.sessionForId request.sessionId = none) :
    (p.handleRenew request now).1.status = .unknownSession := by
  simp [handleRenew, h]

lemma handleRenew_gone {request : RenewRequest} (now : ℕ)
    (h : p.sessionForId request.sessionId = some k) (hgone : (p.sessions k).state.gone = true) :
    (p.handleRenew request now).1.status =
      endedStatus (p.sessions k).state (p.sessions k).endReason := by
  have hended := SessionState.gone_iff.mp hgone
  simp [handleRenew, h, hended, endedStatus]

lemma handleClose_gone (request : CloseRequest)
    (h : ∀ k, p.sessionForId request.sessionId = some k → (p.sessions k).state.gone = true) :
    (p.handleClose request).1.status = .unknownSession ∧ (p.handleClose request).2 = p := by
  unfold handleClose
  split
  · exact ⟨rfl, rfl⟩
  · rename_i k hfound
    have hdead : ¬ (p.sessions k).state.live = true := by
      have hgone := h k hfound
      grind
    have hlost : (p.beginExpiry k .close).1 = false := by
      simp [beginExpiry, claimEnd, hdead]
    rw [hlost]
    exact ⟨rfl, rfl⟩

lemma endedStatus_unknown {state : SessionState} {reason : EndReason} (hgone : state.gone = true) :
    endedStatus state reason = .unknownSession ↔ state ≠ .expiring ∧ reason = .close := by
  rcases SessionState.gone_iff.mp hgone with rfl | rfl
  all_goals simp [endedStatus]

end Publisher

namespace CloseHistory

variable {h : CloseHistory} {id : SessionId}

/-- What is answered about an identifier. `loads` is a Renew that finds the seat in this state and
loads its state and its reason in later ones, and `again` is a Close under way. -/
structure Answers (h : CloseHistory) (id : SessionId) : Prop where
  renew : ∀ request now, request.sessionId = id →
    ((h.coord.publisher.handleRenew request now).1.status = .unknownSession ↔
      ∀ k, h.coord.publisher.sessionForId id = some k →
        (h.coord.publisher.sessions k).state ≠ .expiring ∧ id ∉ h.cleared)
  loads : ∀ k, h.coord.publisher.sessionForId id = some k →
    ∀ trace₁ h₁, closeMachine.Reaches claimless h trace₁ h₁ →
    ∀ trace₂ h₂, closeMachine.Reaches claimless h₁ trace₂ h₂ →
      (Publisher.endedStatus (h₁.coord.publisher.sessions k).state
          (h₂.coord.publisher.sessions k).endReason = .unknownSession ↔
        (h₁.coord.publisher.sessions k).state ≠ .expiring ∧ id ∉ h.cleared) ∧
      (h₁.coord.publisher.sessions k).state.gone = true
  close : ∀ request, request.sessionId = id →
    (h.coord.publisher.handleClose request).1.status = .unknownSession ∧
      (h.coord.publisher.handleClose request).2 = h.coord.publisher
  again : ∀ k stage, h.coord.closing = some (k, stage) → h.asked = id →
    h.coord.step .closeStep = some ({ h.coord with closing := none }, [])

lemma Truthful.found (ht : h.Truthful) (hid : id ∈ h.closed) {k : ℕ}
    (hfound : h.coord.publisher.sessionForId id = some k) :
    h.coord.tenancy k ≠ 0 ∧ (h.seat k).id = id ∧ h.Over k := by
  obtain ⟨hknown, hname⟩ := Publisher.sessionForId_some hfound
  have hused := ht.settled.used (k := k) hknown
  have hmem : (h.seat k).id ∈ h.closed := by
    rw [show (h.seat k).id = id from hname]
    exact hid
  exact ⟨hused, hname, ht.ended k hused hmem⟩

lemma Truthful.loads (ht : h.Truthful) (hid : id ∈ h.closed) {k : ℕ}
    (hfound : h.coord.publisher.sessionForId id = some k) {h' : CloseHistory}
    {trace : List CoordEvent} (hreach : closeMachine.Reaches claimless h trace h') :
    (h'.seat k).state.gone = true ∧ ((h'.seat k).endReason = .close ↔ id ∉ h.cleared) := by
  obtain ⟨ht', hkeeps⟩ := claimless_keeps ht hreach
  obtain ⟨hused, hname, -⟩ := ht.found hid hfound
  have hname' : (h'.seat k).id = id := (hkeeps.ids k).trans hname
  have hover := ht'.ended k ((congrFun hkeeps.tenancy k).trans_ne hused)
    (by rw [hname']; exact hkeeps.closed hid)
  rwa [Over, hname', hkeeps.cleared] at hover

lemma Truthful.again (ht : h.Truthful) (hid : h.asked ∈ h.closed) {k : ℕ} {stage : EndStage}
    (held : h.coord.closing = some (k, stage)) :
    h.coord.step .closeStep = some ({ h.coord with closing := none }, []) := by
  obtain rfl := ht.refused k stage held hid
  obtain ⟨hused, hname⟩ := ht.asked k .begun held
  have hgone := (ht.ended k hused (hname.symm ▸ hid)).1
  have hdead : (h.coord.publisher.sessions k).state.live = false := by
    have hstate : (h.coord.publisher.sessions k).state.gone = true := hgone
    rcases SessionState.gone_iff.mp hstate with hs | hs
    all_goals
      rw [hs]
      rfl
  simp [CoordState.step, CoordState.closeStep, held, CoordState.endStep, Publisher.endStep, hdead]

end CloseHistory

/-- In every run in which no identifier is drawn twice, once a Close of an identifier was answered
Ok: a Renew of it is answered UnknownSession exactly when it does not find the session still
`Expiring`, or with its end cleared by a claim that threw, whenever it makes its loads; and another
Close of it is answered UnknownSession and changes nothing. -/
theorem closed_session_answers {c : PublisherConfig} {serverEpochId : UInt64}
    {workerAddress : Bytes} {trace : List CoordEvent} {h : CloseHistory} {id : SessionId}
    (hreach : closeMachine.Reaches CloseHistory.drawsNew (.start c serverEpochId workerAddress)
      trace h)
    (hid : id ∈ h.closed) : h.Answers id := by
  have ht := CloseHistory.reach_truthful hreach
  constructor
  case renew =>
    rintro request now rfl
    cases hfound : h.coord.publisher.sessionForId request.sessionId with
    | none => simp [Publisher.handleRenew_unknown now hfound]
    | some k =>
      obtain ⟨-, hname, hgone, hreason⟩ := ht.found hid hfound
      rw [hname] at hreason
      have hstate : (h.coord.publisher.sessions k).state.gone = true := hgone
      have hclose : (h.coord.publisher.sessions k).endReason = .close ↔
          request.sessionId ∉ h.cleared := hreason
      rw [Publisher.handleRenew_gone now hfound hstate, Publisher.endedStatus_unknown hstate, hclose]
      simp
  case loads =>
    intro k hfound trace₁ h₁ hreach₁ trace₂ h₂ hreach₂
    obtain ⟨hgone, -⟩ := ht.loads hid hfound hreach₁
    obtain ⟨-, hreason⟩ := ht.loads hid hfound (hreach₁.trans hreach₂)
    have hclose : (h₂.coord.publisher.sessions k).endReason = .close ↔ id ∉ h.cleared := hreason
    rw [← hclose]
    exact ⟨Publisher.endedStatus_unknown hgone, hgone⟩
  case close =>
    rintro request rfl
    exact Publisher.handleClose_gone request fun k hfound => (ht.found hid hfound).2.2.1
  case again =>
    rintro k stage held rfl
    exact ht.again hid held

def closedRenewal : RenewRequest where
  sessionId := (sampleFresh 1).id
  clientFramesDelivered := 0
  clientCreditsReturned := 0
  clientState := 0

def closedSample : List CoordInput :=
  [.openSelect sampleOpen, .openClaim 0 (sampleFresh 1), .openReply 0,
    .close { sessionId := (sampleFresh 1).id, reason := .normal }, .closeStep, .closeStep,
    .closeStep]

/-- The engine tears the closed session down. -/
def closedTorn : List CoordInput :=
  closedSample ++ [.startSweep 0, .engineStep .completed, .engineStep .completed,
    .engineStep .completed]

/-- Two more Opens, and the second throws in its claim of the closed seat. -/
def closedCleared : List CoordInput :=
  closedTorn ++ [.openSelect sampleOpen, .openClaim 1 (sampleFresh 2), .openReply 1,
    .openSelect sampleOpen, .openClaimThrows 2 .sessionId "getrandom: Function not implemented"]

/-- Once the engine has torn the session down, the Renew is told so. -/
theorem closed_session_answers_sample :
    ∃ trace h, closeMachine.Reaches CloseHistory.drawsNew (.start sampleConfig 1 [1]) trace h ∧
      (sampleFresh 1).id ∈ h.closed ∧ h.coord.publisher.sessionForId (sampleFresh 1).id = some 0 ∧
      (h.coord.publisher.handleRenew closedRenewal 0).1.status =
        .unknownSession := by
  obtain ⟨trace, h, hreach, hid, hfound, hstate, hkept⟩ :=
    closeMachine.exists_of_run CloseHistory.drawsNew (.start sampleConfig 1 [1]) closedTorn
      (P := fun h _ => (sampleFresh 1).id ∈ h.closed ∧
        h.coord.publisher.sessionForId (sampleFresh 1).id = some 0 ∧
        (h.coord.publisher.sessions 0).state = .closed ∧ (sampleFresh 1).id ∉ h.cleared)
      (by decide +kernel)
  refine ⟨trace, h, hreach, hid, hfound, ?_⟩
  refine ((closed_session_answers hreach hid).renew _ 0 rfl).mpr fun k hk => ⟨?_, hkept⟩
  obtain rfl := Option.some.inj (hfound.symm.trans hk)
  rw [hstate]
  decide

/-- Before that, and after a claim of the closed seat that threw, the client is told that its lease
ran out. -/
theorem closed_session_expired :
    (∃ trace h, closeMachine.Reaches CloseHistory.drawsNew (.start sampleConfig 1 [1]) trace h ∧
      (sampleFresh 1).id ∈ h.closed ∧
      (h.coord.publisher.handleRenew closedRenewal 0).1.status = .sessionExpired) ∧
    ∃ trace h, closeMachine.Reaches CloseHistory.drawsNew (.start sampleConfig 1 [1]) trace h ∧
      (sampleFresh 1).id ∈ h.closed ∧ (h.coord.publisher.sessions 0).state = .closed ∧
      (h.coord.publisher.handleRenew closedRenewal 0).1.status = .sessionExpired := by
  constructor
  · exact closeMachine.exists_of_run _ _ closedSample (by decide +kernel)
  · exact closeMachine.exists_of_run _ _ closedCleared (by decide +kernel)

end TangoBulk
