import TangoBulk.PublisherTable

/-! What the events of a run say about each tenancy of each seat, and what the moves of the session
table keep of it. -/
namespace TangoBulk

open ByteString Transition Function

/-! ### What a run records about a tenancy -/

/-- The seat and the tenancy an event is about. -/
def CoordEvent.about : CoordEvent → ℕ × ℕ
  | .opened k n _ _ | .acked k n _ _ | .submitted k n | .ended k n _ | .tornDown k n => (k, n)

/-- The identifiers a tenancy was opened with, the reasons that won its end and how often it was torn
down. -/
structure TenancyRecord where
  openings : List (UInt64 × UInt64) := []
  endings : List EndReason := []
  teardowns : ℕ := 0
  deriving DecidableEq

namespace TenancyRecord

def note (r : TenancyRecord) : CoordEvent → TenancyRecord
  | .opened _ _ streamId token => { r with openings := r.openings ++ [(streamId, token)] }
  | .ended _ _ reason => { r with endings := r.endings ++ [reason] }
  | .tornDown _ _ => { r with teardowns := r.teardowns + 1 }
  | .acked .. | .submitted .. => r

/-- A tenancy that is over: one reason won and one teardown ran. -/
structure Complete (r : TenancyRecord) : Prop where
  ended : ∃ reason, reason ≠ .none ∧ r.endings = [reason]
  torn : r.teardowns = 1

end TenancyRecord

/-- What the trace says about tenancy `n` of seat `k`. -/
def tenancyRecord (k n : ℕ) (trace : List CoordEvent) : TenancyRecord :=
  (trace.filter fun e => e.about = (k, n)).foldl TenancyRecord.note {}

lemma tenancyRecord_append (k n : ℕ) (trace : List CoordEvent) (e : CoordEvent) :
    tenancyRecord k n (trace ++ [e]) =
      if e.about = (k, n) then (tenancyRecord k n trace).note e else tenancyRecord k n trace := by
  unfold tenancyRecord
  rw [List.filter_append]
  by_cases he : e.about = (k, n)
  · simp [he, List.foldl_append]
  · simp [he]

namespace SeatTable

variable {t t' : SeatTable} {k : ℕ} {trace es : List CoordEvent}

/-- What the record of a seat's present tenancy has to say until the seat is closed. -/
def present (t : SeatTable) (k : ℕ) : TenancyRecord :=
  if t.tenancy k = 0 then {}
  else
    { openings := [((t.roster.seats k).streamId, (t.roster.seats k).probeToken)]
      endings := if t.endReason k = .none then [] else [t.endReason k] }

/-- Tenancy `n` of seat `k` is over: its seat is closed or already has a later one. -/
def finished (t : SeatTable) (k n : ℕ) : Prop :=
  n < t.tenancy k ∨ (n = t.tenancy k ∧ t.state k = .closed)

lemma present_congr (hn : t'.tenancy k = t.tenancy k)
    (hseat : t'.roster.seats k = t.roster.seats k) : t'.present k = t.present k := by
  unfold present endReason
  rw [hn, hseat]

lemma present_eq {x : Seat} (hused : t.tenancy k ≠ 0) (hseat : t.roster.seats k = x) :
    t.present k =
      { openings := [(x.streamId, x.probeToken)]
        endings := if x.endReason = .none then [] else [x.endReason] } := by
  subst hseat
  exact if_neg hused

/-- A closed seat may have lost what it held to a claim that threw; the record has not. -/
structure Recorded (trace : List CoordEvent) (t : SeatTable) : Prop where
  past : ∀ k n, 0 < n → t.finished k n → (tenancyRecord k n trace).Complete
  now : ∀ k, t.state k ≠ .closed → tenancyRecord k (t.tenancy k) trace = t.present k
  later : ∀ k n, t.tenancy k < n → tenancyRecord k n trace = {}

lemma Recorded.same (h : t.Recorded trace) (htenancy : t'.tenancy = t.tenancy)
    (hclosed : ∀ k, t'.state k = .closed ↔ t.state k = .closed)
    (hpresent : ∀ k, t.state k ≠ .closed → t'.present k = t.present k) : t'.Recorded trace where
  past k n hpos hover := by
    refine h.past k n hpos ?_
    rwa [finished, htenancy, hclosed] at hover
  now k hk := by
    rw [Ne, hclosed] at hk
    rw [htenancy, hpresent k hk]
    exact h.now k hk
  later k n hlt := h.later k n (htenancy ▸ hlt)

lemma Recorded.note (h : t.Recorded trace) {e : CoordEvent} (he : e.about = (k, t.tenancy k))
    (hlive : t.state k ≠ .closed) (htenancy : t'.tenancy = t.tenancy)
    (hother : ∀ j, j ≠ k → t'.roster.seats j = t.roster.seats j)
    (hk : t'.state k ≠ .closed → t'.present k = (t.present k).note e)
    (hdone : t'.state k = .closed → ((t.present k).note e).Complete) :
    t'.Recorded (trace ++ [e]) where
  past j n hpos hover := by
    rw [tenancyRecord_append]
    by_cases hj : (k, t.tenancy k) = (j, n)
    · cases hj
      rw [if_pos he, h.now k hlive]
      rcases hover with hlt | ⟨-, hclosed⟩
      · rw [htenancy] at hlt
        exact absurd hlt (lt_irrefl _)
      · exact hdone hclosed
    · rw [if_neg (he.trans_ne hj)]
      refine h.past j n hpos (hover.imp (fun hlt => htenancy ▸ hlt) ?_)
      rintro ⟨hn, hclosed⟩
      rw [htenancy] at hn
      have hjk : j ≠ k := by
        rintro rfl
        exact hj (by rw [hn])
      rw [state, hother j hjk] at hclosed
      exact ⟨hn, hclosed⟩
  now j hj := by
    rw [htenancy, tenancyRecord_append]
    by_cases hjk : j = k
    · subst hjk
      rw [if_pos he, h.now j hlive, hk hj]
    · have hne : e.about ≠ (j, t.tenancy j) := fun heq => by
        rw [he] at heq
        exact hjk (Prod.mk.inj heq).1.symm
      rw [state, hother j hjk] at hj
      rw [if_neg hne, h.now j hj, present_congr (congrFun htenancy j) (hother j hjk)]
  later j n hlt := by
    rw [htenancy] at hlt
    have hne : e.about ≠ (j, n) := by
      rw [he]
      rintro heq
      cases heq
      exact lt_irrefl _ hlt
    rw [tenancyRecord_append, if_neg hne]
    exact h.later j n hlt

/-- A claim begins the next tenancy of its seat. -/
lemma Recorded.claim (h : t.Recorded trace) (hs : t.Sound) (fresh : Publisher.Fresh)
    (free : (t.state k).free = true) :
    ({ t with
      roster := t.roster.claim k fresh
      tenancy := update t.tenancy k (t.tenancy k + 1) } : SeatTable).Recorded
        (trace ++ [.opened k (t.tenancy k + 1) fresh.streamId fresh.probeToken]) := by
  have hnew : (t.roster.claim k fresh).seats k =
      ⟨.open, .none, fresh.id, fresh.streamId, fresh.probeToken⟩ := update_self ..
  have hother : ∀ j, j ≠ k → (t.roster.claim k fresh).seats j = t.roster.seats j :=
    fun j hj => update_of_ne hj _ _
  have hnow : ∀ j n, CoordEvent.about (.opened k (t.tenancy k + 1) fresh.streamId
      fresh.probeToken) = (j, n) ↔ j = k ∧ n = t.tenancy k + 1 := by
    intro j n
    simp [CoordEvent.about, eq_comm]
  constructor
  case past =>
    intro j n hpos hover
    simp only [finished, state] at hover
    by_cases hj : j = k
    · subst hj
      rw [hnew, update_self] at hover
      have hle : n ≤ t.tenancy j := by
        rcases hover with hlt | ⟨-, hclosed⟩
        · omega
        · cases hclosed
      rw [tenancyRecord_append, if_neg (by rw [hnow]; omega)]
      refine h.past j n hpos (hle.lt_or_eq.imp_right fun hn => ⟨hn, ?_⟩)
      -- the tenancy that was present until now
      have hunknown := (hs.numbered j).not.mpr (by omega)
      grind
    · rw [hother j hj, update_of_ne hj] at hover
      rw [tenancyRecord_append, if_neg (by rw [hnow]; exact fun heq => hj heq.1)]
      exact h.past j n hpos hover
  case now =>
    intro j hopen
    dsimp only
    by_cases hj : j = k
    · subst hj
      have hfirst := h.later j (t.tenancy j + 1) (Nat.lt_succ_self _)
      rw [update_self, tenancyRecord_append, if_pos ((hnow _ _).mpr ⟨rfl, rfl⟩), hfirst,
        present_eq (by simp) hnew]
      rfl
    · rw [state, hother j hj] at hopen
      rw [update_of_ne hj, tenancyRecord_append,
        if_neg (by rw [hnow]; exact fun heq => hj heq.1), h.now j hopen]
      exact (present_congr (update_of_ne hj _ _) (hother j hj)).symm
  case later =>
    intro j n hlt
    have hold : t.tenancy j < n ∧ ¬ (j = k ∧ n = t.tenancy k + 1) := by
      by_cases hj : j = k
      · subst hj
        simp at hlt
        omega
      · simp only [update_of_ne hj] at hlt
        exact ⟨hlt, fun heq => hj heq.1⟩
    rw [tenancyRecord_append, if_neg (by rw [hnow]; exact hold.2)]
    exact h.later j n hold.1

/-- The record does not depend on how far the session has come. -/
lemma present_promote {s : SessionState} (htenancy : t'.tenancy = t.tenancy)
    (hseats : t'.roster.seats =
      update t.roster.seats k { t.roster.seats k with state := s }) (j : ℕ) :
    t'.present j = t.present j := by
  unfold present endReason
  rw [htenancy, hseats]
  by_cases hj : j = k
  · subst hj
    rw [update_self]
  · rw [update_of_ne hj]

lemma Recorded.expire (h : t.Recorded trace) (hlive : (t.state k).live = true)
    (htenancy : t'.tenancy = t.tenancy)
    (hseats : t'.roster.seats =
      update t.roster.seats k { t.roster.seats k with state := .expiring }) :
    t'.Recorded trace := by
  refine h.same htenancy (fun j => ?_) fun j _ => present_promote htenancy hseats j
  simp only [state] at hlive ⊢
  rw [hseats]
  grind

/-- An event that records nothing, of a session that goes on. -/
lemma Recorded.goes (h : t.Recorded trace) {e : CoordEvent} (he : e.about = (k, t.tenancy k))
    {s : SessionState} (hold : t.state k ≠ .closed) (hnew : s ≠ .closed)
    (hnote : ∀ r : TenancyRecord, r.note e = r) (htenancy : t'.tenancy = t.tenancy)
    (hseats : t'.roster.seats =
      update t.roster.seats k { t.roster.seats k with state := s }) :
    t'.Recorded (trace ++ [e]) := by
  refine h.note he hold htenancy (fun j hj => ?_) (fun _ => ?_) fun hclosed => ?_
  · rw [hseats, update_of_ne hj]
  · rw [hnote]
    exact present_promote htenancy hseats k
  · rw [state, hseats, update_self] at hclosed
    exact absurd hclosed hnew

lemma Recorded.abandon (h : t.Recorded trace) (hs : t.Sound) (failure : Publisher.DrawFailure)
    (free : (t.state k).free = true) :
    ({ t with roster := t.roster.abandon k failure } : SeatTable).Recorded trace := by
  refine h.same rfl (fun j => ?_) fun j hj => ?_
  · simp only [state, Roster.state_abandon]
  · by_cases hjk : j = k
    · subst hjk
      have hzero : t.tenancy j = 0 := (hs.numbered j).mp (by grind)
      rw [present, present, if_pos hzero, if_pos hzero]
    · exact present_congr rfl (update_of_ne hjk _ _)

lemma Move.recorded (m : Move t es t') (hs : t.Sound) (h : t.Recorded trace) :
    t'.Recorded (trace ++ es) := by
  have hstill : ∀ {k : ℕ}, (t.state k).occupied = true → t.state k ≠ .closed := by grind
  cases m with
  | stay | lock | turn | found =>
    rw [List.append_nil]
    exact h.same rfl (fun _ => .rfl) fun _ _ => rfl
  | @ends e k stage reason reasoned held =>
    cases stage with
    | begun =>
      have hquiet : (t.roster.endStep k reason .begun).2 ≠ some .claimed := by
        simp only [Roster.endStep]
        split_ifs <;> simp
      rw [if_neg hquiet, List.append_nil]
      exact h.same rfl (fun _ => .rfl) fun _ _ => rfl
    | loaded =>
      by_cases hnone : t.endReason k = .none
      · have hdone : t.roster.endStep k reason .loaded =
            (t.roster.setSeat k { t.roster.seats k with endReason := reason }, some .claimed) :=
          if_pos hnone
        rw [hdone, if_pos rfl]
        have hoccupied : (t.state k).occupied = true := by
          have hloaded := hs.loaded e k held
          grind
        have hused : t.tenancy k ≠ 0 := (hs.numbered k).not.mp (by grind)
        refine h.note rfl (hstill hoccupied) rfl (fun j hj => ?_) (fun _ => ?_) fun hclosed => ?_
        · exact update_of_ne hj _ _
        · have hold : (t.roster.seats k).endReason = .none := hnone
          rw [present_eq (t := t) hused rfl]
          refine Eq.trans (present_eq ?_ (update_self ..)) ?_
          · exact hused
          · simp [TenancyRecord.note, reasoned, hold]
        · simp only [state, Roster.setSeat, update_self] at hclosed
          exact absurd hclosed (hstill hoccupied)
      · have hdone : t.roster.endStep k reason .loaded = (t.roster, none) := if_neg hnone
        rw [hdone, if_neg (by simp), List.append_nil]
        exact h.same rfl (fun _ => .rfl) fun _ _ => rfl
    | claimed =>
      rw [if_neg (by simp [Roster.endStep]), List.append_nil]
      exact h.expire (hs.claimed e k held).1 rfl rfl
  | claim seated free => exact h.claim hs _ free
  | abandon free =>
    rw [List.append_nil]
    exact h.abandon hs _ free
  | @arm k streamId token held =>
    by_cases hopen : t.state k = .open
    · have harm : t.roster.arm k = t.roster.setSeat k { t.roster.seats k with state := .armed } :=
        if_pos hopen
      rw [if_pos hopen, harm]
      exact h.goes rfl (by grind) (s := .armed) (by decide) (fun _ => rfl) rfl rfl
    · have harm : t.roster.arm k = t.roster := if_neg hopen
      rw [if_neg hopen, List.append_nil, harm]
      exact h.same rfl (fun _ => .rfl) fun _ _ => rfl
  | @sent k held =>
    have hsending := hs.sending k held
    by_cases harmed : t.state k = .armed
    · have hact : t.roster.activate k =
          t.roster.setSeat k { t.roster.seats k with state := .active } := if_pos harmed
      rw [hact]
      exact h.goes rfl (by grind) (s := .active) (by decide) (fun _ => rfl) rfl rfl
    · have hact : t.roster.activate k = t.roster := if_neg harmed
      rw [hact]
      exact h.goes rfl (by grind) (s := t.state k) (by grind) (fun _ => rfl) rfl (by simp [state])
  | @retire k held still done =>
    have hexpiring : t.state k = .expiring := hs.tearing k held
    have hused : t.tenancy k ≠ 0 := (hs.numbered k).not.mp (by grind)
    have hseats := t.roster.seats_retire k
    refine h.note rfl (by grind) rfl (fun j hj => ?_) (fun hopen => ?_) fun _ => ?_
    · change (t.roster.retire k).seats j = _
      rw [hseats, update_of_ne hj]
    · simp [state, hseats] at hopen
    · have hreason : (t.roster.seats k).endReason ≠ .none := hs.reasoned k hexpiring
      rw [present_eq hused rfl]
      exact ⟨⟨_, hreason, by simp [TenancyRecord.note, hreason]⟩, rfl⟩

/-! ### Frames follow the probe -/

/-- A session that frames go to was armed by an acknowledgement with its own identifiers, and so was
each one that a frame went to, before it did. -/
structure Probed (trace : List CoordEvent) (t : SeatTable) : Prop where
  acked : ∀ k, (t.state k).eligible = true ∨ t.use = .sending k →
    .acked k (t.tenancy k) (t.roster.seats k).streamId (t.roster.seats k).probeToken ∈ trace
  submitted : ∀ before after k n, trace = before ++ .submitted k n :: after →
    ∃ streamId token, (tenancyRecord k n before).openings = [(streamId, token)] ∧
      .acked k n streamId token ∈ before

lemma submitted_append {e : CoordEvent} {before after : List CoordEvent} {n : ℕ}
    (h : trace ++ [e] = before ++ .submitted k n :: after) :
    (∃ rest, trace = before ++ .submitted k n :: rest) ∨ (trace = before ∧ e = .submitted k n) := by
  rcases after.eq_nil_or_concat with rfl | ⟨rest, last, rfl⟩
  · have hlast := List.append_inj' h rfl
    exact .inr ⟨hlast.1, (List.cons.inj hlast.2).1⟩
  · have hassoc : trace ++ [e] = (before ++ .submitted k n :: rest) ++ [last] := by
      simpa using h
    exact .inl ⟨rest, (List.append_inj' hassoc rfl).1⟩

lemma Recorded.openings (h : t.Recorded trace) (hused : t.tenancy k ≠ 0)
    (hopen : t.state k ≠ .closed) :
    (tenancyRecord k (t.tenancy k) trace).openings =
      [((t.roster.seats k).streamId, (t.roster.seats k).probeToken)] := by
  rw [h.now k hopen, present_eq hused rfl]

/-- A session that frames may go to was so before, under the same identifiers, or is armed by this
move. -/
lemma Move.carries (m : Move t es t') (hs : t.Sound)
    (hk : (t'.state k).eligible = true ∨ t'.use = .sending k) :
    ((t.state k).eligible = true ∨ t.use = .sending k) ∧ t'.tenancy k = t.tenancy k ∧
        (t'.roster.seats k).streamId = (t.roster.seats k).streamId ∧
        (t'.roster.seats k).probeToken = (t.roster.seats k).probeToken ∨
      .acked k (t'.tenancy k) (t'.roster.seats k).streamId (t'.roster.seats k).probeToken ∈ es := by
  have hsending := hs.sending k
  simp only [state] at *
  cases m with
  | stay | lock | found => exact .inl ⟨hk, rfl, rfl, rfl⟩
  | turn fresh seen =>
    refine .inl ⟨?_, rfl, rfl, rfl⟩
    rcases hk with hk | hk
    · exact .inl hk
    · cases hk
      exact .inl seen
  | @ends e j stage => cases stage <;> simp only [Roster.endStep] at * <;> grind
  | claim =>
    simp only [Roster.claim, state] at *
    grind [update_apply]
  | abandon =>
    simp only [Roster.abandon, state] at *
    grind
  | @arm j streamId token held =>
    -- the identifiers that were compared are still those of the seat
    have hids := (hs.arming j streamId token held).2
    simp only [Roster.arm, state] at *
    grind
  | sent =>
    simp only [Roster.activate] at *
    grind
  | retire =>
    simp only [Roster.seats_retire] at *
    grind [update_apply]

/-- A move reports one event at most, and that a frame went to a seat only while it is in use. -/
lemma Move.reported (m : Move t es t') : es = [] ∨ ∃ e, es = [e] ∧
    ∀ k n, e = .submitted k n → t.use = .sending k ∧ t.tenancy k = n := by
  cases m with
  | stay | lock | turn | found | abandon => exact .inl rfl
  | ends | arm =>
    split_ifs
    · exact .inr ⟨_, rfl, nofun⟩
    · exact .inl rfl
  | claim | retire => exact .inr ⟨_, rfl, nofun⟩
  | sent held =>
    refine .inr ⟨_, rfl, fun k n heq => ?_⟩
    cases heq
    exact ⟨held, rfl⟩

lemma Move.probed (m : Move t es t') (hs : t.Sound) (hr : t.Recorded trace)
    (h : t.Probed trace) : t'.Probed (trace ++ es) where
  acked k hk := by
    obtain ⟨hold, hn, hstream, htoken⟩ | hnew := m.carries hs hk
    · rw [hn, hstream, htoken]
      exact List.mem_append_left es (h.acked k hold)
    · exact List.mem_append_right trace hnew
  submitted before after k n heq := by
    obtain rfl | ⟨e, rfl, hsubmitted⟩ := m.reported
    · exact h.submitted before after k n (by simpa using heq)
    · rcases submitted_append heq with ⟨rest, hold⟩ | ⟨rfl, hnew⟩
      · exact h.submitted before rest k n hold
      · obtain ⟨held, rfl⟩ := hsubmitted k n hnew
        have hsending := hs.sending k held
        have hused : t.tenancy k ≠ 0 := (hs.numbered k).not.mp (by grind)
        exact ⟨_, _, hr.openings hused (by grind), h.acked k (.inr held)⟩

end SeatTable

end TangoBulk
