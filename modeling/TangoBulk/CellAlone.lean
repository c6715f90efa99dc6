import TangoBulk.CellLinear

/-! A thread that is alone on the queue for a while. Others may have stopped anywhere in their
calls; what this one calls in the meantime comes back, and does what the sequential queue does. -/
namespace TangoBulk

open Transition Function

/-- What the thread is told, as the sequential call answers it. -/
def QueueReturn.answer {α : Type} : QueueReturn α → QueueAnswer α
  | .pushed _ => .pushed true
  | .refused _ _ => .pushed false
  | .popped _ item => .popped item
  | .empty _ => .popped none

namespace QueueInput

variable {α : Type}

/-- The sequential call that the input starts. -/
def call : QueueInput α → Option (QueueCall α)
  | .callPush _ item => some (.push item 0)
  | .callPop _ => some (.pop 0)
  | .access _ _ => none

/-- An access at which a compare-and-swap fails spuriously, if it is one. -/
def spurious : QueueInput α → Bool
  | .access _ spurious => spurious
  | _ => false

lemma eq_access {i : QueueInput α} {t : ℕ} (hi : i.thread = t) (hcall : i.call = none) :
    ∃ spurious, i = .access t spurious := by
  cases i with
  | callPush | callPop => cases hcall
  | access u spurious => exact ⟨spurious, by rw [← hi]; rfl⟩

end QueueInput

def threadMachine (α : Type) : Machine (QueueState α) (QueueInput α) (QueueReturn α) :=
  ⟨QueueState.step⟩

/-- At most so many accesses are left, if no compare-and-swap fails. -/
def CallStage.rank : CallStage → ℕ
  | .idle => 0
  | .load _ => 7
  | .look _ _ => 6
  | .swap _ _ => 5
  | .move _ _ => 4
  | .clear _ => 3
  | .store _ _ => 2
  | .count _ => 1

namespace CellQueue

variable {α : Type} {q : CellQueue α} {side : Side} {item : Option α}
  {r : QueueAnswer α × CellQueue α}

/-- What a call at this end leaves behind once its cell holds `data`. -/
def finish (q : CellQueue α) (pos : Position) (side : Side) (data : Option α) : CellQueue α :=
  (q.setCell pos { sequence := q.nextTurn pos side, data }).counted side

/-- The whole call at one end. -/
def attempt (q : CellQueue α) : Side → Option α → Option (QueueAnswer α × CellQueue α)
  | .push, some item => q.call 1 (.push item 0)
  | .push, none => none
  | .pop, _ => q.call 1 (.pop 0)

@[simp] lemma cellAt_setCell (q : CellQueue α) (pos : Position) (cell : Cell α) :
    (q.setCell pos cell).cellAt pos = cell := q.setCell_buffer_self pos cell

@[simp] lemma setCell_setCell (q : CellQueue α) (pos : Position) (cell cell' : Cell α) :
    (q.setCell pos cell).setCell pos cell' = q.setCell pos cell' := by
  unfold setCell
  exact congrArg (CellQueue.mk _ · _ _ _) (update_idem ..)

lemma finish_setCell (q : CellQueue α) (pos : Position) (side : Side) (cell : Cell α)
    (data : Option α) : (q.setCell pos cell).finish pos side data = q.finish pos side data := by
  have hturn : (q.setCell pos cell).nextTurn pos side = q.nextTurn pos side := by cases side <;> rfl
  rw [finish, setCell_setCell, hturn, finish]

/-- What a call at this end does from the move of its item on. -/
def moved (q : CellQueue α) (pos : Position) (item : Option α) : Side → QueueAnswer α × CellQueue α
  | .push => (.pushed true, q.finish pos .push item)
  | .pop => (.popped (q.cellAt pos).data, q.finish pos .pop none)

/-- The answer of a call that finds no cell whose turn it is. -/
def refusal : Side → QueueAnswer α
  | .push => .pushed false
  | .pop => .popped none

/-- How far the next cell at one end is ahead of its turn there. -/
def lead (q : CellQueue α) (side : Side) : ℤ :=
  Ring.distance (q.cellAt (q.cursor side)).sequence (q.cursor side + BitVec.ofNat 64 side.ahead)

lemma isSome_of_attempt (h : q.attempt side item = some r) (hside : side = .push) :
    item.isSome = true := by
  subst hside
  cases item with
  | none => cases h
  | some => rfl

lemma attempt_eq (hitem : side = .push → item.isSome = true) :
    q.attempt side item = (q.claim (q.cursor side) side.ahead 1 (q.cursor side) 0).map fun
      | none => (refusal side, q)
      | some pos => (q.setCursor side (pos + 1)).moved pos item side := by
  have hmap : ∀ {β : Type} {x : Option (Option Position)} {f : Option Position → β × CellQueue α}
      {g : β → QueueAnswer α} {f' : Option Position → QueueAnswer α × CellQueue α},
      (∀ pos, (g (f pos).1, (f pos).2) = f' pos) →
      (x.map f).map (fun r => (g r.1, r.2)) = x.map f' := by
    intro β x f g f' heq
    rw [Option.map_map]
    exact congrArg (Option.map · x) (funext heq)
  cases side with
  | push =>
    obtain ⟨item, rfl⟩ := Option.isSome_iff_exists.mp (hitem rfl)
    exact hmap fun pos => by cases pos <;> rfl
  | pop => exact hmap fun pos => by cases pos <;> rfl

lemma attempt_turn (hitem : side = .push → item.isSome = true) (h : q.lead side = 0) :
    q.attempt side item =
      some ((q.setCursor side (q.cursor side + 1)).moved (q.cursor side) item side) := by
  rw [attempt_eq hitem, claim_ready h Nat.one_pos]
  rfl

lemma attempt_behind (hitem : side = .push → item.isSome = true) (h : q.lead side < 0) :
    q.attempt side item = some (refusal side, q) := by
  rw [attempt_eq hitem, claim_behind 0 h Nat.one_pos]
  rfl

/-- Where a call comes back, the cell is not ahead of its turn. -/
lemma lead_le_of_attempt (h : q.attempt side item = some r) : q.lead side ≤ 0 := by
  by_contra hahead
  rw [attempt_eq (isSome_of_attempt h), claim_ahead 1 0 (not_le.mp hahead)] at h
  cases h

lemma exists_attempt (hitem : side = .push → item.isSome = true) (h : q.lead side ≤ 0) :
    ∃ r, q.attempt side item = some r := by
  rcases h.lt_or_eq with hbehind | hturn
  · exact ⟨_, attempt_behind hitem hbehind⟩
  · exact ⟨_, attempt_turn hitem hturn⟩

end CellQueue

namespace QueueState

variable {α : Type} {s s' : QueueState α} {t : ℕ} {a : QueueAnswer α} {q : CellQueue α}
  {rs : List (QueueReturn α)}

@[simp] lemma setCaller_callers_self (s : QueueState α) (t : ℕ) (c : Caller α) :
    (s.setCaller t c).callers t = c := update_self ..

variable {i : QueueInput α} {spurious : Bool}

lemma step_others {u : ℕ} (hs : s.step i = some (s', rs)) (hu : u ≠ i.thread) :
    s'.callers u = s.callers u := by
  have hset : ∀ (s : QueueState α) (c : Caller α),
      (s.setCaller i.thread c).callers u = s.callers u := fun s c => update_of_ne hu _ _
  cases i with
  | callPush | callPop =>
    obtain ⟨-, rfl, -⟩ := of_guard hs
    exact hset _ _
  | access =>
    simp only [step, access] at hs
    split at hs
    case h_1 => cases hs
    case h_3 | h_4 =>
      split_ifs at hs
      all_goals
        cases hs
        exact hset _ _
    all_goals
      cases hs
      exact hset _ _

/-! ### The call under way -/

/-- The answer of the call that thread `t` is in and the queue it leaves, if nobody disturbs it. -/
def due (s : QueueState α) (t : ℕ) : Option (QueueAnswer α × CellQueue α) :=
  let q := s.queue
  let item := (s.callers t).item
  match (s.callers t).stage with
  | .idle => none
  | .load side => q.attempt side item
  | .look side pos => if pos = q.cursor side then q.attempt side item else none
  | .swap side pos => if pos = q.cursor side ∧ q.lead side = 0 then q.attempt side item else none
  | .move side pos => some (q.moved pos item side)
  | .clear pos => some (.popped item, q.finish pos .pop none)
  | .store side pos => some ((s.done t side).answer, q.finish pos side (q.cellAt pos).data)
  | .count side => some ((s.done t side).answer, q.counted side)

/-- What an access leaves of a call that was due to answer `a` and leave `q`. -/
inductive Proceeds (t : ℕ) (a : QueueAnswer α) (q : CellQueue α) (s' : QueueState α) :
    List (QueueReturn α) → Prop
  | goesOn (due : s'.due t = some (a, q)) : Proceeds t a q s' []
  | returns {r : QueueReturn α} (answer : r.answer = a) (queue : s'.queue = q)
      (idle : (s'.callers t).stage = .idle) : Proceeds t a q s' [r]

lemma due_idle (hidle : (s.callers t).stage = .idle) : s.due t = none := by
  simp [due, hidle]

lemma look_proceeds {side : Side} {pos : Position}
    (hstage : (s.callers t).stage = .look side pos) (hdue : s.due t = some (a, q))
    (hs : s.access t spurious = some (s', rs)) :
    Proceeds t a q s' rs ∧ (s'.callers t).stage.rank + 1 ≤ 6 := by
  simp only [due, hstage, Option.ite_none_right_eq_some] at hdue
  obtain ⟨rfl, hattempt⟩ := hdue
  have hahead := CellQueue.lead_le_of_attempt hattempt
  simp only [access, hstage] at hs
  split_ifs at hs with hturn hbehind
  · cases hs
    refine ⟨.goesOn ?_, by simp [setStage, CallStage.rank]⟩
    simp only [due, setStage, setCaller_callers_self]
    exact (if_pos ⟨rfl, hturn⟩).trans hattempt
  · cases hs
    have hrefused := CellQueue.attempt_behind (CellQueue.isSome_of_attempt hattempt) hbehind
    obtain ⟨rfl, rfl⟩ := Prod.mk.inj (Option.some.inj (hrefused.symm.trans hattempt))
    refine ⟨.returns ?_ rfl (by simp [setStage]), by simp [setStage, CallStage.rank]⟩
    cases side <;> rfl
  · exact absurd hahead (by unfold CellQueue.lead; omega)

lemma swap_proceeds {side : Side} {pos : Position}
    (hstage : (s.callers t).stage = .swap side pos) (hdue : s.due t = some (a, q))
    (hs : s.access t spurious = some (s', rs)) :
    Proceeds t a q s' rs ∧
      (s'.callers t).stage.rank + 1 ≤ 5 + 2 * (if spurious then 1 else 0) := by
  simp only [due, hstage, Option.ite_none_right_eq_some] at hdue
  obtain ⟨⟨rfl, hturn⟩, hattempt⟩ := hdue
  simp only [access, hstage] at hs
  cases spurious with
  | false =>
    rw [if_pos (by simp)] at hs
    cases hs
    refine ⟨.goesOn ?_, by simp [setStage, CallStage.rank]⟩
    simp only [due, setStage, setCaller_callers_self]
    exact (CellQueue.attempt_turn (CellQueue.isSome_of_attempt hattempt) hturn).symm.trans hattempt
  | true =>
    rw [if_neg (by simp)] at hs
    cases hs
    refine ⟨.goesOn ?_, by simp [setStage, CallStage.rank]⟩
    simp only [due, setStage, setCaller_callers_self]
    exact (if_pos rfl).trans hattempt

/-- An access of the thread brings its call nearer to what it was due to do, but for a spurious
failure, which costs two accesses. -/
lemma access_proceeds (hdue : s.due t = some (a, q)) (hs : s.access t spurious = some (s', rs)) :
    Proceeds t a q s' rs ∧ (s'.callers t).stage.rank + 1 ≤
      (s.callers t).stage.rank + 2 * (if spurious then 1 else 0) := by
  cases hstage : (s.callers t).stage with
  | idle =>
    rw [due_idle hstage] at hdue
    cases hdue
  | look =>
    obtain ⟨hnext, hrank⟩ := look_proceeds hstage hdue hs
    exact ⟨hnext, Nat.le_add_right_of_le hrank⟩
  | swap => exact swap_proceeds hstage hdue hs
  | load =>
    simp only [due, hstage] at hdue
    simp only [access, hstage] at hs
    cases hs
    refine ⟨.goesOn ?_, Nat.le_add_right_of_le (by simp [setStage, CallStage.rank])⟩
    simp only [due, setStage, setCaller_callers_self]
    exact (if_pos rfl).trans hdue
  | move side =>
    cases side with
    | push =>
      simp only [due, hstage] at hdue
      simp only [access, hstage] at hs
      cases hs
      refine ⟨.goesOn ?_, Nat.le_add_right_of_le (by simp [CallStage.rank])⟩
      simp only [due, setCaller_callers_self]
      rw [← hdue]
      simp [setCaller, CellQueue.finish_setCell, CellQueue.moved, done, QueueReturn.answer]
    | pop =>
      simp only [due, hstage] at hdue
      simp only [access, hstage] at hs
      cases hs
      refine ⟨.goesOn ?_, Nat.le_add_right_of_le (by simp [CallStage.rank])⟩
      simp only [due, setCaller_callers_self]
      exact hdue
  | clear =>
    simp only [due, hstage] at hdue
    simp only [access, hstage] at hs
    cases hs
    refine ⟨.goesOn ?_, Nat.le_add_right_of_le (by simp [setStage, CallStage.rank])⟩
    simp only [due, setStage, setCaller_callers_self]
    rw [← hdue]
    simp [setCaller, CellQueue.finish_setCell, done, QueueReturn.answer]
  | store side =>
    simp only [due, hstage] at hdue
    simp only [access, hstage] at hs
    cases hs
    refine ⟨.goesOn ?_, Nat.le_add_right_of_le (by simp [setStage, CallStage.rank])⟩
    simp only [due, setStage, setCaller_callers_self]
    rw [← hdue]
    cases side <;> simp [setCaller, CellQueue.finish, done, QueueReturn.answer]
  | count =>
    simp only [due, hstage] at hdue
    simp only [access, hstage] at hs
    cases hs
    cases hdue
    exact ⟨.returns rfl rfl (by simp [setStage]),
      Nat.le_add_right_of_le (by simp [setStage, CallStage.rank])⟩

lemma busy_of_access (hs : s.access t spurious = some (s', rs)) : (s.callers t).stage ≠ .idle := by
  intro hidle
  simp [access, hidle] at hs

lemma call_starts {c : QueueCall α} (hs : s.step i = some (s', rs)) (hcall : i.call = some c) :
    rs = [] ∧ (s.callers i.thread).stage = .idle ∧ s'.due i.thread = s.queue.call 1 c ∧
      (s'.callers i.thread).stage.rank = 7 := by
  cases i with
  | callPush | callPop =>
    cases hcall
    obtain ⟨hguard, rfl, rfl⟩ := of_guard hs
    refine ⟨rfl, hguard, ?_, ?_⟩
    · simp only [due, QueueInput.thread, setCaller_callers_self]
      rfl
    · simp [QueueInput.thread, CallStage.rank]
  | access => cases hcall

/-- An idle thread can make any call, and one in a call its next access. -/
lemma exists_next (hi : i.thread = t)
    (hcall : i.call.isSome = true ↔ (s.callers t).stage = .idle) :
    ∃ next, s.step i = some next := by
  subst hi
  cases i with
  | callPush | callPop => exact ⟨_, if_pos (hcall.mp rfl)⟩
  | access =>
    simp only [step, access]
    split
    case h_1 hidle => cases hcall.mpr hidle
    case h_3 | h_4 =>
      split_ifs
      all_goals exact ⟨_, rfl⟩
    all_goals exact ⟨_, rfl⟩

/-- What the others see of calls that nobody disturbs: the queue they leave. -/
structure Calls (s : QueueState α) (t : ℕ) (s' : QueueState α) : Prop where
  reaches : ∃ rs, (threadMachine α).Reaches anyStep s rs s'
  idle : (s'.callers t).stage = .idle
  others : ∀ u, u ≠ t → s'.callers u = s.callers u

lemma Calls.after {s₁ : QueueState α} (h : s₁.Calls t s') (hi : i.thread = t)
    (hs : s.step i = some (s₁, rs)) : s.Calls t s' := by
  obtain ⟨rs', hreach⟩ := h.reaches
  have hone : (threadMachine α).Reaches anyStep s rs s₁ := .one trivial hs
  refine ⟨⟨_, hone.trans hreach⟩, h.idle, fun u hu => ?_⟩
  rw [h.others u hu, step_others hs (by rw [hi]; exact hu)]

lemma Calls.trans {s₁ s₂ : QueueState α} (h : s.Calls t s₁) (h' : s₁.Calls t s₂) :
    s.Calls t s₂ := by
  obtain ⟨rs, hreach⟩ := h.reaches
  obtain ⟨rs', hreach'⟩ := h'.reaches
  refine ⟨⟨rs ++ rs', hreach.trans hreach'⟩, h'.idle, fun u hu => ?_⟩
  rw [h'.others u hu, h.others u hu]

/-- The call under way comes back; by induction on the accesses it has left. -/
lemma completes (hdue : s.due t = some (a, q)) : ∃ s', s.Calls t s' ∧ s'.queue = q := by
  induction hn : (s.callers t).stage.rank using Nat.strong_induction_on generalizing s with
  | h n ih =>
    have hbusy : (s.callers t).stage ≠ .idle := by
      intro hidle
      rw [due_idle hidle] at hdue
      cases hdue
    obtain ⟨⟨s₁, rs⟩, hs⟩ := exists_next (s := s) (i := .access t false) (t := t) rfl
      (by simp [QueueInput.call, hbusy])
    obtain ⟨hnext, hrank⟩ := access_proceeds hdue hs
    cases hnext with
    | goesOn due =>
      have hlower : (s₁.callers t).stage.rank < n := by
        rw [← hn]
        exact hrank
      obtain ⟨s', hcalls, hqueue⟩ := ih _ hlower due rfl
      exact ⟨s', hcalls.after rfl hs, hqueue⟩
    | returns answer queue idle =>
      have hback : s₁.Calls t s₁ := ⟨⟨[], .start⟩, idle, fun _ _ => rfl⟩
      exact ⟨s₁, hback.after rfl hs, queue⟩

lemma call_alone {c : QueueCall α} (hi : i.thread = t) (hcall : i.call = some c)
    (hidle : (s.callers t).stage = .idle) (hr : s.queue.call 1 c = some (a, q)) :
    ∃ s', s.Calls t s' ∧ s'.queue = q := by
  obtain ⟨⟨s₁, rs⟩, hs⟩ := exists_next (s := s) hi (by simp [hcall, hidle])
  obtain ⟨-, -, hdue, -⟩ := call_starts hs hcall
  rw [hi, hr] at hdue
  obtain ⟨s', hcalls, hqueue⟩ := completes hdue
  exact ⟨s', hcalls.after hi hs, hqueue⟩

end QueueState

namespace QueueHistory

variable {α : Type} {h : QueueHistory α} {t : ℕ} {i : QueueInput α}

/-- The cell at a cursor is waited for or has its turn, whatever the threads are about. -/
lemma Linear.next_sequence (hl : h.Linear) (side : Side) :
    ∃ a, (h.cell (h.claims side)).sequence = BitVec.ofNat 64 a ∧ a ≤ h.claims side + side.ahead ∧
      h.claims side + side.ahead ≤ a + h.cells := by
  have hb := hl.bounds
  have horder := hl.order
  have hroom := hl.room
  cases side with
  | push =>
    simp only [Side.ahead]
    rcases Nat.lt_or_ge (h.claims .push) (h.claims .pop + h.cells) with hfree | hfull
    · rcases hl.vacant _ le_rfl hfree with ⟨hseq, -⟩ | ⟨r, hr, hseq⟩
      all_goals exact ⟨_, hseq, by omega, by omega⟩
    · -- the cell of the oldest item
      have hlast : h.claims .push = h.claims .pop + h.cells := by omega
      have hshared : h.cell (h.claims .push) = h.cell (h.claims .pop) := by
        unfold cell
        rw [hlast, Nat.add_mod_right]
      rw [hshared]
      rcases hl.filled (h.claims .pop) le_rfl (by omega) with hseq | ⟨hseq, -⟩
      all_goals exact ⟨_, hseq, by omega, by omega⟩
  | pop =>
    simp only [Side.ahead]
    rcases Nat.lt_or_ge (h.claims .pop) (h.claims .push) with hheld | hempty
    · rcases hl.filled _ le_rfl hheld with hseq | ⟨hseq, -⟩
      all_goals exact ⟨_, hseq, by omega, by omega⟩
    · rcases hl.vacant (h.claims .pop) hempty (by omega) with ⟨hseq, -⟩ | ⟨r, hr, hseq⟩
      all_goals exact ⟨_, hseq, by omega, by omega⟩

/-- So no call goes round its loop for ever. -/
lemma Linear.lead_le (hl : h.Linear) (side : Side) : h.state.queue.lead side ≤ 0 := by
  obtain ⟨a, hseq, hle, hnear⟩ := hl.next_sequence side
  have hb := hl.bounds
  rw [CellQueue.lead, hl.cursor, hl.cellAt, hseq, BitVec.ofNat_add_ofNat,
    Ring.distance_ofNat (by omega) (by omega)]
  omega

lemma Linear.call_returns (hl : h.Linear) {c : QueueCall α}
    (hcall : i.call = some c) : ∃ r, h.state.queue.call 1 c = some r := by
  cases i with
  | callPush t item =>
    cases hcall
    change ∃ r, h.state.queue.attempt .push (some item) = some r
    exact CellQueue.exists_attempt (fun _ => rfl) (hl.lead_le _)
  | callPop =>
    cases hcall
    change ∃ r, h.state.queue.attempt .pop none = some r
    exact CellQueue.exists_attempt nofun (hl.lead_le _)
  | access => cases hcall

/-- Thread `t` has the queue to itself since it last read a cursor. -/
structure Alone (h : QueueHistory α) (t : ℕ) : Prop where
  linear : h.Linear
  near : ∀ side pos, (h.stage t).seeking = some (side, pos) → h.place t = h.claims side
  awaits : h.stage t ≠ .idle → ∃ r, h.state.due t = some r

lemma exists_step {s' : QueueState α} {rs : List (QueueReturn α)}
    (hs : h.state.step i = some (s', rs)) : ∃ h' es, h.step i = some (h', es) ∧ h'.state = s' := by
  cases i with
  | callPush | callPop | access =>
    exact ⟨_, _, Option.map_eq_some_iff.mpr ⟨_, hs, rfl⟩, rfl⟩

lemma Alone.timely (ha : h.Alone t) (hi : i.thread = t) : h.timely i := by
  subst hi
  cases i with
  | callPush | callPop => trivial
  | access =>
    intro side pos hstage
    have hnear := ha.near side pos (congrArg CallStage.seeking hstage)
    simp only [QueueInput.thread] at hnear
    omega

lemma Acts.near {h' : QueueHistory α} {es : List (QueueEvent α)} (hacts : h.Acts i h' es)
    (hnear : ∀ side pos, (h.stage i.thread).seeking = some (side, pos) →
      h.place i.thread = h.claims side) {side : Side} {pos : Position}
    (hseek : (h'.stage i.thread).seeking = some (side, pos)) :
    h'.place i.thread = h'.claims side := by
  cases hacts with
  | loads =>
    simp only [stage, QueueInput.thread, QueueState.setStage, QueueState.setCaller_callers_self,
      CallStage.seeking, Option.some.injEq, Prod.mk.injEq] at hseek
    obtain ⟨rfl, -⟩ := hseek
    exact update_self ..
  | ready was =>
    simp only [stage, QueueInput.thread, QueueState.setStage, QueueState.setCaller_callers_self,
      CallStage.seeking, Option.some.injEq, Prod.mk.injEq] at hseek
    obtain ⟨rfl, rfl⟩ := hseek
    exact hnear _ _ (congrArg CallStage.seeking was)
  | _ =>
    simp [stage, QueueInput.thread, QueueState.setStage, CallStage.seeking, claimed,
      QueueHistory.rewrite] at hseek

lemma Alone.step (ha : h.Alone t) {h' : QueueHistory α}
    {es : List (QueueEvent α)} {rs : List (QueueReturn α)} (hi : i.thread = t)
    (hs : h.step i = some (h', es)) (hstate : h.state.step i = some (h'.state, rs)) :
    h'.Alone t := by
  refine ⟨ha.linear.step (ha.timely hi) hs, ?_, fun hbusy => ?_⟩
  · subst hi
    exact fun side pos hseek => (acts_step hs).near ha.near hseek
  · cases hcall : i.call with
    | some =>
      obtain ⟨-, -, hdue, -⟩ := QueueState.call_starts hstate hcall
      rw [← hi, hdue]
      exact ha.linear.call_returns hcall
    | none =>
      obtain ⟨spurious, rfl⟩ := QueueInput.eq_access hi hcall
      obtain ⟨⟨a, q⟩, hdue⟩ := ha.awaits (QueueState.busy_of_access hstate)
      cases (QueueState.access_proceeds hdue hstate).1 with
      | goesOn due => exact ⟨_, due⟩
      | returns _ _ idle => exact absurd idle hbusy

end QueueHistory

namespace QueueState

variable {α : Type} {s s₁ s' : QueueState α} {t : ℕ} {rs : List (QueueReturn α)} {i : QueueInput α}

/-- What is still to be told of the call under way and of the calls after it, and the queue they
leave. -/
def outcome (s : QueueState α) (t : ℕ) (calls : List (QueueCall α)) :
    Option (List (QueueAnswer α) × CellQueue α) :=
  match s.due t with
  | none => s.queue.run 1 calls
  | some (a, q) => (q.run 1 calls).map fun r => (a :: r.1, r.2)

lemma outcome_idle (hidle : (s.callers t).stage = .idle) (calls : List (QueueCall α)) :
    s.outcome t calls = s.queue.run 1 calls := by
  rw [outcome, due_idle hidle]

end QueueState

namespace QueueHistory

variable {α : Type} {h : QueueHistory α} {t : ℕ} {i : QueueInput α} {s' : QueueState α}
  {rs : List (QueueReturn α)}

/-- One input of the thread takes off what it was told, and lowers its rank. -/
lemma Alone.advances (ha : h.Alone t) (hi : i.thread = t)
    (hs : h.state.step i = some (s', rs)) (calls : List (QueueCall α)) :
    (h.state.outcome t (i.call.toList ++ calls) =
      (s'.outcome t calls).map fun r => (rs.map QueueReturn.answer ++ r.1, r.2)) ∧
    (s'.callers t).stage.rank + 1 ≤ (h.stage t).rank + 8 * i.call.toList.length +
      2 * (if i.spurious then 1 else 0) := by
  cases hcall : i.call with
  | some =>
    obtain ⟨rfl, hidle, hdue, hrank⟩ := QueueState.call_starts hs hcall
    obtain ⟨⟨a, q⟩, hr⟩ := ha.linear.call_returns hcall
    rw [hi] at hidle hdue hrank
    refine ⟨?_, ?_⟩
    · rw [QueueState.outcome_idle hidle, QueueState.outcome, hdue, hr]
      simp [CellQueue.run, hr, Function.comp_def]
    · rw [hrank]
      simp
      omega
  | none =>
    obtain ⟨spurious, rfl⟩ := QueueInput.eq_access hi hcall
    obtain ⟨⟨a, q⟩, hdue⟩ := ha.awaits (QueueState.busy_of_access hs)
    obtain ⟨hnext, hrank⟩ := QueueState.access_proceeds hdue hs
    refine ⟨?_, hrank⟩
    simp only [QueueState.outcome, hdue]
    cases hnext with
    | goesOn due => simp [due, Function.comp_def]
    | returns answer queue idle => simp [QueueState.due_idle idle, answer, queue]

/-- What a run of the thread's inputs has done. -/
structure Lone (h : QueueHistory α) (t : ℕ) (is : List (QueueInput α)) (s' : QueueState α)
    (rs : List (QueueReturn α)) : Prop where
  others : ∀ u, u ≠ t → s'.callers u = h.state.callers u
  bounded : is.length + (s'.callers t).stage.rank ≤ (h.stage t).rank +
    8 * (is.filterMap QueueInput.call).length + 2 * is.countP QueueInput.spurious
  outcome : (s'.callers t).stage = .idle → h.state.outcome t (is.filterMap QueueInput.call) =
    some (rs.map QueueReturn.answer, s'.queue)

lemma Alone.runs {is : List (QueueInput α)} (ha : h.Alone t) (hown : ∀ i ∈ is, i.thread = t)
    (hrun : (threadMachine α).run anyStep h.state is = some (s', rs)) : h.Lone t is s' rs := by
  induction is generalizing h rs with
  | nil =>
    simp only [Machine.run, Option.some.injEq, Prod.mk.injEq] at hrun
    obtain ⟨rfl, rfl⟩ := hrun
    exact ⟨fun _ _ => rfl, by simp [stage], fun hidle => QueueState.outcome_idle hidle []⟩
  | cons i is ih =>
    obtain ⟨s₁, rs₁, rs₂, -, hs, hrest, rfl⟩ := Machine.run_cons hrun
    have hi := hown i List.mem_cons_self
    obtain ⟨h₁, es, htaken, rfl⟩ := exists_step hs
    have ih := ih (ha.step hi htaken hs) (fun j hj => hown j (List.mem_cons_of_mem _ hj)) hrest
    obtain ⟨hout, hrank⟩ := ha.advances hi hs (is.filterMap QueueInput.call)
    have hcalls : (i :: is).filterMap QueueInput.call =
        i.call.toList ++ is.filterMap QueueInput.call := by
      cases hcall : i.call <;> simp [hcall]
    constructor
    case others =>
      intro u hu
      rw [ih.others u hu]
      exact QueueState.step_others hs (by rw [hi]; exact hu)
    case bounded =>
      have hbound := ih.bounded
      rw [hcalls, List.length_append, List.length_cons, List.countP_cons]
      simp only [stage] at hbound ⊢ hrank
      omega
    case outcome =>
      intro hidle
      rw [hcalls, hout, ih.outcome hidle]
      simp

end QueueHistory

namespace QueueState

variable {α : Type} {s s' : QueueState α} {t : ℕ} {a : QueueAnswer α} {q : CellQueue α}

/-- Whatever the others are about, a thread that is alone with the queue from now on needs at most
seven accesses for a call, and two more for each spurious failure. It can always make the next one,
or the next call, and once it is back it was told what the sequential queue answers and leaves that
queue behind. -/
theorem run_alone {capacity : ℕ} {trace : List (QueueEvent α)} {h : QueueHistory α}
    {is : List (QueueInput α)} {rs : List (QueueReturn α)} (hlo : 2 ≤ capacity)
    (hhi : capacity ≤ 2 ^ 63)
    (hreach : (cellMachine α).Reaches QueueHistory.timely (.create capacity) trace h)
    (hidle : h.stage t = .idle) (hown : ∀ i ∈ is, i.thread = t)
    (hrun : (threadMachine α).run anyStep h.state is = some (s', rs)) :
    (∀ u, u ≠ t → s'.callers u = h.state.callers u) ∧
    is.length + (s'.callers t).stage.rank ≤
      8 * (is.filterMap QueueInput.call).length + 2 * is.countP QueueInput.spurious ∧
    (∀ i : QueueInput α, i.thread = t → (i.call.isSome = true ↔ (s'.callers t).stage = .idle) →
      ∃ next, s'.step i = some next) ∧
    ((s'.callers t).stage = .idle → h.state.queue.run 1 (is.filterMap QueueInput.call) =
      some (rs.map QueueReturn.answer, s'.queue)) := by
  have hlinear : h.Linear := hreach.invariant QueueHistory.Linear
    (QueueHistory.create_linear hlo hhi) fun _ _ _ _ hl htimely hs => hl.step htimely hs
  have halone : h.Alone t := by
    refine ⟨hlinear, fun side pos hseek => ?_, fun hbusy => absurd hidle hbusy⟩
    rw [hidle] at hseek
    cases hseek
  obtain ⟨hothers, hbounded, houtcome⟩ := halone.runs hown hrun
  refine ⟨hothers, ?_, fun i hi hcall => exists_next hi hcall, fun hback => ?_⟩
  · rw [hidle] at hbounded
    simpa [CallStage.rank] using hbounded
  · rw [← outcome_idle hidle]
    exact houtcome hback

/-- Thread 0 has claimed position 0 and stored nothing yet. -/
def stoppedPush : List (QueueInput ℕ) :=
  [.callPush 0 10, .access 0 false, .access 0 false, .access 0 false, .access 0 false]

/-- Thread 1 pushes, with a spurious failure, and pops. -/
def lonePushPop : List (QueueInput ℕ) :=
  [.callPush 1 11, .access 1 false, .access 1 false, .access 1 true, .access 1 false,
    .access 1 false, .access 1 false, .access 1 false, .access 1 false, .callPop 1,
    .access 1 false, .access 1 false]

/-- The pop finds nothing, as the sequential queue with these cells does. -/
theorem run_alone_sample : ∃ trace h, ∃ s' : QueueState ℕ,
    ((cellMachine ℕ).Reaches QueueHistory.timely (.create 2) trace h ∧
      h.stage 0 = .store .push 0 ∧ h.stage 1 = .idle) ∧
    s'.callers 0 = h.state.callers 0 ∧
    h.state.queue.run 1 [.push 11 0, .pop 0] =
      some ([.pushed true, .popped none], s'.queue) := by
  obtain ⟨trace, h, hreach, hstages, ⟨s', rs⟩, hrun, hback, hanswers⟩ :
      ∃ trace h, (cellMachine ℕ).Reaches QueueHistory.timely (.create 2) trace h ∧
        (h.stage 0 = .store .push 0 ∧ h.stage 1 = .idle) ∧
        ∃ r ∈ (threadMachine ℕ).run anyStep h.state lonePushPop, (r.1.callers 1).stage = .idle ∧
          r.2.map QueueReturn.answer = [.pushed true, .popped none] :=
    (cellMachine ℕ).exists_of_run QueueHistory.timely (.create 2) stoppedPush (by decide +kernel)
  obtain ⟨hothers, -, -, houtcome⟩ :=
    run_alone (by omega) (by omega) hreach hstages.2 (by decide) (Option.mem_def.mp hrun)
  have hdone := houtcome hback
  rw [hanswers] at hdone
  exact ⟨trace, h, s', ⟨hreach, hstages⟩, hothers 0 (by omega), hdone⟩

end QueueState

end TangoBulk
