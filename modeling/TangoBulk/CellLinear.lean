import TangoBulk.CellThreads

/-! The queue between threads is a first-in first-out queue. Positions are claimed one after the
other at each end, every thread between its claim and its last store has its cell to itself. -/
namespace TangoBulk

open Transition Function

namespace CallStage

/-- Still looking for a position, with the one it has loaded. -/
def seeking : CallStage → Option (Side × Position)
  | .look side pos | .swap side pos => some (side, pos)
  | _ => none

/-- Past the claim, and the cell's sequence number not stored yet: the cell is the thread's own. -/
def within : CallStage → Option (Side × Position)
  | .move side pos | .store side pos => some (side, pos)
  | .clear pos => some (.pop, pos)
  | _ => none

/-- Past the claim and not returned. -/
def owner : CallStage → Option Side
  | .move side _ | .store side _ | .count side => some side
  | .clear _ => some .pop
  | _ => none

/-- Whether the thread's own cell has the item of its position or none, where that is settled. -/
def content : CallStage → Option Bool
  | .move .push _ | .store .pop _ => some false
  | .move .pop _ | .store .push _ => some true
  | _ => none

/-- In `try_push`, the item not moved yet. -/
def fresh : CallStage → Bool
  | .load .push | .look .push _ | .swap .push _ | .move .push _ => true
  | _ => false

/-- In `try_pop`, the item moved already. -/
def taken : CallStage → Bool
  | .clear _ | .store .pop _ | .count .pop => true
  | _ => false

lemma owner_of_within {stage : CallStage} {side : Side} {pos : Position}
    (h : stage.within = some (side, pos)) : stage.owner = some side := by
  cases stage with
  | move | store | clear =>
    cases h
    rfl
  | _ => cases h

lemma within_of_content {stage : CallStage} {b : Bool} (h : stage.content = some b) :
    ∃ side pos, stage.within = some (side, pos) := by
  cases stage with
  | move side pos | store side pos => exact ⟨side, pos, rfl⟩
  | _ => cases h

lemma owner_of_taken {stage : CallStage} (h : stage.taken = true) : stage.owner = some .pop := by
  cases stage with
  | clear => rfl
  | store side | count side =>
    cases side with
    | push => cases h
    | pop => rfl
  | _ => cases h

end CallStage

namespace QueueHistory

variable {α : Type} {h h' : QueueHistory α} {t u p : ℕ}

def cells (h : QueueHistory α) : ℕ := h.state.queue.cells

/-- The cell of a position. -/
def cell (h : QueueHistory α) (p : ℕ) : Cell α := h.state.queue.buffer (p % h.cells)

/-- The positions that threads past their claim at each end may have. -/
def Within (h : QueueHistory α) : Side → ℕ → Prop
  | .push, p => h.claims .pop ≤ p ∧ p < h.claims .push
  | .pop, p => p < h.claims .pop ∧ h.claims .push ≤ p + h.cells

/-- What a thread may rely on. -/
structure Own (h : QueueHistory α) (t : ℕ) : Prop where
  seeking : ∀ side pos, (h.stage t).seeking = some (side, pos) →
    pos = BitVec.ofNat 64 (h.place t) ∧ h.place t ≤ h.claims side
  ready : ∀ side pos, h.stage t = .swap side pos → h.place t = h.claims side →
    (h.cell (h.place t)).sequence = BitVec.ofNat 64 (h.place t + side.ahead)
  within : ∀ side pos, (h.stage t).within = some (side, pos) →
    pos = BitVec.ofNat 64 (h.place t) ∧ h.Within side (h.place t) ∧
      (h.cell (h.place t)).sequence = BitVec.ofNat 64 (h.place t + side.ahead)
  content : ∀ b, (h.stage t).content = some b →
    (h.cell (h.place t)).data = if b then h.ledger[h.place t]? else none
  claimed : ∀ side, (h.stage t).owner = some side → h.place t < h.claims side
  fresh : (h.stage t).fresh = true →
    (h.state.callers t).item = h.given t ∧ (h.given t).isSome = true
  pushed : (h.stage t).owner = some .push → h.given t = h.ledger[h.place t]?
  taken : (h.stage t).taken = true → (h.state.callers t).item = h.ledger[h.place t]?

/-- What all threads keep together. A position claimed for pushing and not for popping has its item
in its cell or a thread about to put it there; one that may be claimed next has an empty cell or one
that a thread is still emptying. -/
structure Linear (h : QueueHistory α) : Prop where
  sized : ∃ k, 1 ≤ k ∧ k ≤ 63 ∧ h.cells = 2 ^ k
  order : h.claims .pop ≤ h.claims .push
  room : h.claims .push ≤ h.claims .pop + h.cells
  cursor : ∀ side, h.state.queue.cursor side = BitVec.ofNat 64 (h.claims side)
  ledger : h.ledger.length = h.claims .push
  filled : ∀ p, h.claims .pop ≤ p → p < h.claims .push →
    (h.cell p).sequence = BitVec.ofNat 64 p ∨
      ((h.cell p).sequence = BitVec.ofNat 64 (p + 1) ∧ (h.cell p).data = h.ledger[p]?)
  vacant : ∀ p, h.claims .push ≤ p → p < h.claims .pop + h.cells →
    ((h.cell p).sequence = BitVec.ofNat 64 p ∧ (h.cell p).data = none) ∨
      ∃ r, r + h.cells = p ∧ (h.cell p).sequence = BitVec.ofNat 64 (r + 1)
  own : ∀ t, h.Own t
  apart : ∀ t u side, (h.stage t).owner = some side → (h.stage u).owner = some side →
    h.place t = h.place u → t = u

/-! ### Cells and positions -/

section Positions

variable (hl : h.Linear)
include hl

lemma Linear.bounds : 2 ≤ h.cells ∧ h.cells ≤ 2 ^ 63 := by
  obtain ⟨k, hlo, hhi, hk⟩ := hl.sized
  rw [hk]
  exact ⟨Nat.pow_le_pow_right (n := 2) (by omega) hlo, Nat.pow_le_pow_right (by omega) hhi⟩

lemma Linear.index (p : ℕ) : h.state.queue.index (BitVec.ofNat 64 p) = p % h.cells := by
  obtain ⟨k, -, hhi, hk⟩ := hl.sized
  have hq : h.state.queue.cells = 2 ^ k := hk
  rw [CellQueue.index, CellQueue.mask, hq, Ring.mask_ofNat p (by omega), hk]

lemma Linear.cellAt (p : ℕ) : h.state.queue.cellAt (BitVec.ofNat 64 p) = h.cell p := by
  rw [CellQueue.cellAt, hl.index]
  rfl

lemma Linear.word_ne {a b : ℕ} (hlt : a < b) (hle : b ≤ a + h.cells) :
    BitVec.ofNat 64 a ≠ BitVec.ofNat 64 b := by
  intro heq
  have hb := hl.bounds
  have := Ring.ofNat_injective hlt.le (by omega) heq
  omega

lemma Linear.window {side : Side} (hw : h.Within side p) :
    p < h.claims .push ∧ h.claims .push ≤ p + h.cells := by
  have horder := hl.order
  have hroom := hl.room
  cases side with
  | push => exact ⟨hw.2, by have := hw.1; omega⟩
  | pop => exact ⟨by have := hw.1; omega, hw.2⟩

lemma Linear.cell_injective {q : ℕ} (hp : p < h.claims .push ∧ h.claims .push ≤ p + h.cells)
    (hq : q < h.claims .push ∧ h.claims .push ≤ q + h.cells) (heq : p % h.cells = q % h.cells) :
    p = q := by
  rcases Nat.le_total p q with hle | hle
  · exact Ring.index_injective le_rfl (by have := hl.bounds; omega) hle (by omega) heq
  · exact (Ring.index_injective le_rfl (by have := hl.bounds; omega) hle (by omega) heq.symm).symm

lemma Linear.within_apart {s s' : Side} {pos pos' : Position} (hne : t ≠ u)
    (ht : (h.stage t).within = some (s, pos)) (hu : (h.stage u).within = some (s', pos')) :
    h.place t % h.cells ≠ h.place u % h.cells := by
  intro heq
  obtain ⟨-, hwt, -⟩ := (hl.own t).within s pos ht
  obtain ⟨-, hwu, -⟩ := (hl.own u).within s' pos' hu
  have hplace := hl.cell_injective (hl.window hwt) (hl.window hwu) heq
  have hot := CallStage.owner_of_within ht
  have hou := CallStage.owner_of_within hu
  by_cases hs : s = s'
  · subst hs
    exact hne (hl.apart t u s hot hou hplace)
  · -- a position is claimed for popping after it was claimed for pushing
    rw [hplace] at hwt
    cases s with
    | push =>
      cases s' with
      | push => exact hs rfl
      | pop => exact absurd hwu.1 (by have := hwt.1; omega)
    | pop =>
      cases s' with
      | push => exact absurd hwt.1 (by have := hwu.1; omega)
      | pop => exact hs rfl

end Positions

/-! ### What other threads keep -/

/-- Nothing about the thread itself has changed. -/
structure SameThread (h h' : QueueHistory α) (u : ℕ) : Prop where
  caller : h'.state.callers u = h.state.callers u
  place : h'.place u = h.place u
  given : h'.given u = h.given u

/-- A thread keeps what it relies on, if claims only come on top, what it has to itself is left
alone, and a cell whose turn has come at a cursor that stays is left alone. -/
lemma Own.carry (hown : h.Own u) (hsame : h.SameThread h' u)
    (hclaims : ∀ side, h.claims side ≤ h'.claims side)
    (hledger : ∀ p < h.claims .push, h'.ledger[p]? = h.ledger[p]?)
    (horder : h.claims .pop ≤ h.claims .push)
    (hwithin : ∀ side pos, (h.stage u).within = some (side, pos) →
      h'.Within side (h.place u) ∧ h'.cell (h.place u) = h.cell (h.place u))
    (hready : ∀ side pos, h.stage u = .swap side pos → h'.claims side = h.claims side →
      (h.cell (h.claims side)).sequence = BitVec.ofNat 64 (h.claims side + side.ahead) →
      (h'.cell (h.claims side)).sequence = BitVec.ofNat 64 (h.claims side + side.ahead)) :
    h'.Own u := by
  have hstage : h'.stage u = h.stage u := congrArg Caller.stage hsame.caller
  have hentry : ∀ side, (h.stage u).owner = some side →
      h'.ledger[h.place u]? = h.ledger[h.place u]? := by
    intro side howner
    have hlt := hown.claimed side howner
    refine hledger _ ?_
    cases side with
    | push => exact hlt
    | pop => omega
  constructor
  case seeking =>
    intro side pos hseek
    rw [hstage] at hseek
    obtain ⟨hpos, hle⟩ := hown.seeking side pos hseek
    rw [hsame.place]
    exact ⟨hpos, hle.trans (hclaims side)⟩
  case ready =>
    intro side pos hswap hplace
    rw [hstage] at hswap
    rw [hsame.place] at hplace ⊢
    have hle := (hown.seeking side pos (by rw [hswap]; rfl)).2
    have hstill : h'.claims side = h.claims side := by
      have := hclaims side
      omega
    have hturn := hown.ready side pos hswap (hplace.trans hstill)
    rw [hplace.trans hstill] at hturn ⊢
    exact hready side pos hswap hstill hturn
  case within =>
    intro side pos hin
    rw [hstage] at hin
    obtain ⟨hpos, -, hseq⟩ := hown.within side pos hin
    obtain ⟨hw, hcell⟩ := hwithin side pos hin
    rw [hsame.place, hcell]
    exact ⟨hpos, hw, hseq⟩
  case content =>
    intro b hb
    rw [hstage] at hb
    obtain ⟨side, pos, hin⟩ := CallStage.within_of_content hb
    rw [hsame.place, (hwithin side pos hin).2, hentry side (CallStage.owner_of_within hin)]
    exact hown.content b hb
  case claimed =>
    intro side howner
    rw [hstage] at howner
    rw [hsame.place]
    exact (hown.claimed side howner).trans_le (hclaims side)
  case fresh =>
    intro hfresh
    rw [hstage] at hfresh
    rw [hsame.caller, hsame.given]
    exact hown.fresh hfresh
  case pushed =>
    intro howner
    rw [hstage] at howner
    rw [hsame.given, hsame.place, hentry .push howner]
    exact hown.pushed howner
  case taken =>
    intro htaken
    rw [hstage] at htaken
    rw [hsame.caller, hsame.place, hentry .pop (CallStage.owner_of_taken htaken)]
    exact hown.taken htaken

/-- Both ends, the claims and the ledger are as before. -/
structure SameEnds (h h' : QueueHistory α) : Prop where
  cells : h'.cells = h.cells
  cursor : ∀ side, h'.state.queue.cursor side = h.state.queue.cursor side
  claims : h'.claims = h.claims
  ledger : h'.ledger = h.ledger

variable {side : Side} {pos : Position} {c : Caller α}

lemma SameEnds.within (hsame : h.SameEnds h') (hw : h.Within side p) : h'.Within side p := by
  cases side with
  | push => exact ⟨by rw [hsame.claims]; exact hw.1, by rw [hsame.claims]; exact hw.2⟩
  | pop =>
    exact ⟨by rw [hsame.claims]; exact hw.1, by rw [hsame.claims, hsame.cells]; exact hw.2⟩

lemma Linear.ready_elsewhere (hl : h.Linear) (side' : Side)
    (hin : (h.stage t).within = some (side, pos))
    (hturn : (h.cell (h.claims side')).sequence = BitVec.ofNat 64 (h.claims side' + side'.ahead)) :
    h.claims side' % h.cells ≠ h.place t % h.cells := by
  intro heq
  obtain ⟨-, hw, hseq⟩ := (hl.own t).within side pos hin
  have hwindow := hl.window hw
  have hb := hl.bounds
  have horder := hl.order
  have hroom := hl.room
  have hsame : h.cell (h.claims side') = h.cell (h.place t) := by
    unfold cell
    rw [heq]
  rw [hsame, hseq] at hturn
  -- a cursor in the thread's cell is at its position or one turn later
  have hnear : h.claims side' = h.place t ∨ h.claims side' = h.place t + h.cells := by
    have hshift : (h.place t + h.cells) % h.cells = h.place t % h.cells := Nat.add_mod_right _ _
    rcases Nat.lt_or_ge (h.claims side') (h.place t + h.cells) with hlt | hge
    · left
      cases side' with
      | push =>
        exact Ring.index_injective hwindow.1.le hlt le_rfl (by omega) heq
      | pop =>
        cases side with
        | push => exact Ring.index_injective le_rfl (by omega) hw.1 (by have := hw.2; omega) heq
        | pop => exact Ring.index_injective hw.1.le hlt le_rfl (by omega) heq
    · right
      cases side' with
      | push | pop => omega
  have hdistinct : h.place t + side.ahead < h.claims side' + side'.ahead ∧
      h.claims side' + side'.ahead ≤ h.place t + side.ahead + h.cells := by
    cases side <;> cases side' <;> simp only [Within, Side.ahead] at hw ⊢ <;> omega
  exact hl.word_ne hdistinct.1 hdistinct.2 hturn

/-! ### One access -/

lemma Linear.apart_kept (hl : h.Linear) (hothers : ∀ u, u ≠ t → h.SameThread h' u)
    (howner : ∀ side, (h'.stage t).owner = some side →
      (h.stage t).owner = some side ∧ h'.place t = h.place t) (v w : ℕ) (side : Side)
    (hv : (h'.stage v).owner = some side) (hw : (h'.stage w).owner = some side)
    (hplace : h'.place v = h'.place w) : v = w := by
  have hback : ∀ u, (h'.stage u).owner = some side →
      (h.stage u).owner = some side ∧ h'.place u = h.place u := by
    intro u hu
    by_cases hut : u = t
    · subst hut
      exact howner side hu
    · have hsame := hothers u hut
      rw [stage, hsame.caller] at hu
      exact ⟨hu, hsame.place⟩
  obtain ⟨hv', hpv⟩ := hback v hv
  obtain ⟨hw', hpw⟩ := hback w hw
  exact hl.apart v w side hv' hw' (by rw [← hpv, ← hpw]; exact hplace)

lemma Linear.looks (hl : h.Linear) (hends : h.SameEnds h') (hcell : ∀ p, h'.cell p = h.cell p)
    (hothers : ∀ u, u ≠ t → h.SameThread h' u) (hown : h'.Own t)
    (howner : ∀ side, (h'.stage t).owner = some side →
      (h.stage t).owner = some side ∧ h'.place t = h.place t) : h'.Linear := by
  constructor
  case sized => rw [hends.cells]; exact hl.sized
  case order => rw [hends.claims]; exact hl.order
  case room => rw [hends.claims, hends.cells]; exact hl.room
  case cursor => intro side; rw [hends.cursor, hends.claims]; exact hl.cursor side
  case ledger => rw [hends.ledger, hends.claims]; exact hl.ledger
  case filled =>
    rw [hends.claims, hends.ledger]
    intro p hlo hhi
    rw [hcell]
    exact hl.filled p hlo hhi
  case vacant =>
    rw [hends.claims, hends.cells]
    intro p hlo hhi
    rw [hcell]
    exact hl.vacant p hlo hhi
  case own =>
    intro u
    by_cases hut : u = t
    · rw [hut]
      exact hown
    · refine (hl.own u).carry (hothers u hut) (fun side => by rw [hends.claims])
        (fun p _ => by rw [hends.ledger]) hl.order (fun side pos hin => ?_)
        (fun side pos _ _ hturn => by rw [hcell]; exact hturn)
      exact ⟨hends.within ((hl.own u).within side pos hin).2.1, hcell _⟩
  case apart => exact hl.apart_kept hothers howner

/-- An access to the thread's own cell. -/
lemma Linear.writes (hl : h.Linear) {side : Side} {pos : Position}
    (hin : (h.stage t).within = some (side, pos)) (hends : h.SameEnds h')
    (hcell : ∀ p, p % h.cells ≠ h.place t % h.cells → h'.cell p = h.cell p)
    (hothers : ∀ u, u ≠ t → h.SameThread h' u) (hown : h'.Own t)
    (howner : ∀ side, (h'.stage t).owner = some side →
      (h.stage t).owner = some side ∧ h'.place t = h.place t)
    (hfilled : side = .push → (h'.cell (h.place t)).sequence = BitVec.ofNat 64 (h.place t) ∨
      ((h'.cell (h.place t)).sequence = BitVec.ofNat 64 (h.place t + 1) ∧
        (h'.cell (h.place t)).data = h.ledger[h.place t]?))
    (hvacant : side = .pop → ((h'.cell (h.place t)).sequence =
        BitVec.ofNat 64 (h.place t + h.cells) ∧ (h'.cell (h.place t)).data = none) ∨
      (h'.cell (h.place t)).sequence = BitVec.ofNat 64 (h.place t + 1)) : h'.Linear := by
  obtain ⟨-, hw, -⟩ := (hl.own t).within side pos hin
  have hwindow := hl.window hw
  have horder := hl.order
  have hroom := hl.room
  have hb := hl.bounds
  constructor
  case sized => rw [hends.cells]; exact hl.sized
  case order => rw [hends.claims]; exact hl.order
  case room => rw [hends.claims, hends.cells]; exact hl.room
  case cursor => intro side; rw [hends.cursor, hends.claims]; exact hl.cursor side
  case ledger => rw [hends.ledger, hends.claims]; exact hl.ledger
  case filled =>
    rw [hends.claims, hends.ledger]
    intro p hlo hhi
    by_cases hsame : p % h.cells = h.place t % h.cells
    · obtain rfl := hl.cell_injective ⟨hhi, by omega⟩ hwindow hsame
      cases side with
      | push => exact hfilled rfl
      | pop => exact absurd hw.1 (by omega)
    · rw [hcell p hsame]
      exact hl.filled p hlo hhi
  case vacant =>
    rw [hends.claims, hends.cells]
    intro p hlo hhi
    by_cases hsame : p % h.cells = h.place t % h.cells
    · -- it is the position one turn after the thread's own
      have hturn : p = h.place t + h.cells := by
        have hshift : (h.place t + h.cells) % h.cells = h.place t % h.cells :=
          Nat.add_mod_right _ _
        refine Ring.index_injective hlo (by omega) hwindow.2
          (by omega) (hsame.trans hshift.symm)
      have hshared : h'.cell p = h'.cell (h.place t) := by
        unfold cell
        rw [hends.cells, hsame]
      cases side with
      | push => exact absurd hw.1 (by omega)
      | pop =>
        rw [hshared, hturn]
        rcases hvacant rfl with hempty | hbusy
        · exact .inl hempty
        · exact .inr ⟨h.place t, rfl, hbusy⟩
    · rw [hcell p hsame]
      exact hl.vacant p hlo hhi
  case own =>
    intro u
    by_cases hut : u = t
    · rw [hut]
      exact hown
    · refine (hl.own u).carry (hothers u hut) (fun side => by rw [hends.claims])
        (fun p _ => by rw [hends.ledger]) hl.order (fun side' pos' hin' => ?_)
        (fun side' pos' _ _ hturn => ?_)
      · exact ⟨hends.within ((hl.own u).within side' pos' hin').2.1,
          hcell _ (hl.within_apart hut hin' hin)⟩
      · rw [hcell _ (hl.ready_elsewhere _ hin hturn)]
        exact hturn
  case apart => exact hl.apart_kept hothers howner

/-! ### What the thread itself relies on next -/

/-- A push in progress still has the item it was given. -/
def Holding (h : QueueHistory α) (t : ℕ) : Prop :=
  (h.state.callers t).item = h.given t ∧ (h.given t).isSome = true

/-- After its claim. -/
lemma own_claimed (side : Side) (stage : CallStage) (hstage : h.stage t = stage)
    (howner : stage.owner = some side) (hlt : h.place t < h.claims side)
    (hin : ∀ s pos, stage.within = some (s, pos) →
      pos = BitVec.ofNat 64 (h.place t) ∧ h.Within side (h.place t) ∧
        (h.cell (h.place t)).sequence = BitVec.ofNat 64 (h.place t + side.ahead))
    (hcontent : ∀ b, stage.content = some b →
      (h.cell (h.place t)).data = if b then h.ledger[h.place t]? else none)
    (hfresh : stage.fresh = true → h.Holding t)
    (hpushed : side = .push → h.given t = h.ledger[h.place t]?)
    (htaken : stage.taken = true → (h.state.callers t).item = h.ledger[h.place t]?) : h.Own t := by
  subst hstage
  have hnot : (h.stage t).seeking = none := by
    cases hs : h.stage t with
    | look | swap =>
      rw [hs] at howner
      cases howner
    | _ => rfl
  have hside : ∀ {s : Side}, (h.stage t).owner = some s → s = side := by
    intro s hs
    rw [howner] at hs
    exact (Option.some.inj hs).symm
  constructor
  case seeking =>
    intro s pos hs
    rw [hnot] at hs
    cases hs
  case ready =>
    intro s pos hs
    rw [hs] at hnot
    cases hnot
  case within =>
    intro s pos hs
    obtain rfl := hside (CallStage.owner_of_within hs)
    exact hin s pos hs
  case content => exact hcontent
  case claimed =>
    intro s hs
    obtain rfl := hside hs
    exact hlt
  case fresh => exact hfresh
  case pushed =>
    intro hs
    exact hpushed (hside hs).symm
  case taken => exact htaken

/-! ### Claims -/

lemma Linear.apart_claim (hl : h.Linear) (hothers : ∀ u, u ≠ t → h.SameThread h' u)
    (howner : (h'.stage t).owner = some side) (hplace : h'.place t = h.claims side) (v w : ℕ)
    (s : Side) (hv : (h'.stage v).owner = some s) (hw : (h'.stage w).owner = some s)
    (heq : h'.place v = h'.place w) : v = w := by
  have hold : ∀ u, u ≠ t → (h'.stage u).owner = some s →
      (h.stage u).owner = some s ∧ h'.place u = h.place u ∧ h.place u < h.claims s := by
    intro u hut hu
    have hsame := hothers u hut
    rw [stage, hsame.caller] at hu
    exact ⟨hu, hsame.place, (hl.own u).claimed s hu⟩
  by_cases hvt : v = t
  · subst hvt
    obtain rfl : s = side := Option.some.inj (hv.symm.trans howner)
    by_contra hne
    obtain ⟨-, hpw, hlt⟩ := hold w (Ne.symm hne) hw
    omega
  · by_cases hwt : w = t
    · subst hwt
      obtain rfl : s = side := Option.some.inj (hw.symm.trans howner)
      obtain ⟨-, hpv, hlt⟩ := hold v hvt hv
      omega
    · obtain ⟨hv', hpv, -⟩ := hold v hvt hv
      obtain ⟨hw', hpw, -⟩ := hold w hwt hw
      exact hl.apart v w s hv' hw' (by omega)

lemma Linear.turnPush (hl : h.Linear)
    (hturn : (h.cell (h.claims .push)).sequence = BitVec.ofNat 64 (h.claims .push)) :
    h.claims .push < h.claims .pop + h.cells ∧ (h.cell (h.claims .push)).data = none := by
  have hb := hl.bounds
  have hle := hl.room
  have hroom : h.claims .push < h.claims .pop + h.cells := by
    by_contra hover
    have hfull : h.claims .push = h.claims .pop + h.cells := by omega
    have hshared : h.cell (h.claims .push) = h.cell (h.claims .pop) := by
      unfold cell
      rw [hfull, Nat.add_mod_right]
    rw [hshared] at hturn
    rcases hl.filled (h.claims .pop) le_rfl (by omega) with hseq | ⟨hseq, -⟩
    all_goals exact hl.word_ne (by omega) (by omega) (hseq.symm.trans hturn)
  refine ⟨hroom, ?_⟩
  rcases hl.vacant (h.claims .push) le_rfl hroom with ⟨-, hdata⟩ | ⟨r, hr, hseq⟩
  · exact hdata
  · exact absurd (hseq.symm.trans hturn) (hl.word_ne (by omega) (by omega))

lemma Linear.turnPop (hl : h.Linear)
    (hturn : (h.cell (h.claims .pop)).sequence = BitVec.ofNat 64 (h.claims .pop + 1)) :
    h.claims .pop < h.claims .push ∧
      (h.cell (h.claims .pop)).data = h.ledger[h.claims .pop]? := by
  have hb := hl.bounds
  have hlt : h.claims .pop < h.claims .push := by
    by_contra hge
    rcases hl.vacant (h.claims .pop) (by omega) (by omega) with ⟨hseq, -⟩ | ⟨r, hr, hseq⟩
    all_goals exact hl.word_ne (by omega) (by omega) (hseq.symm.trans hturn)
  refine ⟨hlt, ?_⟩
  rcases hl.filled (h.claims .pop) le_rfl hlt with hseq | ⟨-, hdata⟩
  · exact absurd (hseq.symm.trans hturn) (hl.word_ne (by omega) (by omega))
  · exact hdata

lemma Linear.within_claimed (hl : h.Linear) {s : Side} {pos' : Position}
    (hturn : (h.cell (h.claims side)).sequence = BitVec.ofNat 64 (h.claims side + side.ahead))
    (hin : (h.stage u).within = some (s, pos')) : (h.claimed t side pos).Within s (h.place u) := by
  obtain ⟨-, hw, -⟩ := (hl.own u).within s pos' hin
  have hne := hl.ready_elsewhere side hin hturn
  cases side with
  | push =>
    cases s with
    | push => exact ⟨hw.1, Nat.lt_succ_of_lt hw.2⟩
    | pop =>
      refine ⟨hw.1, Nat.lt_of_le_of_ne hw.2 ?_⟩
      intro heq
      change h.claims .push = h.place u + h.cells at heq
      rw [heq, Nat.add_mod_right] at hne
      exact hne rfl
  | pop =>
    cases s with
    | push =>
      refine ⟨Nat.lt_of_le_of_ne hw.1 ?_, hw.2⟩
      intro heq
      rw [heq] at hne
      exact hne rfl
    | pop => exact ⟨Nat.lt_succ_of_lt hw.1, hw.2⟩

lemma claimed_cell (h : QueueHistory α) (t : ℕ) (side : Side) (pos : Position) (p : ℕ) :
    (h.claimed t side pos).cell p = h.cell p := by cases side <;> rfl

lemma claimed_caller (h : QueueHistory α) (t : ℕ) (side : Side) (pos : Position) :
    (h.claimed t side pos).state.callers t =
      { stage := .move side pos, item := (h.state.callers t).item } := update_self ..

lemma claimed_others (h : QueueHistory α) (side : Side) (pos : Position) (hu : u ≠ t) :
    h.SameThread (h.claimed t side pos) u :=
  ⟨update_of_ne hu _ _, update_of_ne hu _ _, rfl⟩

lemma Linear.claimed_cursor (hl : h.Linear) (hpos : pos = BitVec.ofNat 64 (h.claims side))
    (s : Side) :
    (h.claimed t side pos).state.queue.cursor s =
      BitVec.ofNat 64 ((h.claimed t side pos).claims s) := by
  have hnext : pos + 1 = BitVec.ofNat 64 (h.claims side + 1) := by
    rw [hpos, BitVec.ofNat_add _ 1]
    rfl
  cases side with
  | push =>
    cases s with
    | push => exact hnext
    | pop => exact hl.cursor .pop
  | pop =>
    cases s with
    | push => exact hl.cursor .push
    | pop => exact hnext

lemma Linear.claimed_ledger (hl : h.Linear) (hp : p < h.claims .push) :
    (h.claimed t side pos).ledger[p]? = h.ledger[p]? := by
  cases side with
  | push => exact List.getElem?_append_left (by rw [hl.ledger]; exact hp)
  | pop => rfl

/-- The other threads keep what they rely on. -/
lemma Linear.carry_claim (hl : h.Linear)
    (hturn : (h.cell (h.claims side)).sequence = BitVec.ofNat 64 (h.claims side + side.ahead))
    (hut : u ≠ t) : (h.claimed t side pos).Own u := by
  refine (hl.own u).carry (h.claimed_others side pos hut) (fun s => ?_)
    (fun p hp => hl.claimed_ledger hp) hl.order
    (fun s pos' hin => ⟨hl.within_claimed hturn hin, h.claimed_cell ..⟩)
    (fun s pos' _ _ hturn' => by rw [claimed_cell]; exact hturn')
  change h.claims s ≤ update h.claims side (h.claims side + 1) s
  rw [update_apply]
  split_ifs with hs
  · rw [hs]
    exact Nat.le_succ _
  · exact le_rfl

lemma Linear.own_claimPush (hl : h.Linear) (hstage : h.stage t = .swap .push pos)
    (hpos : pos = BitVec.ofNat 64 (h.claims .push))
    (hturn : (h.cell (h.claims .push)).sequence = BitVec.ofNat 64 (h.claims .push))
    {item : α} (hgiven : h.given t = some item)
    (hledger : (h.claimed t .push pos).ledger = h.ledger ++ [item]) :
    (h.claimed t .push pos).Own t := by
  obtain ⟨hitem, hsome⟩ := (hl.own t).fresh (by rw [hstage]; rfl)
  have hcaller := h.claimed_caller t .push pos
  have howned := own_claimed (h := h.claimed t .push pos) .push _ (congrArg Caller.stage hcaller) rfl
  have hplace : (h.claimed t .push pos).place t = h.claims .push := update_self ..
  rw [hplace] at howned
  refine howned (Nat.lt_succ_self _) (fun s pos' hin => ?_) (fun b hb => ?_) (fun _ => ?_)
    (fun _ => ?_) nofun
  · cases hin
    exact ⟨hpos, ⟨hl.order, Nat.lt_succ_self _⟩, hturn⟩
  · cases hb
    exact (hl.turnPush hturn).2
  · refine ⟨?_, hsome⟩
    rw [hcaller]
    exact hitem
  · rw [hledger, List.getElem?_append_right hl.ledger.le, hl.ledger]
    exact hgiven.trans (by simp)

lemma Linear.own_claimPop (hl : h.Linear) (hpos : pos = BitVec.ofNat 64 (h.claims .pop))
    (hturn : (h.cell (h.claims .pop)).sequence = BitVec.ofNat 64 (h.claims .pop + 1)) :
    (h.claimed t .pop pos).Own t := by
  have howned := own_claimed (h := h.claimed t .pop pos) .pop _
    (congrArg Caller.stage (h.claimed_caller t .pop pos)) rfl
  have hplace : (h.claimed t .pop pos).place t = h.claims .pop := update_self ..
  rw [hplace] at howned
  refine howned (Nat.lt_succ_self _) (fun s pos' hin => ?_) (fun b hb => ?_)
    nofun nofun nofun
  · cases hin
    exact ⟨hpos, ⟨Nat.lt_succ_self _, hl.room⟩, hturn⟩
  · cases hb
    exact (hl.turnPop hturn).2

lemma Linear.claimPush (hl : h.Linear) (hstage : h.stage t = .swap .push pos)
    (hpos : pos = BitVec.ofNat 64 (h.claims .push))
    (hturn : (h.cell (h.claims .push)).sequence = BitVec.ofNat 64 (h.claims .push)) :
    (h.claimed t .push pos).Linear := by
  obtain ⟨hitem, hsome⟩ := (hl.own t).fresh (by rw [hstage]; rfl)
  obtain ⟨item, hgiven⟩ := Option.isSome_iff_exists.mp hsome
  have hledger : (h.claimed t .push pos).ledger = h.ledger ++ [item] := by
    change h.ledger ++ (h.state.callers t).item.toList = _
    rw [hitem, hgiven]
    rfl
  constructor
  case sized => exact hl.sized
  case order => exact Nat.le_succ_of_le hl.order
  case room => exact (hl.turnPush hturn).1
  case cursor => exact hl.claimed_cursor hpos
  case ledger =>
    rw [hledger, List.length_append, hl.ledger]
    rfl
  case filled =>
    intro p hlo hhi
    rcases Nat.lt_or_ge p (h.claims .push) with hlt | hge
    · rw [hl.claimed_ledger hlt]
      exact hl.filled p hlo hlt
    · obtain rfl : p = h.claims .push := Nat.le_antisymm (Nat.le_of_lt_succ hhi) hge
      exact .inl hturn
  case vacant =>
    intro p hlo hhi
    exact hl.vacant p (Nat.le_of_succ_le hlo) hhi
  case own =>
    intro u
    by_cases hut : u = t
    · rw [hut]
      exact hl.own_claimPush hstage hpos hturn hgiven hledger
    · exact hl.carry_claim hturn hut
  case apart =>
    exact hl.apart_claim (fun u hu => h.claimed_others _ _ hu)
      (congrArg (fun c => c.stage.owner) (h.claimed_caller ..)) (update_self ..)

lemma Linear.claimPop (hl : h.Linear) (hpos : pos = BitVec.ofNat 64 (h.claims .pop))
    (hturn : (h.cell (h.claims .pop)).sequence = BitVec.ofNat 64 (h.claims .pop + 1)) :
    (h.claimed t .pop pos).Linear := by
  constructor
  case sized => exact hl.sized
  case order => exact (hl.turnPop hturn).1
  case room => exact hl.room.trans (Nat.add_le_add_right (Nat.le_succ _) _)
  case cursor => exact hl.claimed_cursor hpos
  case ledger => exact hl.ledger
  case filled =>
    intro p hlo hhi
    exact hl.filled p (Nat.le_of_succ_le hlo) hhi
  case vacant =>
    intro p hlo hhi
    change p < h.claims .pop + 1 + h.cells at hhi
    rcases Nat.lt_or_ge p (h.claims .pop + h.cells) with hin | hlast
    · exact hl.vacant p hlo hin
    · obtain rfl : p = h.claims .pop + h.cells := by omega
      refine .inr ⟨h.claims .pop, rfl, ?_⟩
      have hshared : h.cell (h.claims .pop + h.cells) = h.cell (h.claims .pop) := by
        unfold cell
        rw [Nat.add_mod_right]
      exact (congrArg Cell.sequence hshared).trans hturn
  case own =>
    intro u
    by_cases hut : u = t
    · rw [hut]
      exact hl.own_claimPop hpos hturn
    · exact hl.carry_claim hturn hut
  case apart =>
    exact hl.apart_claim (fun u hu => h.claimed_others _ _ hu)
      (congrArg (fun c => c.stage.owner) (h.claimed_caller ..)) (update_self ..)

/-- The thread claims the next position. -/
lemma Linear.claim (hl : h.Linear) (hstage : h.stage t = .swap side pos)
    (hplace : h.place t = h.claims side) : (h.claimed t side pos).Linear := by
  obtain ⟨hpos, -⟩ := (hl.own t).seeking side pos (by rw [hstage]; rfl)
  have hturn := (hl.own t).ready side pos hstage hplace
  rw [hplace] at hturn hpos
  cases side with
  | push => exact hl.claimPush hstage hpos hturn
  | pop => exact hl.claimPop hpos hturn

/-! ### Every access -/

lemma sameThread_of_ne {queue : CellQueue α} {claims : Side → ℕ} {ledger : List α} {place : ℕ → ℕ}
    {given : ℕ → Option α} (hplace : ∀ u, u ≠ t → place u = h.place u)
    (hgiven : ∀ u, u ≠ t → given u = h.given u) (u : ℕ) (hu : u ≠ t) :
    h.SameThread ⟨⟨queue, update h.state.callers t c⟩, claims, ledger, place, given⟩ u :=
  ⟨update_of_ne hu _ _, hplace u hu, hgiven u hu⟩

/-- The thread is before its claim afterwards, and no cell was written. -/
lemma Linear.unclaimed (hl : h.Linear) (side : Side) {queue : CellQueue α} {place : ℕ → ℕ}
    {given : ℕ → Option α} (hcells : queue.cells = h.state.queue.cells)
    (hbuffer : queue.buffer = h.state.queue.buffer)
    (hcursor : ∀ s, queue.cursor s = h.state.queue.cursor s)
    (hplace : ∀ u, u ≠ t → place u = h.place u) (hgiven : ∀ u, u ≠ t → given u = h.given u)
    (howner : c.stage.owner = none)
    (hseek : ∀ s pos, c.stage.seeking = some (s, pos) →
      s = side ∧ pos = BitVec.ofNat 64 (place t) ∧ place t ≤ h.claims side)
    (hready : ∀ s pos, c.stage = .swap s pos →
      (h.cell (place t)).sequence = BitVec.ofNat 64 (place t + side.ahead))
    (hfresh : c.stage.fresh = true → c.item = given t ∧ (given t).isSome = true) :
    Linear ⟨⟨queue, update h.state.callers t c⟩, h.claims, h.ledger, place, given⟩ := by
  have hcell : ∀ p, (⟨⟨queue, update h.state.callers t c⟩, h.claims, h.ledger, place,
      given⟩ : QueueHistory α).cell p = h.cell p := by
    intro p
    simp only [cell, cells, hbuffer, hcells]
  have hcaller : update h.state.callers t c t = c := update_self ..
  refine hl.looks ⟨hcells, hcursor, rfl, rfl⟩ hcell (sameThread_of_ne hplace hgiven) ?_ ?_
  · have hunowned : ∀ {s : Side} {P : Prop}, c.stage.owner = some s → P := by
      intro s P hs
      rw [howner] at hs
      cases hs
    constructor <;> simp only [stage, hcaller, hcell]
    case seeking =>
      intro s pos hs
      obtain ⟨rfl, hpos, hle⟩ := hseek s pos hs
      exact ⟨hpos, hle⟩
    case ready =>
      intro s pos hs _
      obtain ⟨rfl, -⟩ := hseek s pos (by rw [hs]; rfl)
      exact hready s pos hs
    case within =>
      intro s pos hin
      exact hunowned (CallStage.owner_of_within hin)
    case content =>
      intro b hb
      obtain ⟨s, pos, hin⟩ := CallStage.within_of_content hb
      exact hunowned (CallStage.owner_of_within hin)
    case claimed =>
      intro s hs
      exact hunowned hs
    case fresh => exact hfresh
    case pushed =>
      intro hs
      exact hunowned hs
    case taken =>
      intro htaken
      exact hunowned (CallStage.owner_of_taken htaken)
  · intro s hs
    simp only [stage, hcaller, howner] at hs
    cases hs

lemma Linear.loads (hl : h.Linear) (hside : cursorSide (h.stage t) = some side) :
    Linear { h with
      state := h.state.setStage t (.look side (h.state.queue.cursor side))
      place := update h.place t (h.claims side) } := by
  refine hl.unclaimed side rfl rfl (fun _ => rfl) (fun u hu => update_of_ne hu _ _)
    (fun _ _ => rfl) rfl (fun s pos hs => ?_) nofun (fun hf => ?_)
  · cases hs
    simp [hl.cursor]
  · have hfresh : (h.stage t).fresh = true := by
      cases hs : h.stage t with
      | load s | swap s =>
        obtain rfl : s = side := Option.some.inj ((congrArg cursorSide hs).symm.trans hside)
        cases s with
        | push => rfl
        | pop => cases hf
      | _ => cases (congrArg cursorSide hs).symm.trans hside
    exact (hl.own t).fresh hfresh

lemma Linear.turns (hl : h.Linear) {next : CallStage} (hlook : h.stage t = .look side pos)
    (howner : next.owner = none)
    (hseek : ∀ s pos', next.seeking = some (s, pos') → s = side ∧ pos' = pos)
    (hready : ∀ s pos', next = .swap s pos' →
      (h.cell (h.place t)).sequence = BitVec.ofNat 64 (h.place t + side.ahead))
    (hfresh : next.fresh = true → side = .push) :
    Linear { h with state := h.state.setStage t next } := by
  refine hl.unclaimed side rfl rfl (fun _ => rfl) (fun _ _ => rfl) (fun _ _ => rfl) howner
    (fun s pos' hs => ?_) hready (fun hf => ?_)
  · obtain ⟨rfl, rfl⟩ := hseek s pos' hs
    exact ⟨rfl, (hl.own t).seeking s pos' (by rw [hlook]; rfl)⟩
  · obtain rfl := hfresh hf
    exact (hl.own t).fresh (by rw [hlook]; rfl)

lemma Linear.rewrite_cell (hl : h.Linear) (new : Cell α) (c : Caller α)
    (hpos : pos = BitVec.ofNat 64 (h.place t)) :
    (h.rewrite t pos new c).cell (h.place t) = new ∧
      ∀ p, p % h.cells ≠ h.place t % h.cells → (h.rewrite t pos new c).cell p = h.cell p := by
  have hindex : h.state.queue.index pos = h.place t % h.cells := by
    rw [hpos]
    exact hl.index _
  constructor
  · have hself := h.state.queue.setCell_buffer_self pos new
    rw [hindex] at hself
    exact hself
  · intro p hp
    exact h.state.queue.setCell_buffer_of_ne new (by rw [hindex]; exact hp)

lemma Linear.rewrite (hl : h.Linear) {side : Side} {pos : Position} {new : Cell α} {c : Caller α}
    (hin : (h.stage t).within = some (side, pos)) (howner : c.stage.owner = some side)
    (hown : (h.rewrite t pos new c).Own t)
    (hfilled : side = .push → new.sequence = BitVec.ofNat 64 (h.place t) ∨
      (new.sequence = BitVec.ofNat 64 (h.place t + 1) ∧ new.data = h.ledger[h.place t]?))
    (hvacant : side = .pop →
      (new.sequence = BitVec.ofNat 64 (h.place t + h.cells) ∧ new.data = none) ∨
        new.sequence = BitVec.ofNat 64 (h.place t + 1)) : (h.rewrite t pos new c).Linear := by
  obtain ⟨hpos, -⟩ := (hl.own t).within side pos hin
  obtain ⟨hnew, hother⟩ := hl.rewrite_cell new c hpos
  have hstage : (h.rewrite t pos new c).stage t = c.stage := by
    simp [QueueHistory.rewrite, stage, QueueState.setCaller]
  refine hl.writes hin ⟨rfl, fun side => by cases side <;> rfl, rfl, rfl⟩ hother
    (sameThread_of_ne (fun _ _ => rfl) fun _ _ => rfl) hown ?_ ?_ ?_
  · intro s hs
    rw [hstage, howner] at hs
    cases hs
    exact ⟨CallStage.owner_of_within hin, rfl⟩
  · rw [hnew]
    exact hfilled
  · rw [hnew]
    exact hvacant

/-- What a write of its own cell leaves the thread with. -/
lemma Linear.own_rewrite (hl : h.Linear) {side : Side} {pos : Position} {new : Cell α}
    {c : Caller α} (hin : (h.stage t).within = some (side, pos)) (howner : c.stage.owner = some side)
    (hseq : c.stage.within ≠ none → c.stage.within = some (side, pos) ∧
      new.sequence = (h.cell (h.place t)).sequence)
    (hcontent : ∀ b, c.stage.content = some b →
      new.data = if b then h.ledger[h.place t]? else none)
    (hfresh : c.stage.fresh = false)
    (htaken : c.stage.taken = true → c.item = h.ledger[h.place t]?) :
    (h.rewrite t pos new c).Own t := by
  obtain ⟨hpos, hw, hturn⟩ := (hl.own t).within side pos hin
  obtain ⟨hnew, -⟩ := hl.rewrite_cell new c hpos
  have howned := CallStage.owner_of_within hin
  have hcaller : (h.rewrite t pos new c).state.callers t = c := by
    simp [QueueHistory.rewrite, QueueState.setCaller]
  refine own_claimed side c.stage (congrArg Caller.stage hcaller) howner
    ((hl.own t).claimed side howned) ?_ ?_ ?_ ?_ ?_
  · intro s pos' hs
    obtain ⟨hsame, hkept⟩ := hseq (by rw [hs]; simp)
    obtain ⟨-, rfl⟩ := Prod.mk.inj (Option.some.inj (hs.symm.trans hsame))
    refine ⟨hpos, ?_, ?_⟩
    · cases side with
      | push | pop => exact hw
    · change ((h.rewrite t pos' new c).cell (h.place t)).sequence = _
      rw [hnew, hkept]
      exact hturn
  · intro b hb
    change ((h.rewrite t pos new c).cell (h.place t)).data = _
    rw [hnew]
    exact hcontent b hb
  · intro hf
    rw [hfresh] at hf
    cases hf
  · rintro rfl
    exact (hl.own t).pushed howned
  · intro htk
    rw [hcaller]
    exact htaken htk

lemma Linear.movePush (hl : h.Linear) (hstage : h.stage t = .move .push pos) :
    (h.rewrite t pos { h.state.queue.cellAt pos with data := (h.state.callers t).item }
      { stage := .store .push pos, item := none }).Linear := by
  have hin : (h.stage t).within = some (.push, pos) := by rw [hstage]; rfl
  obtain ⟨hpos, hw, hturn⟩ := (hl.own t).within .push pos hin
  have hcell : h.state.queue.cellAt pos = h.cell (h.place t) := by
    rw [hpos]
    exact hl.cellAt _
  have hitem : (h.state.callers t).item = h.ledger[h.place t]? := by
    rw [← (hl.own t).pushed (by rw [hstage]; rfl)]
    exact ((hl.own t).fresh (by rw [hstage]; rfl)).1
  rw [hcell]
  refine hl.rewrite hin rfl ?_ (fun _ => .inl hturn) nofun
  refine hl.own_rewrite hin rfl (fun _ => ⟨rfl, rfl⟩) (fun b hb => ?_) rfl nofun
  cases hb
  exact hitem

lemma Linear.clear (hl : h.Linear) (hstage : h.stage t = .clear pos) :
    (h.rewrite t pos { h.state.queue.cellAt pos with data := none }
      { stage := .store .pop pos, item := (h.state.callers t).item }).Linear := by
  have hin : (h.stage t).within = some (.pop, pos) := by rw [hstage]; rfl
  obtain ⟨hpos, hw, hturn⟩ := (hl.own t).within .pop pos hin
  have hcell : h.state.queue.cellAt pos = h.cell (h.place t) := by
    rw [hpos]
    exact hl.cellAt _
  rw [hcell]
  refine hl.rewrite hin rfl ?_ nofun (fun _ => .inr hturn)
  refine hl.own_rewrite hin rfl (fun _ => ⟨rfl, rfl⟩) (fun b hb => ?_) rfl fun _ => ?_
  · cases hb
    rfl
  · exact (hl.own t).taken (by rw [hstage]; rfl)

lemma Linear.nextTurn (hl : h.Linear) (side : Side) (p : ℕ) :
    h.state.queue.nextTurn (BitVec.ofNat 64 p) side =
      BitVec.ofNat 64 (if side = .push then p + 1 else p + h.cells) := by
  cases side with
  | push =>
    rw [if_pos rfl, BitVec.ofNat_add]
    rfl
  | pop =>
    have hb := hl.bounds
    have hcells : h.state.queue.cells = h.cells := rfl
    rw [if_neg (by decide), CellQueue.nextTurn, CellQueue.mask, hcells, BitVec.ofNat_add_ofNat,
      show p + h.cells = p + (h.cells - 1) + 1 by omega, BitVec.ofNat_add _ 1]
    rfl

lemma Linear.store (hl : h.Linear) (hstage : h.stage t = .store side pos) :
    (h.rewrite t pos
      { h.state.queue.cellAt pos with sequence := h.state.queue.nextTurn pos side }
      { stage := .count side, item := (h.state.callers t).item }).Linear := by
  have hin : (h.stage t).within = some (side, pos) := by rw [hstage]; rfl
  obtain ⟨hpos, hw, hturn⟩ := (hl.own t).within side pos hin
  have hcell : h.state.queue.cellAt pos = h.cell (h.place t) := by
    rw [hpos]
    exact hl.cellAt _
  have hnext : h.state.queue.nextTurn pos side =
      BitVec.ofNat 64 (if side = .push then h.place t + 1 else h.place t + h.cells) := by
    rw [hpos]
    exact hl.nextTurn side _
  rw [hcell, hnext]
  refine hl.rewrite hin rfl ?_ ?_ ?_
  · refine hl.own_rewrite hin rfl (fun hnone => absurd rfl hnone) nofun
      (by cases side <;> rfl) fun htk => ?_
    cases side with
    | push => cases htk
    | pop => exact (hl.own t).taken (by rw [hstage]; rfl)
  · rintro rfl
    refine .inr ⟨rfl, ?_⟩
    exact (hl.own t).content true (by rw [hstage]; rfl)
  · rintro rfl
    refine .inl ⟨rfl, ?_⟩
    exact (hl.own t).content false (by rw [hstage]; rfl)

lemma Linear.movePop (hl : h.Linear) (hstage : h.stage t = .move .pop pos) :
    Linear { h with
      state := h.state.setCaller t
        { stage := .clear pos, item := (h.state.queue.cellAt pos).data } } := by
  have hin : (h.stage t).within = some (.pop, pos) := by rw [hstage]; rfl
  have howned := CallStage.owner_of_within hin
  obtain ⟨hpos, hw, hturn⟩ := (hl.own t).within .pop pos hin
  have hcell : h.state.queue.cellAt pos = h.cell (h.place t) := by
    rw [hpos]
    exact hl.cellAt _
  refine hl.looks (t := t) ⟨rfl, fun _ => rfl, rfl, rfl⟩ (fun _ => rfl)
    (sameThread_of_ne (fun _ _ => rfl) fun _ _ => rfl) ?_ ?_
  · refine own_claimed .pop (.clear pos) ?_ rfl
      ((hl.own t).claimed .pop howned) ?_ nofun nofun
      nofun fun _ => ?_
    · simp [stage, QueueState.setCaller]
    · intro s pos' hs
      cases hs
      exact ⟨hpos, hw, hturn⟩
    · simp only [QueueState.setCaller, update_self]
      rw [hcell]
      exact (hl.own t).content true (by rw [hstage]; rfl)
  · intro s hs
    simp only [stage, QueueState.setCaller, update_self] at hs
    exact ⟨howned.trans hs, rfl⟩

lemma Linear.place_eq (hl : h.Linear) (hstage : h.stage t = .swap side pos)
    (hcursor : h.state.queue.cursor side = pos) (htimely : h.claims side < h.place t + 2 ^ 64) :
    h.place t = h.claims side := by
  obtain ⟨hpos, hle⟩ := (hl.own t).seeking side pos (by rw [hstage]; rfl)
  refine Ring.ofNat_injective hle htimely ?_
  rw [← hpos, ← hl.cursor side]
  exact hcursor.symm

lemma Linear.step (hl : h.Linear) {i : QueueInput α} {es : List (QueueEvent α)}
    (htimely : h.timely i) (hs : h.step i = some (h', es)) : h'.Linear := by
  cases acts_step hs with
  | callPush =>
    exact hl.unclaimed .push rfl rfl (fun _ => rfl) (fun _ _ => rfl)
      (fun u hu => update_of_ne hu _ _) rfl nofun
      nofun (fun _ => by simp)
  | callPop =>
    exact hl.unclaimed .pop rfl rfl (fun _ => rfl) (fun _ _ => rfl) (fun _ _ => rfl) rfl
      nofun nofun nofun
  | loads was => exact hl.loads was
  | @ready t _ side pos was turn =>
    refine hl.turns was rfl (fun s pos' heq => ?_) (fun s pos' heq => ?_) (fun hf => ?_)
    · cases heq
      exact ⟨rfl, rfl⟩
    · rw [((hl.own t).seeking side pos (by rw [was]; rfl)).1, hl.cellAt,
        BitVec.ofNat_add_ofNat] at turn
      exact turn
    · cases side with
      | push => rfl
      | pop => cases hf
  | fails was =>
    exact hl.turns was rfl nofun nofun
      nofun
  | @retries t _ side pos was =>
    refine hl.turns was rfl nofun nofun
      (fun hf => ?_)
    cases side with
    | push => rfl
    | pop => cases hf
  | @swaps t _ side pos was cursor =>
    exact hl.claim was (hl.place_eq was cursor (htimely side pos was))
  | movePush was => exact hl.movePush was
  | movePop was => exact hl.movePop was
  | clear was => exact hl.clear was
  | store was => exact hl.store was
  | @returns t _ side =>
    exact hl.unclaimed side (by cases side <;> rfl) (by cases side <;> rfl)
      (fun s => by cases side <;> cases s <;> rfl) (fun _ _ => rfl) (fun _ _ => rfl) rfl
      nofun nofun nofun

lemma create_linear {capacity : ℕ} (hlo : 2 ≤ capacity) (hhi : capacity ≤ 2 ^ 63) :
    (create capacity : QueueHistory α).Linear where
  sized := roundUpPow2_eq_pow hlo hhi
  order := le_rfl
  room := Nat.zero_le _
  cursor side := by cases side <;> rfl
  ledger := rfl
  filled p _ hhi := absurd hhi (Nat.not_lt_zero p)
  vacant p _ hlt := by
    have hp : p < 0 + roundUpPow2 capacity := hlt
    rw [Nat.zero_add] at hp
    refine .inl ⟨?_, rfl⟩
    change BitVec.ofNat 64 (p % roundUpPow2 capacity) = _
    rw [Nat.mod_eq_of_lt hp]
  own t := by
    constructor
    case seeking | ready | within =>
      intro s pos hs
      cases hs
    case content | claimed =>
      intro b hs
      cases hs
    case fresh | pushed | taken =>
      intro hs
      cases hs
  apart t u side ht := by cases ht

end QueueHistory

end TangoBulk
