import TangoBulk.CellServes
import Mathlib.Data.Finset.Card
import Mathlib.Order.Interval.Finset.Nat

/-! The gauge of the queue between threads. `size_` is updated after the cell was given away, so the
call that takes the cell next may be counted first, and the gauge is then behind by one. -/
namespace TangoBulk

open Transition Function

namespace QueueHistory

variable {α : Type} {h h' : QueueHistory α} {t : ℕ} {i : QueueInput α} {es : List (QueueEvent α)}

/-- The call that had the cell of the next position before, at the other end, is counted. -/
def Settled (h : QueueHistory α) : Side → Prop
  | .push => ∀ u, (h.stage u).owner = some .pop → h.place u + h.cells ≠ h.claims .push
  | .pop => ∀ u, (h.stage u).owner = some .push → h.place u ≠ h.claims .pop

/-- A thread swaps a cursor that is where it saw it only if the cell's last call is counted. -/
def settled (h : QueueHistory α) (i : QueueInput α) : Prop :=
  ∀ side pos, h.stage i.thread = .swap side pos → h.state.queue.cursor side = pos → h.Settled side

/-- The positions of the calls that have claimed theirs and are not counted yet, and what the gauge
shows without them. -/
structure Gauge (h : QueueHistory α) (pending : Side → Finset ℕ) : Prop where
  held : ∀ side p, p ∈ pending side ↔ ∃ t, (h.stage t).owner = some side ∧ h.place t = p
  within : ∀ side, ∀ p ∈ pending side, h.Within side p
  size : h.state.queue.size + BitVec.ofNat 64 (h.claims .pop + (pending .push).card) =
    BitVec.ofNat 64 (h.claims .push + (pending .pop).card)

variable {pending : Side → Finset ℕ}

lemma held_iff (hothers : ∀ u, u ≠ t → h.SameThread h' u) (side : Side) (p : ℕ) :
    (∃ u, (h'.stage u).owner = some side ∧ h'.place u = p) ↔
      ((h'.stage t).owner = some side ∧ h'.place t = p) ∨
      ∃ u, u ≠ t ∧ (h.stage u).owner = some side ∧ h.place u = p := by
  have hsame : ∀ u, u ≠ t → ((h'.stage u).owner = some side ∧ h'.place u = p ↔
      (h.stage u).owner = some side ∧ h.place u = p) := by
    intro u hut
    have hu := hothers u hut
    rw [stage, hu.caller, hu.place]
    rfl
  constructor
  · rintro ⟨u, hu⟩
    by_cases hut : u = t
    · exact .inl (hut ▸ hu)
    · exact .inr ⟨u, hut, (hsame u hut).mp hu⟩
  · rintro (ht | ⟨u, hut, hu⟩)
    · exact ⟨t, ht⟩
    · exact ⟨u, (hsame u hut).mpr hu⟩

lemma Gauge.keeps (hg : h.Gauge pending) (hothers : ∀ u, u ≠ t → h.SameThread h' u)
    (hcells : h'.cells = h.cells) (howner : (h'.stage t).owner = (h.stage t).owner)
    (hplace : (h.stage t).owner ≠ none → h'.place t = h.place t) (hclaims : h'.claims = h.claims)
    (hsize : h'.state.queue.size = h.state.queue.size) : h'.Gauge pending := by
  refine ⟨fun side p => ?_, fun side p hp => ?_, by rw [hsize, hclaims]; exact hg.size⟩
  · rw [hg.held, held_iff hothers, held_iff (h := h) (t := t) fun _ _ => ⟨rfl, rfl, rfl⟩, howner]
    refine or_congr_left (and_congr_right fun hside => ?_)
    rw [hplace (by rw [hside]; simp)]
  · have hw := hg.within side p hp
    cases side with
    | push => exact ⟨by rw [hclaims]; exact hw.1, by rw [hclaims]; exact hw.2⟩
    | pop => exact ⟨by rw [hclaims]; exact hw.1, by rw [hclaims, hcells]; exact hw.2⟩

/-- A claim adds its position, and counts on neither side. -/
lemma Gauge.claims (hg : h.Gauge pending) (hl : h.Linear) {side : Side}
    (hsettled : h.Settled side) (hothers : ∀ u, u ≠ t → h.SameThread h' u)
    (hcells : h'.cells = h.cells) (hwas : (h.stage t).owner = none)
    (howner : (h'.stage t).owner = some side) (hplace : h'.place t = h.claims side)
    (hclaims : h'.claims = update h.claims side (h.claims side + 1))
    (hsize : h'.state.queue.size = h.state.queue.size) :
    h'.Gauge (update pending side (insert (h.claims side) (pending side))) := by
  have hnew : h.claims side ∉ pending side := by
    intro hmem
    have hw := hg.within side _ hmem
    cases side with
    | push => exact absurd hw.2 (Nat.lt_irrefl _)
    | pop => exact absurd hw.1 (Nat.lt_irrefl _)
  have horder := hl.order
  have hroom := hl.room
  refine ⟨fun s p => ?_, fun s p hp => ?_, ?_⟩
  · rw [held_iff hothers, howner, hplace]
    have hold : p ∈ pending s ↔ ∃ u, u ≠ t ∧ (h.stage u).owner = some s ∧ h.place u = p := by
      rw [hg.held, held_iff (h := h) (t := t) fun _ _ => ⟨rfl, rfl, rfl⟩, hwas]
      simp
    rw [← hold]
    by_cases hs : s = side
    · subst hs
      simp [eq_comm]
    · simp [hs, Ne.symm hs]
  · -- the other end's calls are all ahead of the claimed position, or it would not be settled
    have hbefore : p ∈ pending s → h'.Within s p := by
      intro hmem
      have hw := hg.within s p hmem
      obtain ⟨u, hu, hup⟩ := (hg.held s p).mp hmem
      cases side <;> cases s <;>
        simp only [Within, hclaims, hcells, update_self, ne_eq, reduceCtorEq,
          not_false_eq_true, update_of_ne] at hw ⊢
      · omega
      · have := hsettled u hu
        omega
      · have := hsettled u hu
        omega
      · omega
    by_cases hs : s = side
    · subst hs
      rw [update_self, Finset.mem_insert] at hp
      rcases hp with rfl | hmem
      · cases s <;>
          simp only [Within, hclaims, hcells, update_self, ne_eq, reduceCtorEq,
            not_false_eq_true, update_of_ne] <;> omega
      · exact hbefore hmem
    · rw [update_of_ne hs] at hp
      exact hbefore hp
  · have hcard := Finset.card_insert_of_notMem hnew
    have hstep : ∀ a b : ℕ, h.state.queue.size + BitVec.ofNat 64 a = BitVec.ofNat 64 b →
        h.state.queue.size + BitVec.ofNat 64 (a + 1) = BitVec.ofNat 64 (b + 1) := by
      intro a b hab
      rw [BitVec.ofNat_add, BitVec.ofNat_add, ← hab, BitVec.add_assoc]
    have hprior := hstep _ _ hg.size
    rw [hsize, hclaims]
    cases side with
    | push | pop =>
      simp only [update_self, ne_eq, reduceCtorEq, not_false_eq_true,
        update_of_ne, hcard]
      rw [Nat.add_right_comm _ 1]
      exact hprior

/-- A call that is counted gives its position up. -/
lemma Gauge.returns (hg : h.Gauge pending) (hl : h.Linear) {side : Side}
    (hothers : ∀ u, u ≠ t → h.SameThread h' u) (hcells : h'.cells = h.cells)
    (hwas : (h.stage t).owner = some side) (hout : (h'.stage t).owner = none)
    (hclaims : h'.claims = h.claims)
    (hsize : h'.state.queue.size = (h.state.queue.counted side).size) :
    h'.Gauge (update pending side ((pending side).erase (h.place t))) := by
  have hmem : h.place t ∈ pending side := (hg.held side _).mpr ⟨t, hwas, rfl⟩
  refine ⟨fun s p => ?_, fun s p hp => ?_, ?_⟩
  · rw [held_iff hothers, hout]
    simp only [reduceCtorEq, false_and, false_or]
    by_cases hs : s = side
    · subst hs
      rw [update_self, Finset.mem_erase, hg.held]
      constructor
      · rintro ⟨hne, u, hu, rfl⟩
        exact ⟨u, fun hut => hne (by rw [hut]), hu, rfl⟩
      · rintro ⟨u, hut, hu, rfl⟩
        exact ⟨fun heq => hut (hl.apart u t s hu hwas heq), u, hu, rfl⟩
    · rw [update_of_ne hs, hg.held]
      constructor
      · rintro ⟨u, hu, rfl⟩
        refine ⟨u, fun hut => hs ?_, hu, rfl⟩
        rw [hut, hwas] at hu
        exact (Option.some.inj hu).symm
      · rintro ⟨u, -, hu, rfl⟩
        exact ⟨u, hu, rfl⟩
  · have hold : p ∈ pending s := by
      rw [update_apply] at hp
      split_ifs at hp with hs
      · rw [hs]
        exact Finset.mem_of_mem_erase hp
      · exact hp
    have hw := hg.within s p hold
    cases s <;> simp only [Within, hclaims, hcells] at hw ⊢ <;> exact hw
  · obtain ⟨n, hn⟩ : ∃ n, (pending side).card = n + 1 :=
      Nat.exists_eq_succ_of_ne_zero (Finset.card_ne_zero_of_mem hmem)
    have hcard : ((pending side).erase (h.place t)).card = n := by
      rw [Finset.card_erase_of_mem hmem, hn]
      rfl
    have hprior := hg.size
    rw [hsize, hclaims]
    cases side with
    | push =>
      simp only [update_self, ne_eq, reduceCtorEq, not_false_eq_true,
        update_of_ne, hcard, CellQueue.counted]
      rw [← hprior, hn, ← Nat.add_assoc, BitVec.ofNat_add _ 1, BitVec.add_assoc,
        BitVec.add_comm (1 : BitVec 64)]
      rfl
    | pop =>
      simp only [update_self, ne_eq, reduceCtorEq, not_false_eq_true,
        update_of_ne, hcard, CellQueue.counted]
      rw [hn, ← Nat.add_assoc, BitVec.ofNat_add _ 1] at hprior
      rw [BitVec.sub_add_comm, hprior]
      exact BitVec.add_sub_cancel _ _

lemma Gauge.step (hg : h.Gauge pending) (hl : h.Linear) (hsettled : h.settled i)
    (hs : h.step i = some (h', es)) : ∃ pending', h'.Gauge pending' := by
  obtain ⟨hothers, hcells, heffect⟩ := (acts_step hs).effect
  cases heffect with
  | keeps owner place claims _ size =>
    exact ⟨_, hg.keeps hothers hcells owner place claims size⟩
  | @claims side pos was cursor owner place claims _ size =>
    exact ⟨_, hg.claims hl (hsettled side pos was cursor) hothers hcells (by rw [was]; rfl) owner
      place claims size⟩
  | returns was out claims _ size =>
    exact ⟨_, hg.returns hl hothers hcells (by rw [was]; rfl) out claims size⟩

lemma Gauge.size_le (hg : h.Gauge pending) (hl : h.Linear) :
    h.state.queue.size.toNat ≤ h.cells := by
  have hb := hl.bounds
  have horder := hl.order
  have hroom := hl.room
  have hpush : (pending .push).card ≤ h.claims .push - h.claims .pop := by
    rw [← Nat.card_Ico]
    refine Finset.card_le_card fun p hp => Finset.mem_Ico.mpr ?_
    exact hg.within .push p hp
  have hpop : (pending .pop).card ≤ h.claims .pop - (h.claims .push - h.cells) := by
    rw [← Nat.card_Ico]
    refine Finset.card_le_card fun p hp => Finset.mem_Ico.mpr ?_
    obtain ⟨hlt, hle⟩ := hg.within .pop p hp
    exact ⟨by omega, hlt⟩
  obtain ⟨n, hn⟩ : ∃ n, h.claims .push + (pending .pop).card =
      n + (h.claims .pop + (pending .push).card) := ⟨_, (Nat.sub_add_cancel (by omega)).symm⟩
  have hsize : h.state.queue.size = BitVec.ofNat 64 n := by
    have heq := hg.size
    rw [hn, BitVec.ofNat_add n] at heq
    exact (BitVec.add_left_inj _).mp heq
  rw [hsize, BitVec.toNat_ofNat, Nat.mod_eq_of_lt (by omega)]
  omega

lemma create_gauge (capacity : ℕ) : (create capacity : QueueHistory α).Gauge fun _ => ∅ := by
  refine ⟨fun side p => ?_, by simp, rfl⟩
  simp only [Finset.notMem_empty, false_iff]
  rintro ⟨t, howner, -⟩
  cases howner

/-- The call of thread `u` is counted, or does not have the cell that the swap claims. -/
def counted (h : QueueHistory α) (u : ℕ) : CallStage → Bool
  | .swap .push _ => (h.stage u).owner != some .pop || h.place u + h.cells != h.claims .push
  | .swap .pop _ => (h.stage u).owner != some .push || h.place u != h.claims .pop
  | _ => true

/-- `settled` among the first `n` threads. -/
def settledAmong (n : ℕ) (h : QueueHistory α) (i : QueueInput α) : Prop :=
  i.thread < n ∧ ∀ u < n, h.counted u (h.stage i.thread) = true

instance (n : ℕ) (h : QueueHistory α) (i : QueueInput α) : Decidable (h.settledAmong n i) :=
  inferInstanceAs (Decidable (_ ∧ _))

lemma settled_among {capacity n : ℕ} {trace : List (QueueEvent α)}
    (hreach : (cellMachine α).Reaches (fun h i => h.timely i ∧ h.settledAmong n i)
      (.create capacity) trace h) :
    (∀ u, n ≤ u → h.stage u = .idle) ∧
      (cellMachine α).Reaches (fun h i => h.timely i ∧ h.settled i) (.create capacity) trace h := by
  induction hreach with
  | start => exact ⟨fun _ _ => rfl, .start⟩
  | @next trace h h' i es _ meets taken ih =>
    obtain ⟨hidle, hprior⟩ := ih
    obtain ⟨htimely, hthread, hcounted⟩ := meets
    obtain ⟨hothers, -⟩ := (acts_step taken).effect
    refine ⟨fun u hu => ?_, .next hprior ⟨htimely, fun side pos hswap _ => ?_⟩ taken⟩
    · rw [stage, (hothers u (by omega)).caller]
      exact hidle u hu
    · have hbelow : ∀ u s, (h.stage u).owner = some s → u < n := by
        intro u s hs
        by_contra hu
        rw [hidle u (Nat.not_lt.mp hu)] at hs
        cases hs
      cases side with
      | push | pop =>
        intro u hu
        simpa [hswap, counted, hu] using hcounted u (hbelow u _ hu)

end QueueHistory

/-- The gauge stays within the capacity in every run in which no compare-and-swap comes a whole turn
of the words late, and none claims a cell whose last call, at the other end, is not counted yet. -/
theorem queue_gauge_bounded {α : Type} {capacity : ℕ} {trace : List (QueueEvent α)}
    {h : QueueHistory α} (hlo : 2 ≤ capacity) (hhi : capacity ≤ 2 ^ 63)
    (hreach : (cellMachine α).Reaches (fun h i => h.timely i ∧ h.settled i) (.create capacity)
      trace h) : h.state.queue.size.toNat ≤ h.state.queue.cells := by
  have hinv : h.Linear ∧ ∃ pending, h.Gauge pending := by
    refine hreach.invariant (fun h => h.Linear ∧ ∃ pending, h.Gauge pending)
      ⟨QueueHistory.create_linear hlo hhi, _, QueueHistory.create_gauge capacity⟩ ?_
    rintro h i h' es ⟨hl, pending, hg⟩ ⟨htimely, hsettled⟩ hs
    exact ⟨hl.step htimely hs, hg.step hl hsettled hs⟩
  obtain ⟨hl, pending, hg⟩ := hinv
  exact hg.size_le hl

/-- The accesses of a whole push or pop of one thread. -/
def accessesOf (t n : ℕ) : List (QueueInput ℕ) := List.replicate n (.access t false)

/-- A push has stored its cell and is not counted when another one follows, and both items leave. -/
def hastyPops : List (QueueInput ℕ) :=
  .callPush 0 10 :: accessesOf 0 5 ++ .callPush 1 11 :: accessesOf 1 6 ++
    .callPop 2 :: accessesOf 2 7 ++ .callPop 2 :: accessesOf 2 7

/-- What the second push then reads as the depth of the queue. -/
theorem queue_gauge_wraps : ∃ trace h,
    (cellMachine ℕ).Reaches QueueHistory.timely (.create 2) trace h ∧
      .pushed 1 1 (some 11) ∈ trace ∧ h.state.queue.size.toNat = 2 ^ 64 - 1 :=
  (cellMachine ℕ).exists_of_run QueueHistory.timely (.create 2) hastyPops (by decide +kernel)

/-- Two pushes side by side, the later one not counted before the item of the other has left. -/
def crossedCalls : List (QueueInput ℕ) :=
  .callPush 0 10 :: .callPush 1 11 :: (List.replicate 6 [.access 0 false, .access 1 false]).flatten ++
    .access 1 false :: .callPop 0 :: accessesOf 0 7 ++ [.access 1 false]

theorem queue_gauge_bounded_sample : ∃ trace h,
    ((cellMachine ℕ).Reaches (fun h i => h.timely i ∧ h.settled i) (.create 2) trace h ∧
      (h.state.queue.size = 1 ∧ .pushed 1 1 (some 11) ∈ trace ∧ .popped 0 0 (some 10) ∈ trace)) ∧
    h.state.queue.size.toNat ≤ h.state.queue.cells := by
  obtain ⟨trace, h, hreach, hend⟩ : ∃ trace h,
      (cellMachine ℕ).Reaches (fun h i => h.timely i ∧ h.settledAmong 2 i) (.create 2) trace h ∧
        (h.state.queue.size = 1 ∧ .pushed 1 1 (some 11) ∈ trace ∧ .popped 0 0 (some 10) ∈ trace) :=
    (cellMachine ℕ).exists_of_run _ _ crossedCalls (by decide +kernel)
  have hsettled := (QueueHistory.settled_among hreach).2
  exact ⟨trace, h, ⟨hsettled, hend⟩, queue_gauge_bounded (by omega) (by omega) hsettled⟩

end TangoBulk
