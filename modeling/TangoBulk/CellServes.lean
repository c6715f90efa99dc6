import TangoBulk.CellAlone

/-! What calls on the queue return, in whole runs of its threads. A thread that nobody disturbs does
what the sequential call does. -/
namespace TangoBulk

open Transition Function

/-! ### What was claimed and what was returned -/

namespace QueueEvent

variable {α : Type}

/-- The position claimed at one end. -/
def claimedAt (side : Side) : QueueEvent α → Option ℕ
  | .claimed s _ p => if s = side then some p else none
  | _ => none

/-- The position with which a call at one end returned true. -/
def returnedAt (side : Side) : QueueEvent α → Option ℕ
  | .pushed _ p _ => if side = .push then some p else none
  | .popped _ p _ => if side = .pop then some p else none
  | _ => none

end QueueEvent

namespace QueueHistory

variable {α : Type} {h h' : QueueHistory α} {t u p : ℕ} {i : QueueInput α}
  {es trace : List (QueueEvent α)}

/-- What an input of thread `t` does to the claims, to who holds which position and to the gauge, and
what it reports. -/
inductive Effect (h h' : QueueHistory α) (t : ℕ) : List (QueueEvent α) → Prop
  | keeps {es : List (QueueEvent α)} (owner : (h'.stage t).owner = (h.stage t).owner)
      (place : (h.stage t).owner ≠ none → h'.place t = h.place t) (claims : h'.claims = h.claims)
      (ledger : h'.ledger = h.ledger) (size : h'.state.queue.size = h.state.queue.size)
      (reports : es = [] ∨ ∃ pos, h.stage t = .look .push pos ∧
        es = [.refused t (h.given t) (h.state.callers t).item]) : Effect h h' t es
  | claims {side pos} (was : h.stage t = .swap side pos)
      (cursor : h.state.queue.cursor side = pos) (owner : (h'.stage t).owner = some side)
      (place : h'.place t = h.claims side)
      (claims : h'.claims = Function.update h.claims side (h.claims side + 1))
      (ledger : h.ledger <+: h'.ledger) (size : h'.state.queue.size = h.state.queue.size) :
      Effect h h' t [.claimed side t (h.claims side)]
  | returns {side} (was : h.stage t = .count side) (out : (h'.stage t).owner = none)
      (claims : h'.claims = h.claims) (ledger : h'.ledger = h.ledger)
      (size : h'.state.queue.size = (h.state.queue.counted side).size) :
      Effect h h' t ([h.state.done t side].flatMap h.report)

lemma Acts.effect (ha : h.Acts i h' es) :
    (∀ u, u ≠ i.thread → h.SameThread h' u) ∧ h'.cells = h.cells ∧
      h.Effect h' i.thread es := by
  have hquiet : ∀ {t : ℕ} {c : Caller α} {stage : CallStage}, h.stage t = stage →
      h'.state.callers t = c → c.stage.owner = stage.owner →
      ((h.stage t).owner ≠ none → h'.place t = h.place t) → h'.claims = h.claims →
      h'.ledger = h.ledger → h'.state.queue.size = h.state.queue.size → h.Effect h' t [] := by
    intro t c stage hwas hcaller howner hplace hclaims hledger hsize
    refine .keeps ?_ hplace hclaims hledger hsize (.inl rfl)
    rw [hwas, ← howner, ← hcaller]
    rfl
  cases ha with
  | @callPush t item idle =>
    exact ⟨sameThread_of_ne (fun _ _ => rfl) fun u hu => update_of_ne hu _ _, rfl,
      hquiet idle (update_self ..) rfl (fun _ => rfl) rfl rfl rfl⟩
  | @callPop t idle =>
    exact ⟨sameThread_of_ne (fun _ _ => rfl) fun _ _ => rfl, rfl,
      hquiet idle (update_self ..) rfl (fun _ => rfl) rfl rfl rfl⟩
  | @loads t _ side was =>
    have hnone : (h.stage t).owner = none := by
      cases hs : h.stage t with
      | load | swap => rfl
      | _ => cases (congrArg cursorSide hs).symm.trans was
    exact ⟨sameThread_of_ne (fun u hu => update_of_ne hu _ _) fun _ _ => rfl, rfl,
      hquiet rfl (update_self ..) hnone.symm (absurd hnone) rfl rfl rfl⟩
  | @ready t _ side pos was =>
    exact ⟨sameThread_of_ne (fun _ _ => rfl) fun _ _ => rfl, rfl,
      hquiet was (update_self ..) rfl (fun _ => rfl) rfl rfl rfl⟩
  | @fails t _ side pos was =>
    refine ⟨sameThread_of_ne (fun _ _ => rfl) fun _ _ => rfl, rfl,
      .keeps ?_ (fun _ => rfl) rfl rfl rfl ?_⟩
    · rw [QueueInput.thread, was]
      exact congrArg (fun c => c.stage.owner) (update_self t _ h.state.callers)
    · cases side with
      | push => exact .inr ⟨pos, was, rfl⟩
      | pop => exact .inl rfl
  | @retries t _ side pos was =>
    exact ⟨sameThread_of_ne (fun _ _ => rfl) fun _ _ => rfl, rfl,
      hquiet was (update_self ..) rfl (fun _ => rfl) rfl rfl rfl⟩
  | @swaps t _ side pos was cursor =>
    refine ⟨fun u hu => ⟨update_of_ne hu _ _, update_of_ne hu _ _, rfl⟩,
      by cases side <;> rfl, .claims was cursor ?_ (update_self ..) rfl ?_
      (by cases side <;> rfl)⟩
    · exact congrArg (fun c => c.stage.owner) (update_self t _ h.state.callers)
    · cases side with
      | push => exact List.prefix_append _ _
      | pop => exact List.prefix_refl _
  | @movePush t _ pos was | @movePop t _ pos was | @clear t _ pos was | @store t _ side pos was =>
    exact ⟨sameThread_of_ne (fun _ _ => rfl) fun _ _ => rfl, rfl,
      hquiet was (update_self ..) rfl (fun _ => rfl) rfl rfl rfl⟩
  | @returns t _ side was =>
    refine ⟨sameThread_of_ne (fun _ _ => rfl) fun _ _ => rfl, by cases side <;> rfl,
      .returns was ?_ rfl rfl rfl⟩
    exact congrArg (fun c => c.stage.owner) (update_self t _ h.state.callers)

/-- What an input does to the record and to the owners of positions. -/
structure Records (h : QueueHistory α) (h' : QueueHistory α) (es : List (QueueEvent α)) : Prop where
  claims : ∀ side, h'.claims side = h.claims side + (es.filterMap (QueueEvent.claimedAt side)).length
  ledger : h.ledger <+: h'.ledger
  owners : ∀ u side, (h'.stage u).owner = some side →
    ((h.stage u).owner = some side ∧ h'.place u = h.place u) ∨ h'.place u = h.claims side

lemma Effect.records (he : h.Effect h' t es) (hothers : ∀ u, u ≠ t → h.SameThread h' u) :
    h.Records h' es := by
  have howners : (∀ side, (h'.stage t).owner = some side →
      ((h.stage t).owner = some side ∧ h'.place t = h.place t) ∨ h'.place t = h.claims side) →
      ∀ u side, (h'.stage u).owner = some side →
        ((h.stage u).owner = some side ∧ h'.place u = h.place u) ∨ h'.place u = h.claims side := by
    intro hself u side hu
    by_cases hut : u = t
    · subst hut
      exact hself side hu
    · have hsame := hothers u hut
      rw [stage, hsame.caller] at hu
      exact .inl ⟨hu, hsame.place⟩
  cases he with
  | keeps owner place claims ledger _ reports =>
    refine ⟨fun side => ?_, by rw [ledger], howners fun side hside => ?_⟩
    · rw [claims]
      rcases reports with rfl | ⟨pos, -, rfl⟩
      · rfl
      · rfl
    · rw [owner] at hside
      exact .inl ⟨hside, place (by rw [hside]; simp)⟩
  | @claims side _ _ _ owner place claims ledger =>
    refine ⟨fun s => ?_, ledger, howners fun s hs => ?_⟩
    · rw [claims, update_apply]
      by_cases hs : s = side
      · subst hs
        simp [QueueEvent.claimedAt]
      · simp [QueueEvent.claimedAt, hs, Ne.symm hs]
    · obtain rfl := Option.some.inj (owner.symm.trans hs)
      exact .inr place
  | @returns side was out claims ledger =>
    refine ⟨fun s => ?_, by rw [ledger], howners fun s hs => ?_⟩
    · rw [claims]
      cases side <;> rfl
    · rw [out] at hs
      cases hs

/-- What the events so far say, given the record. -/
structure Told (trace : List (QueueEvent α)) (h : QueueHistory α) : Prop where
  claims : ∀ side, trace.filterMap (QueueEvent.claimedAt side) = List.range (h.claims side)
  once : ∀ side, (trace.filterMap (QueueEvent.returnedAt side)).Nodup
  past : ∀ side, ∀ p ∈ trace.filterMap (QueueEvent.returnedAt side),
    p < h.claims side ∧ ∀ u, (h.stage u).owner = some side → h.place u ≠ p
  pushed : ∀ t p given, .pushed t p given ∈ trace → given.isSome = true ∧ h.ledger[p]? = given
  popped : ∀ t p item, .popped t p item ∈ trace → item.isSome = true ∧ h.ledger[p]? = item
  refused : ∀ t given left, .refused t given left ∈ trace → given.isSome = true ∧ left = given

lemma Records.entry (hr : h.Records h' es) {x : Option α} (hsome : x.isSome = true)
    (hentry : h.ledger[p]? = x) : h'.ledger[p]? = x := by
  obtain ⟨item, rfl⟩ := Option.isSome_iff_exists.mp hsome
  obtain ⟨hlt, -⟩ := List.getElem?_eq_some_iff.mp hentry
  obtain ⟨more, hmore⟩ := hr.ledger
  rw [← hmore, List.getElem?_append_left hlt]
  exact hentry

lemma Records.past (hr : h.Records h' es) {side : Side} (hp : p < h.claims side)
    (hunheld : ∀ u, (h.stage u).owner = some side → h.place u ≠ p) :
    p < h'.claims side ∧ ∀ u, (h'.stage u).owner = some side → h'.place u ≠ p := by
  have hgrow := hr.claims side
  refine ⟨by omega, fun u hu => ?_⟩
  rcases hr.owners u side hu with ⟨hold, hplace⟩ | hnew
  · rw [hplace]
    exact hunheld u hold
  · omega

/-- The events grow by what an input reports: claims in order, and a return by the thread that held
the position until then. -/
lemma Told.extend (ht : h.Told trace) (hr : h.Records h' es)
    (hclaims : ∀ side, es.filterMap (QueueEvent.claimedAt side) =
      List.range' (h.claims side) (es.filterMap (QueueEvent.claimedAt side)).length)
    (honce : ∀ side, (es.filterMap (QueueEvent.returnedAt side)).Nodup)
    (hreturned : ∀ side, ∀ p ∈ es.filterMap (QueueEvent.returnedAt side), p < h'.claims side ∧
      (∃ t, (h.stage t).owner = some side ∧ h.place t = p) ∧
      ∀ u, (h'.stage u).owner = some side → h'.place u ≠ p)
    (hpush : ∀ t p given, .pushed t p given ∈ es → given.isSome = true ∧ h.ledger[p]? = given)
    (hpop : ∀ t p item, .popped t p item ∈ es → item.isSome = true ∧ h.ledger[p]? = item)
    (hrefused : ∀ t given left, .refused t given left ∈ es → given.isSome = true ∧ left = given) :
    h'.Told (trace ++ es) := by
  constructor
  case claims =>
    intro side
    rw [List.filterMap_append, ht.claims side, hclaims side, hr.claims side, List.range_eq_range',
      List.range_eq_range', ← List.range'_append_1, Nat.zero_add]
  case once =>
    intro side
    rw [List.filterMap_append, List.nodup_append]
    refine ⟨ht.once side, honce side, fun p hold q hnew heq => ?_⟩
    subst heq
    obtain ⟨-, ⟨t, howner, hplace⟩, -⟩ := hreturned side p hnew
    exact (ht.past side p hold).2 t howner hplace
  case past =>
    intro side p hp
    rw [List.filterMap_append] at hp
    rcases List.mem_append.mp hp with hold | hnew
    · obtain ⟨hlt, hunheld⟩ := ht.past side p hold
      exact hr.past hlt hunheld
    · obtain ⟨hlt, -, hunheld⟩ := hreturned side p hnew
      exact ⟨hlt, hunheld⟩
  case pushed =>
    intro t p given hmem
    have hentry : given.isSome = true ∧ h.ledger[p]? = given := by
      rcases List.mem_append.mp hmem with hold | hnew
      · exact ht.pushed t p given hold
      · exact hpush t p given hnew
    exact ⟨hentry.1, hr.entry hentry.1 hentry.2⟩
  case popped =>
    intro t p item hmem
    have hentry : item.isSome = true ∧ h.ledger[p]? = item := by
      rcases List.mem_append.mp hmem with hold | hnew
      · exact ht.popped t p item hold
      · exact hpop t p item hnew
    exact ⟨hentry.1, hr.entry hentry.1 hentry.2⟩
  case refused =>
    intro t given left hmem
    rcases List.mem_append.mp hmem with hold | hnew
    · exact ht.refused t given left hold
    · exact hrefused t given left hnew

lemma Linear.entry_isSome (hl : h.Linear) {side : Side} (hlt : p < h.claims side) :
    (h.ledger[p]?).isSome = true := by
  have horder := hl.order
  have hlength := hl.ledger
  have hp : p < h.ledger.length := by
    cases side with
    | push | pop => omega
  simp [hp]

lemma Linear.returned (hl : h.Linear) (hr : h.Records h' es) {side : Side}
    (howner : (h.stage t).owner = some side) (hout : (h'.stage t).owner = none) :
    h.place t < h'.claims side ∧
      (∃ u, (h.stage u).owner = some side ∧ h.place u = h.place t) ∧
      ∀ u, (h'.stage u).owner = some side → h'.place u ≠ h.place t := by
  have hlt := (hl.own t).claimed side howner
  have hgrow := hr.claims side
  refine ⟨by omega, ⟨t, howner, rfl⟩, fun u hu => ?_⟩
  rcases hr.owners u side hu with ⟨hold, hplace⟩ | hnew
  · rw [hplace]
    intro heq
    rw [hl.apart u t side hold howner heq, hout] at hu
    cases hu
  · omega

lemma Told.step (ht : h.Told trace) (hl : h.Linear) (he : h.Effect h' t es)
    (hothers : ∀ u, u ≠ t → h.SameThread h' u) : h'.Told (trace ++ es) := by
  have hr := he.records hothers
  cases he with
  | keeps _ _ _ _ _ reports =>
    rcases reports with rfl | ⟨pos, was, rfl⟩
    · exact ht.extend hr (fun _ => rfl) (fun _ => List.nodup_nil) (by simp) (by simp) (by simp)
        (by simp)
    · refine ht.extend hr (fun _ => rfl) (fun _ => List.nodup_nil)
        (by simp [QueueEvent.returnedAt]) (by simp) (by simp) fun u given left hmem => ?_
      obtain ⟨rfl, rfl, rfl⟩ := QueueEvent.refused.inj (List.mem_singleton.mp hmem)
      have hhold := (hl.own u).fresh (by rw [was]; rfl)
      exact ⟨hhold.2, hhold.1⟩
  | @claims side =>
    refine ht.extend hr (fun s => ?_) (fun _ => List.nodup_nil) (by simp [QueueEvent.returnedAt])
      (by simp) (by simp) (by simp)
    by_cases hs : side = s
    · subst hs
      simp [QueueEvent.claimedAt]
    · simp [QueueEvent.claimedAt, hs]
  | @returns side was out =>
    have howner : (h.stage t).owner = some side := by rw [was]; rfl
    have hreturned := hl.returned hr howner out
    have hentry := hl.entry_isSome ((hl.own t).claimed side howner)
    have hat : ∀ s p, p ∈ ([h.state.done t side].flatMap h.report).filterMap
        (QueueEvent.returnedAt s) → s = side ∧ p = h.place t := by
      intro s p hp
      cases side <;> cases s <;> simp_all [QueueState.done, report, QueueEvent.returnedAt]
    refine ht.extend hr (fun _ => by cases side <;> rfl) (fun s => ?_) (fun s p hp => ?_)
      (fun u p given hmem => ?_) (fun u p item hmem => ?_) ?_
    · cases side <;> cases s <;> simp [QueueState.done, report, QueueEvent.returnedAt]
    · obtain ⟨rfl, rfl⟩ := hat s p hp
      exact hreturned
    · cases side with
      | push =>
        obtain ⟨rfl, rfl, rfl⟩ := QueueEvent.pushed.inj (List.mem_singleton.mp hmem)
        rw [(hl.own u).pushed howner]
        exact ⟨hentry, rfl⟩
      | pop => simp [QueueState.done, report] at hmem
    · cases side with
      | push => simp [QueueState.done, report] at hmem
      | pop =>
        obtain ⟨rfl, rfl, rfl⟩ := QueueEvent.popped.inj (List.mem_singleton.mp hmem)
        rw [(hl.own u).taken (by rw [was]; rfl)]
        exact ⟨hentry, rfl⟩
    · cases side <;> simp [QueueState.done, report]

/-! ### The whole -/

/-- What a run of calls on the queue keeps to. Positions are claimed in order at each end, a call
returns with a position no other call returned with, what it brought or got is the item of that
position, a refused item stays where it was; and a cell is one thread's own from claim to last store,
empty when it is written and with the item of its position when it is read. -/
structure Serves (trace : List (QueueEvent α)) (h : QueueHistory α) : Prop where
  claims : ∀ side, trace.filterMap (QueueEvent.claimedAt side) = List.range (h.claims side)
  ledger : h.ledger.length = h.claims .push ∧ h.claims .pop ≤ h.claims .push
  once : ∀ side, (trace.filterMap (QueueEvent.returnedAt side)).Nodup
  pushed : ∀ t p given, .pushed t p given ∈ trace → given.isSome = true ∧ h.ledger[p]? = given
  popped : ∀ t p item, .popped t p item ∈ trace → item.isSome = true ∧ h.ledger[p]? = item
  refused : ∀ t given left, .refused t given left ∈ trace → given.isSome = true ∧ left = given
  apart : ∀ t u side side' pos pos', t ≠ u → (h.stage t).within = some (side, pos) →
    (h.stage u).within = some (side', pos') → h.state.queue.index pos ≠ h.state.queue.index pos'
  written : ∀ t pos, h.stage t = .move .push pos → (h.state.queue.cellAt pos).data = none
  read : ∀ t pos, h.stage t = .move .pop pos →
    (h.ledger[h.place t]?).isSome = true ∧
      (h.state.queue.cellAt pos).data = h.ledger[h.place t]?

lemma serves_of_linear (hl : h.Linear) (ht : h.Told trace) : h.Serves trace := by
  have hposition : ∀ t side pos, (h.stage t).within = some (side, pos) →
      pos = BitVec.ofNat 64 (h.place t) := fun t side pos hin => ((hl.own t).within side pos hin).1
  constructor
  case claims => exact ht.claims
  case ledger => exact ⟨hl.ledger, hl.order⟩
  case once => exact ht.once
  case pushed => exact ht.pushed
  case popped => exact ht.popped
  case refused => exact ht.refused
  case apart =>
    intro t u side side' pos pos' hne ht hu
    rw [hposition t side pos ht, hposition u side' pos' hu, hl.index, hl.index]
    exact hl.within_apart hne ht hu
  case written =>
    intro t pos hstage
    rw [hposition t .push pos (by rw [hstage]; rfl), hl.cellAt]
    exact (hl.own t).content false (by rw [hstage]; rfl)
  case read =>
    intro t pos hstage
    rw [hposition t .pop pos (by rw [hstage]; rfl), hl.cellAt]
    exact ⟨hl.entry_isSome ((hl.own t).claimed .pop (by rw [hstage]; rfl)),
      (hl.own t).content true (by rw [hstage]; rfl)⟩

end QueueHistory

/-! ### A whole turn of the words -/

namespace CellQueue

variable {α : Type} {q : CellQueue α} {f : Fifo α} {n : ℕ}

lemma Represents.accepts (hq : q.Sized) (h : q.Represents f n) (item : α)
    (hroom : f.items.length < q.cells) :
    ∃ f' q', q.call 1 (.push item 0) = some (.pushed true, q') ∧ q'.cells = q.cells ∧
      f'.items = f.items ++ [item] ∧ q'.Represents f' n := by
  have hfits : f.items.length < f.capacity := by rw [h.capacity]; exact hroom
  obtain ⟨f', hpush⟩ : ∃ f', f.push item = some f' := by simp [Fifo.push, hfits]
  obtain ⟨-, hitems, -⟩ := Fifo.push_eq_some.mp hpush
  refine ⟨f', q.storeItem q.enqueuePos item, ?_, rfl, hitems, h.storeItem hq hpush⟩
  rw [CellQueue.call, h.tryPush_accepted hq hpush Nat.one_pos]
  rfl

lemma Represents.gives (hq : q.Sized) (h : q.Represents f n) {item : α} {rest : List α}
    (hitems : f.items = item :: rest) :
    ∃ f' q', q.call 1 (.pop 0) = some (.popped (some item), q') ∧ q'.cells = q.cells ∧
      f'.items = rest ∧ q'.Represents f' (n + 1) := by
  have hbound := f.bounded
  rw [hitems, List.length_cons] at hbound
  have hpop : f.pop = some (item, ⟨f.capacity, rest, by omega⟩) :=
    Fifo.pop_eq_some.mpr ⟨hitems, rfl⟩
  refine ⟨_, (q.takeItem q.dequeuePos).2, ?_, rfl, rfl, (h.takeItem hq hpop).2⟩
  rw [CellQueue.call, h.tryPop_taken hq hpop Nat.one_pos]
  rfl

end CellQueue

namespace QueueState

variable {α : Type} {s : QueueState α} {t : ℕ}

/-- The queue has two cells, and holds these items from position `n` on. -/
def Holds (s : QueueState α) (items : List α) (n : ℕ) : Prop :=
  s.queue.cells = 2 ∧ ∃ f, f.items = items ∧ s.queue.Represents f n

lemma sized_of_two {q : CellQueue α} (h : q.cells = 2) : q.Sized := ⟨1, le_rfl, by omega, h⟩

lemma Holds.pushes {items : List α} {n : ℕ} (h : s.Holds items n)
    (hidle : (s.callers t).stage = .idle) (hroom : items.length < 2) (item : α) :
    ∃ s', s.Calls t s' ∧ s'.Holds (items ++ [item]) n := by
  obtain ⟨hcells, f, rfl, hrep⟩ := h
  obtain ⟨f', q', hcall, hcells', hitems, hrep'⟩ :=
    hrep.accepts (sized_of_two hcells) item (by rw [hcells]; exact hroom)
  obtain ⟨s', hcalls, rfl⟩ := call_alone (i := .callPush t item) rfl rfl hidle hcall
  exact ⟨s', hcalls, hcells'.trans hcells, f', hitems, hrep'⟩

lemma Holds.pops {item : α} {items : List α} {n : ℕ} (h : s.Holds (item :: items) n)
    (hidle : (s.callers t).stage = .idle) : ∃ s', s.Calls t s' ∧ s'.Holds items (n + 1) := by
  obtain ⟨hcells, f, hf, hrep⟩ := h
  obtain ⟨f', q', hcall, hcells', hitems, hrep'⟩ := hrep.gives (sized_of_two hcells) hf
  obtain ⟨s', hcalls, rfl⟩ := call_alone (i := .callPop t) rfl rfl hidle hcall
  exact ⟨s', hcalls, hcells'.trans hcells, f', hitems, hrep'⟩

lemma Holds.cycles (h : s.Holds ([] : List α) 0) (hidle : (s.callers t).stage = .idle) (item : α)
    (n : ℕ) : ∃ s', s.Calls t s' ∧ s'.Holds [] n := by
  induction n with
  | zero => exact ⟨s, ⟨⟨[], .start⟩, hidle, fun _ _ => rfl⟩, h⟩
  | succ n ih =>
    obtain ⟨s₁, hcalls, hempty⟩ := ih
    obtain ⟨s₂, hpush, hone⟩ := hempty.pushes hcalls.idle (by simp) item
    obtain ⟨s₃, hpop, hnone⟩ := hone.pops hpush.idle
    exact ⟨s₃, (hcalls.trans hpush).trans hpop, hnone⟩

end QueueState

lemma exists_history {α : Type} {h : QueueHistory α} {rs : List (QueueReturn α)}
    {s s' : QueueState α} (hreach : (threadMachine α).Reaches anyStep s rs s') (hs : h.state = s) :
    ∃ trace h', (cellMachine α).Reaches anyStep h trace h' ∧ h'.state = s' := by
  induction hreach with
  | start => exact ⟨[], h, .start, hs⟩
  | @next rs s₁ s₂ i es _ _ hstep ih =>
    obtain ⟨trace, h₁, hprior, hstate⟩ := ih
    subst hstate
    obtain ⟨h₂, es', htaken, hstate₂⟩ := QueueHistory.exists_step hstep
    exact ⟨_, h₂, .next hprior trivial htaken, hstate₂⟩

/-- A thread that has seen its turn at position 0 and not yet claimed it. -/
def latePush : QueueState Bool :=
  (QueueState.create 2).setCaller 0 { stage := .swap .push 0, item := some false }

lemma latePush_reached :
    (threadMachine Bool).Reaches anyStep (QueueState.create 2) [] latePush := by
  have hstart : (threadMachine Bool).Reaches anyStep (QueueState.create 2) [] (.create 2) := .start
  refine hstart.extend_run (show (threadMachine Bool).run anyStep (.create 2)
    [.callPush 0 false, .access 0 false, .access 0 false] = some (latePush, []) from ?_)
  simp [Machine.run, threadMachine, anyStep, QueueState.step, QueueState.access, QueueState.create,
    QueueState.setStage, QueueState.setCaller, CellQueue.create, CellQueue.cursor, CellQueue.cellAt,
    CellQueue.index, Side.ahead, Ring.distance, latePush]

lemma latePush_turn : ∃ rs s, (threadMachine Bool).Reaches anyStep latePush rs s ∧
    s.callers 0 = latePush.callers 0 ∧ s.queue.enqueuePos = 0 ∧
    (s.queue.cellAt 0).data = some true := by
  obtain ⟨n, hn⟩ : ∃ n, n + 2 = 2 ^ 64 := ⟨2 ^ 64 - 2, by norm_num⟩
  have hidle : (latePush.callers 1).stage = .idle := rfl
  have hempty : latePush.Holds [] 0 :=
    ⟨by decide, boundedQueue 2, rfl, CellQueue.create_represents 2⟩
  obtain ⟨s₁, hcycles, hnone⟩ := hempty.cycles hidle true n
  obtain ⟨s₂, hfirst, hone⟩ := hnone.pushes hcycles.idle (by simp) true
  obtain ⟨s₃, hsecond, hcells, f, hitems, hrep⟩ := hone.pushes hfirst.idle (by simp) true
  have hcalls := (hcycles.trans hfirst).trans hsecond
  obtain ⟨rs, hreach⟩ := hcalls.reaches
  refine ⟨rs, s₃, hreach, hcalls.others 0 (by omega), ?_, ?_⟩
  · rw [hrep.enqueue, hitems]
    simp [hn]
  · have hheld := hrep.held 0 true (by rw [hitems]; rfl)
    have heven : (n + 0) % 2 = 0 := by omega
    have hindex : s₃.queue.index 0 = 0 := by simp [CellQueue.index]
    rw [hcells, heven] at hheld
    rw [CellQueue.cellAt, hindex, hheld]

/-! ### Every run -/

/-- A buffer of two cells or more is a queue for any number of threads on both sides, whatever the
order of their accesses, as long as no compare-and-swap comes a whole turn of the words late. -/
theorem bounded_queue_linear {α : Type} {capacity : ℕ} {trace : List (QueueEvent α)}
    {h : QueueHistory α} (hlo : 2 ≤ capacity) (hhi : capacity ≤ 2 ^ 63)
    (hreach : (cellMachine α).Reaches QueueHistory.timely (.create capacity) trace h) :
    h.Serves trace := by
  have hinv : h.Linear ∧ h.Told trace := by
    refine hreach.traceInvariant (fun trace h => h.Linear ∧ h.Told trace)
      ⟨QueueHistory.create_linear hlo hhi, ?_⟩ ?_
    · exact ⟨fun _ => rfl, fun _ => List.nodup_nil, by simp, by simp, by simp, by simp⟩
    · rintro trace h i h' es ⟨hl, ht⟩ htimely hs
      obtain ⟨hothers, -, heffect⟩ := (QueueHistory.acts_step hs).effect
      exact ⟨hl.step htimely hs, ht.step hl heffect hothers⟩
  exact QueueHistory.serves_of_linear hinv.1 hinv.2

/-- Two threads look for the same turn; the one that is late takes the next position, and a third
thread pops the first item. -/
def contendedCalls : List (QueueInput ℕ) :=
  [.callPush 0 10, .callPush 1 11, .access 0 false, .access 1 false, .access 0 false,
    .access 1 false, .access 1 false, .access 0 false, .access 1 false, .access 1 false,
    .access 1 false, .access 0 false, .access 0 true, .access 0 false, .access 0 false,
    .access 0 false, .callPop 2, .access 2 false, .access 2 false, .access 2 false,
    .access 2 false, .access 2 false, .access 2 false, .access 2 false, .access 0 false,
    .access 0 false]

theorem bounded_queue_linear_sample : ∃ trace h,
    ((cellMachine ℕ).Reaches QueueHistory.timely (.create 2) trace h ∧
      .popped 2 0 (some 11) ∈ trace ∧ .pushed 0 1 (some 10) ∈ trace) ∧ h.Serves trace := by
  obtain ⟨trace, h, hreach, hevents⟩ := (cellMachine ℕ).exists_of_run QueueHistory.timely
    (.create 2) contendedCalls
    (P := fun _ trace => .popped 2 0 (some 11) ∈ trace ∧ .pushed 0 1 (some 10) ∈ trace)
    (by decide +kernel)
  exact ⟨trace, h, ⟨hreach, hevents⟩, bounded_queue_linear (by omega) (by omega) hreach⟩

/-- A thread that saw its turn before a whole turn of the cursor claims a position whose cell holds
an unread item. -/
theorem bounded_queue_turn :
    ∃ trace h, (cellMachine Bool).Reaches anyStep (.create 2) trace h ∧ h.stage 0 = .move .push 0 ∧
      (h.state.queue.cellAt 0).data = some true ∧ ¬ h.Serves trace := by
  obtain ⟨rs, s, hreach, hcaller, hcursor, hdata⟩ := latePush_turn
  have hclaims : s.access 0 false = some ({ s with
      queue := s.queue.setCursor .push 1 }.setStage 0 (.move .push 0), []) := by
    simp [QueueState.access, hcaller, latePush, CellQueue.cursor, hcursor]
  have hclaimed : (threadMachine Bool).Reaches anyStep s [] _ := .one (i := .access 0 false) trivial
    hclaims
  obtain ⟨trace, h, hrun, hstate⟩ := exists_history (h := .create 2)
    ((latePush_reached.trans hreach).trans hclaimed) rfl
  have hstage : h.stage 0 = .move .push 0 := by
    simp [QueueHistory.stage, hstate, QueueState.setStage]
  have hunread : (h.state.queue.cellAt 0).data = some true := by
    rw [hstate]
    exact hdata
  refine ⟨trace, h, hrun, hstage, hunread, fun hserves => ?_⟩
  have hnone := hserves.written 0 0 hstage
  rw [hunread] at hnone
  cases hnone

end TangoBulk
