import TangoBulk.PublisherSlots

/-! What a credit can do. It moves the window of the one session it names, drops the references
of the slots that session's newly credited sequences read, and hands back the slots whose
count reaches zero. -/
namespace TangoBulk

open ByteString Transition Function

namespace Publisher

/-! ### Dropping references -/

/-- The references of `slots` are dropped, and the slots whose count reached zero are handed
back, each once. -/
structure Dropped (p p' : Publisher) (slots : List ℕ) : Prop where
  refs : ∀ i, p'.slotRefs i + slots.count i = p.slotRefs i
  freed : ∃ freed : List ℕ, p'.freeSlots.items = p.freeSlots.items ++ freed ∧ freed.Nodup ∧
    ∀ i, i ∈ freed ↔ 0 < p.slotRefs i ∧ p'.slotRefs i = 0

variable {p p' p'' : Publisher} {k : ℕ}

lemma Dropped.none (p : Publisher) : p.Dropped p [] where
  refs := fun i => by simp
  freed := ⟨[], by simp, List.nodup_nil, fun i => by simp; omega⟩

lemma Dropped.trans {slots slots' : List ℕ} (h : p.Dropped p' slots)
    (h' : p'.Dropped p'' slots') : p.Dropped p'' (slots ++ slots') := by
  obtain ⟨freed, hitems, hnodup, hmem⟩ := h.freed
  obtain ⟨freed', hitems', hnodup', hmem'⟩ := h'.freed
  refine ⟨fun i => ?_, freed ++ freed', ?_, ?_, fun i => ?_⟩
  · have hi := h.refs i
    have hi' := h'.refs i
    rw [List.count_append]
    omega
  · rw [hitems', hitems, List.append_assoc]
  · refine List.nodup_append.mpr ⟨hnodup, hnodup', ?_⟩
    rintro i hi j hj rfl
    have hzero := ((hmem i).mp hi).2
    have hpos := ((hmem' i).mp hj).1
    omega
  · have hi := h.refs i
    have hi' := h'.refs i
    rw [List.mem_append, hmem, hmem']
    omega

/-- What a dropped reference may change. -/
structure SlotsOnly (p p' : Publisher) : Prop where
  same : p' = { p with
    slotRefs := p'.slotRefs
    freeSlots := p'.freeSlots
    counters := p'.counters
    monitor := p'.monitor }
  counters : ∀ c, c ≠ .framesCredited → p'.counters c = p.counters c

lemma SlotsOnly.refl (p : Publisher) : p.SlotsOnly p := ⟨rfl, fun _ _ => rfl⟩

lemma SlotsOnly.trans (h : p.SlotsOnly p') (h' : p'.SlotsOnly p'') : p.SlotsOnly p'' := by
  refine ⟨?_, fun c hc => (h'.counters c hc).trans (h.counters c hc)⟩
  have hsame := h'.same
  rw [h.same] at hsame
  exact hsame

lemma releaseSlot_slotsOnly (p : Publisher) (i : ℕ) : p.SlotsOnly (p.releaseSlot i) := by
  unfold releaseSlot
  split <;> exact ⟨rfl, fun _ _ => rfl⟩

lemma releaseSlotRef_slotsOnly (p : Publisher) (i : ℕ) : p.SlotsOnly (p.releaseSlotRef i) := by
  unfold releaseSlotRef
  split
  · exact ⟨rfl, fun _ _ => rfl⟩
  · rename_i refs _
    have hdropped : p.SlotsOnly { p with slotRefs := update p.slotRefs i refs } :=
      ⟨rfl, fun _ _ => rfl⟩
    split_ifs
    · exact hdropped.trans (releaseSlot_slotsOnly _ i)
    · exact hdropped

lemma creditSequence_slotsOnly (p : Publisher) (k q : ℕ) : p.SlotsOnly (creditSequence k p q) := by
  have hreleased := p.releaseSlotRef_slotsOnly (p.slotOf k q)
  unfold creditSequence
  dsimp only
  split_ifs
  · refine hreleased.trans ⟨rfl, fun c hc => ?_⟩
    exact update_of_ne hc _ _
  · exact hreleased

lemma releaseSlot_sound {i : ℕ} (h : (p.releaseSlot i).monitor.assertFailed = false) :
    p.monitor.assertFailed = false ∧ (p.releaseSlot i).slotRefs = p.slotRefs ∧
      (p.releaseSlot i).freeSlots.items = p.freeSlots.items ++ [i] := by
  unfold releaseSlot at h ⊢
  cases hpush : p.freeSlots.push i with
  | none =>
    rw [hpush] at h
    cases h
  | some =>
    rw [hpush] at h
    exact ⟨h, rfl, (Fifo.push_eq_some.mp hpush).2.1⟩

lemma releaseSlotRef_dropped {i : ℕ} (h : (p.releaseSlotRef i).monitor.assertFailed = false) :
    p.monitor.assertFailed = false ∧ p.Dropped (p.releaseSlotRef i) [i] := by
  unfold releaseSlotRef at h ⊢
  cases hrefs : p.slotRefs i with
  | zero =>
    rw [hrefs] at h
    cases h
  | succ refs =>
    rw [hrefs] at h
    dsimp only at h ⊢
    have hcount : ∀ j, update p.slotRefs i refs j + [i].count j = p.slotRefs j := by
      intro j
      rw [List.count_singleton]
      by_cases hj : j = i
      · subst hj
        simp [hrefs]
      · simp [update_of_ne hj, Ne.symm hj]
    split_ifs at h ⊢ with hlast
    · obtain ⟨hsound, hsame, hitems⟩ := releaseSlot_sound h
      refine ⟨hsound, ⟨?_, [i], hitems, List.nodup_singleton i, ?_⟩⟩
      · rw [hsame]
        exact hcount
      · intro j
        have hj := hcount j
        rw [hsame, List.mem_singleton]
        rw [List.count_singleton] at hj
        by_cases heq : j = i
        · subst heq
          simp [hrefs, hlast]
        · simp [heq]
          omega
    · refine ⟨h, ⟨hcount, [], by simp, List.nodup_nil, fun j => ?_⟩⟩
      by_cases heq : j = i
      · subst heq
        simp [hlast]
      · simp [update_of_ne heq]
        omega

lemma creditSequence_dropped {q : ℕ} (h : (creditSequence k p q).monitor.assertFailed = false) :
    p.monitor.assertFailed = false ∧ p.Dropped (creditSequence k p q) [p.slotOf k q] := by
  unfold creditSequence at h ⊢
  dsimp only at h ⊢
  split_ifs at h ⊢
  · obtain ⟨hsound, hdropped⟩ := releaseSlotRef_dropped (p := p) (i := p.slotOf k q) h
    exact ⟨hsound, hdropped.refs, hdropped.freed⟩
  · exact releaseSlotRef_dropped h

lemma creditSequences_slotsOnly (k : ℕ) (qs : List ℕ) (p : Publisher) :
    p.SlotsOnly (qs.foldl (creditSequence k) p) := by
  induction qs generalizing p with
  | nil => exact .refl p
  | cons q qs ih => exact (p.creditSequence_slotsOnly k q).trans (ih _)

lemma creditSequences_dropped (qs : List ℕ)
    (h : (qs.foldl (creditSequence k) p).monitor.assertFailed = false) :
    p.monitor.assertFailed = false ∧
      p.Dropped (qs.foldl (creditSequence k) p) (qs.map (p.slotOf k)) := by
  induction qs generalizing p with
  | nil => exact ⟨h, .none p⟩
  | cons q qs ih =>
    obtain ⟨hsound, hrest⟩ := ih h
    obtain ⟨hstart, hfirst⟩ := creditSequence_dropped hsound
    rw [slotOf_of_rest (p.rest_creditSequence k q)] at hrest
    exact ⟨hstart, hfirst.trans hrest⟩

/-! ### The effect of a credit -/

/-- The sequences a credit newly covers, and how many of them read a slot. -/
def newlyCredited (p : Publisher) (k ack i : ℕ) : ℕ :=
  ((Finset.Ico (p.sessions k).window.creditedEnd (ack + 1)).filter fun q => p.slotOf k q = i).card

/-- A credit that is not refused: the one window moves, the slots of its newly credited sequences
lose those references, and the gauges are recomputed. -/
structure CreditEffect (p p' : Publisher) (k ack : ℕ) : Prop where
  same : p' = { p with
    sessions := p'.sessions
    slotRefs := p'.slotRefs
    freeSlots := p'.freeSlots
    counters := p'.counters
    credited := p'.credited
    allActiveAdmissionLimit := p'.allActiveAdmissionLimit
    armedSessions := p'.armedSessions
    monitor := p'.monitor }
  counters : ∀ c, c ≠ .framesCredited → p'.counters c = p.counters c
  others : ∀ j, j ≠ k → p'.sessions j = p.sessions j
  own : p'.sessions k = { p.sessions k with
    window := { (p.sessions k).window with
      creditedEnd := max (p.sessions k).window.creditedEnd (ack + 1) } }
  slots : p'.monitor.assertFailed = false →
    (∀ i, p'.slotRefs i + p.newlyCredited k ack i = p.slotRefs i) ∧
    ∃ freed : List ℕ, p'.freeSlots.items = p.freeSlots.items ++ freed ∧ freed.Nodup ∧
      ∀ i, i ∈ freed ↔ 0 < p.slotRefs i ∧ p'.slotRefs i = 0

lemma count_releasedSequences {ack : ℕ} (hack : ack < (p.sessions k).window.nextSequence) (i : ℕ) :
    ((p.releasedSequences k ack).map (p.slotOf k)).count i = p.newlyCredited k ack i := by
  have hreleased : ((p.sessions k).window.applyCredit ack).1.released =
      ack + 1 - (p.sessions k).window.creditedEnd := by
    obtain ⟨hle, -⟩ | ⟨-, hold, he⟩ | ⟨-, hnew, he⟩ := (p.sessions k).window.applyCredit_cases ack
    · omega
    · rw [he]
      dsimp only
      omega
    · rw [he]
  have hval : (Finset.Ico (p.sessions k).window.creditedEnd (ack + 1)).val =
      (p.releasedSequences k ack : Multiset ℕ) := by
    rw [releasedSequences, hreleased, Nat.Ico_eq_range']
  rw [newlyCredited, Finset.card, Finset.filter_val, hval, Multiset.filter_coe, Multiset.coe_card,
    ← List.countP_eq_length_filter, List.count, List.countP_map]
  rfl

lemma CreditEffect.refreshGauges {ack : ℕ} (h : p.CreditEffect p' k ack) :
    p.CreditEffect p'.refreshGauges k ack := by
  refine ⟨?_, h.counters, h.others, h.own, h.slots⟩
  have hsame := h.same
  unfold Publisher.refreshGauges
  rw [hsame]

lemma creditEffect_loop {ack : ℕ} (hack : ack < (p.sessions k).window.nextSequence) :
    p.CreditEffect ((p.releasedSequences k ack).foldl (creditSequence k) (p.moveWindow k ack))
      k ack := by
  have honly := creditSequences_slotsOnly k (p.releasedSequences k ack) (p.moveWindow k ack)
  have hsessions := congrArg Publisher.sessions honly.same
  have hslotOf : (p.moveWindow k ack).slotOf k = p.slotOf k := by
    funext q
    simp only [slotOf, Publisher.moveWindow, setSession_self]
    rfl
  refine ⟨?_, honly.counters, fun j hj => ?_, ?_, fun hsound => ?_⟩
  · have hsame := honly.same
    generalize (p.releasedSequences k ack).foldl (creditSequence k) (p.moveWindow k ack) = p'
      at hsame ⊢
    rw [hsame]
    rfl
  · rw [hsessions]
    exact p.setSession_of_ne _ hj
  · rw [hsessions, Publisher.moveWindow, setSession_self, CreditWindow.applyCredit_max, if_pos hack]
  · obtain ⟨-, hdropped⟩ := creditSequences_dropped _ hsound
    rw [hslotOf] at hdropped
    refine ⟨fun i => ?_, hdropped.freed⟩
    rw [← count_releasedSequences hack i]
    exact hdropped.refs i

lemma applyCredit_refused {ack : ℕ} (hack : (p.sessions k).window.nextSequence ≤ ack) :
    p.applyCredit k ack = p.bump .malformedMessages 1 := by
  unfold Publisher.applyCredit CreditWindow.applyCredit
  rw [if_pos hack, if_pos (by simp)]

lemma applyCredit_effect {ack : ℕ} (hack : ack < (p.sessions k).window.nextSequence) :
    p.CreditEffect (p.applyCredit k ack) k ack := by
  have hloop := creditEffect_loop hack
  have hok := CreditWindow.applyCredit_status hack
  unfold Publisher.applyCredit
  rw [if_neg (by simp [hok])]
  split_ifs
  · exact hloop.refreshGauges
  · exact hloop

/-! ### The session a credit names -/

/-- No two live seats share a stream id. -/
def StreamsDistinct (p : Publisher) : Prop :=
  ∀ j ∈ p.seats, ∀ k ∈ p.seats, (p.sessions j).state.live = true →
    (p.sessions k).state.live = true → (p.sessions j).streamId = (p.sessions k).streamId → j = k

lemma sessionForStream_none {streamId : UInt64}
    (h : streamId = 0 ∨ ∀ k ∈ p.seats, (p.sessions k).state.live = true →
      (p.sessions k).streamId ≠ streamId) : p.sessionForStream streamId = none := by
  unfold sessionForStream
  split_ifs with hzero
  · rfl
  · have hother := h.resolve_left hzero
    rw [List.find?_eq_none]
    intro k hk
    simpa using hother k hk

lemma StreamsDistinct.sessionForStream (h : p.StreamsDistinct) (hk : k ∈ p.seats)
    (hlive : (p.sessions k).state.live = true) (hzero : (p.sessions k).streamId ≠ 0) :
    p.sessionForStream (p.sessions k).streamId = some k := by
  cases hfound : p.sessionForStream (p.sessions k).streamId with
  | none =>
    unfold Publisher.sessionForStream at hfound
    rw [if_neg hzero, List.find?_eq_none] at hfound
    have hnot := hfound k hk
    simp [hlive] at hnot
  | some j =>
    obtain ⟨hj, hlive', hsame⟩ := sessionForStream_mem hfound
    rw [h j hj k hk hlive' hlive hsame]

end Publisher

/-! ### Runs with overlapping Opens -/

/-- A call as before, except that an Open may claim a seat whatever has become of it since it was
selected. -/
def racingStep (p : Publisher) : PublisherInput → Option (Publisher × List PublisherEvent)
  | .open k request fresh =>
    if k ∈ p.seats ∧ p.screenOpen request = .granted (p.clampGeometry request) then
      some (p.claimSeat k request fresh, [])
    else none
  | .openThrows k _ failure =>
    if k ∈ p.seats then some (p.abandonClaim k failure, []) else none
  | i => publisherStep p i

def racingMachine : Machine Publisher PublisherInput PublisherEvent := ⟨racingStep⟩

lemma racingStep_cases {p p' : Publisher} {i : PublisherInput} {es : List PublisherEvent}
    (hs : racingStep p i = some (p', es)) :
    publisherStep p i = some (p', es) ∨ p.Quiet p' ∨
      ∃ k request fresh, k ∈ p.seats ∧ p' = p.claimSeat k request fresh := by
  cases i with
  | «open» k request fresh =>
    rw [racingStep, Option.ite_none_right_eq_some] at hs
    obtain ⟨⟨hk, -⟩, heq⟩ := hs
    exact .inr (.inr ⟨k, request, fresh, hk, (of_some_eq heq).1.symm⟩)
  | openThrows k request failure =>
    obtain ⟨-, rfl, -⟩ := of_guard hs
    exact .inr (.inl (p.quiet_abandonClaim k failure))
  | _ => exact .inl hs

lemma racingStep_kept {p p' : Publisher} {i : PublisherInput} {es : List PublisherEvent}
    (h : ∃ extra, p.Kept extra) (hs : racingStep p i = some (p', es)) : ∃ extra, p'.Kept extra := by
  obtain ⟨extra, h⟩ := h
  obtain hs | hq | ⟨k, request, fresh, hk, rfl⟩ := racingStep_cases hs
  · exact ⟨extra, publisherStep_kept h hs⟩
  · exact ⟨extra, h.quiet hq⟩
  · exact ⟨_, h.claimTaken hk request fresh⟩

lemma racing_kept {c : PublisherConfig} (hc : c.validate = .ok) {epoch : UInt64}
    {address : Bytes} {trace : List PublisherEvent} {p : Publisher}
    (h : racingMachine.Reaches anyStep (Publisher.create c epoch address) trace p) :
    ∃ extra, p.Kept extra := by
  refine h.invariant (fun p => ∃ extra, p.Kept extra)
    ⟨[], Publisher.create_kept (PublisherConfig.validate_ok hc) epoch address⟩ ?_
  intro p i p' es hp _ hs
  exact racingStep_kept hp hs

/-- Whatever bytes arrive in whatever state: they change a counter only, or they are a credit for
one live session and have exactly its effect. No assertion of the release fails in a run, even
one whose Opens race. -/
theorem credit_touches_own_session {p : Publisher} (hdistinct : p.StreamsDistinct)
    (header : Bytes) :
    (∀ error, decodeCredit header = .error error →
      p.handleCredit header = p.bump .malformedMessages 1) ∧
    (∀ credit, decodeCredit header = .ok credit →
      ((credit.streamId = 0 ∨ ∀ k ∈ p.seats, (p.sessions k).state.live = true →
          (p.sessions k).streamId ≠ credit.streamId) →
        p.handleCredit header = p.bump .malformedMessages 1) ∧
      ∀ k ∈ p.seats, (p.sessions k).state.live = true →
        (p.sessions k).streamId = credit.streamId → credit.streamId ≠ 0 →
        ((p.sessions k).window.nextSequence ≤ credit.value.toNat →
          p.handleCredit header = p.bump .malformedMessages 1) ∧
        (credit.value.toNat < (p.sessions k).window.nextSequence →
          p.CreditEffect (p.handleCredit header) k credit.value.toNat)) ∧
    ∀ c epoch address trace, c.validate = .ok →
      racingMachine.Reaches anyStep (Publisher.create c epoch address) trace p →
      (p.handleCredit header).monitor.assertFailed = false := by
  refine ⟨fun error hdecode => ?_, fun credit hdecode => ⟨fun hnone => ?_, ?_⟩, ?_⟩
  · rw [Publisher.handleCredit, hdecode]
  · rw [Publisher.handleCredit, hdecode]
    dsimp only
    rw [Publisher.sessionForStream_none hnone]
  · intro k hk hlive hstream hzero
    have hcall : p.handleCredit header = p.applyCredit k credit.value.toNat := by
      rw [Publisher.handleCredit, hdecode]
      dsimp only
      rw [← hstream, hdistinct.sessionForStream hk hlive (hstream ▸ hzero)]
    rw [hcall]
    exact ⟨Publisher.applyCredit_refused, Publisher.applyCredit_effect⟩
  · intro c epoch address trace hvalid hreach
    obtain ⟨extra, hkept⟩ := racing_kept hvalid hreach
    exact (hkept.handleCredit header).counted.sound

/-- Two sessions hold the frame in slot 0; the credit of one leaves the other and the slot. -/
theorem credit_touches_own_session_sample :
    ∃ trace p, racingMachine.Reaches anyStep (Publisher.create sampleConfig 1 [1]) trace p ∧
      p.slotRefs 0 = 2 ∧ (p.handleCredit (sampleCredit 7 0)).sessions 1 = p.sessions 1 ∧
      (p.handleCredit (sampleCredit 7 0)).monitor.assertFailed = false := by
  obtain ⟨trace, p, hreach, hrefs, hdistinct, hseat, hlive, hstream, hwindow⟩ :=
    racingMachine.exists_of_run anyStep (Publisher.create sampleConfig 1 [1])
      [.open 0 sampleOpen (sampleFresh 7), .probeAck (sampleProbeAck 7),
        .open 1 sampleOpen (sampleFresh 8), .probeAck (sampleProbeAck 8), .acquire,
        .publish (some 0) sampleMetadata 5 false, .submit (fun _ => .completed)]
      (P := fun p _ => p.slotRefs 0 = 2 ∧
        (∀ j ∈ p.seats, ∀ k ∈ p.seats, (p.sessions j).state.live = true →
          (p.sessions k).state.live = true → (p.sessions j).streamId = (p.sessions k).streamId →
          j = k) ∧
        0 ∈ p.seats ∧ (p.sessions 0).state.live = true ∧ (p.sessions 0).streamId = 7 ∧
        0 < (p.sessions 0).window.nextSequence) (by decide +kernel)
  have hcredit : decodeCredit (sampleCredit 7 0) =
      .ok { generation := 1, streamId := 7, value := 0 } := by decide +kernel
  obtain ⟨-, hdecoded, hsound⟩ := credit_touches_own_session hdistinct (sampleCredit 7 0)
  obtain ⟨-, hlive'⟩ := hdecoded _ hcredit
  have heffect := (hlive' 0 hseat hlive hstream (by decide)).2 hwindow
  exact ⟨trace, p, hreach, hrefs, heffect.others 1 (by decide),
    hsound sampleConfig 1 [1] trace (by decide) hreach⟩

end TangoBulk
