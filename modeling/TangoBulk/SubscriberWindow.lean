import TangoBulk.SubscriberSafety

/-! The receiver's sequence window. The engine checks a frame against the occupied flag of
its slot and the released prefix only, so a peer that ignores its credit can make it commit
outside the window, commit a sequence twice, or acknowledge a view that is still alive. -/
namespace TangoBulk

open Transition Function

namespace ReceiveRing

/-- Every sequence that holds a slot is inside the window and not released. -/
structure Windowed (r : ReceiveRing) : Prop extends r.Accounted where
  tracked : r.tracker.WellFormed
  depth_le : r.depth ≤ r.tracker.ringDepth
  described : ∀ q ∈ r.leases ++ r.returns.items, r.holding (q % r.depth) = q
  fresh : ∀ q ∈ r.leases ++ r.returns.items,
    ¬ r.tracker.Released q ∧ q < r.tracker.releasedEnd + r.depth
  pendingFresh : ∀ k, r.pending k = true →
    ¬ r.tracker.Released (r.holding k) ∧ r.holding k < r.tracker.releasedEnd + r.depth

/-- The sequence is in its slot: received, or handed out and not yet drained. -/
def Holds (r : ReceiveRing) (q : ℕ) : Prop :=
  r.occupied (q % r.depth) = true ∧ r.holding (q % r.depth) = q

/-- A released sequence is not one that a slot holds, and a committed one is new. -/
def Respects (r : ReceiveRing) : RingAction → Prop
  | .drop q => ¬ r.Holds q
  | .deliver q _ | .start q _ =>
    q < r.tracker.releasedEnd + r.depth ∧ ¬ r.tracker.Released q
  | _ => True

variable {r : ReceiveRing}

lemma mem_heldSlots {q : ℕ} (h : q ∈ r.leases ++ r.returns.items) : q % r.depth ∈ r.heldSlots :=
  List.mem_map.mpr ⟨q, h, rfl⟩

lemma Windowed.holds (h : r.Windowed) {q : ℕ} (hq : q ∈ r.leases ++ r.returns.items) : r.Holds q :=
  ⟨(h.unique (mem_heldSlots hq)).2, h.described q hq⟩

lemma Accounted.pending_occupied (h : r.Accounted) {k : ℕ}
    (hk : r.pending k = true) : r.occupied k = true := by
  have hacc := h.account k
  rw [hk, Bool.toNat_true] at hacc
  cases ho : r.occupied k with
  | true => rfl
  | false =>
    rw [ho, Bool.toNat_false] at hacc
    omega

lemma Windowed.pending_holds (h : r.Windowed) {k : ℕ}
    (hk : r.pending k = true) : r.Holds (r.holding k) := by
  have hslot := h.held k hk
  constructor
  · rw [hslot]
    exact h.pending_occupied hk
  · rw [hslot]

lemma Windowed.pending_ne (h : r.Windowed) {k q : ℕ}
    (hk : r.pending k = true) (hq : q ∈ r.leases ++ r.returns.items) : r.holding k ≠ q := by
  intro heq
  have hslot := h.held k hk
  have hfree := (h.unique (mem_heldSlots hq)).1
  rw [← heq, hslot, hk] at hfree
  cases hfree

lemma fresh_release {t : ReleaseTracker} (ht : t.WellFormed) {d p q : ℕ} (hne : p ≠ q)
    (h : ¬ t.Released p ∧ p < t.releasedEnd + d) :
    ¬ (t.release q).2.Released p ∧ p < (t.release q).2.releasedEnd + d := by
  have hgrown := ReleaseTracker.release_grown ht q
  refine ⟨fun hp => h.1 ((ReleaseTracker.release_other ht hne).mp hp), ?_⟩
  omega

lemma mem_giveBack {q p : ℕ} {queue : Fifo ℕ} (live : q ∈ r.leases)
    (room : r.returns.push q = some queue) :
    p ∈ r.leases.erase q ++ queue.items ↔ p ∈ r.leases ++ r.returns.items := by
  obtain ⟨-, hitems, -⟩ := Fifo.push_eq_some.mp room
  have hperm := List.perm_cons_erase live
  rw [hitems, List.mem_append, List.mem_append, List.mem_append, List.mem_singleton,
    hperm.mem_iff, List.mem_cons]
  tauto

section Steps

variable {r : ReceiveRing} (h : r.Windowed)
include h

variable {q : ℕ} {queue : Fifo ℕ}

lemma windowed_release (hq : ¬ r.Holds q) :
    { r with tracker := (r.tracker.release q).2 }.Windowed where
  depth_pos := h.depth_pos
  account := h.account
  held := h.held
  room := h.room
  sound := h.sound
  tracked := ReleaseTracker.release_wellFormed h.tracked q
  depth_le := by
    rw [ReleaseTracker.release_depth h.tracked]
    exact h.depth_le
  described := h.described
  fresh := by
    intro p hp
    have hne : p ≠ q := by
      rintro rfl
      exact hq (h.holds hp)
    exact fresh_release h.tracked hne (h.fresh p hp)
  pendingFresh := by
    intro k hk
    have hne : r.holding k ≠ q := by
      rintro rfl
      exact hq (h.pending_holds hk)
    exact fresh_release h.tracked hne (h.pendingFresh k hk)

lemma windowed_describe (vacant : r.occupied (q % r.depth) = false) :
    { r with holding := update r.holding (q % r.depth) q }.Windowed := by
  obtain ⟨hpend, hfree⟩ := h.vacant vacant
  have hother : ∀ k, r.pending k = true →
      update r.holding (q % r.depth) q k = r.holding k := by
    intro k hk
    apply update_of_ne
    intro heq
    rw [heq, hpend] at hk
    cases hk
  refine ⟨⟨h.depth_pos, h.account, h.held_update vacant, h.room, h.sound⟩, h.tracked, h.depth_le,
    fun p hp => ?_, h.fresh, fun k hk => ?_⟩
  · have hne : p % r.depth ≠ q % r.depth := by
      intro heq
      exact hfree (heq ▸ mem_heldSlots hp)
    dsimp only
    rw [update_of_ne hne]
    exact h.described p hp
  · dsimp only
    rw [hother k hk]
    exact h.pendingFresh k hk

lemma windowed_deliver (vacant : r.occupied (q % r.depth) = false)
    (hin : q < r.tracker.releasedEnd + r.depth) (hnew : ¬ r.tracker.Released q) :
    { r with
      occupied := update r.occupied (q % r.depth) true
      holding := update r.holding (q % r.depth) q
      leases := q :: r.leases }.Windowed := by
  have hd := windowed_describe h vacant
  refine ⟨accounted_deliver h.toAccounted vacant, h.tracked, h.depth_le, fun p hp => ?_,
    fun p hp => ?_, hd.pendingFresh⟩
  · rcases List.mem_cons.mp hp with rfl | hp
    · exact update_self _ _ _
    · exact hd.described p hp
  · rcases List.mem_cons.mp hp with rfl | hp
    · exact ⟨hnew, hin⟩
    · exact h.fresh p hp

lemma windowed_start (vacant : r.occupied (q % r.depth) = false)
    (hin : q < r.tracker.releasedEnd + r.depth) (hnew : ¬ r.tracker.Released q) :
    { r with
      occupied := update r.occupied (q % r.depth) true
      holding := update r.holding (q % r.depth) q
      pending := update r.pending (q % r.depth) true }.Windowed := by
  have hd := windowed_describe h vacant
  refine ⟨accounted_start h.toAccounted vacant, h.tracked, h.depth_le, hd.described, h.fresh,
    fun k hk => ?_⟩
  dsimp only at hk ⊢
  by_cases heq : k = q % r.depth
  · subst heq
    rw [update_self]
    exact ⟨hnew, hin⟩
  · rw [update_of_ne heq] at hk ⊢
    exact h.pendingFresh k hk

lemma windowed_finish {k : ℕ} (started : r.pending k = true) :
    { r with
      pending := update r.pending k false
      leases := r.holding k :: r.leases }.Windowed := by
  refine ⟨accounted_finish h.toAccounted started, h.tracked, h.depth_le, fun p hp => ?_,
    fun p hp => ?_, fun j hj => ?_⟩
  · rcases List.mem_cons.mp hp with rfl | hp
    · exact congrArg r.holding (h.held k started)
    · exact h.described p hp
  · rcases List.mem_cons.mp hp with rfl | hp
    · exact h.pendingFresh k started
    · exact h.fresh p hp
  · have hne : j ≠ k := by
      rintro rfl
      simp at hj
    dsimp only at hj
    rw [update_of_ne hne] at hj
    exact h.pendingFresh j hj

lemma windowed_abort {k : ℕ} (started : r.pending k = true) :
    { r with
      pending := update r.pending k false
      occupied := update r.occupied k false }.Windowed := by
  refine ⟨accounted_abort h.toAccounted started, h.tracked, h.depth_le, h.described, h.fresh,
    fun j hj => ?_⟩
  have hne : j ≠ k := by
    rintro rfl
    simp at hj
  dsimp only at hj
  rw [update_of_ne hne] at hj
  exact h.pendingFresh j hj

lemma windowed_giveBack (live : q ∈ r.leases) (room : r.returns.push q = some queue) :
    { r with leases := r.leases.erase q, returns := queue }.Windowed :=
  ⟨accounted_giveBack h.toAccounted live room, h.tracked, h.depth_le,
    fun p hp => h.described p ((mem_giveBack live room).mp hp),
    fun p hp => h.fresh p ((mem_giveBack live room).mp hp), h.pendingFresh⟩

lemma drained_ne {p : ℕ} (oldest : r.returns.pop = some (q, queue))
    (hp : p ∈ r.leases ++ queue.items) : p ≠ q ∧ p ∈ r.leases ++ r.returns.items := by
  obtain ⟨hitems, -⟩ := Fifo.pop_eq_some.mp oldest
  have hnodup := h.nodup
  have hperm : (r.leases ++ q :: queue.items).Perm (q :: (r.leases ++ queue.items)) :=
    List.perm_middle
  rw [heldSlots, hitems, (hperm.map _).nodup_iff, List.map_cons, List.nodup_cons] at hnodup
  constructor
  · rintro rfl
    exact hnodup.1 (List.mem_map.mpr ⟨p, hp, rfl⟩)
  · rw [hitems]
    exact hperm.mem_iff.mpr (List.mem_cons_of_mem _ hp)

lemma windowed_drain (oldest : r.returns.pop = some (q, queue)) :
    { r with
      returns := queue
      occupied := update r.occupied (q % r.depth) false
      tracker := (r.tracker.release q).2 }.Windowed := by
  have hmem : q ∈ r.leases ++ r.returns.items := by
    rw [(Fifo.pop_eq_some.mp oldest).1]
    simp
  refine ⟨accounted_drain h.toAccounted oldest, ReleaseTracker.release_wellFormed h.tracked q, ?_,
    fun p hp => ?_, fun p hp => ?_, fun k hk => ?_⟩
  · rw [ReleaseTracker.release_depth h.tracked]
    exact h.depth_le
  · exact h.described p (drained_ne h oldest hp).2
  · obtain ⟨hne, hp⟩ := drained_ne h oldest hp
    exact fresh_release h.tracked hne (h.fresh p hp)
  · exact fresh_release h.tracked (h.pending_ne hk hmem) (h.pendingFresh k hk)

lemma windowed_ack (last : ℕ) (sent : Bool) :
    { r with tracker := { r.tracker with lastAckSent := last, ackSent := sent } }.Windowed :=
  ⟨⟨h.depth_pos, h.account, h.held, h.room, h.sound⟩,
    ReleaseTracker.wellFormed_ack h.tracked last sent, h.depth_le, h.described, h.fresh,
    h.pendingFresh⟩

end Steps

end ReceiveRing

variable {r' : ReceiveRing} {a : RingAction} {es trace : List SubscriberEvent} {q : ℕ}

lemma RingStep.windowed {r : ReceiveRing} (h : r.Windowed) (ha : r.Respects a)
    (hs : RingStep r a r' es) : r'.Windowed := by
  cases hs with
  | idle => exact h
  | drop q => exact ReceiveRing.windowed_release h ha
  | refuse q vacant => exact ReceiveRing.windowed_describe h vacant
  | discard q vacant =>
    apply ReceiveRing.windowed_release (ReceiveRing.windowed_describe h vacant)
    intro hholds
    rw [ReceiveRing.Holds] at hholds
    simp [vacant] at hholds
  | deliver q n vacant above => exact ReceiveRing.windowed_deliver h vacant ha.1 ha.2
  | start q n vacant above => exact ReceiveRing.windowed_start h vacant ha.1 ha.2
  | finish k started => exact ReceiveRing.windowed_finish h started
  | abort k started => exact ReceiveRing.windowed_abort h started
  | giveBack q live queue room => exact ReceiveRing.windowed_giveBack h live room
  | overflow q live full => exact absurd full (h.not_full live)
  | drain q queue oldest => exact ReceiveRing.windowed_drain h oldest
  | ack a sent accepted offered =>
    obtain htake | ⟨-, htake⟩ := r.tracker.takePendingAck_cases
    · rw [htake] at offered
      cases offered
    · rw [htake]
      exact ReceiveRing.windowed_ack h _ accepted
  | ackFailed => exact ReceiveRing.windowed_ack h _ false

/-! ### What a run commits and acknowledges -/

def committedSequences (trace : List SubscriberEvent) : List ℕ :=
  trace.filterMap fun event =>
    match event with
    | .committed q => some q
    | _ => none

lemma mem_committedSequences : q ∈ committedSequences trace ↔ .committed q ∈ trace := by
  rw [committedSequences, List.mem_filterMap]
  constructor
  · rintro ⟨event, hmem, hevent⟩
    cases event with
    | committed =>
      cases hevent
      exact hmem
    | _ => cases hevent
  · intro hmem
    exact ⟨_, hmem, rfl⟩

namespace ReceiveRing

/-- Released, or on its way to be. -/
def Covered (r : ReceiveRing) (q : ℕ) : Prop :=
  r.tracker.Released q ∨ q ∈ r.leases ++ r.returns.items

end ReceiveRing

lemma RingStep.committed_fresh {r : ReceiveRing} (h : r.Windowed) (ha : r.Respects a)
    (hs : RingStep r a r' es) (hq : .committed q ∈ es) :
    (r.tracker.releasedEnd ≤ q ∧ q < r.tracker.releasedEnd + r.depth) ∧ ¬ r.Covered q ∧
      r'.Covered q ∧ committedSequences es = [q] := by
  cases hs with
  | deliver p n vacant above =>
    simp only [List.mem_cons, reduceCtorEq, SubscriberEvent.committed.injEq, List.not_mem_nil,
      or_false, false_or] at hq
    subst hq
    refine ⟨⟨above, ha.1⟩, ?_, .inr (by simp), rfl⟩
    rintro (hrel | hheld)
    · exact ha.2 hrel
    · exact (h.vacant vacant).2 (ReceiveRing.mem_heldSlots hheld)
  | finish k started =>
    simp only [List.mem_singleton, SubscriberEvent.committed.injEq] at hq
    subst hq
    obtain ⟨hnew, hin⟩ := h.pendingFresh k started
    have habove : r.tracker.releasedEnd ≤ r.holding k := by
      by_contra hlt
      exact hnew (.inl (by omega))
    refine ⟨⟨habove, hin⟩, ?_, .inr (by simp), rfl⟩
    rintro (hrel | hheld)
    · exact hnew hrel
    · exact h.pending_ne started hheld rfl
  | _ => simp at hq

lemma committedSequences_nil (hnone : ∀ q, .committed q ∉ es) : committedSequences es = [] := by
  rw [List.eq_nil_iff_forall_not_mem]
  intro q hq
  exact hnone q (mem_committedSequences.mp hq)

lemma RingStep.covered {r : ReceiveRing} (h : r.Windowed)
    (hfit : r.tracker.releasedEnd + r.tracker.ringDepth < 2 ^ 64) (hs : RingStep r a r' es)
    (hq : r.Covered q) : r'.Covered q := by
  cases hs with
  | drop p | discard p vacant => exact hq.imp_left (ReleaseTracker.release_mono h.tracked)
  | deliver p n vacant above | finish k started => exact hq.imp_right (List.mem_cons_of_mem _)
  | giveBack p live queue room => exact hq.imp_right (ReceiveRing.mem_giveBack live room).mpr
  | overflow p live full => exact absurd full (h.not_full live)
  | drain p queue oldest =>
    obtain ⟨hitems, -⟩ := Fifo.pop_eq_some.mp oldest
    rcases hq with hrel | hheld
    · exact .inl (ReleaseTracker.release_mono h.tracked hrel)
    · have hin := (h.fresh q hheld).2
      have hdepth := h.depth_le
      rw [hitems, List.perm_middle.mem_iff, List.mem_cons] at hheld
      rcases hheld with rfl | hheld
      · exact .inl (ReleaseTracker.release_self h.tracked (by omega) hfit)
      · exact .inr hheld
  | ack a sent accepted offered =>
    obtain htake | ⟨-, htake⟩ := r.tracker.takePendingAck_cases
    · rw [htake] at offered
      cases offered
    · rw [htake]
      exact hq
  | _ => exact hq

lemma RingStep.acked_below {r : ReceiveRing} (h : r.Windowed) (hs : RingStep r a r' es) {ack : ℕ}
    (hack : .acked ack ∈ es) : ∀ q ∈ r.leases, ack < q := by
  cases hs with
  | ack b sent accepted offered =>
    have hb : ack = b := by simpa using hack
    subst hb
    intro q hq
    have hnew := (h.fresh q (List.mem_append_left _ hq)).1
    have habove : r.tracker.releasedEnd ≤ q := by
      by_contra hlt
      exact hnew (.inl (by omega))
    obtain htake | ⟨hne, htake⟩ := r.tracker.takePendingAck_cases
    · rw [htake] at offered
      cases offered
    · rw [htake] at offered
      have hval : r.tracker.releasedEnd - 1 = ack := Option.some.inj offered
      have hstart := h.tracked.started
      omega
  | _ => simp at hack

/-- The trace commits no sequence twice, and each committed one is accounted for. -/
structure CommittedOnce (trace : List SubscriberEvent) (r : ReceiveRing) : Prop where
  nodup : (committedSequences trace).Nodup
  covered : ∀ q ∈ committedSequences trace, r.Covered q

lemma RingStep.committedOnce {r : ReceiveRing} (h : r.Windowed) (ha : r.Respects a)
    (hfit : r.tracker.releasedEnd + r.tracker.ringDepth < 2 ^ 64) (hs : RingStep r a r' es)
    (ht : CommittedOnce trace r) : CommittedOnce (trace ++ es) r' := by
  have happ : committedSequences (trace ++ es) =
      committedSequences trace ++ committedSequences es := List.filterMap_append
  by_cases hnone : ∀ q, .committed q ∉ es
  · rw [committedSequences_nil hnone, List.append_nil] at happ
    constructor
    · rw [happ]
      exact ht.nodup
    · intro q hq
      rw [happ] at hq
      exact hs.covered h hfit (ht.covered q hq)
  · obtain ⟨q, hq⟩ := not_forall.mp hnone
    obtain ⟨-, hnew, hcov, hes⟩ := hs.committed_fresh h ha (not_not.mp hq)
    rw [hes] at happ
    constructor
    · rw [happ, List.nodup_append]
      refine ⟨ht.nodup, List.nodup_singleton q, ?_⟩
      intro p hp b hb heq
      rw [List.mem_singleton] at hb
      exact hnew (hb ▸ heq ▸ ht.covered p hp)
    · intro p hp
      rw [happ, List.mem_append, List.mem_singleton] at hp
      rcases hp with hp | rfl
      · exact hs.covered h hfit (ht.covered p hp)
      · exact hcov

/-! ### The engine -/

namespace SubscriberEngine

/-- A frame that will be taken is a new sequence of the window or lies below it, and one that
will be dropped does not name the sequence its slot holds. -/
def frameKeepsWindow (e : SubscriberEngine) (frame : FrameHeader) (length : ℕ) : Bool :=
  let q := frame.sequence.toNat
  if e.fits frame length then
    q < e.tracker.releasedEnd + e.depth ∧
      (q < e.tracker.releasedEnd ∨ e.tracker.test q = false)
  else
    !((e.slots (q % e.depth)).occupied ∧ (e.slots (q % e.depth)).fields.sequence = q)

/-- The peer keeps to its credit window, and the window end fits 64 bits. -/
def windowRespected (e : SubscriberEngine) (i : SubscriberInput) : Bool :=
  decide (e.tracker.releasedEnd + e.tracker.ringDepth < 2 ^ 64) &&
    match i with
    | .frame header length _ =>
      match decodeFrame header with
      | .error _ => true
      | .ok frame =>
        frame.streamId != e.streamId || frame.generation != e.granted.generation ||
          e.frameKeepsWindow frame length
    | _ => true

variable {e : SubscriberEngine} {i : SubscriberInput}

lemma windowRespected_fits (h : e.windowRespected i = true) :
    e.ring.tracker.releasedEnd + e.ring.tracker.ringDepth < 2 ^ 64 := by
  unfold windowRespected at h
  rw [Bool.and_eq_true] at h
  exact of_decide_eq_true h.1

lemma windowRespected_frame {frame : FrameHeader} {length : ℕ} (h : e.windowRespected i = true)
    (hf : FrameOf e i frame length) : e.frameKeepsWindow frame length = true := by
  obtain ⟨⟨header, arrival, rfl, hdecode⟩, -, hstream, hepoch⟩ := hf
  rw [windowRespected, Bool.and_eq_true] at h
  simpa [hdecode, hstream, hepoch] using h.2

lemma respects_of_windowRespected {a : RingAction} {r' : ReceiveRing} {es : List SubscriberEvent}
    (h : e.windowRespected i = true) (ha : Explains e i a) (hs : RingStep e.ring a r' es) :
    e.ring.Respects a := by
  have htaken : ∀ {frame : FrameHeader} {length : ℕ}, FrameOf e i frame length →
      e.fits frame length = true → e.tracker.releasedEnd ≤ frame.sequence.toNat →
      frame.sequence.toNat < e.tracker.releasedEnd + e.depth ∧
        ¬ e.tracker.Released frame.sequence.toNat := by
    intro frame length hf hfits habove
    have hkeeps := windowRespected_frame h hf
    simp only [frameKeepsWindow, hfits, if_true, decide_eq_true_eq] at hkeeps
    refine ⟨hkeeps.1, ?_⟩
    rintro (hlt | ⟨-, htest⟩)
    · omega
    · rcases hkeeps.2 with hlt | hclear
      · omega
      · rw [hclear] at htest
        cases htest
  cases hs with
  | drop =>
    obtain ⟨frame, length, hf, rfl, hfits⟩ := ha
    have hkeeps := windowRespected_frame h hf
    simp only [frameKeepsWindow, hfits, Bool.false_eq_true, if_false, Bool.not_eq_true',
      decide_eq_false_iff_not] at hkeeps
    exact hkeeps
  | deliver q n vacant above | start q n vacant above =>
    obtain ⟨frame, length, hf, rfl, hfits, rfl⟩ := ha
    exact htaken hf hfits above
  | _ => trivial

end SubscriberEngine

lemma SubscriberEngine.activate_windowed {ringDepth : ℕ} {granted : GeometryBlock}
    (maxFrameBytes : ℕ) (receiveMemoryKind : MemoryKind) (streamId : UInt64)
    (hpos : 0 < granted.ringDepth.toNat) (hle : granted.ringDepth.toNat ≤ ringDepth) :
    (activate ringDepth maxFrameBytes receiveMemoryKind streamId granted).ring.Windowed := by
  have hring : 0 < ringDepth := lt_of_lt_of_le hpos hle
  have htracker : (activate ringDepth maxFrameBytes receiveMemoryKind streamId granted).ring.tracker =
      ReleaseTracker.create ringDepth :=
    ReleaseTracker.reset_eq (ReleaseTracker.create_wellFormed hring) 0
  refine ⟨activate_accounted _ _ _ hpos hle, ?_, ?_, fun q hq => ?_, fun q hq => ?_, fun k hk => ?_⟩
  · rw [htracker]
    exact ReleaseTracker.create_wellFormed hring
  · rw [htracker]
    exact hle
  · cases hq
  · cases hq
  · cases hk

lemma SubscriberSession.start_windowed (s : SubscriberSession) : s.start.ring.Windowed :=
  SubscriberEngine.activate_windowed _ _ _ s.depth_pos s.depth_le

lemma SubscriberSession.reach_windowed (s : SubscriberSession) {e : SubscriberEngine}
    (h : subscriberMachine.Reaches (fun e i => e.windowRespected i = true) s.start trace e) :
    e.ring.Windowed ∧ CommittedOnce trace e.ring := by
  refine h.traceInvariant (fun trace e => e.ring.Windowed ∧ CommittedOnce trace e.ring)
    ⟨s.start_windowed, List.nodup_nil, nofun⟩ ?_
  rintro trace e i e' es ⟨hwin, honce⟩ hok hstep
  obtain ⟨a, hring, hexplain, -⟩ :=
    subscriberStep_refines (Nat.pos_iff_ne_zero.mp hwin.depth_pos) hstep
  have hresp := SubscriberEngine.respects_of_windowRespected hok hexplain hring
  exact ⟨hring.windowed hwin hresp,
    hring.committedOnce hwin hresp (SubscriberEngine.windowRespected_fits hok) honce⟩

/-- What one step may commit and acknowledge. -/
structure WindowKept (e : SubscriberEngine) (es : List SubscriberEvent) : Prop where
  commits : ∀ q, .committed q ∈ es →
    e.tracker.releasedEnd ≤ q ∧ q < e.tracker.releasedEnd + e.depth
  acks : ∀ ack, .acked ack ∈ es → ∀ q ∈ e.leases, ack < q

/-- Against a peer that respects the window, every step of every run commits inside the
window and acknowledges no live view, and no sequence is committed twice. -/
theorem window_enforced (s : SubscriberSession) {trace : List SubscriberEvent}
    {e : SubscriberEngine}
    (h : subscriberMachine.Reaches (fun e i => e.windowRespected i = true) s.start trace e) :
    (committedSequences trace).Nodup ∧
    ∀ i e' es, e.windowRespected i = true → subscriberMachine.step e i = some (e', es) →
      WindowKept e es := by
  obtain ⟨hwin, honce⟩ := s.reach_windowed h
  refine ⟨honce.nodup, fun i e' es hok hstep => ?_⟩
  obtain ⟨a, hring, hexplain, -⟩ :=
    subscriberStep_refines (Nat.pos_iff_ne_zero.mp hwin.depth_pos) hstep
  have hresp := SubscriberEngine.respects_of_windowRespected hok hexplain hring
  constructor
  · intro q hq
    exact (hring.committed_fresh hwin hresp hq).1
  · intro ack hack
    exact hring.acked_below hwin hack

/-- A run that delivers both sequences of the window out of order and acknowledges them. -/
theorem window_enforced_sample :
    ∃ trace e, subscriberMachine.Reaches (fun e i => e.windowRespected i = true)
        sampleSession.start trace e ∧ committedSequences trace = [1, 0] ∧
      (committedSequences trace).Nodup ∧
      ∀ i e' es, e.windowRespected i = true → subscriberMachine.step e i = some (e', es) →
        WindowKept e es := by
  obtain ⟨trace, e, hreach, hstate⟩ :=
    subscriberMachine.exists_of_run (fun e i => e.windowRespected i = true) sampleSession.start
      [.frame (sampleFrame 1) 4096 .eager, .frame (sampleFrame 0) 4096 .eager, .releaseView 1,
        .releaseView 0, .drain, .drain, .sendCredit true]
      (P := fun _ t => committedSequences t = [1, 0]) (by decide +kernel)
  exact ⟨trace, e, hreach, hstate, window_enforced sampleSession hreach⟩

lemma step_frame (e : SubscriberEngine) (header : ByteString.Bytes) (length : ℕ)
    (arrival : Arrival) :
    subscriberMachine.step e (.frame header length arrival) =
      some ((e.handleFrame header length arrival).1, (e.handleFrame header length arrival).2) :=
  rfl

/-- A peer without credit makes the engine commit outside the window, commit a sequence it
released ahead of the prefix a second time, and acknowledge a view that is still alive. -/
theorem window_not_enforced :
    (∃ trace e i e' es, subscriberMachine.Reaches anyStep sampleSession.start trace e ∧
      subscriberMachine.step e i = some (e', es) ∧
      ∃ q, .committed q ∈ es ∧ e.tracker.releasedEnd + e.depth ≤ q) ∧
    (∃ trace e, subscriberMachine.Reaches anyStep sampleSession.start trace e ∧
      ¬ (committedSequences trace).Nodup) ∧
    (∃ trace e i e' es, subscriberMachine.Reaches anyStep sampleSession.start trace e ∧
      subscriberMachine.step e i = some (e', es) ∧
      ∃ ack, .acked ack ∈ es ∧ ∃ q ∈ e.leases, q ≤ ack) := by
  refine ⟨?_, ?_, ?_⟩
  · refine ⟨[], sampleSession.start, _, _, _, .start,
      step_frame sampleSession.start (sampleFrame 5) 4096 .eager, 5, ?_⟩
    decide +kernel
  · exact subscriberMachine.exists_of_run anyStep sampleSession.start
      [.frame (sampleFrame 1) 4096 .eager, .releaseView 1, .drain,
        .frame (sampleFrame 1) 4096 .eager]
      (P := fun _ t => ¬ (committedSequences t).Nodup) (by decide +kernel)
  · obtain ⟨trace, e, hreach, hstate⟩ :=
      subscriberMachine.exists_of_run anyStep sampleSession.start
        [.frame (sampleFrame 0) 4096 .eager, .frame (sampleFrame 0) 1 .eager]
        (P := fun e _ => e.closing = false ∧ .acked 0 ∈ (e.sendPendingCredit true).2 ∧
          0 ∈ e.leases) (by decide +kernel)
    have hstep : subscriberMachine.step e (.sendCredit true) =
        some ((e.sendPendingCredit true).1, (e.sendPendingCredit true).2) := by
      simp only [subscriberMachine, subscriberStep, hstate.1, Bool.false_eq_true, if_false]
    exact ⟨trace, e, _, _, _, hreach, hstep, 0, hstate.2.1, 0, hstate.2.2, le_refl 0⟩

end TangoBulk
