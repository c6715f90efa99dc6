import TangoBulk.SubscriberRing
import Mathlib.Data.List.NodupEquivFin
import Mathlib.Data.Fintype.Card

/-! Receive-slot safety, whatever the peer sends: each occupied slot is held by exactly one
pending rendezvous, live view or returned credit, so a frame is only written into a slot
nobody else uses. -/
namespace TangoBulk

open Transition Function

/-! ### The ring -/

namespace ReceiveRing

/-- The slots of the sequences that live views and returned credits name. -/
def heldSlots (r : ReceiveRing) : List ℕ := (r.leases ++ r.returns.items).map (· % r.depth)

/-- Each slot's flag counts its holders. -/
structure Accounted (r : ReceiveRing) : Prop where
  depth_pos : 0 < r.depth
  account : ∀ k, r.heldSlots.count k + (r.pending k).toNat = (r.occupied k).toNat
  held : ∀ k, r.pending k = true → r.holding k % r.depth = k
  room : r.depth ≤ r.returns.capacity
  sound : r.overflowed = false

lemma Accounted.nodup {r : ReceiveRing} (h : r.Accounted) : r.heldSlots.Nodup := by
  rw [List.nodup_iff_count_le_one]
  intro k
  have hk := h.account k
  have hle := Bool.toNat_le (r.occupied k)
  omega

lemma Accounted.length_le {r : ReceiveRing} (h : r.Accounted) :
    (r.leases ++ r.returns.items).length ≤ r.depth := by
  have hsub : r.heldSlots ⊆ List.range r.depth := by
    intro k hk
    obtain ⟨q, -, rfl⟩ := List.mem_map.mp hk
    exact List.mem_range.mpr (Nat.mod_lt _ h.depth_pos)
  have hle := (h.nodup.subperm hsub).length_le
  simpa [heldSlots] using hle

lemma Accounted.vacant {r : ReceiveRing} (h : r.Accounted) {k : ℕ}
    (hk : r.occupied k = false) : r.pending k = false ∧ k ∉ r.heldSlots := by
  have hacc := h.account k
  rw [hk, Bool.toNat_false] at hacc
  refine ⟨?_, ?_⟩
  · cases hp : r.pending k with
    | false => rfl
    | true => rw [hp, Bool.toNat_true] at hacc; omega
  · rw [← List.count_eq_zero]
    omega

lemma Accounted.unique {r : ReceiveRing} (h : r.Accounted) {k : ℕ} (hk : k ∈ r.heldSlots) :
    r.pending k = false ∧ r.occupied k = true := by
  have hacc := h.account k
  have hpos := List.count_pos_iff.mpr hk
  have hle := Bool.toNat_le (r.occupied k)
  refine ⟨?_, ?_⟩
  · cases hp : r.pending k with
    | false => rfl
    | true => rw [hp, Bool.toNat_true] at hacc; omega
  · cases ho : r.occupied k with
    | true => rfl
    | false => rw [ho, Bool.toNat_false] at hacc; omega

end ReceiveRing

section Steps

variable {r : ReceiveRing} (h : r.Accounted)
include h

variable {k q : ℕ}

lemma ReceiveRing.Accounted.held_update (vacant : r.occupied k = false) (j : ℕ)
    (hj : r.pending j = true) : update r.holding k q j % r.depth = j := by
  have hne : j ≠ k := by
    rintro rfl
    rw [(h.vacant vacant).1] at hj
    cases hj
  rw [update_of_ne hne]
  exact h.held j hj

lemma accounted_deliver (vacant : r.occupied (q % r.depth) = false) :
    { r with
      occupied := update r.occupied (q % r.depth) true
      holding := update r.holding (q % r.depth) q
      leases := q :: r.leases }.Accounted := by
  refine ⟨h.depth_pos, fun j => ?_, h.held_update vacant, h.room, h.sound⟩
  have hj := h.account j
  simp only [ReceiveRing.heldSlots, List.cons_append, List.map_cons] at hj ⊢
  by_cases hk : j = q % r.depth
  · subst hk
    rw [vacant, Bool.toNat_false] at hj
    rw [List.count_cons_self, update_self, Bool.toNat_true]
    omega
  · rw [List.count_cons_of_ne (Ne.symm hk), update_of_ne hk]
    exact hj

lemma accounted_start (vacant : r.occupied (q % r.depth) = false) :
    { r with
      occupied := update r.occupied (q % r.depth) true
      holding := update r.holding (q % r.depth) q
      pending := update r.pending (q % r.depth) true }.Accounted := by
  obtain ⟨-, hfree⟩ := h.vacant vacant
  refine ⟨h.depth_pos, fun j => ?_, fun j hj => ?_, h.room, h.sound⟩
  · by_cases hk : j = q % r.depth
    · subst hk
      dsimp only
      rw [update_self, update_self]
      have hzero := List.count_eq_zero.mpr hfree
      exact Nat.add_eq_right.mpr hzero
    · dsimp only
      rw [update_of_ne hk, update_of_ne hk]
      exact h.account j
  · by_cases hk : j = q % r.depth
    · subst hk
      simp
    · dsimp only at hj ⊢
      rw [update_of_ne hk] at hj ⊢
      exact h.held j hj

lemma accounted_finish (started : r.pending k = true) :
    { r with
      pending := update r.pending k false
      leases := r.holding k :: r.leases }.Accounted := by
  refine ⟨h.depth_pos, fun j => ?_, fun j hj => ?_, h.room, h.sound⟩
  · have hj := h.account j
    simp only [ReceiveRing.heldSlots, List.cons_append, List.map_cons, h.held k started] at hj ⊢
    by_cases hk : j = k
    · subst hk
      rw [started, Bool.toNat_true] at hj
      rw [List.count_cons_self, update_self, Bool.toNat_false]
      exact hj
    · rw [List.count_cons_of_ne (Ne.symm hk), update_of_ne hk]
      exact hj
  · have hk : j ≠ k := by
      rintro rfl
      simp at hj
    dsimp only at hj ⊢
    rw [update_of_ne hk] at hj
    exact h.held j hj

lemma accounted_abort (started : r.pending k = true) :
    { r with
      pending := update r.pending k false
      occupied := update r.occupied k false }.Accounted := by
  refine ⟨h.depth_pos, fun j => ?_, fun j hj => ?_, h.room, h.sound⟩
  · have hj := h.account j
    have hle := Bool.toNat_le (r.occupied j)
    by_cases hk : j = k
    · subst hk
      rw [started, Bool.toNat_true] at hj
      have hzero : r.heldSlots.count j = 0 := by omega
      dsimp only
      rw [update_self, update_self]
      exact hzero
    · dsimp only
      rw [update_of_ne hk, update_of_ne hk]
      exact hj
  · have hk : j ≠ k := by
      rintro rfl
      simp at hj
    dsimp only at hj ⊢
    rw [update_of_ne hk] at hj
    exact h.held j hj

lemma accounted_giveBack {queue : Fifo ℕ} (live : q ∈ r.leases)
    (room : r.returns.push q = some queue) :
    { r with leases := r.leases.erase q, returns := queue }.Accounted := by
  obtain ⟨-, hitems, hcap⟩ := Fifo.push_eq_some.mp room
  have hperm : (r.leases.erase q ++ queue.items).Perm (r.leases ++ r.returns.items) := by
    rw [hitems, ← List.append_assoc]
    exact (List.perm_append_singleton q _).trans
      ((List.perm_cons_erase live).symm.append_right _)
  refine ⟨h.depth_pos, fun j => ?_, h.held, by rw [hcap]; exact h.room, h.sound⟩
  rw [ReceiveRing.heldSlots, (hperm.map _).count_eq]
  exact h.account j

lemma ReceiveRing.Accounted.not_full (live : q ∈ r.leases) : r.returns.push q ≠ none := by
  intro hfull
  have hcap := Fifo.push_eq_none.mp hfull
  have hlen := h.length_le
  have hpos := List.length_pos_of_mem live
  have hroom := h.room
  rw [List.length_append] at hlen
  omega

lemma accounted_drain {queue : Fifo ℕ} (oldest : r.returns.pop = some (q, queue)) :
    { r with
      returns := queue
      occupied := update r.occupied (q % r.depth) false
      tracker := (r.tracker.release q).2 }.Accounted := by
  obtain ⟨hitems, hcap⟩ := Fifo.pop_eq_some.mp oldest
  refine ⟨h.depth_pos, fun j => ?_, h.held, by rw [hcap]; exact h.room, h.sound⟩
  have hj := h.account j
  have hle := Bool.toNat_le (r.occupied j)
  simp only [ReceiveRing.heldSlots, hitems, List.map_append, List.map_cons, List.count_append]
    at hj ⊢
  by_cases hk : j = q % r.depth
  · subst hk
    rw [List.count_cons_self] at hj
    rw [update_self, Bool.toNat_false]
    omega
  · rw [List.count_cons_of_ne (Ne.symm hk)] at hj
    rw [update_of_ne hk]
    exact hj

lemma RingStep.accounted {r' : ReceiveRing} {a : RingAction} {es : List SubscriberEvent}
    (hs : RingStep r a r' es) : r'.Accounted := by
  cases hs with
  | idle => exact h
  | drop => exact ⟨h.depth_pos, h.account, h.held, h.room, h.sound⟩
  | refuse q vacant | discard q vacant =>
    exact ⟨h.depth_pos, h.account, h.held_update vacant, h.room, h.sound⟩
  | deliver q n vacant => exact accounted_deliver h vacant
  | start q n vacant => exact accounted_start h vacant
  | finish k started => exact accounted_finish h started
  | abort k started => exact accounted_abort h started
  | giveBack q live queue room => exact accounted_giveBack h live room
  | overflow q live full => exact absurd full (h.not_full live)
  | drain q queue oldest => exact accounted_drain h oldest
  | ack | ackFailed =>
    exact ⟨h.depth_pos, h.account, h.held, h.room, h.sound⟩

lemma RingStep.wrote_free {r' : ReceiveRing} {a : RingAction} {es : List SubscriberEvent}
    (hs : RingStep r a r' es) {n : ℕ} (hw : .wrote k n ∈ es) :
    k < r.depth ∧ r.pending k = false ∧ k ∉ r.heldSlots ∧
      ∃ q, a = .deliver q n ∨ a = .start q n := by
  cases hs with
  | deliver q m vacant =>
    simp only [List.mem_cons, SubscriberEvent.wrote.injEq, reduceCtorEq, List.not_mem_nil,
      or_false] at hw
    obtain ⟨rfl, rfl⟩ := hw
    exact ⟨Nat.mod_lt _ h.depth_pos, (h.vacant vacant).1, (h.vacant vacant).2, q, .inl rfl⟩
  | start q m vacant =>
    simp only [List.mem_singleton, SubscriberEvent.wrote.injEq] at hw
    obtain ⟨rfl, rfl⟩ := hw
    exact ⟨Nat.mod_lt _ h.depth_pos, (h.vacant vacant).1, (h.vacant vacant).2, q, .inr rfl⟩
  | _ => simp at hw

end Steps

/-! ### The engine -/

/-- What a session runs with and no step changes. -/
structure ReceiveConfig where
  granted : GeometryBlock
  streamId : UInt64
  ringDepth : ℕ
  capacity : ℕ → ℕ

namespace SubscriberEngine

def config (e : SubscriberEngine) : ReceiveConfig where
  granted := e.granted
  streamId := e.streamId
  ringDepth := e.ringDepth
  capacity := fun k => (e.slots k).capacity

lemma config_setSlot {e : SubscriberEngine} {k : ℕ} {slot : ReceiveSlot}
    (hc : slot.capacity = (e.slots k).capacity) : (e.setSlot k slot).config = e.config := by
  have hcap : (fun j => (update e.slots k slot j).capacity) =
      fun j => (e.slots j).capacity := by
    funext j
    by_cases hj : j = k
    · subst hj
      rw [update_self, hc]
    · rw [update_of_ne hj]
  simp only [config, setSlot, hcap]

lemma config_vacate (e : SubscriberEngine) (k : ℕ) : (e.vacate k).config = e.config :=
  config_setSlot rfl

lemma config_receive (e : SubscriberEngine) (frame : FrameHeader) (k length : ℕ)
    (arrival : Arrival) : (e.receive frame k length arrival).1.config = e.config := by
  have hclaim : (e.claimSlot frame k).config = e.config := config_setSlot rfl
  have hvacate : ((e.claimSlot frame k).vacate k).config = e.config :=
    (config_vacate _ k).trans hclaim
  cases arrival with
  | rndv answer =>
    cases answer with
    | refused => exact hvacate
    | completed | inProgress => exact hclaim
  | eager =>
    unfold receive
    split_ifs
    · exact hvacate
    · exact hclaim

lemma config_handleFrame (e : SubscriberEngine) (header : ByteString.Bytes) (length : ℕ)
    (arrival : Arrival) : (e.handleFrame header length arrival).1.config = e.config := by
  unfold handleFrame handleSessionFrame
  dsimp only
  split_ifs
  · rfl
  · split
    · rfl
    · split_ifs
      · rfl
      · rfl
      · rfl
      · rfl
      · rfl
      · rfl
      · exact config_receive e _ _ _ _

end SubscriberEngine

lemma subscriberStep_config {e e' : SubscriberEngine} {i : SubscriberInput}
    {es : List SubscriberEvent} (h : subscriberStep e i = some (e', es)) :
    e'.config = e.config := by
  cases i with
  | frame header length arrival =>
    obtain ⟨rfl, -⟩ := Transition.of_some_eq h
    exact e.config_handleFrame header length arrival
  | rndvComplete k success =>
    obtain ⟨-, rfl, -⟩ := Transition.of_guard h
    cases success with
    | true => rfl
    | false =>
      exact SubscriberEngine.config_vacate
        { e with pending := update e.pending k false, rndvInflight := e.rndvInflight - 1 } k
  | releaseView =>
    obtain ⟨-, rfl, -⟩ := Transition.of_guard h
    unfold SubscriberEngine.releaseView SubscriberEngine.returnCredit
    split <;> rfl
  | drain =>
    simp only [subscriberStep] at h
    split_ifs at h
    obtain ⟨⟨q, queue⟩, -, heq⟩ := Option.map_eq_some_iff.mp h
    obtain rfl : _ = e' := congrArg Prod.fst heq
    split_ifs
    · exact SubscriberEngine.config_vacate { e with creditReturns := queue } (q % e.depth)
    · rfl
  | sendCredit =>
    simp only [subscriberStep] at h
    split_ifs at h
    obtain ⟨rfl, -⟩ := Transition.of_some_eq h
    unfold SubscriberEngine.sendPendingCredit
    split
    · rfl
    · split_ifs <;> rfl
  | creditFailed =>
    cases h
    rfl
  | probe =>
    cases h
    unfold SubscriberEngine.onProbe
    split
    · rfl
    · split_ifs <;> rfl
  | sendProbeAck =>
    simp only [subscriberStep] at h
    split_ifs at h
    obtain ⟨rfl, -⟩ := Transition.of_some_eq h
    unfold SubscriberEngine.sendPendingProbeAck
    split_ifs <;> rfl
  | quiesce =>
    cases h
    rfl

lemma SubscriberEngine.activate_accounted {ringDepth : ℕ} {granted : GeometryBlock}
    (maxFrameBytes : ℕ) (receiveMemoryKind : MemoryKind) (streamId : UInt64)
    (hpos : 0 < granted.ringDepth.toNat) (hle : granted.ringDepth.toNat ≤ ringDepth) :
    (activate ringDepth maxFrameBytes receiveMemoryKind streamId granted).ring.Accounted := by
  refine ⟨hpos, fun k => rfl, fun k hk => ?_, ?_, rfl⟩
  · cases hk
  · have hcap := le_roundUpPow2 (ringDepth * 2)
    exact le_trans (by omega : granted.ringDepth.toNat ≤ ringDepth * 2) hcap

/-! ### Sessions -/

/-- A session of a subscriber with the given ring, started by a grant it may adopt. -/
structure SubscriberSession where
  ringDepth : ℕ
  maxFrameBytes : ℕ
  receiveMemoryKind : MemoryKind
  streamId : UInt64
  granted : GeometryBlock
  valid : granted.validate = .ok
  depth_le : granted.ringDepth.toNat ≤ ringDepth
  bytes_le : granted.maxFrameBytes.toNat ≤ maxFrameBytes

namespace SubscriberSession

def start (s : SubscriberSession) : SubscriberEngine :=
  .activate s.ringDepth s.maxFrameBytes s.receiveMemoryKind s.streamId s.granted

lemma depth_pos (s : SubscriberSession) : 0 < s.granted.ringDepth.toNat := by
  have hd := (GeometryBlock.validate_ok.mp s.valid).2.2.2.1.1
  have hmin : kMinRingDepth.toNat = 2 := rfl
  rw [UInt32.le_iff_toNat_le, hmin] at hd
  omega

lemma start_accounted (s : SubscriberSession) : s.start.ring.Accounted :=
  SubscriberEngine.activate_accounted _ _ _ s.depth_pos s.depth_le

lemma reach (s : SubscriberSession) {ok : SubscriberEngine → SubscriberInput → Prop}
    {trace : List SubscriberEvent} {e : SubscriberEngine}
    (h : subscriberMachine.Reaches ok s.start trace e) :
    e.config = s.start.config ∧ e.ring.Accounted := by
  refine h.invariant (fun e => e.config = s.start.config ∧ e.ring.Accounted)
    ⟨rfl, s.start_accounted⟩ ?_
  rintro e i e' es ⟨hconfig, hacc⟩ - hstep
  obtain ⟨a, hring, -⟩ := subscriberStep_refines (Nat.pos_iff_ne_zero.mp hacc.depth_pos) hstep
  exact ⟨(subscriberStep_config hstep).trans hconfig, hring.accounted hacc⟩

end SubscriberSession

/-- What the receive path promises about its slots in a state `e` of session `s`. -/
structure SlotSafe (s : SubscriberSession) (e : SubscriberEngine) : Prop where
  /-- A step writes only into an existing slot, within its capacity, that no pending receive
  and no live view uses. -/
  writes : ∀ i e' es k n, subscriberMachine.step e i = some (e', es) → .wrote k n ∈ es →
    k < s.ringDepth ∧ n ≤ (e.slots k).capacity ∧ e.pending k = false ∧
      ∀ q ∈ e.leases, q % e.depth ≠ k
  /-- An occupied slot has exactly one holder and a vacant one has none. -/
  account : ∀ k, (e.pending k).toNat + (e.leases.map (· % e.depth)).count k +
    (e.creditReturns.items.map (· % e.depth)).count k = (e.slots k).occupied.toNat
  queue : e.creditReturns.items.length ≤ s.ringDepth
  sound : e.overflowed = false

/-- Receive-slot safety against any peer and any interleaving. -/
theorem receive_slot_safety (s : SubscriberSession) {trace : List SubscriberEvent}
    {e : SubscriberEngine} (h : subscriberMachine.Reaches anyStep s.start trace e) :
    SlotSafe s e := by
  obtain ⟨hconfig, hacc⟩ := s.reach h
  have hgranted : e.granted = s.granted := congrArg ReceiveConfig.granted hconfig
  have hdepth : e.ring.depth = s.granted.ringDepth.toNat := by
    rw [← hgranted]
    rfl
  have hle := s.depth_le
  refine ⟨fun i e' es k n hstep hwrote => ?_, fun k => ?_, ?_, hacc.sound⟩
  · obtain ⟨a, hring, hexplain, -⟩ :=
      subscriberStep_refines (Nat.pos_iff_ne_zero.mp hacc.depth_pos) hstep
    obtain ⟨hk, hpend, hheld, q, haction⟩ := hring.wrote_free hacc hwrote
    have hfits : ∃ frame : FrameHeader, e.fits frame n = true := by
      rcases haction with rfl | rfl
      all_goals
        obtain ⟨frame, length, -, -, hfits, rfl⟩ := hexplain
        exact ⟨frame, hfits⟩
    obtain ⟨frame, hfits⟩ := hfits
    obtain ⟨-, hlen, hmax⟩ := SubscriberEngine.fits_iff.mp hfits
    have hcap : (e.slots k).capacity = s.maxFrameBytes :=
      congrFun (congrArg ReceiveConfig.capacity hconfig) k
    have hbytes := s.bytes_le
    rw [UInt64.not_lt, UInt64.le_iff_toNat_le, hgranted] at hmax
    refine ⟨by omega, by omega, hpend, fun p hp hslot => hheld ?_⟩
    exact List.mem_map.mpr ⟨p, List.mem_append_left _ hp, hslot⟩
  · have hk := hacc.account k
    rw [ReceiveRing.heldSlots, List.map_append, List.count_append] at hk
    rw [Nat.add_comm ((e.pending k).toNat), Nat.add_right_comm]
    exact hk
  · have hlen := hacc.length_le
    rw [List.length_append] at hlen
    have hitems : e.creditReturns.items.length ≤ e.ring.depth := by
      have : e.ring.returns = e.creditReturns := rfl
      rw [this] at hlen
      omega
    omega

/-- A session of depth 2 over frames of 4096 bytes. -/
def sampleSession : SubscriberSession where
  ringDepth := 2
  maxFrameBytes := 4096
  receiveMemoryKind := .host
  streamId := 7
  granted :=
    { generation := 1, elementType := .byte, elementSize := 1, rank := 1, maxFrameBytes := 4096,
      ringDepth := 2, creditWindow := 2, shape := ![4096, 0, 0, 0], strides := ![1, 0, 0, 0] }
  valid := by decide
  depth_le := by decide
  bytes_le := by decide

/-- A full frame of the sample session. -/
def sampleFrame (sequence : UInt64) : ByteString.Bytes :=
  encodeFrame
    { generation := 1, streamId := 7, sequence, payloadBytes := 4096, timestampNs := 0,
      eventCounter := 0, droppedBefore := 0, elementType := .byte, elementSize := 1, rank := 1,
      quality := 0, memoryKind := .host, endian := .little, shape := ![4096, 0, 0, 0],
      strides := ![1, 0, 0, 0] }

/-- One view is live and one rendezvous is under way. -/
theorem receive_slot_safety_sample :
    ∃ trace e, subscriberMachine.Reaches anyStep sampleSession.start trace e ∧
      (e.leases = [0] ∧ e.pending 1 = true) ∧ SlotSafe sampleSession e := by
  obtain ⟨trace, e, hreach, hstate⟩ :=
    subscriberMachine.exists_of_run anyStep sampleSession.start
      [.frame (sampleFrame 0) 4096 .eager, .frame (sampleFrame 1) 4096 (.rndv .inProgress)]
      (P := fun e _ => e.leases = [0] ∧ e.pending 1 = true) (by decide +kernel)
  exact ⟨trace, e, hreach, hstate, receive_slot_safety sampleSession hreach⟩

end TangoBulk
