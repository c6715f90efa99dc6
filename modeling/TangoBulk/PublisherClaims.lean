import TangoBulk.LibRefPool
import TangoBulk.LibRing
import TangoBulk.Publisher

/-! The places a producer slot can be in, and the claims of the sessions on the slots that
their uncredited sequences read. `Kept extra` is the account of the slots while the engine
itself holds the references `extra`. -/
namespace TangoBulk

open Function

/-! ### Sequences in a window -/

namespace CreditWindow

/-- The slots read by the sequences of a window. -/
def slots (w : CreditWindow) (inflight : ℕ → InFlight) (depth : ℕ) : List ℕ :=
  (List.range' w.creditedEnd w.outstanding).map fun q => (inflight (q % depth)).slotIndex

variable {w : CreditWindow} {inflight : ℕ → InFlight} {depth : ℕ}

lemma slots_update (hv : w.Valid) (hroom : w.outstanding < depth) (f : InFlight) :
    w.slots (update inflight (w.nextSequence % depth) f) depth =
      w.slots inflight depth := by
  apply List.map_congr_left
  intro q hq
  rw [List.mem_range'_1] at hq
  have hc := hv.credited_le
  unfold outstanding at hq hroom
  have hne : q % depth ≠ w.nextSequence % depth :=
    Ring.index_ne hq.1 (by omega) hc (by omega) (by omega)
  rw [update_of_ne hne]

lemma slots_noteSubmitted (hv : w.Valid) :
    w.noteSubmitted.2.slots inflight depth =
      w.slots inflight depth ++ [(inflight (w.nextSequence % depth)).slotIndex] := by
  have hc := hv.credited_le
  have hout : w.noteSubmitted.2.outstanding = w.outstanding + 1 := by
    simp only [outstanding, noteSubmitted]
    omega
  have hend : w.creditedEnd + w.outstanding = w.nextSequence := by
    unfold outstanding
    omega
  rw [slots, hout, List.range'_concat, List.map_append]
  simp [slots, noteSubmitted, hend]

lemma slots_applyCredit (hv : w.Valid) (ack : ℕ) :
    w.slots inflight depth =
      (List.range' w.creditedEnd (w.applyCredit ack).1.released).map
        (fun q => (inflight (q % depth)).slotIndex) ++
      (w.applyCredit ack).2.slots inflight depth := by
  have hc := applyCredit_credited w ack
  have hn := applyCredit_next w ack
  have hv' := (applyCredit_valid hv ack).credited_le
  have hlen : w.outstanding =
      (w.applyCredit ack).1.released + (w.applyCredit ack).2.outstanding := by
    unfold outstanding
    omega
  rw [slots, slots, hc, ← List.map_append, List.range'_append_1, ← hlen]

lemma slots_nil (h : w.outstanding = 0) : w.slots inflight depth = [] := by
  simp [slots, h]

end CreditWindow

namespace Publisher

/-! ### Accounts -/

/-- The places of the producer slots. -/
def pool (p : Publisher) : RefPool where
  size := p.depth
  free := p.freeSlots.items
  held := p.handles ++ p.publishQueue.items.map (·.slotIndex)
  refs := p.slotRefs

/-- The slots a session's submitted and uncredited sequences read. -/
def sessionSlots (p : Publisher) (k : ℕ) : List ℕ :=
  (p.sessions k).window.slots (p.sessions k).inflight p.depth

/-- One claim for each submitted and uncredited sequence of each seat. -/
def claims (p : Publisher) : List ℕ := p.seats.flatMap p.sessionSlots

/-- The claims of the other seats. -/
def otherClaims (p : Publisher) (k : ℕ) : List ℕ := (p.seats.erase k).flatMap p.sessionSlots

variable {p : Publisher}

lemma claims_perm {k : ℕ} (hk : k ∈ p.seats) :
    p.claims.Perm (p.sessionSlots k ++ p.otherClaims k) :=
  (List.perm_cons_erase hk).flatMap_right p.sessionSlots

lemma sessionSlots_setSession_self (p : Publisher) (k : ℕ) (s : Session) :
    (p.setSession k s).sessionSlots k = s.window.slots s.inflight p.depth := by
  rw [sessionSlots, setSession_self]
  rfl

lemma otherClaims_setSession (p : Publisher) (k : ℕ) (s : Session) :
    (p.setSession k s).otherClaims k = p.otherClaims k := by
  have hnodup : p.seats.Nodup := List.nodup_range
  simp only [otherClaims]
  refine List.flatMap_congr fun j hj => ?_
  have hne : j ≠ k := fun he => (hnodup.not_mem_erase (he ▸ hj)).elim
  rw [sessionSlots, p.setSession_of_ne s hne]
  rfl

lemma claims_setSession {k : ℕ} (hk : k ∈ p.seats) (s : Session) :
    (p.setSession k s).claims.Perm (s.window.slots s.inflight p.depth ++ p.otherClaims k) := by
  have h := claims_perm (p := p.setSession k s) hk
  rw [sessionSlots_setSession_self, otherClaims_setSession] at h
  exact h

/-- The slots are in their places, counted by `claims`, and no assertion has failed. -/
structure Counted (p : Publisher) (claims : List ℕ) : Prop where
  balanced : p.pool.Balanced claims
  capacity : p.depth ≤ p.freeSlots.capacity
  sound : p.monitor.assertFailed = false

variable {claims : List ℕ} {i : ℕ} {s : Session}

lemma Counted.perm {claims' : List ℕ} (h : p.Counted claims)
    (hp : claims.Perm claims') : p.Counted claims' :=
  ⟨h.balanced.perm hp, h.capacity, h.sound⟩

lemma releaseSlot_eq (h : p.freeSlots.items.length < p.freeSlots.capacity) :
    ∃ free : Fifo ℕ, free.items = p.freeSlots.items ++ [i] ∧
      free.capacity = p.freeSlots.capacity ∧
      p.releaseSlot i = { p with
        freeSlots := free
        monitor := { p.monitor with
          freedBusy := p.monitor.freedBusy || p.sends.any (·.slotIndex = i) } } := by
  cases hpush : p.freeSlots.push i with
  | none => exact absurd (Fifo.push_eq_none.mp hpush) (by omega)
  | some free =>
    obtain ⟨-, hitems, hcap⟩ := Fifo.push_eq_some.mp hpush
    refine ⟨free, hitems, hcap, ?_⟩
    simp only [releaseSlot, hpush]

lemma Counted.resetHandle (h : p.Counted claims) (hi : i ∈ p.handles) :
    (p.resetHandle i).Counted claims := by
  have hheld : p.pool.held.Perm
      (i :: (p.handles.erase i ++ p.publishQueue.items.map (·.slotIndex))) :=
    (List.perm_cons_erase hi).append_right _
  have hroom := h.balanced.room (.inl (hheld.mem_iff.mpr List.mem_cons_self))
  obtain ⟨free, hitems, hcap, heq⟩ := releaseSlot_eq
    (p := { p with handles := p.handles.erase i }) (i := i) (hroom.trans_le h.capacity)
  rw [Publisher.resetHandle, heq]
  refine ⟨?_, h.capacity.trans_eq hcap.symm, h.sound⟩
  have hback := h.balanced.giveBack hheld
  have hfree : free.items = p.pool.free ++ [i] := hitems
  rw [← hfree] at hback
  exact hback

lemma Counted.releaseSlotRef (h : p.Counted (i :: claims)) :
    (p.releaseSlotRef i).Counted claims := by
  have hpos : 0 < p.slotRefs i := h.balanced.refs_pos
  obtain ⟨n, hn⟩ := Nat.exists_eq_succ_of_ne_zero (Nat.pos_iff_ne_zero.mp hpos)
  simp only [Publisher.releaseSlotRef, hn]
  split_ifs with hz
  · subst hz
    have hroom := h.balanced.room (.inr hpos)
    obtain ⟨free, hitems, hcap, heq⟩ := releaseSlot_eq
      (p := { p with slotRefs := update p.slotRefs i 0 }) (i := i)
      (hroom.trans_le h.capacity)
    rw [heq]
    refine ⟨?_, h.capacity.trans_eq hcap.symm, h.sound⟩
    have hback := h.balanced.dropLast hn
    have hfree : free.items = p.pool.free ++ [i] := hitems
    rw [← hfree] at hback
    exact hback
  · exact ⟨h.balanced.drop hn (Nat.pos_of_ne_zero hz), h.capacity, h.sound⟩

/-! ### What a release leaves alone -/

/-- The sessions opened, closed and expired so far. -/
def tally (p : Publisher) : ℕ × ℕ × ℕ :=
  (p.counters .sessionsOpened, p.counters .sessionsClosed, p.counters .sessionsExpired)

/-- The parts of a publisher that the release of a slot does not touch. -/
structure Rest where
  config : PublisherConfig
  handles : List ℕ
  publishQueue : Fifo PublishItem
  sessions : ℕ → Session
  admitted : ℕ
  retireCounter : ℕ
  sends : List Send
  limit : ℕ
  generation : UInt32
  withheld : List (ℕ × ℕ)
  tally : ℕ × ℕ × ℕ
  credited : ℕ

def rest (p : Publisher) : Rest where
  config := p.config
  handles := p.handles
  publishQueue := p.publishQueue
  sessions := p.sessions
  admitted := p.admitted
  retireCounter := p.retireCounter
  sends := p.sends
  limit := p.allActiveAdmissionLimit
  generation := p.generation
  withheld := p.monitor.withheld
  tally := p.tally
  credited := p.credited

lemma rest_releaseSlot (p : Publisher) (i : ℕ) : (p.releaseSlot i).rest = p.rest := by
  unfold releaseSlot
  split <;> rfl

lemma rest_releaseSlotRef (p : Publisher) (i : ℕ) : (p.releaseSlotRef i).rest = p.rest := by
  unfold releaseSlotRef
  split
  · rfl
  · split_ifs
    · exact rest_releaseSlot _ i
    · rfl

lemma rest_creditSequence (p : Publisher) (k q : ℕ) : (creditSequence k p q).rest = p.rest := by
  unfold creditSequence
  dsimp only
  split_ifs <;> exact rest_releaseSlotRef p _

lemma slotOf_of_rest {p' : Publisher} (h : p'.rest = p.rest) : p'.slotOf = p.slotOf := by
  have hs : p'.sessions = p.sessions := congrArg Rest.sessions h
  have hc : p'.config = p.config := congrArg Rest.config h
  funext k q
  simp only [slotOf, depth, hs, hc]

lemma Counted.foldl {f : Publisher → ℕ → Publisher} {k : ℕ} (hrest : ∀ p q, (f p q).rest = p.rest)
    (hturn : ∀ p q claims, p.Counted (p.slotOf k q :: claims) → (f p q).Counted claims)
    (qs : List ℕ) (h : p.Counted (qs.map (p.slotOf k) ++ claims)) :
    (qs.foldl f p).Counted claims ∧ (qs.foldl f p).rest = p.rest := by
  induction qs generalizing p with
  | nil => exact ⟨h, rfl⟩
  | cons q qs ih =>
    have hslots := slotOf_of_rest (hrest p q)
    have hnext : (f p q).Counted (qs.map ((f p q).slotOf k) ++ claims) := by
      rw [hslots]
      exact hturn p q _ h
    obtain ⟨hcounted, hr⟩ := ih hnext
    exact ⟨hcounted, hr.trans (hrest p q)⟩

lemma Counted.creditSequence {k q : ℕ} (h : p.Counted (p.slotOf k q :: claims)) :
    (creditSequence k p q).Counted claims := by
  unfold Publisher.creditSequence
  dsimp only
  split_ifs
  · have hr := h.releaseSlotRef
    exact ⟨hr.balanced, hr.capacity, hr.sound⟩
  · exact h.releaseSlotRef

/-! ### Windows of the seats -/

structure Seated (p : Publisher) : Prop where
  valid : ∀ k, (p.sessions k).window.Valid
  width : ∀ k, (p.sessions k).window.width ≤ p.depth
  idle : ∀ k, (p.sessions k).state = .unknown ∨ (p.sessions k).state = .closed →
    (p.sessions k).window.outstanding = 0

lemma Seated.setSession {k : ℕ} (h : p.Seated) (hv : s.window.Valid) (hw : s.window.width ≤ p.depth)
    (hi : s.state = .unknown ∨ s.state = .closed → s.window.outstanding = 0) :
    (p.setSession k s).Seated := by
  have hcase : ∀ j, (p.setSession k s).sessions j = s ∨
      (p.setSession k s).sessions j = p.sessions j := by
    intro j
    by_cases hj : j = k
    · subst hj
      exact .inl (p.setSession_self j s)
    · exact .inr (p.setSession_of_ne s hj)
  constructor
  · intro j
    rcases hcase j with he | he
    · rw [he]
      exact hv
    · rw [he]
      exact h.valid j
  · intro j
    rcases hcase j with he | he
    · rw [he]
      exact hw
    · rw [he]
      exact h.width j
  · intro j
    rcases hcase j with he | he
    · rw [he]
      exact hi
    · rw [he]
      exact h.idle j

lemma Seated.room {k : ℕ} (h : p.Seated) (hs : (p.sessions k).window.canSubmit = true) :
    (p.sessions k).window.outstanding < p.depth :=
  (of_decide_eq_true hs).trans_le (h.width k)

/-- The account of a publisher while the engine holds the extra references `extra`. -/
structure Kept (extra : List ℕ) (p : Publisher) : Prop where
  counted : p.Counted (extra ++ p.claims)
  seated : p.Seated
  config : p.config.Valid

variable {p : Publisher} {extra : List ℕ} {k : ℕ}

lemma Kept.setSession (h : p.Kept extra)
    (hslots : s.window.slots s.inflight p.depth = p.sessionSlots k) (hv : s.window.Valid)
    (hw : s.window.width ≤ p.depth)
    (hi : s.state = .unknown ∨ s.state = .closed → s.window.outstanding = 0) :
    (p.setSession k s).Kept extra := by
  have hsame : (p.setSession k s).sessionSlots = p.sessionSlots := by
    funext j
    by_cases hj : j = k
    · subst hj
      rw [sessionSlots_setSession_self, hslots]
    · rw [sessionSlots, sessionSlots, p.setSession_of_ne s hj]
      rfl
  have hclaims : (p.setSession k s).claims = p.claims := by
    rw [claims, claims, hsame]
    rfl
  have hc : (p.setSession k s).Counted (extra ++ p.claims) :=
    ⟨h.counted.balanced, h.counted.capacity, h.counted.sound⟩
  exact ⟨hclaims ▸ hc, h.seated.setSession hv hw hi, h.config⟩

lemma Kept.setFields (h : p.Kept extra) (hwindow : s.window = (p.sessions k).window)
    (hinflight : s.inflight = (p.sessions k).inflight)
    (hstate : s.state = (p.sessions k).state ∨ (s.state ≠ .unknown ∧ s.state ≠ .closed)) :
    (p.setSession k s).Kept extra := by
  refine h.setSession ?_ ?_ ?_ ?_
  · rw [hwindow, hinflight]
    rfl
  · rw [hwindow]
    exact h.seated.valid k
  · rw [hwindow]
    exact h.seated.width k
  · intro hs
    rw [hwindow]
    rcases hstate with he | ⟨h1, h2⟩
    · exact h.seated.idle k (he ▸ hs)
    · exact absurd hs (not_or.mpr ⟨h1, h2⟩)

lemma Kept.bump (h : p.Kept extra) (c : PublisherCounter) (n : ℕ) : (p.bump c n).Kept extra :=
  ⟨⟨h.counted.balanced, h.counted.capacity, h.counted.sound⟩,
    ⟨h.seated.valid, h.seated.width, h.seated.idle⟩, h.config⟩

lemma Kept.refreshGauges (h : p.Kept extra) : p.refreshGauges.Kept extra :=
  ⟨⟨h.counted.balanced, h.counted.capacity, h.counted.sound⟩,
    ⟨h.seated.valid, h.seated.width, h.seated.idle⟩, h.config⟩

lemma Kept.of_counted {p' : Publisher} (h : p.Kept extra) {extra' : List ℕ}
    (hc : p'.config = p.config) (hs : p'.sessions = p.sessions)
    (hcounted : p'.Counted (extra' ++ p.claims)) : p'.Kept extra' := by
  have hslots : p'.sessionSlots = p.sessionSlots := by
    funext k
    rw [sessionSlots, sessionSlots, hs, depth, depth, hc]
  have hclaims : p'.claims = p.claims := by
    rw [claims, claims, hslots, seats, seats, hc]
  refine ⟨hclaims ▸ hcounted, ?_, hc ▸ h.config⟩
  constructor
  · rw [hs]
    exact h.seated.valid
  · rw [hs, depth, hc]
    exact h.seated.width
  · rw [hs]
    exact h.seated.idle

end Publisher

end TangoBulk
