import TangoBulk.CellThreads
import TangoBulk.PublisherEffects

/-! Conservation of the producer slots: in every run each slot is free, leased, queued or
retained, and a retained slot is counted once for every session that has yet to credit it. -/
namespace TangoBulk

open ByteString Transition

namespace Publisher

variable {p : Publisher} {extra : List ℕ} {k : ℕ}

lemma Kept.quiet {p' : Publisher} (h : p.Kept extra) (hq : p.Quiet p') : p'.Kept extra := by
  have hc : p'.config = p.config := congrArg Stock.config hq.stock
  have hfree : p'.freeSlots = p.freeSlots := congrArg Stock.freeSlots hq.stock
  have hhandles : p'.handles = p.handles := congrArg Stock.handles hq.stock
  have hqueue : p'.publishQueue = p.publishQueue := congrArg Stock.publishQueue hq.stock
  have hrefs : p'.slotRefs = p.slotRefs := congrArg Stock.slotRefs hq.stock
  have hmonitor : p'.monitor = p.monitor := congrArg Stock.monitor hq.stock
  have hdepth : p'.depth = p.depth := by rw [depth, depth, hc]
  have hslots : p'.sessionSlots = p.sessionSlots := by
    funext k
    rw [sessionSlots, sessionSlots, (hq.sessions k).window, (hq.sessions k).inflight, hdepth]
  have hclaims : p'.claims = p.claims := by rw [claims, claims, hslots, seats, seats, hc]
  have hpool : p'.pool = p.pool := by simp only [pool, hdepth, hfree, hhandles, hqueue, hrefs]
  refine ⟨⟨?_, ?_, ?_⟩, ⟨fun k => ?_, fun k => ?_, fun k hidle => ?_⟩, hc ▸ h.config⟩
  · rw [hpool, hclaims]
    exact h.counted.balanced
  · rw [hdepth, hfree]
    exact h.counted.capacity
  · rw [hmonitor]
    exact h.counted.sound
  · rw [(hq.sessions k).window]
    exact h.seated.valid k
  · rw [(hq.sessions k).window, hdepth]
    exact h.seated.width k
  · rw [(hq.sessions k).window]
    rcases (hq.sessions k).state with hsame | ⟨-, hended⟩
    · exact h.seated.idle k (hsame ▸ hidle)
    · simp [hended] at hidle

/-! ### The application's calls -/

lemma Kept.tryAcquire (h : p.Kept extra) : p.tryAcquire.2.Kept extra := by
  unfold Publisher.tryAcquire
  cases hpop : p.freeSlots.pop with
  | none => exact h.bump .acquireFailed 1
  | some popped =>
    obtain ⟨i, free⟩ := popped
    obtain ⟨hitems, hcap⟩ := Fifo.pop_eq_some.mp hpop
    refine h.of_counted rfl rfl ?_
    exact ⟨h.counted.balanced.take hitems, h.counted.capacity.trans_eq hcap.symm, h.counted.sound⟩

lemma Kept.resetHandle {i : ℕ} (h : p.Kept extra) (hi : i ∈ p.handles) :
    (p.resetHandle i).Kept extra := by
  have hr : (p.resetHandle i).rest = { p with handles := p.handles.erase i }.rest :=
    rest_releaseSlot _ i
  exact h.of_counted (congrArg Rest.config hr) (congrArg Rest.sessions hr)
    (h.counted.resetHandle hi)

lemma Kept.refusePublish {i : ℕ} (h : p.Kept extra) (hi : i ∈ p.handles) (r : PublishResult) :
    (p.refusePublish i r).Kept extra := by
  obtain hquiet | ⟨q, hquiet, heq⟩ := p.refusePublish_cases i r
  · exact h.quiet hquiet
  · have hhandles : q.handles = p.handles := congrArg Stock.handles hquiet.stock
    rw [heq]
    exact (h.quiet hquiet).resetHandle (hhandles ▸ hi)

lemma Kept.acceptPublish {i : ℕ} {item : PublishItem} {queue : Fifo PublishItem}
    (h : p.Kept extra) (hi : i ∈ p.handles) (hitem : item.slotIndex = i)
    (hpush : p.publishQueue.push item = some queue) :
    ({ p with publishQueue := queue }.acceptPublish i).Kept extra := by
  obtain ⟨-, hitems, -⟩ := Fifo.push_eq_some.mp hpush
  refine h.of_counted rfl rfl ⟨?_, h.counted.capacity, h.counted.sound⟩
  have hheld : p.pool.held.Perm (p.handles.erase i ++ queue.items.map (·.slotIndex)) := by
    rw [hitems, List.map_append, List.map_singleton, hitem, ← List.append_assoc]
    refine ((List.perm_cons_erase hi).append_right _).trans ?_
    exact (List.perm_append_singleton i _).symm
  exact h.counted.balanced.rearrange hheld

lemma Kept.publish (h : p.Kept extra) {lease : Option ℕ} (hi : ∀ i ∈ lease, i ∈ p.handles)
    (metadata : FrameMetadata) (realtimeNs : UInt64) (contended : Bool) :
    (p.publish lease metadata realtimeNs contended).2.Kept extra := by
  cases lease with
  | none => exact h
  | some i =>
    have hi : i ∈ p.handles := hi i rfl
    rw [Publisher.publish]
    obtain ⟨result, -, heq⟩ | ⟨resolved, queue, -, hpush, heq⟩ :=
      p.publishLease_cases i metadata realtimeNs contended
    · rw [heq]
      exact h.refusePublish hi result
    · rw [heq]
      exact h.acceptPublish hi rfl hpush

/-! ### Fan-out -/

variable {item : PublishItem}

lemma Kept.visitSeat (h : p.Kept (item.slotIndex :: extra)) (k : ℕ) :
    ((p.visitSeat item k).1 = false ∧ (p.visitSeat item k).2.Kept (item.slotIndex :: extra)) ∨
    ((p.visitSeat item k).1 = true ∧
      (p.visitSeat item k).2.Kept (item.slotIndex :: item.slotIndex :: extra) ∧
      ((p.visitSeat item k).2.sessions k).window.canSubmit = true ∧
      ((p.visitSeat item k).2.sessions k).state.eligible = true) := by
  unfold Publisher.visitSeat
  dsimp only
  split_ifs with h1 h2
  · exact .inl ⟨rfl, h⟩
  · have hset := h.setFields (s := { p.sessions k with
      processedOrdinal := item.ordinal + 1
      droppedForSession := (p.sessions k).droppedForSession + 1 }) rfl rfl (.inl rfl)
    exact .inl ⟨rfl, hset.of_counted rfl rfl
      ⟨hset.counted.balanced, hset.counted.capacity, hset.counted.sound⟩⟩
  · have hset := h.setFields (s := { p.sessions k with processedOrdinal := item.ordinal + 1 })
      rfl rfl (.inl rfl)
    refine .inr ⟨rfl, ?_, ?_, ?_⟩
    · exact hset.of_counted rfl rfl ⟨hset.counted.balanced.share List.mem_cons_self,
        hset.counted.capacity, hset.counted.sound⟩
    · simpa [setSession] using h2
    · simpa [setSession] using h1

lemma Kept.recordInFlight (h : p.Kept extra)
    (hroom : (p.sessions k).window.canSubmit = true) : (p.recordInFlight k item).Kept extra := by
  have hset := h.setSession (s := p.recordedSession (p.sessions k) item)
    (CreditWindow.slots_update (h.seated.valid k) (h.seated.room hroom) _)
    (h.seated.valid k) (h.seated.width k) (h.seated.idle k)
  exact hset.of_counted rfl rfl
    ⟨hset.counted.balanced, hset.counted.capacity, hset.counted.sound⟩

/-- An accepted send turns the engine's reference into the session's claim. -/
lemma Kept.noteSent (h : p.Kept (item.slotIndex :: extra)) (hk : k ∈ p.seats)
    (hroom : (p.sessions k).window.canSubmit = true)
    (hentry : ((p.sessions k).inflight ((p.sessions k).window.nextSequence % p.depth)).slotIndex =
      item.slotIndex) (hstate : (p.sessions k).state ≠ .unknown ∧ (p.sessions k).state ≠ .closed)
    (pending : Bool) : (p.noteSent k item pending).Kept extra := by
  have hv := h.seated.valid k
  have hslots : (noteSentSession (p.sessions k) pending).window.slots
      (noteSentSession (p.sessions k) pending).inflight p.depth =
      p.sessionSlots k ++ [item.slotIndex] := by
    rw [← hentry]
    exact CreditWindow.slots_noteSubmitted hv
  have hclaims : (item.slotIndex :: extra ++ p.claims).Perm
      (extra ++ (p.setSession k (noteSentSession (p.sessions k) pending)).claims) := by
    have hnew := claims_setSession hk (noteSentSession (p.sessions k) pending)
    rw [hslots] at hnew
    have hold := claims_perm hk
    rw [List.perm_iff_count] at hnew hold ⊢
    intro j
    have h1 := hnew j
    have h2 := hold j
    simp only [List.count_append, List.cons_append, List.count_cons, List.count_nil] at h1 h2 ⊢
    omega
  have hseated : (p.setSession k (noteSentSession (p.sessions k) pending)).Seated := by
    refine h.seated.setSession (CreditWindow.noteSubmitted_valid hv hroom) (h.seated.width k) ?_
    intro hs
    simp only [noteSentSession] at hs
    split_ifs at hs
    · simp at hs
    · exact absurd hs (not_or.mpr hstate)
  have hcounted : (p.setSession k (noteSentSession (p.sessions k) pending)).Counted
      (item.slotIndex :: extra ++ p.claims) :=
    ⟨h.counted.balanced, h.counted.capacity, h.counted.sound⟩
  have hset : (p.setSession k (noteSentSession (p.sessions k) pending)).Kept extra :=
    ⟨hcounted.perm hclaims, hseated, h.config⟩
  unfold Publisher.noteSent
  split_ifs with hp
  · exact (hset.bump .framesSubmitted 1).of_counted rfl rfl
      ⟨hset.counted.balanced, hset.counted.capacity, hset.counted.sound⟩
  · exact (hset.bump .framesSubmitted 1).bump .framesCompleted 1

lemma eligible_used {s : SessionState} (h : s.eligible = true) : s ≠ .unknown ∧ s ≠ .closed := by
  have hs := of_decide_eq_true h
  rcases hs with rfl | rfl
  all_goals exact ⟨by simp, by simp⟩

lemma Kept.submitTo (h : p.Kept (item.slotIndex :: extra)) (hk : k ∈ p.seats)
    (hroom : (p.sessions k).window.canSubmit = true)
    (helig : (p.sessions k).state.eligible = true) (answer : SendAnswer) :
    ((p.submitTo k item answer).1 = false ∧
      (p.submitTo k item answer).2.Kept (item.slotIndex :: extra)) ∨
    ((p.submitTo k item answer).1 = true ∧ (p.submitTo k item answer).2.Kept extra) := by
  have hrec : (p.recordInFlight k item).Kept (item.slotIndex :: extra) :=
    h.recordInFlight hroom
  have hsession := p.recordInFlight_session k item
  have hsent : ∀ pending, ((p.recordInFlight k item).noteSent k item pending).Kept extra := by
    intro pending
    refine hrec.noteSent hk ?_ ?_ ?_ pending
    · rw [hsession]
      exact hroom
    · rw [hsession]
      exact congrArg InFlight.slotIndex (p.recordedSession_entry (p.sessions k) item)
    · rw [hsession]
      exact eligible_used helig
  cases answer with
  | refused =>
    exact .inl ⟨rfl, (hrec.bump .transportErrors 1).quiet (quiet_beginExpiry _ k .transport)⟩
  | completed => exact .inr ⟨rfl, hsent false⟩
  | pending => exact .inr ⟨rfl, hsent true⟩

lemma Kept.unref {i : ℕ} (h : p.Kept (i :: i :: extra)) : (p.unref i).Kept (i :: extra) := by
  refine h.of_counted rfl rfl ⟨?_, h.counted.capacity, h.counted.sound⟩
  have hcount : p.slotRefs i = (i :: i :: extra ++ p.claims).count i := h.counted.balanced.counted i
  simp only [List.cons_append, List.count_cons_self] at hcount
  have hn : p.pool.refs i = (p.slotRefs i - 1) + 1 := by
    change p.slotRefs i = _
    omega
  exact h.counted.balanced.drop hn (by omega)

lemma config_fanOutSeat (p : Publisher) (item : PublishItem) (answers : ℕ → SendAnswer)
    (k : ℕ) : (fanOutSeat item answers p k).config = p.config :=
  congrArg FanSettings.config (fanSettings_fanOutSeat p item answers k)

lemma Kept.fanOutSeat (h : p.Kept (item.slotIndex :: extra)) (hk : k ∈ p.seats)
    (answers : ℕ → SendAnswer) : (fanOutSeat item answers p k).Kept (item.slotIndex :: extra) := by
  unfold Publisher.fanOutSeat
  dsimp only
  obtain ⟨hv, hkept⟩ | ⟨hv, hkept, hroom, helig⟩ := h.visitSeat k
  · rw [hv, if_neg (by simp)]
    exact hkept
  · have hk' : k ∈ (p.visitSeat item k).2.seats := by
      have hconfig : (p.visitSeat item k).2.config = p.config :=
        congrArg FanSettings.config (fanSettings_visitSeat p item k)
      rw [seats, hconfig]
      exact hk
    rw [hv, if_pos rfl]
    obtain ⟨hs, hsub⟩ | ⟨hs, hsub⟩ := hkept.submitTo hk' hroom helig (answers k)
    · rw [hs, if_neg (by simp)]
      exact hsub.unref
    · rw [hs, if_pos rfl]
      exact hsub

lemma Kept.foldl_fanOutSeat (answers : ℕ → SendAnswer) (ks : List ℕ)
    (h : p.Kept (item.slotIndex :: extra)) (hks : ∀ k ∈ ks, k ∈ p.seats) :
    (ks.foldl (Publisher.fanOutSeat item answers) p).Kept (item.slotIndex :: extra) := by
  induction ks generalizing p with
  | nil => exact h
  | cons k ks ih =>
    refine ih (h.fanOutSeat (hks k List.mem_cons_self) answers) ?_
    intro j hj
    rw [seats, config_fanOutSeat]
    exact hks j (List.mem_cons_of_mem k hj)

lemma Kept.releaseSlotRef {i : ℕ} (h : p.Kept (i :: extra)) : (p.releaseSlotRef i).Kept extra :=
  h.of_counted (congrArg Rest.config (rest_releaseSlotRef p i))
    (congrArg Rest.sessions (rest_releaseSlotRef p i)) h.counted.releaseSlotRef

lemma Kept.finishFanOut (h : p.Kept (item.slotIndex :: extra)) :
    (p.finishFanOut item).Kept extra := by
  unfold Publisher.finishFanOut
  split_ifs
  · have hb := h.bump .droppedNoSession 1
    apply Kept.refreshGauges
    apply Kept.releaseSlotRef
    exact hb.of_counted rfl rfl ⟨hb.counted.balanced, hb.counted.capacity, hb.counted.sound⟩
  · exact h.releaseSlotRef.refreshGauges

lemma Kept.startFanOut {queue : Fifo PublishItem} (h : p.Kept extra)
    (hpop : p.publishQueue.pop = some (item, queue)) :
    ({ p with publishQueue := queue }.startFanOut item).Kept (item.slotIndex :: extra) := by
  obtain ⟨hitems, -⟩ := Fifo.pop_eq_some.mp hpop
  refine h.of_counted rfl rfl ⟨?_, h.counted.capacity, h.counted.sound⟩
  have hheld : p.pool.held.Perm
      (item.slotIndex :: (p.handles ++ queue.items.map (·.slotIndex))) := by
    have : p.pool.held = p.handles ++ item.slotIndex :: queue.items.map (·.slotIndex) := by
      simp only [pool, hitems, List.map_cons]
    rw [this]
    exact List.perm_middle
  exact h.counted.balanced.retain hheld

lemma Kept.submitReady {p' : Publisher} (h : p.Kept extra) {answers : ℕ → SendAnswer}
    (hs : p.submitReady answers = some p') : p'.Kept extra := by
  obtain ⟨⟨item, queue⟩, hpop, rfl⟩ := Option.map_eq_some_iff.mp hs
  have hstart := h.startFanOut hpop
  exact (hstart.foldl_fanOutSeat answers _ fun k hk => hk).finishFanOut

/-! ### Credits, arming, teardown and Open -/

lemma Kept.moveWindow (h : p.Kept extra) (hk : k ∈ p.seats) (ack : ℕ) :
    (p.moveWindow k ack).Kept
      ((p.releasedSequences k ack).map ((p.moveWindow k ack).slotOf k) ++ extra) := by
  let w := (p.sessions k).window
  have hv : w.Valid := h.seated.valid k
  have hidle : (p.sessions k).state = .unknown ∨ (p.sessions k).state = .closed →
      (w.applyCredit ack).2.outstanding = 0 := by
    intro hs
    have hzero : w.outstanding = 0 := h.seated.idle k hs
    have hc := CreditWindow.applyCredit_credited w ack
    have hn := CreditWindow.applyCredit_next w ack
    unfold CreditWindow.outstanding at hzero ⊢
    omega
  have hseated : (p.moveWindow k ack).Seated :=
    h.seated.setSession (CreditWindow.applyCredit_valid hv ack)
      ((CreditWindow.applyCredit_width w ack).trans_le (h.seated.width k)) hidle
  have hslotOf : (p.moveWindow k ack).slotOf k = fun q =>
      ((p.sessions k).inflight (q % p.depth)).slotIndex := by
    funext q
    simp only [slotOf, Publisher.moveWindow, setSession_self]
    rfl
  have hclaims : p.claims.Perm ((p.releasedSequences k ack).map ((p.moveWindow k ack).slotOf k) ++
      (p.moveWindow k ack).claims) := by
    refine (claims_perm hk).trans ?_
    rw [sessionSlots, CreditWindow.slots_applyCredit hv ack, List.append_assoc, hslotOf]
    exact (claims_setSession hk { p.sessions k with
      window := (w.applyCredit ack).2 }).symm.append_left _
  have hcounted : (p.moveWindow k ack).Counted (extra ++ p.claims) :=
    ⟨h.counted.balanced, h.counted.capacity, h.counted.sound⟩
  refine ⟨hcounted.perm ?_, hseated, h.config⟩
  rw [List.append_assoc]
  exact (hclaims.append_left extra).trans (List.perm_append_comm_assoc _ _ _)

lemma Kept.foldl_creditSequence {qs : List ℕ} (h : p.Kept (qs.map (p.slotOf k) ++ extra)) :
    (qs.foldl (Publisher.creditSequence k) p).Kept extra ∧
      (qs.foldl (Publisher.creditSequence k) p).rest = p.rest := by
  have hcounted := h.counted
  rw [List.append_assoc] at hcounted
  obtain ⟨hfold, hrest⟩ := Counted.foldl (f := Publisher.creditSequence k)
    (fun p q => rest_creditSequence p k q) (fun p q claims => Counted.creditSequence) qs hcounted
  exact ⟨h.of_counted (congrArg Rest.config hrest) (congrArg Rest.sessions hrest) hfold, hrest⟩

lemma Kept.applyCredit (h : p.Kept extra) (hk : k ∈ p.seats) (ack : ℕ) :
    (p.applyCredit k ack).Kept extra := by
  have hdone := (h.moveWindow hk ack).foldl_creditSequence.1
  unfold Publisher.applyCredit
  dsimp only
  split_ifs
  · exact h.bump .malformedMessages 1
  · exact hdone.refreshGauges
  · exact hdone

lemma sessionForStream_mem {streamId : UInt64} (h : p.sessionForStream streamId = some k) :
    k ∈ p.seats ∧ (p.sessions k).state.live = true ∧ (p.sessions k).streamId = streamId := by
  unfold sessionForStream at h
  split_ifs at h
  have hp := List.find?_some h
  simp only [Bool.decide_and, Bool.and_eq_true, decide_eq_true_eq] at hp
  exact ⟨List.mem_of_find?_eq_some h, by simpa using hp.1, hp.2⟩

lemma Kept.handleCredit (h : p.Kept extra) (header : Bytes) : (p.handleCredit header).Kept extra := by
  unfold Publisher.handleCredit
  split
  · exact h.bump .malformedMessages 1
  · split
    · exact h.bump .malformedMessages 1
    · rename_i k hk
      exact h.applyCredit (sessionForStream_mem hk).1 _

lemma Kept.arm (h : p.Kept extra) (k : ℕ) : (p.arm k).Kept extra := by
  unfold Publisher.arm
  dsimp only
  split_ifs
  · apply Kept.refreshGauges
    exact h.setFields rfl rfl (.inr ⟨by simp, by simp⟩)
  · exact h

lemma Kept.handleProbeAck (h : p.Kept extra) (header : Bytes) :
    (p.handleProbeAck header).Kept extra := by
  unfold Publisher.handleProbeAck
  split
  · exact h.bump .malformedMessages 1
  · split
    · exact h.bump .malformedMessages 1
    · rename_i k hk
      split_ifs
      · exact h.bump .malformedMessages 1
      · exact h.arm k

/-- The seat's window is empty and its claims are gone. -/
lemma Kept.clearSeat {p' : Publisher} {extra' : List ℕ} (h : p.Kept extra) (hk : k ∈ p.seats)
    (hc : p'.config = p.config) (hs : ∀ j, j ≠ k → p'.sessions j = p.sessions j)
    (hcounted : p'.Counted (extra' ++ p.otherClaims k)) (hv : (p'.sessions k).window.Valid)
    (hw : (p'.sessions k).window.width ≤ p.depth)
    (hempty : (p'.sessions k).window.outstanding = 0) : p'.Kept extra' := by
  have hnodup : p.seats.Nodup := List.nodup_range
  have hseats : p'.seats = p.seats := by rw [seats, seats, hc]
  have hdepth : p'.depth = p.depth := by rw [depth, depth, hc]
  have hother : p'.otherClaims k = p.otherClaims k := by
    rw [otherClaims, otherClaims, hseats]
    refine List.flatMap_congr fun j hj => ?_
    have hne : j ≠ k := fun he => (hnodup.not_mem_erase (he ▸ hj)).elim
    rw [sessionSlots, sessionSlots, hs j hne, hdepth]
  have hclaims : p'.claims.Perm (p.otherClaims k) := by
    have hp := claims_perm (p := p') (hseats ▸ hk)
    rw [sessionSlots, CreditWindow.slots_nil hempty, List.nil_append, hother] at hp
    exact hp
  refine ⟨hcounted.perm (hclaims.symm.append_left extra'), ?_, hc ▸ h.config⟩
  constructor
  · intro j
    by_cases hj : j = k
    · exact hj ▸ hv
    · rw [hs j hj]
      exact h.seated.valid j
  · intro j
    rw [hdepth]
    by_cases hj : j = k
    · exact hj ▸ hw
    · rw [hs j hj]
      exact h.seated.width j
  · intro j hidle
    by_cases hj : j = k
    · exact hj ▸ hempty
    · rw [hs j hj] at hidle ⊢
      exact h.seated.idle j hidle

lemma Kept.teardown (h : p.Kept extra) (hk : k ∈ p.seats) : (p.teardown k).Kept extra := by
  have hclaims : p.claims.Perm
      ((List.range' (p.sessions k).window.creditedEnd (p.sessions k).window.outstanding).map
        (p.slotOf k) ++ p.otherClaims k) := claims_perm hk
  obtain ⟨hfold, hrest⟩ := Counted.foldl (f := releaseSequence k)
    (fun p q => rest_releaseSlotRef p _) (fun p q claims => Counted.releaseSlotRef) _
    (h.counted.perm ((hclaims.append_left extra).trans (List.perm_append_comm_assoc _ _ _)))
  have hsession : (p.teardown k).sessions k = p.retiredSession (p.sessions k) :=
    setSession_self _ k _
  refine h.clearSeat hk (congrArg Rest.config hrest) ?_
    ⟨hfold.balanced, hfold.capacity, hfold.sound⟩ ?_ ?_ ?_
  · intro j hj
    have hset := setSession_of_ne ((List.range' (p.sessions k).window.creditedEnd
      (p.sessions k).window.outstanding).foldl (releaseSequence k) p)
      (p.retiredSession (p.sessions k)) hj
    exact hset.trans (congrFun (congrArg Rest.sessions hrest) j)
  · rw [hsession]
    exact CreditWindow.reset_valid _ 0
  · rw [hsession]
    exact h.seated.width k
  · rw [hsession]
    rfl

lemma vacant_iff : p.vacant k = true ↔ k ∈ p.seats ∧ ((p.sessions k).state = .unknown ∨
    ((p.sessions k).state = .closed ∧ (p.sessions k).poisoned = false)) := by
  simp [vacant]

lemma clampGeometry_window (p : Publisher) (request : OpenRequest) :
    (p.clampGeometry request).creditWindow.toNat ≤ p.config.creditWindow.toNat :=
  UInt32.le_iff_toNat_le.mp Std.min_le_right

lemma Kept.claimTaken (h : p.Kept extra) (hk : k ∈ p.seats) (request : OpenRequest)
    (fresh : Fresh) : (p.claimSeat k request fresh).Kept (p.sessionSlots k ++ extra) := by
  have hclaims : (extra ++ p.claims).Perm (p.sessionSlots k ++ extra ++ p.otherClaims k) := by
    rw [List.append_assoc]
    exact ((claims_perm hk).append_left extra).trans (List.perm_append_comm_assoc _ _ _)
  have hcounted := h.counted.perm hclaims
  have hsession : (p.claimSeat k request fresh).sessions k =
      p.claimedSession (p.sessions k) request fresh := setSession_self _ k _
  refine h.clearSeat hk rfl (fun j hj => p.setSession_of_ne _ hj)
    ⟨hcounted.balanced, hcounted.capacity, hcounted.sound⟩ ?_ ?_ ?_
  · rw [hsession]
    exact ⟨le_refl 0, Nat.zero_le _⟩
  · rw [hsession]
    have hcw := UInt32.le_iff_toNat_le.mp h.config.sizes.window.2
    exact (p.clampGeometry_window request).trans hcw
  · rw [hsession]
    rfl

lemma Kept.claimSeat (h : p.Kept extra) (hk : p.vacant k = true) (request : OpenRequest)
    (fresh : Fresh) : (p.claimSeat k request fresh).Kept extra := by
  obtain ⟨hseat, hstate⟩ := vacant_iff.mp hk
  have hempty : p.sessionSlots k = [] :=
    CreditWindow.slots_nil (h.seated.idle k (hstate.imp_right And.left))
  have htaken := h.claimTaken hseat request fresh
  rwa [hempty, List.nil_append] at htaken

lemma Kept.onSendComplete (h : p.Kept extra) (send : Send) (success : Bool) :
    (p.onSendComplete send success).Kept extra := by
  have hset : (p.setSession send.seat (completedSession (p.sessions send.seat))).Kept extra :=
    h.setFields rfl rfl (.inl rfl)
  have hcounted := hset.counted
  obtain ⟨counters, -, heq⟩ := p.onSendComplete_eq send success
  rw [heq]
  exact hset.of_counted rfl rfl ⟨hcounted.balanced, hcounted.capacity, hcounted.sound⟩

end Publisher

/-! ### Runs -/

lemma publisherStep_kept {p p' : Publisher} {i : PublisherInput} {es : List PublisherEvent}
    {extra : List ℕ} (h : p.Kept extra) (hs : publisherStep p i = some (p', es)) :
    p'.Kept extra := by
  cases i with
  | acquire =>
    cases hs
    exact h.tryAcquire
  | reset =>
    obtain ⟨hi, rfl, -⟩ := of_guard hs
    exact h.resetHandle hi
  | publish lease metadata realtimeNs contended =>
    obtain ⟨hi, rfl, -⟩ := of_guard hs
    exact h.publish hi metadata realtimeNs contended
  | submit =>
    obtain ⟨p₁, hsub, heq⟩ := Option.map_eq_some_iff.mp hs
    obtain rfl : p₁ = p' := congrArg Prod.fst heq
    exact h.submitReady hsub
  | complete send success =>
    obtain ⟨-, rfl, -⟩ := of_guard hs
    exact h.onSendComplete send success
  | credit header =>
    cases hs
    exact h.handleCredit header
  | probeAck header =>
    cases hs
    exact h.handleProbeAck header
  | teardown =>
    obtain ⟨hk, rfl, -⟩ := of_guard hs
    exact h.teardown hk.1
  | «open» k request fresh =>
    obtain ⟨hk, rfl, -⟩ := of_guard hs
    exact h.claimSeat hk.1 request fresh
  | _ => exact h.quiet (publisherStep_quiet rfl hs)

namespace Publisher

lemma foldl_push_items (free : Fifo ℕ) (hempty : free.items = []) (n : ℕ) (hn : n ≤ free.capacity) :
    ((List.range n).foldl (fun free i => (free.push i).getD free) free).items = List.range n ∧
    ((List.range n).foldl (fun free i => (free.push i).getD free) free).capacity =
      free.capacity := by
  induction n with
  | zero => exact ⟨hempty, rfl⟩
  | succ n ih =>
    obtain ⟨hitems, hcap⟩ := ih (by omega)
    rw [List.range_succ, List.foldl_append, List.foldl_cons, List.foldl_nil]
    cases hpush : Fifo.push ((List.range n).foldl (fun free i => (free.push i).getD free) free) n with
    | none =>
      have hfull := Fifo.push_eq_none.mp hpush
      rw [hitems, hcap, List.length_range] at hfull
      omega
    | some =>
      obtain ⟨-, hi, hc⟩ := Fifo.push_eq_some.mp hpush
      exact ⟨by rw [Option.getD_some, hi, hitems], by rw [Option.getD_some, hc, hcap]⟩

lemma create_kept {c : PublisherConfig} (hc : c.Valid) (epoch : UInt64) (address : Bytes) :
    (create c epoch address).Kept [] := by
  have hle := le_roundUpPow2 c.ringDepth.toNat
  obtain ⟨hitems, hcap⟩ := foldl_push_items (boundedQueue c.ringDepth.toNat) rfl _ hle
  have hclaims : (create c epoch address).claims = [] := by
    refine List.flatMap_eq_nil_iff.mpr fun k _ => ?_
    exact CreditWindow.slots_nil rfl
  have hwidth : c.creditWindow.toNat ≤ c.ringDepth.toNat :=
    UInt32.le_iff_toNat_le.mp hc.sizes.window.2
  refine ⟨⟨?_, ?_, rfl⟩, ⟨fun k => ⟨le_refl 0, Nat.zero_le _⟩, fun k => hwidth, fun k _ => rfl⟩, hc⟩
  · have hpool := RefPool.balanced_range c.ringDepth.toNat
    rw [← hitems] at hpool
    rw [hclaims]
    exact hpool
  · exact hle.trans_eq hcap.symm

lemma count_slots (w : CreditWindow) (inflight : ℕ → InFlight) (depth i : ℕ) :
    (w.slots inflight depth).count i =
      ((Finset.Ico w.creditedEnd w.nextSequence).filter
        fun q => (inflight (q % depth)).slotIndex = i).card := by
  have hval : (Finset.Ico w.creditedEnd w.nextSequence).val =
      (List.range' w.creditedEnd w.outstanding : Multiset ℕ) := by
    rw [Nat.Ico_eq_range']
    rfl
  rw [Finset.card, Finset.filter_val, hval, Multiset.filter_coe, Multiset.coe_card,
    ← List.countP_eq_length_filter, CreditWindow.slots, List.count, List.countP_map]
  rfl

lemma count_claims (p : Publisher) (i : ℕ) :
    p.claims.count i = ∑ k ∈ Finset.range p.config.maxSessions.toNat,
      ((Finset.Ico (p.sessions k).window.creditedEnd (p.sessions k).window.nextSequence).filter
        fun q => p.slotOf k q = i).card := by
  have hsum : p.claims.count i = ∑ k ∈ Finset.range p.config.maxSessions.toNat,
      (p.sessionSlots k).count i := by
    rw [claims, List.count_flatMap]
    rfl
  rw [hsum]
  exact Finset.sum_congr rfl fun k _ => count_slots _ _ _ i

lemma Kept.handles_nodup {p : Publisher} (h : p.Kept []) : p.handles.Nodup := by
  refine List.nodup_iff_count_le_one.mpr fun i => ?_
  have hle := h.counted.balanced.places_le_one i
  simp only [RefPool.places, pool, List.count_append] at hle
  omega

lemma Kept.mem_refusePublish {p : Publisher} (h : p.Kept []) {i : ℕ} (hi : i ∈ p.handles)
    (r : PublishResult) : i ∈ (p.refusePublish i r).handles ↔
      r = .queueFull ∨ r = .wouldBlock ∨ r = .accepted := by
  have hgone : ∀ q : Publisher, q.handles = p.handles → i ∉ (q.resetHandle i).handles := by
    intro q hq
    have hr : (q.resetHandle i).handles = q.handles.erase i :=
      congrArg Rest.handles (rest_releaseSlot { q with handles := q.handles.erase i } i)
    rw [hr, hq]
    exact h.handles_nodup.not_mem_erase
  cases r with
  | accepted | wouldBlock | queueFull => exact iff_of_true hi (by simp)
  | shutdown => exact iff_of_false (hgone p rfl) (by simp)
  | badMetadata => exact iff_of_false (hgone (p.bump .droppedBadMetadata 1) rfl) (by simp)
  | noSession =>
    exact iff_of_false (hgone { p.bump .droppedNoSession 1 with
      droppedBeforeAll := p.droppedBeforeAll + 1 } rfl) (by simp)
  | creditStalled =>
    exact iff_of_false (hgone { p.bump .droppedCreditStalled 1 with
      droppedBeforeAll := p.droppedBeforeAll + 1 } rfl) (by simp)

lemma Kept.mem_publish {p : Publisher} (h : p.Kept []) {i : ℕ} (hi : i ∈ p.handles)
    (metadata : FrameMetadata) (realtimeNs : UInt64) (contended : Bool) :
    i ∈ (p.publish (some i) metadata realtimeNs contended).2.handles ↔
      (p.publish (some i) metadata realtimeNs contended).1 = .queueFull ∨
      (p.publish (some i) metadata realtimeNs contended).1 = .wouldBlock := by
  have hrefuse : ∀ r, r ≠ .accepted →
      (i ∈ (p.refusePublish i r).handles ↔ r = .queueFull ∨ r = .wouldBlock) := by
    intro r hr
    rw [h.mem_refusePublish hi r]
    simp [hr]
  rw [Publisher.publish]
  obtain ⟨result, hresult, heq⟩ | ⟨resolved, queue, -, -, heq⟩ :=
    p.publishLease_cases i metadata realtimeNs contended
  · rw [heq]
    exact hrefuse result hresult
  · rw [heq]
    exact iff_of_false h.handles_nodup.not_mem_erase (by simp)

end Publisher

/-- Every slot is in one place, and a retained one is counted by the sequences that read it. -/
structure SlotsConserved (p : Publisher) : Prop where
  placed : ∀ i < p.depth, p.freeSlots.items.count i + p.handles.count i +
    (p.publishQueue.items.map (·.slotIndex)).count i + (if 0 < p.slotRefs i then 1 else 0) = 1
  counted : ∀ i, p.slotRefs i = ∑ k ∈ Finset.range p.config.maxSessions.toNat,
    ((Finset.Ico (p.sessions k).window.creditedEnd (p.sessions k).window.nextSequence).filter
      fun q => p.slotOf k q = i).card
  sound : p.monitor.assertFailed = false
  engaged : ∀ i ∈ p.handles, ∀ metadata realtimeNs contended,
    i ∈ (p.publish (some i) metadata realtimeNs contended).2.handles ↔
      (p.publish (some i) metadata realtimeNs contended).1 = .queueFull ∨
      (p.publish (some i) metadata realtimeNs contended).1 = .wouldBlock

/-- Producer slots are conserved in every run of a publisher. Each call on the free list or on the
queue is one step, and the sequences are numbers, so the run is one of fewer than `2 ^ 64` frames. -/
theorem producer_slot_conservation {c : PublisherConfig} (hc : c.validate = .ok) (epoch : UInt64)
    (address : Bytes) {trace : List PublisherEvent} {p : Publisher}
    (h : publisherMachine.Reaches anyStep (Publisher.create c epoch address) trace p) :
    SlotsConserved p := by
  have hkept : p.Kept [] := by
    refine h.invariant (Publisher.Kept [])
      (Publisher.create_kept (PublisherConfig.validate_ok hc) epoch address) ?_
    intro p i p' es hp _ hs
    exact publisherStep_kept hp hs
  have hbal := hkept.counted.balanced
  refine ⟨fun i hi => ?_, fun i => ?_, hkept.counted.sound, fun i hi => hkept.mem_publish hi⟩
  · have hplaced : p.freeSlots.items.count i +
        (p.handles ++ p.publishQueue.items.map (·.slotIndex)).count i +
        (if 0 < p.slotRefs i then 1 else 0) = if i < p.depth then 1 else 0 := hbal.placed i
    rw [if_pos hi, List.count_append] at hplaced
    omega
  · exact (hbal.counted i).trans (p.count_claims i)

/-- Two sessions share a frame; one of them credits it and the other still holds it. -/
theorem producer_slot_conservation_sample :
    ∃ trace p, publisherMachine.Reaches anyStep (Publisher.create sampleConfig 1 [1]) trace p ∧
      (p.slotRefs 0 = 1 ∧ p.handles = [1]) ∧ SlotsConserved p := by
  obtain ⟨trace, p, hreach, hstate⟩ :=
    publisherMachine.exists_of_run anyStep (Publisher.create sampleConfig 1 [1])
      [.open 0 sampleOpen (sampleFresh 7), .probeAck (sampleProbeAck 7),
        .open 1 sampleOpen (sampleFresh 8), .probeAck (sampleProbeAck 8), .acquire,
        .publish (some 0) sampleMetadata 5 false, .submit (fun _ => .completed),
        .credit (sampleCredit 7 0), .acquire]
      (P := fun p _ => p.slotRefs 0 = 1 ∧ p.handles = [1]) (by decide +kernel)
  exact ⟨trace, p, hreach, hstate,
    producer_slot_conservation (c := sampleConfig) (by decide) 1 [1] hreach⟩

/-- On a free list of two slots one acquire stops behind its compare-and-swap; another thread brings
a slot, acquires it and releases it. -/
def hastyRelease : List (QueueInput ℕ) :=
  [.callPush 0 0, .access 0 false, .access 0 false, .access 0 false, .access 0 false,
    .access 0 false, .access 0 false, .callPop 0, .access 0 false, .access 0 false,
    .access 0 false, .callPush 1 1, .access 1 false, .access 1 false, .access 1 false,
    .access 1 false, .access 1 false, .access 1 false, .callPop 1, .access 1 false,
    .access 1 false, .access 1 false, .access 1 false, .access 1 false, .access 1 false,
    .access 1 false, .callPush 1 1, .access 1 false, .access 1 false]

/-- Access by access the push of a release may be refused with no slot left in the list: the cell it
needs is the one that the slow acquire has claimed and not given back. -/
theorem release_refused : ∃ trace h,
    (cellMachine ℕ).Reaches QueueHistory.timely (.create 2) trace h ∧
      .refused 1 (some 1) (some 1) ∈ trace ∧ h.claims .push = 2 ∧ h.claims .pop = 2 :=
  (cellMachine ℕ).exists_of_run QueueHistory.timely (.create 2) hastyRelease (by decide +kernel)

end TangoBulk
