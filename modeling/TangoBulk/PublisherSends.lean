import TangoBulk.PublisherSlots

/-! Producer slots and header buffers under outstanding sends. A slot goes back to the
producer when it is credited or its session is torn down; neither waits for the send itself
to complete. -/
namespace TangoBulk

open ByteString Transition

namespace Publisher

/-- Every send of the seat below the given sequence has completed. -/
def sendsDoneBelow (p : Publisher) (k q : ℕ) : Bool :=
  p.sends.all fun send => send.seat ≠ k ∨ q ≤ send.sequence

/-- A credit that is applied covers completed sends only, and teardown has collected all
completions of its session. -/
def completionsRespected (p : Publisher) : PublisherInput → Bool
  | .credit header =>
    match decodeCredit header with
    | .error _ => true
    | .ok credit =>
      match p.sessionForStream credit.streamId with
      | none => true
      | some k =>
        (p.sessions k).window.nextSequence ≤ credit.value.toNat ∨
          p.sendsDoneBelow k (credit.value.toNat + 1)
  | .teardown k => p.sends.all fun send => send.seat ≠ k
  | _ => true

/-- An outstanding send is one of its session's uncredited sequences. -/
structure Backed (p : Publisher) (send : Send) : Prop where
  seat : send.seat ∈ p.seats
  credited : (p.sessions send.seat).window.creditedEnd ≤ send.sequence
  submitted : send.sequence < (p.sessions send.seat).window.nextSequence
  slot : p.slotOf send.seat send.sequence = send.slotIndex
  header : send.headerIndex = send.sequence % p.depth

structure Tracked (p : Publisher) : Prop where
  backed : ∀ send ∈ p.sends, p.Backed send
  freed : p.monitor.freedBusy = false
  rewrote : p.monitor.rewroteBusy = false

variable {p p' : Publisher} {extra : List ℕ} {k i : ℕ} {item : PublishItem}

lemma Backed.mem_claims {send : Send} (h : p.Backed send) : send.slotIndex ∈ p.claims := by
  have hc := h.credited
  have hs := h.submitted
  refine List.mem_flatMap.mpr ⟨send.seat, h.seat, List.mem_map.mpr ⟨send.sequence, ?_, h.slot⟩⟩
  rw [List.mem_range'_1, CreditWindow.outstanding]
  omega

lemma Backed.mem_otherClaims {send : Send} (h : p.Backed send) (hk : send.seat ≠ k) :
    send.slotIndex ∈ p.otherClaims k := by
  have hc := h.credited
  have hs := h.submitted
  refine List.mem_flatMap.mpr ⟨send.seat, (List.mem_erase_of_ne hk).mpr h.seat,
    List.mem_map.mpr ⟨send.sequence, ?_, h.slot⟩⟩
  rw [List.mem_range'_1, CreditWindow.outstanding]
  omega

lemma Backed.congr {send : Send} (h : p.Backed send) (hc : p'.config = p.config)
    (hw : (p'.sessions send.seat).window = (p.sessions send.seat).window)
    (hi : (p'.sessions send.seat).inflight = (p.sessions send.seat).inflight) : p'.Backed send := by
  have hdepth : p'.depth = p.depth := by rw [depth, depth, hc]
  refine ⟨?_, hw ▸ h.credited, hw ▸ h.submitted, ?_, hdepth ▸ h.header⟩
  · rw [seats, hc]
    exact h.seat
  · rw [slotOf, hi, hdepth]
    exact h.slot

lemma Tracked.congr (h : p.Tracked) (hc : p'.config = p.config) (hsends : p'.sends = p.sends)
    (hw : ∀ j, (p'.sessions j).window = (p.sessions j).window)
    (hi : ∀ j, (p'.sessions j).inflight = (p.sessions j).inflight)
    (hf : p'.monitor.freedBusy = p.monitor.freedBusy)
    (hr : p'.monitor.rewroteBusy = p.monitor.rewroteBusy) : p'.Tracked := by
  refine ⟨fun send hs => ?_, hf.trans h.freed, hr.trans h.rewrote⟩
  rw [hsends] at hs
  exact (h.backed send hs).congr hc (hw send.seat) (hi send.seat)

lemma Tracked.setFields {s : Session} (h : p.Tracked)
    (hw : s.window = (p.sessions k).window) (hi : s.inflight = (p.sessions k).inflight) :
    (p.setSession k s).Tracked := by
  refine h.congr rfl rfl (fun j => ?_) (fun j => ?_) rfl rfl
  · by_cases hj : j = k
    · subst hj
      rw [setSession_self, hw]
    · rw [p.setSession_of_ne s hj]
  · by_cases hj : j = k
    · subst hj
      rw [setSession_self, hi]
    · rw [p.setSession_of_ne s hj]

lemma Tracked.bump (h : p.Tracked) (c : PublisherCounter) (n : ℕ) : (p.bump c n).Tracked :=
  h.congr rfl rfl (fun _ => rfl) (fun _ => rfl) rfl rfl

lemma Tracked.refreshGauges (h : p.Tracked) : p.refreshGauges.Tracked :=
  h.congr rfl rfl (fun _ => rfl) (fun _ => rfl) rfl rfl

/-! ### Releases -/

lemma monitor_releaseSlot (hroom : p.freeSlots.items.length < p.freeSlots.capacity)
    (hs : ∀ send ∈ p.sends, send.slotIndex ≠ i) : (p.releaseSlot i).monitor = p.monitor := by
  obtain ⟨free, -, -, heq⟩ := releaseSlot_eq (i := i) hroom
  have hany : p.sends.any (·.slotIndex = i) = false := by
    rw [List.any_eq_false]
    intro send hsend
    simpa using hs send hsend
  rw [heq]
  simp [hany]

lemma monitor_releaseSlotRef {claims : List ℕ} (h : p.Counted (i :: claims))
    (hs : ∀ send ∈ p.sends, send.slotIndex ∈ claims) :
    (p.releaseSlotRef i).monitor = p.monitor := by
  have hpos : 0 < p.slotRefs i := h.balanced.refs_pos
  obtain ⟨n, hn⟩ := Nat.exists_eq_succ_of_ne_zero (Nat.pos_iff_ne_zero.mp hpos)
  simp only [releaseSlotRef, hn]
  split_ifs with hz
  · subst hz
    have hroom := (h.balanced.room (.inr hpos)).trans_le h.capacity
    refine monitor_releaseSlot (p := { p with slotRefs := Function.update p.slotRefs i 0 })
      hroom ?_
    rintro send hsend rfl
    have hcount : p.slotRefs send.slotIndex = (send.slotIndex :: claims).count send.slotIndex :=
      h.balanced.counted send.slotIndex
    have hmem := List.count_pos_iff.mpr (hs send hsend)
    rw [List.count_cons_self, hn] at hcount
    omega
  · rfl

lemma monitor_foldl {f : Publisher → ℕ → Publisher} {k : ℕ} (hrest : ∀ p q, (f p q).rest = p.rest)
    (hturn : ∀ p q claims, p.Counted (p.slotOf k q :: claims) → (f p q).Counted claims)
    (hmon : ∀ p q, (f p q).monitor = (p.releaseSlotRef (p.slotOf k q)).monitor)
    {claims : List ℕ} (qs : List ℕ) {p : Publisher} (h : p.Counted (qs.map (p.slotOf k) ++ claims))
    (hs : ∀ send ∈ p.sends, send.slotIndex ∈ claims) : (qs.foldl f p).monitor = p.monitor := by
  induction qs generalizing p with
  | nil => rfl
  | cons q qs ih =>
    have hslots := slotOf_of_rest (hrest p q)
    have hsends : (f p q).sends = p.sends := congrArg Rest.sends (hrest p q)
    have hturned : (f p q).Counted (qs.map ((f p q).slotOf k) ++ claims) := by
      rw [hslots]
      exact hturn p q _ h
    have hfirst : (f p q).monitor = p.monitor := by
      rw [hmon]
      exact monitor_releaseSlotRef h fun send hsend => List.mem_append_right _ (hs send hsend)
    rw [List.foldl_cons, ih hturned (hsends ▸ hs), hfirst]

lemma Tracked.resetHandle (ht : p.Tracked) (h : p.Kept []) (hi : i ∈ p.handles) :
    (p.resetHandle i).Tracked := by
  have hheld : i ∈ p.pool.held := List.mem_append_left _ hi
  have hr : (p.resetHandle i).rest = { p with handles := p.handles.erase i }.rest :=
    rest_releaseSlot _ i
  have hmon : (p.resetHandle i).monitor = p.monitor := by
    refine monitor_releaseSlot (p := { p with handles := p.handles.erase i })
      ((h.counted.balanced.room (.inl hheld)).trans_le h.counted.capacity) ?_
    rintro send hsend rfl
    exact h.counted.balanced.not_mem_claims (h.counted.balanced.refs_of_held hheld)
      (ht.backed send hsend).mem_claims
  have hsessions : (p.resetHandle i).sessions = p.sessions := congrArg Rest.sessions hr
  refine ht.congr (congrArg Rest.config hr) (congrArg Rest.sends hr) ?_ ?_ ?_ ?_
  · intro j
    rw [hsessions]
  · intro j
    rw [hsessions]
  · rw [hmon]
  · rw [hmon]

lemma Tracked.quiet (ht : p.Tracked) (hq : p.Quiet p') : p'.Tracked := by
  have hmonitor : p'.monitor = p.monitor := congrArg Stock.monitor hq.stock
  exact ht.congr (congrArg Stock.config hq.stock) (congrArg Stock.sends hq.stock)
    (fun j => (hq.sessions j).window) (fun j => (hq.sessions j).inflight) (by rw [hmonitor])
    (by rw [hmonitor])

lemma Tracked.refusePublish (ht : p.Tracked) (h : p.Kept []) (hi : i ∈ p.handles)
    (r : PublishResult) : (p.refusePublish i r).Tracked := by
  obtain hquiet | ⟨q, hquiet, heq⟩ := p.refusePublish_cases i r
  · exact ht.quiet hquiet
  · have hhandles : q.handles = p.handles := congrArg Stock.handles hquiet.stock
    rw [heq]
    exact (ht.quiet hquiet).resetHandle (h.quiet hquiet) (hhandles ▸ hi)

lemma Tracked.publish (ht : p.Tracked) (h : p.Kept []) {lease : Option ℕ}
    (hi : ∀ i ∈ lease, i ∈ p.handles) (metadata : FrameMetadata) (realtimeNs : UInt64)
    (contended : Bool) : (p.publish lease metadata realtimeNs contended).2.Tracked := by
  cases lease with
  | none => exact ht
  | some i =>
    have hi : i ∈ p.handles := hi i rfl
    rw [Publisher.publish]
    obtain ⟨result, -, heq⟩ | ⟨resolved, queue, -, -, heq⟩ :=
      p.publishLease_cases i metadata realtimeNs contended
    · rw [heq]
      exact ht.refusePublish h hi result
    · rw [heq]
      exact ht.congr rfl rfl (fun j => rfl) (fun j => rfl) rfl rfl

/-! ### Fan-out -/

lemma Tracked.visitSeat (ht : p.Tracked) (item : PublishItem) (k : ℕ) :
    (p.visitSeat item k).2.Tracked := by
  unfold Publisher.visitSeat
  dsimp only
  split_ifs
  · exact ht
  · have hset := ht.setFields (k := k) (s := { p.sessions k with
      processedOrdinal := item.ordinal + 1
      droppedForSession := (p.sessions k).droppedForSession + 1 }) rfl rfl
    exact hset.congr rfl rfl (fun j => rfl) (fun j => rfl) rfl rfl
  · have hset := ht.setFields (k := k) (s := { p.sessions k with
      processedOrdinal := item.ordinal + 1 }) rfl rfl
    exact hset.congr rfl rfl (fun j => rfl) (fun j => rfl) rfl rfl

lemma Backed.index_ne {send : Send} (hb : p.Backed send) (h : p.Seated)
    (hroom : (p.sessions send.seat).window.canSubmit = true) :
    send.sequence % p.depth ≠ (p.sessions send.seat).window.nextSequence % p.depth := by
  have hlt := h.room hroom
  have hc := hb.credited
  have hs := hb.submitted
  unfold CreditWindow.outstanding at hlt
  exact Ring.index_ne hc (by omega) (h.valid send.seat).credited_le (by omega) (by omega)

lemma Tracked.recordInFlight (ht : p.Tracked) (h : p.Seated)
    (hroom : (p.sessions k).window.canSubmit = true) : (p.recordInFlight k item).Tracked := by
  have hfree : p.sends.any (fun send => send.seat = k ∧
      send.headerIndex = (p.sessions k).window.nextSequence % p.depth) = false := by
    rw [List.any_eq_false]
    intro send hsend
    have hb := ht.backed send hsend
    simp only [decide_eq_true_eq, not_and]
    rintro rfl
    rw [hb.header]
    exact hb.index_ne h hroom
  refine ⟨fun send hsend => ?_, ht.freed, ?_⟩
  · have hb := ht.backed send hsend
    by_cases hk : send.seat = k
    · subst hk
      have hself := p.recordInFlight_session send.seat item
      refine ⟨hb.seat, ?_, ?_, ?_, hb.header⟩
      · rw [hself]
        exact hb.credited
      · rw [hself]
        exact hb.submitted
      · rw [slotOf, hself]
        exact (congrArg InFlight.slotIndex
          (Function.update_of_ne (hb.index_ne h hroom) _ _)).trans hb.slot
    · have hother : (p.recordInFlight k item).sessions send.seat = p.sessions send.seat :=
        p.setSession_of_ne _ hk
      exact hb.congr rfl (congrArg Session.window hother) (congrArg Session.inflight hother)
  · change (p.monitor.rewroteBusy || _) = false
    rw [ht.rewrote, hfree]
    rfl

lemma Tracked.noteSent (ht : p.Tracked) (h : p.Seated) (hk : k ∈ p.seats)
    (hentry : ((p.sessions k).inflight ((p.sessions k).window.nextSequence % p.depth)).slotIndex =
      item.slotIndex) (pending : Bool) : (p.noteSent k item pending).Tracked := by
  have hold : ∀ send ∈ p.sends,
      (p.setSession k (noteSentSession (p.sessions k) pending)).Backed send := by
    intro send hsend
    have hb := ht.backed send hsend
    by_cases hj : send.seat = k
    · subst hj
      refine ⟨hb.seat, ?_, ?_, ?_, hb.header⟩
      · rw [setSession_self]
        exact hb.credited
      · rw [setSession_self]
        exact Nat.lt_succ_of_lt hb.submitted
      · rw [slotOf, setSession_self]
        exact hb.slot
    · have hother := p.setSession_of_ne (noteSentSession (p.sessions k) pending) hj
      exact hb.congr rfl (congrArg Session.window hother) (congrArg Session.inflight hother)
  unfold Publisher.noteSent
  split_ifs with hp
  · refine ⟨fun send hsend => ?_, ht.freed, ht.rewrote⟩
    rcases List.mem_cons.mp hsend with rfl | hsend
    · have hs := p.setSession_self k (noteSentSession (p.sessions k) pending)
      refine ⟨hk, ?_, ?_, ?_, rfl⟩
      · exact (congrArg (fun s : Session => s.window.creditedEnd) hs).trans_le
          (h.valid k).credited_le
      · exact (Nat.lt_succ_self _).trans_eq
          (congrArg (fun s : Session => s.window.nextSequence) hs).symm
      · exact (congrArg (fun s : Session => (s.inflight _).slotIndex) hs).trans hentry
    · exact (hold send hsend).congr rfl rfl rfl
  · exact ⟨fun send hsend => (hold send hsend).congr rfl rfl rfl, ht.freed, ht.rewrote⟩

lemma Tracked.submitTo (ht : p.Tracked) (h : p.Kept (item.slotIndex :: extra))
    (hk : k ∈ p.seats) (hroom : (p.sessions k).window.canSubmit = true) (answer : SendAnswer) :
    (p.submitTo k item answer).2.Tracked := by
  have hrec : (p.recordInFlight k item).Tracked := ht.recordInFlight h.seated hroom
  have hkept : (p.recordInFlight k item).Kept (item.slotIndex :: extra) := h.recordInFlight hroom
  have hsent : ∀ pending, ((p.recordInFlight k item).noteSent k item pending).Tracked := by
    intro pending
    refine hrec.noteSent hkept.seated hk ?_ pending
    rw [recordInFlight_session]
    exact congrArg InFlight.slotIndex (p.recordedSession_entry (p.sessions k) item)
  cases answer with
  | refused => exact (hrec.bump .transportErrors 1).quiet (quiet_beginExpiry _ k .transport)
  | completed => exact hsent false
  | pending => exact hsent true

lemma Tracked.fanOutSeat (ht : p.Tracked) (h : p.Kept (item.slotIndex :: extra))
    (hk : k ∈ p.seats) (answers : ℕ → SendAnswer) : (fanOutSeat item answers p k).Tracked := by
  have hvisit := ht.visitSeat item k
  have hk' : k ∈ (p.visitSeat item k).2.seats := by
    have hconfig : (p.visitSeat item k).2.config = p.config :=
      congrArg FanSettings.config (fanSettings_visitSeat p item k)
    rw [seats, hconfig]
    exact hk
  unfold Publisher.fanOutSeat
  dsimp only
  obtain ⟨hv, -⟩ | ⟨hv, hkept, hroom, -⟩ := h.visitSeat k
  · rw [hv, if_neg Bool.false_ne_true]
    exact hvisit
  · have hsub := hvisit.submitTo hkept hk' hroom (answers k)
    rw [hv, if_pos rfl]
    split_ifs
    · exact hsub
    · exact hsub.congr rfl rfl (fun j => rfl) (fun j => rfl) rfl rfl

lemma Tracked.foldl_fanOutSeat (answers : ℕ → SendAnswer) (ks : List ℕ) (ht : p.Tracked)
    (h : p.Kept (item.slotIndex :: extra)) (hks : ∀ k ∈ ks, k ∈ p.seats) :
    (ks.foldl (Publisher.fanOutSeat item answers) p).Tracked := by
  induction ks generalizing p with
  | nil => exact ht
  | cons k ks ih =>
    have hk := hks k List.mem_cons_self
    refine ih (ht.fanOutSeat h hk answers) (h.fanOutSeat hk answers) ?_
    intro j hj
    rw [seats, config_fanOutSeat]
    exact hks j (List.mem_cons_of_mem k hj)

lemma Tracked.releaseSlotRef (ht : p.Tracked) (h : p.Kept [i]) : (p.releaseSlotRef i).Tracked := by
  have hr := rest_releaseSlotRef p i
  have hsessions : (p.releaseSlotRef i).sessions = p.sessions := congrArg Rest.sessions hr
  have hmon := monitor_releaseSlotRef h.counted fun send hsend => (ht.backed send hsend).mem_claims
  refine ht.congr (congrArg Rest.config hr) (congrArg Rest.sends hr) ?_ ?_ ?_ ?_
  · intro j
    rw [hsessions]
  · intro j
    rw [hsessions]
  · rw [hmon]
  · rw [hmon]

lemma Tracked.finishFanOut (ht : p.Tracked) (h : p.Kept [item.slotIndex]) :
    (p.finishFanOut item).Tracked := by
  unfold Publisher.finishFanOut
  apply Tracked.refreshGauges
  split_ifs
  · have hb := h.bump .droppedNoSession 1
    refine Tracked.releaseSlotRef ?_ ?_
    · exact ht.congr rfl rfl (fun _ => rfl) (fun _ => rfl) rfl rfl
    · exact hb.of_counted rfl rfl ⟨hb.counted.balanced, hb.counted.capacity, hb.counted.sound⟩
  · exact ht.releaseSlotRef h

lemma Tracked.submitReady (ht : p.Tracked) (h : p.Kept []) {answers : ℕ → SendAnswer}
    (hs : p.submitReady answers = some p') : p'.Tracked := by
  obtain ⟨⟨item, queue⟩, hpop, rfl⟩ := Option.map_eq_some_iff.mp hs
  have hstart := h.startFanOut hpop
  have htstart : ({ p with publishQueue := queue }.startFanOut item).Tracked :=
    ht.congr rfl rfl (fun _ => rfl) (fun _ => rfl) rfl rfl
  have hfold := htstart.foldl_fanOutSeat answers _ hstart fun k hk => hk
  exact hfold.finishFanOut (hstart.foldl_fanOutSeat answers _ fun k hk => hk)

/-! ### Credits, teardown and Open -/

lemma monitor_creditSequence (p : Publisher) (k q : ℕ) :
    (creditSequence k p q).monitor = (p.releaseSlotRef (p.slotOf k q)).monitor := by
  unfold creditSequence
  dsimp only
  split_ifs <;> rfl

lemma sendsDoneBelow_iff {q : ℕ} : p.sendsDoneBelow k q = true ↔
    ∀ send ∈ p.sends, send.seat = k → q ≤ send.sequence := by
  simp only [sendsDoneBelow, List.all_eq_true, decide_eq_true_eq]
  refine forall₂_congr fun send _ => ?_
  rw [ne_eq, imp_iff_not_or]

lemma Tracked.moveWindow (ht : p.Tracked) {ack : ℕ}
    (hdone : (p.sessions k).window.nextSequence ≤ ack ∨ p.sendsDoneBelow k (ack + 1) = true) :
    (p.moveWindow k ack).Tracked := by
  refine ⟨fun send hsend => ?_, ht.freed, ht.rewrote⟩
  have hb := ht.backed send hsend
  by_cases hk : send.seat = k
  · subst hk
    have hself : (p.moveWindow send.seat ack).sessions send.seat = { p.sessions send.seat with
        window := ((p.sessions send.seat).window.applyCredit ack).2 } := p.setSession_self _ _
    refine ⟨hb.seat, ?_, ?_, ?_, hb.header⟩
    · rw [hself]
      obtain ⟨-, he⟩ | ⟨-, -, he⟩ | ⟨hlt, -, he⟩ :=
        CreditWindow.applyCredit_cases (p.sessions send.seat).window ack
      · rw [he]
        exact hb.credited
      · rw [he]
        exact hb.credited
      · rw [he]
        rcases hdone with hdone | hdone
        · omega
        · exact sendsDoneBelow_iff.mp hdone send hsend rfl
    · rw [hself]
      exact hb.submitted.trans_eq (CreditWindow.applyCredit_next _ ack).symm
    · rw [slotOf, hself]
      exact hb.slot
  · have hother : (p.moveWindow k ack).sessions send.seat = p.sessions send.seat :=
      p.setSession_of_ne _ hk
    exact hb.congr rfl (congrArg Session.window hother) (congrArg Session.inflight hother)

lemma Tracked.applyCredit (ht : p.Tracked) (h : p.Kept []) (hk : k ∈ p.seats) {ack : ℕ}
    (hdone : (p.sessions k).window.nextSequence ≤ ack ∨ p.sendsDoneBelow k (ack + 1) = true) :
    (p.applyCredit k ack).Tracked := by
  have hmoved := ht.moveWindow hdone
  have hkept := h.moveWindow hk ack
  have hrest := hkept.foldl_creditSequence.2
  have hcounted := hkept.counted
  rw [List.append_nil] at hcounted
  have hmon := monitor_foldl (f := creditSequence k) (fun p q => rest_creditSequence p k q)
    (fun p q claims => Counted.creditSequence) (fun p q => monitor_creditSequence p k q) _
    hcounted fun send hsend => (hmoved.backed send hsend).mem_claims
  have hsessions := congrArg Rest.sessions hrest
  have hreleased : ((p.releasedSequences k ack).foldl (creditSequence k)
      (p.moveWindow k ack)).Tracked := by
    refine hmoved.congr (congrArg Rest.config hrest) (congrArg Rest.sends hrest) ?_ ?_ ?_ ?_
    · exact fun j => congrArg Session.window (congrFun hsessions j)
    · exact fun j => congrArg Session.inflight (congrFun hsessions j)
    all_goals rw [hmon]
  unfold Publisher.applyCredit
  dsimp only
  split_ifs
  · exact ht.bump .malformedMessages 1
  · exact hreleased.refreshGauges
  · exact hreleased

lemma Tracked.handleCredit (ht : p.Tracked) (h : p.Kept []) {header : Bytes}
    (hok : p.completionsRespected (.credit header) = true) : (p.handleCredit header).Tracked := by
  have hbad := ht.bump .malformedMessages 1
  unfold Publisher.handleCredit
  cases hdecode : decodeCredit header with
  | error => exact hbad
  | ok credit =>
    dsimp only
    cases hfind : p.sessionForStream credit.streamId with
    | none => exact hbad
    | some =>
      simp only [completionsRespected, hdecode, hfind] at hok
      exact ht.applyCredit h (sessionForStream_mem hfind).1 (of_decide_eq_true hok)

lemma Tracked.teardown (ht : p.Tracked) (h : p.Kept []) (hk : k ∈ p.seats)
    (hok : p.completionsRespected (.teardown k) = true) : (p.teardown k).Tracked := by
  have hnone : ∀ send ∈ p.sends, send.seat ≠ k := by
    simpa [completionsRespected] using hok
  have hclaims : p.claims.Perm
      ((List.range' (p.sessions k).window.creditedEnd (p.sessions k).window.outstanding).map
        (p.slotOf k) ++ p.otherClaims k) := claims_perm hk
  have hcounted := h.counted.perm hclaims
  obtain ⟨-, hrest⟩ := Counted.foldl (f := releaseSequence k)
    (fun p q => rest_releaseSlotRef p _) (fun p q claims => Counted.releaseSlotRef) _ hcounted
  have hmon := monitor_foldl (f := releaseSequence k) (fun p q => rest_releaseSlotRef p _)
    (fun p q claims => Counted.releaseSlotRef) (fun p q => rfl) _ hcounted
    fun send hsend => (ht.backed send hsend).mem_otherClaims (hnone send hsend)
  have hother : ∀ j, j ≠ k → (p.teardown k).sessions j = p.sessions j := by
    intro j hj
    exact (setSession_of_ne _ _ hj).trans (congrFun (congrArg Rest.sessions hrest) j)
  have hsends : (p.teardown k).sends = p.sends := congrArg Rest.sends hrest
  have hmonitor : (p.teardown k).monitor = p.monitor := hmon
  refine ⟨fun send hsend => ?_, hmonitor ▸ ht.freed, hmonitor ▸ ht.rewrote⟩
  rw [hsends] at hsend
  have hsame := hother send.seat (hnone send hsend)
  exact (ht.backed send hsend).congr (congrArg Rest.config hrest)
    (congrArg Session.window hsame) (congrArg Session.inflight hsame)

lemma Tracked.claimSeat (ht : p.Tracked) (h : p.Kept []) (hk : p.vacant k = true)
    (request : OpenRequest) (fresh : Fresh) : (p.claimSeat k request fresh).Tracked := by
  obtain ⟨-, hstate⟩ := vacant_iff.mp hk
  have hidle := h.seated.idle k (hstate.imp_right And.left)
  refine ⟨fun send hsend => ?_, ht.freed, ht.rewrote⟩
  have hb := ht.backed send hsend
  have hne : send.seat ≠ k := by
    rintro rfl
    have hc := hb.credited
    have hs := hb.submitted
    unfold CreditWindow.outstanding at hidle
    omega
  have hother : (p.claimSeat k request fresh).sessions send.seat = p.sessions send.seat :=
    p.setSession_of_ne _ hne
  exact hb.congr rfl (congrArg Session.window hother) (congrArg Session.inflight hother)

lemma Tracked.onSendComplete (ht : p.Tracked) (send : Send) (success : Bool) :
    (p.onSendComplete send success).Tracked := by
  have hset := ht.setFields (k := send.seat)
    (s := completedSession (p.sessions send.seat)) rfl rfl
  obtain ⟨counters, -, heq⟩ := p.onSendComplete_eq send success
  rw [heq]
  exact ⟨fun s hs => (hset.backed s (List.mem_of_mem_erase hs)).congr rfl rfl rfl, ht.freed,
    ht.rewrote⟩

lemma Tracked.handleProbeAck (ht : p.Tracked) (header : Bytes) :
    (p.handleProbeAck header).Tracked := by
  have hbad := ht.bump .malformedMessages 1
  unfold Publisher.handleProbeAck
  split
  · exact hbad
  · split
    · exact hbad
    · split_ifs
      · exact hbad
      · unfold arm
        dsimp only
        split_ifs
        · apply Tracked.refreshGauges
          exact ht.setFields rfl rfl
        · exact ht

end Publisher

/-! ### Runs -/

lemma publisherStep_tracked {p p' : Publisher} {i : PublisherInput} {es : List PublisherEvent}
    (ht : p.Tracked) (h : p.Kept []) (hok : p.completionsRespected i = true)
    (hs : publisherStep p i = some (p', es)) : p'.Tracked := by
  cases i with
  | acquire =>
    cases hs
    unfold Publisher.tryAcquire
    split
    · exact ht.bump .acquireFailed 1
    · exact ht.congr rfl rfl (fun _ => rfl) (fun _ => rfl) rfl rfl
  | reset =>
    obtain ⟨hi, rfl, -⟩ := of_guard hs
    exact ht.resetHandle h hi
  | publish lease metadata realtimeNs contended =>
    obtain ⟨hi, rfl, -⟩ := of_guard hs
    exact ht.publish h hi metadata realtimeNs contended
  | submit =>
    obtain ⟨p₁, hsub, heq⟩ := Option.map_eq_some_iff.mp hs
    obtain rfl : p₁ = p' := congrArg Prod.fst heq
    exact ht.submitReady h hsub
  | complete send success =>
    obtain ⟨-, rfl, -⟩ := of_guard hs
    exact ht.onSendComplete send success
  | credit =>
    cases hs
    exact ht.handleCredit h hok
  | probeAck header =>
    cases hs
    exact ht.handleProbeAck header
  | teardown =>
    obtain ⟨hk, rfl, -⟩ := of_guard hs
    exact ht.teardown h hk.1 hok
  | «open» k request fresh =>
    obtain ⟨hk, rfl, -⟩ := of_guard hs
    exact ht.claimSeat h hk.1 request fresh
  | _ => exact ht.quiet (publisherStep_quiet rfl hs)

/-- In every run in which credits cover completed sends only and teardown collects every
completion, no slot is freed and no header rewritten under an outstanding send. -/
theorem no_reuse_under_send {c : PublisherConfig} (hc : c.validate = .ok) (epoch : UInt64)
    (address : Bytes) {trace : List PublisherEvent} {p : Publisher}
    (h : publisherMachine.Reaches (fun p i => p.completionsRespected i = true)
      (Publisher.create c epoch address) trace p) :
    p.monitor.freedBusy = false ∧ p.monitor.rewroteBusy = false := by
  have hinv : p.Kept [] ∧ p.Tracked := by
    refine h.invariant (fun p => p.Kept [] ∧ p.Tracked)
      ⟨Publisher.create_kept (PublisherConfig.validate_ok hc) epoch address, ?_, rfl, rfl⟩ ?_
    · intro send hsend
      cases hsend
    · intro p i p' es hp hok hs
      exact ⟨publisherStep_kept hp.1 hs, publisherStep_tracked hp.2 hp.1 hok hs⟩
  exact ⟨hinv.2.freed, hinv.2.rewrote⟩

/-- A frame whose send completes before its credit, and whose session is then torn down. -/
theorem no_reuse_under_send_sample :
    ∃ trace p, publisherMachine.Reaches (fun p i => p.completionsRespected i = true)
        (Publisher.create sampleConfig 1 [1]) trace p ∧
      (p.sessions 0).state = .closed ∧ p.freeSlots.items = [1, 0] ∧
      p.monitor.freedBusy = false ∧ p.monitor.rewroteBusy = false := by
  obtain ⟨trace, p, hreach, hstate⟩ :=
    publisherMachine.exists_of_run (fun p i => p.completionsRespected i = true)
      (Publisher.create sampleConfig 1 [1])
      [.open 0 sampleOpen (sampleFresh 7), .probeAck (sampleProbeAck 7), .acquire,
        .publish (some 0) sampleMetadata 5 false, .submit (fun _ => .pending),
        .complete { seat := 0, sequence := 0, slotIndex := 0, headerIndex := 0 } true,
        .credit (sampleCredit 7 0), .expire 0 .expire, .teardown 0]
      (P := fun p _ => (p.sessions 0).state = .closed ∧ p.freeSlots.items = [1, 0])
      (by decide +kernel)
  exact ⟨trace, p, hreach, hstate.1, hstate.2,
    no_reuse_under_send (c := sampleConfig) (by decide) 1 [1] hreach⟩

/-- A credit frees a slot under its send, and its header is then rewritten; so does a teardown
whose waits run out. -/
theorem reuse_under_send :
    (∃ trace p, publisherMachine.Reaches anyStep (Publisher.create sampleConfig 1 [1]) trace p ∧
      p.monitor.freedBusy = true) ∧
    (∃ trace p, publisherMachine.Reaches anyStep (Publisher.create sampleConfig 1 [1]) trace p ∧
      p.monitor.rewroteBusy = true) ∧
    (∃ trace p, publisherMachine.Reaches anyStep (Publisher.create sampleConfig 1 [1]) trace p ∧
      (p.sessions 0).poisoned = true ∧ p.monitor.freedBusy = true) := by
  refine ⟨?_, ?_, ?_⟩
  · exact publisherMachine.exists_of_run anyStep (Publisher.create sampleConfig 1 [1])
      [.open 0 sampleOpen (sampleFresh 7), .probeAck (sampleProbeAck 7), .acquire,
        .publish (some 0) sampleMetadata 5 false, .submit (fun _ => .pending),
        .credit (sampleCredit 7 0)]
      (P := fun p _ => p.monitor.freedBusy = true) (by decide +kernel)
  · exact publisherMachine.exists_of_run anyStep (Publisher.create sampleConfig 1 [1])
      [.open 0 sampleOpen (sampleFresh 7), .probeAck (sampleProbeAck 7), .acquire,
        .publish (some 0) sampleMetadata 5 false, .submit (fun _ => .pending),
        .credit (sampleCredit 7 0), .acquire, .publish (some 1) sampleMetadata 6 false,
        .submit (fun _ => .completed), .credit (sampleCredit 7 1), .acquire,
        .publish (some 0) sampleMetadata 7 false, .submit (fun _ => .completed)]
      (P := fun p _ => p.monitor.rewroteBusy = true) (by decide +kernel)
  · exact publisherMachine.exists_of_run anyStep (Publisher.create sampleConfig 1 [1])
      [.open 0 sampleOpen (sampleFresh 7), .probeAck (sampleProbeAck 7), .acquire,
        .publish (some 0) sampleMetadata 5 false, .submit (fun _ => .pending),
        .expire 0 .expire, .teardown 0]
      (P := fun p _ => (p.sessions 0).poisoned = true ∧ p.monitor.freedBusy = true)
      (by decide +kernel)

end TangoBulk
