import TangoBulk.PublisherMoves

/-! The life of a session in every run whose Opens do not overlap: the order of its states, its one
end, its one teardown, its frames after its probe, and the three counters. -/
namespace TangoBulk

open ByteString Transition Function

namespace SeatTable

/-- The table of a publisher that nobody has opened a session on. -/
structure Vacant (t : SeatTable) : Prop where
  seats : ∀ k, t.state k = .unknown ∧ t.endReason k = .none
  counters : t.roster.opened = 0 ∧ t.roster.closed = 0 ∧ t.roster.expired = 0
  tenancy : ∀ k, t.tenancy k = 0
  enders : ∀ e, t.enders e = none
  use : t.use = .none
  arming : t.arming = none

lemma Vacant.sound {t : SeatTable} (h : t.Vacant) : t.Sound where
  reasoned k hk := by
    rw [(h.seats k).1] at hk
    cases hk
  claimed e k held := by
    rw [h.enders e] at held
    cases held
  single e e' k held := by
    rw [h.enders e] at held
    cases held
  loaded e k held := by
    rw [h.enders e] at held
    cases held
  sending k held := by
    rw [h.use] at held
    cases held
  tearing k held := by
    rw [h.use] at held
    cases held
  arming k streamId token held := by
    rw [h.arming] at held
    cases held
  numbered k := iff_of_true (h.seats k).1 (h.tenancy k)
  seated k _ := (h.seats k).1
  balanced := by
    have hnone : t.occupied = 0 := by
      unfold occupied
      rw [List.countP_eq_zero]
      intro k _
      simp [(h.seats k).1, SessionState.occupied, SessionState.live]
    obtain ⟨hopened, hclosed, hexpired⟩ := h.counters
    omega

lemma Vacant.recorded {t : SeatTable} (h : t.Vacant) : t.Recorded [] where
  past k n hpos hover := by
    rw [finished, h.tenancy k] at hover
    omega
  now k _ := by
    rw [present, if_pos (h.tenancy k)]
    rfl
  later k n _ := rfl

lemma Vacant.probed {t : SeatTable} (h : t.Vacant) : t.Probed [] where
  acked k hk := by
    rw [(h.seats k).1, h.use] at hk
    simp [SessionState.eligible] at hk
  submitted before after k n heq := by
    simp at heq

end SeatTable

def CoordInput.selects : CoordInput → Bool
  | .openSelect _ => true
  | _ => false

namespace CoordState

variable {s s' : CoordState} {trace es : List CoordEvent} {k : ℕ}

lemma start_vacant (c : PublisherConfig) (serverEpochId : UInt64) (workerAddress : Bytes) :
    (start c serverEpochId workerAddress).table.Vacant where
  seats _ := ⟨rfl, rfl⟩
  counters := ⟨rfl, rfl, rfl⟩
  tenancy _ := rfl
  enders e := by cases e <;> rfl
  use := rfl
  arming := rfl

/-- What the table and the events keep together. -/
structure Accounted (trace : List CoordEvent) (s : CoordState) : Prop where
  sound : s.table.Sound
  recorded : s.table.Recorded trace
  probed : s.table.Probed trace

lemma Accounted.step {i : CoordInput} (h : s.Accounted trace) (hfree : s.claimsFree i)
    (hs : s.step i = some (s', es)) : s'.Accounted (trace ++ es) := by
  have hmove := (step_moves hs).table hfree
  exact ⟨hmove.sound h.sound, hmove.recorded h.sound h.recorded,
    hmove.probed h.sound h.recorded h.probed⟩

lemma start_accounted (c : PublisherConfig) (serverEpochId : UInt64) (workerAddress : Bytes) :
    (start c serverEpochId workerAddress).Accounted [] := by
  have hvacant := start_vacant c serverEpochId workerAddress
  exact ⟨hvacant.sound, hvacant.recorded, hvacant.probed⟩

/-! ### Opens that do not overlap -/

/-- An Open starts only when no other one is under way. -/
def alone (s : CoordState) (i : CoordInput) : Prop :=
  i.selects = true → ∀ c < s.calls, (s.opens c).outstanding = false

instance (s : CoordState) (i : CoordInput) : Decidable (s.alone i) :=
  inferInstanceAs (Decidable (_ → _))

/-- At most one Open is under way, and the seat it has selected stays free for it. -/
structure Solo (s : CoordState) : Prop where
  unused : ∀ c, s.calls ≤ c → s.opens c = .unused
  single : ∀ c d, (s.opens c).outstanding = true → (s.opens d).outstanding = true → c = d
  selected : ∀ c, ∀ k ∈ (s.opens c).target,
    k ∈ s.publisher.seats ∧ (s.publisher.sessions k).state.free = true

lemma Solo.claimsFree (h : s.Solo) (i : CoordInput) : s.claimsFree i :=
  fun call _ => h.selected call

lemma mem_seats_iff : k ∈ s.publisher.seats ↔ k < s.table.roster.size := List.mem_range

lemma selected_kept (hsound : s.table.Sound) (hmove : s.table.Move es s'.table)
    (hseat : k ∈ s.publisher.seats ∧ (s.publisher.sessions k).state.free = true)
    (hsame : s'.tenancy k = s.tenancy k) :
    k ∈ s'.publisher.seats ∧ (s'.publisher.sessions k).state.free = true := by
  refine ⟨?_, hmove.free hsound hseat.2 hsame⟩
  rw [mem_seats_iff, hmove.size]
  exact mem_seats_iff.mp hseat.1

lemma Solo.update (h : s.Solo) {call : ℕ} {x : OpenCall} (opens : s'.opens = update s.opens call x)
    (calls : ∀ c, s'.calls ≤ c → s.calls ≤ c ∧ c ≠ call)
    (hsingle : x.outstanding = true → ∀ d, (s.opens d).outstanding = true → d = call)
    (hnew : ∀ k ∈ x.target,
      k ∈ s'.publisher.seats ∧ (s'.publisher.sessions k).state.free = true)
    (hold : ∀ c, c ≠ call → ∀ k ∈ (s.opens c).target,
      k ∈ s'.publisher.seats ∧ (s'.publisher.sessions k).state.free = true) : s'.Solo where
  unused c hc := by
    obtain ⟨hlt, hne⟩ := calls c hc
    rw [opens, update_of_ne hne]
    exact h.unused c hlt
  single c d hc hd := by
    rw [opens] at hc hd
    by_cases hcc : c = call
    · by_cases hdc : d = call
      · rw [hcc, hdc]
      · rw [update_of_ne hdc] at hd
        rw [hcc, update_self] at hc
        rw [hcc, hsingle hc d hd]
    · rw [update_of_ne hcc] at hc
      by_cases hdc : d = call
      · rw [hdc, update_self] at hd
        rw [hdc, hsingle hd c hc]
      · rw [update_of_ne hdc] at hd
        exact h.single c d hc hd
  selected c k hc := by
    rw [opens] at hc
    by_cases hcc : c = call
    · rw [hcc, update_self] at hc
      exact hnew k hc
    · rw [update_of_ne hcc] at hc
      exact hold c hcc k hc

lemma Solo.step {i : CoordInput} (h : s.Solo) (hsound : s.table.Sound) (halone : s.alone i)
    (hs : s.step i = some (s', es)) : s'.Solo := by
  have hmoves := step_moves hs
  have hmove := hmoves.table (h.claimsFree i)
  have hkept : s'.tenancy = s.tenancy → ∀ c, ∀ k ∈ (s.opens c).target,
      k ∈ s'.publisher.seats ∧ (s'.publisher.sessions k).state.free = true :=
    fun tenancy c k hc => selected_kept hsound hmove (h.selected c k hc) (congrFun tenancy k)
  -- a call that is under way is one of those counted
  have hcounted : ∀ c, (s.opens c).outstanding = true → c < s.calls := by
    intro c hc
    by_contra hout
    rw [h.unused c (not_lt.mp hout)] at hc
    cases hc
  cases hmoves.opens with
  | idle opens calls clock tenancy =>
    exact ⟨by rw [opens, calls]; exact h.unused, by rw [opens]; exact h.single,
      by rw [opens]; exact hkept tenancy⟩
  | refused result opens calls clock tenancy =>
    refine h.update opens (fun c hc => ?_) ?_ ?_ fun c _ => hkept tenancy c
    · omega
    · simp [OpenCall.outstanding]
    · simp [OpenCall.target]
  | selected k request input first publisher opens calls clock tenancy =>
    subst input
    have hnone := halone rfl
    refine h.update opens (fun c hc => ?_) (fun _ d hd => ?_) ?_ fun c _ => hkept tenancy c
    · omega
    · have hnot := hnone d (hcounted d hd)
      rw [hd] at hnot
      cases hnot
    · intro j hj
      cases hj
      exact selected_kept hsound hmove (Publisher.selectSeat_free first) (congrFun tenancy k)
  | failed call k request began result was opens calls clock tenancy =>
    have hcall := hcounted call (by rw [was]; rfl)
    refine h.update opens (fun c hc => ?_) ?_ ?_ fun c _ => hkept tenancy c
    · omega
    · simp [OpenCall.outstanding]
    · simp [OpenCall.target]
  | claimed call k request began fresh input was publisher opens =>
    have hunder : (s.opens call).outstanding = true := by rw [was]; rfl
    have hcall := hcounted call hunder
    refine h.update opens (fun c hc => ?_) (fun _ d hd => h.single d call hd hunder) ?_ ?_
    · omega
    · simp [OpenCall.target]
    · intro c hne j hc
      exact absurd (h.single c call (OpenCall.outstanding_of_target hc) hunder) hne
  | granted call k n request began input was opens calls clock tenancy =>
    have hcall := hcounted call (by rw [was]; rfl)
    refine h.update opens (fun c hc => ?_) ?_ ?_ fun c _ => hkept tenancy c
    · omega
    · simp [OpenCall.outstanding]
    · simp [OpenCall.target]

/-! ### The life of a session -/

/-- Tenancy `n` of seat `k` is over: its seat is closed or already has a later one. -/
def finished (s : CoordState) (k n : ℕ) : Prop :=
  n < s.tenancy k ∨ (n = s.tenancy k ∧ (s.publisher.sessions k).state = .closed)

instance (s : CoordState) (k n : ℕ) : Decidable (s.finished k n) := inferInstanceAs (Decidable (_ ∨ _))

/-- What holds after a run that reported `trace`, of the next step and of every tenancy there was. -/
structure Lifecycle (trace : List CoordEvent) (s : CoordState) : Prop where
  follows : ∀ i s' es, s.alone i → s.step i = some (s', es) → ∀ k,
    SeatTable.Follows (s.publisher.sessions k).state (s'.publisher.sessions k).state
  ended_le_one : ∀ k n, 0 < n → (tenancyRecord k n trace).endings.length ≤ 1
  ended : ∀ k n, 0 < n →
    s.finished k n ∨ (n = s.tenancy k ∧ (s.publisher.sessions k).state = .expiring) →
    ∃ reason, reason ≠ .none ∧ (tenancyRecord k n trace).endings = [reason]
  torn : ∀ k n, 0 < n → (tenancyRecord k n trace).teardowns = if s.finished k n then 1 else 0
  submitted : ∀ before after k n, trace = before ++ .submitted k n :: after →
    ∃ streamId token, (tenancyRecord k n before).openings = [(streamId, token)] ∧
      .acked k n streamId token ∈ before
  balanced : s.publisher.counters .sessionsOpened =
    s.publisher.counters .sessionsClosed + s.publisher.counters .sessionsExpired +
      s.publisher.seats.countP fun k => (s.publisher.sessions k).state.occupied

lemma Accounted.present (h : s.Accounted trace) (hused : s.tenancy k ≠ 0)
    (hopen : (s.publisher.sessions k).state ≠ .closed) :
    tenancyRecord k (s.tenancy k) trace =
      { openings := [((s.publisher.sessions k).streamId, (s.publisher.sessions k).probeToken)]
        endings := if (s.publisher.sessions k).endReason = .none then []
          else [(s.publisher.sessions k).endReason] } :=
  (h.recorded.now k hopen).trans (SeatTable.present_eq hused rfl)

lemma Accounted.complete (h : s.Accounted trace) {n : ℕ} (hpos : 0 < n) (hover : s.finished k n) :
    (tenancyRecord k n trace).Complete :=
  h.recorded.past k n hpos hover

/-- A tenancy that is not over is the present one, or there was none yet. -/
lemma unfinished_cases {n : ℕ} (h : ¬ s.finished k n) :
    (n = s.tenancy k ∧ (s.publisher.sessions k).state ≠ .closed) ∨ s.tenancy k < n := by
  obtain ⟨hle, hopen⟩ := not_or.mp h
  rcases (not_lt.mp hle).eq_or_lt with heq | hlt
  · exact .inl ⟨heq.symm, fun hclosed => hopen ⟨heq.symm, hclosed⟩⟩
  · exact .inr hlt

lemma Accounted.ended_le_one (h : s.Accounted trace) (k n : ℕ) (hpos : 0 < n) :
    (tenancyRecord k n trace).endings.length ≤ 1 := by
  by_cases hover : s.finished k n
  · obtain ⟨reason, -, hone⟩ := (h.complete hpos hover).ended
    simp [hone]
  · rcases unfinished_cases hover with ⟨rfl, hopen⟩ | hgt
    · rw [h.present (Nat.pos_iff_ne_zero.mp hpos) hopen]
      split_ifs <;> simp
    · rw [h.recorded.later k n hgt]
      simp

lemma Accounted.ended (h : s.Accounted trace) (k n : ℕ) (hpos : 0 < n)
    (hover : s.finished k n ∨ (n = s.tenancy k ∧ (s.publisher.sessions k).state = .expiring)) :
    ∃ reason, reason ≠ .none ∧ (tenancyRecord k n trace).endings = [reason] := by
  rcases hover with hover | ⟨rfl, hexpiring⟩
  · exact (h.complete hpos hover).ended
  · have hreason : (s.publisher.sessions k).endReason ≠ .none := h.sound.reasoned k hexpiring
    refine ⟨_, hreason, ?_⟩
    rw [h.present (Nat.pos_iff_ne_zero.mp hpos) (by rw [hexpiring]; decide)]
    exact if_neg hreason

lemma Accounted.torn (h : s.Accounted trace) (k n : ℕ) (hpos : 0 < n) :
    (tenancyRecord k n trace).teardowns = if s.finished k n then 1 else 0 := by
  split_ifs with hover
  · exact (h.complete hpos hover).torn
  · rcases unfinished_cases hover with ⟨rfl, hopen⟩ | hgt
    · rw [h.present (Nat.pos_iff_ne_zero.mp hpos) hopen]
    · rw [h.recorded.later k n hgt]

lemma reach_accounted {c : PublisherConfig} {serverEpochId : UInt64} {workerAddress : Bytes}
    (h : coordMachine.Reaches alone (start c serverEpochId workerAddress) trace s) :
    s.Accounted trace ∧ s.Solo := by
  refine h.traceInvariant (fun trace s => s.Accounted trace ∧ s.Solo) ?_ ?_
  · refine ⟨start_accounted c serverEpochId workerAddress, fun _ _ => rfl, ?_, ?_⟩
    · intro c d hc
      cases hc
    · intro c k hc
      cases hc
  · rintro trace s i s' es ⟨haccount, hsolo⟩ halone hs
    exact ⟨haccount.step (hsolo.claimsFree i) hs, hsolo.step haccount.sound halone hs⟩

/-- The life of every session of a publisher whose Opens do not overlap, whatever the control
threads, the engine and the transport do. -/
theorem session_lifecycle {c : PublisherConfig} {serverEpochId : UInt64} {workerAddress : Bytes}
    (h : coordMachine.Reaches alone (start c serverEpochId workerAddress) trace s) :
    s.Lifecycle trace := by
  obtain ⟨haccount, hsolo⟩ := reach_accounted h
  exact
    { follows := fun i _ _ _ hs k =>
        ((step_moves hs).table (hsolo.claimsFree i)).follows haccount.sound k
      ended_le_one := haccount.ended_le_one
      ended := haccount.ended
      torn := haccount.torn
      submitted := haccount.probed.submitted
      balanced := haccount.sound.balanced }

/-- A session is opened, armed, sent a frame and closed; the Close has claimed its end when the sweep
looks at it and stores `Expiring` just before the sweep tests for it. -/
def wholeLife : List CoordInput :=
  [.openSelect sampleOpen, .openClaim 0 (sampleFresh 1), .openReply 0,
    .probeAck (sampleProbeAck 1), .armStep, .call .acquire,
    .call (.publish (some 0) sampleMetadata 0 false), .submitReady, .engineStep .completed,
    .engineStep .completed, .engineStep .completed, .engineStep .completed,
    .close { sessionId := (sampleFresh 1).id, reason := .normal }, .closeStep, .closeStep,
    .startSweep 0, .engineStep .completed, .closeStep, .engineStep .completed,
    .engineStep .completed]

theorem session_lifecycle_sample :
    ∃ trace s, coordMachine.Reaches alone (start sampleConfig 1 [1]) trace s ∧
      trace = [.opened 0 1 1 1, .acked 0 1 1 1, .submitted 0 1, .ended 0 1 .close,
        .tornDown 0 1] ∧ s.Lifecycle trace := by
  obtain ⟨trace, s, hreach, htrace⟩ := coordMachine.exists_of_run alone (start sampleConfig 1 [1])
    wholeLife (P := fun _ t => t = [.opened 0 1 1 1, .acked 0 1 1 1, .submitted 0 1,
      .ended 0 1 .close, .tornDown 0 1]) (by decide +kernel)
  exact ⟨trace, s, hreach, htrace, session_lifecycle hreach⟩

end CoordState

end TangoBulk
