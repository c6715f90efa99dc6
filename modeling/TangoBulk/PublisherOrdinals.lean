import TangoBulk.LibRing
import TangoBulk.PublisherEffects
import TangoBulk.PublisherSlots

/-! Sessions in publisher ordinals. A session's window is counted in its own sequences and
admission in the ordinals of the publisher; the entries of the sends in flight connect the
two. -/
namespace TangoBulk

namespace Publisher

/-- The publisher ordinal of a session's sequence. -/
def ordinalOf (p : Publisher) (s : Session) (sequence : ℕ) : ℕ :=
  (s.inflight (sequence % p.depth)).ordinal

structure InStep (p : Publisher) (s : Session) : Prop where
  valid : s.window.Valid
  width_le : s.window.width ≤ p.depth
  grant : s.state ≠ .unknown →
    s.window.width = s.geometry.creditWindow.toNat ∧ 0 < s.window.width
  idle : s.state = .unknown ∨ s.state = .open ∨ s.state = .closed → s.window.outstanding = 0
  ascending : ∀ q r, s.window.creditedEnd ≤ q → q < r → r < s.window.nextSequence →
    p.ordinalOf s q < p.ordinalOf s r
  behind : ∀ q, s.window.creditedEnd ≤ q → q < s.window.nextSequence →
    p.ordinalOf s q < s.processedOrdinal

variable {p p' : Publisher} {s s' : Session} {item : PublishItem}

lemma depth_congr (h : p'.config = p.config) : p'.depth = p.depth := by
  simp only [depth, h]

lemma retiredOrdinal_congr (h : p'.config = p.config) (s : Session) :
    p'.retiredOrdinal s = p.retiredOrdinal s := by
  simp only [retiredOrdinal, depth_congr h]

lemma InStep.congr (hs : p.InStep s) (h : p'.config = p.config) : p'.InStep s := by
  have ho : p'.ordinalOf = p.ordinalOf := by
    funext s q
    simp only [ordinalOf, depth_congr h]
  exact ⟨hs.valid, depth_congr h ▸ hs.width_le, hs.grant, hs.idle, ho ▸ hs.ascending,
    ho ▸ hs.behind⟩

lemma retiredOrdinal_of_idle (p : Publisher) (h : s.window.outstanding = 0) :
    p.retiredOrdinal s = s.processedOrdinal := if_pos h

lemma retiredOrdinal_of_busy (p : Publisher) (h : s.window.outstanding ≠ 0) :
    p.retiredOrdinal s = p.ordinalOf s s.window.creditedEnd := if_neg h

lemma InStep.spread (h : p.InStep s) (n : ℕ)
    (hn : s.window.creditedEnd + n < s.window.nextSequence) :
    p.ordinalOf s s.window.creditedEnd + n ≤ p.ordinalOf s (s.window.creditedEnd + n) := by
  induction n with
  | zero => exact le_refl _
  | succ n ih =>
    have hprev := ih (by omega)
    have hnext := h.ascending (s.window.creditedEnd + n) (s.window.creditedEnd + (n + 1))
      (by omega) (by omega) hn
    omega

lemma InStep.headroom (h : p.InStep s) :
    p.retiredOrdinal s + s.window.outstanding ≤ s.processedOrdinal := by
  by_cases hidle : s.window.outstanding = 0
  · rw [retiredOrdinal_of_idle p hidle, hidle, Nat.add_zero]
  · rw [retiredOrdinal_of_busy p hidle]
    have hout : s.window.nextSequence - s.window.creditedEnd = s.window.outstanding := rfl
    have hspread := h.spread (s.window.outstanding - 1) (by omega)
    have hlast := h.behind (s.window.creditedEnd + (s.window.outstanding - 1)) (by omega) (by omega)
    omega

lemma InStep.canSubmit (h : p.InStep s) {o : ℕ} (hp : s.processedOrdinal ≤ o)
    (ho : o < p.retiredOrdinal s + s.window.width) : s.window.canSubmit = true := by
  have hroom := h.headroom
  exact decide_eq_true (by omega)

lemma InStep.of_idle (hidle : s.window.outstanding = 0) (hv : s.window.Valid)
    (hw : s.window.width ≤ p.depth)
    (hg : s.state ≠ .unknown →
      s.window.width = s.geometry.creditWindow.toNat ∧ 0 < s.window.width) : p.InStep s := by
  have hout : s.window.nextSequence - s.window.creditedEnd = 0 := hidle
  refine ⟨hv, hw, hg, fun _ => hidle, ?_, ?_⟩
  · intro q r hq hr hlt
    omega
  · intro q hq hlt
    omega

/-! ### Calls other than fan-out -/

lemma live_of_eligible {st : SessionState} (h : st.eligible = true) :
    st ≠ .unknown ∧ st ≠ .open ∧ st ≠ .closed ∧ st ≠ .expiring := by
  cases st <;> simp_all [SessionState.eligible]

/-- The session stays armed, and its share of the admission limit does not shrink. -/
structure Carried (p : Publisher) (s s' : Session) : Prop where
  eligible : s.state.eligible = true
  geometry : s'.geometry = s.geometry
  width : s'.window.width = s.window.width
  processed : s'.processedOrdinal = s.processedOrdinal
  retired : p.retiredOrdinal s ≤ p.retiredOrdinal s'

lemma InStep.undisturbed (h : p.InStep s) (hu : Undisturbed s s') :
    p.InStep s' ∧ (s'.state.eligible = true → Carried p s s') := by
  obtain ⟨hwin, hin, hproc, hgeo, hstate⟩ := hu
  have hord : p.ordinalOf s' = p.ordinalOf s := by
    funext q
    simp only [ordinalOf, hin]
  have hret : p.retiredOrdinal s' = p.retiredOrdinal s := by
    simp only [retiredOrdinal, hwin, hin, hproc]
  refine ⟨⟨hwin ▸ h.valid, hwin ▸ h.width_le, fun hs => ?_, fun hs => ?_, ?_, ?_⟩, fun he => ?_⟩
  · rw [hwin, hgeo]
    refine h.grant ?_
    rcases hstate with heq | ⟨hlive, -⟩
    · exact heq ▸ hs
    · intro hu
      simp [hu, SessionState.live] at hlive
  · rw [hwin]
    refine h.idle ?_
    rcases hstate with heq | ⟨-, heq⟩
    · exact heq ▸ hs
    · simp [heq] at hs
  · rw [hwin, hord]
    exact h.ascending
  · rw [hwin, hord, hproc]
    exact h.behind
  · refine ⟨?_, hgeo, by rw [hwin], hproc, hret.ge⟩
    rcases hstate with heq | ⟨-, heq⟩
    · exact heq ▸ he
    · simp [heq, SessionState.eligible] at he

lemma InStep.credited (h : p.InStep s) (ack : ℕ) :
    p.InStep { s with window := (s.window.applyCredit ack).2 } ∧
    p.retiredOrdinal s ≤
      p.retiredOrdinal { s with window := (s.window.applyCredit ack).2 } := by
  obtain ⟨-, he⟩ | ⟨-, -, he⟩ | ⟨hnext, hack, he⟩ := s.window.applyCredit_cases ack
  · rw [he]
    exact ⟨h, le_refl _⟩
  · rw [he]
    exact ⟨h, le_refl _⟩
  · have hvalid := s.window.applyCredit_valid h.valid ack
    have hbusy : s.window.outstanding ≠ 0 := by
      have hout : s.window.outstanding = s.window.nextSequence - s.window.creditedEnd := rfl
      omega
    rw [he] at hvalid ⊢
    refine ⟨⟨hvalid, h.width_le, h.grant, fun hs => absurd (h.idle hs) hbusy, ?_, ?_⟩, ?_⟩
    · intro q r hq hr hlt
      dsimp only at hq hlt
      exact h.ascending q r (by omega) hr hlt
    · intro q hq hlt
      dsimp only at hq hlt
      exact h.behind q (by omega) hlt
    · let moved := { s with window := { s.window with creditedEnd := ack + 1 } }
      have hout : moved.window.outstanding = s.window.nextSequence - (ack + 1) := rfl
      rw [retiredOrdinal_of_busy p hbusy]
      by_cases hidle : moved.window.outstanding = 0
      · rw [retiredOrdinal_of_idle p hidle]
        exact (h.behind _ (le_refl _) (by omega)).le
      · rw [retiredOrdinal_of_busy p hidle]
        exact (h.ascending s.window.creditedEnd (ack + 1) (le_refl _) (by omega) (by omega)).le

lemma screenOpen_window {request : OpenRequest} {geometry : GeometryBlock}
    (h : p.screenOpen request = .granted geometry) :
    0 < (p.clampGeometry request).creditWindow.toNat := by
  unfold screenOpen at h
  dsimp only at h
  split_ifs at h with h1 h2 h3 h4 h5
  simp only [not_or] at h5
  exact Nat.pos_of_ne_zero fun hz => h5.2.2 (UInt32.toNat_inj.mp hz)

lemma InStep.move (h : p.InStep s) (hc : p.config.creditWindow.toNat ≤ p.depth)
    (hm : p.Move s s') : p.InStep s' ∧ (s'.state.eligible = true → Carried p s s') := by
  cases hm with
  | undisturbed hu => exact h.undisturbed hu
  | credited ack =>
    obtain ⟨hin, hret⟩ := h.credited ack
    exact ⟨hin, fun he => ⟨he, rfl, by simp, rfl, hret⟩⟩
  | retired hst =>
    have hne : s.state ≠ .unknown := by simp [hst]
    refine ⟨.of_idle ?_ (s.window.reset_valid 0) h.width_le (fun _ => h.grant hne), fun he => ?_⟩
    · simp [retiredSession, CreditWindow.outstanding, CreditWindow.reset]
    · simp [retiredSession, SessionState.eligible] at he
  | claimed request fresh hscreen =>
    refine ⟨.of_idle rfl ⟨le_refl 0, Nat.zero_le _⟩ ?_ (fun _ => ⟨rfl, screenOpen_window hscreen⟩),
      fun he => ?_⟩
    · exact (p.clampGeometry_window request).trans hc
    · simp [claimedSession, SessionState.eligible] at he

/-! ### Fan-out -/

lemma InStep.recorded_ordinal (h : p.InStep s) (hroom : s.window.canSubmit = true) {q : ℕ}
    (hq : s.window.creditedEnd ≤ q) (hlt : q < s.window.nextSequence) :
    p.ordinalOf (p.recordedSession s item) q = p.ordinalOf s q := by
  have hout : s.window.nextSequence - s.window.creditedEnd < s.window.width := of_decide_eq_true hroom
  have hwidth := h.width_le
  have hne : q % p.depth ≠ s.window.nextSequence % p.depth :=
    Ring.index_ne hq (by omega) (by omega : s.window.creditedEnd ≤ s.window.nextSequence)
      (by omega) (by omega)
  simp only [ordinalOf, recordedSession, Function.update_of_ne hne]

lemma recorded_ordinal_next (p : Publisher) (s : Session) (item : PublishItem) :
    p.ordinalOf (p.recordedSession s item) s.window.nextSequence = item.ordinal := by
  simp only [ordinalOf, recordedSession_entry, inFlightEntry]

/-- The session that has been offered the item. -/
def offeredSession (p : Publisher) (s : Session) (item : PublishItem) : Session :=
  p.recordedSession { s with processedOrdinal := item.ordinal + 1 } item

lemma InStep.offered (h : p.InStep s) (hroom : s.window.canSubmit = true)
    (hp : s.processedOrdinal ≤ item.ordinal) : p.InStep (p.offeredSession s item) := by
  have hord : ∀ q, s.window.creditedEnd ≤ q → q < s.window.nextSequence →
      p.ordinalOf (p.offeredSession s item) q = p.ordinalOf s q :=
    fun q hq hlt => h.recorded_ordinal hroom hq hlt
  refine ⟨h.valid, h.width_le, h.grant, h.idle, ?_, ?_⟩
  · intro q r hq hr hlt
    rw [hord q hq (hr.trans hlt), hord r (hq.trans hr.le) hlt]
    exact h.ascending q r hq hr hlt
  · intro q hq hlt
    rw [hord q hq hlt]
    exact (h.behind q hq hlt).trans_le (hp.trans (Nat.le_succ _))

/-- An accepted send puts its ordinal at the end of the window. -/
lemma InStep.sent (h : p.InStep s) (hroom : s.window.canSubmit = true)
    (helig : s.state.eligible = true) (hp : s.processedOrdinal ≤ item.ordinal) (pending : Bool) :
    p.InStep (noteSentSession (p.offeredSession s item) pending) ∧
    p.retiredOrdinal s ≤ p.retiredOrdinal (noteSentSession (p.offeredSession s item) pending) := by
  have hoff := h.offered hroom hp
  have hord : ∀ q, s.window.creditedEnd ≤ q → q < s.window.nextSequence →
      p.ordinalOf (p.offeredSession s item) q = p.ordinalOf s q :=
    fun q hq hlt => h.recorded_ordinal hroom hq hlt
  have hlast : p.ordinalOf (p.offeredSession s item) s.window.nextSequence = item.ordinal :=
    p.recorded_ordinal_next _ item
  have hcredited := h.valid.credited_le
  obtain ⟨hunk, hopen, hclosed, -⟩ := live_of_eligible helig
  have hstate : (noteSentSession (p.offeredSession s item) pending).state = .active := by
    have hs : s.state = .armed ∨ s.state = .active := by simpa [SessionState.eligible] using helig
    simp only [noteSentSession, offeredSession, recordedSession]
    rcases hs with hs | hs
    all_goals simp [hs]
  refine ⟨⟨CreditWindow.noteSubmitted_valid h.valid hroom, h.width_le, fun _ => h.grant hunk,
    fun hs => ?_, ?_, ?_⟩, ?_⟩
  · simp [hstate] at hs
  · intro q r hq hr hlt
    change r < s.window.nextSequence + 1 at hlt
    change p.ordinalOf (p.offeredSession s item) q < p.ordinalOf (p.offeredSession s item) r
    by_cases hr' : r = s.window.nextSequence
    · subst hr'
      rw [hlast, hord q hq hr]
      exact (h.behind q hq hr).trans_le hp
    · exact hoff.ascending q r hq hr (by
        change r < s.window.nextSequence
        omega)
  · intro q hq hlt
    change q < s.window.nextSequence + 1 at hlt
    change p.ordinalOf (p.offeredSession s item) q < item.ordinal + 1
    by_cases hq' : q = s.window.nextSequence
    · subst hq'
      omega
    · exact hoff.behind q hq (by
        change q < s.window.nextSequence
        omega)
  · have hbusy : (noteSentSession (p.offeredSession s item) pending).window.outstanding ≠ 0 := by
      change s.window.nextSequence + 1 - s.window.creditedEnd ≠ 0
      omega
    rw [retiredOrdinal_of_busy p hbusy]
    change _ ≤ p.ordinalOf (p.offeredSession s item) s.window.creditedEnd
    have hout : s.window.outstanding = s.window.nextSequence - s.window.creditedEnd := rfl
    by_cases hidle : s.window.outstanding = 0
    · rw [retiredOrdinal_of_idle p hidle,
        show s.window.creditedEnd = s.window.nextSequence by omega, hlast]
      exact hp
    · rw [retiredOrdinal_of_busy p hidle, hord _ (le_refl _) (by omega)]

/-- What a fan-out does to an armed session that has room: a send that is not refused takes
its next sequence, and the session stays in step. -/
lemma InStep.fan (h : p.InStep s) (hroom : s.window.canSubmit = true)
    (helig : s.state.eligible = true) (hp : s.processedOrdinal ≤ item.ordinal)
    (answer : SendAnswer) :
    p.InStep (p.fanSession item answer s) ∧
    ((p.fanSession item answer s).state.eligible = true →
      (p.fanSession item answer s).processedOrdinal = item.ordinal + 1 ∧
      (p.fanSession item answer s).geometry = s.geometry ∧
      (p.fanSession item answer s).window.width = s.window.width ∧
      p.retiredOrdinal s ≤ p.retiredOrdinal (p.fanSession item answer s)) := by
  cases answer with
  | refused =>
    have heq : p.fanSession item .refused s = endedSession (p.offeredSession s item) .transport := by
      simp only [fanSession, helig, hroom, Bool.not_true, Bool.false_eq_true, if_false]
      rfl
    rw [heq]
    have hoff := h.offered hroom hp
    obtain ⟨hin, hcarried⟩ := hoff.undisturbed
      (endedSession_undisturbed (p.offeredSession s item) .transport)
    refine ⟨hin, fun he => ?_⟩
    have hc := hcarried he
    refine ⟨hc.processed, hc.geometry, hc.width, le_trans ?_ hc.retired⟩
    by_cases hidle : s.window.outstanding = 0
    · have hidle' : (p.offeredSession s item).window.outstanding = 0 := hidle
      rw [retiredOrdinal_of_idle p hidle, retiredOrdinal_of_idle p hidle']
      exact hp.trans (Nat.le_succ _)
    · have hbusy : (p.offeredSession s item).window.outstanding ≠ 0 := hidle
      have hout : s.window.outstanding = s.window.nextSequence - s.window.creditedEnd := rfl
      rw [retiredOrdinal_of_busy p hidle, retiredOrdinal_of_busy p hbusy]
      exact (h.recorded_ordinal hroom (le_refl _) (by omega)).ge
  | completed =>
    have heq : p.fanSession item .completed s =
        noteSentSession (p.offeredSession s item) false := by
      simp only [fanSession, helig, hroom, Bool.not_true, Bool.false_eq_true, if_false]
      rfl
    rw [heq]
    obtain ⟨hin, hret⟩ := h.sent hroom helig hp false
    exact ⟨hin, fun _ => ⟨rfl, rfl, rfl, hret⟩⟩
  | pending =>
    have heq : p.fanSession item .pending s =
        noteSentSession (p.offeredSession s item) true := by
      simp only [fanSession, helig, hroom, Bool.not_true, Bool.false_eq_true, if_false]
      rfl
    rw [heq]
    obtain ⟨hin, hret⟩ := h.sent hroom helig hp true
    exact ⟨hin, fun _ => ⟨rfl, rfl, rfl, hret⟩⟩

lemma fanSession_of_ineligible (p : Publisher) (item : PublishItem) (answer : SendAnswer)
    (h : ¬ s.state.eligible = true) : p.fanSession item answer s = s := by
  simp [fanSession, h]

end Publisher

end TangoBulk
