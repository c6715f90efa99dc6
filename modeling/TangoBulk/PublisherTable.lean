import TangoBulk.PublisherCoordination
import Mathlib.Data.List.Nodup

/-! The session table in the abstract: the roster, how often each seat was claimed, and which thread
is about to do what to which seat. A move is one atomic access. -/
namespace TangoBulk

open Transition Function

/-- A seat that an Open may claim. -/
def SessionState.free (s : SessionState) : Bool := s = .unknown ∨ s = .closed

/-- A seat whose tenancy has begun and is not over. -/
def SessionState.occupied (s : SessionState) : Bool := s.live ∨ s = .expiring

namespace SessionState

variable {s : SessionState}

@[grind =] lemma live_iff : s.live = true ↔ s = .open ∨ s = .armed ∨ s = .active := by
  simp [live]

@[grind =] lemma eligible_iff : s.eligible = true ↔ s = .armed ∨ s = .active := by
  simp [eligible]

@[grind =] lemma free_iff : s.free = true ↔ s = .unknown ∨ s = .closed := by
  simp [free]

@[grind =] lemma occupied_iff :
    s.occupied = true ↔ s = .open ∨ s = .armed ∨ s = .active ∨ s = .expiring := by
  simp [occupied, live, or_assoc]

end SessionState

@[grind =] lemma Roster.seats_setSeat (r : Roster) (k j : ℕ) (x : Seat) :
    (r.setSeat k x).seats j = if j = k then x else r.seats j := by
  simp [setSeat, update_apply]

@[grind =] lemma Roster.size_setSeat (r : Roster) (k : ℕ) (x : Seat) :
    (r.setSeat k x).size = r.size := rfl

lemma Roster.state_abandon (r : Roster) (k j : ℕ) (failure : Publisher.DrawFailure) :
    ((r.abandon k failure).seats j).state = (r.seats j).state := by
  unfold abandon
  grind

/-- Who runs `begin_expiry`: the control thread with the lock, or the engine. -/
inductive Ender
  | control | engine
  deriving DecidableEq

/-- The seat on which the engine is about to act without another look at it. -/
inductive SeatUse
  | none
  | sending (k : ℕ)
  | tearing (k : ℕ)

structure SeatTable where
  roster : Roster
  tenancy : ℕ → ℕ
  enders : Ender → Option (ℕ × EndStage)
  use : SeatUse
  arming : Option (ℕ × UInt64 × UInt64)

namespace SeatTable

variable {t t' : SeatTable} {k : ℕ} {es : List CoordEvent}

def state (t : SeatTable) (k : ℕ) : SessionState := (t.roster.seats k).state

def endReason (t : SeatTable) (k : ℕ) : EndReason := (t.roster.seats k).endReason

/-- `begin_expiry` not under way, or only just called. -/
def Fresh (x : Option (ℕ × EndStage)) : Prop := ∀ k stage, x = some (k, stage) → stage = .begun

/-- The engine has just seen what it needs to act on the seat. -/
def Seen (t : SeatTable) : SeatUse → Prop
  | .none => True
  | .sending k => (t.state k).eligible = true
  | .tearing k => t.state k = .expiring

/-- What one access does to the table and reports. -/
inductive Move (t : SeatTable) : List CoordEvent → SeatTable → Prop
  | stay : Move t [] t
  | lock {x : Option (ℕ × EndStage)} (fresh : Fresh x) :
      Move t [] { t with enders := Function.update t.enders .control x }
  | turn {x : Option (ℕ × EndStage)} {u : SeatUse} (fresh : Fresh x) (seen : t.Seen u) :
      Move t [] { t with enders := Function.update t.enders .engine x, use := u }
  | found {k : ℕ} (live : (t.state k).live = true) :
      Move t [] { t with
        arming := some (k, (t.roster.seats k).streamId, (t.roster.seats k).probeToken) }
  | ends {e : Ender} {k : ℕ} {stage : EndStage} {reason : EndReason} (reasoned : reason ≠ .none)
      (held : t.enders e = some (k, stage)) :
      Move t
        (if (t.roster.endStep k reason stage).2 = some .claimed then [.ended k (t.tenancy k) reason]
          else [])
        { t with
          roster := (t.roster.endStep k reason stage).1
          enders := Function.update t.enders e
            ((t.roster.endStep k reason stage).2.map fun next => (k, next)) }
  | claim {k : ℕ} {fresh : Publisher.Fresh} (seated : k < t.roster.size)
      (free : (t.state k).free = true) :
      Move t [.opened k (t.tenancy k + 1) fresh.streamId fresh.probeToken] { t with
        roster := t.roster.claim k fresh
        tenancy := Function.update t.tenancy k (t.tenancy k + 1) }
  | abandon {k : ℕ} {failure : Publisher.DrawFailure} (free : (t.state k).free = true)
      (unlocked : t.enders .control = none) :
      Move t [] { t with roster := t.roster.abandon k failure }
  | arm {k : ℕ} {streamId token : UInt64} (held : t.arming = some (k, streamId, token)) :
      Move t (if t.state k = .open then [.acked k (t.tenancy k) streamId token] else [])
        { t with roster := t.roster.arm k, arming := none }
  | sent {k : ℕ} (held : t.use = .sending k) :
      Move t [.submitted k (t.tenancy k)] { t with roster := t.roster.activate k, use := .none }
  | retire {k : ℕ} (held : t.use = .tearing k) (still : t.arming = none)
      (done : t.enders .engine = none) :
      Move t [.tornDown k (t.tenancy k)] { t with roster := t.roster.retire k, use := .none }

/-! ### What every table keeps -/

/-- The seats that are taken. -/
def occupied (t : SeatTable) : ℕ := (List.range t.roster.size).countP fun k => (t.state k).occupied

lemma countP_range_update (f : ℕ → Bool) (b : Bool) {n : ℕ} (hk : k < n) :
    (List.range n).countP (update f k b) + (f k).toNat =
      (List.range n).countP f + b.toNat := by
  have hperm := List.perm_cons_erase (List.mem_range.mpr hk)
  have hrest : ((List.range n).erase k).countP (update f k b) =
      ((List.range n).erase k).countP f := by
    refine List.countP_congr fun j hj => ?_
    have hne : j ≠ k := fun heq => List.nodup_range.not_mem_erase (heq ▸ hj)
    simp [hne]
  rw [hperm.countP_eq, hperm.countP_eq (p := f)]
  simp only [List.countP_cons, hrest, update_self]
  cases f k <;> cases b <;> simp

lemma occupied_update (t t' : SeatTable) {x : Seat} (hk : k < t.roster.size)
    (hsize : t'.roster.size = t.roster.size)
    (hseats : t'.roster.seats = update t.roster.seats k x) :
    t'.occupied + (t.state k).occupied.toNat = t.occupied + x.state.occupied.toNat := by
  have hstates : (fun j => (t'.state j).occupied) =
      update (fun j => (t.state j).occupied) k x.state.occupied := by
    funext j
    simp only [state, hseats, update_apply]
    split_ifs <;> rfl
  unfold occupied
  rw [hsize, hstates]
  exact countP_range_update (fun j => (t.state j).occupied) x.state.occupied hk

structure Sound (t : SeatTable) : Prop where
  reasoned : ∀ k, t.state k = .expiring → t.endReason k ≠ .none
  claimed : ∀ e k, t.enders e = some (k, .claimed) →
    (t.state k).live = true ∧ t.endReason k ≠ .none
  single : ∀ e e' k, t.enders e = some (k, .claimed) → t.enders e' = some (k, .claimed) → e = e'
  -- only the engine closes a seat, and no claim runs under the lock of a Close
  loaded : ∀ e k, t.enders e = some (k, .loaded) → (t.state k).occupied = true ∨
    (e = .control ∧ t.state k = .closed ∧ t.endReason k ≠ .none)
  sending : ∀ k, t.use = .sending k → (t.state k).eligible = true ∨ t.state k = .expiring
  tearing : ∀ k, t.use = .tearing k → t.state k = .expiring
  arming : ∀ k streamId token, t.arming = some (k, streamId, token) →
    (t.state k).occupied = true ∧ (t.roster.seats k).streamId = streamId ∧
      (t.roster.seats k).probeToken = token
  numbered : ∀ k, t.state k = .unknown ↔ t.tenancy k = 0
  seated : ∀ k, t.roster.size ≤ k → t.state k = .unknown
  balanced : t.roster.opened = t.roster.closed + t.roster.expired + t.occupied

lemma Sound.lt_size (h : t.Sound) (hk : t.state k ≠ .unknown) : k < t.roster.size := by
  by_contra hout
  exact hk (h.seated k (not_lt.mp hout))

lemma Fresh.held {x : Option (ℕ × EndStage)} (fresh : Fresh x)
    {enders : Ender → Option (ℕ × EndStage)} {e e' : Ender} {stage : EndStage}
    (held : update enders e x e' = some (k, stage)) (hstage : stage ≠ .begun) :
    enders e' = some (k, stage) := by
  by_cases he : e' = e
  · subst he
    rw [update_self] at held
    exact absurd (fresh k stage held) hstage
  · rwa [update_of_ne he] at held

lemma Sound.setEnder (h : t.Sound) (e : Ender) {x : Option (ℕ × EndStage)} (fresh : Fresh x) :
    ({ t with enders := update t.enders e x } : SeatTable).Sound where
  __ := h
  claimed e' k held := h.claimed e' k (fresh.held held (by decide))
  single e₁ e₂ k h₁ h₂ :=
    h.single e₁ e₂ k (fresh.held h₁ (by decide)) (fresh.held h₂ (by decide))
  loaded e' k held := h.loaded e' k (fresh.held held (by decide))

lemma Sound.setUse (h : t.Sound) {u : SeatUse} (seen : t.Seen u) :
    ({ t with use := u } : SeatTable).Sound where
  __ := h
  sending k held := by
    have hu : u = .sending k := held
    subst hu
    exact .inl seen
  tearing k held := by
    have hu : u = .tearing k := held
    subst hu
    exact seen

lemma Sound.setArming (h : t.Sound) {x : Option (ℕ × UInt64 × UInt64)}
    (matches' : ∀ k streamId token, x = some (k, streamId, token) →
      (t.state k).live = true ∧ (t.roster.seats k).streamId = streamId ∧
        (t.roster.seats k).probeToken = token) :
    ({ t with arming := x } : SeatTable).Sound where
  __ := h
  arming k streamId token held := by
    obtain ⟨hlive, hids⟩ := matches' k streamId token held
    have hstate : ({ t with arming := x } : SeatTable).state k = t.state k := rfl
    refine ⟨?_, hids⟩
    grind

lemma Sound.load (h : t.Sound) (e : Ender) (live : (t.state k).live = true) :
    ({ t with enders := update t.enders e (some (k, .loaded)) } : SeatTable).Sound where
  __ := h
  claimed e' j held := by
    by_cases he : e' = e
    · simp [he] at held
    · exact h.claimed e' j (by simpa [he] using held)
  single e₁ e₂ j h₁ h₂ := by
    by_cases he₁ : e₁ = e
    · simp [he₁] at h₁
    · by_cases he₂ : e₂ = e
      · simp [he₂] at h₂
      · exact h.single e₁ e₂ j (by simpa [he₁] using h₁) (by simpa [he₂] using h₂)
  loaded e' j held := by
    by_cases he : e' = e
    · have hj : j = k := by simpa [he] using held.symm
      subst hj
      change (t.state j).occupied = true ∨ _
      grind
    · exact h.loaded e' j (by simpa [he] using held)

lemma Sound.promote (h : t.Sound) {s : SessionState} (live : (t.state k).live = true)
    (eligible : s.eligible = true) :
    ({ t with roster := t.roster.setSeat k { t.roster.seats k with state := s } } :
      SeatTable).Sound := by
  have hsize : k < t.roster.size := h.lt_size (by grind)
  have hcount := occupied_update t { t with
    roster := t.roster.setSeat k { t.roster.seats k with state := s } } hsize rfl rfl
  have hold : (t.state k).occupied = true := by grind
  have hnew : s.occupied = true := by grind
  rw [hold, hnew] at hcount
  obtain ⟨reasoned, claimed, single, loaded, sending, tearing, arming, numbered, seated,
    balanced⟩ := h
  simp only [state, endReason] at *
  constructor
  case balanced =>
    change t.roster.opened = t.roster.closed + t.roster.expired + _
    omega
  all_goals
    simp only [state, endReason]
    grind

lemma Sound.elect (h : t.Sound) {e : Ender} {reason : EndReason} (reasoned : reason ≠ .none)
    (held : t.enders e = some (k, .loaded)) (unclaimed : t.endReason k = .none) :
    ({ t with
      roster := t.roster.setSeat k { t.roster.seats k with endReason := reason }
      enders := update t.enders e (some (k, .claimed)) } : SeatTable).Sound := by
  -- a session that is past `Active` has its reason, so the one that was loaded is still live
  have hlive : (t.state k).live = true := by
    have hloaded := h.loaded e k held
    have hpast := h.reasoned k
    grind
  have hsize : k < t.roster.size := h.lt_size (by grind)
  have hcount := occupied_update t { t with
    roster := t.roster.setSeat k { t.roster.seats k with endReason := reason }
    enders := update t.enders e (some (k, .claimed)) } hsize rfl rfl
  -- and nobody else has claimed its end
  have hother : ∀ e', t.enders e' ≠ some (k, .claimed) := fun e' hc =>
    (h.claimed e' k hc).2 unclaimed
  obtain ⟨hreasoned, claimed, single, loaded, sending, tearing, arming, numbered, seated,
    balanced⟩ := h
  simp only [state, endReason] at *
  constructor
  case balanced =>
    change t.roster.opened = t.roster.closed + t.roster.expired + _
    omega
  all_goals
    simp only [state, endReason, update_apply]
    grind

lemma Sound.expire (h : t.Sound) {e : Ender} (held : t.enders e = some (k, .claimed)) :
    ({ t with
      roster := t.roster.setSeat k { t.roster.seats k with state := .expiring }
      enders := update t.enders e none } : SeatTable).Sound := by
  obtain ⟨hlive, hreason⟩ := h.claimed e k held
  have hsize : k < t.roster.size := h.lt_size (by grind)
  have hcount := occupied_update t { t with
    roster := t.roster.setSeat k { t.roster.seats k with state := .expiring }
    enders := update t.enders e none } hsize rfl rfl
  have hold : (t.state k).occupied = true := by grind
  have hnew : SessionState.expiring.occupied = true := rfl
  rw [hold, hnew] at hcount
  have hother : ∀ e', e' ≠ e → t.enders e' ≠ some (k, .claimed) := fun e' hne hc =>
    hne (h.single e' e k hc held)
  obtain ⟨reasoned, claimed, single, loaded, sending, tearing, arming, numbered, seated,
    balanced⟩ := h
  simp only [state, endReason] at *
  constructor
  case balanced =>
    change t.roster.opened = t.roster.closed + t.roster.expired + _
    omega
  all_goals
    simp only [state, endReason, update_apply]
    grind

lemma Sound.claim (h : t.Sound) (fresh : Publisher.Fresh) (seated : k < t.roster.size)
    (free : (t.state k).free = true) :
    ({ t with
      roster := t.roster.claim k fresh
      tenancy := update t.tenancy k (t.tenancy k + 1) } : SeatTable).Sound := by
  have hcount := occupied_update t { t with
    roster := t.roster.claim k fresh
    tenancy := update t.tenancy k (t.tenancy k + 1) }
    (x := ⟨.open, .none, fresh.id, fresh.streamId, fresh.probeToken⟩) seated rfl rfl
  have hold : (t.state k).occupied = false := by
    by_contra hocc
    grind
  have hnew : SessionState.open.occupied = true := rfl
  rw [hold, hnew] at hcount
  obtain ⟨reasoned, claimed, single, loaded, sending, tearing, arming, numbered, hseated,
    balanced⟩ := h
  simp only [state, endReason] at *
  constructor
  case balanced =>
    change t.roster.opened + 1 = t.roster.closed + t.roster.expired + _
    simp only [Bool.toNat_false, Bool.toNat_true] at hcount
    omega
  all_goals
    simp only [state, endReason, update_apply, Roster.claim]
    grind

lemma Sound.abandon (h : t.Sound) (failure : Publisher.DrawFailure)
    (free : (t.state k).free = true) (unlocked : t.enders .control = none) :
    ({ t with roster := t.roster.abandon k failure } : SeatTable).Sound := by
  have hstate : ∀ j, ({ t with roster := t.roster.abandon k failure } : SeatTable).state j =
      t.state j := fun j => t.roster.state_abandon k j failure
  have hcount : ({ t with roster := t.roster.abandon k failure } : SeatTable).occupied =
      t.occupied := List.countP_congr fun j _ => by rw [hstate j]
  obtain ⟨reasoned, claimed, single, loaded, sending, tearing, arming, numbered, seated,
    balanced⟩ := h
  simp only [state, endReason] at *
  constructor
  case balanced => rwa [hcount]
  all_goals
    simp only [state, endReason, Roster.abandon]
    grind

lemma Sound.retire (h : t.Sound) (held : t.use = .tearing k) (still : t.arming = none)
    (done : t.enders .engine = none) :
    ({ t with roster := t.roster.retire k, use := .none } : SeatTable).Sound := by
  have hexpiring := h.tearing k held
  have hsize : k < t.roster.size := h.lt_size (by grind)
  have hseats := t.roster.seats_retire k
  have hends : (t.roster.retire k).size = t.roster.size ∧
      (t.roster.retire k).opened = t.roster.opened ∧
      (t.roster.retire k).closed + (t.roster.retire k).expired =
        t.roster.closed + t.roster.expired + 1 := by
    unfold Roster.retire
    split_ifs <;> exact ⟨rfl, rfl, by dsimp only [Roster.setSeat]; omega⟩
  obtain ⟨hsame, hopened, hcounted⟩ := hends
  have hcount := occupied_update t { t with roster := t.roster.retire k, use := .none }
    hsize hsame hseats
  have hold : (t.state k).occupied = true := by grind
  have hnew : SessionState.closed.occupied = false := rfl
  rw [hold, hnew] at hcount
  have hcontrol : ∀ e j, t.enders e = some (j, .loaded) → e = .control := by
    rintro (_ | _) j held
    · rfl
    · rw [done] at held
      cases held
  obtain ⟨reasoned, claimed, single, loaded, sending, tearing, arming, numbered, seated,
    balanced⟩ := h
  simp only [state, endReason] at *
  constructor
  case balanced =>
    change (t.roster.retire k).opened = (t.roster.retire k).closed + (t.roster.retire k).expired + _
    simp only [Bool.toNat_false, Bool.toNat_true] at hcount
    omega
  all_goals
    simp only [state, endReason, hseats, update_apply]
    grind

/-- What one access keeps. -/
lemma Move.sound (m : Move t es t') (h : t.Sound) : t'.Sound := by
  cases m with
  | stay => exact h
  | lock fresh => exact h.setEnder .control fresh
  | turn fresh seen => exact (h.setUse seen).setEnder .engine fresh
  | @found k live =>
    refine h.setArming ?_
    rintro j streamId token heq
    obtain ⟨rfl, rfl, rfl⟩ : k = j ∧ _ = streamId ∧ _ = token := by simpa using heq
    exact ⟨live, rfl, rfl⟩
  | @ends e k stage reason reasoned held =>
    have hreturn : Fresh none := by simp [Fresh]
    cases stage with
    | begun =>
      by_cases hlive : (t.state k).live = true
      · have hnext : (t.roster.endStep k reason .begun).2 = some .loaded := if_pos hlive
        rw [hnext]
        exact h.load e hlive
      · have hnext : (t.roster.endStep k reason .begun).2 = none := if_neg hlive
        rw [hnext]
        exact h.setEnder e hreturn
    | loaded =>
      by_cases hnone : t.endReason k = .none
      · have hdone : t.roster.endStep k reason .loaded =
            (t.roster.setSeat k { t.roster.seats k with endReason := reason }, some .claimed) :=
          if_pos hnone
        rw [hdone]
        exact h.elect reasoned held hnone
      · have hdone : t.roster.endStep k reason .loaded = (t.roster, none) := if_neg hnone
        rw [hdone]
        exact h.setEnder e hreturn
    | claimed => exact h.expire held
  | claim seated free => exact h.claim _ seated free
  | abandon free unlocked => exact h.abandon _ free unlocked
  | @arm k streamId token held =>
    have hdone : ({ t with arming := none } : SeatTable).Sound := h.setArming (by simp)
    by_cases hopen : t.state k = .open
    · have harm : t.roster.arm k = t.roster.setSeat k { t.roster.seats k with state := .armed } :=
        if_pos hopen
      rw [harm]
      have hlive : ({ t with arming := none } : SeatTable).state k = .open := hopen
      exact hdone.promote (by grind) (by grind)
    · have harm : t.roster.arm k = t.roster := if_neg hopen
      rw [harm]
      exact hdone
  | @sent k held =>
    have hdone : ({ t with use := .none } : SeatTable).Sound := h.setUse trivial
    by_cases harmed : t.state k = .armed
    · have hact : t.roster.activate k =
          t.roster.setSeat k { t.roster.seats k with state := .active } := if_pos harmed
      rw [hact]
      have hlive : ({ t with use := .none } : SeatTable).state k = .armed := harmed
      exact hdone.promote (by grind) (by grind)
    · have hact : t.roster.activate k = t.roster := if_neg harmed
      rw [hact]
      exact hdone
  | retire held still done => exact h.retire held still done

/-! ### The order of the states -/

/-- The states a seat may have one after the other. -/
inductive Follows : SessionState → SessionState → Prop
  | stays (s : SessionState) : Follows s s
  | opens {s : SessionState} (free : s.free = true) : Follows s .open
  | arms : Follows .open .armed
  | activates : Follows .armed .active
  | expires {s : SessionState} (live : s.live = true) : Follows s .expiring
  | closes : Follows .expiring .closed

lemma follows_update {seats : ℕ → Seat} {x : Seat} (h : Follows (seats k).state x.state) (j : ℕ) :
    Follows (seats j).state (update seats k x j).state := by
  by_cases hj : j = k
  · subst hj
    rw [update_self]
    exact h
  · rw [update_of_ne hj]
    exact .stays _

lemma Move.follows (m : Move t es t') (h : t.Sound) (j : ℕ) : Follows (t.state j) (t'.state j) := by
  cases m with
  | stay | lock | turn | found => exact .stays _
  | @ends e k stage reason reasoned held =>
    cases stage with
    | begun => exact .stays _
    | loaded =>
      unfold Roster.endStep
      dsimp only [state]
      split_ifs
      · exact follows_update (x := { t.roster.seats k with endReason := reason }) (.stays _) j
      · exact .stays _
    | claimed => exact follows_update (.expires (h.claimed e k held).1) j
  | claim seated free => exact follows_update (.opens free) j
  | @abandon k failure free unlocked =>
    dsimp only [state]
    rw [Roster.state_abandon]
    exact .stays _
  | @arm k streamId token held =>
    unfold Roster.arm
    dsimp only [state]
    split_ifs with hopen
    · refine follows_update ?_ j
      rw [hopen]
      exact .arms
    · exact .stays _
  | @sent k held =>
    unfold Roster.activate
    dsimp only [state]
    split_ifs with harmed
    · refine follows_update ?_ j
      rw [harmed]
      exact .activates
    · exact .stays _
  | @retire k held still done =>
    have hexpiring : (t.roster.seats k).state = .expiring := h.tearing k held
    have hstep : Follows (t.roster.seats k).state .closed := by
      rw [hexpiring]
      exact .closes
    dsimp only [state]
    rw [Roster.seats_retire]
    exact follows_update hstep j

/-- Only a claim takes a free seat. -/
lemma Move.free (m : Move t es t') (h : t.Sound) (hfree : (t.state k).free = true)
    (hsame : t'.tenancy k = t.tenancy k) : (t'.state k).free = true := by
  cases m with
  | stay | lock | turn | found => exact hfree
  | @ends e j stage reason reasoned held =>
    have hclaimed := h.claimed e j
    cases stage <;> simp only [Roster.endStep, state] at * <;> grind
  | @claim j fresh =>
    have hne : k ≠ j := by
      rintro rfl
      simp at hsame
    have hseat : (t.roster.claim j fresh).seats k = t.roster.seats k := update_of_ne hne _ _
    simpa only [state, hseat] using hfree
  | abandon =>
    dsimp only [state]
    rwa [Roster.state_abandon]
  | arm | sent =>
    simp only [Roster.arm, Roster.activate, state] at *
    grind
  | retire =>
    simp only [state, Roster.seats_retire] at *
    grind [update_apply]

lemma Move.size (m : Move t es t') : t'.roster.size = t.roster.size := by
  cases m with
  | @ends e j stage => cases stage <;> grind [Roster.endStep]
  | arm | sent | retire => grind [Roster.arm, Roster.activate, Roster.retire]
  | _ => rfl

end SeatTable

end TangoBulk
