import Mathlib.Data.List.Basic
import Mathlib.Tactic.Common

/-! Machines that read one input per step and report events. All nondeterminism of
a modelled system (scheduling, peers, the transport) is in the inputs, so a run is
determined by its input list and can be evaluated. -/
namespace Transition

/-- `step s i` is `none` when the input is not enabled in `s`. -/
structure Machine (σ ι ε : Type*) where
  step : σ → ι → Option (σ × List ε)

variable {σ ι ε : Type*}

variable {s s₀ s' : σ} {es t : List ε} {ok : σ → ι → Prop} {M : Machine σ ι ε}

/-- A step that is always enabled: the state and the events it gives. -/
lemma of_some_eq {x : σ × List ε} (h : some x = some (s, es)) : x.1 = s ∧ x.2 = es := by
  cases h
  exact ⟨rfl, rfl⟩

/-- A step behind a guard: the guard, and the state and the events it gives. -/
lemma of_guard {c : Prop} [Decidable c] {x : σ × List ε}
    (h : (if c then some x else none) = some (s, es)) : c ∧ x.1 = s ∧ x.2 = es := by
  rw [Option.ite_none_right_eq_some] at h
  exact ⟨h.1, of_some_eq h.2⟩

/-- A pair made of another function's answer: that answer, and what is made of it. -/
lemma of_mapped {α β γ : Type*} {x : Option α} {f : α → β × γ} {b : β} {c : γ}
    (h : x.map f = some (b, c)) : ∃ a, x = some a ∧ (f a).1 = b ∧ (f a).2 = c := by
  obtain ⟨a, ha, heq⟩ := Option.map_eq_some_iff.mp h
  exact ⟨a, ha, Prod.ext_iff.mp heq⟩

/-- A step that reports the same whatever it does. -/
lemma of_map_eq {x : Option σ} {es' : List ε} (h : x.map (·, es') = some (s, es)) :
    x = some s ∧ es' = es := by
  obtain ⟨next, hnext, rfl, rfl⟩ := of_mapped h
  exact ⟨hnext, rfl⟩

/-- Some run from `s₀` whose steps all meet `ok` ends in the given state, having
reported the given trace. -/
inductive Machine.Reaches (M : Machine σ ι ε) (ok : σ → ι → Prop) (s₀ : σ) :
    List ε → σ → Prop
  | start : M.Reaches ok s₀ [] s₀
  | next {t : List ε} {s s' : σ} {i : ι} {es : List ε} (prior : M.Reaches ok s₀ t s)
      (meets : ok s i) (taken : M.step s i = some (s', es)) :
      M.Reaches ok s₀ (t ++ es) s'

/-- The condition every step meets. -/
def anyStep : σ → ι → Prop := fun _ _ => True

instance (s : σ) (i : ι) : Decidable (anyStep s i) := inferInstanceAs (Decidable True)

/-- The invariant rule: a property of the initial state that every step keeps. -/
lemma Machine.Reaches.invariant (h : M.Reaches ok s₀ t s) (I : σ → Prop)
    (initial : I s₀) (keeps : ∀ s i s' es, I s → ok s i → M.step s i = some (s', es) → I s') :
    I s := by
  induction h with
  | start => exact initial
  | next _ hok hs ih => exact keeps _ _ _ _ ih hok hs

/-- The invariant rule for properties that also speak about the trace so far. -/
lemma Machine.Reaches.traceInvariant (h : M.Reaches ok s₀ t s)
    (I : List ε → σ → Prop) (initial : I [] s₀)
    (keeps : ∀ t s i s' es, I t s → ok s i → M.step s i = some (s', es) → I (t ++ es) s') :
    I t s := by
  induction h with
  | start => exact initial
  | next _ hok hs ih => exact keeps _ _ _ _ _ ih hok hs

/-- An event property that holds of whatever a step reports from a state with the
invariant holds of the whole trace. -/
lemma Machine.Reaches.events (h : M.Reaches ok s₀ t s) (I : σ → Prop)
    (P : ε → Prop) (initial : I s₀)
    (keeps : ∀ s i s' es, I s → ok s i → M.step s i = some (s', es) → I s' ∧ ∀ e ∈ es, P e) :
    ∀ e ∈ t, P e := by
  have hinv : I s ∧ ∀ e ∈ t, P e := by
    refine h.traceInvariant (fun t s => I s ∧ ∀ e ∈ t, P e) ⟨initial, by simp⟩ ?_
    rintro t s i s' es ⟨hI, ht⟩ hok hs
    obtain ⟨hI', hes⟩ := keeps s i s' es hI hok hs
    refine ⟨hI', fun e he => ?_⟩
    rcases List.mem_append.mp he with he | he
    · exact ht e he
    · exact hes e he
  exact hinv.2

lemma Machine.Reaches.weaken {ok' : σ → ι → Prop} (h : M.Reaches ok s₀ t s)
    (imp : ∀ s i, ok s i → ok' s i) : M.Reaches ok' s₀ t s := by
  induction h with
  | start => exact .start
  | next _ hok hs ih => exact .next ih (imp _ _ hok) hs

lemma Machine.Reaches.one {i : ι} (meets : ok s i)
    (taken : M.step s i = some (s', es)) : M.Reaches ok s es s' :=
  .next .start meets taken

/-- A run goes on from where another one ended. -/
lemma Machine.Reaches.trans {t' : List ε} (h : M.Reaches ok s₀ t s)
    (h' : M.Reaches ok s t' s') : M.Reaches ok s₀ (t ++ t') s' := by
  induction h' with
  | start => simpa using h
  | next _ hok hs ih =>
    rw [← List.append_assoc]
    exact .next ih hok hs

/-- Run an input list, refusing an input that is not enabled or does not meet `ok`. -/
def Machine.run (M : Machine σ ι ε) (ok : σ → ι → Prop) [∀ s i, Decidable (ok s i)] (s : σ) :
    List ι → Option (σ × List ε)
  | [] => some (s, [])
  | i :: is =>
    if ok s i then
      match M.step s i with
      | none => none
      | some (s', es) => (M.run ok s' is).map fun r => (r.1, es ++ r.2)
    else none

lemma Machine.run_cons [∀ s i, Decidable (ok s i)] {i : ι} {is : List ι}
    (hr : M.run ok s (i :: is) = some (s', es)) :
    ∃ s₁ es₁ es₂, ok s i ∧ M.step s i = some (s₁, es₁) ∧ M.run ok s₁ is = some (s', es₂) ∧
      es = es₁ ++ es₂ := by
  simp only [Machine.run] at hr
  split at hr
  case isFalse => cases hr
  case isTrue hok =>
    split at hr
    case h_1 => cases hr
    case h_2 s₁ es₁ hs =>
      obtain ⟨⟨s₂, es₂⟩, hrun, heq⟩ := Option.map_eq_some_iff.mp hr
      cases heq
      exact ⟨s₁, es₁, es₂, hok, hs, hrun, rfl⟩

lemma Machine.Reaches.extend_run [∀ s i, Decidable (ok s i)] {is : List ι}
    (h : M.Reaches ok s₀ t s) (hr : M.run ok s is = some (s', es)) :
    M.Reaches ok s₀ (t ++ es) s' := by
  induction is generalizing s t es with
  | nil =>
    simp only [Machine.run, Option.some.injEq, Prod.mk.injEq] at hr
    obtain ⟨rfl, rfl⟩ := hr
    simpa using h
  | cons i is ih =>
    obtain ⟨s₁, es₁, es₂, hok, hs, hrun, rfl⟩ := Machine.run_cons hr
    rw [← List.append_assoc]
    exact ih (h.next hok hs) hrun

/-- A property of the evaluated result of a run is a property of a reachable state. -/
lemma Machine.exists_of_run (M : Machine σ ι ε) (ok : σ → ι → Prop)
    [∀ s i, Decidable (ok s i)] (s₀ : σ) (is : List ι) {P : σ → List ε → Prop}
    (h : ∃ r ∈ M.run ok s₀ is, P r.1 r.2) : ∃ t s, M.Reaches ok s₀ t s ∧ P s t := by
  obtain ⟨⟨s, t⟩, hr, hP⟩ := h
  have hstart : M.Reaches ok s₀ [] s₀ := .start
  have hreach := hstart.extend_run (Option.mem_def.mp hr)
  exact ⟨t, s, by simpa using hreach, hP⟩

/-! ### Two machines that report alike -/

variable {τ : Type*} {M : Machine σ ι ε} {N : Machine τ ι ε} {R : σ → τ → Prop}

/-- From related states both machines refuse an input, or take it to related states and report the
same. -/
def Machine.Lockstep (M : Machine σ ι ε) (N : Machine τ ι ε) (R : σ → τ → Prop) : Prop :=
  ∀ s t i, R s t → Option.Rel (fun x y => R x.1 y.1 ∧ x.2 = y.2) (M.step s i) (N.step t i)

/-- What is reported in a whole run, if the run is possible. -/
lemma Machine.Lockstep.run (h : M.Lockstep N R) (is : List ι) :
    ∀ {s : σ} {t : τ}, R s t →
      (M.run anyStep s is).map Prod.snd = (N.run anyStep t is).map Prod.snd := by
  induction is with
  | nil =>
    intro s t _
    rfl
  | cons i is ih =>
    intro s t hst
    have hrel := h s t i hst
    have hok : anyStep s i ∧ anyStep t i := ⟨trivial, trivial⟩
    simp only [Machine.run, if_pos hok.1, if_pos hok.2]
    cases hs : M.step s i with
    | none =>
      rw [hs] at hrel
      cases ht : N.step t i with
      | none => rfl
      | some =>
        rw [ht] at hrel
        cases hrel
    | some x =>
      rw [hs] at hrel
      cases ht : N.step t i with
      | none =>
        rw [ht] at hrel
        cases hrel
      | some y =>
        rw [ht] at hrel
        obtain ⟨hnext, hes⟩ : R x.1 y.1 ∧ x.2 = y.2 := by
          cases hrel with
          | some hxy => exact hxy
        have hrest := congrArg (Option.map (x.2 ++ ·)) (ih hnext)
        rw [Option.map_map, Option.map_map] at hrest
        dsimp only
        rw [← hes, Option.map_map, Option.map_map]
        exact hrest

end Transition
