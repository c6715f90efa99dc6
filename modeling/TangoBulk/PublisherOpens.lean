import TangoBulk.PublisherLifecycle

/-! Opens that overlap. A selection reserves nothing and a claim does not look at its seat again, so
two Opens may claim one seat. -/
namespace TangoBulk

open ByteString Transition Function

namespace OpenCall

variable {x y : OpenCall}

lemma overlaps_iff : x.overlaps y = true ↔ x.precedes y = false ∧ y.precedes x = false := by
  simp [overlaps]

lemma overlaps_comm (x y : OpenCall) : x.overlaps y = y.overlaps x := by
  simp [overlaps, Bool.and_comm]

lemma precedes_of_ended_none (h : x.ended = none) (y : OpenCall) : x.precedes y = false := by
  simp [precedes, h]

lemma ended_of_outstanding (h : x.outstanding = true) : x.ended = none := by
  cases x <;> first | rfl | cases h

lemma overlaps_self_of_outstanding (h : x.outstanding = true) : x.overlaps x = true := by
  have hnever := precedes_of_ended_none (ended_of_outstanding h) x
  exact overlaps_iff.mpr ⟨hnever, hnever⟩

lemma overlaps_congr {x' y' : OpenCall} (hx : x'.began = x.began) (hx' : x'.ended = x.ended)
    (hy : y'.began = y.began) (hy' : y'.ended = y.ended) : x'.overlaps y' = x.overlaps y := by
  simp only [overlaps, precedes, hx, hx', hy, hy']

end OpenCall

namespace CoordState

variable {s s' : CoordState} {i : CoordInput} {trace es : List CoordEvent} {k : ℕ}

/-- An Open claims its seat, or throws in its claim, only if the last Open that claimed it overlaps
none that is under way, this one included. -/
def spared (s : CoordState) (i : CoordInput) : Prop :=
  ∀ call ∈ i.claims, ∀ k ∈ (s.opens call).target, ∀ b < s.calls,
    (s.opens b).tenure = some (k, s.tenancy k) →
      ∀ c < s.calls, (s.opens c).outstanding = true → (s.opens b).overlaps (s.opens c) = false

instance (s : CoordState) (i : CoordInput) : Decidable (s.spared i) :=
  inferInstanceAs (Decidable (∀ call ∈ i.claims, ∀ k ∈ (s.opens call).target, ∀ b < s.calls, _ →
    ∀ c < s.calls, _ → _))

/-- What the Opens of a run keep between them. -/
structure Orderly (s : CoordState) : Prop where
  unused : ∀ c, s.calls ≤ c → s.opens c = .unused
  began_le : ∀ c, (s.opens c).began ≤ s.clock
  ended_lt : ∀ c e, (s.opens c).ended = some e → e < s.clock
  tenure_le : ∀ c k n, (s.opens c).tenure = some (k, n) → 0 < n ∧ n ≤ s.tenancy k
  unique : ∀ a b k n, (s.opens a).tenure = some (k, n) → (s.opens b).tenure = some (k, n) → a = b
  -- the seat of an Open that overlaps one under way has not been claimed again
  recent : ∀ b c k n, (s.opens b).tenure = some (k, n) → (s.opens c).outstanding = true →
    (s.opens b).overlaps (s.opens c) = true → n = s.tenancy k
  apart : ∀ a b k n m, (s.opens a).tenure = some (k, n) → (s.opens b).tenure = some (k, m) →
    a ≠ b → (s.opens a).overlaps (s.opens b) = false
  -- a selected seat is free, or an Open that overlaps this one has claimed it since
  selected : ∀ a k, (s.opens a).target = some k → k ∈ s.publisher.seats ∧
    ((s.publisher.sessions k).state.free = true ∨ ∃ b, (s.opens b).tenure = some (k, s.tenancy k) ∧
      (s.opens b).overlaps (s.opens a) = true)
  -- and it is still found under what it was told
  answered : ∀ b c k n reply began ended, s.opens b = .granted k n reply began ended →
    (s.opens c).outstanding = true → (s.opens b).overlaps (s.opens c) = true →
      (s.publisher.sessions k).id = reply.sessionId

lemma Orderly.lt_calls (h : s.Orderly) {c : ℕ} (hc : s.opens c ≠ .unused) : c < s.calls := by
  by_contra hout
  exact hc (h.unused c (not_lt.mp hout))

lemma Orderly.outstanding_lt (h : s.Orderly) {c : ℕ} (hc : (s.opens c).outstanding = true) :
    c < s.calls := by
  refine h.lt_calls fun heq => ?_
  rw [heq] at hc
  cases hc

lemma Orderly.tenure_lt (h : s.Orderly) {c n : ℕ} (hc : (s.opens c).tenure = some (k, n)) :
    c < s.calls := by
  refine h.lt_calls fun heq => ?_
  rw [heq] at hc
  cases hc

lemma Orderly.claimsFree (h : s.Orderly) (hspared : s.spared i) : s.claimsFree i := by
  intro call hcall k htarget
  have hunder := OpenCall.outstanding_of_target htarget
  obtain ⟨hseat, hfree | ⟨b, htenure, hoverlap⟩⟩ := h.selected call k htarget
  · exact ⟨hseat, hfree⟩
  · have hnot := hspared call hcall k htarget b (h.tenure_lt htenure) htenure call
      (h.outstanding_lt hunder) hunder
    rw [hoverlap] at hnot
    cases hnot

/-- No claim, not even one that throws, changes the identifier in the seat of an Open that overlaps
one under way. -/
lemma Orderly.id_kept (h : s.Orderly) (hspared : s.spared i) (hs : s.step i = some (s', es))
    (b c k n : ℕ) (hb : (s.opens b).tenure = some (k, n)) (hc : (s.opens c).outstanding = true)
    (hover : (s.opens b).overlaps (s.opens c) = true) :
    (s'.publisher.sessions k).id = (s.publisher.sessions k).id := by
  refine (step_stays hs fun call hcall htarget => ?_).id
  obtain rfl := h.recent b c k n hb hc hover
  have hnot := hspared call hcall k htarget b (h.tenure_lt hb) hb c (h.outstanding_lt hc) hc
  rw [hover] at hnot
  cases hnot

variable {a began b n : ℕ} {x : OpenCall} {reply : OpenReply}

lemma Orderly.unused_update (h : s.Orderly) (opens : s'.opens = update s.opens a x)
    (calls : s.calls ≤ s'.calls) (ha : a < s'.calls) (c : ℕ) (hc : s'.calls ≤ c) :
    s'.opens c = .unused := by
  rw [opens, update_of_ne (ha.trans_le hc).ne']
  exact h.unused c (calls.trans hc)

/-- One call goes on without a claim: it keeps its tenure, and if it has one, whoever it
overlapped. -/
lemma Orderly.update (h : s.Orderly) (hsound : s.table.Sound) (hmove : s.table.Move es s'.table)
    {a : ℕ} {x : OpenCall} (opens : s'.opens = update s.opens a x)
    (unused : ∀ c, s'.calls ≤ c → s'.opens c = .unused) (clock : s.clock ≤ s'.clock)
    (tenancy : s'.tenancy = s.tenancy) (began_le : x.began ≤ s'.clock)
    (ended_lt : ∀ e, x.ended = some e → e < s'.clock) (tenure : x.tenure = (s.opens a).tenure)
    (overlaps : x.tenure ≠ none → ∀ c, x.overlaps (s.opens c) = (s.opens a).overlaps (s.opens c))
    (recent : x.outstanding = true → x.tenure = none ∧ ∀ b k n, (s.opens b).tenure = some (k, n) →
      (s.opens b).overlaps x = true → (s.opens b).outstanding = true)
    (target : ∀ k, x.target = some k →
      k ∈ s.publisher.seats ∧ (s.publisher.sessions k).state.free = true)
    (ids : ∀ b c k n, (s.opens b).tenure = some (k, n) → (s.opens c).outstanding = true →
      (s.opens b).overlaps (s.opens c) = true →
      (s'.publisher.sessions k).id = (s.publisher.sessions k).id)
    (answered : ∀ k n reply began ended, x = .granted k n reply began ended →
      (s'.publisher.sessions k).id = reply.sessionId) : s'.Orderly := by
  have hat : s'.opens a = x := by rw [opens, update_self]
  have hother : ∀ c, c ≠ a → s'.opens c = s.opens c := fun c hc => by
    rw [opens, update_of_ne hc]
  have htenure : ∀ c, (s'.opens c).tenure = (s.opens c).tenure := by
    intro c
    by_cases hc : c = a
    · rw [hc, hat, tenure]
    · rw [hother c hc]
  -- a call with a tenure overlaps every other call it did
  have hover : ∀ b c, (s'.opens b).tenure ≠ none → c ≠ a →
      (s'.opens b).overlaps (s'.opens c) = (s.opens b).overlaps (s.opens c) := by
    intro b c hb hc
    rw [hother c hc]
    by_cases hba : b = a
    · rw [hba, hat] at hb ⊢
      exact overlaps hb c
    · rw [hother b hba]
  constructor
  case unused => exact unused
  case began_le =>
    intro c
    by_cases hc : c = a
    · rw [hc, hat]
      exact began_le
    · rw [hother c hc]
      exact (h.began_le c).trans clock
  case ended_lt =>
    intro c e hc
    by_cases hca : c = a
    · rw [hca, hat] at hc
      exact ended_lt e hc
    · rw [hother c hca] at hc
      exact (h.ended_lt c e hc).trans_le clock
  case tenure_le =>
    intro c k n hc
    rw [tenancy]
    exact h.tenure_le c k n (htenure c ▸ hc)
  case unique =>
    intro b c k n hb hc
    exact h.unique b c k n (htenure b ▸ hb) (htenure c ▸ hc)
  case recent =>
    intro b c k n hb hc hov
    rw [tenancy]
    by_cases hca : c = a
    · rw [hca, hat] at hc hov
      obtain ⟨hnone, hrecent⟩ := recent hc
      have hba : b ≠ a := by
        rintro rfl
        rw [hat, hnone] at hb
        cases hb
      rw [hother b hba] at hb hov
      have hunder := hrecent b k n hb hov
      exact h.recent b b k n hb hunder (OpenCall.overlaps_self_of_outstanding hunder)
    · rw [hover b c (by simp [hb]) hca] at hov
      rw [hother c hca] at hc
      exact h.recent b c k n (htenure b ▸ hb) hc hov
  case apart =>
    intro b c k n m hb hc hne
    by_cases hca : c = a
    · have hba : b ≠ a := fun hba => hne (hba.trans hca.symm)
      rw [OpenCall.overlaps_comm, hover c b (by simp [hc]) hba, OpenCall.overlaps_comm]
      exact h.apart b c k n m (htenure b ▸ hb) (htenure c ▸ hc) hne
    · rw [hover b c (by simp [hb]) hca]
      exact h.apart b c k n m (htenure b ▸ hb) (htenure c ▸ hc) hne
  case selected =>
    intro c k hc
    rw [tenancy]
    by_cases hca : c = a
    · rw [hca, hat] at hc
      have hkept := selected_kept hsound hmove (target k hc) (congrFun tenancy k)
      exact ⟨hkept.1, .inl hkept.2⟩
    · have hold : (s.opens c).target = some k := by rwa [hother c hca] at hc
      obtain ⟨hseat, hfree | ⟨b, hb, hov⟩⟩ := h.selected c k hold
      · have hkept := selected_kept hsound hmove ⟨hseat, hfree⟩ (congrFun tenancy k)
        exact ⟨hkept.1, .inl hkept.2⟩
      · have hin : k ∈ s'.publisher.seats := by
          rw [mem_seats_iff, hmove.size]
          exact mem_seats_iff.mp hseat
        refine ⟨hin, .inr ⟨b, (htenure b).trans hb, ?_⟩⟩
        rw [hover b c (by simp [htenure b, hb]) hca]
        exact hov
  case answered =>
    intro b c k n reply began ended hb hc hov
    by_cases hba : b = a
    · rw [hba, hat] at hb
      exact answered k n reply began ended hb
    · rw [hother b hba] at hb hov
      by_cases hca : c = a
      · rw [hca, hat] at hc hov
        have hunder := (recent hc).2 b k n (by rw [hb]; rfl) hov
        rw [hb] at hunder
        cases hunder
      · rw [hother c hca] at hc hov
        rw [ids b c k n (by rw [hb]; rfl) hc hov]
        exact h.answered b c k n reply began ended hb hc hov

/-! ### A claim -/

/-- Open `a` claims seat `k`, whose last Open overlaps none that is under way. -/
structure Claim (s : CoordState) (a k : ℕ) (request : OpenRequest) (began : ℕ) (s' : CoordState) :
    Prop where
  was : s.opens a = .selected k request began
  spared : ∀ b < s.calls, (s.opens b).tenure = some (k, s.tenancy k) → ∀ c < s.calls,
    (s.opens c).outstanding = true → (s.opens b).overlaps (s.opens c) = false
  opens : s'.opens = Function.update s.opens a (.claimed k (s.tenancy k + 1) request began)
  calls : s'.calls = s.calls
  clock : s'.clock = s.clock
  tenancy : s'.tenancy = Function.update s.tenancy k (s.tenancy k + 1)

namespace Claim

variable {request : OpenRequest} {c j m : ℕ}

lemma self (hc : s.Claim a k request began s') :
    s'.opens a = .claimed k (s.tenancy k + 1) request began := by
  rw [hc.opens, update_self]

lemma other (hc : s.Claim a k request began s') (hne : c ≠ a) : s'.opens c = s.opens c := by
  rw [hc.opens, update_of_ne hne]

lemma under (hc : s.Claim a k request began s') : (s.opens a).outstanding = true := by
  rw [hc.was]
  rfl

/-- Nothing but the tenure of this call is new. -/
lemma times (hc : s.Claim a k request began s') (c : ℕ) :
    (s'.opens c).began = (s.opens c).began ∧ (s'.opens c).ended = (s.opens c).ended ∧
      (s'.opens c).outstanding = (s.opens c).outstanding := by
  by_cases hca : c = a
  · rw [hca, hc.self, hc.was]
    exact ⟨rfl, rfl, rfl⟩
  · rw [hc.other hca]
    exact ⟨rfl, rfl, rfl⟩

lemma overlaps (hc : s.Claim a k request began s') (b c : ℕ) :
    (s'.opens b).overlaps (s'.opens c) = (s.opens b).overlaps (s.opens c) :=
  OpenCall.overlaps_congr (hc.times b).1 (hc.times b).2.1 (hc.times c).1 (hc.times c).2.1

lemma tenure (hc : s.Claim a k request began s') (ht : (s'.opens c).tenure = some (j, n)) :
    (c = a ∧ j = k ∧ n = s.tenancy k + 1) ∨ (c ≠ a ∧ (s.opens c).tenure = some (j, n)) := by
  by_cases hca : c = a
  · rw [hca, hc.self] at ht
    cases ht
    exact .inl ⟨hca, rfl, rfl⟩
  · rw [hc.other hca] at ht
    exact .inr ⟨hca, ht⟩

lemma tenancy_other (hc : s.Claim a k request began s') (hj : j ≠ k) :
    s'.tenancy j = s.tenancy j := by
  rw [hc.tenancy, update_of_ne hj]

/-- Who holds an earlier tenancy of the seat overlaps nobody under way. -/
lemma earlier (hc : s.Claim a k request began s') (h : s.Orderly)
    (hb : (s.opens b).tenure = some (k, n)) (hunder : (s.opens c).outstanding = true) :
    (s.opens b).overlaps (s.opens c) = false := by
  by_contra hov
  have hov' : (s.opens b).overlaps (s.opens c) = true := by simpa using hov
  obtain rfl := h.recent b c k n hb hunder hov'
  exact hov (hc.spared b (h.tenure_lt hb) hb c (h.outstanding_lt hunder) hunder)

lemma unused (hc : s.Claim a k request began s') (h : s.Orderly) (hlate : s'.calls ≤ c) :
    s'.opens c = .unused := by
  rw [hc.calls] at hlate
  have hold := h.unused c hlate
  have hca : c ≠ a := by
    rintro rfl
    rw [hc.was] at hold
    cases hold
  rw [hc.other hca, hold]

lemma tenure_le (hc : s.Claim a k request began s') (h : s.Orderly)
    (ht : (s'.opens c).tenure = some (j, n)) : 0 < n ∧ n ≤ s'.tenancy j := by
  rcases hc.tenure ht with ⟨rfl, rfl, rfl⟩ | ⟨-, hold⟩
  · rw [hc.tenancy, update_self]
    exact ⟨Nat.succ_pos _, le_rfl⟩
  · have hle := h.tenure_le c j n hold
    by_cases hj : j = k
    · subst hj
      rw [hc.tenancy, update_self]
      omega
    · rwa [hc.tenancy_other hj]

lemma unique (hc : s.Claim a k request began s') (h : s.Orderly)
    (hb : (s'.opens b).tenure = some (j, n)) (ht : (s'.opens c).tenure = some (j, n)) : b = c := by
  rcases hc.tenure hb with ⟨rfl, rfl, rfl⟩ | ⟨-, hbold⟩
  · rcases hc.tenure ht with ⟨rfl, -⟩ | ⟨-, hcold⟩
    · rfl
    · have hle := h.tenure_le c j _ hcold
      omega
  · rcases hc.tenure ht with ⟨rfl, rfl, rfl⟩ | ⟨-, hcold⟩
    · have hle := h.tenure_le b j _ hbold
      omega
    · exact h.unique b c j n hbold hcold

lemma recent (hc : s.Claim a k request began s') (h : s.Orderly)
    (hb : (s'.opens b).tenure = some (j, n)) (hunder : (s'.opens c).outstanding = true)
    (hov : (s'.opens b).overlaps (s'.opens c) = true) : n = s'.tenancy j := by
  rw [hc.overlaps] at hov
  rw [(hc.times c).2.2] at hunder
  rcases hc.tenure hb with ⟨rfl, rfl, rfl⟩ | ⟨-, hbold⟩
  · rw [hc.tenancy, update_self]
  · by_cases hj : j = k
    · subst hj
      rw [hc.earlier h hbold hunder] at hov
      cases hov
    · rw [hc.tenancy_other hj]
      exact h.recent b c j n hbold hunder hov

lemma apart (hc : s.Claim a k request began s') (h : s.Orderly)
    (hb : (s'.opens b).tenure = some (j, n)) (ht : (s'.opens c).tenure = some (j, m))
    (hne : b ≠ c) : (s'.opens b).overlaps (s'.opens c) = false := by
  rw [hc.overlaps]
  rcases hc.tenure hb with ⟨rfl, rfl, rfl⟩ | ⟨-, hbold⟩
  · rcases hc.tenure ht with ⟨rfl, -⟩ | ⟨-, hcold⟩
    · exact absurd rfl hne
    · rw [OpenCall.overlaps_comm]
      exact hc.earlier h hcold hc.under
  · rcases hc.tenure ht with ⟨rfl, rfl, rfl⟩ | ⟨-, hcold⟩
    · exact hc.earlier h hbold hc.under
    · exact h.apart b c j n m hbold hcold hne

lemma selected (hc : s.Claim a k request began s') (h : s.Orderly) (hsound : s.table.Sound)
    (hmove : s.table.Move es s'.table) (htarget : (s'.opens c).target = some j) :
    j ∈ s'.publisher.seats ∧ ((s'.publisher.sessions j).state.free = true ∨
      ∃ b, (s'.opens b).tenure = some (j, s'.tenancy j) ∧
        (s'.opens b).overlaps (s'.opens c) = true) := by
  have hca : c ≠ a := by
    rintro rfl
    rw [hc.self] at htarget
    cases htarget
  rw [hc.other hca] at htarget
  obtain ⟨hseat, hcase⟩ := h.selected c j htarget
  have hin : j ∈ s'.publisher.seats := by
    rw [mem_seats_iff, hmove.size]
    exact mem_seats_iff.mp hseat
  refine ⟨hin, ?_⟩
  by_cases hj : j = k
  · -- this claim took the seat from under a call it overlaps
    subst hj
    refine .inr ⟨a, by rw [hc.self, hc.tenancy, update_self]; rfl, ?_⟩
    have hunder := OpenCall.outstanding_of_target htarget
    rw [hc.overlaps, OpenCall.overlaps_iff]
    exact ⟨OpenCall.precedes_of_ended_none (OpenCall.ended_of_outstanding hc.under) _,
      OpenCall.precedes_of_ended_none (OpenCall.ended_of_outstanding hunder) _⟩
  · have hsame := hc.tenancy_other hj
    rcases hcase with hfree | ⟨b, hb, hov⟩
    · exact .inl (hmove.free hsound hfree hsame)
    · have hba : b ≠ a := by
        rintro rfl
        rw [hc.was] at hb
        cases hb
      refine .inr ⟨b, ?_, ?_⟩
      · rw [hc.other hba, hsame]
        exact hb
      · rw [hc.overlaps]
        exact hov

end Claim

lemma Orderly.claim (h : s.Orderly) (hsound : s.table.Sound) (hmove : s.table.Move es s'.table)
    {request : OpenRequest} (hc : s.Claim a k request began s')
    (ids : ∀ b c k n, (s.opens b).tenure = some (k, n) → (s.opens c).outstanding = true →
      (s.opens b).overlaps (s.opens c) = true →
      (s'.publisher.sessions k).id = (s.publisher.sessions k).id) : s'.Orderly where
  unused _ := hc.unused h
  began_le c := by
    rw [(hc.times c).1, hc.clock]
    exact h.began_le c
  ended_lt c e he := by
    rw [(hc.times c).2.1] at he
    rw [hc.clock]
    exact h.ended_lt c e he
  tenure_le _ _ _ := hc.tenure_le h
  unique _ _ _ _ := hc.unique h
  recent _ _ _ _ := hc.recent h
  apart _ _ _ _ _ := hc.apart h
  selected _ _ := hc.selected h hsound hmove
  answered b c j n reply began' ended hb hunder hov := by
    have hba : b ≠ a := by
      rintro rfl
      rw [hc.self] at hb
      cases hb
    rw [hc.other hba] at hb
    rw [(hc.times c).2.2] at hunder
    rw [hc.overlaps] at hov
    rw [ids b c j n (by rw [hb]; rfl) hunder hov]
    exact h.answered b c j n reply began' ended hb hunder hov

/-! ### Every step -/

lemma Orderly.step (h : s.Orderly) (hsound : s.table.Sound) (hspared : s.spared i)
    (hs : s.step i = some (s', es)) : s'.Orderly := by
  have hmoves := step_moves hs
  have hmove := hmoves.table (h.claimsFree hspared)
  have hids := h.id_kept hspared hs
  cases hmoves.opens with
  | idle opens calls clock tenancy =>
    -- the first call that is not used yet stays as it is
    have hunused := h.unused s.calls le_rfl
    have hself : s'.opens = Function.update s.opens s.calls .unused := by
      rw [opens, ← hunused, update_eq_self]
    refine h.update hsound hmove hself ?_ clock.ge tenancy (Nat.zero_le _) ?_ ?_ ?_ ?_ ?_ hids ?_
    · rw [opens, calls]
      exact h.unused
    · simp [OpenCall.ended]
    · rw [hunused]
    · simp [OpenCall.tenure]
    · simp [OpenCall.outstanding]
    · simp [OpenCall.target]
    · simp
  | refused result opens calls clock tenancy =>
    refine h.update hsound hmove opens (h.unused_update opens (by omega) (by omega)) (by omega)
      tenancy ?_ ?_ ?_ ?_ ?_ ?_ hids ?_
    · exact Nat.zero_le _
    · simp [OpenCall.ended]
    · rw [h.unused s.calls le_rfl]
      rfl
    · simp [OpenCall.tenure]
    · simp [OpenCall.outstanding]
    · simp [OpenCall.target]
    · simp
  | selected k request input first publisher opens calls clock tenancy =>
    refine h.update hsound hmove opens (h.unused_update opens (by omega) (by omega)) (by omega)
      tenancy ?_ ?_ ?_ ?_ ?_ ?_ hids ?_
    · rw [clock]
      exact Nat.le_succ _
    · simp [OpenCall.ended]
    · rw [h.unused s.calls le_rfl]
      rfl
    · simp [OpenCall.tenure]
    · refine fun _ => ⟨rfl, fun b j n hb hov => ?_⟩
      -- whoever was answered was answered before this call began
      cases hcall : s.opens b with
      | granted j' n' reply began ended =>
        have hlt := h.ended_lt b ended (by rw [hcall]; rfl)
        rw [hcall] at hov
        exact absurd hlt (of_decide_eq_false (OpenCall.overlaps_iff.mp hov).1)
      | claimed => rfl
      | unused | selected | failed =>
        rw [hcall] at hb
        cases hb
    · intro j hj
      cases hj
      exact Publisher.selectSeat_free first
    · simp
  | failed call k request began result was opens calls clock tenancy =>
    have hcall : call < s.calls := h.lt_calls (by simp [was])
    refine h.update hsound hmove opens (h.unused_update opens (by omega) (by omega)) (by omega)
      tenancy ?_ ?_ ?_ ?_ ?_ ?_ hids ?_
    · exact Nat.zero_le _
    · simp [OpenCall.ended]
    · rw [was]
      rfl
    · simp [OpenCall.tenure]
    · simp [OpenCall.outstanding]
    · simp [OpenCall.target]
    · simp
  | claimed call k request began fresh input was publisher opens calls clock tenancy =>
    subst input
    have hclear := hspared call rfl k (by rw [was]; rfl)
    exact h.claim hsound hmove ⟨was, hclear, opens, calls, clock, tenancy⟩ hids
  | granted call k n request began input was opens calls clock tenancy =>
    have hcall : call < s.calls := h.lt_calls (by simp [was])
    have hbegan := h.began_le call
    rw [was] at hbegan
    refine h.update hsound hmove opens (h.unused_update opens (by omega) (by omega)) (by omega)
      tenancy ?_ ?_ ?_ ?_ ?_ ?_ hids ?_
    · rw [clock]
      exact hbegan.trans (Nat.le_succ _)
    · intro e he
      cases he
      omega
    · rw [was]
      rfl
    · intro _ c
      have hc := h.began_le c
      have hlate : OpenCall.precedes (.granted k n (s.publisher.openReplyFor k request) began
          s.clock) (s.opens c) = false := decide_eq_false (by omega)
      have hnever : (OpenCall.claimed k n request began).precedes (s.opens c) = false := rfl
      rw [was, OpenCall.overlaps, OpenCall.overlaps, hlate, hnever]
      rfl
    · simp [OpenCall.outstanding]
    · simp [OpenCall.target]
    · intro j m reply began' ended heq
      cases heq
      have hunder : (s.opens call).outstanding = true := by rw [was]; rfl
      exact hids call call k n (by rw [was]; rfl) hunder
        (OpenCall.overlaps_self_of_outstanding hunder)

lemma start_orderly (c : PublisherConfig) (serverEpochId : UInt64) (workerAddress : Bytes) :
    (start c serverEpochId workerAddress).Orderly where
  unused _ _ := rfl
  began_le _ := le_rfl
  ended_lt _ _ h := by cases h
  tenure_le _ _ _ h := by cases h
  unique _ _ _ _ h := by cases h
  recent _ _ _ _ h := by cases h
  apart _ _ _ _ _ h := by cases h
  selected _ _ h := by cases h
  answered _ _ _ _ _ _ _ h := by cases h

lemma reach_orderly {c : PublisherConfig} {serverEpochId : UInt64} {workerAddress : Bytes}
    (h : coordMachine.Reaches spared (start c serverEpochId workerAddress) trace s) :
    s.table.Sound ∧ s.Orderly := by
  refine h.invariant (fun s => s.table.Sound ∧ s.Orderly) ?_ ?_
  · exact ⟨(start_vacant c serverEpochId workerAddress).sound,
      start_orderly c serverEpochId workerAddress⟩
  · rintro s i s' es ⟨hsound, horderly⟩ hspared hs
    have hmove := (step_moves hs).table (horderly.claimsFree hspared)
    exact ⟨hmove.sound hsound, horderly.step hsound hspared hs⟩

/-- What Opens expect of each other, in a state and over its next step. -/
structure OpensApart (s : CoordState) : Prop where
  tenancies : ∀ a b k n m, (s.opens a).reply.isSome → (s.opens b).reply.isSome →
    (s.opens a).tenure = some (k, n) → (s.opens b).tenure = some (k, m) → a ≠ b →
      n ≠ m ∧ (s.opens a).overlaps (s.opens b) = false
  claims : ∀ i a k, i.claims = some a → s.spared i → (s.opens a).target = some k →
    (s.publisher.sessions k).state = .unknown ∨ (s.publisher.sessions k).state = .closed
  found : ∀ a s' es, s.step (.openReply a) = some (s', es) →
    ∀ b reply, (s'.opens b).reply = some reply → (s'.opens b).overlaps (s'.opens a) = true →
      (s'.publisher.sessionForId reply.sessionId).isSome

lemma Orderly.tenancies (h : s.Orderly) {m : ℕ} (ha : (s.opens a).tenure = some (k, n))
    (hb : (s.opens b).tenure = some (k, m)) (hne : a ≠ b) :
    n ≠ m ∧ (s.opens a).overlaps (s.opens b) = false := by
  refine ⟨?_, h.apart a b k n m ha hb hne⟩
  rintro rfl
  exact hne (h.unique a b k n ha hb)

lemma Orderly.found (h : s.Orderly) (hsound : s.table.Sound) {id : SessionId}
    (hb : (s.opens b).tenure = some (k, s.tenancy k)) (hid : (s.publisher.sessions k).id = id) :
    (s.publisher.sessionForId id).isSome := by
  have hused : s.tenancy k ≠ 0 := Nat.pos_iff_ne_zero.mp (h.tenure_le b k _ hb).1
  have hknown : (s.publisher.sessions k).state ≠ .unknown := (hsound.numbered k).not.mpr hused
  have hseat : k ∈ s.publisher.seats := mem_seats_iff.mpr (hsound.lt_size hknown)
  unfold Publisher.sessionForId
  rw [List.find?_isSome]
  exact ⟨k, hseat, by simp [hknown, hid]⟩

lemma openReply_inv (hs : s.step (.openReply a) = some (s', es)) :
    ∃ k n request began, s.opens a = .claimed k n request began ∧
      s' = s.answerOpen a (.granted k n (s.publisher.openReplyFor k request) began s.clock) := by
  obtain ⟨hnext, -⟩ := of_map_eq hs
  unfold openReply at hnext
  split at hnext
  case h_1 k n request began hcall =>
    exact ⟨k, n, request, began, hcall, (Option.some.inj hnext).symm⟩
  case h_2 => cases hnext

/-- Whoever overlaps an Open that has just been answered is found under what it was told. -/
lemma Orderly.found_reply (h : s.Orderly) (hsound : s.table.Sound) {ended : ℕ}
    (hs : s.step (.openReply a) = some (s', es)) (hb : s'.opens b = .granted k n reply began ended)
    (hover : (s'.opens b).overlaps (s'.opens a) = true) :
    (s'.publisher.sessionForId reply.sessionId).isSome := by
  obtain ⟨j, m, request, began', hcall, rfl⟩ := openReply_inv hs
  have hunder : (s.opens a).outstanding = true := by rw [hcall]; rfl
  change (s.publisher.sessionForId reply.sessionId).isSome
  by_cases hba : b = a
  · subst hba
    simp only [answerOpen, update_self] at hb
    obtain ⟨rfl, rfl, rfl, -⟩ := OpenCall.granted.inj hb
    have htenure : (s.opens b).tenure = some (j, m) := by rw [hcall]; rfl
    obtain rfl := h.recent b b j m htenure hunder (OpenCall.overlaps_self_of_outstanding hunder)
    exact h.found hsound htenure rfl
  · simp only [answerOpen, update_of_ne hba, update_self] at hb hover
    have htenure : (s.opens b).tenure = some (k, n) := by rw [hb]; rfl
    have hov : (s.opens b).overlaps (s.opens a) = true := by
      rw [OpenCall.overlaps_iff, hcall]
      exact ⟨(OpenCall.overlaps_iff.mp hover).1, rfl⟩
    obtain rfl := h.recent b a k n htenure hunder hov
    exact h.found hsound htenure (h.answered b a k _ reply began ended hb hunder hov)

lemma reply_eq (h : x.reply = some reply) :
    ∃ k n began ended, x = .granted k n reply began ended := by
  cases x with
  | granted k n reply' began ended =>
    cases h
    exact ⟨k, n, began, ended, rfl⟩
  | _ => cases h

/-- In every run in which no claim takes the seat of an Open that overlaps one still under way,
Opens keep apart. -/
theorem concurrent_opens_apart {c : PublisherConfig} {serverEpochId : UInt64}
    {workerAddress : Bytes}
    (h : coordMachine.Reaches spared (start c serverEpochId workerAddress) trace s) :
    s.OpensApart := by
  obtain ⟨hsound, horderly⟩ := reach_orderly h
  constructor
  case tenancies =>
    intro a b k n m _ _ ha hb hne
    exact horderly.tenancies ha hb hne
  case claims =>
    intro i a k hclaims hspared htarget
    exact SessionState.free_iff.mp (horderly.claimsFree hspared a hclaims k htarget).2
  case found =>
    intro a s' es hs b reply hreply hover
    obtain ⟨k, n, began, ended, hb⟩ := reply_eq hreply
    exact horderly.found_reply hsound hs hb hover

/-- Two Opens under way at once on two seats: the first has its seat when the second selects. -/
def staggeredOpens : List CoordInput :=
  [.openSelect sampleOpen, .openClaim 0 (sampleFresh 1), .openSelect sampleOpen,
    .openClaim 1 (sampleFresh 2), .openReply 0, .openReply 1]

theorem concurrent_opens_apart_sample :
    ∃ trace s, coordMachine.Reaches spared (start sampleConfig 1 [1]) trace s ∧
      ((s.opens 0).tenure = some (0, 1) ∧ (s.opens 1).tenure = some (1, 1) ∧
        (s.opens 0).overlaps (s.opens 1) = true) ∧ s.OpensApart := by
  obtain ⟨trace, s, hreach, hfacts⟩ := coordMachine.exists_of_run spared (start sampleConfig 1 [1])
    staggeredOpens (P := fun s _ => (s.opens 0).tenure = some (0, 1) ∧
      (s.opens 1).tenure = some (1, 1) ∧ (s.opens 0).overlaps (s.opens 1) = true)
    (by decide +kernel)
  exact ⟨trace, s, hreach, hfacts, concurrent_opens_apart hreach⟩

/-- Two Opens that select before either claims. -/
def racingOpens : List CoordInput :=
  [.openSelect sampleOpen, .openSelect sampleOpen, .openClaim 0 (sampleFresh 1), .openReply 0,
    .openClaim 1 (sampleFresh 2), .openReply 1]

/-- They select the same seat, both are answered Ok, and the first session is lost: the second
claim is of a seat that is `Open`. -/
theorem concurrent_opens_collide :
    (∃ trace s, coordMachine.Reaches anyStep (start sampleConfig 1 [1]) trace s ∧
      (s.opens 0).overlaps (s.opens 1) = true ∧ (s.opens 0).tenure = some (0, 1) ∧
      (s.opens 1).tenure = some (0, 2) ∧ (s.opens 0).reply.map (·.status) = some .ok ∧
      (s.opens 1).reply.map (·.status) = some .ok ∧
      (s.opens 0).reply.map (fun reply => s.publisher.sessionForId reply.sessionId) =
        some none) ∧
    ∃ trace s, coordMachine.Reaches anyStep (start sampleConfig 1 [1]) trace s ∧
      (s.opens 1).target = some 0 ∧ (s.publisher.sessions 0).state = .open ∧
      (s.step (.openClaim 1 (sampleFresh 2))).isSome := by
  constructor
  · exact coordMachine.exists_of_run anyStep (start sampleConfig 1 [1]) racingOpens
      (P := fun s _ => (s.opens 0).overlaps (s.opens 1) = true ∧
        (s.opens 0).tenure = some (0, 1) ∧ (s.opens 1).tenure = some (0, 2) ∧
        (s.opens 0).reply.map (·.status) = some .ok ∧
        (s.opens 1).reply.map (·.status) = some .ok ∧
        (s.opens 0).reply.map (fun reply => s.publisher.sessionForId reply.sessionId) =
          some none) (by decide +kernel)
  · exact coordMachine.exists_of_run anyStep (start sampleConfig 1 [1]) (racingOpens.take 4)
      (by decide +kernel)

end CoordState

end TangoBulk
