import Mathlib.Algebra.Order.BigOperators.Group.List
import TangoBulk.LibTransition
import TangoBulk.Types

/-! The ledger of pinned memory. One 64-bit total per process is charged through reservations,
which can be extended and moved and give their charge back when they are reset or destroyed. -/
namespace TangoBulk

open Transition

/-- `UINT64_MAX`. -/
def kMaxUInt64 : UInt64 := UInt64.ofNat (2 ^ 64 - 1)

namespace PinnedLedger

/-- The total after `bytes` were admitted, or nothing. -/
def tryReserve (observed bytes processLimit : UInt64) : Option UInt64 :=
  if processLimit < bytes ∨ processLimit - bytes < observed then none else some (observed + bytes)

def release (observed bytes : UInt64) : UInt64 :=
  if bytes = 0 then observed else if observed < bytes then 0 else observed - bytes

/-! ### One reservation -/

/-- The total and the bytes of the reservation. A refused one is empty. -/
def tryAcquire (total bytes processLimit : UInt64) : UInt64 × UInt64 :=
  match tryReserve total bytes processLimit with
  | none => (total, 0)
  | some total => (total, bytes)

/-- The total and the bytes of a reservation of `held` bytes once it is extended. -/
def extend (total held bytes processLimit : UInt64) : Option (UInt64 × UInt64) :=
  if bytes = 0 then some (total, held)
  else if kMaxUInt64 - bytes < held then none
  else (tryReserve total bytes processLimit).map fun total => (total, held + bytes)

/-- The total once a reservation of `held` bytes is reset. -/
def reset (total held : UInt64) : UInt64 := if held ≠ 0 then release total held else total

lemma tryReserve_eq_some {observed bytes limit total : UInt64} :
    tryReserve observed bytes limit = some total ↔
      total.toNat = observed.toNat + bytes.toNat ∧ total ≤ limit := by
  have hlimit := limit.toNat_lt
  unfold tryReserve
  split_ifs with hrefuse
  · simp only [false_iff, not_and, UInt64.not_le]
    intro htotal
    rw [UInt64.lt_iff_toNat_lt, htotal]
    rcases hrefuse with hbytes | hobserved
    · rw [UInt64.lt_iff_toNat_lt] at hbytes
      omega
    · by_cases hbytes : bytes ≤ limit
      · rw [UInt64.lt_iff_toNat_lt, UInt64.toNat_sub_of_le _ _ hbytes] at hobserved
        rw [UInt64.le_iff_toNat_le] at hbytes
        omega
      · rw [UInt64.not_le, UInt64.lt_iff_toNat_lt] at hbytes
        omega
  · simp only [not_or, UInt64.not_lt] at hrefuse
    obtain ⟨hbytes, hobserved⟩ := hrefuse
    rw [UInt64.le_iff_toNat_le, UInt64.toNat_sub_of_le _ _ hbytes] at hobserved
    rw [UInt64.le_iff_toNat_le] at hbytes
    have hsum : (observed + bytes).toNat = observed.toNat + bytes.toNat := by
      rw [UInt64.toNat_add, Nat.mod_eq_of_lt (by omega)]
    rw [Option.some.injEq, ← UInt64.toNat_inj, UInt64.le_iff_toNat_le, hsum]
    omega

lemma toNat_reset {total held : UInt64} (h : held ≤ total) :
    (reset total held).toNat + held.toNat = total.toNat := by
  unfold reset release
  split_ifs with hheld hshort
  · exact absurd h (UInt64.not_le.mpr hshort)
  · rw [UInt64.toNat_sub_of_le _ _ h]
    rw [UInt64.le_iff_toNat_le] at h
    omega
  · simp [not_not.mp hheld]

lemma extend_eq_some {total held bytes limit total' held' : UInt64} (hbytes : bytes ≠ 0)
    (h : extend total held bytes limit = some (total', held')) :
    total'.toNat = total.toNat + bytes.toNat ∧ held'.toNat = held.toNat + bytes.toNat ∧
      total' ≤ limit := by
  unfold extend at h
  rw [if_neg hbytes] at h
  split_ifs at h with hfull
  obtain ⟨sum, hreserve, rfl, rfl⟩ := of_mapped h
  obtain ⟨hsum, hlimit⟩ := tryReserve_eq_some.mp hreserve
  refine ⟨hsum, ?_, hlimit⟩
  have hmax : kMaxUInt64.toNat = 2 ^ 64 - 1 := rfl
  have hle : bytes ≤ kMaxUInt64 := by
    rw [UInt64.le_iff_toNat_le, hmax]
    have := bytes.toNat_lt
    omega
  rw [UInt64.not_lt, UInt64.le_iff_toNat_le, UInt64.toNat_sub_of_le _ _ hle, hmax] at hfull
  rw [UInt64.toNat_add, Nat.mod_eq_of_lt]
  have := bytes.toNat_lt
  omega

end PinnedLedger

/-! ### The process -/

/-- The total, and the bytes of every reservation that was made. One that was destroyed or moved
from is empty. -/
structure PinnedLedger where
  total : UInt64 := 0
  reservations : List UInt64 := []

/-- What is done with reservations; `i` and `j` number them in the order in which they were
made. -/
inductive LedgerCall
  | tryAcquire (bytes processLimit : UInt64)
  | extend (i : ℕ) (bytes processLimit : UInt64)
  -- a new reservation from another
  | move (i : ℕ)
  -- reservation `i` from reservation `j`
  | moveAssign (i j : ℕ)
  -- also what the destructor does
  | reset (i : ℕ)

/-- What a call computes and answers. -/
inductive LedgerEvent
  -- a sum of two words was stored
  | added (a b : UInt64)
  -- the counter stood at `observed` when `bytes` were released
  | released (observed bytes : UInt64)
  -- an attempt or an extension succeeded and left this total
  | acquired (processLimit total : UInt64)
  | extended (bytes processLimit total : UInt64)
  | refused
  deriving DecidableEq

namespace PinnedLedger

/-- The sum of the bytes of some reservations. -/
def charges (reservations : List UInt64) : ℕ := (reservations.map UInt64.toNat).sum

/-- Reservation `i` is reset. -/
def resetAt (s : PinnedLedger) (i : ℕ) (bytes : UInt64) : PinnedLedger where
  total := reset s.total bytes
  reservations := s.reservations.set i 0

def resetEvents (s : PinnedLedger) (bytes : UInt64) : List LedgerEvent :=
  if bytes ≠ 0 then [.released s.total bytes] else []

def step (s : PinnedLedger) : LedgerCall → Option (PinnedLedger × List LedgerEvent)
  | .tryAcquire bytes limit =>
    match tryReserve s.total bytes limit with
    | none => some ({ s with reservations := s.reservations ++ [0] }, [.refused])
    | some total => some ({ total, reservations := s.reservations ++ [bytes] },
        [.added s.total bytes, .acquired limit total])
  | .extend i bytes limit => do
    let held ← s.reservations[i]?
    match extend s.total held bytes limit with
    | none => some (s, [.refused])
    | some (total, held') => some ({ total, reservations := s.reservations.set i held' },
        (if bytes ≠ 0 then [.added s.total bytes, .added held bytes] else []) ++
          [.extended bytes limit total])
  | .move i => do
    let held ← s.reservations[i]?
    some ({ s with reservations := s.reservations.set i 0 ++ [held] }, [])
  | .moveAssign i j => do
    let held ← s.reservations[i]?
    let moved ← s.reservations[j]?
    if i = j then some (s, [])
    else
      let freed := s.resetAt i held
      some ({ freed with reservations := (freed.reservations.set i moved).set j 0 },
        s.resetEvents held)
  | .reset i => do
    let held ← s.reservations[i]?
    some (s.resetAt i held, s.resetEvents held)

end PinnedLedger

def ledgerMachine : Machine PinnedLedger LedgerCall LedgerEvent := ⟨PinnedLedger.step⟩

/-! ### Accounting -/

/-- No sum wraps, the saturating branch of `release` is not taken, and what succeeds leaves the
total within the limit it named. An extension by nothing does not look at the limit. -/
def LedgerEvent.Exact : LedgerEvent → Prop
  | .added a b => a.toNat + b.toNat < 2 ^ 64
  | .released observed bytes => bytes ≤ observed
  | .acquired limit total => total ≤ limit
  | .extended bytes limit total => bytes ≠ 0 → total ≤ limit
  | .refused => True

namespace PinnedLedger

lemma charges_append (l m : List UInt64) : charges (l ++ m) = charges l + charges m := by
  simp [charges]

lemma charges_singleton (a : UInt64) : charges [a] = a.toNat := by simp [charges]

variable {i : ℕ} {held : UInt64} {events : List LedgerEvent}

lemma charges_set {l : List UInt64} {a : UInt64} (h : l[i]? = some a) (b : UInt64) :
    charges (l.set i b) + a.toNat = charges l + b.toNat := by
  induction l generalizing i with
  | nil => cases h
  | cons c l ih =>
    cases i with
    | zero =>
      obtain rfl : c = a := by simpa using h
      simp only [charges, List.set_cons_zero, List.map_cons, List.sum_cons]
      omega
    | succ =>
      have hrest := ih (by simpa using h)
      simp only [charges, List.set_cons_succ, List.map_cons, List.sum_cons] at hrest ⊢
      omega

lemma le_charges {l : List UInt64} {a : UInt64} (h : l[i]? = some a) : a.toNat ≤ charges l :=
  List.single_le_sum (by simp) _ (List.mem_map_of_mem (List.mem_of_getElem? h))

/-- The total is what the live reservations hold. -/
def Exact (s : PinnedLedger) : Prop := s.total.toNat = charges s.reservations

variable {s s' : PinnedLedger}

lemma Exact.le_total (h : s.Exact) (hi : s.reservations[i]? = some held) : held ≤ s.total := by
  rw [UInt64.le_iff_toNat_le, h]
  exact le_charges hi

lemma Exact.resetAt (h : s.Exact) (hi : s.reservations[i]? = some held) :
    (s.resetAt i held).Exact := by
  have hreset := toNat_reset (h.le_total hi)
  have hset := charges_set hi 0
  simp only [Exact, PinnedLedger.resetAt] at h ⊢
  simp only [UInt64.toNat_zero] at hset
  omega

lemma Exact.resetEvents (h : s.Exact) (hi : s.reservations[i]? = some held) :
    ∀ e ∈ s.resetEvents held, e.Exact := by
  intro e he
  unfold PinnedLedger.resetEvents at he
  split_ifs at he with hheld
  · obtain rfl := List.mem_singleton.mp he
    exact h.le_total hi
  · cases he

/-- A refused call leaves the total and every reservation as they were. -/
def Unchanged (s s' : PinnedLedger) : Prop :=
  s'.total = s.total ∧ (s'.reservations = s.reservations ∨ s'.reservations = s.reservations ++ [0])

lemma Exact.tryAcquire (h : s.Exact) {bytes limit : UInt64}
    (hstep : s.step (.tryAcquire bytes limit) = some (s', events)) :
    s'.Exact ∧ (∀ e ∈ events, e.Exact) ∧ (.refused ∈ events → s.Unchanged s') := by
  simp only [step] at hstep
  split at hstep
  case h_1 =>
    cases hstep
    refine ⟨?_, by simp [LedgerEvent.Exact], fun _ => ⟨rfl, .inr rfl⟩⟩
    simpa [Exact, charges_append, charges_singleton] using h
  case h_2 total hreserve =>
    obtain ⟨hsum, hlimit⟩ := tryReserve_eq_some.mp hreserve
    have hword := total.toNat_lt
    cases hstep
    refine ⟨?_, ?_, by simp⟩
    · simp only [Exact] at h ⊢
      rw [charges_append, charges_singleton, ← h, hsum]
    · simp only [List.forall_mem_cons, LedgerEvent.Exact]
      exact ⟨by omega, hlimit, by simp⟩

lemma Exact.extend (h : s.Exact) {bytes limit : UInt64}
    (hstep : s.step (.extend i bytes limit) = some (s', events)) :
    s'.Exact ∧ (∀ e ∈ events, e.Exact) ∧ (.refused ∈ events → s.Unchanged s') := by
  obtain ⟨held, hi, hstep⟩ := Option.bind_eq_some_iff.mp hstep
  split at hstep
  case h_1 =>
    cases hstep
    exact ⟨h, by simp [LedgerEvent.Exact], fun _ => ⟨rfl, .inl rfl⟩⟩
  case h_2 total held' hextend =>
    cases hstep
    have hset := charges_set hi held'
    by_cases hbytes : bytes = 0
    · -- nothing is added and the limit is not looked at
      obtain ⟨rfl, rfl⟩ : s.total = total ∧ held = held' := by
        simpa [PinnedLedger.extend, hbytes] using hextend
      refine ⟨?_, by simp [hbytes, LedgerEvent.Exact], by simp [hbytes]⟩
      simp only [Exact] at h ⊢
      omega
    · obtain ⟨hsum, hheld, hlimit⟩ := extend_eq_some hbytes hextend
      have hword := total.toNat_lt
      have hword' := held'.toNat_lt
      refine ⟨?_, ?_, by simp [hbytes]⟩
      · simp only [Exact] at h ⊢
        omega
      · simp only [ne_eq, hbytes, not_false_eq_true, if_true, List.cons_append, List.nil_append,
          List.forall_mem_cons, LedgerEvent.Exact, true_imp_iff]
        exact ⟨by omega, by omega, hlimit, by simp⟩

lemma Exact.move (h : s.Exact) (hstep : s.step (.move i) = some (s', events)) :
    s'.Exact ∧ events = [] := by
  obtain ⟨held, hi, hstep⟩ := Option.bind_eq_some_iff.mp hstep
  cases hstep
  have hset := charges_set hi 0
  refine ⟨?_, rfl⟩
  simp only [Exact, charges_append, charges_singleton, UInt64.toNat_zero] at h hset ⊢
  omega

lemma Exact.moveAssign (h : s.Exact) {j : ℕ}
    (hstep : s.step (.moveAssign i j) = some (s', events)) :
    s'.Exact ∧ ∃ held, s.reservations[i]? = some held ∧
      (events = [] ∨ events = s.resetEvents held) := by
  obtain ⟨held, hi, hstep⟩ := Option.bind_eq_some_iff.mp hstep
  obtain ⟨moved, hj, hstep⟩ := Option.bind_eq_some_iff.mp hstep
  split_ifs at hstep with hself
  · cases hstep
    exact ⟨h, held, hi, .inl rfl⟩
  · cases hstep
    refine ⟨?_, held, hi, .inr rfl⟩
    have hfreed := h.resetAt hi
    have hlt : i < s.reservations.length := (List.getElem?_eq_some_iff.mp hi).1
    have hempty : (s.resetAt i held).reservations[i]? = some 0 := by
      simp [PinnedLedger.resetAt, hlt]
    have hj' : ((s.resetAt i held).reservations.set i moved)[j]? = some moved := by
      simp [PinnedLedger.resetAt, List.getElem?_set_ne hself, hj]
    have htaken := charges_set hempty moved
    have hleft := charges_set hj' 0
    simp only [Exact, UInt64.toNat_zero] at hfreed htaken hleft ⊢
    omega

lemma Exact.reset (h : s.Exact) (hstep : s.step (.reset i) = some (s', events)) :
    s'.Exact ∧ ∃ held, s.reservations[i]? = some held ∧ events = s.resetEvents held := by
  obtain ⟨held, hi, hstep⟩ := Option.bind_eq_some_iff.mp hstep
  cases hstep
  exact ⟨h.resetAt hi, held, hi, rfl⟩

lemma refused_not_mem_resetEvents (s : PinnedLedger) (held : UInt64) :
    .refused ∉ s.resetEvents held := by
  unfold PinnedLedger.resetEvents
  split_ifs <;> simp

lemma Exact.step (h : s.Exact) {call : LedgerCall} (hstep : s.step call = some (s', events)) :
    s'.Exact ∧ (∀ e ∈ events, e.Exact) ∧ (.refused ∈ events → s.Unchanged s') := by
  cases call with
  | tryAcquire bytes limit => exact h.tryAcquire hstep
  | extend i bytes limit => exact h.extend hstep
  | move =>
    obtain ⟨hexact, rfl⟩ := h.move hstep
    exact ⟨hexact, by simp, by simp⟩
  | moveAssign =>
    obtain ⟨hexact, held, hi, rfl | rfl⟩ := h.moveAssign hstep
    · exact ⟨hexact, by simp, by simp⟩
    · exact ⟨hexact, h.resetEvents hi, fun hmem => absurd hmem (refused_not_mem_resetEvents _ _)⟩
  | reset =>
    obtain ⟨hexact, held, hi, rfl⟩ := h.reset hstep
    exact ⟨hexact, h.resetEvents hi, fun hmem => absurd hmem (refused_not_mem_resetEvents _ _)⟩

lemma Exact.reaches {trace : List LedgerEvent}
    (hreach : ledgerMachine.Reaches anyStep {} trace s) : s.Exact ∧ ∀ e ∈ trace, e.Exact := by
  have hstart : Exact {} := rfl
  constructor
  · refine hreach.invariant Exact hstart ?_
    intro s call s' events hexact _ hstep
    exact (hexact.step hstep).1
  · refine hreach.events Exact LedgerEvent.Exact hstart ?_
    intro s call s' events hexact _ hstep
    obtain ⟨hnext, hevents, -⟩ := hexact.step hstep
    exact ⟨hnext, hevents⟩

end PinnedLedger

end TangoBulk
