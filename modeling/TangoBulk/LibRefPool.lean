import Mathlib.Data.List.Count
import Mathlib.Data.List.Nodup
import Mathlib.Data.List.Perm.Subperm
import Mathlib.Data.List.Range
import Mathlib.Tactic.Common

/-! A pool of numbered resources that pass between a free list, exclusive holders and
reference counting. `Balanced` says that each index is in exactly one of these places and
that the counts are the numbers of outstanding claims; each operation of the pool keeps it. -/

structure RefPool where
  size : ℕ
  free : List ℕ
  held : List ℕ
  refs : ℕ → ℕ

namespace RefPool

open Function

/-- How many places an index is in. -/
def places (p : RefPool) (i : ℕ) : ℕ :=
  p.free.count i + p.held.count i + if 0 < p.refs i then 1 else 0

structure Balanced (p : RefPool) (claims : List ℕ) : Prop where
  placed : ∀ i, p.places i = if i < p.size then 1 else 0
  counted : ∀ i, p.refs i = claims.count i

variable {p : RefPool} {claims held' rest : List ℕ} {i : ℕ}

namespace Balanced

lemma perm {claims' : List ℕ} (h : p.Balanced claims) (hp : claims.Perm claims') :
    p.Balanced claims' :=
  ⟨h.placed, fun j => (h.counted j).trans (hp.count_eq j)⟩

lemma rearrange (h : p.Balanced claims) (hp : p.held.Perm held') :
    Balanced { p with held := held' } claims := by
  refine ⟨fun j => ?_, h.counted⟩
  rw [← h.placed j]
  simp only [places, hp.count_eq j]

lemma places_le_one (h : p.Balanced claims) (j : ℕ) : p.places j ≤ 1 := by
  rw [h.placed j]
  split_ifs <;> omega

/-- A held index is not counted. -/
lemma refs_of_held (h : p.Balanced claims) (hi : i ∈ p.held) : p.refs i = 0 := by
  have hle := h.places_le_one i
  have hpos := List.count_pos_iff.mpr hi
  unfold places at hle
  split_ifs at hle <;> omega

lemma not_mem_claims (h : p.Balanced claims) (hi : p.refs i = 0) : i ∉ claims := by
  rw [h.counted i] at hi
  exact List.count_eq_zero.mp hi

/-- Something outside the free list leaves room in it. -/
lemma room (h : p.Balanced claims) (hi : i ∈ p.held ∨ 0 < p.refs i) : p.free.length < p.size := by
  have hout : p.free.count i = 0 ∧ i < p.size := by
    have hpl := h.placed i
    unfold places at hpl
    rcases hi with hi | hi
    · have hpos := List.count_pos_iff.mpr hi
      split_ifs at hpl <;> omega
    · rw [if_pos hi] at hpl
      split_ifs at hpl
      omega
  have hnodup : (i :: p.free).Nodup := by
    refine List.nodup_cons.mpr ⟨List.count_eq_zero.mp hout.1, ?_⟩
    refine List.nodup_iff_count_le_one.mpr fun j => ?_
    have hle := h.places_le_one j
    unfold places at hle
    omega
  have hsub : i :: p.free ⊆ List.range p.size := by
    intro j hj
    rw [List.mem_range]
    rcases List.mem_cons.mp hj with rfl | hj
    · exact hout.2
    · have hpl := h.placed j
      have hpos := List.count_pos_iff.mpr hj
      unfold places at hpl
      split_ifs at hpl <;> omega
  have hlen := (hnodup.subperm hsub).length_le
  simp only [List.length_cons, List.length_range] at hlen
  omega

/-- The head of the free list becomes held. -/
lemma take (h : p.Balanced claims) (hf : p.free = i :: rest) :
    Balanced { p with free := rest, held := i :: p.held } claims := by
  refine ⟨fun j => ?_, h.counted⟩
  rw [← h.placed j]
  simp only [places, hf, List.count_cons]
  omega

/-- A held index goes back to the free list. -/
lemma giveBack (h : p.Balanced claims) (hp : p.held.Perm (i :: held')) :
    Balanced { p with free := p.free ++ [i], held := held' } claims := by
  refine ⟨fun j => ?_, h.counted⟩
  rw [← h.placed j]
  simp only [places, hp.count_eq j, List.count_append, List.count_cons, List.count_nil]
  omega

/-- A held index becomes counted, with one claim. -/
lemma retain (h : p.Balanced claims) (hp : p.held.Perm (i :: held')) :
    Balanced { p with held := held', refs := update p.refs i 1 } (i :: claims) := by
  have hzero := h.refs_of_held (hp.mem_iff.mpr List.mem_cons_self)
  constructor
  · intro j
    rw [← h.placed j]
    simp only [places, hp.count_eq j, List.count_cons]
    by_cases hj : j = i
    · subst hj
      simp [hzero]
      omega
    · simp [update_of_ne hj, Ne.symm hj]
  · intro j
    by_cases hj : j = i
    · subst hj
      have := h.counted j
      simp
      omega
    · simp [update_of_ne hj, h.counted j, Ne.symm hj]

/-- One more claim on a counted index. -/
lemma share (h : p.Balanced claims) (hi : i ∈ claims) :
    Balanced { p with refs := update p.refs i (p.refs i + 1) } (i :: claims) := by
  have hpos : 0 < p.refs i := by
    rw [h.counted i]
    exact List.count_pos_iff.mpr hi
  constructor
  · intro j
    rw [← h.placed j]
    by_cases hj : j = i
    · subst hj
      simp [places, hpos]
    · simp [places, update_of_ne hj]
  · intro j
    by_cases hj : j = i
    · subst hj
      simp [h.counted j]
    · simp [update_of_ne hj, h.counted j, Ne.symm hj]

lemma refs_pos (h : p.Balanced (i :: claims)) : 0 < p.refs i := by
  rw [h.counted i]
  simp

/-- A claim is dropped and others remain. -/
lemma drop {n : ℕ} (h : p.Balanced (i :: claims)) (hn : p.refs i = n + 1) (hpos : 0 < n) :
    Balanced { p with refs := update p.refs i n } claims := by
  constructor
  · intro j
    rw [← h.placed j]
    by_cases hj : j = i
    · subst hj
      simp [places, hn, hpos]
    · simp [places, update_of_ne hj]
  · intro j
    have hc := h.counted j
    by_cases hj : j = i
    · subst hj
      simp at hc
      simp
      omega
    · simpa [update_of_ne hj, Ne.symm hj] using hc

/-- The last claim is dropped and the index goes back to the free list. -/
lemma dropLast (h : p.Balanced (i :: claims)) (hn : p.refs i = 1) :
    Balanced { p with free := p.free ++ [i], refs := update p.refs i 0 } claims := by
  constructor
  · intro j
    rw [← h.placed j]
    by_cases hj : j = i
    · subst hj
      simp [places, hn]
      omega
    · simp [places, update_of_ne hj, Ne.symm hj]
  · intro j
    have hc := h.counted j
    by_cases hj : j = i
    · subst hj
      simp at hc
      simp
      omega
    · simpa [update_of_ne hj, Ne.symm hj] using hc

end Balanced

/-- A pool that starts with every index free. -/
lemma balanced_range (n : ℕ) : Balanced ⟨n, List.range n, [], fun _ => 0⟩ [] := by
  refine ⟨fun i => ?_, fun i => rfl⟩
  simp [places, List.count_range]

end RefPool
