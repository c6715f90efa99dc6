import Mathlib.Data.List.Nodup
import Mathlib.Logic.Function.Basic

/-! Lists threaded through the cells they consist of. -/
namespace Linked

variable {α : Type*} {next next' : α → Option α} {p : Option α} {l : List α} {b : α}

/-- The cells met by following `next` from `p` to its end. -/
def Chain (next : α → Option α) : Option α → List α → Prop
  | p, [] => p = none
  | p, b :: l => p = some b ∧ Chain next (next b) l

lemma Chain.congr (h : Chain next p l) (hsame : ∀ b ∈ l, next' b = next b) : Chain next' p l := by
  induction l generalizing p with
  | nil => exact h
  | cons b l ih =>
    refine ⟨h.1, ?_⟩
    rw [hsame b List.mem_cons_self]
    exact ih h.2 fun c hc => hsame c (List.mem_cons_of_mem b hc)

/-- A write to a cell outside the list. -/
lemma Chain.update [DecidableEq α] (h : Chain next p l) (hb : b ∉ l) (w : Option α) :
    Chain (Function.update next b w) p l :=
  h.congr fun _ hc => Function.update_of_ne (ne_of_mem_of_not_mem hc hb) _ _

lemma Chain.of_some (h : Chain next (some b) l) :
    ∃ rest, l = b :: rest ∧ Chain next (next b) rest := by
  cases l with
  | nil => cases h
  | cons c rest =>
    obtain ⟨hhead, hrest⟩ := h
    cases hhead
    exact ⟨rest, rfl, hrest⟩

end Linked
