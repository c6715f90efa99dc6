import TangoBulk.LibFifo

/-! The queue between threads, at the level of completed calls: a first-in first-out queue
whose capacity is the requested one rounded up to a power of two. -/
namespace TangoBulk

/-- The loop `while(p < n) p <<= 1`; `fuel` bounds its turns. -/
def doubleUntil (n : ℕ) : ℕ → ℕ → ℕ
  | 0, p => p
  | fuel + 1, p => if p < n then doubleUntil n fuel (2 * p) else p

def roundUpPow2 (n : ℕ) : ℕ := doubleUntil n n 1

lemma le_doubleUntil {n fuel p : ℕ} (hp : 0 < p) (hf : n ≤ p + fuel) :
    n ≤ doubleUntil n fuel p := by
  induction fuel generalizing p with
  | zero => simpa [doubleUntil] using hf
  | succ fuel ih =>
    rw [doubleUntil]
    split_ifs with h
    · exact ih (by omega) (by omega)
    · omega

lemma le_roundUpPow2 (n : ℕ) : n ≤ roundUpPow2 n := le_doubleUntil (by omega) (by omega)

/-- A queue built for `capacity` items. -/
def boundedQueue {α : Type} (capacity : ℕ) : Fifo α := .empty (roundUpPow2 capacity)

end TangoBulk
