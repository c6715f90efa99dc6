import TangoBulk.LibLinked
import TangoBulk.LibTransition
import Mathlib.Data.List.Range

/-! The pool of lease blocks. Its free list is threaded through the free blocks; one thread takes
blocks from the head, any thread puts one back, and every load, write and compare-and-swap is a step
of its own. -/
namespace TangoBulk

open Linked Transition Function

/-- What `allocate` does next: load the head, read the word of the block it saw, or swap the head
for that word. -/
inductive TakeStage
  | idle
  | load
  | read (head : ℕ)
  | swap (head : ℕ) (next : Option ℕ)
  deriving DecidableEq

/-- What `deallocate` does next: load the head, write it into the block, or swap it for the block. -/
inductive GiveStage
  | idle
  | load (p : ℕ)
  | write (p : ℕ) (head : Option ℕ)
  | swap (p : ℕ) (head : Option ℕ)
  deriving DecidableEq

/-- The block at the head that the call has seen. -/
def TakeStage.seen : TakeStage → Option ℕ
  | .read head | .swap head _ => some head
  | _ => none

/-- The block that the call gives back. -/
def GiveStage.held : GiveStage → Option ℕ
  | .load p | .write p _ | .swap p _ => some p
  | .idle => none

def kBlockBytes : ℕ := 128

/-- Blocks are numbered, and `word` is the first word of each; `live` are those that were handed out
and not given back. -/
structure LeasePool where
  blockCount : ℕ
  freeHead : Option ℕ
  word : ℕ → Option ℕ
  overflows : ℕ := 0
  live : ℕ → Bool := fun _ => false
  popper : TakeStage := .idle
  pushers : ℕ → GiveStage := fun _ => .idle

/-- A call, the next step of one, or a write by the owner of a live block. -/
inductive PoolInput
  | allocate (bytes : ℕ)
  | pop (spurious : Bool)
  | deallocate (t : ℕ) (p : Option ℕ)
  | push (t : ℕ) (spurious : Bool)
  | use (p : ℕ) (word : Option ℕ)

/-- What `allocate` returns. -/
inductive PoolEvent
  | allocated (p : Option ℕ)
  deriving DecidableEq

namespace LeasePool

/-- The loop of the constructor: the words, and the head of what is threaded so far. -/
def threadBlocks (n : ℕ) : (ℕ → Option ℕ) × Option ℕ :=
  (List.range n).foldl (fun r i => (Function.update r.1 i r.2, some i)) (fun _ => none, none)

def create (n : ℕ) : LeasePool where
  blockCount := n
  freeHead := (threadBlocks n).2
  word := (threadBlocks n).1

def setPusher (s : LeasePool) (t : ℕ) (stage : GiveStage) : LeasePool :=
  { s with pushers := Function.update s.pushers t stage }

/-- `allocate` gives up. -/
def overflow (s : LeasePool) : LeasePool × List PoolEvent :=
  ({ s with overflows := s.overflows + 1, popper := .idle }, [.allocated none])

/-- The head of the loop in `allocate`, with the head of the list just loaded. -/
def look (s : LeasePool) : LeasePool × List PoolEvent :=
  match s.freeHead with
  | none => s.overflow
  | some head => ({ s with popper := .read head }, [])

def popStep (s : LeasePool) (spurious : Bool) : Option (LeasePool × List PoolEvent) :=
  match s.popper with
  | .idle => none
  | .load => some s.look
  | .read head => some ({ s with popper := .swap head (s.word head) }, [])
  | .swap head next =>
    if s.freeHead = some head ∧ !spurious then
      some ({ s with
        freeHead := next
        live := Function.update s.live head true
        popper := .idle }, [.allocated (some head)])
    else some s.look

def pushStep (s : LeasePool) (t : ℕ) (spurious : Bool) : Option (LeasePool × List PoolEvent) :=
  match s.pushers t with
  | .idle => none
  | .load p => some (s.setPusher t (.write p s.freeHead), [])
  | .write p head =>
    some ({ s with word := Function.update s.word p head }.setPusher t (.swap p head), [])
  | .swap p head =>
    if s.freeHead = head ∧ !spurious then
      some ({ s with freeHead := some p }.setPusher t .idle, [])
    else some (s.setPusher t (.write p s.freeHead), [])

/-- One thread allocates; a block is given back once for each time it was handed out. -/
def step (s : LeasePool) : PoolInput → Option (LeasePool × List PoolEvent)
  | .allocate bytes =>
    if s.popper ≠ .idle then none
    else if kBlockBytes < bytes then some s.overflow
    else some ({ s with popper := .load }, [])
  | .pop spurious => s.popStep spurious
  | .deallocate t none => if s.pushers t = .idle then some (s, []) else none
  | .deallocate t (some p) =>
    if s.pushers t = .idle ∧ s.live p then
      some ({ s with live := Function.update s.live p false }.setPusher t (.load p), [])
    else none
  | .push t spurious => s.pushStep t spurious
  | .use p word =>
    if s.live p then some ({ s with word := Function.update s.word p word }, []) else none

/-- The list that is threaded from the head has every block but the live ones and those on their way
back, each once. What `allocate` saw at the head is still in it, and the words of its blocks do not
change, so a word that was read is still the block's word when the head is swapped for it. -/
structure Sound (s : LeasePool) (free : List ℕ) : Prop where
  chain : Chain s.word s.freeHead free
  nodup : free.Nodup
  free_iff : ∀ b, b ∈ free ↔ b < s.blockCount ∧ s.live b = false ∧
    ∀ t, (s.pushers t).held ≠ some b
  live : ∀ b, s.live b = true → b < s.blockCount
  held : ∀ t b, (s.pushers t).held = some b → b < s.blockCount ∧ s.live b = false
  apart : ∀ t u b, (s.pushers t).held = some b → (s.pushers u).held = some b → t = u
  written : ∀ t p head, s.pushers t = .swap p head → s.word p = head
  seen : ∀ head, s.popper.seen = some head → head ∈ free
  read : ∀ head next, s.popper = .swap head next → s.word head = next

variable {s s' : LeasePool} {free : List ℕ} {t p : ℕ} {es : List PoolEvent}

lemma create_sound (n : ℕ) : (create n).Sound (List.range n).reverse := by
  have hchain : Chain (threadBlocks n).1 (threadBlocks n).2 (List.range n).reverse := by
    induction n with
    | zero => rfl
    | succ n ih =>
      have hstep : threadBlocks (n + 1) =
          (update (threadBlocks n).1 n (threadBlocks n).2, some n) := by
        simp [threadBlocks, List.range_succ]
      rw [hstep, List.range_succ, List.reverse_append]
      refine ⟨rfl, ?_⟩
      change Chain _ (update (threadBlocks n).1 n (threadBlocks n).2 n) _
      rw [update_self]
      exact ih.update (by simp) _
  constructor
  case chain => exact hchain
  case nodup => exact List.nodup_reverse.mpr List.nodup_range
  case free_iff =>
    intro b
    simp [create, GiveStage.held]
  case live | held | apart =>
    simp [create, GiveStage.held]
  case written | seen | read =>
    simp [create, TakeStage.seen]

lemma Sound.setPopper (h : s.Sound free) {stage : TakeStage} (overflows : ℕ)
    (hseen : ∀ head, stage.seen = some head → head ∈ free)
    (hread : ∀ head next, stage = .swap head next → s.word head = next) :
    Sound { s with overflows := overflows, popper := stage } free :=
  ⟨h.chain, h.nodup, h.free_iff, h.live, h.held, h.apart, h.written, hseen, hread⟩

lemma Sound.look (h : s.Sound free) : s.look.1.Sound free := by
  unfold LeasePool.look
  split
  case h_1 => exact h.setPopper _ nofun nofun
  case h_2 head hhead =>
    refine h.setPopper _ (fun b hs => ?_) nofun
    cases hs
    have hchain := h.chain
    rw [hhead] at hchain
    obtain ⟨rest, rfl, -⟩ := hchain.of_some
    exact List.mem_cons_self

lemma Sound.setWord (h : s.Sound free) (hp : p ∉ free) {w : Option ℕ}
    (hw : ∀ t head, s.pushers t ≠ .swap p head) :
    Sound { s with word := update s.word p w } free := by
  have hother : ∀ b, b ≠ p → update s.word p w b = s.word b := fun b hb =>
    update_of_ne hb _ _
  refine ⟨h.chain.update hp w, h.nodup, h.free_iff, h.live, h.held, h.apart,
    fun t b head hs => ?_, h.seen, fun head next hs => ?_⟩
  · have hb : b ≠ p := by
      rintro rfl
      exact hw t head hs
    exact (hother b hb).trans (h.written t b head hs)
  · have hb : head ≠ p := ne_of_mem_of_not_mem (h.seen head (by rw [hs]; rfl)) hp
    exact (hother head hb).trans (h.read head next hs)

lemma held_setPusher (s : LeasePool) (t : ℕ) (stage : GiveStage) (u : ℕ) :
    ((s.setPusher t stage).pushers u).held = if u = t then stage.held else (s.pushers u).held := by
  rw [setPusher]
  dsimp only
  rw [update_apply]
  split_ifs <;> rfl

lemma written_setPusher {stage : GiveStage}
    (hold : ∀ u p head, s.pushers u = .swap p head → s.word p = head)
    (hw : ∀ p head, stage = .swap p head → s.word p = head) (u p : ℕ) (head : Option ℕ)
    (hs : (s.setPusher t stage).pushers u = .swap p head) : s.word p = head := by
  simp only [setPusher, update_apply] at hs
  split_ifs at hs
  · exact hw p head hs
  · exact hold u p head hs

lemma Sound.setPusher (h : s.Sound free) {stage : GiveStage}
    (hheld : stage.held = (s.pushers t).held)
    (hw : ∀ p head, stage = .swap p head → s.word p = head) : (s.setPusher t stage).Sound free := by
  have hsame : ∀ u, ((s.setPusher t stage).pushers u).held = (s.pushers u).held := by
    intro u
    rw [held_setPusher]
    split_ifs with hu
    · rw [hheld, hu]
    · rfl
  refine ⟨h.chain, h.nodup, fun b => ?_, h.live, fun u b => ?_, fun u v b => ?_,
    written_setPusher h.written hw, h.seen, h.read⟩
  · simp only [hsame]
    exact h.free_iff b
  · rw [hsame]
    exact h.held u b
  · rw [hsame, hsame]
    exact h.apart u v b

/-- The head is swapped for the word that was read from it. -/
lemma Sound.pop (h : s.Sound free) {head : ℕ} {next : Option ℕ}
    (hstage : s.popper = .swap head next) (hhead : s.freeHead = some head) :
    s.live head = false ∧ head < s.blockCount ∧
    ∃ free', Sound { s with
      freeHead := next
      live := update s.live head true
      popper := .idle } free' := by
  have hchain := h.chain
  rw [hhead] at hchain
  obtain ⟨rest, rfl, hrest⟩ := hchain.of_some
  rw [h.read head next hstage] at hrest
  obtain ⟨hlt, hdead, hunheld⟩ := (h.free_iff head).mp List.mem_cons_self
  obtain ⟨hnew, hnodup⟩ := List.nodup_cons.mp h.nodup
  refine ⟨hdead, hlt, rest, hrest, hnodup, fun b => ?_, fun b hb => ?_, fun u b hu => ?_, h.apart,
    h.written, ?_, ?_⟩
  · by_cases hb : b = head
    · subst hb
      simp [hnew]
    · have hiff := h.free_iff b
      rw [List.mem_cons, or_iff_right hb] at hiff
      simp only [update_of_ne hb]
      exact hiff
  · by_cases hb' : b = head
    · rw [hb']
      exact hlt
    · exact h.live b (by simpa [hb'] using hb)
  · have hb : b ≠ head := by
      rintro rfl
      exact hunheld u hu
    simp only [update_of_ne hb]
    exact h.held u b hu
  · intro _ hs
    cases hs
  · intro _ _ hs
    cases hs

/-- A live block is given back to a call. -/
lemma Sound.deallocate (h : s.Sound free) (hidle : s.pushers t = .idle) (hlive : s.live p = true) :
    ({ s with live := update s.live p false }.setPusher t (.load p)).Sound free := by
  have hunheld : ∀ u, (s.pushers u).held ≠ some p := by
    intro u hu
    rw [(h.held u p hu).2] at hlive
    cases hlive
  have hnot : p ∉ free := by
    intro hmem
    rw [((h.free_iff p).mp hmem).2.1] at hlive
    cases hlive
  have hheld : ∀ u b, (({ s with live := update s.live p false }.setPusher t
      (.load p)).pushers u).held = some b ↔ (u = t ∧ b = p) ∨ (s.pushers u).held = some b := by
    intro u b
    rw [held_setPusher]
    by_cases hu : u = t
    · subst hu
      simp [hidle, GiveStage.held, eq_comm]
    · simp [hu]
  have hdead : ∀ b, b ≠ p → update s.live p false b = s.live b := fun b hb =>
    update_of_ne hb _ _
  refine ⟨h.chain, h.nodup, fun b => ?_, fun b hb => ?_, fun u b hu => ?_, fun u v b hu hv => ?_,
    written_setPusher h.written nofun, h.seen, h.read⟩
  · simp only [ne_eq, hheld]
    by_cases hb : b = p
    · subst hb
      refine iff_of_false hnot ?_
      rintro ⟨-, -, hall⟩
      exact hall t (.inl ⟨rfl, rfl⟩)
    · simp only [hb, and_false, false_or]
      rw [h.free_iff, ← hdead b hb]
      rfl
  · have hb' : b ≠ p := by
      rintro rfl
      exact absurd (hb.symm.trans (update_self ..)) (by decide)
    exact h.live b ((hdead b hb').symm.trans hb)
  · rcases (hheld u b).mp hu with ⟨-, rfl⟩ | hold
    · exact ⟨h.live b hlive, update_self ..⟩
    · have hb : b ≠ p := by
        rintro rfl
        exact hunheld u hold
      exact ⟨(h.held u b hold).1, (hdead b hb).trans (h.held u b hold).2⟩
  · rcases (hheld u b).mp hu with ⟨rfl, rfl⟩ | hold
    · rcases (hheld v b).mp hv with ⟨rfl, -⟩ | hold'
      · rfl
      · exact absurd hold' (hunheld v)
    · rcases (hheld v b).mp hv with ⟨rfl, rfl⟩ | hold'
      · exact absurd hold (hunheld u)
      · exact h.apart u v b hold hold'

lemma Sound.push (h : s.Sound free) {head : Option ℕ} (hstage : s.pushers t = .swap p head)
    (hhead : s.freeHead = head) :
    ({ s with freeHead := some p }.setPusher t .idle).Sound (p :: free) := by
  have hp : (s.pushers t).held = some p := by rw [hstage]; rfl
  obtain ⟨hlt, hdead⟩ := h.held t p hp
  have hnot : p ∉ free := fun hmem => ((h.free_iff p).mp hmem).2.2 t hp
  have hheld : ∀ u b, (({ s with freeHead := some p }.setPusher t .idle).pushers u).held = some b ↔
      u ≠ t ∧ (s.pushers u).held = some b := by
    intro u b
    rw [held_setPusher]
    by_cases hu : u = t
    · simp [hu, GiveStage.held]
    · simp [hu]
  refine ⟨⟨rfl, ?_⟩, List.nodup_cons.mpr ⟨hnot, h.nodup⟩, fun b => ?_, h.live, fun u b hu => ?_,
    fun u v b hu hv => ?_, written_setPusher h.written nofun,
    fun b hb => List.mem_cons_of_mem _ (h.seen b hb), h.read⟩
  · change Chain s.word (s.word p) free
    rw [h.written t p head hstage, ← hhead]
    exact h.chain
  · simp only [ne_eq, hheld, List.mem_cons]
    by_cases hb : b = p
    · subst hb
      refine iff_of_true (.inl rfl) ⟨hlt, hdead, ?_⟩
      rintro u ⟨hut, hu⟩
      exact hut (h.apart u t b hu hp)
    · rw [or_iff_right hb, h.free_iff]
      refine and_congr_right fun _ => and_congr_right fun _ => forall_congr' fun u => ?_
      refine not_congr (iff_and_self.mpr ?_)
      rintro hu rfl
      exact hb (Option.some.inj (hu.symm.trans hp))
  · exact h.held u b ((hheld u b).mp hu).2
  · exact h.apart u v b ((hheld u b).mp hu).2 ((hheld v b).mp hv).2

/-- A step keeps some free list, and what it hands out was neither live nor on its way back. -/
lemma Sound.step (h : s.Sound free) {i : PoolInput} (hs : s.step i = some (s', es)) :
    (∃ free', s'.Sound free') ∧ s'.blockCount = s.blockCount ∧
      ∀ b, .allocated (some b) ∈ es → b < s.blockCount ∧ s.live b = false := by
  have hlook : s.look.1.blockCount = s.blockCount ∧ ∀ b, .allocated (some b) ∉ s.look.2 := by
    unfold LeasePool.look
    split <;> simp [overflow]
  cases i with
  | allocate =>
    simp only [LeasePool.step] at hs
    split_ifs at hs
    · obtain ⟨rfl, rfl⟩ := of_some_eq hs
      exact ⟨⟨free, h.setPopper _ nofun nofun⟩, rfl,
        by simp [overflow]⟩
    · cases hs
      exact ⟨⟨free, h.setPopper _ nofun nofun⟩, rfl,
        by simp⟩
  | pop =>
    simp only [LeasePool.step, popStep] at hs
    split at hs
    case h_1 => cases hs
    case h_2 =>
      obtain ⟨rfl, rfl⟩ := of_some_eq hs
      exact ⟨⟨free, h.look⟩, hlook.1, fun b hb => absurd hb (hlook.2 b)⟩
    case h_3 head hstage =>
      cases hs
      refine ⟨⟨free, h.setPopper _ (fun b hb => ?_) (fun b next hb => ?_)⟩, rfl, by simp⟩
      · cases hb
        exact h.seen head (by rw [hstage]; rfl)
      · cases hb
        rfl
    case h_4 head next hstage =>
      split_ifs at hs with hswap
      · cases hs
        obtain ⟨hdead, hlt, hsound⟩ := h.pop hstage hswap.1
        refine ⟨hsound, rfl, fun b hb => ?_⟩
        obtain rfl : b = head := by simpa using hb
        exact ⟨hlt, hdead⟩
      · obtain ⟨rfl, rfl⟩ := of_some_eq hs
        exact ⟨⟨free, h.look⟩, hlook.1, fun b hb => absurd hb (hlook.2 b)⟩
  | deallocate t p =>
    cases p with
    | none =>
      obtain ⟨-, rfl, rfl⟩ := of_guard hs
      exact ⟨⟨free, h⟩, rfl, by simp⟩
    | some =>
      obtain ⟨⟨hidle, hlive⟩, rfl, rfl⟩ := of_guard hs
      exact ⟨⟨free, h.deallocate hidle hlive⟩, rfl, by simp⟩
  | push t =>
    simp only [LeasePool.step, pushStep] at hs
    split at hs
    case h_1 => cases hs
    case h_2 p hstage =>
      cases hs
      exact ⟨⟨free, h.setPusher (by rw [hstage]; rfl) nofun⟩, rfl, by simp⟩
    case h_3 p head hstage =>
      cases hs
      have hp : (s.pushers t).held = some p := by rw [hstage]; rfl
      have hwritten := h.setWord (p := p) (w := head)
        (fun hmem => ((h.free_iff p).mp hmem).2.2 t hp) (by
          -- another call with this block would be this one, which has not written yet
          intro u head' hu
          obtain rfl := h.apart u t p (by rw [hu]; rfl) hp
          rw [hstage] at hu
          cases hu)
      refine ⟨⟨free, hwritten.setPusher hp.symm (fun b next hb => ?_)⟩, rfl, by simp⟩
      cases hb
      exact update_self ..
    case h_4 p head hstage =>
      split_ifs at hs with hswap
      · cases hs
        exact ⟨⟨p :: free, h.push hstage hswap.1⟩, rfl, by simp⟩
      · cases hs
        exact ⟨⟨free, h.setPusher (by rw [hstage]; rfl) nofun⟩, rfl, by simp⟩
  | use p =>
    obtain ⟨hlive, rfl, rfl⟩ := of_guard hs
    refine ⟨⟨free, h.setWord (fun hmem => ?_) (fun t head hstage => ?_)⟩, rfl, by simp⟩
    · rw [((h.free_iff p).mp hmem).2.1] at hlive
      cases hlive
    · rw [(h.held t p (by rw [hstage]; rfl)).2] at hlive
      cases hlive

end LeasePool

def poolMachine : Machine LeasePool PoolInput PoolEvent := ⟨LeasePool.step⟩

/-- With one thread that allocates, whatever the others do in between, the free list ends, has each
block once and has exactly those that are neither live nor being given back, and a block that is
handed out was not live. -/
theorem lease_pool_free_list {n : ℕ} {trace : List PoolEvent} {s : LeasePool}
    (hreach : poolMachine.Reaches anyStep (.create n) trace s) :
    (∃ free, Linked.Chain s.word s.freeHead free ∧ free.Nodup ∧
      ∀ b, b ∈ free ↔ b < n ∧ s.live b = false ∧ ∀ t, (s.pushers t).held ≠ some b) ∧
    ∀ i s' es b, poolMachine.step s i = some (s', es) → .allocated (some b) ∈ es →
      b < n ∧ s.live b = false := by
  have hinv : (∃ free, s.Sound free) ∧ s.blockCount = n := by
    refine hreach.invariant (fun s => (∃ free, s.Sound free) ∧ s.blockCount = n)
      ⟨⟨_, LeasePool.create_sound n⟩, rfl⟩ ?_
    rintro s i s' es ⟨⟨free, h⟩, hcount⟩ - hs
    obtain ⟨hsound, hsame, -⟩ := h.step hs
    exact ⟨hsound, hsame.trans hcount⟩
  obtain ⟨⟨free, h⟩, rfl⟩ := hinv
  exact ⟨⟨free, h.chain, h.nodup, h.free_iff⟩, fun i s' es b hs => (h.step hs).2.2 b⟩

/-- While `allocate` has the word of the last free block, the other block comes back in front of it;
the swap fails, and the block that came back is handed out again. -/
theorem lease_pool_free_list_returned : ∃ trace s,
    (poolMachine.Reaches anyStep (.create 2) trace s ∧
      trace = [.allocated (some 1), .allocated (some 1)]) ∧
    ∃ free, Linked.Chain s.word s.freeHead free ∧ free.Nodup ∧
      ∀ b, b ∈ free ↔ b < 2 ∧ s.live b = false ∧ ∀ t, (s.pushers t).held ≠ some b := by
  obtain ⟨trace, s, hreach, htrace⟩ := poolMachine.exists_of_run anyStep (.create 2)
    [.allocate 64, .pop false, .pop false, .pop false, .use 1 (some 1), .allocate 64, .pop false,
      .pop false, .deallocate 0 (some 1), .push 0 false, .push 0 false, .push 0 true, .push 0 false,
      .push 0 false, .pop false, .pop false, .pop false]
    (P := fun _ trace => trace = [.allocated (some 1), .allocated (some 1)]) (by decide +kernel)
  exact ⟨trace, s, ⟨hreach, htrace⟩, (lease_pool_free_list hreach).1⟩

/-- Each refusal is counted, and found the list empty unless no block is that large. -/
lemma LeasePool.step_refusals {s s' : LeasePool} {i : PoolInput} {es : List PoolEvent}
    (hs : s.step i = some (s', es)) :
    s'.overflows = s.overflows + es.count (.allocated none) ∧
    (.allocated none ∈ es → (∃ bytes, i = .allocate bytes ∧ kBlockBytes < bytes) ∨
      s.freeHead = none) := by
  have hlook : s.look = (s', es) → s'.overflows = s.overflows + es.count (.allocated none) ∧
      (.allocated none ∈ es → s.freeHead = none) := by grind [look, overflow]
  rcases i with bytes | spurious | ⟨t, _ | p⟩ | ⟨t, spurious⟩ | ⟨p, word⟩
  all_goals grind [LeasePool.step, popStep, pushStep, overflow, setPusher]

/-- The pool falls back on the heap only when it has to: the refusals are counted, and an `allocate`
that fits a block is refused only while every block is live or on its way back. -/
theorem allocate_refused_exhausted {n : ℕ} {trace : List PoolEvent} {s : LeasePool}
    (hreach : poolMachine.Reaches anyStep (.create n) trace s) :
    s.overflows = trace.count (.allocated none) ∧
    ∀ i s' es, poolMachine.step s i = some (s', es) → .allocated none ∈ es →
      (∃ bytes, i = .allocate bytes ∧ kBlockBytes < bytes) ∨
      ∀ b < n, s.live b = true ∨ ∃ t, (s.pushers t).held = some b := by
  have hinv : ((∃ free, s.Sound free) ∧ s.blockCount = n) ∧
      s.overflows = trace.count (.allocated none) := by
    refine hreach.traceInvariant (fun trace s => ((∃ free, s.Sound free) ∧ s.blockCount = n) ∧
      s.overflows = trace.count (.allocated none)) ⟨⟨⟨_, LeasePool.create_sound n⟩, rfl⟩, rfl⟩ ?_
    rintro trace s i s' es ⟨⟨⟨free, h⟩, hcount⟩, hoverflows⟩ - hs
    obtain ⟨hsound, hsame, -⟩ := h.step hs
    refine ⟨⟨hsound, hsame.trans hcount⟩, ?_⟩
    rw [List.count_append, ← hoverflows]
    exact (LeasePool.step_refusals hs).1
  obtain ⟨⟨⟨free, h⟩, rfl⟩, hoverflows⟩ := hinv
  refine ⟨hoverflows, fun i s' es hs hrefused => ?_⟩
  refine ((LeasePool.step_refusals hs).2 hrefused).imp_right fun hnone b hb => ?_
  have hout : b ∉ free := by
    have hchain := h.chain
    rw [hnone] at hchain
    cases free with
    | nil => exact List.not_mem_nil
    | cons => cases hchain.1
  by_contra hfree
  push Not at hfree
  exact hout ((h.free_iff b).mpr ⟨hb, by simpa using hfree.1, hfree.2⟩)

/-- One block is live and the other one is on its way back. -/
theorem allocate_refused_exhausted_sample : ∃ trace s,
    (poolMachine.Reaches anyStep (.create 2) trace s ∧ trace.getLast? = some (.allocated none)) ∧
      s.overflows = trace.count (.allocated none) := by
  obtain ⟨trace, s, hreach, htrace⟩ := poolMachine.exists_of_run anyStep (.create 2)
    [.allocate 64, .pop false, .pop false, .pop false, .allocate 64, .pop false, .pop false,
      .pop false, .deallocate 0 (some 1), .allocate 128, .pop false]
    (P := fun _ trace => trace.getLast? = some (.allocated none)) (by decide +kernel)
  exact ⟨trace, s, ⟨hreach, htrace⟩, (allocate_refused_exhausted hreach).1⟩

end TangoBulk
