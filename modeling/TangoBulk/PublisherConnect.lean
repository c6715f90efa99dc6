import TangoBulk.LibTransition
import TangoBulk.ProtocolCoord

/-! Endpoints for new sessions. A `connect` call queues a pointer to a task on its own stack and
waits for the engine, but not for longer than five seconds; the engine takes the whole queue and
makes the endpoints without holding the lock. -/
namespace TangoBulk

open ByteString Transition Function

/-- The task of a `connect` call; it is gone when the call has returned. -/
structure ConnectTask where
  address : Bytes := []
  ep : Option ℕ := none
  ok : Bool := false
  done : Bool := false
  deriving DecidableEq

inductive ConnectCall
  | unused
  -- the task is queued and the wait has not begun
  | queued
  | waiting (deadlineMs : ℕ)
  -- without an endpoint, the call threw
  | returned (ep : Option ℕ)
  deriving DecidableEq

/-- The call's stack frame exists. -/
def ConnectCall.alive : ConnectCall → Bool
  | .queued | .waiting _ => true
  | _ => false

/-- The bounded waits of `teardown`. -/
inductive TeardownWait
  | flush | close | collect
  deriving DecidableEq

/-- Where the engine thread is; a batch is the tasks already visited and those to come. -/
inductive ConnectEngine
  | idle
  | tearing (wait : TeardownWait)
  | creating (made rest : List ℕ)
  | stopped
  deriving DecidableEq

/-- The tasks the engine has taken over. -/
def ConnectEngine.batch : ConnectEngine → List ℕ
  | .creating made rest => made ++ rest
  | _ => []

def ConnectEngine.rest : ConnectEngine → List ℕ
  | .creating _ rest => rest
  | _ => []

lemma ConnectEngine.rest_subset (e : ConnectEngine) : e.rest ⊆ e.batch := by
  cases e with
  | creating made rest => exact List.subset_append_right made rest
  | idle | tearing | stopped => exact fun _ h => h

def kConnectWaitMs : ℕ := 5000

structure ConnectState where
  now : ℕ := 0
  count : ℕ := 0
  calls : ℕ → ConnectCall := fun _ => .unused
  tasks : ℕ → ConnectTask := fun _ => {}
  queue : List ℕ := []
  engine : ConnectEngine := .idle
  endpoints : ℕ := 0
  transportErrors : ℕ := 0

inductive ConnectInput
  | connect (address : Bytes)
  | wait (call : ℕ)
  | wakeUp (call : ℕ)
  | timeOut (call : ℕ)
  | elapse (ms : ℕ)
  | swap
  | create (connected : Bool)
  | complete
  | beginTeardown
  | endWait
  | stop

inductive ConnectEvent
  -- the engine uses the task of a call that is, or is no longer, under way
  | dereferenced (call : ℕ) (alive : Bool)
  | created (call ep : ℕ)
  deriving DecidableEq

namespace ConnectState

def setTask (s : ConnectState) (c : ℕ) (task : ConnectTask) : ConnectState :=
  { s with tasks := Function.update s.tasks c task }

def setCall (s : ConnectState) (c : ℕ) (call : ConnectCall) : ConnectState :=
  { s with calls := Function.update s.calls c call }

/-- `connect` up to the end of its first critical section. -/
def enqueue (s : ConnectState) (address : Bytes) : ConnectState :=
  { (s.setTask s.count { address }).setCall s.count .queued with
    count := s.count + 1, queue := s.queue ++ [s.count] }

/-- What `connect` returns once its task is done. -/
def result (task : ConnectTask) : Option ℕ := if task.ok then task.ep else none

def touch (s : ConnectState) (c : ℕ) : ConnectEvent := .dereferenced c (s.calls c).alive

/-- One turn of the loop over the batch. A task whose call has returned is dead memory, and what
the engine then reads is not determined; here it is what the task held last. -/
def createOne (s : ConnectState) (c : ℕ) (connected : Bool) : ConnectState × List ConnectEvent :=
  let task := s.tasks c
  if task.address = [] ∨ kMaxUcxAddressBytes < task.address.length ∨ !connected then
    ({ s.setTask c { task with ok := false } with transportErrors := s.transportErrors + 1 },
      [s.touch c])
  else
    ({ s.setTask c { task with ep := some s.endpoints, ok := true } with
        endpoints := s.endpoints + 1 },
      [s.touch c, .created c s.endpoints])

/-- The second critical section of `drain_connect_requests`. -/
def markDone (s : ConnectState) (batch : List ℕ) : ConnectState :=
  { s with tasks := fun c => if c ∈ batch then { s.tasks c with done := true } else s.tasks c }

def step (s : ConnectState) : ConnectInput → Option (ConnectState × List ConnectEvent)
  | .connect address => some (s.enqueue address, [])
  | .wait c =>
    if s.calls c = .queued then some (s.setCall c (.waiting (s.now + kConnectWaitMs)), []) else none
  | .wakeUp c =>
    match s.calls c with
    | .waiting _ =>
      if (s.tasks c).done then some (s.setCall c (.returned (result (s.tasks c))), []) else none
    | _ => none
  | .timeOut c =>
    match s.calls c with
    | .waiting deadlineMs =>
      if deadlineMs ≤ s.now ∧ !(s.tasks c).done then some (s.setCall c (.returned none), [])
      else none
    | _ => none
  | .elapse ms => some ({ s with now := s.now + ms }, [])
  | .swap =>
    if s.engine = .idle ∧ s.queue ≠ [] then
      some ({ s with engine := .creating [] s.queue, queue := [] }, [])
    else none
  | .create connected =>
    match s.engine with
    | .creating made (c :: rest) =>
      let created := s.createOne c connected
      some ({ created.1 with engine := .creating (made ++ [c]) rest }, created.2)
    | _ => none
  | .complete =>
    match s.engine with
    | .creating made [] => some ({ s.markDone made with engine := .idle }, made.map s.touch)
    | _ => none
  | .beginTeardown =>
    if s.engine = .idle then some ({ s with engine := .tearing .flush }, []) else none
  | .endWait =>
    match s.engine with
    | .tearing .flush => some ({ s with engine := .tearing .close }, [])
    | .tearing .close => some ({ s with engine := .tearing .collect }, [])
    | .tearing .collect => some ({ s with engine := .idle }, [])
    | _ => none
  | .stop => if s.engine = .idle then some ({ s with engine := .stopped }, []) else none

end ConnectState

def connectMachine : Machine ConnectState ConnectInput ConnectEvent := ⟨ConnectState.step⟩

namespace ConnectState

/-- What each input does. -/
inductive Turn (s : ConnectState) : ConnectInput → ConnectState → List ConnectEvent → Prop
  | connect (address : Bytes) : Turn s (.connect address) (s.enqueue address) []
  | wait (c : ℕ) (was : s.calls c = .queued) :
      Turn s (.wait c) (s.setCall c (.waiting (s.now + kConnectWaitMs))) []
  | wakeUp (c deadlineMs : ℕ) (was : s.calls c = .waiting deadlineMs)
      (done : (s.tasks c).done = true) :
      Turn s (.wakeUp c) (s.setCall c (.returned (result (s.tasks c)))) []
  | timeOut (c deadlineMs : ℕ) (was : s.calls c = .waiting deadlineMs)
      (undone : ¬ (s.tasks c).done = true) : Turn s (.timeOut c) (s.setCall c (.returned none)) []
  | elapse (ms : ℕ) : Turn s (.elapse ms) { s with now := s.now + ms } []
  | swap (idle : s.engine = .idle) :
      Turn s .swap { s with engine := .creating [] s.queue, queue := [] } []
  | create {connected : Bool} {c : ℕ} {made rest : List ℕ}
      (was : s.engine = .creating made (c :: rest)) : Turn s (.create connected)
      { (s.createOne c connected).1 with engine := .creating (made ++ [c]) rest }
      (s.createOne c connected).2
  | complete {made : List ℕ} (was : s.engine = .creating made []) :
      Turn s .complete { s.markDone made with engine := .idle } (made.map s.touch)
  | engine {i : ConnectInput} {e : ConnectEngine} (was : s.engine.batch = [])
      (now : e.batch = [] ∧ e.rest = []) (running : s.engine ≠ .stopped) :
      Turn s i { s with engine := e } []

lemma turn_of_step {s s' : ConnectState} {i : ConnectInput} {es : List ConnectEvent}
    (hs : s.step i = some (s', es)) : s.Turn i s' es := by
  cases i with
  | connect address =>
    cases hs
    exact .connect address
  | wait c =>
    obtain ⟨hguard, rfl, rfl⟩ := of_guard hs
    exact .wait c hguard
  | wakeUp c =>
    simp only [step] at hs
    split at hs
    case h_1 deadlineMs hc =>
      obtain ⟨hguard, rfl, rfl⟩ := of_guard hs
      exact .wakeUp c deadlineMs hc hguard
    case h_2 => cases hs
  | timeOut c =>
    simp only [step] at hs
    split at hs
    case h_1 deadlineMs hc =>
      obtain ⟨hguard, rfl, rfl⟩ := of_guard hs
      exact .timeOut c deadlineMs hc (by simpa using hguard.2)
    case h_2 => cases hs
  | elapse ms =>
    cases hs
    exact .elapse ms
  | swap =>
    obtain ⟨hguard, rfl, rfl⟩ := of_guard hs
    exact .swap hguard.1
  | create =>
    simp only [step] at hs
    split at hs
    case h_1 he =>
      cases hs
      exact .create he
    case h_2 => cases hs
  | complete =>
    simp only [step] at hs
    split at hs
    case h_1 he =>
      cases hs
      exact .complete he
    case h_2 => cases hs
  | beginTeardown | stop =>
    obtain ⟨hguard, rfl, rfl⟩ := of_guard hs
    exact .engine (by rw [hguard]; rfl) ⟨rfl, rfl⟩ (by rw [hguard]; simp)
  | endWait =>
    simp only [step] at hs
    split at hs
    case h_4 => cases hs
    all_goals
      rename_i he
      cases hs
      exact .engine (by rw [he]; rfl) ⟨rfl, rfl⟩ (by rw [he]; simp)

/-- No call gives up while the engine may still come to its task. -/
def Spared (s : ConnectState) : ConnectInput → Prop
  | .timeOut c => s.engine = .stopped ∨ (c ∉ s.queue ∧ c ∉ s.engine.batch)
  | _ => True

instance (s : ConnectState) (i : ConnectInput) : Decidable (s.Spared i) :=
  match i with
  | .timeOut c => inferInstanceAs (Decidable (s.engine = .stopped ∨ (c ∉ s.queue ∧ _)))
  | .connect _ | .wait _ | .wakeUp _ | .elapse _ | .swap | .create _ | .complete
  | .beginTeardown | .endWait | .stop => inferInstanceAs (Decidable True)

end ConnectState

/-- Nothing was written to the task. -/
def ConnectTask.Untouched (task : ConnectTask) : Prop :=
  task.ep = none ∧ task.ok = false ∧ task.done = false

/-- Where the task of one call may be, and what its fields say about the endpoints made for it. -/
structure TaskHeld (created : ℕ → Prop) (call : ConnectCall) (task : ConnectTask)
    (fresh inQueue inBatch inRest stopped : Prop) : Prop where
  unused : call = .unused ↔ fresh
  blank : fresh → task.Untouched
  apart : fresh → ¬ inQueue ∧ ¬ inBatch
  queued : inQueue → task.Untouched ∧ (¬ stopped → call.alive = true)
  taken : inBatch → task.done = false ∧ call.alive = true
  coming : inRest → task.Untouched
  holder : call.alive = true → task.done = true ∨ inQueue ∨ inBatch
  made : ∀ ep, created ep ↔ task.ep = some ep
  okay : task.ok = task.ep.isSome
  answered : ∀ r, call = .returned r → r = task.ep

/-- Who holds the tasks. -/
structure ConnectHeld (trace : List ConnectEvent) (s : ConnectState) : Prop where
  nodup : (s.queue ++ s.engine.batch).Nodup
  tasks : ∀ c, TaskHeld (.created c · ∈ trace) (s.calls c) (s.tasks c) (s.count ≤ c) (c ∈ s.queue)
    (c ∈ s.engine.batch) (c ∈ s.engine.rest) (s.engine = .stopped)

namespace ConnectHeld

variable {trace : List ConnectEvent} {s : ConnectState}

lemma start : ConnectHeld [] {} where
  nodup := by simp [ConnectEngine.batch]
  tasks c := by
    constructor <;> simp [ConnectEngine.batch, ConnectEngine.rest, ConnectTask.Untouched,
      ConnectCall.alive]

lemma enqueue (h : ConnectHeld trace s) (address : Bytes) :
    ConnectHeld trace (s.enqueue address) := by
  have hfresh := h.tasks s.count
  obtain ⟨hqueue, hbatch⟩ := hfresh.apart le_rfl
  refine ⟨?_, fun c => ?_⟩
  · have hnodup := h.nodup
    simp only [ConnectState.enqueue, ConnectState.setCall, ConnectState.setTask,
      List.nodup_append, List.mem_append, List.mem_singleton] at hnodup ⊢
    grind
  · by_cases hc : c = s.count
    · subst hc
      have hcoming : s.count ∉ s.engine.rest := fun hmem => hbatch (s.engine.rest_subset hmem)
      have hnone := (hfresh.blank le_rfl).1
      constructor <;> simp [ConnectState.enqueue, ConnectState.setCall, ConnectState.setTask,
        ConnectTask.Untouched, ConnectCall.alive, hbatch, hcoming, hfresh.made, hnone]
    · have hle : s.count + 1 ≤ c ↔ s.count ≤ c := by omega
      simpa [ConnectState.enqueue, ConnectState.setCall, ConnectState.setTask,
        update_of_ne hc, hle, hc] using h.tasks c

variable {c : ℕ} {made : List ℕ} {es : List ConnectEvent}

lemma setCall (h : ConnectHeld trace s) {call : ConnectCall} (halive : (s.calls c).alive = true)
    (hused : call ≠ .unused) (hqueue : s.engine ≠ .stopped → c ∈ s.queue → call.alive = true)
    (hbatch : c ∈ s.engine.batch → call.alive = true)
    (hreturn : ∀ r, call = .returned r → r = (s.tasks c).ep) :
    ConnectHeld trace (s.setCall c call) := by
  refine ⟨h.nodup, fun d => ?_⟩
  have hd := h.tasks d
  by_cases hdc : d = c
  · subst hdc
    have hnew : ¬ s.count ≤ d := fun hle => by
      rw [hd.unused.mpr hle] at halive
      cases halive
    rw [show (s.setCall d call).calls d = call from update_self ..]
    exact { hd with
      unused := iff_of_false hused hnew
      queued := fun hq => ⟨(hd.queued hq).1, fun hrun => hqueue hrun hq⟩
      taken := fun hb => ⟨(hd.taken hb).1, hbatch hb⟩
      holder := fun _ => hd.holder halive
      answered := hreturn }
  · rw [show (s.setCall c call).calls d = s.calls d from update_of_ne hdc _ _]
    exact hd

lemma result_eq (h : ConnectHeld trace s) (c : ℕ) :
    ConnectState.result (s.tasks c) = (s.tasks c).ep := by
  rw [ConnectState.result, (h.tasks c).okay]
  cases (s.tasks c).ep <;> rfl

lemma engine (h : ConnectHeld trace s) {e : ConnectEngine} (hold : s.engine.batch = [])
    (hnew : e.batch = [] ∧ e.rest = []) (hrun : s.engine ≠ .stopped) :
    ConnectHeld trace { s with engine := e } := by
  refine ⟨?_, fun c => ?_⟩
  · rw [hnew.1, ← hold]
    exact h.nodup
  · have hc := h.tasks c
    have hcoming : c ∉ e.rest := by simp [hnew.2]
    rw [hold] at hc
    rw [hnew.1]
    exact { hc with
      queued := fun hq => ⟨(hc.queued hq).1, fun _ => (hc.queued hq).2 hrun⟩
      coming := fun hr => absurd hr hcoming }

lemma swap (h : ConnectHeld trace s) (hidle : s.engine = .idle) :
    ConnectHeld trace { s with engine := .creating [] s.queue, queue := [] } := by
  have hbatch : s.engine.batch = [] := by rw [hidle]; rfl
  have hrun : s.engine ≠ .stopped := by rw [hidle]; simp
  refine ⟨?_, fun c => ?_⟩
  · have hnodup := h.nodup
    rw [hbatch, List.append_nil] at hnodup
    exact hnodup
  · have hc := h.tasks c
    rw [hbatch] at hc
    exact { hc with
      apart := fun hle => ⟨List.not_mem_nil, (hc.apart hle).1⟩
      queued := nofun
      taken := fun hq => ⟨(hc.queued hq).1.2.2, (hc.queued hq).2 hrun⟩
      coming := fun hq => (hc.queued hq).1
      holder := fun halive => by simpa [ConnectEngine.batch] using hc.holder halive }

/-- The engine writes to the next task of its batch. -/
lemma visit (h : ConnectHeld trace s) {rest : List ℕ} (he : s.engine = .creating made (c :: rest))
    {task : ConnectTask} (hdone : task.done = false) (hok : task.ok = task.ep.isSome)
    (hes : ∀ d ep, .created d ep ∈ es ↔ d = c ∧ task.ep = some ep) (endpoints errors : ℕ) :
    ConnectHeld (trace ++ es)
      { s.setTask c task with engine := .creating (made ++ [c]) rest, endpoints := endpoints,
                              transportErrors := errors } := by
  have hbatch : s.engine.batch = (made ++ [c]) ++ rest := by
    rw [he, List.append_assoc]
    rfl
  have hnodup := h.nodup
  rw [hbatch] at hnodup
  refine ⟨hnodup, fun d => ?_⟩
  have hd := h.tasks d
  rw [hbatch] at hd
  have hstopped : ¬ s.engine = .stopped := by rw [he]; simp
  have hrest : d ∈ s.engine.rest ↔ d = c ∨ d ∈ rest := by
    rw [he]
    exact List.mem_cons
  dsimp only [ConnectState.setTask, ConnectEngine.batch, ConnectEngine.rest]
  by_cases hdc : d = c
  · subst hdc
    rw [update_self]
    have htaken : d ∈ (made ++ [d]) ++ rest := by simp
    have hqueue : d ∉ s.queue := fun hq => (List.nodup_append.mp hnodup).2.2 d hq d htaken rfl
    have hafter : d ∉ rest := fun hr => by
      refine (List.nodup_append.mp (List.nodup_append.mp hnodup).2.1).2.2 d ?_ d hr rfl
      simp
    have halive := (hd.taken htaken).2
    have hnone := (hd.coming (hrest.mpr (.inl rfl))).1
    have hold : ¬ s.count ≤ d := fun hle => (hd.apart hle).2 htaken
    constructor
    case unused => exact hd.unused
    case blank => exact fun hle => absurd hle hold
    case apart => exact hd.apart
    case queued => exact fun hq => absurd hq hqueue
    case taken => exact fun _ => ⟨hdone, halive⟩
    case coming => exact fun hr => absurd hr hafter
    case holder => exact fun _ => .inr (.inr htaken)
    case made => simp [hd.made, hes, hnone]
    case okay => exact hok
    case answered =>
      intro r hr
      rw [hr] at halive
      cases halive
  · rw [update_of_ne hdc]
    exact { hd with
      queued := fun hq => ⟨(hd.queued hq).1, fun _ => (hd.queued hq).2 hstopped⟩
      coming := fun hr => hd.coming (hrest.mpr (.inr hr))
      made := fun ep => by simp [hd.made, hes, hdc] }

lemma createOne (h : ConnectHeld trace s) {rest : List ℕ} {connected : Bool}
    (he : s.engine = .creating made (c :: rest)) :
    ConnectHeld (trace ++ (s.createOne c connected).2)
      { (s.createOne c connected).1 with engine := .creating (made ++ [c]) rest } := by
  have hcoming := (h.tasks c).coming (by rw [he]; simp [ConnectEngine.rest])
  unfold ConnectState.createOne
  dsimp only
  split_ifs
  · have hdone : ({ s.tasks c with ok := false } : ConnectTask).done = false := hcoming.2.2
    refine h.visit he hdone ?_ ?_ s.endpoints (s.transportErrors + 1)
    · rw [hcoming.1]
      rfl
    · simp [ConnectState.touch, hcoming.1]
  · have hdone : ({ s.tasks c with ep := some s.endpoints, ok := true } : ConnectTask).done =
        false := hcoming.2.2
    refine h.visit he hdone rfl ?_ (s.endpoints + 1) s.transportErrors
    simp [ConnectState.touch, eq_comm]

lemma complete (h : ConnectHeld trace s) (he : s.engine = .creating made [])
    (hes : ∀ d ep, .created d ep ∉ es) :
    ConnectHeld (trace ++ es) { s.markDone made with engine := .idle } := by
  have hbatch : s.engine.batch = made := by rw [he]; exact List.append_nil _
  have hrun : ¬ s.engine = .stopped := by rw [he]; simp
  have hnodup := h.nodup
  refine ⟨(List.append_nil s.queue).symm ▸ (List.nodup_append.mp hnodup).1, fun c => ?_⟩
  have hc := h.tasks c
  have hmade : ∀ ep, .created c ep ∈ trace ++ es ↔ (s.tasks c).ep = some ep := fun ep => by
    simp [hc.made, hes c ep]
  rw [hbatch] at hc hnodup
  have hnone : c ∉ ConnectEngine.idle.batch := List.not_mem_nil
  dsimp only [ConnectState.markDone]
  split_ifs with hin
  · have hold : ¬ s.count ≤ c := fun hle => (hc.apart hle).2 hin
    exact { hc with
      blank := fun hle => absurd hle hold
      apart := fun hle => absurd hle hold
      queued := fun hq => absurd rfl ((List.nodup_append.mp hnodup).2.2 c hq c hin)
      taken := fun ht => absurd ht hnone
      coming := nofun
      holder := fun _ => .inl rfl
      made := hmade }
  · exact { hc with
      apart := fun hle => ⟨(hc.apart hle).1, hnone⟩
      queued := fun hq => ⟨(hc.queued hq).1, fun _ => (hc.queued hq).2 hrun⟩
      taken := fun ht => absurd ht hnone
      coming := nofun
      holder := fun halive => (hc.holder halive).imp_right (·.imp_right (absurd · hin))
      made := hmade }

lemma wakeUp (h : ConnectHeld trace s) {deadlineMs : ℕ} (hc : s.calls c = .waiting deadlineMs)
    (hdone : (s.tasks c).done = true) :
    ConnectHeld trace (s.setCall c (.returned (ConnectState.result (s.tasks c)))) := by
  refine h.setCall (by rw [hc]; rfl) (by simp) (fun _ hq => ?_) (fun hb => ?_) fun r hr => ?_
  · rw [((h.tasks c).queued hq).1.2.2] at hdone
    cases hdone
  · rw [((h.tasks c).taken hb).1] at hdone
    cases hdone
  · cases hr
    exact h.result_eq c

/-- A call that gives up leaves its task in the queue of a stopped engine. -/
lemma timeOut (h : ConnectHeld trace s) {deadlineMs : ℕ} (hc : s.calls c = .waiting deadlineMs)
    (hdone : ¬ (s.tasks c).done = true) (hspared : s.Spared (.timeOut c)) :
    ConnectHeld trace (s.setCall c (.returned none)) := by
  have halive : (s.calls c).alive = true := by rw [hc]; rfl
  have hholder := ((h.tasks c).holder halive).resolve_left hdone
  rcases hspared with hstopped | ⟨hq, hb⟩
  · have hbatch : c ∉ s.engine.batch := by rw [hstopped]; simp [ConnectEngine.batch]
    have hqueue : c ∈ s.queue := hholder.resolve_right hbatch
    refine h.setCall halive (by simp) (fun hrun => absurd hstopped hrun)
      (fun hb => absurd hb hbatch) fun r hr => ?_
    cases hr
    exact ((h.tasks c).queued hqueue).1.1.symm
  · exact absurd hholder (not_or_intro hq hb)

/-- The tasks of a batch are those of calls that have not returned. -/
lemma touch_alive (h : ConnectHeld trace s) (hc : c ∈ s.engine.batch) {d : ℕ} {alive : Bool}
    (htouch : s.touch c = .dereferenced d alive) : alive = true := by
  cases htouch
  exact ((h.tasks c).taken hc).2

lemma createOne_alive (h : ConnectHeld trace s) (hc : c ∈ s.engine.batch) {connected : Bool}
    {d : ℕ} {alive : Bool} (hmem : .dereferenced d alive ∈ (s.createOne c connected).2) :
    alive = true := by
  refine h.touch_alive (d := d) hc ?_
  simp only [ConnectState.createOne] at hmem
  split_ifs at hmem
  all_goals simpa [eq_comm] using hmem

/-- Only a task that is done, or one of a stopped engine, is left behind by its call. -/
lemma step {s' : ConnectState} {i : ConnectInput} (h : ConnectHeld trace s) (hok : s.Spared i)
    (hs : connectMachine.step s i = some (s', es)) :
    ConnectHeld (trace ++ es) s' ∧ ∀ c alive, .dereferenced c alive ∈ es → alive = true := by
  have hquiet : ∀ {s' : ConnectState}, ConnectHeld trace s' → ConnectHeld (trace ++ []) s' ∧
      ∀ c alive, .dereferenced c alive ∈ ([] : List ConnectEvent) → alive = true :=
    fun h => ⟨by simpa using h, by simp⟩
  cases ConnectState.turn_of_step hs with
  | connect address => exact hquiet (h.enqueue address)
  | wait c was =>
    exact hquiet (h.setCall (by rw [was]; rfl) (by simp) (fun _ _ => rfl) (fun _ => rfl)
      nofun)
  | wakeUp c deadlineMs was done => exact hquiet (h.wakeUp was done)
  | timeOut c deadlineMs was undone => exact hquiet (h.timeOut was undone hok)
  | elapse => exact hquiet ⟨h.nodup, h.tasks⟩
  | swap idle => exact hquiet (h.swap idle)
  | create was =>
    refine ⟨h.createOne was, fun d alive hmem => h.createOne_alive ?_ hmem⟩
    rw [was]
    simp [ConnectEngine.batch]
  | complete was =>
    refine ⟨h.complete was (fun d ep hmem => ?_), fun d alive hmem => ?_⟩
    · obtain ⟨c, -, hc⟩ := List.mem_map.mp hmem
      cases hc
    · obtain ⟨c, hc, heq⟩ := List.mem_map.mp hmem
      refine h.touch_alive ?_ heq
      rw [was]
      exact List.mem_append_left _ hc
  | engine was now running => exact hquiet (h.engine was now running)

lemma of_reaches (h : connectMachine.Reaches ConnectState.Spared {} trace s) :
    ConnectHeld trace s ∧ ∀ c alive, .dereferenced c alive ∈ trace → alive = true := by
  refine h.traceInvariant (fun trace s => ConnectHeld trace s ∧
    ∀ c alive, .dereferenced c alive ∈ trace → alive = true) ⟨start, by simp⟩ ?_
  rintro trace s i s' es ⟨hheld, halive⟩ hok hs
  obtain ⟨hheld', hes⟩ := hheld.step hok hs
  refine ⟨hheld', fun c alive hmem => ?_⟩
  rcases List.mem_append.mp hmem with hmem | hmem
  · exact halive c alive hmem
  · exact hes c alive hmem

end ConnectHeld

/-! ### Every endpoint reaches its caller -/

namespace ConnectState

/-- The engine can always finish its batch: what was made stays and every task is done. -/
lemma finish_batch {s : ConnectState} {made rest : List ℕ}
    (he : s.engine = .creating made rest) (hnodup : (made ++ rest).Nodup) :
    ∃ trace s', connectMachine.Reaches Spared s trace s' ∧ s'.calls = s.calls ∧
      ∀ c ∈ made, (s'.tasks c).done = true ∧ (s'.tasks c).ep = (s.tasks c).ep ∧
        (s'.tasks c).ok = (s.tasks c).ok := by
  induction rest generalizing s made with
  | nil =>
    have hstep : connectMachine.step s .complete =
        some ({ s.markDone made with engine := .idle }, made.map s.touch) := by
      simp only [connectMachine, step, he]
    have hmeets : s.Spared .complete := trivial
    refine ⟨_, _, .one hmeets hstep, rfl, fun c hc => ?_⟩
    dsimp only [markDone]
    rw [if_pos hc]
    exact ⟨rfl, rfl, rfl⟩
  | cons d rest ih =>
    have hstep : connectMachine.step s (.create false) =
        some ({ (s.createOne d false).1 with engine := .creating (made ++ [d]) rest },
          (s.createOne d false).2) := by
      simp only [connectMachine, step, he]
    have hcreate : (s.createOne d false).1 =
        { s.setTask d { s.tasks d with ok := false } with
          transportErrors := s.transportErrors + 1 } := by
      simp [createOne]
    obtain ⟨trace, s', hreach, hcalls, hmade⟩ := ih
      (s := { (s.createOne d false).1 with engine := .creating (made ++ [d]) rest }) rfl
      (by simpa using hnodup)
    have hmeets : s.Spared (.create false) := trivial
    refine ⟨_, s', (Machine.Reaches.one hmeets hstep).trans hreach,
      hcalls.trans (by rw [hcreate]; rfl), fun c hc => ?_⟩
    have hne : c ≠ d := fun he => by
      subst he
      exact (List.nodup_append.mp hnodup).2.2 c hc c (by simp) rfl
    obtain ⟨hdone, hep, hok⟩ := hmade c (List.mem_append_left _ hc)
    rw [hcreate] at hep hok
    have htask : update s.tasks d { s.tasks d with ok := false } c = s.tasks c :=
      update_of_ne hne _ _
    dsimp only [setTask] at hep hok
    rw [htask] at hep hok
    exact ⟨hdone, hep, hok⟩

lemma return_done {s : ConnectState} {c : ℕ} (halive : (s.calls c).alive = true)
    (hdone : (s.tasks c).done = true) :
    ∃ trace s', connectMachine.Reaches Spared s trace s' ∧
      s'.calls c = .returned (result (s.tasks c)) := by
  have hwake : ∀ {s : ConnectState} {deadlineMs : ℕ}, s.calls c = .waiting deadlineMs →
      (s.tasks c).done = true → ∃ trace s', connectMachine.Reaches Spared s trace s' ∧
        s'.calls c = .returned (result (s.tasks c)) := by
    intro s deadlineMs hc hdone
    have hstep : connectMachine.step s (.wakeUp c) =
        some (s.setCall c (.returned (result (s.tasks c))), []) := by
      simp only [connectMachine, step, hc, hdone, if_true]
    have hmeets : s.Spared (.wakeUp c) := trivial
    exact ⟨_, _, .one hmeets hstep, update_self ..⟩
  cases hc : s.calls c with
  | waiting => exact hwake hc hdone
  | queued =>
    have hstep : connectMachine.step s (.wait c) =
        some (s.setCall c (.waiting (s.now + kConnectWaitMs)), []) := by
      simp only [connectMachine, step, hc, if_true]
    have hmeets : s.Spared (.wait c) := trivial
    obtain ⟨trace, s', hreach, hreturned⟩ :=
      hwake (s := s.setCall c (.waiting (s.now + kConnectWaitMs))) (update_self ..) hdone
    exact ⟨_, s', (Machine.Reaches.one hmeets hstep).trans hreach, hreturned⟩
  | unused | returned =>
    rw [hc] at halive
    cases halive

/-- An endpoint that was made for a call can still be returned by it, if it has not been. -/
lemma return_made {trace : List ConnectEvent} {s : ConnectState} (h : ConnectHeld trace s)
    {c ep : ℕ} (hep : (s.tasks c).ep = some ep) :
    ∃ trace' s', connectMachine.Reaches Spared s trace' s' ∧ s'.calls c = .returned (some ep) := by
  have hresult : result (s.tasks c) = some ep := (h.result_eq c).trans hep
  cases hc : s.calls c with
  | returned r =>
    have hr := (h.tasks c).answered r hc
    exact ⟨[], s, .start, by rw [hc, hr, hep]⟩
  | unused =>
    have hnone := ((h.tasks c).blank ((h.tasks c).unused.mp hc)).1
    rw [hep] at hnone
    cases hnone
  | _ =>
    have halive : (s.calls c).alive = true := by rw [hc]; rfl
    rcases (h.tasks c).holder halive with hdone | hqueue | hbatch
    · obtain ⟨trace', s', hreach, hreturned⟩ := return_done halive hdone
      exact ⟨trace', s', hreach, hreturned.trans (by rw [hresult])⟩
    · have hnone := ((h.tasks c).queued hqueue).1.1
      rw [hep] at hnone
      cases hnone
    · cases he : s.engine with
      | creating made =>
        have hnodup := (List.nodup_append.mp h.nodup).2.1
        have hcoming := (h.tasks c).coming
        rw [he] at hbatch hnodup hcoming
        have hmade : c ∈ made := by
          rcases List.mem_append.mp hbatch with hmem | hmem
          · exact hmem
          · have hnone := (hcoming hmem).1
            rw [hep] at hnone
            cases hnone
        obtain ⟨trace₁, s₁, hreach₁, hcalls, hkept⟩ := finish_batch he hnodup
        obtain ⟨hdone, hep₁, hok₁⟩ := hkept c hmade
        obtain ⟨trace₂, s₂, hreach₂, hreturned⟩ :=
          return_done (s := s₁) (c := c) (by rw [hcalls]; exact halive) hdone
        refine ⟨_, s₂, hreach₁.trans hreach₂, hreturned.trans ?_⟩
        rw [result, hep₁, hok₁]
        exact congrArg _ hresult
      | idle | tearing | stopped =>
        rw [he] at hbatch
        cases hbatch

end ConnectState

/-- What `connect` promises: the engine uses only tasks whose call has not returned, and an
endpoint it made is returned by the call that asked for it. -/
structure ConnectSafe (trace : List ConnectEvent) (s : ConnectState) : Prop where
  alive : ∀ c alive, .dereferenced c alive ∈ trace → alive = true
  returned : ∀ c ep, .created c ep ∈ trace →
    (∀ r, s.calls c = .returned r → r = some ep) ∧
    ∃ trace' s', connectMachine.Reaches ConnectState.Spared s trace' s' ∧
      s'.calls c = .returned (some ep)
  own : ∀ c ep, s.calls c = .returned (some ep) → .created c ep ∈ trace

/-- Connect requests do not outlive their callers unless one of them times out while the engine
may still come to its task. -/
theorem connect_tasks_alive {trace : List ConnectEvent} {s : ConnectState}
    (h : connectMachine.Reaches ConnectState.Spared {} trace s) : ConnectSafe trace s := by
  obtain ⟨hheld, halive⟩ := ConnectHeld.of_reaches h
  refine ⟨halive, fun c ep hmade => ?_, fun c ep hr => ?_⟩
  · have hep := ((hheld.tasks c).made ep).mp hmade
    exact ⟨fun r hr => ((hheld.tasks c).answered r hr).trans hep, ConnectState.return_made hheld hep⟩
  · exact ((hheld.tasks c).made ep).mpr ((hheld.tasks c).answered _ hr).symm

/-- Two calls, one of them with an address the engine refuses. -/
theorem connect_tasks_alive_sample : ∃ trace s,
    connectMachine.Reaches ConnectState.Spared {} trace s ∧
    (s.calls 0 = .returned (some 0) ∧ s.calls 1 = .returned none) ∧ ConnectSafe trace s := by
  obtain ⟨trace, s, hreach, hcalls⟩ := connectMachine.exists_of_run ConnectState.Spared {}
    [.connect [1], .wait 0, .connect [], .swap, .create true, .create true, .elapse 6000, .complete,
      .wakeUp 0, .wait 1, .wakeUp 1]
    (P := fun s _ => s.calls 0 = .returned (some 0) ∧ s.calls 1 = .returned none)
    (by decide +kernel)
  exact ⟨trace, s, hreach, hcalls, connect_tasks_alive hreach⟩

/-- One teardown whose three waits each use up their budget: the call times out, and the engine
then makes an endpoint through the task of a call that has returned without it. -/
theorem connect_task_dangling : ∃ trace s,
    connectMachine.Reaches anyStep {} trace s ∧
    ConnectEvent.dereferenced 0 false ∈ trace ∧ ConnectEvent.created 0 0 ∈ trace ∧
    s.calls 0 = .returned none ∧ s.queue = [] ∧ s.engine = .idle :=
  connectMachine.exists_of_run anyStep {}
    [.beginTeardown, .connect [1], .wait 0, .elapse 2000, .endWait, .elapse 2000, .endWait,
      .elapse 2000, .timeOut 0, .endWait, .swap, .create true, .complete] (by decide +kernel)

end TangoBulk
