import TangoBulk.DeliveryCalls

/-! A reader that waits on the descriptor. It calls `try_read_result` once at the start and then only
when the descriptor is readable; the call takes its loads, its pop and the store that arms the reader
one by one. -/
namespace TangoBulk

open Transition

/-- How far the reader's call has got: not begun, past its first look, past a failed pop, and past its
second look with the reader still to arm. -/
inductive ReaderStage
  | idle | looked | emptied | unset
  deriving DecidableEq

/-- The call has found the queue empty and has not armed the reader. -/
def ReaderStage.between : ReaderStage → Bool
  | .emptied | .unset => true
  | .idle | .looked => false

/-- The pushes and terminal calls in progress, the reader, and how its last call returned. -/
structure ArmState (φ : Type) where
  calls : DeliveryState φ
  reader : ReaderStage := .idle
  last : Option ReadKind := none

inductive ArmInput (φ : Type)
  | call (input : DeliveryInput φ)
  | start
  | pop
  | lookAgain
  | arm

/-- An input that is not a step of a reader. -/
def DeliveryInput.produces {φ : Type} : DeliveryInput φ → Bool
  | .push .. | .advance _ | .retire _ | .terminate _ | .publish => true
  | _ => false

namespace ArmState

variable {φ : Type}

/-- A queue that drops the newest frame. -/
def create (capacity : ℕ) : ArmState φ where
  calls := .create capacity .dropNewest

def returns (s : ArmState φ) (d : DeliveryQueue φ) (result : DeliveryRead φ) :
    ArmState φ × List (DeliveryEvent φ) :=
  ({ calls := { s.calls with delivery := d }, reader := .idle, last := some result.kind },
    [.read result])

variable [DecidableEq φ]

def step (s : ArmState φ) : ArmInput φ → Option (ArmState φ × List (DeliveryEvent φ))
  | .call input =>
    if input.produces then (s.calls.step input).map fun r => ({ s with calls := r.1 }, r.2)
    else none
  | .start =>
    if s.reader = .idle ∧ (s.last = none ∨ 0 < s.calls.delivery.tokens) then
      match s.calls.delivery.firstLook with
      | some result => some (s.returns s.calls.delivery result)
      | none => some ({ s with reader := .looked }, [])
    else none
  | .pop =>
    if s.reader = .looked then
      match s.calls.delivery.takeOne with
      | some taken => some (s.returns taken.2 { kind := .frame, frame := some taken.1 })
      | none => some ({ s with reader := .emptied }, [])
    else none
  | .lookAgain =>
    if s.reader = .emptied then
      match s.calls.delivery.secondLook with
      | some result => some (s.returns s.calls.delivery result)
      | none => some ({ s with reader := .unset }, [])
    else none
  | .arm =>
    if s.reader = .unset then some (s.returns s.calls.delivery.armReader {}) else none

end ArmState

def armMachine (φ : Type) [DecidableEq φ] :
    Machine (ArmState φ) (ArmInput φ) (DeliveryEvent φ) := ⟨ArmState.step⟩

/-- The push has a frame in the queue and has yet to signal it. -/
def PushStage.unsignalled {φ : Type} : PushStage φ → Bool
  | .tallying _ _ queued _ => queued
  | _ => false

/-- The push is about to drop the oldest frame, or has done so. -/
def PushStage.evicts {φ : Type} : PushStage φ → Bool
  | .evicting .. | .retrying .. => true
  | _ => false

/-- No push signals a queued frame to a reader that has found the queue empty and is not armed. -/
def signalsArmed {φ : Type} (s : ArmState φ) : ArmInput φ → Prop
  | .call (.advance stage) => stage.unsignalled = true → s.reader.between = true →
      s.calls.delivery.queue.items ≠ [] → s.calls.delivery.armedReader = true
  | _ => True

/-! ### What the reader can rely on -/

/-- `covered` is for a reader that has found the queue empty, `armed` for one that has said so, and
`ended` for one that has seen no terminal. -/
structure Alert {φ : Type} (d : DeliveryQueue φ) (pushing : List (PushStage φ))
    (reader : ReaderStage) (last : Option ReadKind) : Prop where
  hasFd : d.hasFd = true
  waiting : d.waitingReaders = 0
  policy : d.policy ≠ .dropOldest
  newest : ∀ stage ∈ pushing, stage.evicts = false
  covered : last = some .empty ∨ reader.between = true →
    0 < d.tokens ∨ d.queue.items = [] ∨ ∃ stage ∈ pushing, stage.unsignalled = true
  armed : last = some .empty → reader.between = false → 0 < d.tokens ∨ d.armedReader = true
  ended : d.terminal ≠ .none → last = some .empty ∨ reader = .unset → 0 < d.tokens

namespace DeliveryQueue

variable {φ : Type} {d d' : DeliveryQueue φ}

/-- The parts of a queue that wake the reader. -/
structure Alarm where
  hasFd : Bool
  tokens : ℕ
  waitingReaders : ℕ
  armedReader : Bool
  terminal : Terminal
  policy : DropPolicy

def alarm (d : DeliveryQueue φ) : Alarm where
  hasFd := d.hasFd
  tokens := d.tokens
  waitingReaders := d.waitingReaders
  armedReader := d.armedReader
  terminal := d.terminal
  policy := d.policy

lemma takeOne_parts {frame : φ} (h : d.takeOne = some (frame, d')) :
    d'.hasFd = d.hasFd ∧ d'.waitingReaders = d.waitingReaders ∧ d'.policy = d.policy := by
  obtain ⟨popped, -, -, rfl⟩ := of_mapped h
  unfold consumeOne
  split_ifs <;> exact ⟨rfl, rfl, rfl⟩

end DeliveryQueue

namespace DeliveryState

variable {φ : Type} {d : DeliveryQueue φ} {stage : PushStage φ}

lemma pushStep_quiet (hpolicy : d.policy ≠ .dropOldest) (hevicts : stage.evicts = false)
    (hsignal : stage.unsignalled = false) :
    (pushStep d stage).1.alarm = d.alarm ∧
      (∀ next ∈ (pushStep d stage).2.1, next.evicts = false) ∧
      ((pushStep d stage).1.queue = d.queue ∨
        ∃ next ∈ (pushStep d stage).2.1, next.unsignalled = true) := by
  cases stage with
  | entered ingress frame => exact ⟨rfl, by simp [pushStep, PushStage.evicts], .inl rfl⟩
  | sighted =>
    simp only [pushStep]
    split_ifs <;> exact ⟨rfl, by simp [PushStage.evicts], .inl rfl⟩
  | cleared ingress frame =>
    simp only [pushStep]
    cases hpush : d.queue.push frame with
    | some =>
      exact ⟨rfl, by simp [PushStage.evicts], .inr ⟨_, rfl, rfl⟩⟩
    | none =>
      rw [if_neg hpolicy]
      exact ⟨rfl, by simp [PushStage.evicts], .inl rfl⟩
  | evicting | retrying => cases hevicts
  | tallying ingress frame queued dropped =>
    cases queued with
    | true => cases hsignal
    | false => cases dropped <;> exact ⟨rfl, by simp [pushStep, PushStage.evicts], .inl rfl⟩
  | settled ingress =>
    refine ⟨?_, by simp [pushStep], .inl ?_⟩
    all_goals cases ingress <;> rfl

lemma signalOne_to_armed (hfd : d.hasFd = true) (hwaiting : d.waitingReaders = 0) :
    d.signalOne.hasFd = true ∧ d.signalOne.waitingReaders = 0 ∧
      (0 < d.signalOne.tokens ∨
        d.armedReader = false ∧ d.signalOne.tokens = d.tokens ∧
          d.signalOne.armedReader = false) := by
  unfold DeliveryQueue.signalOne
  rw [if_neg (by simp [hwaiting])]
  cases harmed : d.armedReader with
  | true =>
    obtain ⟨hfd', hwaiting', hpos, -⟩ :=
      DeliveryQueue.writeTokens_one (d := { d with armedReader := false }) hfd
    exact ⟨hfd', hwaiting'.trans hwaiting, .inl hpos⟩
  | false => exact ⟨hfd, hwaiting, .inr ⟨rfl, rfl, harmed⟩⟩

lemma pushStep_signals (hfd : d.hasFd = true) (hwaiting : d.waitingReaders = 0)
    (hsignal : stage.unsignalled = true) :
    (pushStep d stage).1.hasFd = true ∧ (pushStep d stage).1.waitingReaders = 0 ∧
      (pushStep d stage).1.policy = d.policy ∧ (pushStep d stage).1.queue = d.queue ∧
      (pushStep d stage).1.terminal = d.terminal ∧
      (∀ next ∈ (pushStep d stage).2.1, next.evicts = false) ∧
      (0 < (pushStep d stage).1.tokens ∨
        d.armedReader = false ∧ (pushStep d stage).1.tokens = d.tokens ∧
          (pushStep d stage).1.armedReader = false) := by
  cases stage with
  | tallying ingress frame queued dropped =>
    obtain rfl : queued = true := hsignal
    have hledger := d.ledger_settlePush true dropped
    have hsame : (d.settlePush true dropped).hasFd = true ∧
        (d.settlePush true dropped).waitingReaders = 0 ∧
        (0 < (d.settlePush true dropped).tokens ∨
          d.armedReader = false ∧ (d.settlePush true dropped).tokens = d.tokens ∧
            (d.settlePush true dropped).armedReader = false) := by
      cases dropped <;> exact signalOne_to_armed hfd hwaiting
    obtain ⟨hfd', hwaiting', hwakes⟩ := hsame
    exact ⟨hfd', hwaiting', congrArg DeliveryQueue.Ledger.policy hledger,
      congrArg DeliveryQueue.Ledger.queue hledger, congrArg DeliveryQueue.Ledger.terminal hledger,
      by simp [pushStep, PushStage.evicts], hwakes⟩
  | _ => cases hsignal

end DeliveryState

namespace Alert

variable {φ : Type} {d d' : DeliveryQueue φ} {pushing pushing' : List (PushStage φ)}
  {reader : ReaderStage} {last : Option ReadKind}

lemma quiet (h : Alert d pushing reader last) (halarm : d'.alarm = d.alarm)
    (hnewest : ∀ stage ∈ pushing', stage.evicts = false)
    (hqueue : d'.queue = d.queue ∨ ∃ stage ∈ pushing', stage.unsignalled = true)
    (hkept : ∀ stage ∈ pushing, stage.unsignalled = true → stage ∈ pushing') :
    Alert d' pushing' reader last := by
  have hfd : d'.hasFd = d.hasFd := congrArg DeliveryQueue.Alarm.hasFd halarm
  have htokens : d'.tokens = d.tokens := congrArg DeliveryQueue.Alarm.tokens halarm
  have hwaiting : d'.waitingReaders = d.waitingReaders :=
    congrArg DeliveryQueue.Alarm.waitingReaders halarm
  have harmed : d'.armedReader = d.armedReader := congrArg DeliveryQueue.Alarm.armedReader halarm
  have hterminal : d'.terminal = d.terminal := congrArg DeliveryQueue.Alarm.terminal halarm
  have hpolicy : d'.policy = d.policy := congrArg DeliveryQueue.Alarm.policy halarm
  constructor
  case hasFd => rw [hfd, h.hasFd]
  case waiting => rw [hwaiting, h.waiting]
  case policy => rw [hpolicy]; exact h.policy
  case newest => exact hnewest
  case covered =>
    intro hwatch
    rw [htokens]
    rcases hqueue with hsame | hpending
    · rw [hsame]
      rcases h.covered hwatch with htok | hempty | ⟨stage, hmem, hun⟩
      · exact .inl htok
      · exact .inr (.inl hempty)
      · exact .inr (.inr ⟨stage, hkept stage hmem hun, hun⟩)
    · exact .inr (.inr hpending)
  case armed =>
    rw [htokens, harmed]
    exact h.armed
  case ended =>
    rw [htokens, hterminal]
    exact h.ended

/-- A signal while a reader that has found the queue empty is armed, or has nothing to miss. -/
lemma signals (h : Alert d pushing reader last) (hfd : d'.hasFd = true)
    (hwaiting : d'.waitingReaders = 0) (hpolicy : d'.policy = d.policy)
    (hqueue : d'.queue = d.queue) (hterminal : d'.terminal = d.terminal)
    (hnewest : ∀ stage ∈ pushing', stage.evicts = false)
    (hwakes : 0 < d'.tokens ∨
      d.armedReader = false ∧ d'.tokens = d.tokens ∧ d'.armedReader = false)
    (hmeets : reader.between = true → d.queue.items ≠ [] → d.armedReader = true) :
    Alert d' pushing' reader last := by
  rcases hwakes with hpos | ⟨hunarmed, htokens, hunarmed'⟩
  · exact ⟨hfd, hwaiting, hpolicy ▸ h.policy, hnewest, fun _ => .inl hpos, fun _ _ => .inl hpos,
      fun _ _ => hpos⟩
  · constructor
    case hasFd => exact hfd
    case waiting => exact hwaiting
    case policy => rw [hpolicy]; exact h.policy
    case newest => exact hnewest
    case covered =>
      intro hwatch
      rw [htokens, hqueue]
      cases hbetween : reader.between with
      | true =>
        right
        left
        by_contra hne
        rw [hmeets hbetween hne] at hunarmed
        cases hunarmed
      | false =>
        have hlast : last = some .empty := by simpa [hbetween] using hwatch
        rcases h.armed hlast hbetween with htok | harmed
        · exact .inl htok
        · rw [harmed] at hunarmed
          cases hunarmed
    case armed =>
      intro hlast hbetween
      rcases h.armed hlast hbetween with htok | harmed
      · exact .inl (htokens ▸ htok)
      · rw [harmed] at hunarmed
        cases hunarmed
    case ended =>
      rw [htokens, hterminal]
      exact h.ended

lemma publish (h : Alert d pushing reader last) (e : Ending) :
    Alert (d.publishTerminal e) pushing reader last := by
  obtain ⟨hfd, hwaiting, hpos⟩ :=
    DeliveryQueue.publishTerminal_wakes h.hasFd (by rw [h.waiting]; omega) e
  have hpolicy := congrArg DeliveryQueue.Ledger.policy (d.ledger_publishTerminal e)
  refine ⟨hfd, hwaiting, ?_, h.newest, fun _ => .inl hpos, fun _ _ => .inl hpos, fun _ _ => hpos⟩
  intro holdest
  exact h.policy (hpolicy.symm.trans holdest)

lemma told (h : Alert d pushing reader last) (hfd : d'.hasFd = true)
    (hwaiting : d'.waitingReaders = 0) (hpolicy : d'.policy = d.policy) {kind : ReadKind}
    (hkind : kind ≠ .empty) : Alert d' pushing .idle (some kind) := by
  have hnot : some kind ≠ some .empty := fun heq => hkind (Option.some.inj heq)
  refine ⟨hfd, hwaiting, hpolicy ▸ h.policy, h.newest, ?_, ?_, ?_⟩
  · rintro (heq | hbetween)
    · exact absurd heq hnot
    · cases hbetween
  · intro heq
    exact absurd heq hnot
  · rintro - (heq | hunset)
    · exact absurd heq hnot
    · cases hunset

end Alert

namespace ArmState

variable {φ : Type} [DecidableEq φ] {s s' : ArmState φ} {es : List (DeliveryEvent φ)}

/-- The reader can rely on the state. -/
def Keeps (s : ArmState φ) : Prop :=
  Alert s.calls.delivery s.calls.pushing s.reader s.last

lemma advance_keeps {stage : PushStage φ} (h : s.Keeps)
    (hmeets : signalsArmed s (.call (.advance stage))) (hmem : stage ∈ s.calls.pushing) :
    Alert (DeliveryState.pushStep s.calls.delivery stage).1
      ((DeliveryState.pushStep s.calls.delivery stage).2.1.toList ++ s.calls.pushing.erase stage)
      s.reader s.last := by
  have hnewest : (∀ next ∈ (DeliveryState.pushStep s.calls.delivery stage).2.1,
        next.evicts = false) →
      ∀ other ∈ (DeliveryState.pushStep s.calls.delivery stage).2.1.toList ++
        s.calls.pushing.erase stage, other.evicts = false := by
    intro hnext other hother
    rcases List.mem_append.mp hother with hin | hin
    · exact hnext other (Option.mem_toList.mp hin)
    · exact h.newest other (List.mem_of_mem_erase hin)
  cases hsignal : stage.unsignalled with
  | true =>
    obtain ⟨hfd, hwaiting, hpolicy, hqueue, hterminal, hnext, hwakes⟩ :=
      DeliveryState.pushStep_signals h.hasFd h.waiting hsignal
    exact h.signals hfd hwaiting hpolicy hqueue hterminal (hnewest hnext) hwakes (hmeets hsignal)
  | false =>
    obtain ⟨halarm, hnext, hqueue⟩ :=
      DeliveryState.pushStep_quiet h.policy (h.newest stage hmem) hsignal
    refine h.quiet halarm (hnewest hnext) ?_ fun other hother hun => ?_
    · rcases hqueue with hsame | ⟨next, hin, hun⟩
      · exact .inl hsame
      · exact .inr ⟨next, List.mem_append_left _ (Option.mem_toList.mpr hin), hun⟩
    · refine List.mem_append_right _ ((List.mem_erase_of_ne fun heq => ?_).mpr hother)
      rw [heq, hsignal] at hun
      cases hun

lemma call_keeps {input : DeliveryInput φ} (h : s.Keeps) (hmeets : signalsArmed s (.call input))
    (hs : s.step (.call input) = some (s', es)) : s'.Keeps := by
  obtain ⟨hproduces, hs⟩ := Option.ite_none_right_eq_some.mp hs
  obtain ⟨⟨calls, events⟩, hcall, rfl, -⟩ := of_mapped hs
  unfold Keeps
  cases input with
  | push ingress =>
    cases hcall
    refine Alert.quiet h ?_ ?_ (.inl ?_) fun stage hmem _ => List.mem_cons_of_mem _ hmem
    · cases ingress <;> rfl
    · intro stage hmem
      rcases List.mem_cons.mp hmem with rfl | hold
      · rfl
      · exact h.newest stage hold
    · cases ingress <;> rfl
  | advance =>
    obtain ⟨hmem, rfl, -⟩ := of_guard hcall
    exact advance_keeps h hmeets hmem
  | retire =>
    cases hcall
    exact Alert.quiet h rfl h.newest (.inl rfl) fun _ hmem _ => hmem
  | terminate =>
    simp only [DeliveryState.step] at hcall
    split at hcall
    case h_1 => cases hcall
    case h_2 =>
      split at hcall
      case h_1 =>
        cases hcall
        exact h
      case h_2 stopped hstop =>
        cases hcall
        simp only [DeliveryQueue.stopAccepting, Option.ite_none_left_eq_some] at hstop
        obtain rfl := Option.some.inj hstop.2
        exact Alert.quiet h rfl h.newest (.inl rfl) fun _ hmem _ => hmem
  | publish =>
    simp only [DeliveryState.step] at hcall
    split at hcall
    case h_1 => cases hcall
    case h_2 call _ =>
      obtain ⟨-, rfl, -⟩ := of_guard hcall
      exact Alert.publish h call.ending
  | look | pop | stall | lookAgain | wake => cases hproduces

lemma readKind_ne_empty {t : Terminal} (h : t ≠ .none) : readKind t ≠ .empty := by
  cases t <;> simp_all [readKind]

lemma step_keeps {i : ArmInput φ} (h : s.Keeps) (hmeets : signalsArmed s i)
    (hs : s.step i = some (s', es)) : s'.Keeps := by
  cases i with
  | call => exact call_keeps h hmeets hs
  | start =>
    obtain ⟨⟨hidle, -⟩, hs⟩ := Option.ite_none_right_eq_some.mp hs
    split at hs
    case h_1 result hlook =>
      cases hs
      simp only [DeliveryQueue.firstLook, Option.ite_none_right_eq_some] at hlook
      obtain ⟨hset, heq⟩ := hlook
      cases heq
      exact Alert.told h h.hasFd h.waiting rfl (readKind_ne_empty hset.1)
    case h_2 =>
      cases hs
      have hsame := h
      unfold Keeps at hsame ⊢
      rw [hidle] at hsame
      exact ⟨h.hasFd, h.waiting, h.policy, h.newest, hsame.covered, hsame.armed,
        by simpa using hsame.ended⟩
  | pop =>
    obtain ⟨hlooked, hs⟩ := Option.ite_none_right_eq_some.mp hs
    split at hs
    case h_1 taken htake =>
      cases hs
      obtain ⟨hfd, hwaiting, hpolicy⟩ := DeliveryQueue.takeOne_parts htake
      exact Alert.told h (hfd.trans h.hasFd) (hwaiting.trans h.waiting) hpolicy (by simp)
    case h_2 htake =>
      cases hs
      have hempty := DeliveryQueue.takeOne_eq_none.mp htake
      have hsame := h
      unfold Keeps at hsame ⊢
      rw [hlooked] at hsame
      exact ⟨h.hasFd, h.waiting, h.policy, h.newest, fun _ => .inr (.inl hempty),
        (fun _ h => by cases h), by simpa using hsame.ended⟩
  | lookAgain =>
    obtain ⟨hemptied, hs⟩ := Option.ite_none_right_eq_some.mp hs
    split at hs
    case h_1 result hlook =>
      cases hs
      simp only [DeliveryQueue.secondLook, Option.ite_none_right_eq_some] at hlook
      obtain ⟨hset, heq⟩ := hlook
      cases heq
      exact Alert.told h h.hasFd h.waiting rfl (readKind_ne_empty hset)
    case h_2 hlook =>
      cases hs
      have hnone : s.calls.delivery.terminal = .none := by
        simpa [DeliveryQueue.secondLook] using hlook
      have hcovered := h.covered (.inr (by rw [hemptied]; rfl))
      exact ⟨h.hasFd, h.waiting, h.policy, h.newest, fun _ => hcovered,
        (fun _ h => by cases h), fun hset => absurd hnone hset⟩
  | arm =>
    obtain ⟨hunset, rfl, -⟩ := of_guard hs
    have hcovered := h.covered (.inr (by rw [hunset]; rfl))
    exact ⟨h.hasFd, h.waiting, h.policy, h.newest, fun _ => hcovered, fun _ _ => .inr rfl,
      fun hset _ => h.ended hset (.inr hunset)⟩

end ArmState

/-- As long as no frame is signalled to a reader that has found the queue empty and is not armed, a
reader that was told so has its descriptor readable when there is something to read. -/
theorem armed_reader_signalled {φ : Type} [DecidableEq φ] {capacity : ℕ}
    {trace : List (DeliveryEvent φ)} {s : ArmState φ}
    (h : (armMachine φ).Reaches signalsArmed (.create capacity) trace s)
    (hlast : s.last = some .empty) (hpushing : s.calls.pushing = [])
    (hready : s.calls.delivery.queue.items ≠ [] ∨ s.calls.delivery.terminal ≠ .none) :
    0 < s.calls.delivery.tokens := by
  have hkeeps : s.Keeps := by
    refine h.invariant ArmState.Keeps ?_ fun s i s' es hkeeps hmeets hs =>
      ArmState.step_keeps hkeeps hmeets hs
    exact ⟨rfl, rfl, (fun h => by cases h), (fun _ h => by cases h),
      fun _ => .inr (.inl rfl), (fun h => by cases h), fun hset => absurd rfl hset⟩
  rcases hready with hne | hset
  · rcases hkeeps.covered (.inl hlast) with hpos | hempty | ⟨stage, hmem, -⟩
    · exact hpos
    · exact absurd hempty hne
    · rw [hpushing] at hmem
      cases hmem
  · exact hkeeps.ended hset (.inl hlast)

instance {φ : Type} [DecidableEq φ] (s : ArmState φ) : ∀ i, Decidable (signalsArmed s i)
  | .call (.advance stage) => inferInstanceAs (Decidable (stage.unsignalled = true →
      s.reader.between = true → s.calls.delivery.queue.items ≠ [] →
        s.calls.delivery.armedReader = true))
  | .call (.push ..) | .call (.retire _) | .call (.terminate _) | .call .publish | .call .look
  | .call .pop | .call .stall | .call (.lookAgain _) | .call (.wake _)
  | .start | .pop | .lookAgain | .arm => inferInstanceAs (Decidable True)

open ArmInput in
theorem armed_reader_signalled_sample : ∃ trace s,
    ((armMachine ℕ).Reaches signalsArmed (.create 2) trace s ∧ s.last = some .empty ∧
      s.calls.pushing = [] ∧ s.calls.delivery.queue.items = [7]) ∧
    0 < s.calls.delivery.tokens := by
  obtain ⟨trace, s, hreach, hlast, hpushing, hitems⟩ := (armMachine ℕ).exists_of_run signalsArmed
    (.create 2) ([start, pop, lookAgain, arm] ++ (pushSteps 7).map call)
    (P := fun s _ => s.last = some .empty ∧ s.calls.pushing = [] ∧
      s.calls.delivery.queue.items = [7]) (by decide +kernel)
  exact ⟨trace, s, ⟨hreach, hlast, hpushing, hitems⟩,
    armed_reader_signalled hreach hlast hpushing (.inl (by rw [hitems]; simp))⟩

open ArmInput in
/-- A frame is pushed and signalled after the reader has found the queue empty and before it is
armed: nobody is there to take the signal, and the reader goes to sleep over the frame. -/
theorem armed_reader_misses : ∃ trace s,
    (armMachine ℕ).Reaches anyStep (.create 2) trace s ∧ s.last = some .empty ∧
    s.calls.pushing = [] ∧ s.calls.delivery.queue.items = [7] ∧ s.calls.delivery.tokens = 0 :=
  (armMachine ℕ).exists_of_run anyStep (.create 2)
    ([start, pop] ++ (pushSteps 7).map call ++ [lookAgain, arm]) (by decide +kernel)

end TangoBulk
