import TangoBulk.SubscriptionGrants

/-! The order in which the threads of a subscription make, retire and empty: every ingress is
retired before the queue is discarded for a new attempt to connect. -/
namespace TangoBulk

open Transition

def ControlEvent.ingressCall : ControlEvent → Option IngressCall
  | .ingress call => some call
  | _ => none

/-- The calls among the events of a step, in order. -/
def ingressCalls (events : List ControlEvent) : List IngressCall :=
  events.filterMap ControlEvent.ingressCall

/-- Whether there is a current ingress after these calls, if there was one before; `none` if
`reconnect` discards while there is one. -/
def followCalls : Bool → List IngressCall → Option Bool
  | held, [] => some held
  | _, .make :: calls => followCalls true calls
  | _, .retire :: calls => followCalls false calls
  | held, .discard false :: calls => followCalls held calls
  | held, .discard true :: calls => if held then none else followCalls held calls

/-- The calls are in order, and `known` covers the ingress they leave. -/
def Follows (held : Bool) (calls : List IngressCall) (known : Bool) : Prop :=
  ∃ left, followCalls held calls = some left ∧ (left = true → known = true)

lemma Follows.quiet {held known : Bool} (h : held = true → known = true) :
    Follows held [] known := ⟨held, rfl, h⟩

lemma followCalls_mono {calls : List IngressCall} {held : Bool}
    (h : followCalls true calls = some held) :
    ∃ less, followCalls false calls = some less ∧ (less = true → held = true) := by
  induction calls with
  | nil =>
    cases h
    exact ⟨false, rfl, fun _ => rfl⟩
  | cons call calls ih =>
    cases call with
    | make | retire => exact ⟨held, h, id⟩
    | discard reconnecting =>
      cases reconnecting with
      | false => exact ih h
      | true => cases h

lemma Follows.mono {held less known : Bool} {calls : List IngressCall}
    (h : Follows held calls known) (hle : less = true → held = true) :
    Follows less calls known := by
  obtain ⟨left, hcalls, hleft⟩ := h
  cases held with
  | false =>
    have hless : less = false := Bool.eq_false_iff.mpr fun htrue => by cases hle htrue
    rw [hless]
    exact ⟨left, hcalls, hleft⟩
  | true =>
    cases less with
    | true => exact ⟨left, hcalls, hleft⟩
    | false =>
      obtain ⟨fewer, hfewer, himp⟩ := followCalls_mono hcalls
      exact ⟨fewer, hfewer, fun h => hleft (himp h)⟩

/-- A call of `open_subscription` has an ingress before it has a transport. -/
def ControlStage.opensIngress : ControlStage → Bool
  | .opening _ .build | .opening _ .ask | .opening _ (.openCall _) | .opening _ .activate => true
  | _ => false

/-- There may be a current ingress. -/
def holdsIngress (stage : ControlStage) (m : SessionMemory) : Bool :=
  stage.opensIngress || m.transport

namespace ControlView

variable {v : ControlView} {caller : OpenCaller} {i : ControlInput} {r : ControlResult}
  {held : Bool}

/-- The calls of a step are in order, and the next stage knows of the ingress they leave. -/
def Leads (held : Bool) (r : ControlResult) : Prop :=
  Follows held (ingressCalls r.events) (holdsIngress r.next r.memory)

lemma Leads.quiet (hevents : ingressCalls r.events = [])
    (hnext : held = true → holdsIngress r.next r.memory = true) : Leads held r :=
  ⟨held, by rw [hevents]; rfl, hnext⟩

lemma Leads.keeps (hevents : ingressCalls r.events = [])
    (hnext : held = true → r.memory.transport = true) : Leads held r := by
  refine Leads.quiet hevents fun hheld => ?_
  rw [holdsIngress, hnext hheld, Bool.or_true]

lemma Leads.retires {calls : List IngressCall} (hevents : ingressCalls r.events = .retire :: calls)
    (hcalls : followCalls false calls = some false) : Leads held r := by
  refine ⟨false, ?_, nofun⟩
  rw [hevents]
  exact hcalls

lemma failOpen_leads {memory : SessionMemory} {events : List ControlEvent} {error : BulkError}
    (hevents : ingressCalls events = []) : Leads held (failOpen memory events caller error) := by
  have hcalls : ingressCalls (failOpen memory events caller error).events = [.retire] := by
    rw [failOpen, ingressCalls, List.filterMap_append, ← ingressCalls, hevents]
    rfl
  exact Leads.retires hcalls rfl

lemma closeSession_leads {m : SessionMemory} {rest : List ControlEvent} (discardQueued : Bool)
    (hevents : r.events = (m.closeSession discardQueued).2 ++ rest)
    (hrest : ingressCalls rest = []) : Leads m.transport r := by
  have hcalls : ingressCalls r.events = ingressCalls (m.closeSession discardQueued).2 := by
    rw [hevents, ingressCalls, List.filterMap_append, ← ingressCalls, ← ingressCalls, hrest,
      List.append_nil]
  cases htransport : m.transport with
  | true =>
    obtain ⟨request, -, heq⟩ := SessionMemory.closeSession_live htransport discardQueued
    rw [heq] at hcalls
    cases discardQueued with
    | true | false => exact Leads.retires hcalls rfl
  | false =>
    rw [SessionMemory.closeSession_idle htransport] at hcalls
    exact Leads.quiet hcalls nofun

lemma openStep_leads {stage : OpenStage} (hr : v.openStep caller stage i = some r)
    (h : Called v.config v.memory (.opening caller stage)) :
    Leads (holdsIngress (.opening caller stage) v.memory) r := by
  unfold openStep at hr
  split at hr <;> cases hr
  case h_1 => exact ⟨true, rfl, fun _ => rfl⟩
  case h_2 => exact failOpen_leads rfl
  case h_3 => exact Leads.quiet rfl fun _ => rfl
  case h_4 =>
    unfold ask
    dsimp only
    split
    · exact failOpen_leads rfl
    · exact Leads.quiet rfl fun _ => rfl
  case h_5 | h_6 => exact failOpen_leads rfl
  case h_7 =>
    unfold replied
    dsimp only
    split
    case h_1 => exact failOpen_leads rfl
    case h_2 candidate _ =>
      obtain ⟨request, -, heq⟩ := SessionMemory.handClose_eq _ candidate
      rw [heq]
      exact failOpen_leads rfl
    case h_3 => exact Leads.quiet rfl fun _ => rfl
  case h_8 failure =>
    cases failure with
    | some =>
      obtain ⟨request, -, heq⟩ := v.memory.handClose_eq v.memory.session
      unfold activated
      rw [heq]
      exact failOpen_leads rfl
    | none =>
      unfold activated
      simp only [SessionMemory.publishTransport, h.1]
      exact Leads.quiet rfl fun _ => rfl
  case h_9 => exact Leads.quiet rfl id
  case h_10 =>
    unfold probe
    dsimp only
    split_ifs <;> exact Leads.quiet rfl id
  case h_11 => exact closeSession_leads true rfl rfl
  case h_12 =>
    refine Leads.quiet rfl fun hheld => ?_
    cases caller <;> exact hheld

lemma factoryStep_leads {stage : FactoryStage} (hr : v.factoryStep stage i = some r) :
    Leads (holdsIngress (.factory stage) v.memory) r := by
  unfold factoryStep at hr
  split at hr <;> cases hr
  case h_2 =>
    unfold retry
    split_ifs <;> exact Leads.keeps rfl id
  case h_4 =>
    unfold retryBackoff
    dsimp only
    split_ifs <;> exact Leads.keeps rfl id
  case h_9 => exact closeSession_leads true (List.append_nil _).symm rfl
  all_goals exact Leads.keeps rfl id

lemma sessionStep_leads {stage : SessionStage} (hr : v.sessionStep stage i = some r) :
    Leads (holdsIngress (.session stage) v.memory) r := by
  unfold sessionStep at hr
  split at hr <;> first | (obtain rfl := Option.some.inj hr) | cases hr
  case h_4 =>
    unfold look
    split_ifs <;> exact Leads.keeps rfl id
  case h_5 =>
    unfold renew
    dsimp only
    split <;> exact Leads.keeps rfl id
  case h_8 => exact closeSession_leads false (List.append_nil _).symm rfl
  all_goals exact Leads.keeps rfl id

lemma reconnectStep_leads {stage : ReconnectStage} (hr : v.reconnectStep stage i = some r)
    (h : Called v.config v.memory (.reconnect stage)) :
    Leads (holdsIngress (.reconnect stage) v.memory) r := by
  unfold reconnectStep at hr
  split at hr <;> cases hr
  case h_4 =>
    unfold backoff
    split_ifs <;> exact Leads.keeps rfl id
  case h_5 =>
    have hnone : holdsIngress (.reconnect .woken) v.memory = false := h
    unfold backoffWoken
    split_ifs
    · rw [hnone]
      exact ⟨false, rfl, nofun⟩
    · exact Leads.keeps rfl id
  all_goals exact Leads.keeps rfl id

lemma leaveStep_leads {stage : LeaveStage} (hr : v.leaveStep stage i = some r) :
    Leads (holdsIngress (.leave stage) v.memory) r := by
  unfold leaveStep at hr
  split at hr <;> cases hr
  case h_2 => exact closeSession_leads true (List.append_nil _).symm rfl
  all_goals exact Leads.keeps rfl id

lemma program_leads {stage : ControlStage} (hr : v.program i stage = some r)
    (h : Called v.config v.memory stage) : Leads (holdsIngress stage v.memory) r := by
  cases stage with
  | factory => exact factoryStep_leads hr
  | opening => exact openStep_leads hr h
  | session => exact sessionStep_leads hr
  | reconnect => exact reconnectStep_leads hr h
  | leave => exact leaveStep_leads hr

end ControlView

namespace SubscriptionState

variable {config : SubscriberConfig} {s s' : SubscriptionState} {events : List ControlEvent}

/-- There may be a current ingress. -/
def holdsIngress (s : SubscriptionState) : Bool := TangoBulk.holdsIngress s.control s.memory

/-- Every step makes its calls in order. -/
lemma step_leads {i : SubscriptionInput} (h : s.Tracked config)
    (hs : s.step i = some (s', events)) :
    Follows s.holdsIngress (ingressCalls events) s'.holdsIngress := by
  have hquiet : events = [] → s'.control = s.control → s'.memory = s.memory →
      Follows s.holdsIngress (ingressCalls events) s'.holdsIngress := by
    rintro rfl hcontrol hmemory
    refine Follows.quiet fun hheld => ?_
    rw [holdsIngress, hcontrol, hmemory]
    exact hheld
  cases i with
  | control =>
    obtain ⟨r, -, hr, rfl, rfl⟩ := controlStep_moves hs
    obtain ⟨-, rfl, hcalled⟩ := h
    obtain ⟨left, hcalls, hleft⟩ := ControlView.program_leads hr hcalled
    obtain ⟨-, hmemory, hcontrol⟩ :=
      apply_view { s with control := r.next, memory := r.memory } r.effect
    refine ⟨left, hcalls, fun hheld => ?_⟩
    rw [holdsIngress, hmemory, hcontrol]
    exact hleft hheld
  | dispatch =>
    obtain ⟨hnext, rfl⟩ := of_map_eq hs
    obtain ⟨-, hmemory, hcontrol⟩ := (dispatches hnext).view
    exact hquiet rfl hcontrol hmemory
  | close =>
    have hcloses := closeStep_closes hs
    obtain ⟨hsame, hnone⟩ | ⟨hfinished, hclosed⟩ := hcloses.session h.joined
    · exact hquiet hnone hcloses.control hsame
    · have hmemory : (s.memory.closeSession true).2 = events := congrArg Prod.snd hclosed
      have hheld : s.holdsIngress = s.memory.transport := by
        rw [holdsIngress, hfinished]
        rfl
      rw [hheld]
      exact ControlView.closeSession_leads
        (r := { next := s'.control, memory := s'.memory, events }) true
        (by rw [hmemory, List.append_nil]) rfl
  | interrupt =>
    obtain ⟨hnext, rfl⟩ := of_map_eq hs
    have hcall := interruptStep_interrupts hnext
    exact hquiet rfl hcall.control hcall.memory

end SubscriptionState

end TangoBulk
