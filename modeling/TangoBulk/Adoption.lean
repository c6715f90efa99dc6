import TangoBulk.ProtocolRoundTrip
import TangoBulk.SubscriberSafety
import TangoBulk.Subscription

/-! When a client adopts the reply to its Open, and what the ring of the transport that is
activated for it looks like. -/
namespace TangoBulk

open ByteString Transition

/-- The session a reply describes. -/
def ClientSession.ofReply (reply : OpenReply) : ClientSession where
  sessionId := reply.sessionId
  streamId := reply.streamId
  serverAddress := reply.serverUcxAddress
  granted := reply.geometry
  leaseTtlMs := reply.leaseTtlMs
  renewIntervalMs := reply.renewIntervalMs

/-- The bytes are a reply that grants the client a session it can hold. -/
structure Granting (data : Bytes) (config : SubscriberConfig) (correlationId : UInt64)
    (reply : OpenReply) : Prop where
  decoded : ∃ envelope, decodeOpenReply data = .ok (reply, envelope) ∧
    envelope.correlationId = correlationId
  accepted : reply.status = .ok
  valid : reply.geometry.validate = .ok
  within : reply.geometry.maxFrameBytes ≤ config.maxFrameBytes ∧
    reply.geometry.ringDepth ≤ config.ringDepth ∧
    reply.geometry.creditWindow ≤ config.creditWindow

/-- The bytes are an Error that reports no error. -/
def ErrorWithoutError (data : Bytes) (correlationId : UInt64) : Prop :=
  ∃ message envelope, decodeError data = .ok (message, envelope) ∧
    envelope.correlationId = correlationId ∧ message.status = .ok

namespace ClientSession

variable {data : Bytes} {config : SubscriberConfig} {correlationId : UInt64}

lemma exceeds_eq_false {granted : GeometryBlock} :
    exceeds granted config = false ↔ granted.maxFrameBytes ≤ config.maxFrameBytes ∧
      granted.ringDepth ≤ config.ringDepth ∧ granted.creditWindow ≤ config.creditWindow := by
  simp only [exceeds, decide_eq_false_iff_not, not_or, UInt64.not_lt, UInt32.not_lt]

lemma adoptReply_cases (s : ClientSession) (reply : OpenReply) (config : SubscriberConfig) :
    (s.adoptReply reply config = (.ok, ofReply reply) ∧ reply.status = .ok ∧
      reply.geometry.validate = .ok ∧ exceeds reply.geometry config = false) ∨
    ((s.adoptReply reply config).1 ≠ .ok ∧ (s.adoptReply reply config).2 = s ∧
      ¬ (reply.status = .ok ∧ reply.geometry.validate = .ok ∧
        exceeds reply.geometry config = false)) := by
  unfold adoptReply
  split_ifs with hstatus hvalid hexceeds
  · exact .inr ⟨hstatus, rfl, fun h => hstatus h.1⟩
  · exact .inr ⟨by simp, rfl, fun h => hvalid h.2.1⟩
  · exact .inr ⟨by simp, rfl, fun h => by simp [h.2.2] at hexceeds⟩
  · exact .inl ⟨rfl, not_not.mp hstatus, not_not.mp hvalid, by simpa using hexceeds⟩

/-- The three things that can come of a reply. -/
lemma adoptOpenReply_cases (s : ClientSession) (data : Bytes) (config : SubscriberConfig)
    (correlationId : UInt64) :
    (∃ reply, Granting data config correlationId reply ∧
      s.adoptOpenReply data config correlationId = (.ok, ofReply reply)) ∨
    (ErrorWithoutError data correlationId ∧
      s.adoptOpenReply data config correlationId = (.ok, s)) ∨
    ((s.adoptOpenReply data config correlationId).1 ≠ .ok ∧
      (s.adoptOpenReply data config correlationId).2 = s) := by
  unfold adoptOpenReply
  cases henvelope : decodeEnvelope data with
  | error e => exact .inr (.inr ⟨by simp, rfl⟩)
  | ok envelope =>
    dsimp only
    split_ifs with hcorrelation htype
    · exact .inr (.inr ⟨by simp, rfl⟩)
    · cases herror : decodeError data with
      | error e => exact .inr (.inr ⟨by simp, rfl⟩)
      | ok decoded =>
        obtain ⟨message, envelope'⟩ := decoded
        have hsame := (decodeError_envelope herror).1
        obtain rfl : envelope = envelope' := Except.ok.inj (henvelope.symm.trans hsame)
        by_cases hok : message.status = .ok
        · exact .inr (.inl ⟨⟨message, envelope, herror, not_not.mp hcorrelation, hok⟩, by
            dsimp only
            rw [hok]⟩)
        · exact .inr (.inr ⟨hok, rfl⟩)
    · cases hreply : decodeOpenReply data with
      | error e => exact .inr (.inr ⟨by simp, rfl⟩)
      | ok decoded =>
        obtain ⟨reply, envelope'⟩ := decoded
        have hsame := (decodeOpenReply_envelope hreply).1
        obtain rfl : envelope = envelope' := Except.ok.inj (henvelope.symm.trans hsame)
        obtain ⟨hadopt, hstatus, hvalid, hwithin⟩ | ⟨hne, hkept, -⟩ :=
          adoptReply_cases s reply config
        · exact .inl ⟨reply, ⟨⟨envelope, hreply, not_not.mp hcorrelation⟩, hstatus, hvalid,
            exceeds_eq_false.mp hwithin⟩, hadopt⟩
        · exact .inr (.inr ⟨hne, hkept⟩)

lemma adoptOpenReply_granting (s : ClientSession) {reply : OpenReply}
    (h : Granting data config correlationId reply) :
    s.adoptOpenReply data config correlationId = (.ok, ofReply reply) := by
  obtain ⟨envelope, hdecoded, hcorrelation⟩ := h.decoded
  obtain ⟨henvelope, htype⟩ := decodeOpenReply_envelope hdecoded
  unfold adoptOpenReply
  rw [henvelope]
  dsimp only
  rw [if_neg (not_not.mpr hcorrelation), if_neg (by simp [htype]), hdecoded]
  obtain ⟨hadopt, -⟩ | ⟨-, -, hnot⟩ := adoptReply_cases s reply config
  · exact hadopt
  · exact absurd ⟨h.accepted, h.valid, exceeds_eq_false.mpr h.within⟩ hnot

lemma adoptOpenReply_error (s : ClientSession) (h : ErrorWithoutError data correlationId) :
    s.adoptOpenReply data config correlationId = (.ok, s) := by
  obtain ⟨message, envelope, hdecoded, hcorrelation, hok⟩ := h
  obtain ⟨henvelope, htype⟩ := decodeError_envelope hdecoded
  unfold adoptOpenReply
  rw [henvelope]
  dsimp only
  rw [if_neg (not_not.mpr hcorrelation), if_pos htype, hdecoded]
  dsimp only
  rw [hok]

lemma not_granting_of_error {reply : OpenReply} (h : ErrorWithoutError data correlationId) :
    ¬ Granting data config correlationId reply := by
  intro hg
  obtain ⟨message, envelope, herror, -⟩ := h
  obtain ⟨envelope', hreply, -⟩ := hg.decoded
  obtain ⟨henvelope, htype⟩ := decodeError_envelope herror
  obtain ⟨henvelope', htype'⟩ := decodeOpenReply_envelope hreply
  obtain rfl : envelope = envelope' := Except.ok.inj (henvelope.symm.trans henvelope')
  rw [htype] at htype'
  cases htype'

end ClientSession

/-- `activate`: the engine starts if the transport makes an endpoint to the server's address,
which it does not even try for one that is empty or oversize. -/
def SubscriberEngine.activateFor (config : SubscriberConfig) (session : ClientSession)
    (connected : Bool) : Option SubscriberEngine :=
  if session.serverAddress = [] ∨ kMaxUcxAddressBytes < session.serverAddress.length ∨ !connected then
    none
  else
    some (.activate config.ringDepth.toNat config.maxFrameBytes.toNat config.receiveMemoryKind
      session.streamId session.granted)

variable {session : ClientSession} {engine : SubscriberEngine}

lemma SubscriberEngine.activateFor_granted {config : SubscriberConfig} {connected : Bool}
    (h : activateFor config session connected = some engine) :
    engine.granted = session.granted ∧ session.serverAddress ≠ [] := by
  unfold activateFor at h
  split_ifs at h with hrefused
  cases h
  exact ⟨rfl, fun hempty => hrefused (.inl hempty)⟩

lemma SubscriberEngine.run_depth {e : SubscriberEngine} {trace : List SubscriberEvent}
    (h : subscriberMachine.Reaches anyStep engine trace e) : e.depth = engine.depth := by
  have hconfig : e.config = engine.config :=
    h.invariant (fun e => e.config = engine.config) rfl
      fun _ _ _ _ hI _ hstep => (subscriberStep_config hstep).trans hI
  have hgranted : e.granted = engine.granted := congrArg ReceiveConfig.granted hconfig
  rw [depth, hgranted]
  rfl

/-- Adoption of a reply is exact and all or nothing, and no transport is activated for it
that would divide by its ring depth. -/
structure AdoptsExactly (s : ClientSession) (config : SubscriberConfig) (correlationId : UInt64)
    (data : Bytes) : Prop where
  ok_iff : (s.adoptOpenReply data config correlationId).1 = .ok ↔
    ∃ reply, Granting data config correlationId reply
  adopted : ∀ reply, Granting data config correlationId reply →
    (s.adoptOpenReply data config correlationId).2 = .ofReply reply
  unchanged : (¬ ∃ reply, Granting data config correlationId reply) →
    (s.adoptOpenReply data config correlationId).2 = s
  activated : ∀ retiredGeometry session,
    readGrant config retiredGeometry correlationId data = .taken session →
    2 ≤ session.granted.ringDepth.toNat ∧
    ∀ connected engine, SubscriberEngine.activateFor config session connected = some engine →
      ∀ trace e, subscriberMachine.Reaches anyStep engine trace e → e.depth ≠ 0

lemma readGrant_taken {config : SubscriberConfig} {retiredGeometry : GeometryBlock}
    {correlationId : UInt64} {data : Bytes}
    (h : readGrant config retiredGeometry correlationId data = .taken session) :
    ClientSession.fresh.adoptOpenReply data config correlationId = (.ok, session) := by
  unfold readGrant at h
  dsimp only at h
  split_ifs at h with hstatus harray
  cases h
  exact Prod.ext (not_not.mp hstatus) rfl

lemma GeometryBlock.two_le_ringDepth {g : GeometryBlock} (h : g.validate = .ok) :
    2 ≤ g.ringDepth.toNat := by
  have hd := (GeometryBlock.validate_ok.mp h).2.2.2.1.1
  rwa [UInt32.le_iff_toNat_le] at hd

/-- Adoption is exact except on an Error message with status Ok. -/
theorem adoption_exact (s : ClientSession) (config : SubscriberConfig) (correlationId : UInt64)
    (data : Bytes) :
    AdoptsExactly s config correlationId data ↔ ¬ ErrorWithoutError data correlationId := by
  constructor
  · intro h herror
    have hok : (s.adoptOpenReply data config correlationId).1 = .ok := by
      rw [ClientSession.adoptOpenReply_error s herror]
    obtain ⟨reply, hg⟩ := h.ok_iff.mp hok
    exact ClientSession.not_granting_of_error herror hg
  · intro herror
    have hcases : ∀ s : ClientSession, (∃ reply, Granting data config correlationId reply ∧
          s.adoptOpenReply data config correlationId = (.ok, .ofReply reply)) ∨
        ((s.adoptOpenReply data config correlationId).1 ≠ .ok ∧
          (s.adoptOpenReply data config correlationId).2 = s) := by
      intro s
      obtain hg | ⟨he, -⟩ | hr := s.adoptOpenReply_cases data config correlationId
      · exact .inl hg
      · exact absurd he herror
      · exact .inr hr
    refine ⟨⟨fun hok => ?_, fun ⟨reply, hg⟩ => ?_⟩, fun reply hg => ?_, fun hnone => ?_,
      fun retiredGeometry session htaken => ?_⟩
    · obtain ⟨reply, hg, -⟩ | ⟨hne, -⟩ := hcases s
      · exact ⟨reply, hg⟩
      · exact absurd hok hne
    · rw [ClientSession.adoptOpenReply_granting s hg]
    · rw [ClientSession.adoptOpenReply_granting s hg]
    · obtain ⟨reply, hg, -⟩ | ⟨-, hkept⟩ := hcases s
      · exact absurd ⟨reply, hg⟩ hnone
      · exact hkept
    · have hadopted := readGrant_taken htaken
      have hdepth : 2 ≤ session.granted.ringDepth.toNat := by
        obtain ⟨reply, hg, heq⟩ | ⟨hne, -⟩ := hcases .fresh
        · obtain rfl : session = .ofReply reply := congrArg Prod.snd (hadopted.symm.trans heq)
          exact GeometryBlock.two_le_ringDepth hg.valid
        · exact absurd (congrArg Prod.fst hadopted) hne
      refine ⟨hdepth, fun connected engine hactivate trace e hreach => ?_⟩
      have hgranted := (SubscriberEngine.activateFor_granted hactivate).1
      rw [SubscriberEngine.run_depth hreach, SubscriberEngine.depth, hgranted]
      omega

/-- A refusal with a reason is read as one. -/
theorem adoption_exact_sample :
    ∃ data, encodeError { status := .tooManySessions, message := [] } 1 = .ok data ∧
      AdoptsExactly .fresh { streamName := [97] } 1 data := by
  obtain ⟨data, hdata⟩ : ∃ data,
      encodeError { status := .tooManySessions, message := [] } 1 = .ok data := ⟨_, rfl⟩
  refine ⟨data, hdata, (adoption_exact _ _ _ _).mpr ?_⟩
  rintro ⟨message, envelope, hdecoded, -, hok⟩
  have hstatus : (decodeError data).toOption.map (fun d => d.1.status) =
      some .tooManySessions := by
    cases hdata
    decide +kernel
  rw [hdecoded] at hstatus
  have hsame : message.status = .tooManySessions := Option.some.inj hstatus
  rw [hok] at hsame
  cases hsame

/-- An Error message with status Ok: the reply is adopted although it grants nothing, and the
session handed to `activate` has a ring of depth zero. -/
theorem error_without_error_adopted :
    ∃ data, encodeError { status := .ok, message := [] } 1 = .ok data ∧
      ClientSession.fresh.adoptOpenReply data { streamName := [97] } 1 = (.ok, .fresh) ∧
      (∀ reply, ¬ Granting data { streamName := [97] } 1 reply) ∧
      readGrant { streamName := [97] } .unarmed 1 data = .taken .fresh ∧
      ClientSession.fresh.granted.ringDepth = 0 := by
  obtain ⟨data, hdata⟩ : ∃ data,
      encodeError { status := .ok, message := [] } 1 = .ok data := ⟨_, rfl⟩
  have herror : ErrorWithoutError data 1 := by
    have hsome : ((decodeError data).toOption.map fun d =>
        decide (d.2.correlationId = 1 ∧ d.1.status = .ok)) = some true := by
      cases hdata
      decide +kernel
    cases hd : decodeError data with
    | error =>
      rw [hd] at hsome
      cases hsome
    | ok decoded =>
      rw [hd] at hsome
      have hboth := of_decide_eq_true (Option.some.inj hsome)
      exact ⟨decoded.1, decoded.2, hd, hboth.1, hboth.2⟩
  have hadopt : ClientSession.fresh.adoptOpenReply data { streamName := [97] } 1 =
      (.ok, .fresh) := ClientSession.fresh.adoptOpenReply_error herror
  refine ⟨data, hdata, hadopt, fun reply => ClientSession.not_granting_of_error herror, ?_, rfl⟩
  unfold readGrant
  rw [hadopt]
  rfl

end TangoBulk
