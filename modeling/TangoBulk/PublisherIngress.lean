import TangoBulk.ProtocolRoundTrip
import TangoBulk.PublisherMachine

/-! The encoded coordination ingress: whatever bytes arrive, a reply leaves. The texts of the
errors are joined as bytes. -/
namespace TangoBulk

open ByteString

def CoordType.toString : CoordType → String
  | .open => "Open"
  | .openReply => "OpenReply"
  | .renew => "Renew"
  | .renewReply => "RenewReply"
  | .close => "Close"
  | .closeReply => "CloseReply"
  | .error => "Error"

/-- The status a decoder that stops returns; it never reads outside the message. -/
def Fault.toStatus : Fault → Status
  | .status s => s
  | .outOfRange _ | .overflow _ _ => .internal

inductive CoordinationRequest
  | open (request : OpenRequest)
  | renew (request : RenewRequest)
  | close (request : CloseRequest)

def CoordinationRequest.type : CoordinationRequest → CoordType
  | .open _ => .open
  | .renew _ => .renew
  | .close _ => .close

/-- What a handler throws. -/
inductive Thrown
  | bulk (error : BulkError)
  | standard (what : String)
  | unknown

/-- What the three `catch` clauses make of it. -/
def Thrown.message : Thrown → ErrorMessage
  | .bulk error => { status := error.status, message := textBytes error.message }
  | .standard what => { status := .internal, message := textBytes what }
  | .unknown => { status := .internal, message := textBytes "unknown coordination failure" }

/-- What a handler meets: the answer of the engine, the identifiers it draws, the clock, and an
exception of its surroundings (no memory, no lock) with the publisher as it then is. -/
structure HandlerWorld where
  connected : Bool
  drawn : Except (Publisher.DrawFailure × String) Publisher.Fresh
  now : ℕ
  thrown : Option (Thrown × Publisher) := none

/-- Zero is for inputs too short to hold the field. -/
def recoverCoordinationCorrelation (data : Bytes) : UInt64 :=
  if data.length < 16 + 8 then 0
  else
    match get64 data 16 with
    | .ok correlationId => correlationId
    | .error _ => 0

/-- An Error that cannot be encoded is no reply. -/
def encodeCoordinationError (status : Status) (message : Bytes) (correlationId : UInt64) : Bytes :=
  match encodeError { status, message } correlationId with
  | .ok data => data
  | .error _ => []

def Publisher.CoordinationReply.toMessage : Publisher.CoordinationReply → CoordMessage
  | .openReply msg => .openReply msg
  | .renewReply msg => .renewReply msg
  | .closeReply msg => .closeReply msg
  | .error msg => .error msg

def encodeCoordinationReply (reply : Publisher.CoordinationReply) (correlationId : UInt64) :
    Bytes :=
  match reply.toMessage.encode correlationId with
  | .ok data => data
  | .error _ =>
    encodeCoordinationError .internal (textBytes "could not encode coordination reply") correlationId

/-- The bytes for what a handler returned or threw. -/
def encodeOutcome (outcome : Except Thrown Publisher.CoordinationReply) (correlationId : UInt64) :
    Bytes :=
  match outcome with
  | .ok reply => encodeCoordinationReply reply correlationId
  | .error thrown =>
    encodeCoordinationError thrown.message.status thrown.message.message correlationId

/-- The decoder of a request type; the other types are replies. -/
def decodeRequest (data : Bytes) : CoordType → Option (Except Fault CoordinationRequest)
  | .open => some ((decodeOpen data).map fun r => .open r.1)
  | .renew => some ((decodeRenew data).map fun r => .renew r.1)
  | .close => some ((decodeClose data).map fun r => .close r.1)
  | _ => none

namespace Publisher

def handleCoordination (p : Publisher) (request : CoordinationRequest) (world : HandlerWorld) :
    Except Thrown CoordinationReply × Publisher :=
  match world.thrown with
  | some (thrown, left) => (.error thrown, left)
  | none =>
    match request with
    | .open request =>
      let handled := p.handleOpen request world.connected world.drawn
      (handled.1.mapError .bulk, handled.2)
    | .renew request =>
      let handled := p.handleRenew request world.now
      (.ok (.renewReply handled.1), handled.2)
    | .close request =>
      let handled := p.handleClose request
      (.ok (.closeReply handled.1), handled.2)

/-- A message that is no request is counted and answered. -/
def rejectMessage (p : Publisher) (status : Status) (message : Bytes) (correlationId : UInt64) :
    Bytes × Publisher :=
  (encodeCoordinationError status message correlationId, p.bump .malformedMessages 1)

def envelopeText (status : Status) : Bytes :=
  if status = .unsupportedVersion then textBytes "unsupported coordination protocol version"
  else textBytes "undecodable envelope"

def handleEncodedCoordination (p : Publisher) (data : Bytes) (expected : Option CoordType)
    (world : HandlerWorld) : Bytes × Publisher :=
  match decodeEnvelope data with
  | .error fault =>
    p.rejectMessage fault.toStatus (envelopeText fault.toStatus)
      (recoverCoordinationCorrelation data)
  | .ok envelope =>
    let name := textBytes envelope.msgType.toString
    if expected.any (envelope.msgType ≠ ·) then
      p.rejectMessage .malformedMessage
        (textBytes "this command carries " ++ (expected.elim [] fun t => textBytes t.toString) ++
          textBytes ", not " ++ name)
        envelope.correlationId
    else
      match decodeRequest data envelope.msgType with
      | none =>
        p.rejectMessage .malformedMessage
          (name ++ textBytes " is not a request a publisher answers") envelope.correlationId
      | some (.error fault) =>
        p.rejectMessage fault.toStatus (textBytes "undecodable " ++ name) envelope.correlationId
      | some (.ok request) =>
        let handled := p.handleCoordination request world
        (encodeOutcome handled.1 envelope.correlationId, handled.2)

end Publisher

/-! ### Texts without a zero byte -/

lemma coordType_text (type : CoordType) : 0 ∉ textBytes type.toString := by
  cases type <;> decide +kernel

lemma envelopeText_text (status : Status) : 0 ∉ Publisher.envelopeText status := by
  unfold Publisher.envelopeText
  split_ifs <;> decide +kernel

lemma screenOpen_text (p : Publisher) (request : OpenRequest) :
    (∀ e, p.screenOpen request = .throws e → 0 ∉ textBytes e.message) ∧
    ∀ m, p.screenOpen request = .refused m → 0 ∉ m.message := by
  unfold Publisher.screenOpen
  dsimp only
  split_ifs
  case neg => exact ⟨fun e h => (by cases h), fun m h => (by cases h)⟩
  all_goals
    refine ⟨fun e h => ?_, fun m h => ?_⟩ <;> cases h
    decide +kernel

lemma handleOpen_outcome (p : Publisher) (request : OpenRequest) (connected : Bool)
    {drawn : Except (Publisher.DrawFailure × String) Publisher.Fresh}
    (htext : ∀ failure what, drawn = .error (failure, what) →
      0 ∉ textBytes (Publisher.rngFailure what).message) :
    (∃ e, (p.handleOpen request connected drawn).1 = .error e ∧ 0 ∉ textBytes e.message) ∨
    (∃ m, (p.handleOpen request connected drawn).1 = .ok (.error m) ∧ 0 ∉ m.message) ∨
    ∃ reply, (p.handleOpen request connected drawn).1 = .ok (.openReply reply) := by
  obtain ⟨hthrows, hrefused⟩ := screenOpen_text p request
  unfold Publisher.handleOpen
  cases hscreen : p.screenOpen request with
  | throws e => exact .inl ⟨e, rfl, hthrows e hscreen⟩
  | refused m => exact .inr (.inl ⟨m, rfl, hrefused m hscreen⟩)
  | granted =>
    cases p.selectSeat with
    | none => exact .inr (.inl ⟨_, rfl, by decide +kernel⟩)
    | some =>
      split_ifs
      · exact .inl ⟨_, rfl, by decide +kernel⟩
      · cases drawn with
        | error failed => exact .inl ⟨_, rfl, htext failed.1 failed.2 rfl⟩
        | ok fresh => exact .inr (.inr ⟨_, rfl⟩)

/-! ### Replies that can be read -/

lemma decodeError_encodeError (msg : ErrorMessage) (hzero : 0 ∉ msg.message)
    (correlationId : UInt64) :
    ∃ data envelope, encodeError msg correlationId = .ok data ∧
      decodeError data =
        .ok ({ msg with message := msg.message.take kMaxErrorMessageBytes }, envelope) ∧
      envelope.correlationId = correlationId := by
  have hbounded : CoordMessage.Bounded
      (.error { msg with message := msg.message.take kMaxErrorMessageBytes }) :=
    ⟨fun hmem => hzero (List.mem_of_mem_take hmem), List.length_take_le _ _⟩
  obtain ⟨data, -, hmade⟩ := CoordMessage.encodes hbounded id correlationId
  have hdecode := decodeError_eq_ok.mpr
    ⟨_, openCoord_makeMessage hmade, CoordMessage.readFrom_made hbounded⟩
  exact ⟨data, _, hmade, hdecode, rfl⟩

/-- The bytes decode as a message of an allowed type with this correlation identifier. -/
def Replies (bytes : Bytes) (correlationId : UInt64) (allowed : CoordType → Prop) : Prop :=
  ∃ (m : CoordMessage) (envelope : Envelope),
    CoordMessage.decode bytes m.type = .ok (m, envelope) ∧
      envelope.correlationId = correlationId ∧ allowed m.type

lemma Replies.imp {bytes : Bytes} {correlationId : UInt64} {allowed allowed' : CoordType → Prop}
    (h : Replies bytes correlationId allowed) (himp : ∀ t, allowed t → allowed' t) :
    Replies bytes correlationId allowed' := by
  obtain ⟨m, envelope, hdecode, hcorrelation, hallowed⟩ := h
  exact ⟨m, envelope, hdecode, hcorrelation, himp _ hallowed⟩

lemma Replies.of_encodeError {msg : ErrorMessage} {correlationId : UInt64} {data : Bytes}
    (hzero : 0 ∉ msg.message) (h : encodeError msg correlationId = .ok data) :
    Replies data correlationId (· = .error) := by
  obtain ⟨data', envelope, hencode, hdecode, hcorrelation⟩ :=
    decodeError_encodeError msg hzero correlationId
  obtain rfl : data' = data := Except.ok.inj (hencode.symm.trans h)
  exact ⟨.error _, envelope, congrArg (Except.map _) hdecode, hcorrelation, rfl⟩

lemma encodeCoordinationError_replies (status : Status) {message : Bytes}
    (hzero : 0 ∉ message) (correlationId : UInt64) :
    Replies (encodeCoordinationError status message correlationId) correlationId (· = .error) := by
  obtain ⟨data, -, hdata, -⟩ :=
    decodeError_encodeError { status, message } hzero correlationId
  unfold encodeCoordinationError
  rw [hdata]
  exact .of_encodeError hzero hdata

lemma encodeCoordinationReply_replies {reply : Publisher.CoordinationReply}
    (hzero : ∀ m, reply = .error m → 0 ∉ m.message) (correlationId : UInt64) :
    Replies (encodeCoordinationReply reply correlationId) correlationId
      fun t => t = reply.toMessage.type ∨ t = .error := by
  unfold encodeCoordinationReply
  cases hencode : reply.toMessage.encode correlationId with
  | error =>
    exact (encodeCoordinationError_replies .internal (by decide +kernel) correlationId).imp
      fun _ ht => .inr ht
  | ok =>
    by_cases herror : reply.toMessage.type = .error
    · cases reply with
      | error m =>
        have hreplies := Replies.of_encodeError (hzero m rfl) hencode
        exact hreplies.imp fun _ ht => .inr ht
      | openReply | renewReply | closeReply => cases herror
    · obtain ⟨size, hdecode⟩ := CoordMessage.decode_encode herror hencode
      exact ⟨reply.toMessage, _, hdecode, rfl, .inl rfl⟩

/-! ### Every input is answered -/

/-- The type of the reply to a request. -/
def CoordType.replyType : CoordType → CoordType
  | .open => .openReply
  | .renew => .renewReply
  | .close => .closeReply
  | t => t

def CoordType.isRequest : CoordType → Bool
  | .open | .renew | .close => true
  | _ => false

/-- The bytes are a request of this type that its decoder accepts and the caller expects. -/
def Accepted (data : Bytes) (expected : Option CoordType) (type : CoordType) : Prop :=
  type.isRequest = true ∧ (∃ m envelope, CoordMessage.decode data type = .ok (m, envelope)) ∧
    ∀ t ∈ expected, t = type

lemma recoverCoordinationCorrelation_eq {data : Bytes} {envelope : Envelope}
    (h : decodeEnvelope data = .ok envelope) :
    recoverCoordinationCorrelation data = envelope.correlationId := by
  obtain ⟨body, hopen⟩ := decodeEnvelope_iff.mp h
  have hopened := openCoord_opened hopen
  have hsize := hopened.size
  simp only [kCoordEnvelopeBytes] at hsize
  rw [recoverCoordinationCorrelation, if_neg (by omega), hopened.correlated]

lemma recoverCoordinationCorrelation_toNat (data : Bytes) :
    (recoverCoordinationCorrelation data).toNat =
      if 24 ≤ data.length then leValue ((data.drop 16).take 8) else 0 := by
  unfold recoverCoordinationCorrelation
  by_cases h : data.length < 16 + 8
  · rw [if_pos h, if_neg (by omega)]
    rfl
  · have hget : get64 data 16 = .ok (UInt64.ofNat (leValue ((data.drop 16).take 8))) := by
      rw [get64, getLe, if_pos (by omega)]
      rfl
    have hlt := leValue_lt ((data.drop 16).take 8)
    have hlen : ((data.drop 16).take 8).length = 8 := by
      rw [List.length_take, List.length_drop]
      omega
    rw [hlen] at hlt
    rw [if_neg h, if_pos (by omega), hget]
    exact Nat.mod_eq_of_lt hlt

lemma exists_of_map_ok {α β : Type} {x : Except Fault (α × Envelope)} {f : α × Envelope → β}
    {b : β} (h : x.map f = .ok b) : ∃ a envelope, x = .ok (a, envelope) ∧ f (a, envelope) = b := by
  cases x with
  | error => cases h
  | ok r => exact ⟨r.1, r.2, rfl, Except.ok.inj h⟩

lemma decodeRequest_accepted {data : Bytes} {type : CoordType} {request : CoordinationRequest}
    (h : decodeRequest data type = some (.ok request)) :
    request.type = type ∧ type.isRequest = true ∧
      ∃ m envelope, CoordMessage.decode data type = .ok (m, envelope) := by
  cases type with
  | «open» =>
    obtain ⟨a, envelope, ha, rfl⟩ := exists_of_map_ok (Option.some.inj h)
    exact ⟨rfl, rfl, .open a, envelope, congrArg (Except.map _) ha⟩
  | renew =>
    obtain ⟨a, envelope, ha, rfl⟩ := exists_of_map_ok (Option.some.inj h)
    exact ⟨rfl, rfl, .renew a, envelope, congrArg (Except.map _) ha⟩
  | close =>
    obtain ⟨a, envelope, ha, rfl⟩ := exists_of_map_ok (Option.some.inj h)
    exact ⟨rfl, rfl, .close a, envelope, congrArg (Except.map _) ha⟩
  | openReply | renewReply | closeReply | error => cases h

lemma Accepted.decodes {data : Bytes} {expected : Option CoordType} {type : CoordType}
    (h : Accepted data expected type) :
    (∃ envelope, decodeEnvelope data = .ok envelope ∧ envelope.msgType = type) ∧
    ∃ request, decodeRequest data type = some (.ok request) := by
  obtain ⟨hrequest, ⟨_, _, hdecode⟩, -⟩ := h
  cases type with
  | «open» =>
    obtain ⟨a, envelope, ha, -⟩ := exists_of_map_ok hdecode
    exact ⟨⟨envelope, decodeOpen_envelope ha⟩, .open a, congrArg (some <| Except.map _ ·) ha⟩
  | renew =>
    obtain ⟨a, envelope, ha, -⟩ := exists_of_map_ok hdecode
    exact ⟨⟨envelope, decodeRenew_envelope ha⟩, .renew a, congrArg (some <| Except.map _ ·) ha⟩
  | close =>
    obtain ⟨a, envelope, ha, -⟩ := exists_of_map_ok hdecode
    exact ⟨⟨envelope, decodeClose_envelope ha⟩, .close a, congrArg (some <| Except.map _ ·) ha⟩
  | openReply | renewReply | closeReply | error => cases hrequest

/-- No text of the surroundings has a zero byte. -/
structure HandlerWorld.Clean (world : HandlerWorld) : Prop where
  thrown : ∀ thrown after, world.thrown = some (thrown, after) → 0 ∉ thrown.message.message
  drawn : ∀ failure what, world.drawn = .error (failure, what) →
    0 ∉ textBytes (Publisher.rngFailure what).message

namespace Publisher

lemma handleCoordination_outcome (p : Publisher) (request : CoordinationRequest)
    {world : HandlerWorld} (hworld : world.Clean) :
    (∃ thrown, (p.handleCoordination request world).1 = .error thrown ∧
      0 ∉ thrown.message.message) ∨
    ∃ reply, (p.handleCoordination request world).1 = .ok reply ∧
      (reply.toMessage.type = request.type.replyType ∨ reply.toMessage.type = .error) ∧
      ∀ m, reply = .error m → 0 ∉ m.message := by
  unfold handleCoordination
  cases hthrown : world.thrown with
  | some left => exact .inl ⟨left.1, rfl, hworld.thrown left.1 left.2 hthrown⟩
  | none =>
    cases request with
    | «open» request =>
      dsimp only
      obtain ⟨e, he, htext⟩ | ⟨m, hm, htext⟩ | ⟨reply, hreply⟩ :=
        handleOpen_outcome p request world.connected hworld.drawn
      · rw [he]
        exact .inl ⟨.bulk e, rfl, htext⟩
      · rw [hm]
        refine .inr ⟨.error m, rfl, .inr rfl, fun m' hm' => ?_⟩
        cases hm'
        exact htext
      · rw [hreply]
        exact .inr ⟨.openReply reply, rfl, .inl rfl, nofun⟩
    | renew request | close request => exact .inr ⟨_, rfl, .inl rfl, nofun⟩

lemma encodeOutcome_replies (p : Publisher) (request : CoordinationRequest)
    {world : HandlerWorld} (hworld : world.Clean) (correlationId : UInt64) :
    Replies (encodeOutcome (p.handleCoordination request world).1 correlationId) correlationId
      fun t => t = .error ∨ t = request.type.replyType := by
  obtain ⟨thrown, hthrow, htext⟩ | ⟨reply, hreply, htype, htext⟩ :=
    p.handleCoordination_outcome request hworld
  · rw [hthrow]
    exact (encodeCoordinationError_replies _ htext correlationId).imp fun _ ht => .inl ht
  · rw [hreply]
    refine (encodeCoordinationReply_replies htext correlationId).imp fun t ht => ?_
    rcases ht with rfl | rfl
    · exact htype.symm
    · exact .inl rfl

lemma rejectMessage_replies (p : Publisher) (status : Status) {message : Bytes}
    (hzero : 0 ∉ message) (correlationId : UInt64) :
    Replies (p.rejectMessage status message correlationId).1 correlationId (· = .error) ∧
    (p.rejectMessage status message correlationId).2 = p.bump .malformedMessages 1 :=
  ⟨encodeCoordinationError_replies status hzero correlationId, rfl⟩

/-- A message is rejected, or it is an accepted request and handled. -/
lemma handleEncodedCoordination_cases (p : Publisher) (data : Bytes)
    (expected : Option CoordType) {world : HandlerWorld} (hworld : world.Clean) :
    ((∀ type, ¬ Accepted data expected type) ∧
      Replies (p.handleEncodedCoordination data expected world).1
        (recoverCoordinationCorrelation data) (· = .error) ∧
      (p.handleEncodedCoordination data expected world).2 = p.bump .malformedMessages 1) ∨
    ∃ type, Accepted data expected type ∧
      Replies (p.handleEncodedCoordination data expected world).1
        (recoverCoordinationCorrelation data) fun t => t = .error ∨ t = type.replyType := by
  have hsame : ∀ {type : CoordType} {envelope : Envelope}, Accepted data expected type →
      decodeEnvelope data = .ok envelope → envelope.msgType = type := by
    intro type envelope hacc henvelope
    obtain ⟨⟨envelope', henvelope', htype⟩, -⟩ := hacc.decodes
    obtain rfl : envelope = envelope' := Except.ok.inj (henvelope.symm.trans henvelope')
    exact htype
  unfold handleEncodedCoordination
  cases henvelope : decodeEnvelope data with
  | error =>
    refine .inl ⟨fun type hacc => ?_, rejectMessage_replies p _ (envelopeText_text _) _⟩
    obtain ⟨⟨envelope, henvelope', -⟩, -⟩ := hacc.decodes
    rw [henvelope] at henvelope'
    cases henvelope'
  | ok envelope =>
    have hname := coordType_text envelope.msgType
    rw [recoverCoordinationCorrelation_eq henvelope]
    dsimp only
    split_ifs with hexpected
    · cases expected with
      | none => cases hexpected
      | some t =>
        have hne : envelope.msgType ≠ t := by simpa using hexpected
        refine .inl ⟨fun type hacc => hne ?_, rejectMessage_replies p _ ?_ _⟩
        · rw [hsame hacc henvelope]
          exact (hacc.2.2 t rfl).symm
        · have ht := coordType_text t
          have hfirst : 0 ∉ textBytes "this command carries " := by decide +kernel
          have hnot : 0 ∉ textBytes ", not " := by decide +kernel
          simp only [Option.elim_some, List.mem_append, not_or]
          exact ⟨⟨⟨hfirst, ht⟩, hnot⟩, hname⟩
    · cases hrequest : decodeRequest data envelope.msgType with
      | none =>
        refine .inl ⟨fun type hacc => ?_, rejectMessage_replies p _ ?_ _⟩
        · obtain ⟨-, request, hdecoded⟩ := hacc.decodes
          rw [← hsame hacc henvelope, hrequest] at hdecoded
          cases hdecoded
        · have hrest : 0 ∉ textBytes " is not a request a publisher answers" := by decide +kernel
          simp only [List.mem_append, not_or]
          exact ⟨hname, hrest⟩
      | some decoded =>
        cases decoded with
        | error =>
          refine .inl ⟨fun type hacc => ?_, rejectMessage_replies p _ ?_ _⟩
          · obtain ⟨-, request, hdecoded⟩ := hacc.decodes
            rw [← hsame hacc henvelope, hrequest] at hdecoded
            cases Option.some.inj hdecoded
          · have hfirst : 0 ∉ textBytes "undecodable " := by decide +kernel
            simp only [List.mem_append, not_or]
            exact ⟨hfirst, hname⟩
        | ok request =>
          obtain ⟨htype, hisRequest, hdecode⟩ := decodeRequest_accepted hrequest
          refine .inr ⟨envelope.msgType, ⟨hisRequest, hdecode, fun t ht => ?_⟩, ?_⟩
          · cases ht
            have heq : envelope.msgType = t := by simpa using hexpected
            exact heq.symm
          · rw [← htype]
            exact p.encodeOutcome_replies request hworld envelope.correlationId

end Publisher

/-- The encoded ingress answers every byte string: with the reply that belongs to an accepted
request or with an Error, always under the correlation identifier of the input. Whatever is no
accepted request is answered with an Error and only counted. -/
theorem coordination_ingress_answers (p : Publisher) (data : Bytes) (expected : Option CoordType)
    (world : HandlerWorld) (hworld : world.Clean) :
    ∃ (m : CoordMessage) (envelope : Envelope),
      CoordMessage.decode (p.handleEncodedCoordination data expected world).1 m.type =
        .ok (m, envelope) ∧
      envelope.correlationId.toNat =
        (if 24 ≤ data.length then leValue ((data.drop 16).take 8) else 0) ∧
      (m.type = .error ∨ ∃ type, Accepted data expected type ∧ m.type = type.replyType) ∧
      ((∀ type, ¬ Accepted data expected type) →
        m.type = .error ∧
        (p.handleEncodedCoordination data expected world).2 = p.bump .malformedMessages 1) := by
  obtain ⟨-, ⟨m, envelope, hdecode, hcorrelation, herror⟩, hcounted⟩ |
    ⟨type, hacc, m, envelope, hdecode, hcorrelation, hallowed⟩ :=
      p.handleEncodedCoordination_cases data expected hworld
  · refine ⟨m, envelope, hdecode, ?_, .inl herror, fun _ => ⟨herror, hcounted⟩⟩
    rw [hcorrelation, recoverCoordinationCorrelation_toNat]
  · refine ⟨m, envelope, hdecode, ?_, ?_, fun hnone => absurd hacc (hnone type)⟩
    · rw [hcorrelation, recoverCoordinationCorrelation_toNat]
    · exact hallowed.imp_right fun ht => ⟨type, hacc, ht⟩

/-- An Open whose handler finds no randomness, and what it is answered. -/
def openFive : Bytes := (encodeOpen sampleOpen 5).toOption.getD []

def starved : HandlerWorld where
  connected := true
  drawn := .error (.sessionId, "getrandom: Function not implemented")
  now := 0

def starvedReply : Bytes :=
  ((Publisher.create sampleConfig 1 [1]).handleEncodedCoordination openFive (some .open) starved).1

/-- The exception leaves as an Error with its text, under the identifier of the Open. -/
theorem coordination_ingress_answers_sample :
    encodeOpen sampleOpen 5 = .ok openFive ∧ starved.Clean ∧
    ∃ m envelope, CoordMessage.decode starvedReply .error = .ok (m, envelope) ∧
      m = .error ⟨.internal, textBytes
        "cannot obtain cryptographic randomness: getrandom: Function not implemented"⟩ ∧
      envelope.correlationId.toNat = 5 := by
  have hclean : starved.Clean := by
    constructor
    · intro _ _ h
      cases h
    · intro _ _ h
      cases h
      decide +kernel
  obtain ⟨m, envelope, hdecode, hcorrelation, htype, -⟩ :=
    coordination_ingress_answers (Publisher.create sampleConfig 1 [1]) openFive (some .open) starved
      hclean
  change CoordMessage.decode starvedReply m.type = _ at hdecode
  obtain herror | ⟨type, ⟨-, -, hexpected⟩, hreply⟩ := htype
  · rw [herror] at hdecode
    have htext : (CoordMessage.decode starvedReply .error).map Prod.fst = .ok (.error ⟨.internal,
      textBytes "cannot obtain cryptographic randomness: getrandom: Function not implemented"⟩) :=
        by decide +kernel
    rw [hdecode] at htext
    exact ⟨by decide +kernel, hclean, m, envelope, hdecode, Except.ok.inj htext,
      hcorrelation.trans (by decide +kernel)⟩
  · have hnone : (CoordMessage.decode starvedReply .openReply).isOk = false := by decide +kernel
    rw [hreply, ← hexpected .open rfl, CoordType.replyType] at hdecode
    rw [hdecode] at hnone
    cases hnone

end TangoBulk
