import AwalaEndpoint.Emitter
import AwalaEndpoint.Http
import AwalaEndpoint.ServiceMessageEvents

namespace AwalaEndpoint

open Awaiting LabelledRuns

/-!
# The parcel delivery route

The route of the PoHTTP server that gateways deliver parcels to.  Each stage
catches what its own call throws and turns it into a logged line; a stage that
returns `null` or `false` in the code returns the line it logged here.
-/

namespace ParcelDelivery

/-- The content type of the messages that carry connection parameters. -/
def pdaPathType : String := "application/vnd+relaycorp.awala.pda-path"

/-- What the event of a received service message is made from. -/
def incomingOptions
    (parcel : Parcel)
    (serviceMessage : ServiceMessage) : IncomingServiceMessageOptions where
  creationDate := parcel.creationDate
  expiryDate := parcel.expiryDate
  parcelId := parcel.id
  senderId := parcel.senderCertificate.calculateSubjectId
  recipientId := parcel.recipient.id
  contentType := serviceMessage.type
  content := serviceMessage.content

/-- Emit a received service message as an event. -/
def publishIncomingServiceMessage
    (libraries : Libraries)
    (parcel : Parcel)
    (serviceMessage : ServiceMessage)
    (emitter : Emitter) : Promise Unit :=
  match makeIncomingServiceMessageEvent libraries
      (incomingOptions parcel serviceMessage) with
  | .error failure => reject failure
  | .ok event => emitter.emit event

/-- The parcel in a request body, or the line logged about it. -/
def deserializeParcel
    (libraries : Libraries)
    (payload : Buffer) : Except LogEntry Parcel :=
  match libraries.deserializeParcel payload with
  | .ok parcel => .ok parcel
  | .error _ => .error ⟨.info, "Refusing malformed parcel"⟩

/-- Whether a parcel is valid; if not, the line logged about it. -/
def isMessageValid
    (endpoint : InternetEndpoint)
    (parcel : Parcel) : Promise (Except LogEntry Unit) := do
  let outcome ← (endpoint.validateMessage parcel).attempt
  match outcome with
  | .ok _ => return .ok ()
  | .error _ => return .error ⟨.info, "Refusing invalid parcel"⟩

/-- The decrypted payload of a parcel, or the line logged about it. -/
def getDecryptedParcel (parcel : Parcel) : Promise (Except LogEntry ServiceMessage) := do
  let outcome : Except Failure ServiceMessage ←
    (perform (.unwrapPayload parcel)).attempt
  match outcome with
  | .ok payload => return .ok payload
  | .error _ => return .error ⟨.info, "Ignoring invalid service message"⟩

/-- Store the channel that connection parameters describe; the result is the line logged. -/
def createOrUpdateChannel
    (libraries : Libraries)
    (pdaBuffer : Buffer) : Promise LogEntry :=
  match libraries.deserializeConnParams pdaBuffer with
  | .error _ =>
      return ⟨.info, "Refusing to store malformed peer connection params"⟩
  | .ok privateEndpointConnParams => do
      let outcome ←
        (InternetEndpoint.saveChannel privateEndpointConnParams).attempt
      match outcome with
      | .ok _ => return ⟨.info, "Peer connection params stored"⟩
      | .error _ =>
          return ⟨.info, "Refusing to store invalid peer connection params"⟩

/-- Act on a decrypted service message. -/
def processServiceMessage
    (libraries : Libraries)
    (emitter : Emitter)
    (parcel : Parcel)
    (serviceMessage : ServiceMessage) : Promise Reply :=
  if serviceMessage.type = pdaPathType then do
    let logged ← createOrUpdateChannel libraries serviceMessage.content
    return ⟨HttpStatusCodes.accepted, none, [logged]⟩
  else do
    publishIncomingServiceMessage libraries parcel serviceMessage emitter
    return ⟨HttpStatusCodes.accepted, none,
      [⟨.info, "Parcel is valid and has been queued"⟩]⟩

/-- The handler of the route. -/
def handler
    (libraries : Libraries)
    (endpoint : InternetEndpoint)
    (emitter : Emitter)
    (body : Buffer) : Promise Reply :=
  match deserializeParcel libraries body with
  | .error logged =>
      return ⟨HttpStatusCodes.badRequest,
        some "Payload is not a valid RAMF-serialized parcel", [logged]⟩
  | .ok parcel => do
      let isValid ← isMessageValid endpoint parcel
      match isValid with
      | .error logged =>
          return ⟨HttpStatusCodes.forbidden,
            some "Parcel is well-formed but invalid", [logged]⟩
      | .ok _ => do
          let serviceMessage ← getDecryptedParcel parcel
          match serviceMessage with
          | .error logged =>
              return ⟨HttpStatusCodes.accepted, none, [logged]⟩
          | .ok serviceMessage =>
              processServiceMessage libraries emitter parcel serviceMessage

/-! ## Traces of the handler -/

/-- The calls of a request whose parcel was validated and decrypted. -/
def checks (parcel : Parcel) (serviceMessage : ServiceMessage) : List Call :=
  [⟨.validateMessage parcel, .ok ()⟩, ⟨.unwrapPayload parcel, .ok serviceMessage⟩]

/-- The reply to a parcel that was accepted, with the line logged about it. -/
def acceptedReply (logged : String) : Reply :=
  ⟨HttpStatusCodes.accepted, none, [⟨.info, logged⟩]⟩

/-- The line logged about a channel once `saveChannel` has settled. -/
def savedLine : Except Failure InternetPrivateEndpointChannel → String
  | .ok _ => "Peer connection params stored"
  | .error _ => "Refusing to store invalid peer connection params"

/-- The ways the processing of a decrypted service message can go. -/
inductive MessageRun
    (libraries : Libraries)
    (emitter : Emitter)
    (parcel : Parcel)
    (serviceMessage : ServiceMessage) :
    List Call → Except Failure Reply → Prop where
  | malformedParams
      (failure : Failure) :
      serviceMessage.type = pdaPathType →
      libraries.deserializeConnParams serviceMessage.content = .error failure →
      MessageRun libraries emitter parcel serviceMessage []
        (.ok (acceptedReply "Refusing to store malformed peer connection params"))
  | channel
      (connectionParams : PrivateEndpointConnParams)
      (saving : List Call)
      (saved : Except Failure InternetPrivateEndpointChannel) :
      serviceMessage.type = pdaPathType →
      libraries.deserializeConnParams serviceMessage.content = .ok connectionParams →
      Runs (InternetEndpoint.saveChannel connectionParams) saving saved →
      MessageRun libraries emitter parcel serviceMessage saving
        (.ok (acceptedReply (savedLine saved)))
  | refusedEvent
      (failure : Failure) :
      serviceMessage.type ≠ pdaPathType →
      makeIncomingServiceMessageEvent libraries
        (incomingOptions parcel serviceMessage) = .error failure →
      MessageRun libraries emitter parcel serviceMessage [] (.error failure)
  | event
      (event : CloudEvent)
      (emission : List Call)
      (emitted : Except Failure Unit) :
      serviceMessage.type ≠ pdaPathType →
      makeIncomingServiceMessageEvent libraries
        (incomingOptions parcel serviceMessage) = .ok event →
      Runs (emitter.emit event) emission emitted →
      MessageRun libraries emitter parcel serviceMessage emission
        (emitted.map fun _ =>
          acceptedReply "Parcel is valid and has been queued")

/-- The ways a request to the route can go. -/
inductive DeliveryRun
    (libraries : Libraries)
    (endpoint : InternetEndpoint)
    (emitter : Emitter)
    (body : Buffer) : List Call → Except Failure Reply → Prop where
  | malformedParcel
      (failure : Failure) :
      libraries.deserializeParcel body = .error failure →
      DeliveryRun libraries endpoint emitter body []
        (.ok ⟨HttpStatusCodes.badRequest,
          some "Payload is not a valid RAMF-serialized parcel",
          [⟨.info, "Refusing malformed parcel"⟩]⟩)
  | invalidParcel
      (parcel : Parcel)
      (outcome : Except Failure Unit) :
      libraries.deserializeParcel body = .ok parcel →
      (outcome = .ok () →
        parcel.recipient.internetAddress ≠ some endpoint.internetAddress) →
      DeliveryRun libraries endpoint emitter body
        [⟨.validateMessage parcel, outcome⟩]
        (.ok ⟨HttpStatusCodes.forbidden,
          some "Parcel is well-formed but invalid",
          [⟨.info, "Refusing invalid parcel"⟩]⟩)
  | undecrypted
      (parcel : Parcel)
      (failure : Failure) :
      libraries.deserializeParcel body = .ok parcel →
      parcel.recipient.internetAddress = some endpoint.internetAddress →
      DeliveryRun libraries endpoint emitter body
        [⟨.validateMessage parcel, .ok ()⟩, ⟨.unwrapPayload parcel, .error failure⟩]
        (.ok (acceptedReply "Ignoring invalid service message"))
  | processed
      (parcel : Parcel)
      (serviceMessage : ServiceMessage)
      (processing : List Call)
      (result : Except Failure Reply) :
      libraries.deserializeParcel body = .ok parcel →
      parcel.recipient.internetAddress = some endpoint.internetAddress →
      MessageRun libraries emitter parcel serviceMessage processing result →
      DeliveryRun libraries endpoint emitter body
        (checks parcel serviceMessage ++ processing) result

section Runs

variable {libraries : Libraries}
  {endpoint : InternetEndpoint}
  {emitter : Emitter}

/-- Validation ends after one call, with the verdict on the parcel. -/
theorem isMessageValid_runs
    {parcel : Parcel}
    {trace : List Call}
    {result : Except Failure (Except LogEntry Unit)}
    (runs : Runs (isMessageValid endpoint parcel) trace result) :
    ∃ outcome,
      trace = [⟨.validateMessage parcel, outcome⟩] ∧
        ((result = .ok (.ok ()) ∧
            outcome = .ok () ∧
            parcel.recipient.internetAddress = some endpoint.internetAddress) ∨
          (result = .ok (.error ⟨.info, "Refusing invalid parcel"⟩) ∧
            (outcome = .ok () →
              parcel.recipient.internetAddress ≠
                some endpoint.internetAddress))) := by
  obtain ⟨outcome, rest, rfl, afterValidation⟩ := runs_await_iff.mp runs
  refine ⟨outcome, ?_⟩
  cases outcome with
  | error failure =>
      obtain ⟨rfl, rfl⟩ := runs_settled_iff.mp afterValidation
      exact ⟨rfl, .inr ⟨rfl, fun impossible => by cases impossible⟩⟩
  | ok answer =>
      by_cases sameAddress :
          parcel.recipient.internetAddress = some endpoint.internetAddress
      · simp only [sameAddress, ne_eq, not_true_eq_false, ↓reduceIte] at afterValidation
        obtain ⟨rfl, rfl⟩ := runs_settled_iff.mp afterValidation
        exact ⟨rfl, .inl ⟨rfl, rfl, sameAddress⟩⟩
      · simp only [sameAddress, ne_eq, not_false_eq_true, ↓reduceIte] at afterValidation
        obtain ⟨rfl, rfl⟩ := runs_settled_iff.mp afterValidation
        exact ⟨rfl, .inr ⟨rfl, fun _ => sameAddress⟩⟩

/-- Decryption ends after one call and never rejects. -/
theorem getDecryptedParcel_runs
    {parcel : Parcel}
    {trace : List Call}
    {result : Except Failure (Except LogEntry ServiceMessage)}
    (runs : Runs (getDecryptedParcel parcel) trace result) :
    (∃ serviceMessage,
        trace = [⟨.unwrapPayload parcel, .ok serviceMessage⟩] ∧
          result = .ok (.ok serviceMessage)) ∨
      ∃ failure,
        trace = [⟨.unwrapPayload parcel, .error failure⟩] ∧
          result =
            .ok (.error ⟨.info, "Ignoring invalid service message"⟩) := by
  obtain ⟨outcome, rest, rfl, afterUnwrap⟩ := runs_await_iff.mp runs
  cases outcome with
  | ok serviceMessage =>
      obtain ⟨rfl, rfl⟩ := runs_settled_iff.mp afterUnwrap
      exact .inl ⟨serviceMessage, rfl, rfl⟩
  | error failure =>
      obtain ⟨rfl, rfl⟩ := runs_settled_iff.mp afterUnwrap
      exact .inr ⟨failure, rfl, rfl⟩

/-- Connection parameters are malformed, or `saveChannel` is called with them. -/
theorem createOrUpdateChannel_runs
    {pdaBuffer : Buffer}
    {trace : List Call}
    {result : Except Failure LogEntry}
    (runs : Runs (createOrUpdateChannel libraries pdaBuffer) trace result) :
    (∃ failure,
        libraries.deserializeConnParams pdaBuffer = .error failure ∧
          trace = [] ∧
          result =
            .ok ⟨.info, "Refusing to store malformed peer connection params"⟩) ∨
      ∃ connectionParams saved,
        libraries.deserializeConnParams pdaBuffer = .ok connectionParams ∧
          Runs (InternetEndpoint.saveChannel connectionParams) trace saved ∧
          result = .ok ⟨.info, savedLine saved⟩ := by
  unfold createOrUpdateChannel at runs
  split at runs
  · next failure malformed =>
      obtain ⟨rfl, rfl⟩ := runs_settled_iff.mp runs
      exact .inl ⟨failure, malformed, rfl, rfl⟩
  · next connectionParams wellFormed =>
      refine .inr ⟨connectionParams, ?_⟩
      rcases runs_bind_iff.mp runs with
        ⟨failure, failed, rfl⟩ | ⟨saved, saving, last, rfl, attempted, finished⟩
      · obtain ⟨_, impossible, _⟩ := runs_attempt_iff.mp failed
        cases impossible
      · obtain ⟨_, same, saveRuns⟩ := runs_attempt_iff.mp attempted
        cases same
        refine ⟨saved, wellFormed, ?_⟩
        cases saved with
        | ok channel =>
            obtain ⟨rfl, rfl⟩ := runs_settled_iff.mp finished
            exact ⟨by simpa using saveRuns, rfl⟩
        | error failure =>
            obtain ⟨rfl, rfl⟩ := runs_settled_iff.mp finished
            exact ⟨by simpa using saveRuns, rfl⟩

/-- A decrypted message is stored as a channel or emitted as an event. -/
theorem processServiceMessage_runs
    {parcel : Parcel}
    {serviceMessage : ServiceMessage}
    {trace : List Call}
    {result : Except Failure Reply}
    (runs :
      Runs (processServiceMessage libraries emitter parcel serviceMessage)
        trace result) :
    MessageRun libraries emitter parcel serviceMessage trace result := by
  unfold processServiceMessage at runs
  split at runs
  · next isPda =>
      rcases runs_bind_iff.mp runs with
        ⟨failure, failed, rfl⟩ | ⟨logged, earlier, later, rfl, stored, replied⟩
      · rcases createOrUpdateChannel_runs failed with
          ⟨_, _, _, impossible⟩ | ⟨_, _, _, _, impossible⟩
        · cases impossible
        · cases impossible
      · obtain ⟨rfl, rfl⟩ := runs_settled_iff.mp replied
        rw [List.append_nil]
        rcases createOrUpdateChannel_runs stored with
          ⟨failure, malformed, rfl, same⟩ |
            ⟨connectionParams, saved, wellFormed, saving, same⟩
        · cases same
          exact .malformedParams failure isPda malformed
        · cases same
          exact .channel connectionParams earlier saved isPda wellFormed saving
  · next isOther =>
      rcases runs_bind_iff.mp runs with
        ⟨failure, failed, rfl⟩ | ⟨answer, emission, later, rfl, published, replied⟩
      · unfold publishIncomingServiceMessage at failed
        split at failed
        · next refusal refused =>
            obtain ⟨rfl, same⟩ := runs_settled_iff.mp failed
            cases same
            exact .refusedEvent failure isOther refused
        · next event made =>
            exact .event event trace (.error failure) isOther made failed
      · obtain ⟨rfl, rfl⟩ := runs_settled_iff.mp replied
        unfold publishIncomingServiceMessage at published
        split at published
        · next refusal refused =>
            cases (runs_settled_iff.mp published).2
        · next event made =>
            rw [List.append_nil]
            exact .event event emission (.ok answer) isOther made published

/-- Every run of the handler is one of the listed ways. -/
theorem handler_runs
    {body : Buffer}
    {trace : List Call}
    {result : Except Failure Reply}
    (runs : Runs (handler libraries endpoint emitter body) trace result) :
    DeliveryRun libraries endpoint emitter body trace result := by
  unfold handler deserializeParcel at runs
  cases deserialized : libraries.deserializeParcel body with
  | error failure =>
      simp only [deserialized] at runs
      obtain ⟨rfl, rfl⟩ := runs_settled_iff.mp runs
      exact .malformedParcel failure deserialized
  | ok parcel =>
      simp only [deserialized] at runs
      rcases runs_bind_iff.mp runs with
        ⟨failure, failed, rfl⟩ | ⟨verdict, first, rest, rfl, validated, continued⟩
      · obtain ⟨_, _, ⟨impossible, _⟩ | ⟨impossible, _⟩⟩ :=
          isMessageValid_runs failed
        · cases impossible
        · cases impossible
      · obtain ⟨outcome, rfl, ⟨same, rfl, sameAddress⟩ | ⟨same, invalid⟩⟩ :=
          isMessageValid_runs validated
        · cases same
          rcases runs_bind_iff.mp continued with
            ⟨failure, failed, rfl⟩ | ⟨decrypted, second, last, rfl, unwrapped, finished⟩
          · rcases getDecryptedParcel_runs failed with
              ⟨_, _, impossible⟩ | ⟨_, _, impossible⟩
            · cases impossible
            · cases impossible
          · rcases getDecryptedParcel_runs unwrapped with
              ⟨serviceMessage, rfl, same⟩ | ⟨failure, rfl, same⟩
            · cases same
              exact .processed parcel serviceMessage last result
                deserialized sameAddress (processServiceMessage_runs finished)
            · cases same
              obtain ⟨rfl, rfl⟩ := runs_settled_iff.mp finished
              exact .undecrypted parcel failure deserialized sameAddress
        · cases same
          obtain ⟨rfl, rfl⟩ := runs_settled_iff.mp continued
          exact .invalidParcel parcel outcome deserialized invalid

end Runs

end ParcelDelivery

end AwalaEndpoint
