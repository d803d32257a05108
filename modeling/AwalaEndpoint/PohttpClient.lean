import AwalaEndpoint.Http
import AwalaEndpoint.InternetEndpoint
import AwalaEndpoint.ServiceMessageEvents

namespace AwalaEndpoint

open Awaiting LabelledRuns

/-!
# The PoHTTP client

The server that receives outgoing service messages from the app as events, and
delivers each as a parcel to the gateway of its recipient.
-/

namespace PohttpClient

/-- The event source that stands for the active endpoint. -/
def defaultSenderIdKeyword : String := "default"

/-- The channel with the recipient of a message, or the line logged about it. -/
def getChannel
    (eventData : OutgoingServiceMessageOptions) :
    Promise (Except LogEntry InternetPrivateEndpointChannel) := do
  let outcome ← (InternetEndpoint.getPeerChannel eventData.peerId).attempt
  match outcome with
  | .error _ => return .error ⟨.error, "Failed to get channel with peer"⟩
  | .ok none => return .error ⟨.warn, "Could not find channel with peer"⟩
  | .ok (some channel) => return .ok channel

/-- Deliver a parcel; the result is whether it is settled, and the line logged. -/
def deliverParcelAndHandleErrors
    (parcelSerialised : Buffer)
    (internetAddress : String)
    (shouldUseTls : Bool) : Promise (Bool × LogEntry) := do
  let outcome : Except Failure Unit ←
    (perform (.deliverParcel internetAddress parcelSerialised shouldUseTls)).attempt
  match outcome with
  | .ok _ => return (true, ⟨.info, "Parcel delivered"⟩)
  | .error (.thrown .pohttpInvalidParcelError _) =>
      return (true, ⟨.info, "Gateway refused parcel as invalid"⟩)
  | .error (.thrown .pohttpClientBindingError _) =>
      return (true,
        ⟨.info, "Gateway refused parcel delivery due to binding error"⟩)
  | .error _ => return (false, ⟨.warn, "Failed to deliver parcel"⟩)

/-- Deliver the message an accepted event describes. -/
def deliverMessage
    (shouldUseTls : Bool)
    (messageOptions : OutgoingServiceMessageOptions) : Promise Reply := do
  let found ← getChannel messageOptions
  match found with
  | .error logged =>
      return ⟨HttpStatusCodes.serviceUnavailable, none, [logged]⟩
  | .ok channel => do
      let parcelSerialised : Buffer ←
        perform (.makeMessage channel messageOptions.serviceMessage
          messageOptions.messageOptions)
      let (wasFulfilled, logged) ←
        deliverParcelAndHandleErrors parcelSerialised
          channel.peer.internetAddress shouldUseTls
      if wasFulfilled then
        return ⟨HttpStatusCodes.noContent, none, [logged]⟩
      else
        return ⟨HttpStatusCodes.badGateway, none, [logged]⟩

/-- The handler of the POST route. -/
def handler
    (libraries : Libraries)
    (endpoint : InternetEndpoint)
    (shouldUseTls : Bool)
    (request : PostRequest) : Promise Reply :=
  match libraries.convertMessageToEvent request with
  | .error _ =>
      return ⟨HttpStatusCodes.badRequest, none, []⟩
  | .ok event =>
      if event.source ≠ endpoint.id ∧ event.source ≠ defaultSenderIdKeyword then
        return ⟨HttpStatusCodes.badRequest, none,
          [⟨.warn, "Unknown sender endpoint id"⟩]⟩
      else
        match getOutgoingServiceMessageOptions libraries event with
        | .error logged =>
            return ⟨HttpStatusCodes.badRequest, none, [logged]⟩
        | .ok messageOptions =>
            deliverMessage shouldUseTls messageOptions

/-! ## Traces of the handler -/

/-- Whether a delivery attempt needs no further one, as its sender sees it. -/
def settlesDelivery : Except Failure Unit → Bool
  | .ok _ => true
  | .error (.thrown .pohttpInvalidParcelError _) => true
  | .error (.thrown .pohttpClientBindingError _) => true
  | .error _ => false

/-- The line logged about a delivery attempt. -/
def deliveryLine : Except Failure Unit → LogEntry
  | .ok _ => ⟨.info, "Parcel delivered"⟩
  | .error (.thrown .pohttpInvalidParcelError _) =>
      ⟨.info, "Gateway refused parcel as invalid"⟩
  | .error (.thrown .pohttpClientBindingError _) =>
      ⟨.info, "Gateway refused parcel delivery due to binding error"⟩
  | .error _ => ⟨.warn, "Failed to deliver parcel"⟩

/-- The reply after a delivery attempt. -/
def deliveryReply (outcome : Except Failure Unit) : Reply where
  code :=
    if settlesDelivery outcome then
      HttpStatusCodes.noContent
    else
      HttpStatusCodes.badGateway
  message := none
  logs := [deliveryLine outcome]

/-- The call that makes the parcel of an event. -/
def parcelMade
    (messageOptions : OutgoingServiceMessageOptions)
    (channel : InternetPrivateEndpointChannel)
    (outcome : Except Failure Buffer) : Call :=
  ⟨.makeMessage channel messageOptions.serviceMessage
    messageOptions.messageOptions, outcome⟩

/-- The call that delivers a parcel over a channel. -/
def parcelDelivered
    (shouldUseTls : Bool)
    (channel : InternetPrivateEndpointChannel)
    (parcelSerialised : Buffer)
    (outcome : Except Failure Unit) : Call :=
  ⟨.deliverParcel channel.peer.internetAddress parcelSerialised shouldUseTls,
    outcome⟩

/-- The ways the delivery of an accepted event can go. -/
inductive SendingRun
    (shouldUseTls : Bool)
    (messageOptions : OutgoingServiceMessageOptions) :
    List Call → Except Failure Reply → Prop where
  | lookupFailed
      (lookup : List Call)
      (failure : Failure) :
      LookupRun messageOptions.peerId lookup (.error failure) →
      SendingRun shouldUseTls messageOptions lookup
        (.ok ⟨HttpStatusCodes.serviceUnavailable, none,
          [⟨.error, "Failed to get channel with peer"⟩]⟩)
  | unknownPeer
      (lookup : List Call) :
      LookupRun messageOptions.peerId lookup (.ok none) →
      SendingRun shouldUseTls messageOptions lookup
        (.ok ⟨HttpStatusCodes.serviceUnavailable, none,
          [⟨.warn, "Could not find channel with peer"⟩]⟩)
  | unmade
      (lookup : List Call)
      (channel : InternetPrivateEndpointChannel)
      (failure : Failure) :
      LookupRun messageOptions.peerId lookup (.ok (some channel)) →
      SendingRun shouldUseTls messageOptions
        (lookup ++ [parcelMade messageOptions channel (.error failure)])
        (.error failure)
  | attempted
      (lookup : List Call)
      (channel : InternetPrivateEndpointChannel)
      (parcelSerialised : Buffer)
      (outcome : Except Failure Unit) :
      LookupRun messageOptions.peerId lookup (.ok (some channel)) →
      SendingRun shouldUseTls messageOptions
        (lookup ++
          [parcelMade messageOptions channel (.ok parcelSerialised),
            parcelDelivered shouldUseTls channel parcelSerialised outcome])
        (.ok (deliveryReply outcome))

/-- The ways a request to the POST route can go. -/
inductive PostRun
    (libraries : Libraries)
    (endpoint : InternetEndpoint)
    (shouldUseTls : Bool)
    (request : PostRequest) :
    List Call → Except Failure Reply → Prop where
  | malformedEvent
      (failure : Failure) :
      libraries.convertMessageToEvent request = .error failure →
      PostRun libraries endpoint shouldUseTls request []
        (.ok ⟨HttpStatusCodes.badRequest, none, []⟩)
  | unknownSender
      (event : CloudEvent) :
      libraries.convertMessageToEvent request = .ok event →
      event.source ≠ endpoint.id →
      event.source ≠ defaultSenderIdKeyword →
      PostRun libraries endpoint shouldUseTls request []
        (.ok ⟨HttpStatusCodes.badRequest, none,
          [⟨.warn, "Unknown sender endpoint id"⟩]⟩)
  | refusedEvent
      (event : CloudEvent)
      (logged : LogEntry) :
      libraries.convertMessageToEvent request = .ok event →
      (event.source = endpoint.id ∨ event.source = defaultSenderIdKeyword) →
      getOutgoingServiceMessageOptions libraries event = .error logged →
      PostRun libraries endpoint shouldUseTls request []
        (.ok ⟨HttpStatusCodes.badRequest, none, [logged]⟩)
  | accepted
      (event : CloudEvent)
      (messageOptions : OutgoingServiceMessageOptions)
      (sending : List Call)
      (result : Except Failure Reply) :
      libraries.convertMessageToEvent request = .ok event →
      (event.source = endpoint.id ∨ event.source = defaultSenderIdKeyword) →
      getOutgoingServiceMessageOptions libraries event = .ok messageOptions →
      SendingRun shouldUseTls messageOptions sending result →
      PostRun libraries endpoint shouldUseTls request sending result

section Runs

variable {libraries : Libraries}
  {endpoint : InternetEndpoint}
  {shouldUseTls : Bool}

/-- The channel is looked up, and never with a rejection. -/
theorem getChannel_runs
    {eventData : OutgoingServiceMessageOptions}
    {trace : List Call}
    {result : Except Failure (Except LogEntry InternetPrivateEndpointChannel)}
    (runs : Runs (getChannel eventData) trace result) :
    (∃ failure,
        LookupRun eventData.peerId trace (.error failure) ∧
          result = .ok (.error ⟨.error, "Failed to get channel with peer"⟩)) ∨
      (LookupRun eventData.peerId trace (.ok none) ∧
        result = .ok (.error ⟨.warn, "Could not find channel with peer"⟩)) ∨
      ∃ channel,
        LookupRun eventData.peerId trace (.ok (some channel)) ∧
          result = .ok (.ok channel) := by
  rcases runs_bind_iff.mp runs with
    ⟨failure, failed, rfl⟩ | ⟨found, lookup, last, rfl, attempted, finished⟩
  · obtain ⟨_, impossible, _⟩ := runs_attempt_iff.mp failed
    cases impossible
  · obtain ⟨_, same, lookupRuns⟩ := runs_attempt_iff.mp attempted
    cases same
    rcases found with failure | _ | channel
    · obtain ⟨rfl, rfl⟩ := runs_settled_iff.mp finished
      rw [List.append_nil]
      exact .inl ⟨failure, getPeerChannel_runs_iff.mp lookupRuns, rfl⟩
    · obtain ⟨rfl, rfl⟩ := runs_settled_iff.mp finished
      rw [List.append_nil]
      exact .inr (.inl ⟨getPeerChannel_runs_iff.mp lookupRuns, rfl⟩)
    · obtain ⟨rfl, rfl⟩ := runs_settled_iff.mp finished
      rw [List.append_nil]
      exact .inr (.inr ⟨channel, getPeerChannel_runs_iff.mp lookupRuns, rfl⟩)

/-- A parcel is delivered once, and every error is classified. -/
theorem deliverParcelAndHandleErrors_runs
    {parcelSerialised : Buffer}
    {internetAddress : String}
    {trace : List Call}
    {result : Except Failure (Bool × LogEntry)}
    (runs :
      Runs
        (deliverParcelAndHandleErrors parcelSerialised internetAddress
          shouldUseTls)
        trace result) :
    ∃ outcome,
      trace =
          [⟨.deliverParcel internetAddress parcelSerialised shouldUseTls,
            outcome⟩] ∧
        result = .ok (settlesDelivery outcome, deliveryLine outcome) := by
  obtain ⟨outcome, rest, rfl, finished⟩ := runs_await_iff.mp runs
  refine ⟨outcome, ?_⟩
  rcases outcome with (⟨name, message⟩ | message | ⟨message, cause⟩) | answer
  · cases name <;>
      (obtain ⟨rfl, rfl⟩ := runs_settled_iff.mp finished
       exact ⟨rfl, rfl⟩)
  · obtain ⟨rfl, rfl⟩ := runs_settled_iff.mp finished
    exact ⟨rfl, rfl⟩
  · obtain ⟨rfl, rfl⟩ := runs_settled_iff.mp finished
    exact ⟨rfl, rfl⟩
  · obtain ⟨rfl, rfl⟩ := runs_settled_iff.mp finished
    exact ⟨rfl, rfl⟩

/-- An accepted event is delivered over the channel that was found, if any. -/
theorem deliverMessage_runs
    {messageOptions : OutgoingServiceMessageOptions}
    {trace : List Call}
    {result : Except Failure Reply}
    (runs : Runs (deliverMessage shouldUseTls messageOptions) trace result) :
    SendingRun shouldUseTls messageOptions trace result := by
  rcases runs_bind_iff.mp runs with
    ⟨failure, failed, rfl⟩ | ⟨found, lookup, rest, rfl, looked, continued⟩
  · rcases getChannel_runs failed with
      ⟨_, _, impossible⟩ | ⟨_, impossible⟩ | ⟨_, _, impossible⟩ <;>
      cases impossible
  · rcases getChannel_runs looked with
      ⟨failure, lookedUp, same⟩ | ⟨lookedUp, same⟩ | ⟨channel, lookedUp, same⟩
    · cases same
      obtain ⟨rfl, rfl⟩ := runs_settled_iff.mp continued
      rw [List.append_nil]
      exact .lookupFailed lookup failure lookedUp
    · cases same
      obtain ⟨rfl, rfl⟩ := runs_settled_iff.mp continued
      rw [List.append_nil]
      exact .unknownPeer lookup lookedUp
    · cases same
      rcases runs_bind_iff.mp continued with
        ⟨failure, failed, rfl⟩ |
          ⟨parcelSerialised, making, last, rfl, made, sending⟩
      · rw [runs_perform_iff.mp failed]
        exact .unmade lookup channel failure lookedUp
      · rw [runs_perform_iff.mp made]
        rcases runs_bind_iff.mp sending with
          ⟨failure, failed, rfl⟩ | ⟨verdict, sent, final, rfl, delivered, replied⟩
        · obtain ⟨_, _, impossible⟩ := deliverParcelAndHandleErrors_runs failed
          cases impossible
        · obtain ⟨outcome, rfl, same⟩ :=
            deliverParcelAndHandleErrors_runs delivered
          cases same
          have answered : final = [] ∧ result = .ok (deliveryReply outcome) := by
            unfold deliveryReply
            cases settles : settlesDelivery outcome <;>
              simpa [settles, runs_settled_iff] using replied
          obtain ⟨rfl, rfl⟩ := answered
          exact .attempted lookup channel parcelSerialised outcome lookedUp

/-- Every run of the handler is one of the listed ways. -/
theorem handler_runs
    {request : PostRequest}
    {trace : List Call}
    {result : Except Failure Reply}
    (runs : Runs (handler libraries endpoint shouldUseTls request) trace result) :
    PostRun libraries endpoint shouldUseTls request trace result := by
  unfold handler at runs
  split at runs
  · next failure malformed =>
      obtain ⟨rfl, rfl⟩ := runs_settled_iff.mp runs
      exact .malformedEvent failure malformed
  · next event converted =>
      split at runs
      · next unknown =>
          obtain ⟨rfl, rfl⟩ := runs_settled_iff.mp runs
          exact .unknownSender event converted unknown.1 unknown.2
      · next known =>
          have knownSender :
              event.source = endpoint.id ∨
                event.source = defaultSenderIdKeyword := by
            by_contra unknown
            rw [not_or] at unknown
            exact known unknown
          split at runs
          · next logged refused =>
              obtain ⟨rfl, rfl⟩ := runs_settled_iff.mp runs
              exact .refusedEvent event logged converted knownSender refused
          · next messageOptions accepted =>
              exact .accepted event messageOptions trace result converted
                knownSender accepted (deliverMessage_runs runs)

end Runs

end PohttpClient

end AwalaEndpoint
