import AwalaEndpoint.PohttpClient
import AwalaEndpoint.Stubs

namespace AwalaEndpoint

open Awaiting LabelledRuns

/-!
# The answers of the PoHTTP client

The broker drops an event when the client answers with a success and delivers it
again otherwise.  This module states what each answer says about the parcel of
the event.
-/

namespace PohttpClient

/-- How an attempt to deliver a parcel settled, for a call that is one. -/
def deliveryAttempt : Call → Option (Except Failure Unit)
  | ⟨.deliverParcel _ _ _, outcome⟩ => some outcome
  | _ => none

/-- The attempts to deliver a parcel during a request. -/
def attempts (trace : List Call) : List (Except Failure Unit) :=
  trace.filterMap deliveryAttempt

/-- A delivery that succeeded or was refused for good by the gateway. -/
def SettledForGood (outcome : Except Failure Unit) : Prop :=
  outcome = .ok () ∨
    (∃ message, outcome = .error (.thrown .pohttpInvalidParcelError message)) ∨
    ∃ message, outcome = .error (.thrown .pohttpClientBindingError message)

/-- The event of a request comes from the endpoint and its options are accepted. -/
def Accepts
    (libraries : Libraries)
    (endpoint : InternetEndpoint)
    (request : PostRequest)
    (event : CloudEvent)
    (messageOptions : OutgoingServiceMessageOptions) : Prop :=
  libraries.convertMessageToEvent request = .ok event ∧
    (event.source = endpoint.id ∨ event.source = defaultSenderIdKeyword) ∧
    getOutgoingServiceMessageOptions libraries event = .ok messageOptions

/-- The request carries no event, an event of another sender or a malformed one. -/
def Unacceptable
    (libraries : Libraries)
    (endpoint : InternetEndpoint)
    (request : PostRequest) : Prop :=
  ∀ event messageOptions,
    ¬ Accepts libraries endpoint request event messageOptions

/-- A parcel is sent to the gateway on record for the subject of an accepted event. -/
structure SendsEvent
    (libraries : Libraries)
    (endpoint : InternetEndpoint)
    (request : PostRequest)
    (before : State)
    (trace : List Call)
    (internetAddress : String)
    (parcelSerialised : Buffer)
    (event : CloudEvent)
    (messageOptions : OutgoingServiceMessageOptions)
    (channel : InternetPrivateEndpointChannel) : Prop where
  accepted : Accepts libraries endpoint request event messageOptions
  subject : event.subject = some messageOptions.peerId
  onRecord : before.gatewayOf messageOptions.peerId = some internetAddress
  found :
    ⟨.getChannel messageOptions.peerId internetAddress, .ok (some channel)⟩ ∈ trace
  made : parcelMade messageOptions channel (.ok parcelSerialised) ∈ trace

/-- What the answer to a request says about the parcel of its event. -/
structure AcknowledgementContract
    (libraries : Libraries)
    (endpoint : InternetEndpoint)
    (request : PostRequest)
    (before : State)
    (trace : List Call)
    (reply : Except Failure Reply) : Prop where
  sentAtMostOnce :
    (attempts trace).length ≤ 1
  sentAfterChecks :
    ∀ internetAddress parcelSerialised shouldUseTls outcome,
      ⟨.deliverParcel internetAddress parcelSerialised shouldUseTls, outcome⟩ ∈
        trace →
      ∃ earlier event messageOptions channel,
        trace =
            earlier ++
              [⟨.deliverParcel internetAddress parcelSerialised shouldUseTls,
                outcome⟩] ∧
          SendsEvent libraries endpoint request before earlier internetAddress
            parcelSerialised event messageOptions channel
  noContent_iff :
    statusOf reply = HttpStatusCodes.noContent ↔
      ∃ outcome ∈ attempts trace, SettledForGood outcome
  badGateway_iff :
    statusOf reply = HttpStatusCodes.badGateway ↔
      ∃ outcome ∈ attempts trace, ¬ SettledForGood outcome
  badRequest :
    statusOf reply = HttpStatusCodes.badRequest →
    Unacceptable libraries endpoint request ∧ attempts trace = []
  serviceUnavailable :
    statusOf reply = HttpStatusCodes.serviceUnavailable →
    (∃ event messageOptions,
        Accepts libraries endpoint request event messageOptions ∧
          ((∃ failure,
              Runs (InternetEndpoint.getPeerChannel messageOptions.peerId)
                trace (.error failure)) ∨
            Runs (InternetEndpoint.getPeerChannel messageOptions.peerId)
              trace (.ok none))) ∧
      attempts trace = []
  unmade :
    ∀ channel serviceMessage options failure,
      ⟨.makeMessage channel serviceMessage options, .error failure⟩ ∈ trace →
      ¬ (200 ≤ statusOf reply ∧ statusOf reply < 300) ∧ attempts trace = []

theorem settlesDelivery_iff
    {outcome : Except Failure Unit} :
    settlesDelivery outcome = true ↔ SettledForGood outcome := by
  rcases outcome with (⟨name, message⟩ | message | ⟨message, cause⟩) | answer
  · cases name <;> simp [settlesDelivery, SettledForGood]
  · simp [settlesDelivery, SettledForGood]
  · simp [settlesDelivery, SettledForGood]
  · simp [settlesDelivery, SettledForGood]

theorem attempts_append
    (earlier later : List Call) :
    attempts (earlier ++ later) = attempts earlier ++ attempts later :=
  List.filterMap_append

/-- Looking up a channel sends nothing and makes no parcel. -/
theorem attempts_of_lookup
    {peerId : String}
    {trace : List Call}
    {result : Except Failure (Option InternetPrivateEndpointChannel)}
    (lookup : LookupRun peerId trace result) :
    attempts trace = [] := by
  cases lookup <;> rfl

theorem makeMessage_notMem_lookup
    {peerId : String}
    {trace : List Call}
    {result : Except Failure (Option InternetPrivateEndpointChannel)}
    (lookup : LookupRun peerId trace result)
    (channel : InternetPrivateEndpointChannel)
    (serviceMessage : ServiceMessage)
    (options : MessageOptions)
    (outcome : Except Failure Buffer) :
    (⟨.makeMessage channel serviceMessage options, outcome⟩ : Call) ∉ trace := by
  cases lookup <;> simp

/-- Every delivery call is one of the attempts. -/
theorem mem_attempts
    {trace : List Call}
    {internetAddress : String}
    {parcelSerialised : Buffer}
    {shouldUseTls : Bool}
    {outcome : Except Failure Unit}
    (member :
      ⟨.deliverParcel internetAddress parcelSerialised shouldUseTls, outcome⟩ ∈
        trace) :
    outcome ∈ attempts trace :=
  List.mem_filterMap.mpr ⟨_, member, rfl⟩

/-- A channel that is found leads to the gateway on record. -/
theorem gateway_of_lookup
    {libraries : Libraries}
    {peerId : String}
    {lookup later : List Call}
    {channel : InternetPrivateEndpointChannel}
    {before after : State}
    (found : LookupRun peerId lookup (.ok (some channel)))
    (performed : Run (Performed libraries) before (lookup ++ later) after) :
    before.gatewayOf peerId = some channel.peer.internetAddress ∧
      ⟨.getChannel peerId channel.peer.internetAddress, .ok (some channel)⟩ ∈
        lookup := by
  cases found with
  | found record =>
      obtain ⟨_, ⟨_, recordFound, -⟩, _, ⟨_, channelFound, -⟩, -⟩ := by
        simpa only [List.cons_append, List.nil_append, Run.cons_iff]
          using performed
      rw [channelFound.2.1]
      exact ⟨gatewayOf_of_found recordFound, by simp⟩

section Requests

variable {libraries : Libraries}
  {endpoint : InternetEndpoint}
  {shouldUseTls : Bool}
  {request : PostRequest}

/-- A request was refused, found no channel, made no parcel or attempted one delivery. -/
inductive Answer
    (libraries : Libraries)
    (endpoint : InternetEndpoint)
    (shouldUseTls : Bool)
    (request : PostRequest) :
    List Call → Except Failure Reply → Prop where
  | refused
      (logs : List LogEntry) :
      Unacceptable libraries endpoint request →
      Answer libraries endpoint shouldUseTls request []
        (.ok ⟨HttpStatusCodes.badRequest, none, logs⟩)
  | channelless
      (event : CloudEvent)
      (messageOptions : OutgoingServiceMessageOptions)
      (lookup : List Call)
      (found : Except Failure (Option InternetPrivateEndpointChannel))
      (logs : List LogEntry) :
      Accepts libraries endpoint request event messageOptions →
      LookupRun messageOptions.peerId lookup found →
      ((∃ failure, found = .error failure) ∨ found = .ok none) →
      Answer libraries endpoint shouldUseTls request lookup
        (.ok ⟨HttpStatusCodes.serviceUnavailable, none, logs⟩)
  | unmade
      (event : CloudEvent)
      (messageOptions : OutgoingServiceMessageOptions)
      (lookup : List Call)
      (channel : InternetPrivateEndpointChannel)
      (failure : Failure) :
      Accepts libraries endpoint request event messageOptions →
      LookupRun messageOptions.peerId lookup (.ok (some channel)) →
      Answer libraries endpoint shouldUseTls request
        (lookup ++ [parcelMade messageOptions channel (.error failure)])
        (.error failure)
  | attempted
      (event : CloudEvent)
      (messageOptions : OutgoingServiceMessageOptions)
      (lookup : List Call)
      (channel : InternetPrivateEndpointChannel)
      (parcelSerialised : Buffer)
      (outcome : Except Failure Unit) :
      Accepts libraries endpoint request event messageOptions →
      LookupRun messageOptions.peerId lookup (.ok (some channel)) →
      Answer libraries endpoint shouldUseTls request
        (lookup ++
          [parcelMade messageOptions channel (.ok parcelSerialised),
            parcelDelivered shouldUseTls channel parcelSerialised outcome])
        (.ok (deliveryReply outcome))

/-- The event of a request determines what it accepts. -/
theorem unacceptable_of_refused
    {event : CloudEvent}
    (converted : libraries.convertMessageToEvent request = .ok event)
    (refused :
      event.source = endpoint.id ∨ event.source = defaultSenderIdKeyword →
      ∀ messageOptions,
        getOutgoingServiceMessageOptions libraries event ≠ .ok messageOptions) :
    Unacceptable libraries endpoint request := by
  rintro other messageOptions ⟨otherConverted, knownSender, accepted⟩
  cases converted.symm.trans otherConverted
  exact refused knownSender messageOptions accepted

theorem PostRun.answer
    {trace : List Call}
    {reply : Except Failure Reply}
    (run : PostRun libraries endpoint shouldUseTls request trace reply) :
    Answer libraries endpoint shouldUseTls request trace reply := by
  cases run with
  | malformedEvent failure malformed =>
      refine .refused [] ?_
      rintro event messageOptions ⟨converted, -, -⟩
      cases malformed.symm.trans converted
  | unknownSender event converted notEndpoint notDefault =>
      refine .refused _ (unacceptable_of_refused converted ?_)
      rintro (isEndpoint | isDefault)
      · exact (notEndpoint isEndpoint).elim
      · exact (notDefault isDefault).elim
  | refusedEvent event logged converted _ refused =>
      refine .refused _ (unacceptable_of_refused converted ?_)
      intro _ messageOptions accepted
      cases refused.symm.trans accepted
  | accepted event messageOptions _ _ converted knownSender decoded sending =>
      have accepts :
          Accepts libraries endpoint request event messageOptions :=
        ⟨converted, knownSender, decoded⟩
      cases sending with
      | lookupFailed _ failure lookedUp =>
          exact .channelless event messageOptions trace _ _ accepts lookedUp
            (.inl ⟨failure, rfl⟩)
      | unknownPeer _ lookedUp =>
          exact .channelless event messageOptions trace _ _ accepts lookedUp
            (.inr rfl)
      | unmade lookup channel failure lookedUp =>
          exact .unmade event messageOptions lookup channel failure accepts
            lookedUp
      | attempted lookup channel parcelSerialised outcome lookedUp =>
          exact .attempted event messageOptions lookup channel parcelSerialised
            outcome accepts lookedUp

/-- A request without an acceptable event is answered 400. -/
theorem badRequest_of_unacceptable
    {trace : List Call}
    {reply : Except Failure Reply}
    (runs : Runs (handler libraries endpoint shouldUseTls request) trace reply)
    (unacceptable : Unacceptable libraries endpoint request) :
    statusOf reply = HttpStatusCodes.badRequest := by
  cases (handler_runs runs).answer with
  | refused =>
      rfl
  | channelless event messageOptions _ _ _ accepts =>
      exact (unacceptable event messageOptions accepts).elim
  | unmade event messageOptions _ _ _ accepts =>
      exact (unacceptable event messageOptions accepts).elim
  | attempted event messageOptions _ _ _ _ accepts =>
      exact (unacceptable event messageOptions accepts).elim

/-- A request that sent nothing meets the contract when its answer fits its reason. -/
theorem contract_of_unsent
    {before : State}
    {trace : List Call}
    {reply : Except Failure Reply}
    (unsent : attempts trace = [])
    (answered :
      statusOf reply = HttpStatusCodes.badRequest ∨
        statusOf reply = HttpStatusCodes.serviceUnavailable ∨
        statusOf reply = HttpStatusCodes.internalServerError)
    (badRequest :
      statusOf reply = HttpStatusCodes.badRequest →
      Unacceptable libraries endpoint request)
    (serviceUnavailable :
      statusOf reply = HttpStatusCodes.serviceUnavailable →
      ∃ event messageOptions,
        Accepts libraries endpoint request event messageOptions ∧
          ((∃ failure,
              Runs (InternetEndpoint.getPeerChannel messageOptions.peerId)
                trace (.error failure)) ∨
            Runs (InternetEndpoint.getPeerChannel messageOptions.peerId)
              trace (.ok none))) :
    AcknowledgementContract libraries endpoint request before trace reply where
  sentAtMostOnce := by
    simp [unsent]
  sentAfterChecks := by
    intro internetAddress parcelSerialised shouldUseTls outcome member
    have attempted := mem_attempts member
    rw [unsent] at attempted
    cases attempted
  noContent_iff := by
    rcases answered with code | code | code <;>
      simp [unsent, code, HttpStatusCodes.noContent, HttpStatusCodes.badRequest,
        HttpStatusCodes.serviceUnavailable,
        HttpStatusCodes.internalServerError]
  badGateway_iff := by
    rcases answered with code | code | code <;>
      simp [unsent, code, HttpStatusCodes.badGateway, HttpStatusCodes.badRequest,
        HttpStatusCodes.serviceUnavailable,
        HttpStatusCodes.internalServerError]
  badRequest := fun refused => ⟨badRequest refused, unsent⟩
  serviceUnavailable := fun missing => ⟨serviceUnavailable missing, unsent⟩
  unmade := by
    intro _ _ _ _ _
    rcases answered with code | code | code <;>
      simp [unsent, code, HttpStatusCodes.badRequest,
        HttpStatusCodes.serviceUnavailable,
        HttpStatusCodes.internalServerError]

/-- A request that attempted a delivery is answered by how the attempt settled. -/
theorem contract_of_attempted
    {before after : State}
    {event : CloudEvent}
    {messageOptions : OutgoingServiceMessageOptions}
    {lookup : List Call}
    {channel : InternetPrivateEndpointChannel}
    {parcelSerialised : Buffer}
    {outcome : Except Failure Unit}
    (accepts : Accepts libraries endpoint request event messageOptions)
    (lookedUp : LookupRun messageOptions.peerId lookup (.ok (some channel)))
    (performed :
      Run (Performed libraries) before
        (lookup ++
          [parcelMade messageOptions channel (.ok parcelSerialised),
            parcelDelivered shouldUseTls channel parcelSerialised outcome])
        after) :
    AcknowledgementContract libraries endpoint request before
      (lookup ++
        [parcelMade messageOptions channel (.ok parcelSerialised),
          parcelDelivered shouldUseTls channel parcelSerialised outcome])
      (.ok (deliveryReply outcome)) := by
  have onlyAttempt :
      attempts
          (lookup ++
            [parcelMade messageOptions channel (.ok parcelSerialised),
              parcelDelivered shouldUseTls channel parcelSerialised outcome]) =
        [outcome] := by
    rw [attempts_append, attempts_of_lookup lookedUp]
    rfl
  have answered :
      statusOf (.ok (deliveryReply outcome)) =
        if settlesDelivery outcome then
          HttpStatusCodes.noContent
        else
          HttpStatusCodes.badGateway :=
    rfl
  constructor
  · simp [onlyAttempt]
  · intro internetAddress bytes tls settled member
    obtain ⟨onRecord, found⟩ := gateway_of_lookup lookedUp performed
    have isDelivery :
        (⟨.deliverParcel internetAddress bytes tls, settled⟩ : Call) =
          parcelDelivered shouldUseTls channel parcelSerialised outcome := by
      rcases List.mem_append.mp member with early | late
      · have impossible := mem_attempts early
        rw [attempts_of_lookup lookedUp] at impossible
        cases impossible
      · simpa [parcelMade] using late
    cases isDelivery
    refine ⟨lookup ++ [parcelMade messageOptions channel (.ok parcelSerialised)],
      event, messageOptions, channel, by simp [parcelDelivered],
      accepts, ?_, onRecord, List.mem_append_left _ found, by simp⟩
    exact (getOutgoingServiceMessageOptions_eq_ok_iff.mp accepts.2.2).2.1
  · rw [onlyAttempt, answered]
    cases settles : settlesDelivery outcome with
    | true =>
        simp [← settlesDelivery_iff, settles]
    | false =>
        simp [← settlesDelivery_iff, settles, HttpStatusCodes.noContent,
          HttpStatusCodes.badGateway]
  · rw [onlyAttempt, answered]
    cases settles : settlesDelivery outcome with
    | true =>
        simp [← settlesDelivery_iff, settles, HttpStatusCodes.noContent,
          HttpStatusCodes.badGateway]
    | false =>
        simp [← settlesDelivery_iff, settles]
  · rw [answered]
    intro refused
    split at refused <;> cases refused
  · rw [answered]
    intro missing
    split at missing <;> cases missing
  · intro other serviceMessage options failure member
    rcases List.mem_append.mp member with early | late
    · exact (makeMessage_notMem_lookup lookedUp _ _ _ _ early).elim
    · simp [parcelMade, parcelDelivered] at late

/-- The answer to every request keeps the contract. -/
theorem acknowledgementContract
    {trace : List Call}
    {reply : Except Failure Reply}
    {before after : State}
    (runs : Runs (handler libraries endpoint shouldUseTls request) trace reply)
    (performed : Run (Performed libraries) before trace after) :
    AcknowledgementContract libraries endpoint request before trace reply := by
  cases (handler_runs runs).answer with
  | refused logs unacceptable =>
      exact contract_of_unsent rfl (.inl rfl) (fun _ => unacceptable)
        (fun impossible => by cases impossible)
  | channelless event messageOptions _ found logs accepts lookedUp missing =>
      refine contract_of_unsent (attempts_of_lookup lookedUp)
        (.inr (.inl rfl)) (fun impossible => by cases impossible) fun _ => ?_
      refine ⟨event, messageOptions, accepts, ?_⟩
      rcases missing with ⟨failure, rfl⟩ | rfl
      · exact .inl ⟨failure, getPeerChannel_runs_iff.mpr lookedUp⟩
      · exact .inr (getPeerChannel_runs_iff.mpr lookedUp)
  | unmade event messageOptions lookup channel failure accepts lookedUp =>
      refine contract_of_unsent ?_ (.inr (.inr rfl))
        (fun impossible => by cases impossible)
        (fun impossible => by cases impossible)
      rw [attempts_append, attempts_of_lookup lookedUp]
      rfl
  | attempted event messageOptions lookup channel _ outcome accepts lookedUp =>
      exact contract_of_attempted accepts lookedUp performed

end Requests

/-- The options of the stub event. -/
def stubOptions : OutgoingServiceMessageOptions where
  parcelId := "message"
  peerId := Stubs.peerId
  contentType := "text/plain"
  content := []
  ttl := .integer 1
  creationDate := subHours (some epoch) clockDriftToleranceHours

/-- The channel that is found for the stub event. -/
def stubChannel : InternetPrivateEndpointChannel where
  peer := ⟨Stubs.peerId, Stubs.peerAddress, Stubs.peerKey⟩
  deliveryAuthPath := Stubs.deliveryAuth [0]

/-- The stores once the channel of the stub peer was saved. -/
def stubState : State where
  peerEndpoints := [⟨Stubs.peerId, Stubs.peerAddress⟩]
  identityKeys := fun _ => some Stubs.peerKey
  sessionKeys := fun _ => none
  deliveryAuths := fun _ => [Stubs.deliveryAuth [0]]
  unboundSessionKeys := fun _ => []
  emitterFunction := none

/-- The calls that deliver the stub event, with the outcome of the delivery. -/
def stubTrace (outcome : Except Failure Unit) : List Call :=
  [⟨.findOne Stubs.peerId, .ok (some ⟨Stubs.peerId, Stubs.peerAddress⟩)⟩,
    ⟨.getChannel Stubs.peerId Stubs.peerAddress, .ok (some stubChannel)⟩,
    parcelMade stubOptions stubChannel (.ok [7]),
    parcelDelivered true stubChannel [7] outcome]

/-- A parcel that the gateway refuses as invalid is not sent again. -/
theorem acknowledgementContract_stubs :
    AcknowledgementContract
      (Stubs.clientLibraries (Stubs.outgoingEvent "epoch" "later"))
      Stubs.endpoint Stubs.request stubState
      (stubTrace (.error (.thrown .pohttpInvalidParcelError "invalid")))
      (.ok ⟨HttpStatusCodes.noContent, none,
        [⟨.info, "Gateway refused parcel as invalid"⟩]⟩) := by
  refine @acknowledgementContract _ _ true _ _ _ _ stubState ?_ ?_
  · refine runs_await_iff.mpr ⟨_, _, rfl, ?_⟩
    refine runs_await_iff.mpr ⟨_, _, rfl, ?_⟩
    refine runs_await_iff.mpr ⟨_, _, rfl, ?_⟩
    refine runs_await_iff.mpr ⟨_, _, rfl, ?_⟩
    exact runs_settled_iff.mpr ⟨rfl, rfl⟩
  · refine .next ⟨epoch, rfl, rfl⟩ (.next ⟨epoch, ?_, rfl⟩
      (.next ⟨epoch, rfl⟩ (.next ⟨epoch, rfl⟩ (.done _))))
    decide

end PohttpClient

end AwalaEndpoint
