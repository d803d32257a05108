import AwalaEndpoint.AdvertisedChannels
import AwalaEndpoint.ServiceMessageRoundTrip

namespace AwalaEndpoint

open Awaiting LabelledRuns

/-!
# Relaying messages between gateways and the app

What reaches the app are the messages of checked parcels, each handed over once
by the request that brought it.  What the app sends back as it is reaches, if
anybody, the private endpoint that it came from.
-/

namespace ParcelDelivery

variable {libraries : Libraries}
  {endpoint : InternetEndpoint}
  {emitter : Emitter}
  {body : Buffer}
  {earlier later : List Call}
  {emitterFunction : EmitterFunction}
  {event : CloudEvent}
  {outcome : Except Failure Unit}
  {reply : Except Failure Reply}

/-- The reply once an event was handed over with the given outcome. -/
def emissionReply (outcome : Except Failure Unit) : Except Failure Reply :=
  (outcome.mapError (.wrapped "Failed to emit event")).map fun _ =>
    acceptedReply "Parcel is valid and has been queued"

/-- A request that hands an event over is done, and the event is that of its message. -/
theorem DeliveryRun.of_emission
    (run :
      DeliveryRun libraries endpoint emitter body
        (earlier ++ ⟨.callEmitterFunction emitterFunction event, outcome⟩ ::
          later)
        reply) :
    ∃ parcel serviceMessage,
      Checked libraries endpoint body earlier parcel serviceMessage ∧
        serviceMessage.type ≠ pdaPathType ∧
        makeIncomingServiceMessageEvent libraries
            (incomingOptions parcel serviceMessage) = .ok event ∧
        emittedEvents earlier = [] ∧
        later = [] ∧
        reply = emissionReply outcome := by
  obtain ⟨parcel, serviceMessage, processing, rfl, checked, processes⟩ :=
    run.checked rfl
  generalize shape :
      processing ++
        ⟨.callEmitterFunction emitterFunction event, outcome⟩ :: later =
      trace at processes
  have member :
      (⟨.callEmitterFunction emitterFunction event, outcome⟩ : Call) ∈
        trace := by
    simp [← shape]
  cases processes with
  | malformedParams =>
      cases member
  | channel connectionParams _ _ _ _ saving =>
      cases saveChannel_steps saving <;>
        simp [keysSave, recordUpdate] at member
  | refusedEvent =>
      cases member
  | event made _ _ notPda isEvent emitting =>
      cases emit_runs emitting with
      | handedOver initialisation handler attempt initialises =>
          have afterInitialisation :
              initialisation ++
                  [⟨.callEmitterFunction handler made, attempt⟩] =
                processing ++
                  ⟨.callEmitterFunction emitterFunction event, outcome⟩ ::
                    later :=
            shape.symm
          obtain ⟨rfl, isEmission, rfl⟩ :=
            split_at_last
              (fun inside => by cases initialises _ inside)
              afterInitialisation
          cases isEmission
          have silent : emittedEvents processing = [] :=
            emittedEvents_of_initialisation initialises
          refine ⟨parcel, serviceMessage, checked, notPda, isEvent, ?_, rfl,
            rfl⟩
          exact silent
      | notHandedOver initialisation failure initialises =>
          cases initialises _ member

end ParcelDelivery

/-! ## From gateways to the app -/

section Deployments

variable {Id : Type}
  [DecidableEq Id]
  {deployment : Deployment Id}
  {state : State}
  {events taken later : List (TaskEvent Id)}
  {last : Snapshot Id}
  {task : Task Id}
  {emitterFunction : EmitterFunction}
  {event : CloudEvent}
  {outcome : Except Failure Unit}

/-- An event that a task hands over is that of a parcel that passed all checks. -/
theorem Deployment.checked_of_emission
    (run :
      Run (DeploymentStep deployment.libraries) (deployment.start state) events
        last)
    (shape :
      events =
        taken ++
          .performed task
            ⟨.callEmitterFunction emitterFunction event, outcome⟩ :: later) :
    ∃ id parcel serviceMessage,
      task = .parcel id ∧
        ParcelDelivery.Checked deployment.libraries deployment.endpoint
          (deployment.parcelBody id) (performedBy (.parcel id) taken) parcel
          serviceMessage ∧
        serviceMessage.type ≠ ParcelDelivery.pdaPathType ∧
        makeIncomingServiceMessageEvent deployment.libraries
            (ParcelDelivery.incomingOptions parcel serviceMessage) =
          .ok event ∧
        emittedEvents (performedBy (.parcel id) taken) = [] ∧
        performedBy (.parcel id) later = [] := by
  have member :
      .performed task ⟨.callEmitterFunction emitterFunction event, outcome⟩ ∈
        events := by
    simp [shape]
  have awaits := Deployment.mayAwait_of_performed run member
  cases task with
  | parcel id =>
      obtain ⟨rest, reply, runs⟩ := Deployment.completes_at run shape
      obtain ⟨parcel, serviceMessage, checked, notPda, isEvent, isFirst, isLast,
        -⟩ := (ParcelDelivery.handler_runs runs).of_emission
      exact ⟨id, parcel, serviceMessage, rfl, checked, notPda, isEvent, isFirst,
        (List.append_eq_nil_iff.mp isLast).1⟩
  | _ =>
      cases awaits

/-- A request that has just handed an event over has settled. -/
theorem Deployment.settled_of_emission
    {id : Id}
    (run :
      Run (DeploymentStep deployment.libraries) (deployment.start state)
        (taken ++
          [.performed (.parcel id)
            ⟨.callEmitterFunction emitterFunction event, outcome⟩])
        last) :
    last.processes (.parcel id) =
      some (.settled (ParcelDelivery.emissionReply outcome)) := by
  obtain ⟨_, -, stepped⟩ := Run.append_iff.mp run
  obtain ⟨_, handsOver, isLast⟩ := Run.cons_iff.mp stepped
  obtain ⟨remaining, live⟩ := handsOver.processes_performed
  rw [Run.nil_iff.mp isLast] at live
  have steps := caller_steps_of_live run rfl live
  rw [performedBy_concat_same] at steps
  have ends :
      ∀ rest result,
        Runs remaining rest result →
        rest = [] ∧ result = ParcelDelivery.emissionReply outcome := by
    intro rest result runs
    have whole := steps.append runs
    rw [List.append_assoc, List.singleton_append] at whole
    obtain ⟨_, _, -, -, -, -, noRest, isReply⟩ :=
      (ParcelDelivery.handler_runs whole).of_emission
    exact ⟨noRest, isReply⟩
  obtain ⟨result, rfl⟩ :=
    settled_of_silent (Failure.unavailable "")
      fun rest result runs => (ends rest result runs).1
  rw [live, (ends [] result (.done _)).2]

end Deployments

/--
What is handed over to the app is the event of a parcel that passed all checks.
The request that brought the parcel hands it over once, does nothing after it and
has settled right away; it replies that the parcel was queued exactly when this
succeeded.
-/
theorem emitted_once_after_checks
    {Id : Type}
    [DecidableEq Id]
    {deployment : Deployment Id}
    {state : State}
    {events taken later : List (TaskEvent Id)}
    {last : Snapshot Id}
    {task : Task Id}
    {emitterFunction : EmitterFunction}
    {event : CloudEvent}
    {outcome : Except Failure Unit}
    (run :
      Run (DeploymentStep deployment.libraries) (deployment.start state) events
        last)
    (shape :
      events =
        taken ++
          .performed task
            ⟨.callEmitterFunction emitterFunction event, outcome⟩ :: later) :
    ∃ id parcel serviceMessage,
      task = .parcel id ∧
        ParcelDelivery.Checked deployment.libraries deployment.endpoint
          (deployment.parcelBody id) (performedBy (.parcel id) taken) parcel
          serviceMessage ∧
        serviceMessage.type ≠ ParcelDelivery.pdaPathType ∧
        makeIncomingServiceMessageEvent deployment.libraries
            (ParcelDelivery.incomingOptions parcel serviceMessage) =
          .ok event ∧
        emittedEvents (performedBy (.parcel id) events) = [event] ∧
        performedBy (.parcel id) later = [] ∧
        (∀ middle,
          Run (DeploymentStep deployment.libraries) (deployment.start state)
            (taken ++
              [.performed task
                ⟨.callEmitterFunction emitterFunction event, outcome⟩])
            middle →
          middle.processes (.parcel id) =
            some (.settled (ParcelDelivery.emissionReply outcome))) ∧
        ∀ reply,
          last.processes (.parcel id) = some (.settled reply) →
          reply = ParcelDelivery.emissionReply outcome ∧
            (statusOf reply = HttpStatusCodes.accepted ↔ outcome = .ok ()) := by
  obtain ⟨id, parcel, serviceMessage, rfl, checked, notPda, isEvent, isFirst,
    isLast⟩ := Deployment.checked_of_emission run shape
  have trace :
      performedBy (.parcel id) events =
        performedBy (.parcel id) taken ++
          [⟨.callEmitterFunction emitterFunction event, outcome⟩] := by
    rw [shape, performedBy_append, performedBy_cons_same, isLast]
  refine ⟨id, parcel, serviceMessage, rfl, checked, notPda, isEvent, ?_, isLast,
    fun _ untilEmission => Deployment.settled_of_emission untilEmission, ?_⟩
  · rw [trace, emittedEvents, List.filterMap_append]
    rw [emittedEvents] at isFirst
    rw [isFirst]
    rfl
  · intro reply settled
    have runs := caller_runs run rfl settled
    rw [trace] at runs
    obtain ⟨_, _, -, -, -, -, -, rfl⟩ :=
      (ParcelDelivery.handler_runs runs).of_emission
    refine ⟨rfl, ?_⟩
    cases outcome with
    | ok answer =>
        exact iff_of_true rfl rfl
    | error failure =>
        exact iff_of_false (by decide : (500 : Nat) ≠ 202) (by simp)

namespace Stubs

/-- A message that carries no connection parameters. -/
def textMessage : ServiceMessage := ⟨"text/plain", [1]⟩

/-- The event of this message in the newer parcel. -/
def relayedEvent : CloudEvent :=
  incomingServiceMessageAttributes
    (ParcelDelivery.incomingOptions newerParcel textMessage)

/-- A deployment whose app sends this event back. -/
def relayDeployment : Deployment Bool :=
  deploymentOf relayedEvent.echo ofISOString

/-- The calls of the newer parcel before its message is handed over. -/
def relayTrace : List Call :=
  ParcelDelivery.checks newerParcel textMessage ++
    [⟨.loadEmitterFunction, .ok (some ⟨0⟩)⟩,
      ⟨.loadEmitterFunction, .ok (some ⟨0⟩)⟩]

/-- The message of the newer parcel is handed over. -/
def handedOver : TaskEvent Bool :=
  .performed (.parcel true) ⟨.callEmitterFunction ⟨0⟩ relayedEvent, .ok ()⟩

/-- The newer parcel is checked and its message is handed over. -/
def parcelRelayed : List (TaskEvent Bool) :=
  relayTrace.map (.performed (.parcel true)) ++ [handedOver]

theorem parcelRelayed_run
    {world : State}
    {processes :
      (task : Task Bool) → Option (Promise task.Result)}
    (awaits :
      processes (.parcel true) =
        some (relayDeployment.program (.parcel true))) :
    Run (DeploymentStep relayDeployment.libraries) ⟨world, processes⟩
      parcelRelayed
      ⟨world,
        Function.update processes (.parcel true)
          (some (.settled (ParcelDelivery.emissionReply (.ok ()))))⟩ := by
  have performed :
      Run (PerformedInDeployment relayDeployment.libraries) world
        (relayTrace ++ [⟨.callEmitterFunction ⟨0⟩ relayedEvent, .ok ()⟩])
        world :=
    .next ⟨epoch, rfl⟩ (.next ⟨epoch, rfl⟩ (.next rfl (.next rfl
      (.next ⟨epoch, rfl⟩ (.done _)))))
  have runs :
      Runs (relayDeployment.program (.parcel true))
        (relayTrace ++ [⟨.callEmitterFunction ⟨0⟩ relayedEvent, .ok ()⟩])
        (ParcelDelivery.emissionReply (.ok ())) := by
    refine runs_await_iff.mpr ⟨_, _, rfl, ?_⟩
    refine runs_await_iff.mpr ⟨_, _, rfl, ?_⟩
    refine runs_await_iff.mpr ⟨_, _, rfl, ?_⟩
    refine runs_await_iff.mpr ⟨_, _, rfl, ?_⟩
    refine runs_await_iff.mpr ⟨_, _, rfl, ?_⟩
    exact runs_settled_iff.mpr ⟨rfl, rfl⟩
  have alone := run_alone runs performed awaits
  rw [List.map_append] at alone
  exact alone

end Stubs

/-- The message of the stub parcel is handed over once and replied to as queued. -/
theorem emitted_once_after_checks_stubs :
    ∃ last : Snapshot Bool,
      Run (DeploymentStep Stubs.relayDeployment.libraries)
          (Stubs.relayDeployment.start State.empty) Stubs.parcelRelayed last ∧
        emittedEvents (performedBy (.parcel true) Stubs.parcelRelayed) =
          [Stubs.relayedEvent] ∧
        last.processes (.parcel true) =
          some (.settled (ParcelDelivery.emissionReply (.ok ()))) := by
  have awaits :
      (Stubs.relayDeployment.start State.empty).processes (.parcel true) =
        some (Stubs.relayDeployment.program (.parcel true)) :=
    rfl
  have run := @Stubs.parcelRelayed_run State.empty _ awaits
  obtain ⟨id, _, _, isParcel, -, -, -, isOnly, -, settled, -⟩ :=
    emitted_once_after_checks run rfl
  cases isParcel
  exact ⟨_, run, isOnly, settled _ run⟩

/-! ## From the app to gateways -/

namespace PohttpClient

/-- A parcel is made for the channel that was found with the recipient of the event. -/
theorem PostRun.of_making
    {libraries : Libraries}
    {endpoint : InternetEndpoint}
    {shouldUseTls : Bool}
    {request : PostRequest}
    {earlier later : List Call}
    {channel : InternetPrivateEndpointChannel}
    {serviceMessage : ServiceMessage}
    {options : MessageOptions}
    {outcome : Except Failure Buffer}
    {reply : Except Failure Reply}
    (run :
      PostRun libraries endpoint shouldUseTls request
        (earlier ++
          ⟨.makeMessage channel serviceMessage options, outcome⟩ :: later)
        reply) :
    ∃ event messageOptions address,
      Accepts libraries endpoint request event messageOptions ∧
        ⟨.getChannel messageOptions.peerId address, .ok (some channel)⟩ ∈
          earlier ∧
        serviceMessage = messageOptions.serviceMessage ∧
        options = messageOptions.messageOptions := by
  have answered := run.answer
  generalize shape :
      earlier ++
        ⟨.makeMessage channel serviceMessage options, outcome⟩ :: later =
      trace at answered
  have member :
      (⟨.makeMessage channel serviceMessage options, outcome⟩ : Call) ∈
        trace := by
    simp [← shape]
  cases answered with
  | refused =>
      cases member
  | channelless _ _ _ _ _ _ looksUp =>
      exact absurd member (makeMessage_notMem_lookup looksUp _ _ _ _)
  | unmade event messageOptions lookup found failure accepts looksUp =>
      obtain ⟨middle, rfl, isMaking⟩ :=
        split_after (makeMessage_notMem_lookup looksUp _ _ _ _) shape.symm
      cases looksUp with
      | found record =>
          cases middle with
          | nil =>
              cases (List.cons.inj isMaking).1
              exact ⟨event, messageOptions, record.internetGatewayAddress,
                accepts, by simp, rfl, rfl⟩
          | cons =>
              simp at isMaking
  | attempted event messageOptions lookup found serialised attempt accepts
      looksUp =>
      obtain ⟨middle, rfl, isMaking⟩ :=
        split_after (makeMessage_notMem_lookup looksUp _ _ _ _) shape.symm
      cases looksUp with
      | found record =>
          rcases middle with _ | ⟨first, _ | ⟨second, rest⟩⟩
          · cases (List.cons.inj isMaking).1
            exact ⟨event, messageOptions, record.internetGatewayAddress,
              accepts, by simp, rfl, rfl⟩
          · cases (List.cons.inj (List.cons.inj isMaking).2).1
          · simp at isMaking

/-- An accepted event is not refused. -/
theorem Answer.notRefused
    {libraries : Libraries}
    {endpoint : InternetEndpoint}
    {shouldUseTls : Bool}
    {request : PostRequest}
    {trace : List Call}
    {reply : Except Failure Reply}
    {event : CloudEvent}
    {messageOptions : OutgoingServiceMessageOptions}
    (answered : Answer libraries endpoint shouldUseTls request trace reply)
    (accepts : Accepts libraries endpoint request event messageOptions) :
    statusOf reply ≠ HttpStatusCodes.badRequest := by
  cases answered with
  | refused _ unacceptable =>
      exact (unacceptable event messageOptions accepts).elim
  | channelless =>
      exact (by decide : (503 : Nat) ≠ 400)
  | unmade =>
      exact (by decide : (500 : Nat) ≠ 400)
  | attempted _ _ _ _ _ outcome =>
      rw [statusOf_ok, deliveryReply]
      split
      · exact (by decide : (204 : Nat) ≠ 400)
      · exact (by decide : (502 : Nat) ≠ 400)

/-- The message that an accepted event describes is delivered. -/
theorem Accepts.handler_eq
    {libraries : Libraries}
    {endpoint : InternetEndpoint}
    {request : PostRequest}
    {event : CloudEvent}
    {messageOptions : OutgoingServiceMessageOptions}
    (accepts : Accepts libraries endpoint request event messageOptions)
    (shouldUseTls : Bool) :
    handler libraries endpoint shouldUseTls request =
      deliverMessage shouldUseTls messageOptions := by
  obtain ⟨converted, knownSender, decoded⟩ := accepts
  have notUnknown :
      ¬ (event.source ≠ endpoint.id ∧
        event.source ≠ defaultSenderIdKeyword) := by
    rintro ⟨notEndpoint, notDefault⟩
    exact knownSender.elim notEndpoint notDefault
  simp only [handler, converted, if_neg notUnknown, decoded]

/-- A request has one accepted event at most. -/
theorem Accepts.unique
    {libraries : Libraries}
    {endpoint : InternetEndpoint}
    {request : PostRequest}
    {event other : CloudEvent}
    {messageOptions otherOptions : OutgoingServiceMessageOptions}
    (accepts : Accepts libraries endpoint request event messageOptions)
    (otherAccepts : Accepts libraries endpoint request other otherOptions) :
    otherOptions = messageOptions := by
  obtain ⟨converted, -, decoded⟩ := accepts
  obtain ⟨otherConverted, -, otherDecoded⟩ := otherAccepts
  cases converted.symm.trans otherConverted
  exact Except.ok.inj (otherDecoded.symm.trans decoded)

end PohttpClient

/-- A parcel is made for the channel with the recipient of the event, and of its message. -/
theorem Deployment.accepted_of_making
    {Id : Type}
    [DecidableEq Id]
    {deployment : Deployment Id}
    {state : State}
    {events : List (TaskEvent Id)}
    {last : Snapshot Id}
    {id : Id}
    {channel : InternetPrivateEndpointChannel}
    {serviceMessage : ServiceMessage}
    {options : MessageOptions}
    {outcome : Except Failure Buffer}
    (run :
      Run (DeploymentStep deployment.libraries) (deployment.start state) events
        last)
    (member :
      .performed (.event id)
          ⟨.makeMessage channel serviceMessage options, outcome⟩ ∈ events) :
    ∃ event messageOptions,
      PohttpClient.Accepts deployment.libraries deployment.endpoint
          (deployment.eventRequest id) event messageOptions ∧
        channel.peer.id = messageOptions.peerId ∧
        serviceMessage = messageOptions.serviceMessage ∧
        options = messageOptions.messageOptions := by
  obtain ⟨untilMade, afterwards, split⟩ := List.append_of_mem member
  obtain ⟨rest, reply, runs⟩ := completes_at run split
  obtain ⟨event, messageOptions, address, accepts, found, isMessage,
    areOptions⟩ := (PohttpClient.handler_runs runs).of_making
  have fetched :
      .performed (.event id)
          ⟨.getChannel messageOptions.peerId address, .ok (some channel)⟩ ∈
        events := by
    rw [split]
    exact List.mem_append_left _ (mem_performedBy_iff.mp found)
  obtain ⟨_, _, _, _, -, -, performed, -⟩ := split_at_performed run fetched
  obtain ⟨_, ⟨isPeer, -⟩, -⟩ := performed.performed rfl
  exact ⟨event, messageOptions, accepts, isPeer, isMessage, areOptions⟩

/--
The message of a parcel can be sent back as the event it was made into, and the
`CloudEvent` constructor keeps the attributes of this event.
-/
structure CanBeSentBack
    (libraries : Libraries)
    (endpoint : InternetEndpoint)
    (parcel : Parcel)
    (serviceMessage : ServiceMessage) : Prop where
  keeps :
    KeepsAttributes libraries
      (incomingServiceMessageAttributes
        (ParcelDelivery.incomingOptions parcel serviceMessage))
  isRecipient : parcel.recipient.id = endpoint.id
  ordered : parcel.creationDate.milliseconds ≤ parcel.expiryDate.milliseconds
  creationWhole : parcel.creationDate.IsWholeSecond
  expiryWhole : parcel.expiryDate.IsWholeSecond

/-- The event of such a message is accepted when it is sent back, as an answer to it. -/
theorem accepts_echo
    {libraries : Libraries}
    {endpoint : InternetEndpoint}
    {request : PostRequest}
    {parcel : Parcel}
    {serviceMessage : ServiceMessage}
    {event : CloudEvent}
    (parses : ParsesISOStrings libraries)
    (canBeSentBack : CanBeSentBack libraries endpoint parcel serviceMessage)
    (made :
      makeIncomingServiceMessageEvent libraries
        (ParcelDelivery.incomingOptions parcel serviceMessage) = .ok event)
    (sentBack : libraries.convertMessageToEvent request = .ok event.echo) :
    ∃ messageOptions,
      PohttpClient.Accepts libraries endpoint request event.echo
          messageOptions ∧
        Answers parcel serviceMessage messageOptions := by
  cases made.symm.trans canBeSentBack.keeps
  have decoded :=
    decode_echo parses (ParcelDelivery.incomingOptions parcel serviceMessage)
      canBeSentBack.ordered
  refine ⟨_, ⟨sentBack, .inl canBeSentBack.isRecipient, decoded⟩, ?_⟩
  exact ⟨rfl, rfl, rfl, rfl, _, rfl,
    tdiv_mul_of_wholeSeconds canBeSentBack.creationWhole
      canBeSentBack.expiryWhole⟩

/--
An event that the app sends back as it got it is not refused, and whatever
parcel is made of it answers the parcel that brought the message: it is for the
channel with the sender and has the same id, content and lifetime.
-/
theorem echo_returns_to_sender
    {Id : Type}
    [DecidableEq Id]
    {deployment : Deployment Id}
    {state : State}
    {events : List (TaskEvent Id)}
    {last : Snapshot Id}
    {task : Task Id}
    {id : Id}
    {emitterFunction : EmitterFunction}
    {event : CloudEvent}
    {outcome : Except Failure Unit}
    (parses : ParsesISOStrings deployment.libraries)
    (run :
      Run (DeploymentStep deployment.libraries) (deployment.start state) events
        last)
    (emitted :
      .performed task ⟨.callEmitterFunction emitterFunction event, outcome⟩ ∈
        events)
    (sentBack :
      deployment.libraries.convertMessageToEvent (deployment.eventRequest id) =
        .ok event.echo) :
    ∃ source parcel serviceMessage,
      task = .parcel source ∧
        ParcelDelivery.Checked deployment.libraries deployment.endpoint
          (deployment.parcelBody source) (performedBy (.parcel source) events)
          parcel serviceMessage ∧
        (CanBeSentBack deployment.libraries deployment.endpoint parcel
            serviceMessage →
          (∀ reply,
              last.processes (.event id) = some (.settled reply) →
              statusOf reply ≠ HttpStatusCodes.badRequest) ∧
            ∀ channel answer options made,
              .performed (.event id)
                  ⟨.makeMessage channel answer options, made⟩ ∈ events →
              channel.peer.id =
                  parcel.senderCertificate.calculateSubjectId ∧
                ∃ messageOptions,
                  Answers parcel serviceMessage messageOptions ∧
                    answer = messageOptions.serviceMessage ∧
                    options = messageOptions.messageOptions) := by
  obtain ⟨taken, later, shape⟩ := List.append_of_mem emitted
  obtain ⟨source, parcel, serviceMessage, rfl, checked, -, isEvent, -, -⟩ :=
    Deployment.checked_of_emission run shape
  refine ⟨source, parcel, serviceMessage, rfl, ?_, ?_⟩
  · rw [shape, performedBy_append]
    exact checked.extend _
  · intro canBeSentBack
    obtain ⟨messageOptions, accepts, answers⟩ :=
      accepts_echo parses canBeSentBack isEvent sentBack
    constructor
    · intro reply settled
      have runs := caller_runs run rfl settled
      exact (PohttpClient.handler_runs runs).answer.notRefused accepts
    · intro channel answer options made member
      obtain ⟨other, otherOptions, otherAccepts, isPeer, isAnswer,
        areOptions⟩ := Deployment.accepted_of_making run member
      cases accepts.unique otherAccepts
      exact ⟨isPeer.trans answers.sentBack, messageOptions, answers, isAnswer,
        areOptions⟩

namespace Stubs

/-- The options that are read off the event that the app sends back. -/
def relayedOptions : OutgoingServiceMessageOptions where
  parcelId := newerParcel.id
  peerId := peerId
  contentType := textMessage.type
  content := textMessage.content
  ttl :=
    .integer
      ((newerParcel.expiryDate.milliseconds -
        newerParcel.creationDate.milliseconds).tdiv 1000)
  creationDate :=
    subHours (some newerParcel.creationDate) clockDriftToleranceHours

theorem relayLibraries_parse :
    ParsesISOStrings relayDeployment.libraries :=
  ⟨isoLibraries_parse.newDate, isoLibraries_parse.parseISO⟩

theorem relayed_canBeSentBack :
    CanBeSentBack relayDeployment.libraries relayDeployment.endpoint newerParcel
      textMessage where
  keeps := rfl
  isRecipient := rfl
  ordered := by decide
  creationWhole := rfl
  expiryWhole := rfl

/-- A parcel is made of the event that the app sends back. -/
def relayedParcelMade : Call :=
  PohttpClient.parcelMade relayedOptions PohttpClient.stubChannel (.ok [7])

/-- The calls of the event that the app sends back. -/
def echoTrace : List Call :=
  [⟨.findOne peerId, .ok (some ⟨peerId, peerAddress⟩)⟩,
    ⟨.getChannel peerId peerAddress, .ok (some PohttpClient.stubChannel)⟩,
    relayedParcelMade,
    PohttpClient.parcelDelivered true PohttpClient.stubChannel [7] (.ok ())]

theorem echoed_accepts :
    PohttpClient.Accepts relayDeployment.libraries relayDeployment.endpoint
      (relayDeployment.eventRequest false) relayedEvent.echo relayedOptions :=
  ⟨rfl, .inl rfl,
    decode_echo relayLibraries_parse
      (ParcelDelivery.incomingOptions newerParcel textMessage) (by decide)⟩

/-- The parcel of the event that the app sends back is delivered. -/
theorem echoed_run
    {processes :
      (task : Task Bool) → Option (Promise task.Result)}
    (awaits :
      processes (.event false) =
        some (relayDeployment.program (.event false))) :
    Run (DeploymentStep relayDeployment.libraries) ⟨storedState, processes⟩
      (echoTrace.map (.performed (.event false)))
      ⟨storedState,
        Function.update processes (.event false)
          (some (.settled (.ok (PohttpClient.deliveryReply (.ok ())))))⟩ := by
  have channelFound :
      storedState.MayFind epoch peerId peerAddress
        (some PohttpClient.stubChannel) := by
    decide
  have performed :
      Run (Performed relayDeployment.libraries) storedState echoTrace
        storedState :=
    .next ⟨epoch, rfl, rfl⟩ (.next ⟨epoch, channelFound, rfl⟩
      (.next ⟨epoch, rfl⟩ (.next ⟨epoch, rfl⟩ (.done _))))
  have runs :
      Runs (PohttpClient.deliverMessage true relayedOptions) echoTrace
        (.ok (PohttpClient.deliveryReply (.ok ()))) := by
    refine runs_await_iff.mpr ⟨_, _, rfl, ?_⟩
    refine runs_await_iff.mpr ⟨_, _, rfl, ?_⟩
    refine runs_await_iff.mpr ⟨_, _, rfl, ?_⟩
    refine runs_await_iff.mpr ⟨_, _, rfl, ?_⟩
    exact runs_settled_iff.mpr ⟨rfl, rfl⟩
  have isDelivery :
      relayDeployment.program (.event false) =
        PohttpClient.deliverMessage true relayedOptions :=
    echoed_accepts.handler_eq true
  rw [isDelivery] at awaits
  exact run_alone runs (performedInDeployment_run performed (by decide)) awaits

/-- The peer's channel is stored, a message of the peer relayed and sent back. -/
theorem echoed_last :
    ∃ last reply,
      Run (DeploymentStep relayDeployment.libraries)
          (relayDeployment.start State.empty)
          (parcelStored ++ parcelRelayed ++
            echoTrace.map (.performed (.event false)))
          last ∧
        last.processes (.event false) = some (.settled reply) := by
  obtain ⟨stored, storing⟩ := parcelStored_first relayedEvent.echo ofISOString
  have awaitsParcel :
      Function.update (fun task => some (relayDeployment.program task))
          (.parcel false) (some (.settled stored)) (.parcel true) =
        some (relayDeployment.program (.parcel true)) :=
    rfl
  have relaying := @parcelRelayed_run storedState _ awaitsParcel
  have awaitsEvent :
      Function.update
          (Function.update (fun task => some (relayDeployment.program task))
            (.parcel false) (some (.settled stored)))
          (.parcel true)
          (some (.settled (ParcelDelivery.emissionReply (.ok ()))))
          (.event false) =
        some (relayDeployment.program (.event false)) :=
    rfl
  have echoing := echoed_run awaitsEvent
  exact ⟨_, _, (storing.append relaying).append echoing, rfl⟩

end Stubs

/-- What the app sends back in the stub deployment becomes a parcel for its sender. -/
theorem echo_returns_to_sender_stubs :
    ∃ (last : Snapshot Bool) (reply : Except Failure Reply),
      Run (DeploymentStep Stubs.relayDeployment.libraries)
          (Stubs.relayDeployment.start State.empty)
          (Stubs.parcelStored ++ Stubs.parcelRelayed ++
            Stubs.echoTrace.map (.performed (.event false)))
          last ∧
        last.processes (.event false) = some (.settled reply) ∧
        Stubs.relayedParcelMade ∈ Stubs.echoTrace ∧
        statusOf reply ≠ HttpStatusCodes.badRequest ∧
        PohttpClient.stubChannel.peer.id =
          Stubs.newerParcel.senderCertificate.calculateSubjectId ∧
        ∃ messageOptions,
          Answers Stubs.newerParcel Stubs.textMessage messageOptions ∧
            Stubs.relayedOptions.serviceMessage =
              messageOptions.serviceMessage ∧
            Stubs.relayedOptions.messageOptions =
              messageOptions.messageOptions := by
  obtain ⟨last, reply, run, settled⟩ := Stubs.echoed_last
  have made : Stubs.relayedParcelMade ∈ Stubs.echoTrace := by
    simp [Stubs.echoTrace]
  obtain ⟨source, parcel, serviceMessage, isParcel, checked, answered⟩ :=
    @echo_returns_to_sender _ _ _ _ _ _ _ false _ _ _
      Stubs.relayLibraries_parse run
      (List.mem_append_left _
        (List.mem_append_right _
          (List.mem_append_right _ (List.mem_singleton_self Stubs.handedOver))))
      rfl
  cases isParcel
  cases checked.deserialized
  have isMessage : serviceMessage = Stubs.textMessage := by
    have decrypted := mem_performedBy_iff.mp checked.decrypted
    simpa [Stubs.parcelStored, Stubs.parcelRelayed, Stubs.relayTrace,
      Stubs.handedOver, Stubs.echoTrace, ParcelDelivery.checks] using decrypted
  subst isMessage
  obtain ⟨notRefused, answers⟩ := answered Stubs.relayed_canBeSentBack
  obtain ⟨isSender, answersParcel⟩ :=
    answers _ _ _ _
      (List.mem_append_right _ (List.mem_map_of_mem made))
  exact ⟨last, reply, run, settled, made, notRefused reply settled, isSender,
    answersParcel⟩

end AwalaEndpoint
