import AwalaEndpoint.Deployment
import AwalaEndpoint.Library.Relay

namespace AwalaEndpoint

open Awaiting LabelledRuns Relays SharedObjects

/-!
# A deployment is a relay

Seen from outside, a deployment relays: parcels tell it the addresses of private
endpoints or carry messages for the app, and the app has it send messages to
private endpoints.  This module reads the calls of a deployment as the actions of
a relay, with the `PeerEndpoint` collection as its book of addresses, and shows
that every run of the deployment is a run of the relay.
-/

/-- The actions of the relay. -/
abbrev RelayAction :=
  Relays.Action Parcel ServiceMessage String String CloudEvent
    (ServiceMessage × MessageOptions) Buffer

/-- The phases of the jobs of the relay. -/
abbrev RelayPhase :=
  Relays.Phase Parcel ServiceMessage String String CloudEvent
    (ServiceMessage × MessageOptions) Buffer

/-- The action that a call is, if it is one. -/
def relayed : Call → Option RelayAction
  | ⟨.validateMessage parcel, .ok _⟩ => some (.admitted parcel)
  | ⟨.unwrapPayload parcel, .ok serviceMessage⟩ =>
      some (.opened parcel serviceMessage)
  | ⟨.updateOne peerId address, .ok _⟩ => some (.learned peerId address)
  | ⟨.callEmitterFunction _ event, _⟩ => some (.handedOver event)
  | ⟨.findOne peerId, .ok found⟩ =>
      some (.lookedUp peerId (found.map PeerEndpoint.internetGatewayAddress))
  | ⟨.makeMessage channel serviceMessage options, .ok parcelSerialised⟩ =>
      some (.packed channel.peer.id (serviceMessage, options) parcelSerialised)
  | ⟨.deliverParcel address parcelSerialised _, _⟩ =>
      some (.sent address parcelSerialised)
  | _ => none

/-- The actions that the steps of a deployment are. -/
def relayActions
    {Id : Type}
    (events : List (TaskEvent Id)) : List (Task Id × RelayAction) :=
  events.filterMap fun
    | .performed task call => (relayed call).map (Prod.mk task)
    | .crashed _ => none

/-- What the tasks of a deployment bring, and what it means to the endpoint. -/
def Deployment.traffic
    {Id : Type}
    (deployment : Deployment Id) :
    Traffic (Task Id) Parcel ServiceMessage String String CloudEvent
      (ServiceMessage × MessageOptions) where
  brings task parcel :=
    ∃ id,
      task = .parcel id ∧
        deployment.libraries.deserializeParcel (deployment.parcelBody id) =
          .ok parcel
  isForUs parcel :=
    parcel.recipient.internetAddress =
      some deployment.endpoint.internetAddress
  advertises serviceMessage peerId address :=
    serviceMessage.type = ParcelDelivery.pdaPathType ∧
      ∃ connectionParams,
        deployment.libraries.deserializeConnParams serviceMessage.content =
            .ok connectionParams ∧
          deployment.libraries.getIdFromIdentityKey
              connectionParams.identityKey = peerId ∧
          connectionParams.internetGatewayAddress = address
  notes parcel serviceMessage event :=
    serviceMessage.type ≠ ParcelDelivery.pdaPathType ∧
      makeIncomingServiceMessageEvent deployment.libraries
          (ParcelDelivery.incomingOptions parcel serviceMessage) =
        .ok event
  requests task peerId content :=
    ∃ id event messageOptions,
      task = .event id ∧
        PohttpClient.Accepts deployment.libraries deployment.endpoint
          (deployment.eventRequest id) event messageOptions ∧
        messageOptions.peerId = peerId ∧
        (messageOptions.serviceMessage, messageOptions.messageOptions) =
          content

/-! ## The book of addresses -/

/-- The calls that are actions of the relay. -/
inductive Relayed : Call → RelayAction → Prop where
  | admitted
      (parcel : Parcel) :
      Relayed ⟨.validateMessage parcel, .ok ()⟩ (.admitted parcel)
  | opened
      (parcel : Parcel)
      (serviceMessage : ServiceMessage) :
      Relayed ⟨.unwrapPayload parcel, .ok serviceMessage⟩
        (.opened parcel serviceMessage)
  | learned
      (peerId address : String) :
      Relayed ⟨.updateOne peerId address, .ok ()⟩ (.learned peerId address)
  | handedOver
      (emitterFunction : EmitterFunction)
      (event : CloudEvent)
      (outcome : Except Failure Unit) :
      Relayed ⟨.callEmitterFunction emitterFunction event, outcome⟩
        (.handedOver event)
  | lookedUp
      (peerId : String)
      (found : Option PeerEndpoint) :
      Relayed ⟨.findOne peerId, .ok found⟩
        (.lookedUp peerId (found.map PeerEndpoint.internetGatewayAddress))
  | packed
      (channel : InternetPrivateEndpointChannel)
      (serviceMessage : ServiceMessage)
      (options : MessageOptions)
      (parcelSerialised : Buffer) :
      Relayed ⟨.makeMessage channel serviceMessage options, .ok parcelSerialised⟩
        (.packed channel.peer.id (serviceMessage, options) parcelSerialised)
  | sent
      (address : String)
      (parcelSerialised : Buffer)
      (useTls : Bool)
      (outcome : Except Failure Unit) :
      Relayed ⟨.deliverParcel address parcelSerialised useTls, outcome⟩
        (.sent address parcelSerialised)

section Book

variable {libraries : Libraries}
  {before after : State}
  {call : Call}
  {action : RelayAction}

theorem relayed_of_eq_some
    (isAction : relayed call = some action) :
    Relayed call action := by
  unfold relayed at isAction
  split at isAction <;> cases isAction <;> constructor

/-- A call that is no action leaves the book alone. -/
theorem gatewayOf_of_unrelayed
    (performed : PerformedInDeployment libraries before call after)
    (noAction : relayed call = none) :
    after.gatewayOf = before.gatewayOf := by
  funext peerId
  rw [performed.gatewayOf]
  cases written : recordWrite peerId call with
  | none =>
      exact Option.none_or
  | some address =>
      rw [recordWrite_eq_some_iff.mp written] at noAction
      cases noAction

/-- A call that is an action does to the book what the action does. -/
theorem consults_of_relayed
    (performed : PerformedInDeployment libraries before call after)
    (isAction : relayed call = some action) :
    Consults before.gatewayOf action after.gatewayOf := by
  have same
      (writesNothing : ∀ peerId, recordWrite peerId call = none) :
      after.gatewayOf = before.gatewayOf := by
    funext peerId
    rw [performed.gatewayOf, writesNothing]
    exact Option.none_or
  cases relayed_of_eq_some isAction with
  | learned owner address =>
      have updated :
          after.gatewayOf =
            Function.update before.gatewayOf owner (some address) := by
        funext peerId
        rw [performed.gatewayOf]
        by_cases isOwn : owner = peerId
        · subst isOwn
          simp [recordWrite]
        · simp [recordWrite, isOwn, Function.update_of_ne (Ne.symm isOwn)]
      rw [updated]
      exact .learned
  | lookedUp peerId found =>
      obtain ⟨now, isFirst, -⟩ := performed.performed rfl
      rw [same fun _ => rfl, isFirst]
      exact .lookedUp
  | admitted =>
      rw [same fun _ => rfl]
      exact .admitted
  | opened =>
      rw [same fun _ => rfl]
      exact .opened
  | handedOver =>
      rw [same fun _ => rfl]
      exact .handedOver
  | packed =>
      rw [same fun _ => rfl]
      exact .packed
  | sent =>
      rw [same fun _ => rfl]
      exact .sent

/-- The addresses on record go through the actions of a deployment as a book does. -/
theorem book_run
    {first last : State}
    {calls : List Call}
    (run : Run (PerformedInDeployment libraries) first calls last) :
    Run Consults first.gatewayOf (calls.filterMap relayed) last.gatewayOf :=
  run.translated State.gatewayOf relayed
    (fun _ _ _ _ performed noAction =>
      gatewayOf_of_unrelayed performed noAction)
    (fun _ _ _ _ _ performed isAction =>
      consults_of_relayed performed isAction)

end Book

/-- The actions of a deployment are those of its calls. -/
theorem map_relayActions
    {Id : Type}
    (events : List (TaskEvent Id)) :
    (relayActions events).map Prod.snd =
      (performedIn events).filterMap relayed := by
  rw [relayActions, performedIn, List.map_filterMap, List.filterMap_filterMap]
  congr 1
  funext event
  cases event with
  | performed task call =>
      cases isAction : relayed call <;>
        simp [PoolEvent.completed?, isAction]
  | crashed task =>
      rfl

/-- Where an action was taken, a call was made that is the action. -/
theorem split_of_relayActions
    {Id : Type}
    {events : List (TaskEvent Id)}
    {earlier later : List (Task Id × RelayAction)}
    {task : Task Id}
    {action : RelayAction}
    (shape : relayActions events = earlier ++ (task, action) :: later) :
    ∃ taken call rest,
      events = taken ++ .performed task call :: rest ∧
        relayActions taken = earlier ∧
        relayed call = some action := by
  obtain ⟨leading, trailing, rfl, isEarlier, isLater⟩ :=
    List.filterMap_eq_append_iff.mp shape
  obtain ⟨quiet, event, rest, rfl, nothing, isAction, -⟩ :=
    List.filterMap_eq_cons_iff.mp isLater
  cases event with
  | performed owner call =>
      obtain ⟨_, isRelayed, same⟩ := Option.map_eq_some_iff.mp isAction
      cases same
      refine ⟨leading ++ quiet, call, rest, by simp, ?_, isRelayed⟩
      rw [relayActions, List.filterMap_append, isEarlier,
        List.filterMap_eq_nil_iff.mpr nothing, List.append_nil]
  | crashed owner =>
      cases isAction

/-- What was learned last about a peer is what was last put on record. -/
theorem lastWrite_relayActions
    {Id : Type}
    (peerId : String)
    (events : List (TaskEvent Id)) :
    lastWrite (entryOf peerId) ((relayActions events).map Prod.snd) =
      lastWrite (recordWrite peerId) (performedIn events) := by
  rw [map_relayActions, lastWrite_filterMap]
  apply lastWrite_congr
  intro call _
  ext address
  rw [recordWrite_eq_some_iff, Option.bind_eq_some_iff]
  constructor
  · rintro ⟨action, isAction, isEntry⟩
    rw [entryOf_eq_some_iff.mp isEntry] at isAction
    cases relayed_of_eq_some isAction
    rfl
  · rintro rfl
    exact ⟨_, rfl, by simp [entryOf]⟩

/-- A peer with an address was looked up in the collection. -/
theorem findOne_of_relayed
    {call : Call}
    {peerId address : String}
    (isAction : relayed call = some (.lookedUp peerId (some address))) :
    ∃ record,
      call = ⟨.findOne peerId, .ok (some record)⟩ ∧
        record.internetGatewayAddress = address := by
  generalize isFound : some address = found at isAction
  cases relayed_of_eq_some isAction with
  | lookedUp _ found =>
      obtain ⟨record, rfl, isAddress⟩ :=
        Option.map_eq_some_iff.mp isFound.symm
      exact ⟨record, rfl, isAddress⟩

/-! ## What tasks do -/

/-- What a call answers fits what it was asked for, as far as this holds in any state. -/
def AnswersSoundly (libraries : Libraries) : Call → Prop
  | ⟨.savePrivateEndpointChannel connectionParams, .ok channel⟩ =>
      channel.peer.id =
        libraries.getIdFromIdentityKey connectionParams.identityKey
  | ⟨.getChannel peerId address, .ok (some channel)⟩ =>
      channel.peer.id = peerId ∧ channel.peer.internetAddress = address
  | _ => True

section Tasks

variable {Id : Type}
  {deployment : Deployment Id}
  {id : Id}
  {trace : List Call}
  {reply : Except Failure Reply}

theorem answersSoundly_of_performed
    {libraries : Libraries}
    {before after : State}
    {call : Call}
    (performed : PerformedInDeployment libraries before call after) :
    AnswersSoundly libraries call := by
  unfold AnswersSoundly
  split
  · obtain ⟨_, sameId, -⟩ := performed.performed rfl
    exact sameId
  · obtain ⟨_, ⟨isPeer, isAddress, -⟩, -⟩ := performed.performed rfl
    exact ⟨isPeer, isAddress⟩
  · trivial

theorem answersSoundly_of_failure
    {libraries : Libraries}
    {call : Call}
    {failure : Failure}
    (failed : call.outcome = .error failure) :
    AnswersSoundly libraries call := by
  unfold AnswersSoundly
  split
  · cases failed
  · cases failed
  · trivial

/-- Calls of a kind that no action is of are no actions. -/
theorem relayed_eq_nil
    {calls : List Call}
    (kind : Call → Bool)
    (noAction : ∀ call action, Relayed call action → kind call = false)
    (ofKind : ∀ call ∈ calls, kind call = true) :
    calls.filterMap relayed = [] := by
  rw [List.filterMap_eq_nil_iff]
  intro call member
  cases isAction : relayed call with
  | none =>
      rfl
  | some action =>
      have isNone := noAction call action (relayed_of_eq_some isAction)
      cases isNone.symm.trans (ofKind call member)

/-- Making sure that there is an emitter function is no action of the relay. -/
theorem relayed_of_initialisation
    {calls : List Call}
    (initialises : ∀ call ∈ calls, initialisesEmitter call = true) :
    calls.filterMap relayed = [] := by
  apply relayed_eq_nil initialisesEmitter
  · intro call action isAction
    cases isAction <;> rfl
  · exact initialises

/-- A bootstrap run takes no action of the relay. -/
theorem relayed_of_bootstrap
    {calls : List Call}
    (bootstraps :
      ∀ call ∈ calls, (Task.bootstrap id).mayAwait call.operation = true) :
    calls.filterMap relayed = [] := by
  apply relayed_eq_nil fun call => (Task.bootstrap id).mayAwait call.operation
  · intro call action isAction
    cases isAction <;> rfl
  · exact bootstraps

/-- A message is learned from or handed over, if anything. -/
theorem advances_of_message
    {parcel : Parcel}
    {serviceMessage : ServiceMessage}
    {emitter : Emitter}
    (task : Task Id)
    (run :
      ParcelDelivery.MessageRun deployment.libraries emitter parcel
        serviceMessage trace reply)
    (sound : ∀ call ∈ trace, AnswersSoundly deployment.libraries call) :
    ∃ phase,
      Run (Advances deployment.traffic task)
        (.opened parcel serviceMessage : RelayPhase)
        (trace.filterMap relayed) phase := by
  cases run with
  | malformedParams =>
      exact ⟨_, .done _⟩
  | channel connectionParams _ _ isPda wellFormed saving =>
      rcases saveChannel_runs saving with
        ⟨failure, rfl, -⟩ | ⟨channel, updated, rfl, -⟩
      · exact ⟨_, .done _⟩
      · have isPeer :
            channel.peer.id =
              deployment.libraries.getIdFromIdentityKey
                connectionParams.identityKey :=
          sound (keysSave connectionParams (.ok channel)) (by simp)
        cases updated with
        | error failure =>
            exact ⟨_, .done _⟩
        | ok answer =>
            exact ⟨_, .next
              (.learned
                ⟨isPda, connectionParams, wellFormed, isPeer.symm, rfl⟩)
              (.done _)⟩
  | refusedEvent =>
      exact ⟨_, .done _⟩
  | event event _ _ notPda isEvent emitting =>
      cases emit_runs emitting with
      | handedOver initialisation emitterFunction outcome initialises =>
          rw [List.filterMap_append, relayed_of_initialisation initialises]
          exact ⟨_, .next (.handedOver ⟨notPda, isEvent⟩) (.done _)⟩
      | notHandedOver _ failure initialises =>
          rw [relayed_of_initialisation initialises]
          exact ⟨_, .done _⟩

/-- A parcel is admitted, opened and then acted on, or no longer acted on at some point. -/
theorem advances_of_delivery
    {emitter : Emitter}
    (run :
      ParcelDelivery.DeliveryRun deployment.libraries deployment.endpoint
        emitter (deployment.parcelBody id) trace reply)
    (sound : ∀ call ∈ trace, AnswersSoundly deployment.libraries call) :
    ∃ phase,
      Run (Advances deployment.traffic (.parcel id)) (.waiting : RelayPhase)
        (trace.filterMap relayed) phase := by
  cases run with
  | malformedParcel =>
      exact ⟨_, .done _⟩
  | invalidParcel parcel outcome deserialized =>
      cases outcome with
      | error failure =>
          exact ⟨_, .done _⟩
      | ok answer =>
          exact ⟨_, .next (.admitted ⟨id, rfl, deserialized⟩) (.done _)⟩
  | undecrypted parcel failure deserialized =>
      exact ⟨_, .next (.admitted ⟨id, rfl, deserialized⟩) (.done _)⟩
  | processed parcel serviceMessage processing _ deserialized addressed
      processes =>
      obtain ⟨phase, acting⟩ :=
        advances_of_message (.parcel id) processes
          fun call member => sound call (List.mem_append_right _ member)
      exact ⟨phase, .next (.admitted ⟨id, rfl, deserialized⟩)
        (.next (.opened addressed) acting)⟩

/-- An event has its peer looked up and then a parcel made and sent, if anything. -/
theorem advances_of_post
    (run :
      PohttpClient.PostRun deployment.libraries deployment.endpoint
        deployment.shouldUseTls (deployment.eventRequest id) trace reply)
    (sound : ∀ call ∈ trace, AnswersSoundly deployment.libraries call) :
    ∃ phase,
      Run (Advances deployment.traffic (.event id)) (.waiting : RelayPhase)
        (trace.filterMap relayed) phase := by
  cases run with
  | malformedEvent =>
      exact ⟨_, .done _⟩
  | unknownSender =>
      exact ⟨_, .done _⟩
  | refusedEvent =>
      exact ⟨_, .done _⟩
  | accepted event messageOptions _ _ converted known accepts sending =>
      have requests :
          deployment.traffic.requests (.event id) messageOptions.peerId
            (messageOptions.serviceMessage, messageOptions.messageOptions) :=
        ⟨id, event, messageOptions, rfl, ⟨converted, known, accepts⟩, rfl, rfl⟩
      cases sending with
      | lookupFailed _ failure looksUp =>
          cases looksUp with
          | recordUnavailable =>
              exact ⟨_, .done _⟩
          | entriesUnavailable =>
              exact ⟨_, .next (.lookedUp requests) (.done _)⟩
          | missingEntries =>
              exact ⟨_, .next (.lookedUp requests) (.done _)⟩
      | unknownPeer _ looksUp =>
          cases looksUp with
          | unknownPeer =>
              exact ⟨_, .next (.lookedUp requests) (.done _)⟩
      | unmade _ channel failure looksUp =>
          cases looksUp with
          | found =>
              exact ⟨_, .next (.lookedUp requests) (.done _)⟩
      | attempted _ channel parcelSerialised outcome looksUp =>
          cases looksUp with
          | found record =>
              obtain ⟨⟨peerId, address, identityKey⟩, deliveryAuth⟩ := channel
              obtain ⟨rfl, rfl⟩ :
                  peerId = messageOptions.peerId ∧
                    address = record.internetGatewayAddress :=
                sound
                  ⟨.getChannel messageOptions.peerId
                    record.internetGatewayAddress,
                    .ok (some ⟨⟨peerId, address, identityKey⟩, deliveryAuth⟩)⟩
                  (by simp)
              exact ⟨_, .next (.lookedUp requests)
                (.next .packed (.next .sent (.done _)))⟩

/-- The answer to an event tells whether a parcel of it was sent. -/
theorem sent_iff_of_answer
    {libraries : Libraries}
    {endpoint : InternetEndpoint}
    {shouldUseTls : Bool}
    {request : PostRequest}
    (answered :
      PohttpClient.Answer libraries endpoint shouldUseTls request trace reply) :
    (∃ address parcelSerialised,
        .sent address parcelSerialised ∈ trace.filterMap relayed) ↔
      statusOf reply = HttpStatusCodes.noContent ∨
        statusOf reply = HttpStatusCodes.badGateway := by
  cases answered with
  | refused =>
      simp [HttpStatusCodes.noContent, HttpStatusCodes.badGateway,
        HttpStatusCodes.badRequest]
  | channelless _ _ _ _ _ _ looksUp =>
      cases looksUp <;>
        simp [relayed, HttpStatusCodes.noContent, HttpStatusCodes.badGateway,
          HttpStatusCodes.serviceUnavailable]
  | unmade _ _ _ _ _ _ looksUp =>
      cases looksUp with
      | found =>
          simp [relayed, PohttpClient.parcelMade, HttpStatusCodes.noContent,
            HttpStatusCodes.badGateway]
  | attempted event messageOptions _ channel parcelSerialised outcome _
      looksUp =>
      apply iff_of_true
      · refine ⟨channel.peer.internetAddress, parcelSerialised, ?_⟩
        rw [List.mem_filterMap]
        exact ⟨PohttpClient.parcelDelivered shouldUseTls channel
          parcelSerialised outcome, by simp, rfl⟩
      · rw [statusOf_ok, PohttpClient.deliveryReply]
        split
        · exact .inl rfl
        · exact .inr rfl

end Tasks

namespace Deployment

variable {Id : Type}
  [DecidableEq Id]
  {deployment : Deployment Id}
  {state : State}
  {events : List (TaskEvent Id)}
  {last : Snapshot Id}

/-- A task can run to its end with answers that fit what was asked for. -/
theorem completes_soundly
    (run :
      Run (DeploymentStep deployment.libraries) (deployment.start state) events
        last)
    (task : Task Id) :
    ∃ rest result,
      Runs (deployment.program task) (performedBy task events ++ rest)
          result ∧
        ∀ call ∈ performedBy task events ++ rest,
          AnswersSoundly deployment.libraries call := by
  obtain ⟨rest, result, runs, failing⟩ := completes run task
  refine ⟨rest, result, runs, ?_⟩
  intro call member
  rcases List.mem_append.mp member with done | remaining
  · obtain ⟨_, _, _, _, -, -, performed, -⟩ :=
      split_at_performed run (mem_performedBy_iff.mp done)
    exact answersSoundly_of_performed performed
  · exact answersSoundly_of_failure (failing call remaining)

/-- What a task has done so far are actions of a job of the relay. -/
theorem job_advances
    (run :
      Run (DeploymentStep deployment.libraries) (deployment.start state) events
        last)
    (task : Task Id) :
    ∃ phase,
      Run (Advances deployment.traffic task) (.waiting : RelayPhase)
        ((performedBy task events).filterMap relayed) phase := by
  obtain ⟨rest, result, runs, sound⟩ := completes_soundly run task
  have advancing :
      ∃ phase,
        Run (Advances deployment.traffic task) (.waiting : RelayPhase)
          ((performedBy task events ++ rest).filterMap relayed) phase := by
    cases task with
    | parcel id =>
        exact advances_of_delivery (ParcelDelivery.handler_runs runs) sound
    | event id =>
        exact advances_of_post (PohttpClient.handler_runs runs) sound
    | visit id =>
        obtain ⟨outcome, shape, -⟩ := ConnectionParams.handler_runs_iff.mp runs
        rw [shape]
        exact ⟨_, .done _⟩
    | bootstrap id =>
        have isBootstrap :
            ∀ call ∈ performedBy (.bootstrap id) events ++ rest,
              (Task.bootstrap id).mayAwait call.operation = true :=
          mayAwait_of_bootstrap runs
        rw [relayed_of_bootstrap isBootstrap]
        exact ⟨_, .done _⟩
  obtain ⟨_, advances⟩ := advancing
  rw [List.filterMap_append] at advances
  obtain ⟨phase, leading, -⟩ := Run.append_iff.mp advances
  exact ⟨phase, leading⟩

/-- The actions of a task are those of its calls. -/
theorem actionsOf_relayActions
    (task : Task Id)
    (events : List (TaskEvent Id)) :
    actionsOf task (relayActions events) =
      (performedBy task events).filterMap relayed := by
  rw [relayActions, actionsOf, performedBy, List.filterMap_filterMap,
    List.filterMap_filterMap]
  congr 1
  funext event
  cases event with
  | performed owner call =>
      by_cases isOwn : owner = task
      · cases isAction : relayed call <;>
          simp [PoolEvent.completedBy?, isAction, isOwn]
      · cases isAction : relayed call <;>
          simp [PoolEvent.completedBy?, isAction, isOwn]
  | crashed owner =>
      rfl

/-- The steps of a deployment are, as far as they are actions, a run of the relay. -/
theorem relay_run
    (run :
      Run (DeploymentStep deployment.libraries) (deployment.start state) events
        last) :
    ∃ phases,
      Run (SharingStep (relay deployment.traffic))
        (opening state.gatewayOf)
        (relayActions events) ⟨last.world.gatewayOf, phases⟩ := by
  choose phases advances using job_advances run
  refine ⟨phases, sharing_run ?_ ?_⟩
  · rw [map_relayActions]
    exact book_run (world_run run)
  · intro task
    rw [actionsOf_relayActions]
    exact advances task

end Deployment

/--
Every run of a deployment is a run of the relay: the actions that its steps are
may be taken, by the same tasks and in the same order, when they are taken.  The
book ends up with the addresses on record, and the app is told by the answer to
an event whether its job has sent a letter.
-/
theorem deployment_relays
    {Id : Type}
    [DecidableEq Id]
    {deployment : Deployment Id}
    {state : State}
    {events : List (TaskEvent Id)}
    {last : Snapshot Id}
    (run :
      Run (DeploymentStep deployment.libraries) (deployment.start state) events
        last) :
    ∃ final,
      Run (SharingStep (relay deployment.traffic))
          (opening state.gatewayOf)
          (relayActions events) final ∧
        final.object = last.world.gatewayOf ∧
        ∀ id reply,
          last.processes (.event id) = some (.settled reply) →
          ((∃ peerId content address parcelSerialised,
              final.phases (.event id) =
                .sent peerId content address parcelSerialised) ↔
            statusOf reply = HttpStatusCodes.noContent ∨
              statusOf reply = HttpStatusCodes.badGateway) := by
  obtain ⟨phases, relays⟩ := Deployment.relay_run run
  refine ⟨_, relays, rfl, ?_⟩
  intro id reply settled
  have runs := caller_runs run rfl settled
  obtain ⟨shape, -⟩ := phase_of_run (job_run relays (.event id))
  rw [Phase.exists_sent_iff, ← shape, Deployment.actionsOf_relayActions]
  exact sent_iff_of_answer (PohttpClient.handler_runs runs).answer

/-- The relay learns the address that the parcel of the stub deployment tells. -/
theorem deployment_relays_stubs :
    ∃ final,
      Run (SharingStep (relay Stubs.deployment.traffic))
          (opening State.empty.gatewayOf)
          (relayActions Stubs.parcelStored) final ∧
        final.object Stubs.peerId = some Stubs.peerAddress := by
  obtain ⟨reply, run⟩ := Stubs.parcelStored_run
  obtain ⟨final, relays, isBook, -⟩ := deployment_relays run
  refine ⟨final, relays, ?_⟩
  rw [isBook]
  rfl

/--
A parcel goes to an address that was current while its event was handled: the
one on record when the task of the event looked its peer up.  The last update
before that moment put it there, for a parcel that had passed all checks and told
it, unless there was none and it was on record from the start.
-/
theorem delivered_to_current_address
    {Id : Type}
    [DecidableEq Id]
    {deployment : Deployment Id}
    {state : State}
    {events : List (TaskEvent Id)}
    {last : Snapshot Id}
    {task : Task Id}
    {address : String}
    {parcelSerialised : Buffer}
    {useTls : Bool}
    {outcome : Except Failure Unit}
    (run :
      Run (DeploymentStep deployment.libraries) (deployment.start state) events
        last)
    (delivered :
      .performed task
          ⟨.deliverParcel address parcelSerialised useTls, outcome⟩ ∈
        events) :
    ∃ id event messageOptions taken record later,
      task = .event id ∧
        PohttpClient.Accepts deployment.libraries deployment.endpoint
          (deployment.eventRequest id) event messageOptions ∧
        events =
          taken ++
            .performed task
              ⟨.findOne messageOptions.peerId, .ok (some record)⟩ :: later ∧
        record.internetGatewayAddress = address ∧
        (performedBy task events).filterMap relayed =
          [.lookedUp messageOptions.peerId (some address),
            .packed messageOptions.peerId
              (messageOptions.serviceMessage, messageOptions.messageOptions)
              parcelSerialised,
            .sent address parcelSerialised] ∧
        (lastWrite (recordWrite messageOptions.peerId)
            (performedIn taken)).or
          (state.gatewayOf messageOptions.peerId) = some address ∧
        (lastWrite (recordWrite messageOptions.peerId) (performedIn taken) =
            none ∨
          deployment.traffic.LearnedLast (relayActions taken)
            messageOptions.peerId address) := by
  obtain ⟨phases, relays⟩ := Deployment.relay_run run
  have sent :
      (task, .sent address parcelSerialised) ∈ relayActions events :=
    List.mem_filterMap.mpr ⟨_, delivered, rfl⟩
  obtain ⟨_, _, earlier, later, ⟨id, event, messageOptions, isEvent, accepts,
    rfl, rfl⟩, shape, actions, isLast, source⟩ := sent_where_found relays sent
  rw [Deployment.actionsOf_relayActions] at actions
  obtain ⟨taken, call, rest, rfl, rfl, isAction⟩ :=
    split_of_relayActions shape
  obtain ⟨record, rfl, isAddress⟩ := findOne_of_relayed isAction
  rw [lastWrite_relayActions] at isLast source
  exact ⟨id, event, messageOptions, taken, record, rest, isEvent, accepts, rfl,
    isAddress, actions, isLast, source⟩

/-- The event of the stub deployment is delivered to the address that its parcel told. -/
theorem delivered_to_current_address_stubs :
    ∃ (last : Snapshot Bool) (taken : List (TaskEvent Bool)),
      Run (DeploymentStep Stubs.deployment.libraries)
          (Stubs.deployment.start State.empty)
          (Stubs.parcelStored ++ Stubs.eventDelivered false) last ∧
        .performed (.event false)
            (PohttpClient.parcelDelivered true PohttpClient.stubChannel [7]
              (.ok ())) ∈
          Stubs.parcelStored ++ Stubs.eventDelivered false ∧
        taken <+: Stubs.parcelStored ++ Stubs.eventDelivered false ∧
        Stubs.deployment.traffic.LearnedLast (relayActions taken) Stubs.peerId
          Stubs.peerAddress := by
  obtain ⟨last, run⟩ := Stubs.deployment_run
  have delivered :
      PoolEvent.performed (Task.event false)
          (PohttpClient.parcelDelivered true PohttpClient.stubChannel [7]
            (.ok ())) ∈
        Stubs.parcelStored ++ Stubs.eventDelivered false := by
    apply List.mem_append_right
    apply List.mem_map_of_mem
    simp [PohttpClient.stubTrace]
  obtain ⟨_, event, messageOptions, taken, record, later, -,
    ⟨converted, -, accepted⟩, shape, -, -, lastUpdate, source⟩ :=
    delivered_to_current_address run delivered
  cases converted
  cases accepted
  refine ⟨last, taken, run, delivered, ⟨_, shape.symm⟩, ?_⟩
  rcases source with noUpdate | learned
  · have noAddress : State.empty.gatewayOf Stubs.peerId = none :=
      rfl
    rw [show lastWrite (recordWrite Stubs.peerId) (performedIn taken) = none
      from noUpdate] at lastUpdate
    cases lastUpdate
  · exact learned

end AwalaEndpoint
