import AwalaEndpoint.Deployment

namespace AwalaEndpoint

open Awaiting LabelledRuns

/-!
# Where channels come from

In a deployment that starts with empty stores, whatever is stored about a peer
was carried as its connection parameters by parcels that had passed all checks.
So are the gateway that a parcel is delivered to, the key of its recipient and
the authorisation it is sent with.
-/

/-- An entry of the key stores that is saved from a field of connection parameters. -/
structure KeyStoreEntry (Entry : Type) where
  Holds : State → String → Entry → Prop
  field : PrivateEndpointConnParams → Entry
  saved :
    ∀ state owner connectionParams written peerId entry,
      Holds (state.saveEntries owner connectionParams written) peerId entry →
      (owner = peerId ∧ field connectionParams = entry) ∨
        Holds state peerId entry
  kept :
    ∀ {state other : State},
      state.identityKeys = other.identityKeys →
      state.sessionKeys = other.sessionKeys →
      state.deliveryAuths = other.deliveryAuths →
      ∀ peerId entry, Holds state peerId entry → Holds other peerId entry

/-- What holds of an updated entry held before or is about what it was updated with. -/
theorem holds_of_update
    {Entry : Type}
    {entries : String → Entry}
    {owner peerId : String}
    {written : Bool}
    {saved : Entry}
    {holds : Entry → Prop}
    (found :
      holds
        ((if written then Function.update entries owner saved else entries)
          peerId)) :
    (owner = peerId ∧ holds saved) ∨ holds (entries peerId) := by
  split at found
  · by_cases same : peerId = owner
    · subst same
      rw [Function.update_self] at found
      exact .inl ⟨rfl, found⟩
    · rw [Function.update_of_ne same] at found
      exact .inr found
  · exact .inr found

namespace KeyStoreEntry

/-- The identity key of a peer. -/
def identityKey : KeyStoreEntry PublicKey where
  Holds state peerId key := state.identityKeys peerId = some key
  field connectionParams := connectionParams.identityKey
  saved _ _ _ _ _ key found :=
    (@holds_of_update _ _ _ _ _ _ (fun entry => entry = some key) found).imp_left
      (And.imp_right Option.some.inj)
  kept same _ _ peerId _ found := (congrFun same peerId).symm.trans found

/-- The session key of a peer. -/
def sessionKey : KeyStoreEntry SessionKey where
  Holds state peerId key := state.sessionKeys peerId = some key
  field connectionParams := connectionParams.sessionKey
  saved _ _ _ _ _ key found :=
    (@holds_of_update _ _ _ _ _ _ (fun entry => entry = some key) found).imp_left
      (And.imp_right Option.some.inj)
  kept _ same _ peerId _ found := (congrFun same peerId).symm.trans found

/-- A delivery authorisation of a peer. -/
def deliveryAuth : KeyStoreEntry CertificationPath where
  Holds state peerId path := path ∈ state.deliveryAuths peerId
  field connectionParams := connectionParams.deliveryAuth
  saved _ _ _ _ _ path found := by
    rcases @holds_of_update _ _ _ _ _ _ (fun paths => path ∈ paths) found with
      ⟨rfl, inSaved⟩ | earlier
    · rcases List.mem_cons.mp inSaved with rfl | others
      · exact .inl ⟨rfl, rfl⟩
      · exact .inr (List.mem_of_mem_erase others)
    · exact .inr earlier
  kept _ _ same peerId path found := by
    rw [← same]
    exact found

variable {Entry : Type}
  {entry : KeyStoreEntry Entry}
  {libraries : Libraries}
  {before after : State}
  {call : Call}
  {peerId : String}
  {value : Entry}

/-- An entry is what a save of the peer's parameters wrote, or was there before. -/
theorem written
    (performed : PerformedInDeployment libraries before call after)
    (stored : entry.Holds after peerId value) :
    (∃ connectionParams outcome,
        call = ⟨.savePrivateEndpointChannel connectionParams, outcome⟩ ∧
          libraries.getIdFromIdentityKey connectionParams.identityKey = peerId ∧
          entry.field connectionParams = value) ∨
      entry.Holds before peerId value := by
  rcases performed.cases with ⟨-, rfl⟩ | performs
  · exact .inr stored
  · cases performs.write with
    | saved connectionParams channel =>
        rcases entry.saved _ _ _ _ _ _ stored with ⟨isOwner, isField⟩ | earlier
        · exact .inl ⟨connectionParams, _, rfl, isOwner, isField⟩
        · exact .inr earlier
    | partlySaved connectionParams failure entries =>
        rcases entry.saved _ _ _ _ _ _ stored with ⟨isOwner, isField⟩ | earlier
        · exact .inl ⟨connectionParams, _, rfl, isOwner, isField⟩
        · exact .inr earlier
    | recorded =>
        exact .inr (entry.kept (by rfl) (by rfl) (by rfl) peerId value stored)
    | keyGenerated =>
        exact .inr (entry.kept (by rfl) (by rfl) (by rfl) peerId value stored)
    | emitterStored =>
        exact .inr (entry.kept (by rfl) (by rfl) (by rfl) peerId value stored)
    | nothing =>
        exact .inr stored

/-- An entry that was not there at the start of a run was saved during it. -/
theorem saved_of_stored
    {first last : State}
    {calls : List Call}
    (run : Run (PerformedInDeployment libraries) first calls last)
    (notBefore : ¬ entry.Holds first peerId value)
    (stored : entry.Holds last peerId value) :
    ∃ connectionParams outcome,
      ⟨.savePrivateEndpointChannel connectionParams, outcome⟩ ∈ calls ∧
        libraries.getIdFromIdentityKey connectionParams.identityKey = peerId ∧
        entry.field connectionParams = value := by
  refine run.alongside
    (fun taken state =>
      entry.Holds state peerId value →
      ∃ connectionParams outcome,
        ⟨.savePrivateEndpointChannel connectionParams, outcome⟩ ∈ taken ∧
          libraries.getIdFromIdentityKey connectionParams.identityKey = peerId ∧
          entry.field connectionParams = value)
    ?_ ?_ stored
  · intro isStored
    exact absurd isStored notBefore
  · intro taken before call after _ inductionHypothesis performed isStored
    rcases written performed isStored with
      ⟨connectionParams, outcome, rfl, isOwner, isField⟩ | earlier
    · exact ⟨connectionParams, outcome, List.mem_concat_self, isOwner, isField⟩
    · obtain ⟨connectionParams, outcome, member, isOwner, isField⟩ :=
        inductionHypothesis earlier
      exact ⟨connectionParams, outcome, List.mem_append_left _ member, isOwner,
        isField⟩

end KeyStoreEntry

/-! ## Advertised parameters -/

namespace ParcelDelivery

variable {libraries : Libraries}
  {emitter : Emitter}
  {parcel : Parcel}
  {serviceMessage : ServiceMessage}
  {processing rest : List Call}
  {reply : Except Failure Reply}

/-- The parameters that are saved are those in the message. -/
theorem MessageRun.params_of_save
    {connectionParams : PrivateEndpointConnParams}
    {outcome : Except Failure InternetPrivateEndpointChannel}
    (run :
      MessageRun libraries emitter parcel serviceMessage
        (processing ++
          ⟨.savePrivateEndpointChannel connectionParams, outcome⟩ :: rest)
        reply) :
    serviceMessage.type = pdaPathType ∧
      libraries.deserializeConnParams serviceMessage.content =
        .ok connectionParams := by
  generalize shape :
      processing ++
        ⟨.savePrivateEndpointChannel connectionParams, outcome⟩ :: rest =
      trace at run
  have member :
      (⟨.savePrivateEndpointChannel connectionParams, outcome⟩ : Call) ∈
        trace := by
    simp [← shape]
  cases run with
  | malformedParams =>
      cases member
  | channel saved _ _ isPda wellFormed saving =>
      have isSaved : connectionParams = saved := by
        cases saveChannel_steps saving with
        | refused failure =>
            simp only [keysSave, List.mem_singleton, Completed.mk.injEq,
              Operation.savePrivateEndpointChannel.injEq] at member
            exact member.1
        | finished channel updated =>
            simp only [keysSave, recordUpdate, List.mem_cons, List.not_mem_nil,
              Completed.mk.injEq, Operation.savePrivateEndpointChannel.injEq,
              reduceCtorEq, false_and, or_false] at member
            exact member.1
      rw [isSaved]
      exact ⟨isPda, wellFormed⟩
  | refusedEvent =>
      cases member
  | event event _ _ _ _ emitting =>
      have isOther :=
        (emit_runs emitting).all
          (fun call =>
            call.operation ≠ .savePrivateEndpointChannel connectionParams)
          (by simp) (by simp) (by simp) (by simp) _ member
      exact absurd rfl isOther

/-- A record is updated after the keys in the message were saved, from the message. -/
theorem MessageRun.params_of_update
    {owner address : String}
    {outcome : Except Failure Unit}
    (run :
      MessageRun libraries emitter parcel serviceMessage
        (processing ++ ⟨.updateOne owner address, outcome⟩ :: rest) reply) :
    ∃ connectionParams channel,
      serviceMessage.type = pdaPathType ∧
        libraries.deserializeConnParams serviceMessage.content =
          .ok connectionParams ∧
        processing = [keysSave connectionParams (.ok channel)] ∧
        channel.peer.id = owner ∧
        connectionParams.internetGatewayAddress = address := by
  generalize shape :
      processing ++ ⟨.updateOne owner address, outcome⟩ :: rest = trace at run
  have member : (⟨.updateOne owner address, outcome⟩ : Call) ∈ trace := by
    simp [← shape]
  cases run with
  | malformedParams =>
      cases member
  | channel connectionParams _ _ isPda wellFormed saving =>
      rcases saveChannel_runs saving with
        ⟨failure, rfl, -⟩ | ⟨channel, updated, rfl, -⟩
      · simp [keysSave] at member
      · have afterSave :
            [keysSave connectionParams (.ok channel)] ++
                [recordUpdate connectionParams channel updated] =
              processing ++ ⟨.updateOne owner address, outcome⟩ :: rest :=
          shape.symm
        obtain ⟨rfl, isUpdate, -⟩ :=
          split_at_last (by simp [keysSave]) afterSave
        cases isUpdate
        exact ⟨connectionParams, channel, isPda, wellFormed, rfl, rfl, rfl⟩
  | refusedEvent =>
      cases member
  | event event _ _ _ _ emitting =>
      have isOther :=
        (emit_runs emitting).all
          (fun call => call.operation ≠ .updateOne owner address)
          (by simp) (by simp) (by simp) (by simp) _ member
      exact absurd rfl isOther

end ParcelDelivery

namespace Deployment

variable {Id : Type}
  [DecidableEq Id]

/-- A parcel passed all checks in these steps, and it carries connection parameters. -/
def Advertises
    (deployment : Deployment Id)
    (events : List (TaskEvent Id))
    (id : Id)
    (connectionParams : PrivateEndpointConnParams) : Prop :=
  ∃ parcel serviceMessage,
    ParcelDelivery.Checked deployment.libraries deployment.endpoint
        (deployment.parcelBody id) (performedBy (.parcel id) events) parcel
        serviceMessage ∧
      serviceMessage.type = ParcelDelivery.pdaPathType ∧
      deployment.libraries.deserializeConnParams serviceMessage.content =
        .ok connectionParams

/-- Some parcel carried connection parameters of the peer with the given field. -/
def Advertised
    {Field : Type}
    (deployment : Deployment Id)
    (events : List (TaskEvent Id))
    (peerId : String)
    (field : PrivateEndpointConnParams → Field)
    (value : Field) : Prop :=
  ∃ id connectionParams,
    deployment.Advertises events id connectionParams ∧
      deployment.libraries.getIdFromIdentityKey connectionParams.identityKey =
        peerId ∧
      field connectionParams = value

variable {deployment : Deployment Id}
  {state : State}
  {events taken later : List (TaskEvent Id)}
  {last : Snapshot Id}
  {task : Task Id}
  {id : Id}

/-- What was advertised stays advertised. -/
theorem Advertises.extend
    {connectionParams : PrivateEndpointConnParams}
    (advertises : deployment.Advertises taken id connectionParams)
    (more : List (TaskEvent Id)) :
    deployment.Advertises (taken ++ more) id connectionParams := by
  obtain ⟨parcel, serviceMessage, checked, isPda, wellFormed⟩ := advertises
  refine ⟨parcel, serviceMessage, ?_, isPda, wellFormed⟩
  rw [performedBy_append]
  exact checked.extend _

theorem Advertised.extend
    {Field : Type}
    {peerId : String}
    {field : PrivateEndpointConnParams → Field}
    {value : Field}
    (advertised : deployment.Advertised taken peerId field value)
    (more : List (TaskEvent Id)) :
    deployment.Advertised (taken ++ more) peerId field value := by
  obtain ⟨id, connectionParams, advertises, isPeer, isField⟩ := advertised
  exact ⟨id, connectionParams, advertises.extend more, isPeer, isField⟩

/-- Keys are saved for a parcel that advertised them. -/
theorem advertises_of_save
    (run :
      Run (DeploymentStep deployment.libraries) (deployment.start state) events
        last)
    {connectionParams : PrivateEndpointConnParams}
    {outcome : Except Failure InternetPrivateEndpointChannel}
    (shape :
      events =
        taken ++
          .performed task
            ⟨.savePrivateEndpointChannel connectionParams, outcome⟩ :: later) :
    ∃ id,
      task = .parcel id ∧
        deployment.Advertises taken id connectionParams := by
  have member :
      .performed task ⟨.savePrivateEndpointChannel connectionParams, outcome⟩ ∈
        events := by
    simp [shape]
  have awaits := mayAwait_of_performed run member
  cases task with
  | parcel id =>
      obtain ⟨parcel, serviceMessage, _, _, _, -, checked, processes⟩ :=
        parcelChecked run shape rfl
      obtain ⟨isPda, wellFormed⟩ := processes.params_of_save
      exact ⟨id, rfl, parcel, serviceMessage, checked, isPda, wellFormed⟩
  | _ =>
      cases awaits

/-- A channel that was saved in a deployment belongs to the peer of its identity key. -/
theorem peerId_of_saved
    (run :
      Run (DeploymentStep deployment.libraries) (deployment.start state) events
        last)
    {connectionParams : PrivateEndpointConnParams}
    {channel : InternetPrivateEndpointChannel}
    (saved :
      keysSave connectionParams (.ok channel) ∈ performedBy task events) :
    channel.peer.id =
      deployment.libraries.getIdFromIdentityKey connectionParams.identityKey := by
  have member :=
    mem_performedIn_iff.mpr ⟨task, mem_performedBy_iff.mp saved⟩
  obtain ⟨_, _, _, _, -, -, performed, -⟩ := (world_run run).split_at member
  obtain ⟨_, sameId, -⟩ := performed.performed rfl
  exact sameId

/-- A record is updated for a parcel that advertised the address, with its keys saved. -/
theorem advertises_of_update
    (run :
      Run (DeploymentStep deployment.libraries) (deployment.start state) events
        last)
    {peerId address : String}
    {outcome : Except Failure Unit}
    (shape :
      events =
        taken ++ .performed task ⟨.updateOne peerId address, outcome⟩ :: later) :
    ∃ id connectionParams channel,
      task = .parcel id ∧
        deployment.Advertises taken id connectionParams ∧
        deployment.libraries.getIdFromIdentityKey
            connectionParams.identityKey = peerId ∧
        connectionParams.internetGatewayAddress = address ∧
        keysSave connectionParams (.ok channel) ∈
          performedBy (.parcel id) taken := by
  have member :
      .performed task ⟨.updateOne peerId address, outcome⟩ ∈ events := by
    simp [shape]
  have awaits := mayAwait_of_performed run member
  cases task with
  | parcel id =>
      obtain ⟨parcel, serviceMessage, processing, _, _, trace, checked,
        processes⟩ := parcelChecked run shape rfl
      obtain ⟨connectionParams, channel, isPda, wellFormed, rfl, isPeer,
        isAddress⟩ := processes.params_of_update
      have saved :
          keysSave connectionParams (.ok channel) ∈
            performedBy (.parcel id) taken := by
        simp [trace]
      have sameId :=
        peerId_of_saved run
          (by
            rw [shape, performedBy_append]
            exact List.mem_append_left _ saved :
            keysSave connectionParams (.ok channel) ∈
              performedBy (.parcel id) events)
      exact ⟨id, connectionParams, channel, rfl,
        ⟨parcel, serviceMessage, checked, isPda, wellFormed⟩,
        sameId.symm.trans isPeer, isAddress, saved⟩
  | _ =>
      cases awaits

/-- In a deployment that started with empty stores, stored entries were advertised. -/
theorem advertised_of_stored
    {Entry : Type}
    (entry : KeyStoreEntry Entry)
    (run :
      Run (DeploymentStep deployment.libraries) (deployment.start State.empty)
        events last)
    {peerId : String}
    {value : Entry}
    (notBefore : ¬ entry.Holds State.empty peerId value)
    (stored : entry.Holds last.world peerId value) :
    deployment.Advertised events peerId entry.field value := by
  obtain ⟨connectionParams, outcome, member, isPeer, isField⟩ :=
    entry.saved_of_stored (world_run run) notBefore stored
  obtain ⟨task, performed⟩ := mem_performedIn_iff.mp member
  obtain ⟨taken, later, rfl⟩ := List.append_of_mem performed
  obtain ⟨id, -, advertises⟩ := advertises_of_save run rfl
  exact ⟨id, connectionParams, advertises.extend _, isPeer, isField⟩

/-- In a deployment that started with empty stores, addresses on record were advertised. -/
theorem advertised_of_gatewayOf
    (run :
      Run (DeploymentStep deployment.libraries) (deployment.start State.empty)
        events last)
    {peerId address : String}
    (onRecord : last.world.gatewayOf peerId = some address) :
    deployment.Advertised events peerId
      PrivateEndpointConnParams.internetGatewayAddress address := by
  have member := updated_of_gatewayOf (world_run run) (by rfl) onRecord
  obtain ⟨task, performed⟩ := mem_performedIn_iff.mp member
  obtain ⟨taken, later, rfl⟩ := List.append_of_mem performed
  obtain ⟨id, connectionParams, channel, -, advertises, isPeer, isAddress, -⟩ :=
    advertises_of_update run rfl
  exact ⟨id, connectionParams, advertises.extend _, isPeer, isAddress⟩

/-- A record that was found carries an address that was advertised. -/
theorem advertised_of_recordFound
    (run :
      Run (DeploymentStep deployment.libraries) (deployment.start State.empty)
        events last)
    {peerId : String}
    {record : PeerEndpoint}
    (found : .performed task ⟨.findOne peerId, .ok (some record)⟩ ∈ events) :
    deployment.Advertised events peerId
      PrivateEndpointConnParams.internetGatewayAddress
      record.internetGatewayAddress := by
  obtain ⟨earlier, later, before, after, rfl, leading, lookedUp, -⟩ :=
    split_at_performed run found
  obtain ⟨now, isFirst, -⟩ := lookedUp.performed rfl
  have advertised :=
    advertised_of_gatewayOf leading (gatewayOf_of_found isFirst)
  exact advertised.extend _

/-- A channel that was found belongs to the peer and consists of what was advertised. -/
theorem advertised_of_channelFound
    (run :
      Run (DeploymentStep deployment.libraries) (deployment.start State.empty)
        events last)
    {peerId address : String}
    {channel : InternetPrivateEndpointChannel}
    (found :
      .performed task ⟨.getChannel peerId address, .ok (some channel)⟩ ∈
        events) :
    channel.peer.id = peerId ∧
      channel.peer.internetAddress = address ∧
      deployment.Advertised events peerId
        PrivateEndpointConnParams.identityKey channel.peer.identityPublicKey ∧
      deployment.Advertised events peerId
        PrivateEndpointConnParams.deliveryAuth channel.deliveryAuthPath := by
  obtain ⟨earlier, later, before, after, rfl, leading, lookedUp, -⟩ :=
    split_at_performed run found
  obtain ⟨now, isChannel, -⟩ := lookedUp.performed rfl
  obtain ⟨isPeer, isAddress, hasIdentityKey, hasDeliveryAuth, -⟩ := isChannel
  have keyAdvertised :=
    advertised_of_stored .identityKey leading nofun hasIdentityKey
  have authAdvertised :=
    advertised_of_stored .deliveryAuth leading nofun hasDeliveryAuth
  exact ⟨isPeer, isAddress, keyAdvertised.extend _, authAdvertised.extend _⟩

end Deployment

/-! ## Deliveries -/

namespace PohttpClient

/-- A parcel is delivered after it was made for the channel that was found. -/
theorem PostRun.of_delivery
    {libraries : Libraries}
    {endpoint : InternetEndpoint}
    {shouldUseTls useTls : Bool}
    {request : PostRequest}
    {earlier later : List Call}
    {gatewayAddress : String}
    {parcelSerialised : Buffer}
    {outcome : Except Failure Unit}
    {reply : Except Failure Reply}
    (run :
      PostRun libraries endpoint shouldUseTls request
        (earlier ++
          ⟨.deliverParcel gatewayAddress parcelSerialised useTls, outcome⟩ ::
            later)
        reply) :
    ∃ event messageOptions record channel,
      Accepts libraries endpoint request event messageOptions ∧
        earlier =
          [⟨.findOne messageOptions.peerId, .ok (some record)⟩,
            ⟨.getChannel messageOptions.peerId record.internetGatewayAddress,
              .ok (some channel)⟩,
            parcelMade messageOptions channel (.ok parcelSerialised)] ∧
        channel.peer.internetAddress = gatewayAddress ∧
        useTls = shouldUseTls := by
  have answered := run.answer
  generalize shape :
      earlier ++
        ⟨.deliverParcel gatewayAddress parcelSerialised useTls, outcome⟩ ::
          later =
      trace at answered
  have member :
      (⟨.deliverParcel gatewayAddress parcelSerialised useTls, outcome⟩ :
        Call) ∈ trace := by
    simp [← shape]
  have notLookedUp :
      ∀ {peerId lookup result},
        LookupRun peerId lookup result →
        (⟨.deliverParcel gatewayAddress parcelSerialised useTls, outcome⟩ :
          Call) ∉ lookup := by
    intro peerId lookup result looksUp
    cases looksUp <;> simp
  cases answered with
  | refused =>
      cases member
  | channelless _ _ _ _ _ _ looksUp =>
      exact absurd member (notLookedUp looksUp)
  | unmade _ _ _ _ _ _ looksUp =>
      rcases List.mem_append.mp member with inLookup | isMaking
      · exact absurd inLookup (notLookedUp looksUp)
      · simp [parcelMade] at isMaking
  | attempted event messageOptions lookup channel serialised attempt accepts
      looksUp =>
      cases looksUp with
      | found record =>
          have afterMaking :
              [⟨.findOne messageOptions.peerId, .ok (some record)⟩,
                  ⟨.getChannel messageOptions.peerId
                    record.internetGatewayAddress, .ok (some channel)⟩,
                  parcelMade messageOptions channel (.ok serialised)] ++
                [parcelDelivered shouldUseTls channel serialised attempt] =
              earlier ++
                ⟨.deliverParcel gatewayAddress parcelSerialised useTls,
                  outcome⟩ :: later :=
            shape.symm
          obtain ⟨rfl, isDelivery, -⟩ :=
            split_at_last (by simp [parcelMade]) afterMaking
          cases isDelivery
          exact ⟨event, messageOptions, record, channel, accepts, rfl, rfl, rfl⟩

end PohttpClient

/--
Parcels are delivered for events only, and to advertised gateways.

The parcel was made for the channel with the recipient of the message.  The
gateway, the identity key and the authorisation of this channel were each
advertised, by parcels that had passed all checks, before the delivery.
-/
theorem delivered_where_advertised
    {Id : Type}
    [DecidableEq Id]
    {deployment : Deployment Id}
    {events taken later : List (TaskEvent Id)}
    {last : Snapshot Id}
    {task : Task Id}
    {gatewayAddress : String}
    {parcelSerialised : Buffer}
    {useTls : Bool}
    {outcome : Except Failure Unit}
    (run :
      Run (DeploymentStep deployment.libraries) (deployment.start State.empty)
        events last)
    (shape :
      events =
        taken ++
          .performed task
            ⟨.deliverParcel gatewayAddress parcelSerialised useTls, outcome⟩ ::
          later) :
    ∃ id event messageOptions channel,
      task = .event id ∧
        PohttpClient.Accepts deployment.libraries deployment.endpoint
          (deployment.eventRequest id) event messageOptions ∧
        .performed task
            ⟨.getChannel messageOptions.peerId gatewayAddress,
              .ok (some channel)⟩ ∈
          taken ∧
        .performed task
            (PohttpClient.parcelMade messageOptions channel
              (.ok parcelSerialised)) ∈
          taken ∧
        channel.peer.id = messageOptions.peerId ∧
        channel.peer.internetAddress = gatewayAddress ∧
        deployment.Advertised taken messageOptions.peerId
          PrivateEndpointConnParams.internetGatewayAddress gatewayAddress ∧
        deployment.Advertised taken messageOptions.peerId
          PrivateEndpointConnParams.identityKey channel.peer.identityPublicKey ∧
        deployment.Advertised taken messageOptions.peerId
          PrivateEndpointConnParams.deliveryAuth channel.deliveryAuthPath := by
  have member :
      .performed task
          ⟨.deliverParcel gatewayAddress parcelSerialised useTls, outcome⟩ ∈
        events := by
    simp [shape]
  have awaits := Deployment.mayAwait_of_performed run member
  cases task with
  | event id =>
      obtain ⟨rest, reply, runs⟩ := Deployment.completes_at run shape
      obtain ⟨event, messageOptions, record, channel, accepts, trace, rfl, -⟩ :=
        (PohttpClient.handler_runs runs).of_delivery
      have made : ∀ call ∈ performedBy (.event id) taken,
          .performed (.event id) call ∈ taken := fun _ => mem_performedBy_iff.mp
      simp only [trace, List.forall_mem_cons] at made
      obtain ⟨lookedUp, fetched, isMade, -⟩ := made
      rw [shape] at run
      obtain ⟨_, leading, -⟩ := Run.append_iff.mp run
      have gatewayAdvertised :=
        Deployment.advertised_of_recordFound leading lookedUp
      obtain ⟨isPeer, isAddress, keyAdvertised, authAdvertised⟩ :=
        Deployment.advertised_of_channelFound leading fetched
      rw [← isAddress] at gatewayAdvertised fetched
      exact ⟨id, event, messageOptions, channel, rfl, accepts, fetched, isMade,
        isPeer, rfl, gatewayAdvertised, keyAdvertised, authAdvertised⟩
  | _ =>
      cases awaits

/-- What the stub event is delivered with was advertised by the stub parcel. -/
theorem delivered_where_advertised_stubs :
    ∃ (taken : List (TaskEvent Bool)) (last : Snapshot Bool)
        (channel : InternetPrivateEndpointChannel),
      Run (DeploymentStep Stubs.deployment.libraries)
          (Stubs.deployment.start State.empty)
          (taken ++
            [.performed (.event false)
              ⟨.deliverParcel Stubs.peerAddress [7] true, .ok ()⟩])
          last ∧
        .performed (.event false)
            ⟨.getChannel Stubs.peerId Stubs.peerAddress, .ok (some channel)⟩ ∈
          taken ∧
        Stubs.deployment.Advertised taken Stubs.peerId
          PrivateEndpointConnParams.internetGatewayAddress Stubs.peerAddress ∧
        Stubs.deployment.Advertised taken Stubs.peerId
          PrivateEndpointConnParams.identityKey channel.peer.identityPublicKey ∧
        Stubs.deployment.Advertised taken Stubs.peerId
          PrivateEndpointConnParams.deliveryAuth channel.deliveryAuthPath := by
  have shape :
      Stubs.parcelStored ++ Stubs.eventDelivered false =
        (Stubs.parcelStored ++ (Stubs.eventDelivered false).take 3) ++
          [.performed (.event false)
            ⟨.deliverParcel Stubs.peerAddress [7] true, .ok ()⟩] := by
    rw [List.append_assoc]
    rfl
  obtain ⟨last, run⟩ := Stubs.deployment_run
  obtain ⟨_, event, messageOptions, channel, isEvent,
    ⟨converted, -, accepted⟩, lookedUp, -, -, -, gateway, key, auth⟩ :=
    delivered_where_advertised run shape
  rw [shape] at run
  cases converted
  cases accepted
  exact ⟨_, last, channel, run, lookedUp, gateway, key, auth⟩

end AwalaEndpoint
