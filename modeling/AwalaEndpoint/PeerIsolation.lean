import AwalaEndpoint.ChannelOwnership
import AwalaEndpoint.ParametersAvailability
import AwalaEndpoint.Relaying

namespace AwalaEndpoint

open Awaiting LabelledRuns

/-!
# Conversations are isolated

The conversation with some peers consists of the parcels that carry connection
parameters of theirs, of the events addressed to them and of the bootstrap runs.
A payload is decrypted with a session key that a bootstrap run stored, or with
one that was stored together with a message made for the sender.  As long as
the peers send their parameters themselves, nothing else that a deployment does
at the same time makes a difference to the conversation.
-/

/-! ## What decryption depends on -/

/--
The stores of a deployment and, for each peer, the calls that made messages for
it: each may have stored a session key for the answers of the peer.
-/
structure KeyedState where
  state : State
  made : String → List Call

/-- Whether a call makes a message for the peer. -/
def makesMessageFor (peerId : String) : Call → Bool
  | ⟨.makeMessage channel _ _, _⟩ => channel.peer.id = peerId
  | _ => false

/-- The calls that made messages, once one more call was performed. -/
def KeyedState.madeWith
    (keyed : KeyedState)
    (call : Call)
    (peerId : String) : List Call :=
  keyed.made peerId ++ [call].filter (makesMessageFor peerId)

/--
Which outcomes the decryption of a parcel can have, given the unbound session
keys and the calls that made messages for its sender.
-/
abbrev Decryption : Type :=
  (String → List SessionKey) → List Call → Parcel →
    Except Failure ServiceMessage → Prop

/-- The contract of a call when decryption depends on the session keys. -/
structure PerformedWithKeys
    (libraries : Libraries)
    (decryption : Decryption)
    (before : KeyedState)
    (call : Call)
    (after : KeyedState) : Prop where
  inStores : PerformedInDeployment libraries before.state call after.state
  made : after.made = before.madeWith call
  decrypted :
    ∀ parcel outcome,
      call = ⟨.unwrapPayload parcel, outcome⟩ →
      decryption before.state.unboundSessionKeys
        (before.made parcel.senderCertificate.calculateSubjectId) parcel outcome

/-- A deployment and the messages that were made in it. -/
abbrev KeyedSnapshot (Id : Type) :=
  Configuration interface (Task Id) Task.Result KeyedState

/-- A step of a deployment in which decryption depends on the session keys. -/
abbrev KeyedStep
    {Id : Type}
    [DecidableEq Id]
    (libraries : Libraries)
    (decryption : Decryption) :
    KeyedSnapshot Id → TaskEvent Id → KeyedSnapshot Id → Prop :=
  PoolStep (PerformedWithKeys libraries decryption)

/-- All tasks are about to start, in a deployment with these session keys. -/
def Deployment.startKeyed
    {Id : Type}
    (deployment : Deployment Id)
    (first : KeyedState) : KeyedSnapshot Id :=
  .start first deployment.program

namespace KeyedState

/--
The same is stored about the channels with some peers, the same messages were
made for them, and the endpoint has the same unbound session keys.
-/
structure Alike
    (peers : String → Bool)
    (one other : KeyedState) : Prop where
  channels :
    ∀ peerId,
      peers peerId = true →
      one.state.storedChannel peerId = other.state.storedChannel peerId
  made : ∀ peerId, peers peerId = true → one.made peerId = other.made peerId
  unboundSessionKeys :
    one.state.unboundSessionKeys = other.state.unboundSessionKeys

/-- What can be seen of the stores in the conversation with some peers. -/
def seenBy
    (peers : String → Bool)
    (keyed : KeyedState) :
    ({ peerId : String // peers peerId = true } → StoredChannel × List Call) ×
      (String → List SessionKey) :=
  (fun peerId => (keyed.state.storedChannel peerId, keyed.made peerId),
    keyed.state.unboundSessionKeys)

/-- The same is seen of stores exactly when they are alike. -/
theorem seenBy_eq_iff
    {peers : String → Bool}
    {one other : KeyedState} :
    one.seenBy peers = other.seenBy peers ↔ Alike peers one other := by
  simp only [seenBy, Prod.mk.injEq, funext_iff, Subtype.forall]
  constructor
  · rintro ⟨same, sameKeys⟩
    exact ⟨fun peerId isPeer => (same peerId isPeer).1,
      fun peerId isPeer => (same peerId isPeer).2, funext sameKeys⟩
  · rintro ⟨sameChannels, sameMade, sameKeys⟩
    exact ⟨fun peerId isPeer =>
      ⟨sameChannels peerId isPeer, sameMade peerId isPeer⟩, congrFun sameKeys⟩

end KeyedState

/-! ## Calls that depend on one channel -/

/-- Calls that read nothing but what is stored about the channel with a peer. -/
def readsOnlyChannel (peerId : String) : Call → Bool
  | ⟨.findOne owner, _⟩ => owner = peerId
  | ⟨.getChannel owner _, _⟩ => owner = peerId
  | ⟨.makeMessage _ _ _, _⟩ => true
  | ⟨.deliverParcel _ _ _, _⟩ => true
  | _ => false

/-- Calls that depend on nothing but the session keys of the endpoint. -/
def usesOnlyKeys : Call → Bool
  | ⟨.retrievePrivateKeyByRef _, _⟩ => true
  | ⟨.retrieveUnboundSessionPublicKey _, _⟩ => true
  | ⟨.generateSessionKey _, _⟩ => true
  | ⟨.closeConnection, _⟩ => true
  | _ => false

/-- Calls that depend on the channel with one of the peers and the session keys only. -/
def settlesAlike (peers : String → Bool) (call : Call) : Prop :=
  settlesAnywhere call = true ∨
    (∃ peerId, peers peerId = true ∧ readsOnlyChannel peerId call = true) ∨
    usesOnlyKeys call = true

/-- The calls on the memory of a server are of another kind. -/
theorem notMemory_of_settlesAlike
    {peers : String → Bool}
    {call : Call}
    (settles : settlesAlike peers call) :
    usesMemory call = false := by
  obtain ⟨operation, outcome⟩ := call
  cases operation with
  | loadEmitterFunction =>
      rcases settles with impossible | ⟨_, -, impossible⟩ | impossible <;>
        cases impossible
  | storeEmitterFunction =>
      rcases settles with impossible | ⟨_, -, impossible⟩ | impossible <;>
        cases impossible
  | _ =>
      rfl

/-- Such a call settles in the same way wherever the channel looks the same. -/
theorem Performed.sameChannel
    {libraries : Libraries}
    {before after similar : State}
    {call : Call}
    {peerId : String}
    (performed : Performed libraries before call after)
    (reads : readsOnlyChannel peerId call = true)
    (same : similar.storedChannel peerId = before.storedChannel peerId) :
    Performed libraries similar call similar ∧ after = before := by
  obtain ⟨now, performs⟩ := performed
  rcases call with ⟨operation, outcome⟩
  cases operation with
  | findOne owner =>
      have isPeer : owner = peerId := by
        simpa [readsOnlyChannel] using reads
      subst isPeer
      cases outcome with
      | error failure =>
          exact ⟨⟨now, rfl⟩, performs⟩
      | ok found =>
          obtain ⟨isFirst, unchanged⟩ := performs
          have sameRecord := congrArg StoredChannel.record same
          exact ⟨⟨now, isFirst.trans sameRecord.symm, rfl⟩, unchanged⟩
  | getChannel owner internetAddress =>
      have isPeer : owner = peerId := by
        simpa [readsOnlyChannel] using reads
      subst isPeer
      cases outcome with
      | error failure =>
          exact ⟨⟨now, rfl⟩, performs⟩
      | ok found =>
          obtain ⟨mayFind, unchanged⟩ := performs
          have sameKey := congrArg StoredChannel.identityKey same
          have sameAuths :
              similar.deliveryAuths owner = before.deliveryAuths owner :=
            congrArg StoredChannel.deliveryAuths same
          have mayFindToo :=
            (mayFind_congr sameKey (fun _ => by rw [sameAuths]) now
              internetAddress found).mpr mayFind
          exact ⟨⟨now, mayFindToo, rfl⟩, unchanged⟩
  | makeMessage =>
      exact ⟨⟨now, rfl⟩, performs⟩
  | deliverParcel =>
      exact ⟨⟨now, rfl⟩, performs⟩
  | _ =>
      cases reads

/-- Such a call settles in the same way wherever the same session keys are stored. -/
theorem Performed.sameKeys
    {libraries : Libraries}
    {before after similar : State}
    {call : Call}
    (performed : Performed libraries before call after)
    (usesKeys : usesOnlyKeys call = true)
    (same : similar.unboundSessionKeys = before.unboundSessionKeys) :
    ∃ next, Performed libraries similar call next := by
  obtain ⟨now, performs⟩ := performed
  rcases call with ⟨operation, outcome⟩
  cases operation with
  | retrievePrivateKeyByRef =>
      exact ⟨similar, now, rfl⟩
  | retrieveUnboundSessionPublicKey nodeId =>
      have sameHere := congrFun same nodeId
      rcases outcome with failure | _ | key
      · exact ⟨similar, now, rfl⟩
      · exact ⟨similar, now, sameHere.trans performs.1, rfl⟩
      · exact ⟨similar, now, sameHere ▸ performs.1, rfl⟩
  | generateSessionKey nodeId =>
      have sameHere := congrFun same nodeId
      rcases outcome with failure | key
      · exact ⟨similar, now, rfl⟩
      · exact ⟨_, now, sameHere ▸ performs.1, rfl⟩
  | closeConnection =>
      exact ⟨similar, now, rfl⟩
  | _ =>
      cases usesKeys

/-- A call adds the same session keys wherever it is performed. -/
theorem Performed.sameKeysAfter
    {libraries : Libraries}
    {before after similar next : State}
    {call : Call}
    (performed : Performed libraries before call after)
    (repeated : Performed libraries similar call next)
    (same : similar.unboundSessionKeys = before.unboundSessionKeys) :
    next.unboundSessionKeys = after.unboundSessionKeys := by
  funext nodeId
  rw [performed.unboundSessionKeys, repeated.unboundSessionKeys, same]

theorem touches_of_usesOnlyKeys
    {libraries : Libraries}
    {call : Call}
    (usesKeys : usesOnlyKeys call = true)
    (peerId : String) :
    touches libraries peerId call = false := by
  obtain ⟨operation, outcome⟩ := call
  cases operation with
  | savePrivateEndpointChannel =>
      cases usesKeys
  | updateOne =>
      cases usesKeys
  | _ =>
      rfl

/-- A call settles in the same way wherever the channels and the keys look the same. -/
theorem Performed.settlesAlike
    {libraries : Libraries}
    {before after similar : State}
    {call : Call}
    {peers : String → Bool}
    (performed : Performed libraries before call after)
    (settles : AwalaEndpoint.settlesAlike peers call)
    (sameChannels :
      ∀ peerId,
        peers peerId = true →
        similar.storedChannel peerId = before.storedChannel peerId)
    (sameKeys : similar.unboundSessionKeys = before.unboundSessionKeys) :
    ∃ next,
      Performed libraries similar call next ∧
        (∀ peerId,
          peers peerId = true →
          next.storedChannel peerId = after.storedChannel peerId) ∧
        next.unboundSessionKeys = after.unboundSessionKeys := by
  rcases settles with anywhere | ⟨peerId, isPeer, readsChannel⟩ | usesKeys
  · obtain ⟨next, repeated, looksSame⟩ := performed.elsewhere anywhere similar
    exact ⟨next, repeated,
      fun peerId isPeer => looksSame peerId (sameChannels peerId isPeer),
      performed.sameKeysAfter repeated sameKeys⟩
  · obtain ⟨repeated, rfl⟩ :=
      performed.sameChannel readsChannel (sameChannels peerId isPeer)
    exact ⟨similar, repeated, sameChannels, sameKeys⟩
  · obtain ⟨next, repeated⟩ := performed.sameKeys usesKeys sameKeys
    refine ⟨next, repeated, ?_, performed.sameKeysAfter repeated sameKeys⟩
    intro peerId isPeer
    have untouched : touches libraries peerId call = false :=
      touches_of_usesOnlyKeys usesKeys peerId
    rw [repeated.storedChannel untouched, performed.storedChannel untouched,
      sameChannels peerId isPeer]

/--
A call settles in the same way in stores that are alike, when what it decrypts,
if anything, is a parcel of one of the peers.
-/
theorem PerformedWithKeys.alike
    {libraries : Libraries}
    {decryption : Decryption}
    {before after similar : KeyedState}
    {call : Call}
    {peers : String → Bool}
    (performed : PerformedWithKeys libraries decryption before call after)
    (settles : settlesAlike peers call)
    (fromPeer :
      ∀ parcel outcome,
        call = ⟨.unwrapPayload parcel, outcome⟩ →
        peers parcel.senderCertificate.calculateSubjectId = true)
    (same : KeyedState.Alike peers similar before) :
    ∃ next,
      PerformedWithKeys libraries decryption similar call next ∧
        KeyedState.Alike peers next after := by
  have notMemory := notMemory_of_settlesAlike settles
  obtain ⟨state, repeated, sameChannels, sameKeys⟩ :=
    (performed.inStores.performed notMemory).settlesAlike settles same.channels
      same.unboundSessionKeys
  refine ⟨⟨state, similar.madeWith call⟩,
    ⟨performedInDeployment_of_performed repeated notMemory, rfl, ?_⟩,
    ⟨sameChannels, ?_, sameKeys⟩⟩
  · intro parcel outcome isUnwrap
    rw [same.unboundSessionKeys,
      same.made _ (fromPeer parcel outcome isUnwrap)]
    exact performed.decrypted parcel outcome isUnwrap
  · intro peerId isPeer
    simp only [performed.made, KeyedState.madeWith, same.made peerId isPeer]

/-- The calls of an event depend on the channel with its subject only. -/
theorem PohttpClient.PostRun.readsOnlyChannel
    {libraries : Libraries}
    {endpoint : InternetEndpoint}
    {shouldUseTls : Bool}
    {request : PostRequest}
    {trace : List Call}
    {reply : Except Failure Reply}
    {event : CloudEvent}
    {peerId : String}
    (run : PostRun libraries endpoint shouldUseTls request trace reply)
    (converted : libraries.convertMessageToEvent request = .ok event)
    (isSubject : event.subject = some peerId) :
    ∀ call ∈ trace, AwalaEndpoint.readsOnlyChannel peerId call = true := by
  have isPeer :
      ∀ {other messageOptions},
        Accepts libraries endpoint request other messageOptions →
        messageOptions.peerId = peerId := by
    rintro other messageOptions ⟨alsoConverted, -, decoded⟩
    cases converted.symm.trans alsoConverted
    obtain ⟨-, hasSubject, -⟩ :=
      getOutgoingServiceMessageOptions_eq_ok_iff.mp decoded
    exact Option.some.inj (hasSubject.symm.trans isSubject)
  have inLookup :
      ∀ {lookup result},
        LookupRun peerId lookup result →
        ∀ call ∈ lookup, AwalaEndpoint.readsOnlyChannel peerId call = true := by
    intro lookup result looksUp
    cases looksUp <;> simp [AwalaEndpoint.readsOnlyChannel]
  cases run.answer with
  | refused =>
      simp
  | channelless _ _ _ _ _ accepts looksUp =>
      rw [isPeer accepts] at looksUp
      exact inLookup looksUp
  | unmade _ _ _ _ _ accepts looksUp =>
      rw [isPeer accepts] at looksUp
      have early := inLookup looksUp
      simpa [or_imp, forall_and, parcelMade, AwalaEndpoint.readsOnlyChannel]
        using early
  | attempted _ _ _ _ _ _ accepts looksUp =>
      rw [isPeer accepts] at looksUp
      have early := inLookup looksUp
      simpa [or_imp, forall_and, parcelMade, parcelDelivered,
        AwalaEndpoint.readsOnlyChannel] using early

/-- The calls of a bootstrap run depend on the session keys only. -/
theorem usesOnlyKeys_of_mayAwait
    {Id : Type}
    {id : Id}
    {call : Call}
    (awaits : (Task.bootstrap id).mayAwait call.operation = true) :
    usesOnlyKeys call = true := by
  obtain ⟨operation, outcome⟩ := call
  cases operation <;> first | rfl | cases awaits

/-! ## Messages of parcels -/

/-- A request decrypts one message at most. -/
theorem ParcelDelivery.DeliveryRun.decrypted
    {libraries : Libraries}
    {endpoint : InternetEndpoint}
    {emitter : Emitter}
    {body : Buffer}
    {trace : List Call}
    {reply : Except Failure Reply}
    {parcel : Parcel}
    {serviceMessage : ServiceMessage}
    (run : DeliveryRun libraries endpoint emitter body trace reply)
    (member : ⟨.unwrapPayload parcel, .ok serviceMessage⟩ ∈ trace) :
    trace.findSome? decryptedMessage = some serviceMessage := by
  cases run with
  | malformedParcel =>
      cases member
  | invalidParcel =>
      simp at member
  | undecrypted =>
      simp at member
  | processed _ _ _ _ _ _ processes =>
      obtain ⟨-, rfl⟩ :=
        unwraps_of_checks member (processes.unwrap_notMem parcel _)
      rfl

/-- What a request decrypts is the parcel in its body. -/
theorem ParcelDelivery.DeliveryRun.unwraps
    {libraries : Libraries}
    {endpoint : InternetEndpoint}
    {emitter : Emitter}
    {body : Buffer}
    {trace : List Call}
    {reply : Except Failure Reply}
    {parcel : Parcel}
    {outcome : Except Failure ServiceMessage}
    (run : DeliveryRun libraries endpoint emitter body trace reply)
    (member : ⟨.unwrapPayload parcel, outcome⟩ ∈ trace) :
    libraries.deserializeParcel body = .ok parcel := by
  cases run with
  | malformedParcel =>
      cases member
  | invalidParcel =>
      simp at member
  | undecrypted _ _ deserialized =>
      obtain ⟨rfl, -⟩ : parcel = _ ∧ outcome = _ := by
        simpa using member
      exact deserialized
  | processed _ _ _ _ deserialized _ processes =>
      rcases List.mem_append.mp member with inChecks | inProcessing
      · obtain ⟨rfl, -⟩ : parcel = _ ∧ outcome = _ := by
          simpa [checks] using inChecks
        exact deserialized
      · exact (processes.unwrap_notMem parcel outcome inProcessing).elim

/-- Further calls of a request do not change what it carries. -/
theorem carriesParamsFor_extend
    {libraries : Libraries}
    {peerId : String}
    {delivery : Delivery}
    (carries : delivery.carriesParamsFor libraries peerId = true)
    (rest : List Call)
    (reply : Except Failure Reply) :
    Delivery.carriesParamsFor libraries peerId
        ⟨delivery.body, delivery.trace ++ rest, reply⟩ =
      true := by
  unfold Delivery.carriesParamsFor Delivery.carriedParams at carries ⊢
  rw [List.findSome?_append]
  cases decrypted : delivery.trace.findSome? decryptedMessage with
  | none =>
      simp [decrypted] at carries
  | some serviceMessage =>
      simpa only [decrypted, Option.some_or] using carries

namespace Deployment

variable {Id : Type}
  [DecidableEq Id]
  {deployment : Deployment Id}
  {state : State}
  {events : List (TaskEvent Id)}
  {last : Snapshot Id}
  {id : Id}
  {peers : String → Bool}

/-- The delivery of a parcel as far as it came, as one without a reply. -/
def deliverySoFar
    (deployment : Deployment Id)
    (events : List (TaskEvent Id))
    (id : Id) : Delivery where
  body := deployment.parcelBody id
  trace := performedBy (.parcel id) events
  reply := .error (.unavailable "no reply yet")

/-- The tasks that make up the conversation with some peers. -/
def concerns
    (deployment : Deployment Id)
    (events : List (TaskEvent Id))
    (peers : String → Bool) : Task Id → Bool
  | .parcel id =>
      ((deployment.deliverySoFar events id).carriedParams
        deployment.libraries).any fun connectionParams =>
          peers
            (deployment.libraries.getIdFromIdentityKey
              connectionParams.identityKey)
  | .event id =>
      (deployment.libraries.convertMessageToEvent
        (deployment.eventRequest id)).toOption.any fun event =>
          event.subject.any peers
  | .visit _ => false
  | .bootstrap _ => true

/-- Every parcel that carried parameters of one of the peers was sent by one of them. -/
def SendOwnParams
    (deployment : Deployment Id)
    (events : List (TaskEvent Id))
    (peers : String → Bool) : Prop :=
  ∀ id parcel,
    deployment.concerns events peers (.parcel id) = true →
    deployment.libraries.deserializeParcel (deployment.parcelBody id) =
      .ok parcel →
    peers parcel.senderCertificate.calculateSubjectId = true

theorem concerns_parcel_iff :
    deployment.concerns events peers (.parcel id) = true ↔
      ∃ peerId,
        peers peerId = true ∧
          (deployment.deliverySoFar events id).carriesParamsFor
            deployment.libraries peerId = true := by
  simp only [concerns, Delivery.carriesParamsFor, Option.any_eq_true,
    decide_eq_true_eq]
  constructor
  · rintro ⟨connectionParams, carried, isPeer⟩
    exact ⟨_, isPeer, connectionParams, carried, rfl⟩
  · rintro ⟨_, isPeer, connectionParams, carried, rfl⟩
    exact ⟨connectionParams, carried, isPeer⟩

theorem concerns_event_iff :
    deployment.concerns events peers (.event id) = true ↔
      ∃ event peerId,
        deployment.libraries.convertMessageToEvent
            (deployment.eventRequest id) = .ok event ∧
          event.subject = some peerId ∧
          peers peerId = true := by
  simp only [concerns, Option.any_eq_true]
  cases deployment.libraries.convertMessageToEvent
      (deployment.eventRequest id) with
  | error failure =>
      simp [Except.toOption]
  | ok event =>
      simp [Except.toOption]

/-- A parcel that advertised parameters of a peer is part of the conversation. -/
theorem concerns_of_advertises
    (run :
      Run (DeploymentStep deployment.libraries) (deployment.start state) events
        last)
    {taken later : List (TaskEvent Id)}
    {connectionParams : PrivateEndpointConnParams}
    (shape : events = taken ++ later)
    (advertises : deployment.Advertises taken id connectionParams)
    (isPeer :
      peers
          (deployment.libraries.getIdFromIdentityKey
            connectionParams.identityKey) =
        true) :
    deployment.concerns events peers (.parcel id) = true := by
  have allAdvertised := advertises.extend later
  rw [← shape] at allAdvertised
  obtain ⟨parcel, serviceMessage, checked, isPda, wellFormed⟩ := allAdvertised
  obtain ⟨rest, reply, runs, -⟩ := completes run (.parcel id)
  have decrypted :=
    (ParcelDelivery.handler_runs runs).decrypted
      (List.mem_append_left rest checked.decrypted)
  have decryptedSoFar := findSome?_of_append decrypted checked.decrypted rfl
  simp [concerns, Delivery.carriedParams, deliverySoFar, decryptedSoFar, isPda,
    wellFormed, Except.toOption, isPeer]

/-- A call that touches the channel of a peer belongs to the conversation. -/
theorem concerns_of_touches
    (run :
      Run (DeploymentStep deployment.libraries) (deployment.start state) events
        last)
    {task : Task Id}
    {call : Call}
    {peerId : String}
    (member : .performed task call ∈ events)
    (isPeer : peers peerId = true)
    (touched : touches deployment.libraries peerId call = true) :
    deployment.concerns events peers task = true := by
  obtain ⟨taken, later, rfl⟩ := List.append_of_mem member
  obtain ⟨operation, outcome⟩ := call
  cases operation with
  | savePrivateEndpointChannel connectionParams =>
      have isOwner :
          deployment.libraries.getIdFromIdentityKey
              connectionParams.identityKey = peerId := by
        simpa [touches] using touched
      obtain ⟨id, rfl, advertises⟩ := advertises_of_save run rfl
      exact concerns_of_advertises run rfl advertises (by rwa [isOwner])
  | updateOne owner address =>
      have isOwner : owner = peerId := by
        simpa [touches] using touched
      obtain ⟨id, connectionParams, _, rfl, advertises, isAdvertised, -⟩ :=
        advertises_of_update run rfl
      exact concerns_of_advertises run rfl advertises
        (by rwa [isAdvertised, isOwner])
  | _ =>
      cases touched

/-- A call that makes a message for a peer belongs to the conversation. -/
theorem concerns_of_makes
    (run :
      Run (DeploymentStep deployment.libraries) (deployment.start state) events
        last)
    {task : Task Id}
    {call : Call}
    {peerId : String}
    (member : .performed task call ∈ events)
    (isPeer : peers peerId = true)
    (makes : makesMessageFor peerId call = true) :
    deployment.concerns events peers task = true := by
  obtain ⟨operation, outcome⟩ := call
  cases operation with
  | makeMessage channel serviceMessage options =>
      have isOwner : channel.peer.id = peerId := by
        simpa [makesMessageFor] using makes
      have awaits := mayAwait_of_performed run member
      cases task with
      | event id =>
          obtain ⟨event, messageOptions, ⟨converted, -, decoded⟩, isFor, -⟩ :=
            accepted_of_making run member
          obtain ⟨-, isSubject, -⟩ :=
            getOutgoingServiceMessageOptions_eq_ok_iff.mp decoded
          refine concerns_event_iff.mpr ⟨event, _, converted, isSubject, ?_⟩
          rwa [← isFor, isOwner]
      | _ =>
          cases awaits
  | _ =>
      cases makes

/-- A call that generates a session key belongs to a bootstrap run. -/
theorem concerns_of_generates
    (run :
      Run (DeploymentStep deployment.libraries) (deployment.start state) events
        last)
    {task : Task Id}
    {call : Call}
    {nodeId : String}
    {key : SessionKey}
    (member : .performed task call ∈ events)
    (generated : generatedKey nodeId call = some key) :
    deployment.concerns events peers task = true := by
  have awaits := mayAwait_of_performed run member
  rw [generatedKey_eq_some_iff.mp generated] at awaits
  cases task with
  | bootstrap =>
      rfl
  | _ =>
      cases awaits

/-- The calls of a conversation can settle wherever its channels and the keys look the same. -/
theorem settlesAlike_of_concerns
    (run :
      Run (DeploymentStep deployment.libraries) (deployment.start state) events
        last)
    {task : Task Id}
    {call : Call}
    (member : .performed task call ∈ events)
    (isConcerned : deployment.concerns events peers task = true) :
    settlesAlike peers call := by
  obtain ⟨rest, result, runs, -⟩ := completes run task
  have made : call ∈ performedBy task events ++ rest :=
    List.mem_append_left rest (mem_performedBy_iff.mpr member)
  cases task with
  | parcel id =>
      let delivery : Delivery :=
        ⟨deployment.parcelBody id, performedBy (.parcel id) events ++ rest,
          result⟩
      have delivers :
          Runs
            (ParcelDelivery.handler deployment.libraries deployment.endpoint
              (Emitter.init deployment.environment) delivery.body)
            delivery.trace delivery.reply :=
        runs
      obtain ⟨peerId, -, carriesSoFar⟩ := concerns_parcel_iff.mp isConcerned
      have carries := carriesParamsFor_extend carriesSoFar rest result
      exact .inl (settlesAnywhere_of_carriesParams delivers carries call made)
  | event id =>
      obtain ⟨event, peerId, converted, isSubject, isPeer⟩ :=
        concerns_event_iff.mp isConcerned
      exact .inr (.inl ⟨peerId, isPeer,
        (PohttpClient.handler_runs runs).readsOnlyChannel converted isSubject
          call made⟩)
  | visit =>
      cases isConcerned
  | bootstrap =>
      exact .inr (.inr
        (usesOnlyKeys_of_mayAwait (mayAwait_of_performed run member)))

/-- The parcels that are decrypted in a conversation were sent by the peers. -/
theorem SendOwnParams.fromPeer
    (ownParams : deployment.SendOwnParams events peers)
    (run :
      Run (DeploymentStep deployment.libraries) (deployment.start state) events
        last)
    {task : Task Id}
    {parcel : Parcel}
    {outcome : Except Failure ServiceMessage}
    (member : .performed task ⟨.unwrapPayload parcel, outcome⟩ ∈ events)
    (isConcerned : deployment.concerns events peers task = true) :
    peers parcel.senderCertificate.calculateSubjectId = true := by
  have awaits := mayAwait_of_performed run member
  cases task with
  | parcel id =>
      obtain ⟨rest, reply, runs, -⟩ := completes run (.parcel id)
      have deserialized :=
        (ParcelDelivery.handler_runs runs).unwraps
          (List.mem_append_left rest (mem_performedBy_iff.mpr member))
      exact ownParams id parcel isConcerned deserialized
  | _ =>
      cases awaits

/-- What is not part of the conversation leaves the stores alike. -/
theorem alike_of_notConcerned
    {decryption : Decryption}
    {before after : KeyedState}
    {task : Task Id}
    {call : Call}
    (run :
      Run (DeploymentStep deployment.libraries) (deployment.start state) events
        last)
    (member : .performed task call ∈ events)
    (notConcerned : deployment.concerns events peers task = false)
    (performed :
      PerformedWithKeys deployment.libraries decryption before call after) :
    KeyedState.Alike peers after before := by
  have noMessage :
      ∀ peerId, peers peerId = true → makesMessageFor peerId call = false := by
    intro peerId isPeer
    by_contra makes
    rw [Bool.not_eq_false] at makes
    cases notConcerned.symm.trans (concerns_of_makes run member isPeer makes)
  have sameMade :
      ∀ peerId, peers peerId = true → after.made peerId = before.made peerId := by
    intro peerId isPeer
    rw [performed.made, KeyedState.madeWith,
      List.filter_cons_of_neg (by simp [noMessage peerId isPeer])]
    simp
  rcases performed.inStores.cases with ⟨-, unchanged⟩ | performs
  · exact ⟨fun _ _ => by rw [unchanged], sameMade, by rw [unchanged]⟩
  · refine ⟨?_, sameMade, ?_⟩
    · intro peerId isPeer
      refine performs.storedChannel ?_
      by_contra touched
      rw [Bool.not_eq_false] at touched
      cases notConcerned.symm.trans
        (concerns_of_touches run member isPeer touched)
    · funext nodeId
      rw [performs.unboundSessionKeys nodeId]
      cases generated : generatedKey nodeId call with
      | none =>
          simp
      | some key =>
          cases notConcerned.symm.trans
            (concerns_of_generates run member generated)

end Deployment

/--
The conversation with peers that send their parameters themselves is isolated:
the parcels that carry their parameters, the events addressed to them and the
bootstrap runs can take exactly the steps that they took, with nothing else
going on in the deployment.  Each of them comes as far and settles in the same
way, and the stores are alike at the end, whatever decryption depends on among
the session keys.
-/
theorem conversation_isolated
    {Id : Type}
    [DecidableEq Id]
    {deployment : Deployment Id}
    {decryption : Decryption}
    {first : KeyedState}
    {events : List (TaskEvent Id)}
    {last : KeyedSnapshot Id}
    {peers : String → Bool}
    (run :
      Run (KeyedStep deployment.libraries decryption)
        (deployment.startKeyed first) events last)
    (ownParams : deployment.SendOwnParams events peers) :
    ∃ final,
      Run (KeyedStep deployment.libraries decryption)
          (deployment.startKeyed first)
          (stepsOf (deployment.concerns events peers) events) final ∧
        KeyedState.Alike peers final.world last.world ∧
        ∀ task,
          deployment.concerns events peers task = true →
          final.processes task = last.processes task := by
  have ran :
      Run (DeploymentStep deployment.libraries)
        (deployment.start first.state) events
        ⟨last.world.state, last.processes⟩ :=
    viewed_run KeyedState.state run fun _ _ _ performed => performed.inStores
  obtain ⟨final, isolated, looksSame, sameProcesses⟩ :=
    isolated_run (KeyedState.seenBy peers) (deployment.concerns events peers) run
      (by
        intro before task call after member notConcerned performed
        exact KeyedState.seenBy_eq_iff.mpr
          (Deployment.alike_of_notConcerned ran member notConcerned performed))
      (by
        intro before task call after similar member isConcerned performed same
        obtain ⟨next, repeated, alike⟩ :=
          performed.alike
            (Deployment.settlesAlike_of_concerns ran member isConcerned)
            (by
              rintro parcel outcome rfl
              exact ownParams.fromPeer ran member isConcerned)
            (KeyedState.seenBy_eq_iff.mp same)
        exact ⟨next, repeated, KeyedState.seenBy_eq_iff.mpr alike⟩)
  exact ⟨final, isolated, KeyedState.seenBy_eq_iff.mp looksSame, sameProcesses⟩

namespace Stubs

/-- Decryption fails without a session key for the endpoint or a message for the sender. -/
def needsKey : Decryption := fun keys made _ outcome =>
  outcome.toOption.isSome = true → keys endpointId ≠ [] ∨ made ≠ []

/-- No session keys and no messages. -/
def keyless : KeyedState :=
  ⟨State.empty, fun _ => []⟩

/-- The stores once the key is generated and the parcel is stored. -/
def keyedState : State :=
  ParcelDelivery.storedState deploymentLibraries keyedStores
    (connectionParams peerAddress 0)

/-- Whether a call decrypts a payload. -/
def decrypts : Call → Bool
  | ⟨.unwrapPayload _, _⟩ => true
  | _ => false

/-- Any other call than a decryption needs no key. -/
theorem performedWithKeys_of_other
    {before : KeyedState}
    {after : State}
    {call : Call}
    (performed :
      PerformedInDeployment deployment.libraries before.state call after)
    (isOther : decrypts call = false) :
    PerformedWithKeys deployment.libraries needsKey before call
      ⟨after, before.madeWith call⟩ := by
  refine ⟨performed, rfl, ?_⟩
  rintro parcel _ rfl
  cases isOther

/-- What the stub conversation and everything else in the deployment do. -/
def keyedEvents : List (TaskEvent Bool) :=
  keyGenerated ++ (keyServed ++ [.crashed (.parcel true)]) ++
    (parcelStored ++ eventDelivered false)

/-- A key is generated, a parcel is stored with it and an event is delivered. -/
theorem keyedEvents_run :
    ∃ last,
      Run (KeyedStep deployment.libraries needsKey)
        (deployment.startKeyed keyless) keyedEvents last := by
  have unwrapped
      (made : String → List Call) :
      PerformedWithKeys deployment.libraries needsKey
        ⟨keyedStores, made⟩
        ⟨.unwrapPayload olderParcel, .ok (paramsMessage 0)⟩
        ⟨keyedStores,
          KeyedState.madeWith ⟨keyedStores, made⟩
            ⟨.unwrapPayload olderParcel, .ok (paramsMessage 0)⟩⟩ := by
    have hasKey : keyedStores.unboundSessionKeys endpointId ≠ [] := by
      decide
    exact ⟨⟨epoch, rfl⟩, rfl, fun _ _ _ _ => .inl hasKey⟩
  have channelFound :
      keyedState.MayFind epoch peerId peerAddress
        (some PohttpClient.stubChannel) := by
    decide
  exact ⟨_,
    .next (.settles rfl (performedWithKeys_of_other keyLoaded_performed rfl)) <|
    .next (.settles rfl (performedWithKeys_of_other keyMissing_performed rfl)) <|
    .next (.settles rfl
      (performedWithKeys_of_other keyGenerated_performed rfl)) <|
    .next (.settles rfl (performedWithKeys_of_other keyFound_performed rfl)) <|
    .next .crashed <|
    .next (.settles rfl (performedWithKeys_of_other ⟨epoch, rfl⟩ rfl)) <|
    .next (.settles rfl (unwrapped _)) <|
    .next (.settles rfl
      (performedWithKeys_of_other ⟨epoch, rfl, .inl rfl⟩ rfl)) <|
    .next (.settles rfl (performedWithKeys_of_other ⟨epoch, rfl⟩ rfl)) <|
    .next (.settles rfl (performedWithKeys_of_other ⟨epoch, rfl, rfl⟩ rfl)) <|
    .next (.settles rfl
      (performedWithKeys_of_other ⟨epoch, channelFound, rfl⟩ rfl)) <|
    .next (.settles rfl (performedWithKeys_of_other ⟨epoch, rfl⟩ rfl)) <|
    .next (.settles rfl (performedWithKeys_of_other ⟨epoch, rfl⟩ rfl)) <|
    .done _⟩

/-- Whether an id is the one of the peer. -/
def isStubPeer (id : String) : Bool :=
  id = peerId

theorem stubs_sendOwnParams :
    deployment.SendOwnParams keyedEvents isStubPeer := by
  intro id parcel _ deserialized
  cases id with
  | false =>
      cases deserialized
      rfl
  | true =>
      cases deserialized
      rfl

end Stubs

/-- The stub conversation goes on as before without a visitor and a parcel that is lost. -/
theorem conversation_isolated_stubs :
    ∃ last final,
      Run (KeyedStep Stubs.deployment.libraries Stubs.needsKey)
          (Stubs.deployment.startKeyed Stubs.keyless) Stubs.keyedEvents last ∧
        Run (KeyedStep Stubs.deployment.libraries Stubs.needsKey)
          (Stubs.deployment.startKeyed Stubs.keyless)
          (Stubs.keyGenerated ++
            (Stubs.parcelStored ++ Stubs.eventDelivered false))
          final ∧
        KeyedState.Alike Stubs.isStubPeer final.world last.world ∧
        final.processes (.event false) = last.processes (.event false) := by
  obtain ⟨last, run⟩ := Stubs.keyedEvents_run
  obtain ⟨final, isolated, alike, sameProcesses⟩ :=
    conversation_isolated run Stubs.stubs_sendOwnParams
  exact ⟨last, final, run, isolated, alike, sameProcesses _ rfl⟩

end AwalaEndpoint
