import AwalaEndpoint.ParcelDeliveryEffects

namespace AwalaEndpoint

open Awaiting LabelledRuns

/-!
# Who can change the channel with a peer

The stored channel of a peer is changed by the parcels whose decrypted content
is a set of connection parameters with the peer's identity key.  Nothing ties
these parameters to the authenticated sender of the parcel.
-/

/-- The message a call decrypted. -/
def decryptedMessage : Call → Option ServiceMessage
  | ⟨.unwrapPayload _, .ok serviceMessage⟩ => some serviceMessage
  | _ => none

namespace Delivery

/-- The connection parameters in the decrypted message of a request. -/
def carriedParams
    (libraries : Libraries)
    (delivery : Delivery) : Option PrivateEndpointConnParams :=
  (delivery.trace.findSome? decryptedMessage).bind fun serviceMessage =>
    if serviceMessage.type = ParcelDelivery.pdaPathType then
      (libraries.deserializeConnParams serviceMessage.content).toOption
    else
      none

/-- Whether a request carries connection parameters with the peer's identity key. -/
def carriesParamsFor
    (libraries : Libraries)
    (peerId : String)
    (delivery : Delivery) : Bool :=
  (delivery.carriedParams libraries).any fun connectionParams =>
    libraries.getIdFromIdentityKey connectionParams.identityKey = peerId

end Delivery

/-! ## Calls that do not depend on the state -/

/-- Calls of the route that can settle the same way in any state. -/
def settlesAnywhere : Call → Bool
  | ⟨.validateMessage _, _⟩ => true
  | ⟨.unwrapPayload _, _⟩ => true
  | ⟨.savePrivateEndpointChannel _, _⟩ => true
  | ⟨.updateOne _ _, _⟩ => true
  | _ => false

theorem storedChannel_saveEntries_congr
    {state similar : State}
    {peerId : String}
    (same : similar.storedChannel peerId = state.storedChannel peerId)
    (owner : String)
    (connectionParams : PrivateEndpointConnParams)
    (written : WrittenEntries) :
    (similar.saveEntries owner connectionParams written).storedChannel peerId =
      (state.saveEntries owner connectionParams written).storedChannel peerId := by
  simp only [State.storedChannel, StoredChannel.mk.injEq] at same
  obtain ⟨sameRecord, sameIdentityKey, sameSessionKey, sameDeliveryAuth⟩ := same
  simp only [State.storedChannel, State.saveEntries, StoredChannel.mk.injEq]
  refine ⟨sameRecord, ?_, ?_, ?_⟩
  · split
    · simp only [Function.update_apply, sameIdentityKey]
    · exact sameIdentityKey
  · split
    · simp only [Function.update_apply, sameSessionKey]
    · exact sameSessionKey
  · split
    · by_cases isOwner : peerId = owner
      · subst isOwner
        simp only [Function.update_self, sameDeliveryAuth]
      · simp only [Function.update_of_ne isOwner, sameDeliveryAuth]
    · exact sameDeliveryAuth

theorem storedChannel_upsert_congr
    {state similar : State}
    {peerId : String}
    (same : similar.storedChannel peerId = state.storedChannel peerId)
    (owner address : String) :
    State.storedChannel
        { similar with
          peerEndpoints := upsertPeerEndpoint owner address similar.peerEndpoints }
        peerId =
      State.storedChannel
        { state with
          peerEndpoints := upsertPeerEndpoint owner address state.peerEndpoints }
        peerId := by
  simp only [State.storedChannel, StoredChannel.mk.injEq] at same ⊢
  refine ⟨?_, same.2⟩
  by_cases isOwner : owner = peerId
  · subst isOwner
    rw [find_upsert_same, find_upsert_same]
  · rw [find_upsert_other isOwner, find_upsert_other isOwner]
    exact same.1

/-- Such a call settles in any state, and changes similar channels in the same way. -/
theorem Performed.elsewhere
    {libraries : Libraries}
    {before after : State}
    {call : Call}
    (performed : Performed libraries before call after)
    (anywhere : settlesAnywhere call = true)
    (other : State) :
    ∃ next,
      Performed libraries other call next ∧
        ∀ peerId,
          other.storedChannel peerId = before.storedChannel peerId →
          next.storedChannel peerId = after.storedChannel peerId := by
  obtain ⟨now, performs⟩ := performed
  rcases call with ⟨operation, outcome⟩
  cases operation with
  | validateMessage parcel =>
      rw [show after = before from performs]
      exact ⟨other, ⟨now, rfl⟩, fun _ => id⟩
  | unwrapPayload parcel =>
      rw [show after = before from performs]
      exact ⟨other, ⟨now, rfl⟩, fun _ => id⟩
  | savePrivateEndpointChannel connectionParams =>
      cases outcome with
      | ok channel =>
          obtain ⟨sameId, rfl | ⟨expired, rfl⟩⟩ := performs
          · exact ⟨_, ⟨now, sameId, .inl rfl⟩, fun _ same =>
              storedChannel_saveEntries_congr same _ connectionParams .all⟩
          · exact ⟨_, ⟨now, sameId, .inr ⟨expired, rfl⟩⟩, fun _ same =>
              storedChannel_saveEntries_congr same _ connectionParams .keys⟩
      | error failure =>
          obtain ⟨written, rfl⟩ := performs
          exact ⟨_, ⟨now, written, rfl⟩, fun _ same =>
            storedChannel_saveEntries_congr same _ connectionParams written⟩
  | updateOne owner address =>
      cases outcome with
      | ok answer =>
          rw [show after = _ from performs]
          exact ⟨_, ⟨now, rfl⟩, fun _ same =>
            storedChannel_upsert_congr same owner address⟩
      | error failure =>
          rw [show after = before from performs]
          exact ⟨other, ⟨now, rfl⟩, fun _ => id⟩
  | _ =>
      cases anywhere

/-- Whole traces of such calls change similar channels in the same way. -/
theorem performed_elsewhere
    {libraries : Libraries}
    {before after similar : State}
    {calls : List Call}
    {peerId : String}
    (performed : Run (Performed libraries) before calls after)
    (anywhere : ∀ call ∈ calls, settlesAnywhere call = true)
    (same : similar.storedChannel peerId = before.storedChannel peerId) :
    ∃ next,
      Run (Performed libraries) similar calls next ∧
        next.storedChannel peerId = after.storedChannel peerId := by
  obtain ⟨next, ran, looksSame⟩ :=
    performed.without (fun state => state.storedChannel peerId)
      (fun _ => true)
      (fun _ _ _ _ impossible => by cases impossible)
      (by
        intro _ call _ onlooker member _ stepped looksSame
        obtain ⟨reached, repeated, similarly⟩ :=
          stepped.elsewhere (anywhere call member) onlooker
        exact ⟨reached, repeated, similarly peerId looksSame⟩)
      same
  rw [List.filter_eq_self.mpr fun _ _ => rfl] at ran
  exact ⟨next, ran, looksSame⟩

/-! ## Requests that leave a peer's channel alone -/

section Requests

variable {libraries : Libraries}
  {endpoint : InternetEndpoint}
  {emitter : Emitter}
  {peerId : String}

/-- The parameters that a decrypted request carries are decided by its message. -/
theorem carriedParams_checks
    (body : Buffer)
    (parcel : Parcel)
    (serviceMessage : ServiceMessage)
    (processing : List Call)
    (reply : Except Failure Reply) :
    Delivery.carriedParams libraries
        ⟨body, ParcelDelivery.checks parcel serviceMessage ++ processing, reply⟩ =
      if serviceMessage.type = ParcelDelivery.pdaPathType then
        (libraries.deserializeConnParams serviceMessage.content).toOption
      else
        none :=
  rfl

/-- Such a request carries parameters for the peer that their identity key belongs to. -/
theorem carriesParamsFor_checks_iff
    {body : Buffer}
    {parcel : Parcel}
    {serviceMessage : ServiceMessage}
    {processing : List Call}
    {reply : Except Failure Reply} :
    Delivery.carriesParamsFor libraries peerId
        ⟨body, ParcelDelivery.checks parcel serviceMessage ++ processing, reply⟩ =
          true ↔
      serviceMessage.type = ParcelDelivery.pdaPathType ∧
        ∃ connectionParams,
          libraries.deserializeConnParams serviceMessage.content =
              .ok connectionParams ∧
            libraries.getIdFromIdentityKey connectionParams.identityKey =
              peerId := by
  rw [Delivery.carriesParamsFor, carriedParams_checks]
  by_cases isPda : serviceMessage.type = ParcelDelivery.pdaPathType
  · cases libraries.deserializeConnParams serviceMessage.content <;>
      simp [isPda, Except.toOption]
  · simp [isPda]

/-- Saving the parameters of one peer touches no other peer. -/
theorem SaveProgress.untouched
    {connectionParams : PrivateEndpointConnParams}
    {trace : List Call}
    {remaining : Promise InternetPrivateEndpointChannel}
    {before after : State}
    (progress : SaveProgress connectionParams trace remaining)
    (performed : Run (Performed libraries) before trace after)
    (different :
      libraries.getIdFromIdentityKey connectionParams.identityKey ≠ peerId) :
    ∀ call ∈ trace, touches libraries peerId call = false := by
  cases progress with
  | notStarted =>
      simp
  | refused failure =>
      simpa [keysSave, touches] using different
  | keysSaved channel =>
      simpa [keysSave, touches] using different
  | finished channel outcome =>
      obtain ⟨_, ⟨_, sameId, -⟩, -⟩ := Run.cons_iff.mp performed
      simpa [keysSave, recordUpdate, touches, sameId] using different

/-- A request that carries no parameters for a peer leaves its channel as it was. -/
theorem ParcelDelivery.Handles.storedChannel
    {before after : State}
    {delivery : Delivery}
    (handles :
      ParcelDelivery.Handles libraries endpoint emitter before delivery after)
    (carriesNone : delivery.carriesParamsFor libraries peerId = false) :
    after.storedChannel peerId = before.storedChannel peerId := by
  obtain ⟨runs, performed⟩ := handles
  obtain ⟨body, trace, reply⟩ := delivery
  cases ParcelDelivery.handler_runs runs with
  | malformedParcel =>
      rw [← Run.nil_iff.mp performed]
  | invalidParcel =>
      refine performed.unchanged fun _ call _ member stepped =>
        stepped.storedChannel ?_
      rw [List.mem_singleton.mp member]
      rfl
  | undecrypted =>
      refine performed.unchanged fun _ call _ member stepped =>
        stepped.storedChannel ?_
      rcases List.mem_cons.mp member with rfl | isLast
      · rfl
      · rw [List.mem_singleton.mp isLast]
        rfl
  | processed parcel serviceMessage processing _ _ _ run =>
      have rest := ParcelDelivery.checks_run performed
      cases run with
      | malformedParams =>
          rw [← Run.nil_iff.mp rest]
      | channel connectionParams _ _ isPda wellFormed saving =>
          have different :
              libraries.getIdFromIdentityKey connectionParams.identityKey ≠
                peerId := by
            intro isPeer
            cases carriesNone.symm.trans
              (carriesParamsFor_checks_iff.mpr
                ⟨isPda, connectionParams, wellFormed, isPeer⟩)
          have untouched :=
            (saveChannel_steps saving).untouched rest different
          exact rest.unchanged fun _ call _ member stepped =>
            stepped.storedChannel (untouched call member)
      | refusedEvent =>
          rw [← Run.nil_iff.mp rest]
      | event event _ _ _ _ emitting =>
          have sameStores := ((emit_runs emitting).effects rest).1
          exact congrArg (fun state => state.storedChannel peerId) sameStores

/-- The calls of a request that carries parameters do not depend on the state. -/
theorem settlesAnywhere_of_carriesParams
    {delivery : Delivery}
    (runs :
      Runs (ParcelDelivery.handler libraries endpoint emitter delivery.body)
        delivery.trace delivery.reply)
    (carries : delivery.carriesParamsFor libraries peerId = true) :
    ∀ call ∈ delivery.trace, settlesAnywhere call = true := by
  obtain ⟨body, trace, reply⟩ := delivery
  cases ParcelDelivery.handler_runs runs with
  | malformedParcel =>
      simp
  | invalidParcel =>
      simp [settlesAnywhere]
  | undecrypted =>
      simp [settlesAnywhere]
  | processed parcel serviceMessage processing _ _ _ run =>
      have inChecks :
          ∀ call ∈ ParcelDelivery.checks parcel serviceMessage,
            settlesAnywhere call = true := by
        simp [ParcelDelivery.checks, settlesAnywhere]
      have inProcessing : ∀ call ∈ processing, settlesAnywhere call = true := by
        cases run with
        | malformedParams =>
            simp
        | channel connectionParams _ _ _ _ saving =>
            cases saveChannel_steps saving <;>
              simp [keysSave, recordUpdate, settlesAnywhere]
        | refusedEvent =>
            simp
        | event event _ _ notPda =>
            exact (notPda (carriesParamsFor_checks_iff.mp carries).1).elim
      intro call member
      have inParts :
          call ∈ ParcelDelivery.checks parcel serviceMessage ++ processing :=
        member
      rcases List.mem_append.mp inParts with early | late
      · exact inChecks call early
      · exact inProcessing call late

/-- A request that carries parameters changes similar channels in the same way. -/
theorem ParcelDelivery.Handles.elsewhere
    {before after similar : State}
    {delivery : Delivery}
    (handles :
      ParcelDelivery.Handles libraries endpoint emitter before delivery after)
    (carries : delivery.carriesParamsFor libraries peerId = true)
    (same : similar.storedChannel peerId = before.storedChannel peerId) :
    ∃ next,
      ParcelDelivery.Handles libraries endpoint emitter similar delivery next ∧
        next.storedChannel peerId = after.storedChannel peerId := by
  obtain ⟨runs, performed⟩ := handles
  obtain ⟨next, ran, looksSame⟩ :=
    performed_elsewhere performed
      (settlesAnywhere_of_carriesParams runs carries) same
  exact ⟨next, ⟨runs, ran⟩, looksSame⟩

/--
Along any run, a request changes the channel with a peer only when it carries
connection parameters with the peer's identity key, and removing all other
requests from the run leaves the peer with the same channel.
-/
theorem channelChangesOnlyByParams_run
    {first last : State}
    {deliveries : List Delivery}
    (run :
      Run (ParcelDelivery.Handles libraries endpoint emitter)
        first deliveries last)
    (peerId : String) :
    Run
        (fun before delivery after =>
          ParcelDelivery.Handles libraries endpoint emitter before delivery after ∧
            (after.storedChannel peerId ≠ before.storedChannel peerId →
              delivery.carriesParamsFor libraries peerId = true))
        first deliveries last ∧
      ∃ other,
        Run (ParcelDelivery.Handles libraries endpoint emitter) first
            (deliveries.filter (Delivery.carriesParamsFor libraries peerId))
            other ∧
          other.storedChannel peerId = last.storedChannel peerId := by
  constructor
  · refine run.mono fun before delivery after _ handles => ⟨handles, ?_⟩
    intro changed
    by_contra carriesNone
    exact changed (handles.storedChannel (by simpa using carriesNone))
  · exact run.without (fun state => state.storedChannel peerId)
      (Delivery.carriesParamsFor libraries peerId)
      (fun _ _ _ _ carriesNone handles => handles.storedChannel carriesNone)
      (fun _ _ _ _ _ carries handles same => handles.elsewhere carries same)
      rfl

/-- The parcel with which somebody else stores parameters of their own. -/
def stubAttackerDelivery : Delivery :=
  ParcelDelivery.storedDelivery [2] Stubs.forgedParcel (Stubs.paramsMessage 2)
    Stubs.attackerParams Stubs.attackerChannel

/-- Without the parcel of somebody else, the peer has the same channel. -/
theorem channelChangesOnlyByParams_run_stubs :
    ∃ last other,
      Run
          (ParcelDelivery.Handles Stubs.routeLibraries Stubs.endpoint
            ⟨defaultTransport⟩)
          State.empty
          [ParcelDelivery.stubDelivery [0] Stubs.olderParcel
              Stubs.peerAddress 0,
            stubAttackerDelivery]
          last ∧
        Run
          (ParcelDelivery.Handles Stubs.routeLibraries Stubs.endpoint
            ⟨defaultTransport⟩)
          State.empty
          [ParcelDelivery.stubDelivery [0] Stubs.olderParcel
            Stubs.peerAddress 0]
          other ∧
        other.storedChannel Stubs.peerId = last.storedChannel Stubs.peerId ∧
        last.gatewayOf Stubs.peerId = some Stubs.peerAddress ∧
        last.gatewayOf Stubs.attackerId = some Stubs.otherAddress := by
  have run :
      Run
        (ParcelDelivery.Handles Stubs.routeLibraries Stubs.endpoint
          ⟨defaultTransport⟩)
        State.empty
        [ParcelDelivery.stubDelivery [0] Stubs.olderParcel
            Stubs.peerAddress 0,
          stubAttackerDelivery]
        _ :=
    .next (ParcelDelivery.handles_stubDelivery _ _ _ _ State.empty rfl rfl rfl)
      (.next (ParcelDelivery.handles_storedDelivery _ rfl rfl rfl rfl rfl)
        (.done _))
  obtain ⟨other, kept, same⟩ :=
    (channelChangesOnlyByParams_run run Stubs.peerId).2
  exact ⟨_, other, run, kept, same, by decide, by decide⟩

/--
Somebody else's parcel replaces the channel of a peer: the peer stored its own
parameters, and a parcel of another sender with the peer's identity key in its
parameters moves the peer to another gateway, session key and authorisation.
-/
theorem channel_replaced_by_other_sender :
    ∃ stored replaced,
      Run
          (ParcelDelivery.Handles Stubs.routeLibraries Stubs.endpoint
            ⟨defaultTransport⟩)
          State.empty
          [ParcelDelivery.stubDelivery [0] Stubs.olderParcel Stubs.peerAddress 0]
          stored ∧
        ParcelDelivery.Handles Stubs.routeLibraries Stubs.endpoint
          ⟨defaultTransport⟩ stored
          (ParcelDelivery.stubDelivery [2] Stubs.forgedParcel
            Stubs.otherAddress 1)
          replaced ∧
        Stubs.routeLibraries.deserializeParcel [2] = .ok Stubs.forgedParcel ∧
        Stubs.forgedParcel.senderCertificate.calculateSubjectId ≠ Stubs.peerId ∧
        stored.gatewayOf Stubs.peerId = some Stubs.peerAddress ∧
        replaced.gatewayOf Stubs.peerId = some Stubs.otherAddress ∧
        (replaced.storedChannel Stubs.peerId).sessionKey ≠
          (stored.storedChannel Stubs.peerId).sessionKey ∧
        (replaced.storedChannel Stubs.peerId).deliveryAuths ≠
          (stored.storedChannel Stubs.peerId).deliveryAuths := by
  refine ⟨_, _,
    .next (ParcelDelivery.handles_stubDelivery _ _ _ _ State.empty
      rfl rfl rfl) (.done _),
    ParcelDelivery.handles_stubDelivery _ _ _ _ _ rfl rfl rfl,
    rfl, by decide, rfl, rfl, by decide, by decide⟩

end Requests

end AwalaEndpoint
