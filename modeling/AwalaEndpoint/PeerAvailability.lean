import AwalaEndpoint.AdvertisedChannels
import AwalaEndpoint.PeerStore

namespace AwalaEndpoint

open Awaiting LabelledRuns

/-!
# When a peer is unavailable

In a deployment that starts with empty stores, a record is never written without
the identity key that goes with it.  So an accepted event is answered that the
service is unavailable for three reasons only: a store failed, no parcel had put
the peer on record yet, or none of its authorisations was valid.
-/

section Stores

variable {libraries : Libraries}
  {first last : State}
  {calls : List Call}
  {peerId : String}

/-- In a deployment, too, the identity key of a peer stays. -/
theorem hasIdentityKey_later
    (run : Run (PerformedInDeployment libraries) first calls last)
    (present : first.HasIdentityKey peerId) :
    last.HasIdentityKey peerId :=
  run.preserves (fun state => state.HasIdentityKey peerId)
    (fun _ _ _ _ performed holds => performed.hasIdentityKey holds) present

/-- So does an authorisation of a peer. -/
theorem mem_deliveryAuths_later
    {deliveryAuth : CertificationPath}
    (run : Run (PerformedInDeployment libraries) first calls last)
    (stored : deliveryAuth ∈ first.deliveryAuths peerId) :
    deliveryAuth ∈ last.deliveryAuths peerId :=
  run.preserves (fun state => deliveryAuth ∈ state.deliveryAuths peerId)
    (fun _ _ _ _ performed holds => performed.mem_deliveryAuths holds) stored

/-- Once a save for a peer has succeeded in a deployment, its identity key is there. -/
theorem hasIdentityKey_of_saved
    (run : Run (PerformedInDeployment libraries) first calls last)
    {connectionParams : PrivateEndpointConnParams}
    {channel : InternetPrivateEndpointChannel}
    (saved : keysSave connectionParams (.ok channel) ∈ calls) :
    last.HasIdentityKey
      (libraries.getIdFromIdentityKey connectionParams.identityKey) := by
  obtain ⟨earlier, later, before, after, rfl, -, performed, rest⟩ :=
    run.split_at saved
  have isSave :
      keyWrite libraries
          (libraries.getIdFromIdentityKey connectionParams.identityKey)
          (keysSave connectionParams (.ok channel)) =
        some connectionParams :=
    keyWrite_eq_some_iff.mpr ⟨rfl, channel, rfl⟩
  have afterSave := (performed.performed rfl).hasIdentityKey_of_keyWrite isSave
  exact hasIdentityKey_later rest afterSave

/-- A save that succeeds stores an authorisation that is valid at the time. -/
theorem mem_deliveryAuths_of_save
    {before after : State}
    {now : Instant}
    {connectionParams : PrivateEndpointConnParams}
    {channel : InternetPrivateEndpointChannel}
    (performs :
      Performs libraries now before (keysSave connectionParams (.ok channel))
        after)
    (isValid : connectionParams.deliveryAuth.IsValidAt now) :
    connectionParams.deliveryAuth ∈
      after.deliveryAuths
        (libraries.getIdFromIdentityKey connectionParams.identityKey) := by
  obtain ⟨-, rfl | ⟨expired, -⟩⟩ := performs
  · simp [State.saveEntries, WrittenEntries.all]
  · exact absurd isValid expired

/-- The collection never holds two documents for one peer. -/
theorem nodup_deployment
    (run : Run (PerformedInDeployment libraries) first calls last)
    (unique : (first.peerEndpoints.map PeerEndpoint.peerId).Nodup) :
    (last.peerEndpoints.map PeerEndpoint.peerId).Nodup := by
  refine run.preserves
    (fun state => (state.peerEndpoints.map PeerEndpoint.peerId).Nodup) ?_ unique
  intro before call after _ performed holds
  rcases performed.cases with ⟨-, rfl⟩ | performs
  · exact holds
  · exact nodup_run (.next performs (.done _)) holds

/-- A channel that is not found although the identity key is there has no valid authorisation. -/
theorem not_isValidAt_of_mayFind_none
    {state : State}
    {now : Instant}
    {internetAddress : String}
    (present : state.HasIdentityKey peerId)
    (notFound : state.MayFind now peerId internetAddress none) :
    ∀ deliveryAuth ∈ state.deliveryAuths peerId, ¬ deliveryAuth.IsValidAt now := by
  rcases notFound with noKey | noneValid
  · rw [State.HasIdentityKey, noKey] at present
    cases present
  · exact noneValid

end Stores

namespace Deployment

variable {Id : Type}
  [DecidableEq Id]
  {deployment : Deployment Id}
  {events : List (TaskEvent Id)}
  {last : Snapshot Id}
  {peerId : String}

/-- A peer on record has its identity key in the key stores. -/
theorem hasIdentityKey_of_gatewayOf
    (run :
      Run (DeploymentStep deployment.libraries) (deployment.start State.empty)
        events last)
    {address : String}
    (onRecord : last.world.gatewayOf peerId = some address) :
    last.world.HasIdentityKey peerId := by
  have updated := updated_of_gatewayOf (world_run run) (by rfl) onRecord
  obtain ⟨task, performed⟩ := mem_performedIn_iff.mp updated
  obtain ⟨taken, later, rfl⟩ := List.append_of_mem performed
  obtain ⟨id, connectionParams, channel, -, -, rfl, -, saved⟩ :=
    advertises_of_update run rfl
  have savedInRun :
      keysSave connectionParams (.ok channel) ∈
        performedIn
          (taken ++
            .performed task
              ⟨.updateOne
                (deployment.libraries.getIdFromIdentityKey
                  connectionParams.identityKey) address, .ok ()⟩ :: later) :=
    mem_performedIn_iff.mpr
      ⟨.parcel id, List.mem_append_left _ (mem_performedBy_iff.mp saved)⟩
  exact hasIdentityKey_of_saved (world_run run) savedInRun

/--
In a run with these steps that ends in this state, the connection parameters were
saved at a time at which their authorisation was valid.
-/
def SavedWhileValid
    (deployment : Deployment Id)
    (events : List (TaskEvent Id))
    (state : State)
    (connectionParams : PrivateEndpointConnParams) : Prop :=
  ∃ earlier channel later before after now,
    performedIn events =
        earlier ++ keysSave connectionParams (.ok channel) :: later ∧
      Run (PerformedInDeployment deployment.libraries) State.empty earlier
        before ∧
      Performs deployment.libraries now before
        (keysSave connectionParams (.ok channel)) after ∧
      connectionParams.deliveryAuth.IsValidAt now ∧
      Run (PerformedInDeployment deployment.libraries) after later state

/--
The stores hold one record for a peer at most, with the identity key of the peer,
and nothing but what checked parcels advertised.  For as long as an authorisation
that was saved is valid, a lookup finds a channel.
-/
structure StoresFromParcels
    (deployment : Deployment Id)
    (events : List (TaskEvent Id))
    (state : State) : Prop where
  uniqueRecords : (state.peerEndpoints.map PeerEndpoint.peerId).Nodup
  recorded :
    ∀ record ∈ state.peerEndpoints, state.HasIdentityKey record.peerId
  gateways :
    ∀ peerId address,
      state.gatewayOf peerId = some address →
      deployment.Advertised events peerId
        PrivateEndpointConnParams.internetGatewayAddress address
  identityKeys :
    ∀ peerId identityKey,
      state.identityKeys peerId = some identityKey →
      deployment.libraries.getIdFromIdentityKey identityKey = peerId ∧
        deployment.Advertised events peerId
          PrivateEndpointConnParams.identityKey identityKey
  sessionKeys :
    ∀ peerId sessionKey,
      state.sessionKeys peerId = some sessionKey →
      deployment.Advertised events peerId
        PrivateEndpointConnParams.sessionKey sessionKey
  deliveryAuths :
    ∀ peerId,
      ∀ deliveryAuth ∈ state.deliveryAuths peerId,
        deployment.Advertised events peerId
          PrivateEndpointConnParams.deliveryAuth deliveryAuth
  authorised :
    ∀ connectionParams now internetAddress,
      deployment.SavedWhileValid events state connectionParams →
      connectionParams.deliveryAuth.IsValidAt now →
      ¬ state.MayFind now
        (deployment.libraries.getIdFromIdentityKey connectionParams.identityKey)
        internetAddress none

omit [DecidableEq Id] in
/-- A channel whose authorisation was saved and is valid is not missed. -/
theorem not_mayFind_none_of_saved
    {state : State}
    {connectionParams : PrivateEndpointConnParams}
    {now : Instant}
    {internetAddress : String}
    (saved : deployment.SavedWhileValid events state connectionParams)
    (isValid : connectionParams.deliveryAuth.IsValidAt now) :
    ¬ state.MayFind now
      (deployment.libraries.getIdFromIdentityKey connectionParams.identityKey)
      internetAddress none := by
  obtain ⟨earlier, channel, later, before, after, savedAt, -, leading, performs,
    validThen, trailing⟩ := saved
  have inDeployment :
      PerformedInDeployment deployment.libraries before
        (keysSave connectionParams (.ok channel)) after :=
    performedInDeployment_of_performed ⟨savedAt, performs⟩ rfl
  have present :=
    hasIdentityKey_of_saved (.next inDeployment trailing) List.mem_cons_self
  have stored :=
    mem_deliveryAuths_later trailing
      (mem_deliveryAuths_of_save performs validThen)
  intro notFound
  exact not_isValidAt_of_mayFind_none present notFound _ stored isValid

end Deployment

/--
However the tasks of a deployment interleave, fail and crash, the stores hold one
record for a peer at most, with its identity key, and nothing but what parcels
advertised that had passed all checks.  The identity key of a peer is one that
its id belongs to, and a peer is found for as long as an authorisation is valid
that was saved for it.
-/
theorem storesFromParcels_run
    {Id : Type}
    [DecidableEq Id]
    {deployment : Deployment Id}
    {events : List (TaskEvent Id)}
    {last : Snapshot Id}
    (run :
      Run (DeploymentStep deployment.libraries) (deployment.start State.empty)
        events last) :
    deployment.StoresFromParcels events last.world where
  uniqueRecords := nodup_deployment (world_run run) List.nodup_nil
  recorded _ member := by
    obtain ⟨address, onRecord⟩ := gatewayOf_of_mem member
    exact Deployment.hasIdentityKey_of_gatewayOf run onRecord
  gateways _ _ onRecord := Deployment.advertised_of_gatewayOf run onRecord
  identityKeys _ _ stored := by
    have advertised :=
      Deployment.advertised_of_stored .identityKey run nofun stored
    obtain ⟨id, connectionParams, advertises, isPeer, rfl⟩ := advertised
    exact ⟨isPeer, id, connectionParams, advertises, isPeer, rfl⟩
  sessionKeys _ _ stored :=
    Deployment.advertised_of_stored .sessionKey run nofun stored
  deliveryAuths _ _ stored :=
    Deployment.advertised_of_stored .deliveryAuth run nofun stored
  authorised _ _ _ saved isValid :=
    Deployment.not_mayFind_none_of_saved saved isValid

/-- The parcel of the stub deployment is what its stores come from. -/
theorem storesFromParcels_run_stubs :
    ∃ last : Snapshot Bool,
      Run (DeploymentStep Stubs.deployment.libraries)
          (Stubs.deployment.start State.empty)
          (Stubs.parcelStored ++ Stubs.eventDelivered false) last ∧
        Stubs.deployment.StoresFromParcels
          (Stubs.parcelStored ++ Stubs.eventDelivered false) last.world := by
  obtain ⟨last, run⟩ := Stubs.deployment_run
  exact ⟨last, run, storesFromParcels_run run⟩

namespace Deployment

variable {Id : Type}
  [DecidableEq Id]
  {deployment : Deployment Id}
  {events : List (TaskEvent Id)}
  {last : Snapshot Id}
  {peerId : String}

/-! ## Reasons -/

end Deployment

end AwalaEndpoint
