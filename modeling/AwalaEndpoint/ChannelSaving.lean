import AwalaEndpoint.PeerStore

namespace AwalaEndpoint

open Awaiting LabelledRuns

/-!
# Saves that reject

`saveChannel` writes to the key stores and then to the `PeerEndpoint` collection,
and its caller goes on when it rejects.  A rejected save is compared with one that
never happened.
-/

/--
A peer is reached in the second state as it was in the first.  The order in which
its authorisations were saved does not matter.
-/
structure SameChannel
    (libraries : Libraries)
    (before after : State)
    (peerId : String) : Prop where
  sessionKey : after.sessionKeys peerId = before.sessionKeys peerId
  deliveryAuths :
    ∀ deliveryAuth,
      deliveryAuth ∈ after.deliveryAuths peerId ↔
        deliveryAuth ∈ before.deliveryAuths peerId
  gateway : after.gatewayOf peerId = before.gatewayOf peerId
  lookup :
    ∀ now result,
      LooksUp libraries now after peerId result ↔
        LooksUp libraries now before peerId result

/-- The peer the connection parameters are of. -/
def PrivateEndpointConnParams.peerId
    (connectionParams : PrivateEndpointConnParams)
    (libraries : Libraries) : String :=
  libraries.getIdFromIdentityKey connectionParams.identityKey

/--
The session key of the parameters and their authorisation are stored for the
peer; when the peer is on record and may be found, their identity key is, too.
-/
structure IsAlreadySaved
    (libraries : Libraries)
    (state : State)
    (connectionParams : PrivateEndpointConnParams) : Prop where
  sessionKey :
    state.sessionKeys (connectionParams.peerId libraries) =
      some connectionParams.sessionKey
  deliveryAuth :
    connectionParams.deliveryAuth ∈
      state.deliveryAuths (connectionParams.peerId libraries)
  identityKey :
    state.gatewayOf (connectionParams.peerId libraries) ≠ none →
    ∀ now,
    (∃ deliveryAuth ∈ state.deliveryAuths (connectionParams.peerId libraries),
      deliveryAuth.IsValidAt now) →
    state.identityKeys (connectionParams.peerId libraries) =
      some connectionParams.identityKey

/-- The key stores refused to save, so that the record was never updated. -/
def KeysRefused
    (connectionParams : PrivateEndpointConnParams)
    (trace : List Call) : Prop :=
  ∃ failure, trace = [keysSave connectionParams (.error failure)]

section Saving

variable {libraries : Libraries}
  {before after : State}
  {connectionParams : PrivateEndpointConnParams}
  {trace : List Call}
  {failure : Failure}

/-- Every peer is reached as before in a state that did not change. -/
theorem SameChannel.refl
    (state : State)
    (peerId : String) :
    SameChannel libraries state state peerId :=
  ⟨rfl, fun _ => Iff.rfl, rfl, fun _ _ => Iff.rfl⟩

@[simp] theorem sessionKeys_saveAll
    (state : State)
    (peerId : String) :
    (state.saveEntries peerId connectionParams .all).sessionKeys =
      Function.update state.sessionKeys peerId
        (some connectionParams.sessionKey) :=
  rfl

@[simp] theorem deliveryAuths_saveAll
    (state : State)
    (peerId : String) :
    (state.saveEntries peerId connectionParams .all).deliveryAuths =
      Function.update state.deliveryAuths peerId
        (connectionParams.deliveryAuth ::
          (state.deliveryAuths peerId).erase connectionParams.deliveryAuth) :=
  rfl

@[simp] theorem identityKeys_saveAll
    (state : State)
    (peerId : String) :
    (state.saveEntries peerId connectionParams .all).identityKeys =
      Function.update state.identityKeys peerId
        (some connectionParams.identityKey) :=
  rfl

/-- A peer has the authorisations that it had and the one that is saved. -/
theorem mem_deliveryAuths_saveAll_iff
    {state : State}
    {peerId : String}
    {deliveryAuth : CertificationPath} :
    deliveryAuth ∈
        (state.saveEntries peerId connectionParams .all).deliveryAuths peerId ↔
      deliveryAuth = connectionParams.deliveryAuth ∨
        deliveryAuth ∈ state.deliveryAuths peerId := by
  rw [deliveryAuths_saveAll, Function.update_self, List.mem_cons]
  by_cases isSaved : deliveryAuth = connectionParams.deliveryAuth
  · simp [isSaved]
  · rw [List.mem_erase_of_ne isSaved]

/--
What is looked up depends on the record and the authorisations of the peer and,
while one of these is valid, on its identity key.
-/
theorem mayLookUp_congr
    {peerId : String}
    {now : Instant}
    (sameRecord :
      findPeerEndpoint peerId after.peerEndpoints =
        findPeerEndpoint peerId before.peerEndpoints)
    (sameAuths :
      ∀ deliveryAuth,
        deliveryAuth ∈ after.deliveryAuths peerId ↔
          deliveryAuth ∈ before.deliveryAuths peerId)
    (sameKey :
      (∃ deliveryAuth ∈ before.deliveryAuths peerId,
        deliveryAuth.IsValidAt now) →
      after.identityKeys peerId = before.identityKeys peerId)
    (result : Except Failure (Option InternetPrivateEndpointChannel)) :
    after.MayLookUp now peerId result ↔ before.MayLookUp now peerId result := by
  have sameFinds (address : String)
      (found : Option InternetPrivateEndpointChannel) :
      after.MayFind now peerId address found ↔
        before.MayFind now peerId address found := by
    by_cases someValid :
        ∃ deliveryAuth ∈ before.deliveryAuths peerId,
          deliveryAuth.IsValidAt now
    · exact mayFind_congr (sameKey someValid) sameAuths now address found
    · rw [mayFind_of_noneValid someValid]
      simp only [← sameAuths] at someValid
      exact mayFind_of_noneValid someValid found
  simp only [State.MayLookUp, sameRecord, sameFinds]

/-- A rejected save stopped at the key stores, or saved the keys and not the record. -/
theorem saveChannel_rejected
    (runs :
      Runs (InternetEndpoint.saveChannel connectionParams) trace
        (.error failure))
    (performed : Run (PerformedAtomically libraries) before trace after) :
    (KeysRefused connectionParams trace ∧ after = before) ∨
      (¬ KeysRefused connectionParams trace ∧
        after =
          before.saveEntries (connectionParams.peerId libraries)
            connectionParams .all) := by
  rcases saveChannel_runs runs with
    ⟨refusal, rfl, -⟩ | ⟨channel, outcome, rfl, rejected⟩
  · obtain ⟨middle, ⟨-, refusesAll⟩, rest⟩ := Run.cons_iff.mp performed
    cases Run.nil_iff.mp rest
    exact .inl ⟨⟨refusal, rfl⟩, refusesAll connectionParams refusal rfl⟩
  · obtain ⟨middle, ⟨⟨-, savesAll⟩, -⟩, rest⟩ := Run.cons_iff.mp performed
    have saved := savesAll connectionParams channel rfl
    obtain ⟨last, ⟨⟨⟨_, updated⟩, -⟩, -⟩, done⟩ := Run.cons_iff.mp rest
    cases Run.nil_iff.mp done
    refine .inr ⟨?_, ?_⟩
    · rintro ⟨refusal, shape⟩
      cases shape
    · cases outcome with
      | error updateFailure =>
          exact (show after = middle from updated).trans saved
      | ok answer =>
          cases rejected

/-- Keys that are saved over the very same keys leave every peer as it was. -/
theorem sameChannel_of_isAlreadySaved
    (already : IsAlreadySaved libraries before connectionParams)
    (peerId : String) :
    SameChannel libraries before
      (before.saveEntries (connectionParams.peerId libraries)
        connectionParams .all)
      peerId := by
  have sameSessionKeys :
      (before.saveEntries (connectionParams.peerId libraries)
          connectionParams .all).sessionKeys =
        before.sessionKeys := by
    rw [sessionKeys_saveAll, ← already.sessionKey, Function.update_eq_self]
  have sameDeliveryAuths :
      ∀ deliveryAuth,
        deliveryAuth ∈
            (before.saveEntries (connectionParams.peerId libraries)
              connectionParams .all).deliveryAuths peerId ↔
          deliveryAuth ∈ before.deliveryAuths peerId := by
    intro deliveryAuth
    by_cases same : peerId = connectionParams.peerId libraries
    · subst same
      rw [mem_deliveryAuths_saveAll_iff, or_iff_right_iff_imp]
      rintro rfl
      exact already.deliveryAuth
    · rw [deliveryAuths_saveAll, Function.update_of_ne same]
  refine ⟨congrFun sameSessionKeys peerId, sameDeliveryAuths, rfl, ?_⟩
  intro now result
  rw [looksUp_iff, looksUp_iff]
  by_cases onRecord : before.gatewayOf peerId = none
  · rw [mayLookUp_of_noRecord onRecord]
    exact mayLookUp_of_noRecord onRecord
  · refine mayLookUp_congr (by rfl) sameDeliveryAuths ?_ result
    intro someValid
    rw [identityKeys_saveAll]
    by_cases same : peerId = connectionParams.peerId libraries
    · subst same
      rw [already.identityKey onRecord now someValid, Function.update_self]
    · exact Function.update_of_ne same _ _

/-- Keys that were saved with every peer left as it was had been saved before. -/
theorem isAlreadySaved_of_sameChannel
    (same :
      SameChannel libraries before
        (before.saveEntries (connectionParams.peerId libraries)
          connectionParams .all)
        (connectionParams.peerId libraries)) :
    IsAlreadySaved libraries before connectionParams := by
  have sessionKey := same.sessionKey
  rw [sessionKeys_saveAll, Function.update_self] at sessionKey
  have deliveryAuth :=
    (same.deliveryAuths connectionParams.deliveryAuth).mp
      (mem_deliveryAuths_saveAll_iff.mpr (.inl rfl))
  refine ⟨sessionKey.symm, deliveryAuth, ?_⟩
  rintro onRecord now ⟨stored, isStored, valid⟩
  obtain ⟨record, recordFound⟩ :=
    Option.ne_none_iff_exists'.mp (mt Option.map_eq_none_iff.mpr onRecord)
  have foundAfter :
      LooksUp libraries now
        (before.saveEntries (connectionParams.peerId libraries)
          connectionParams .all)
        (connectionParams.peerId libraries)
        (.ok (some
          ⟨⟨connectionParams.peerId libraries, record.internetGatewayAddress,
              connectionParams.identityKey⟩,
            stored⟩)) := by
    rw [looksUp_iff, mayLookUp_some_iff]
    exact ⟨record, recordFound, rfl, rfl, by simp,
      (same.deliveryAuths stored).mpr isStored, valid⟩
  have foundBefore := looksUp_iff.mp ((same.lookup _ _).mp foundAfter)
  obtain ⟨_, -, -, -, sameKey, -⟩ := mayLookUp_some_iff.mp foundBefore
  exact sameKey

/--
A save that rejects leaves every peer as it was exactly when the key stores
refused it or had already stored what it saves.
-/
theorem sameChannel_iff
    (runs :
      Runs (InternetEndpoint.saveChannel connectionParams) trace
        (.error failure))
    (performed : Run (PerformedAtomically libraries) before trace after) :
    (∀ peerId, SameChannel libraries before after peerId) ↔
      KeysRefused connectionParams trace ∨
        IsAlreadySaved libraries before connectionParams := by
  rcases saveChannel_rejected runs performed with
    ⟨refused, rfl⟩ | ⟨notRefused, rfl⟩
  · exact ⟨fun _ => .inl refused, fun _ peerId => .refl _ peerId⟩
  · constructor
    · intro same
      exact .inr (isAlreadySaved_of_sameChannel (same _))
    · rintro (refused | already) peerId
      · exact absurd refused notRefused
      · exact sameChannel_of_isAlreadySaved already peerId

end Saving

namespace Stubs

/-- The connection parameters that the peer is known by. -/
def knownParams : PrivateEndpointConnParams :=
  connectionParams peerAddress 0

/-- The connection parameters that the peer sends next, from another gateway. -/
def newParams : PrivateEndpointConnParams :=
  connectionParams otherAddress 1

/-- A state in which the peer is on record with its keys and authorisation. -/
def knownPeer : State :=
  { State.empty.saveEntries peerId knownParams .all with
    peerEndpoints := [⟨peerId, peerAddress⟩] }

/-- The calls of a save whose update of the record fails. -/
def failedUpdate : List Call :=
  [keysSave newParams (.ok (channel newParams)),
    recordUpdate newParams (channel newParams) (.error malformed)]

/-- The save whose update of the record fails rejects. -/
theorem failedUpdate_runs :
    Runs (InternetEndpoint.saveChannel newParams) failedUpdate
      (.error malformed) := by
  refine runs_await_iff.mpr ⟨.ok (channel newParams), _, rfl, ?_⟩
  refine runs_await_iff.mpr ⟨.error malformed, [], rfl, ?_⟩
  exact runs_settled_iff.mpr ⟨rfl, rfl⟩

/-- The keys are saved by then. -/
theorem failedUpdate_performed :
    Run (PerformedAtomically routeLibraries) knownPeer failedUpdate
      (knownPeer.saveEntries peerId newParams .all) := by
  refine Run.cons_iff.mpr
    ⟨knownPeer.saveEntries peerId newParams .all, .saved rfl,
      .next (.of_notSave ⟨epoch, rfl⟩ rfl) (.done _)⟩

end Stubs

/-- The equivalence for the save of a known peer whose update of the record fails. -/
theorem sameChannel_iff_stubs :
    (∀ peerId,
        SameChannel Stubs.routeLibraries Stubs.knownPeer
          (Stubs.knownPeer.saveEntries Stubs.peerId Stubs.newParams .all)
          peerId) ↔
      KeysRefused Stubs.newParams Stubs.failedUpdate ∨
        IsAlreadySaved Stubs.routeLibraries Stubs.knownPeer
          Stubs.newParams :=
  sameChannel_iff Stubs.failedUpdate_runs Stubs.failedUpdate_performed

/--
When the update of the record fails, the save rejects, but the peer is from then
on sent parcels with its new keys and authorisation at its old gateway.
-/
theorem keys_kept_when_update_fails :
    Runs (InternetEndpoint.saveChannel Stubs.newParams) Stubs.failedUpdate
        (.error Stubs.malformed) ∧
      ∃ after,
        Run (PerformedAtomically Stubs.routeLibraries) Stubs.knownPeer
            Stubs.failedUpdate after ∧
          Stubs.knownPeer.sessionKeys Stubs.peerId =
            some Stubs.knownParams.sessionKey ∧
          after.sessionKeys Stubs.peerId = some Stubs.newParams.sessionKey ∧
          LooksUp Stubs.routeLibraries epoch after Stubs.peerId
            (.ok (some
              ⟨⟨Stubs.peerId, Stubs.peerAddress, Stubs.peerKey⟩,
                Stubs.newParams.deliveryAuth⟩)) ∧
          ¬ ∀ peerId,
            SameChannel Stubs.routeLibraries Stubs.knownPeer after peerId := by
  refine ⟨Stubs.failedUpdate_runs, _, Stubs.failedUpdate_performed,
    by decide, by decide, ?_, ?_⟩
  · rw [looksUp_iff, mayLookUp_some_iff]
    exact ⟨⟨Stubs.peerId, Stubs.peerAddress⟩, rfl, by decide⟩
  · intro same
    exact absurd (same Stubs.peerId).sessionKey (by decide)

end AwalaEndpoint
