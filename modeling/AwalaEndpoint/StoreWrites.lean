import AwalaEndpoint.Stores

namespace AwalaEndpoint

open LabelledRuns

/-!
# What calls write

`Write` lists, once, what a settled call can do to the state.  Every invariant
of the stores is derived from it.  The gateway address on record and, when saves
are atomic, the session key and the authorisation saved last for a peer are
registers: each call overwrites them or leaves them alone.
-/

/-- Calls that leave the state as it was. -/
def readsOnly : Call → Bool
  | ⟨.savePrivateEndpointChannel _, _⟩ => false
  | ⟨.updateOne _ _, .ok _⟩ => false
  | ⟨.generateSessionKey _, .ok _⟩ => false
  | ⟨.storeEmitterFunction _, _⟩ => false
  | _ => true

/-- The effect of a settled call on the state. -/
inductive Write
    (libraries : Libraries)
    (before : State) : Call → State → Prop where
  | saved
      (connectionParams : PrivateEndpointConnParams)
      (channel : InternetPrivateEndpointChannel)
      (written : WrittenEntries) :
      channel.peer.id =
        libraries.getIdFromIdentityKey connectionParams.identityKey →
      written = .all ∨ written = .keys →
      Write libraries before
        ⟨.savePrivateEndpointChannel connectionParams, .ok channel⟩
        (before.saveEntries
          (libraries.getIdFromIdentityKey connectionParams.identityKey)
          connectionParams written)
  | partlySaved
      (connectionParams : PrivateEndpointConnParams)
      (failure : Failure)
      (written : WrittenEntries) :
      Write libraries before
        ⟨.savePrivateEndpointChannel connectionParams, .error failure⟩
        (before.saveEntries
          (libraries.getIdFromIdentityKey connectionParams.identityKey)
          connectionParams written)
  | recorded
      (peerId internetGatewayAddress : String) :
      Write libraries before
        ⟨.updateOne peerId internetGatewayAddress, .ok ()⟩
        { before with
          peerEndpoints :=
            upsertPeerEndpoint peerId internetGatewayAddress before.peerEndpoints }
  | keyGenerated
      (nodeId : String)
      (key : SessionKey) :
      key ∉ before.unboundSessionKeys nodeId →
      Write libraries before
        ⟨.generateSessionKey nodeId, .ok key⟩
        (before.addUnboundSessionKey nodeId key)
  | emitterStored
      (emitterFunction : EmitterFunction) :
      Write libraries before
        ⟨.storeEmitterFunction emitterFunction, .ok ()⟩
        { before with emitterFunction := some emitterFunction }
  | nothing
      (call : Call) :
      readsOnly call = true →
      Write libraries before call before

/-- Calls that save the entries of a peer. -/
def savesEntries : Call → Bool
  | ⟨.savePrivateEndpointChannel _, _⟩ => true
  | _ => false

/-- Calls that look up a channel in the key stores. -/
def findsChannel : Call → Bool
  | ⟨.getChannel _ _, _⟩ => true
  | _ => false

/-- A call that leaves the state as it was writes nothing. -/
theorem Write.of_unchanged
    {libraries : Libraries}
    {before after : State}
    {call : Call}
    (unchanged : after = before)
    (reads : readsOnly call = true) :
    Write libraries before call after := by
  rw [unchanged]
  exact .nothing call reads

/-- A performed call does one of the listed things. -/
theorem Performed.write
    {libraries : Libraries}
    {before after : State}
    {call : Call}
    (performed : Performed libraries before call after) :
    Write libraries before call after := by
  obtain ⟨now, performs⟩ := performed
  rcases call with ⟨operation, outcome⟩
  cases operation with
  | savePrivateEndpointChannel connectionParams =>
      cases outcome with
      | ok channel =>
          obtain ⟨sameId, rfl | ⟨-, rfl⟩⟩ := performs
          · exact .saved connectionParams channel .all sameId (.inl rfl)
          · exact .saved connectionParams channel .keys sameId (.inr rfl)
      | error failure =>
          obtain ⟨written, rfl⟩ := performs
          exact .partlySaved connectionParams failure written
  | updateOne peerId internetGatewayAddress =>
      cases outcome with
      | ok answer =>
          rw [show after = _ from performs]
          exact .recorded peerId internetGatewayAddress
      | error failure =>
          exact .of_unchanged performs rfl
  | generateSessionKey nodeId =>
      cases outcome with
      | ok key =>
          obtain ⟨fresh, rfl⟩ := performs
          exact .keyGenerated nodeId key fresh
      | error failure =>
          exact .of_unchanged performs rfl
  | storeEmitterFunction emitterFunction =>
      obtain ⟨rfl, rfl⟩ := performs
      exact .emitterStored emitterFunction
  | findOne peerId =>
      cases outcome with
      | ok found =>
          exact .of_unchanged performs.2 rfl
      | error failure =>
          exact .of_unchanged performs rfl
  | getChannel peerId internetAddress =>
      cases outcome with
      | ok found =>
          exact .of_unchanged performs.2 rfl
      | error failure =>
          exact .of_unchanged performs rfl
  | retrieveUnboundSessionPublicKey nodeId =>
      rcases outcome with failure | (_ | key)
      · exact .of_unchanged performs rfl
      · exact .of_unchanged performs.2 rfl
      · exact .of_unchanged performs.2 rfl
  | loadEmitterFunction =>
      exact .of_unchanged performs.2 rfl
  | _ =>
      exact .of_unchanged performs rfl

/-! ## The `PeerEndpoint` collection -/

theorem find_upsert_same
    (peerId address : String)
    (documents : List PeerEndpoint) :
    findPeerEndpoint peerId (upsertPeerEndpoint peerId address documents) =
      some ⟨peerId, address⟩ := by
  induction documents with
  | nil =>
      simp [upsertPeerEndpoint, findPeerEndpoint]
  | cons document rest inductionHypothesis =>
      by_cases same : document.peerId = peerId
      · subst same
        simp [upsertPeerEndpoint, findPeerEndpoint]
      · simp only [findPeerEndpoint] at inductionHypothesis
        simp [upsertPeerEndpoint, findPeerEndpoint, same,
          inductionHypothesis]

theorem find_upsert_other
    {peerId other : String}
    (different : peerId ≠ other)
    (address : String)
    (documents : List PeerEndpoint) :
    findPeerEndpoint other (upsertPeerEndpoint peerId address documents) =
      findPeerEndpoint other documents := by
  induction documents with
  | nil =>
      simp [upsertPeerEndpoint, findPeerEndpoint, different]
  | cons document rest inductionHypothesis =>
      simp only [findPeerEndpoint] at inductionHypothesis
      by_cases same : document.peerId = peerId
      · simp [upsertPeerEndpoint, findPeerEndpoint, same, different]
      · simp [upsertPeerEndpoint, findPeerEndpoint, same,
          List.find?_cons, inductionHypothesis]

/-- An update keeps the peers on record, and adds its own peer when it was missing. -/
theorem map_peerId_upsert
    (peerId address : String)
    (documents : List PeerEndpoint) :
    (upsertPeerEndpoint peerId address documents).map PeerEndpoint.peerId =
      if peerId ∈ documents.map PeerEndpoint.peerId then
        documents.map PeerEndpoint.peerId
      else
        documents.map PeerEndpoint.peerId ++ [peerId] := by
  induction documents with
  | nil =>
      simp [upsertPeerEndpoint]
  | cons document rest inductionHypothesis =>
      by_cases same : document.peerId = peerId
      · simp [upsertPeerEndpoint, same]
      · simp only [upsertPeerEndpoint, same, ↓reduceIte, List.map_cons,
          inductionHypothesis, List.mem_cons, Ne.symm same, false_or]
        split <;> simp

/-- Updates never make a second document for a peer. -/
theorem nodup_peerId_upsert
    {documents : List PeerEndpoint}
    (unique : (documents.map PeerEndpoint.peerId).Nodup)
    (peerId address : String) :
    ((upsertPeerEndpoint peerId address documents).map
      PeerEndpoint.peerId).Nodup := by
  rw [map_peerId_upsert]
  split
  · exact unique
  · next absent =>
      rw [List.nodup_append]
      exact ⟨unique, by simp, by
        intro known member other isNew
        rw [List.mem_singleton.mp isNew]
        rintro rfl
        exact absent member⟩

/-- The address a call puts on record for a peer, if it does. -/
def recordWrite (peerId : String) : Call → Option String
  | ⟨.updateOne owner address, .ok _⟩ => if owner = peerId then some address else none
  | _ => none

/-- The connection parameters a call saves in the key stores for a peer, if it does. -/
def keyWrite
    (libraries : Libraries)
    (peerId : String) :
    Call → Option PrivateEndpointConnParams
  | ⟨.savePrivateEndpointChannel connectionParams, .ok _⟩ =>
      if libraries.getIdFromIdentityKey connectionParams.identityKey = peerId then
        some connectionParams
      else
        none
  | _ => none

theorem recordWrite_eq_some_iff
    {peerId address : String}
    {call : Call} :
    recordWrite peerId call = some address ↔
      call = ⟨.updateOne peerId address, .ok ()⟩ := by
  constructor
  · intro wrote
    unfold recordWrite at wrote
    split at wrote
    · next owner written answer =>
        simp only [Option.ite_none_right_eq_some, Option.some.injEq] at wrote
        obtain ⟨rfl, rfl⟩ := wrote
        rfl
    · cases wrote
  · rintro rfl
    simp [recordWrite]

theorem keyWrite_eq_some_iff
    {libraries : Libraries}
    {peerId : String}
    {connectionParams : PrivateEndpointConnParams}
    {call : Call} :
    keyWrite libraries peerId call = some connectionParams ↔
      libraries.getIdFromIdentityKey connectionParams.identityKey = peerId ∧
        ∃ channel,
          call = ⟨.savePrivateEndpointChannel connectionParams, .ok channel⟩ := by
  constructor
  · intro wrote
    unfold keyWrite at wrote
    split at wrote
    · next params channel =>
        simp only [Option.ite_none_right_eq_some, Option.some.injEq] at wrote
        obtain ⟨sameId, rfl⟩ := wrote
        exact ⟨sameId, channel, rfl⟩
    · cases wrote
  · rintro ⟨sameId, channel, rfl⟩
    simp [keyWrite, sameId]

theorem recordWrite_of_readsOnly
    {call : Call}
    (reads : readsOnly call = true)
    (peerId : String) :
    recordWrite peerId call = none := by
  cases written : recordWrite peerId call with
  | none =>
      rfl
  | some address =>
      rw [recordWrite_eq_some_iff.mp written] at reads
      cases reads

theorem keyWrite_of_readsOnly
    {libraries : Libraries}
    {call : Call}
    (reads : readsOnly call = true)
    (peerId : String) :
    keyWrite libraries peerId call = none := by
  cases written : keyWrite libraries peerId call with
  | none =>
      rfl
  | some connectionParams =>
      obtain ⟨-, channel, shape⟩ := keyWrite_eq_some_iff.mp written
      rw [shape] at reads
      cases reads

/-! ## Registers -/

theorem gatewayOf_upsert
    (state : State)
    (owner peerId address : String) :
    State.gatewayOf
        { state with
          peerEndpoints := upsertPeerEndpoint owner address state.peerEndpoints }
        peerId =
      if owner = peerId then some address else state.gatewayOf peerId := by
  by_cases same : owner = peerId
  · subst same
    simp [State.gatewayOf, find_upsert_same]
  · simp [State.gatewayOf, find_upsert_other same, same]

@[simp] theorem gatewayOf_saveEntries
    (state : State)
    (owner peerId : String)
    (connectionParams : PrivateEndpointConnParams)
    (written : WrittenEntries) :
    (state.saveEntries owner connectionParams written).gatewayOf peerId =
      state.gatewayOf peerId :=
  rfl

@[simp] theorem gatewayOf_addUnboundSessionKey
    (state : State)
    (nodeId peerId : String)
    (key : SessionKey) :
    (state.addUnboundSessionKey nodeId key).gatewayOf peerId =
      state.gatewayOf peerId :=
  rfl

/-- The address on record changes only by an update that succeeded. -/
theorem Write.gatewayOf
    {libraries : Libraries}
    {before after : State}
    {call : Call}
    (write : Write libraries before call after)
    (peerId : String) :
    after.gatewayOf peerId =
      (recordWrite peerId call).or (before.gatewayOf peerId) := by
  cases write with
  | saved =>
      simp [recordWrite]
  | partlySaved =>
      simp [recordWrite]
  | recorded owner address =>
      rw [gatewayOf_upsert]
      by_cases same : owner = peerId
      · simp [recordWrite, same]
      · simp [recordWrite, same]
  | keyGenerated =>
      simp [recordWrite]
  | emitterStored =>
      rfl
  | nothing _ reads =>
      simp [recordWrite_of_readsOnly reads]

/-- After a run, the address on record is that of the last update that succeeded. -/
theorem gatewayOf_writes
    {libraries : Libraries}
    {first last : State}
    {calls : List Call}
    (run : Run (Write libraries) first calls last)
    (peerId : String) :
    last.gatewayOf peerId =
      (lastWrite (recordWrite peerId) calls).or (first.gatewayOf peerId) :=
  run.register fun _ _ _ _ write => write.gatewayOf peerId

/-- The same of a run of performed calls. -/
theorem gatewayOf_run
    {libraries : Libraries}
    {first last : State}
    {calls : List Call}
    (run : Run (Performed libraries) first calls last)
    (peerId : String) :
    last.gatewayOf peerId =
      (lastWrite (recordWrite peerId) calls).or (first.gatewayOf peerId) :=
  gatewayOf_writes (run.mono fun _ _ _ _ performed => performed.write) peerId

/-- Whatever else a contract promises, its calls write what is listed. -/
theorem writes_of_completely
    {libraries : Libraries}
    {first last : State}
    {calls : List Call}
    (run : Run (PerformedCompletely libraries) first calls last) :
    Run (Write libraries) first calls last :=
  run.mono fun _ _ _ _ performed => performed.1.write

/-! ## Entries of the key stores -/

/-- The identity key of a peer is stored. -/
def State.HasIdentityKey (state : State) (peerId : String) : Prop :=
  (state.identityKeys peerId).isSome = true

/-- The identity key of a peer and an authorisation are stored. -/
def State.HasEntries (state : State) (peerId : String) : Prop :=
  state.HasIdentityKey peerId ∧ state.deliveryAuths peerId ≠ []

theorem hasIdentityKey_saveEntries
    {state : State}
    {peerId : String}
    (present : state.HasIdentityKey peerId)
    (owner : String)
    (connectionParams : PrivateEndpointConnParams)
    (written : WrittenEntries) :
    (state.saveEntries owner connectionParams written).HasIdentityKey peerId := by
  simp only [State.HasIdentityKey, State.saveEntries]
  split
  · rw [Function.update_apply]
    split
    · rfl
    · exact present
  · exact present

theorem hasEntries_saveEntries
    {state : State}
    {peerId : String}
    (present : state.HasEntries peerId)
    (owner : String)
    (connectionParams : PrivateEndpointConnParams)
    (written : WrittenEntries) :
    (state.saveEntries owner connectionParams written).HasEntries peerId := by
  refine ⟨hasIdentityKey_saveEntries present.1 owner connectionParams written, ?_⟩
  simp only [State.saveEntries]
  split
  · rw [Function.update_apply]
    split
    · exact List.cons_ne_nil _ _
    · exact present.2
  · exact present.2

/-- A save keeps the authorisations that were stored. -/
theorem mem_deliveryAuths_saveEntries
    {state : State}
    {peerId : String}
    {deliveryAuth : CertificationPath}
    (stored : deliveryAuth ∈ state.deliveryAuths peerId)
    (owner : String)
    (connectionParams : PrivateEndpointConnParams)
    (written : WrittenEntries) :
    deliveryAuth ∈
      (state.saveEntries owner connectionParams written).deliveryAuths peerId := by
  simp only [State.saveEntries]
  split
  · by_cases isOwner : peerId = owner
    · subst isOwner
      rw [Function.update_self, List.mem_cons]
      by_cases isSaved : deliveryAuth = connectionParams.deliveryAuth
      · exact .inl isSaved
      · exact .inr ((List.mem_erase_of_ne isSaved).mpr stored)
    · rw [Function.update_of_ne isOwner]
      exact stored
  · exact stored

/-- What every save keeps of the key stores, every call keeps. -/
theorem Write.preserves
    {libraries : Libraries}
    {before after : State}
    {call : Call}
    (write : Write libraries before call after)
    (holds : State → Prop)
    (unrelated :
      ∀ other : State,
        other.identityKeys = before.identityKeys →
        other.deliveryAuths = before.deliveryAuths →
        holds other)
    (saves :
      ∀ owner connectionParams written,
        holds (before.saveEntries owner connectionParams written))
    (held : holds before) :
    holds after := by
  cases write with
  | saved connectionParams _ written =>
      exact saves _ connectionParams written
  | partlySaved connectionParams _ written =>
      exact saves _ connectionParams written
  | recorded =>
      exact unrelated _ rfl rfl
  | keyGenerated =>
      exact unrelated _ rfl rfl
  | emitterStored =>
      exact unrelated _ rfl rfl
  | nothing =>
      exact held

/-- No call removes the identity key of a peer. -/
theorem Performed.hasIdentityKey
    {libraries : Libraries}
    {before after : State}
    {call : Call}
    (performed : Performed libraries before call after)
    {peerId : String}
    (present : before.HasIdentityKey peerId) :
    after.HasIdentityKey peerId := by
  refine performed.write.preserves (fun state => state.HasIdentityKey peerId) ?_
    (hasIdentityKey_saveEntries present) present
  intro other sameKeys _
  rw [State.HasIdentityKey, sameKeys]
  exact present

/-- No call removes the entries of a peer. -/
theorem Performed.hasEntries
    {libraries : Libraries}
    {before after : State}
    {call : Call}
    (performed : Performed libraries before call after)
    {peerId : String}
    (present : before.HasEntries peerId) :
    after.HasEntries peerId := by
  refine performed.write.preserves (fun state => state.HasEntries peerId) ?_
    (hasEntries_saveEntries present) present
  intro other sameKeys sameAuths
  rw [State.HasEntries, State.HasIdentityKey, sameKeys, sameAuths]
  exact present

/-- No call removes an authorisation of a peer. -/
theorem Performed.mem_deliveryAuths
    {libraries : Libraries}
    {before after : State}
    {call : Call}
    (performed : Performed libraries before call after)
    {peerId : String}
    {deliveryAuth : CertificationPath}
    (stored : deliveryAuth ∈ before.deliveryAuths peerId) :
    deliveryAuth ∈ after.deliveryAuths peerId := by
  refine performed.write.preserves
    (fun state => deliveryAuth ∈ state.deliveryAuths peerId) ?_
    (mem_deliveryAuths_saveEntries stored) stored
  intro other _ sameAuths
  rw [sameAuths]
  exact stored

/-- A save that succeeds leaves the identity key of its peer. -/
theorem Performed.hasIdentityKey_of_keyWrite
    {libraries : Libraries}
    {before after : State}
    {call : Call}
    {peerId : String}
    {connectionParams : PrivateEndpointConnParams}
    (performed : Performed libraries before call after)
    (wrote : keyWrite libraries peerId call = some connectionParams) :
    after.HasIdentityKey peerId := by
  obtain ⟨sameId, channel, rfl⟩ := keyWrite_eq_some_iff.mp wrote
  cases performed.write with
  | saved _ _ written _ saved =>
      rcases saved with rfl | rfl <;>
        simp [State.HasIdentityKey, State.saveEntries, WrittenEntries.all,
          WrittenEntries.keys, sameId]
  | nothing _ reads =>
      cases reads

/-- A save that succeeds and has stored everything leaves the entries of its peer. -/
theorem PerformedCompletely.hasEntries_of_keyWrite
    {libraries : Libraries}
    {before after : State}
    {call : Call}
    {peerId : String}
    {connectionParams : PrivateEndpointConnParams}
    (performed : PerformedCompletely libraries before call after)
    (wrote : keyWrite libraries peerId call = some connectionParams) :
    after.HasEntries peerId := by
  refine ⟨performed.1.hasIdentityKey_of_keyWrite wrote, ?_⟩
  obtain ⟨sameId, channel, rfl⟩ := keyWrite_eq_some_iff.mp wrote
  rw [performed.2 connectionParams channel rfl]
  simp [State.saveEntries, WrittenEntries.all, sameId]

/-- Once a save for a peer has succeeded in a run, its entries stay. -/
theorem hasEntries_run
    {libraries : Libraries}
    {first last : State}
    {calls : List Call}
    (run : Run (PerformedCompletely libraries) first calls last)
    {peerId : String}
    {call : Call}
    {connectionParams : PrivateEndpointConnParams}
    (member : call ∈ calls)
    (wrote : keyWrite libraries peerId call = some connectionParams) :
    last.HasEntries peerId := by
  obtain ⟨earlier, later, before, after, rfl, -, performed, rest⟩ :=
    run.split_at member
  refine rest.preserves (fun state => state.HasEntries peerId) ?_
    (performed.hasEntries_of_keyWrite wrote)
  intro state other next _ stepped present
  exact stepped.1.hasEntries present

/-- The collection never holds two documents for one peer. -/
theorem nodup_run
    {libraries : Libraries}
    {first last : State}
    {calls : List Call}
    (run : Run (Performed libraries) first calls last)
    (unique : (first.peerEndpoints.map PeerEndpoint.peerId).Nodup) :
    (last.peerEndpoints.map PeerEndpoint.peerId).Nodup := by
  refine run.preserves
    (fun state => (state.peerEndpoints.map PeerEndpoint.peerId).Nodup) ?_ unique
  intro before call after _ performed holds
  cases performed.write with
  | saved =>
      exact holds
  | partlySaved =>
      exact holds
  | recorded owner address =>
      exact nodup_peerId_upsert holds owner address
  | keyGenerated =>
      exact holds
  | emitterStored =>
      exact holds
  | nothing =>
      exact holds

/-- What the stores hold about the channel with a peer. -/
structure StoredChannel where
  record : Option PeerEndpoint
  identityKey : Option PublicKey
  sessionKey : Option SessionKey
  deliveryAuths : List CertificationPath
  deriving DecidableEq

/-- Everything stored about the channel with a peer. -/
def State.storedChannel (state : State) (peerId : String) : StoredChannel where
  record := findPeerEndpoint peerId state.peerEndpoints
  identityKey := state.identityKeys peerId
  sessionKey := state.sessionKeys peerId
  deliveryAuths := state.deliveryAuths peerId

/-- Whether a call may write something about the channel with a peer. -/
def touches (libraries : Libraries) (peerId : String) : Call → Bool
  | ⟨.savePrivateEndpointChannel connectionParams, _⟩ =>
      libraries.getIdFromIdentityKey connectionParams.identityKey = peerId
  | ⟨.updateOne owner _, _⟩ => owner = peerId
  | _ => false

theorem storedChannel_saveEntries_other
    {owner peerId : String}
    (different : owner ≠ peerId)
    (state : State)
    (connectionParams : PrivateEndpointConnParams)
    (written : WrittenEntries) :
    (state.saveEntries owner connectionParams written).storedChannel peerId =
      state.storedChannel peerId := by
  have kept : ∀ {Entry : Type} (entries : String → Entry) (entry : Entry),
      Function.update entries owner entry peerId = entries peerId := fun _ _ =>
    Function.update_of_ne (Ne.symm different) _ _
  simp only [State.storedChannel, State.saveEntries, StoredChannel.mk.injEq,
    true_and]
  refine ⟨?_, ?_, ?_⟩ <;> split <;> simp [kept]

/-- A call that does not touch a peer leaves its stored channel as it was. -/
theorem Performed.storedChannel
    {libraries : Libraries}
    {before after : State}
    {call : Call}
    {peerId : String}
    (performed : Performed libraries before call after)
    (untouched : touches libraries peerId call = false) :
    after.storedChannel peerId = before.storedChannel peerId := by
  cases performed.write with
  | saved connectionParams _ written =>
      exact storedChannel_saveEntries_other
        (by simpa [touches] using untouched) before connectionParams written
  | partlySaved connectionParams _ written =>
      exact storedChannel_saveEntries_other
        (by simpa [touches] using untouched) before connectionParams written
  | recorded owner address =>
      have different : owner ≠ peerId := by
        simpa [touches] using untouched
      simp [State.storedChannel, find_upsert_other different]
  | keyGenerated =>
      rfl
  | emitterStored =>
      rfl
  | nothing =>
      rfl

/-! ## Unbound session keys -/

/-- The unbound session key a call generates for a node, if it does. -/
def generatedKey (nodeId : String) : Call → Option SessionKey
  | ⟨.generateSessionKey owner, .ok key⟩ => if owner = nodeId then some key else none
  | _ => none

theorem generatedKey_eq_some_iff
    {nodeId : String}
    {call : Call}
    {key : SessionKey} :
    generatedKey nodeId call = some key ↔
      call = ⟨.generateSessionKey nodeId, .ok key⟩ := by
  constructor
  · intro generated
    unfold generatedKey at generated
    split at generated
    · simp only [Option.ite_none_right_eq_some, Option.some.injEq] at generated
      obtain ⟨rfl, rfl⟩ := generated
      rfl
    · cases generated
  · rintro rfl
    simp [generatedKey]

/-- A call that leaves the state as it was generates no key. -/
theorem generatedKey_of_readsOnly
    {call : Call}
    (reads : readsOnly call = true)
    (nodeId : String) :
    generatedKey nodeId call = none := by
  cases generated : generatedKey nodeId call with
  | none =>
      rfl
  | some key =>
      rw [generatedKey_eq_some_iff.mp generated] at reads
      cases reads

/-- Unbound keys are only ever added, by a call that generates one. -/
theorem Performed.unboundSessionKeys
    {libraries : Libraries}
    {before after : State}
    {call : Call}
    (performed : Performed libraries before call after)
    (nodeId : String) :
    after.unboundSessionKeys nodeId =
      before.unboundSessionKeys nodeId ++ (generatedKey nodeId call).toList := by
  cases performed.write with
  | saved =>
      simp [generatedKey, State.saveEntries]
  | partlySaved =>
      simp [generatedKey, State.saveEntries]
  | recorded =>
      simp [generatedKey]
  | keyGenerated owner key =>
      by_cases same : owner = nodeId
      · simp [generatedKey, State.addUnboundSessionKey, same]
      · simp [generatedKey, State.addUnboundSessionKey, same,
          Function.update_of_ne (Ne.symm same)]
  | emitterStored =>
      simp [generatedKey]
  | nothing _ reads =>
      simp [generatedKey_of_readsOnly reads]

/-- After a run, the unbound keys are those there were and the generated ones. -/
theorem unboundSessionKeys_run
    {libraries : Libraries}
    {first last : State}
    {calls : List Call}
    (run : Run (Performed libraries) first calls last)
    (nodeId : String) :
    last.unboundSessionKeys nodeId =
      first.unboundSessionKeys nodeId ++ calls.filterMap (generatedKey nodeId) := by
  induction run with
  | done state =>
      simp
  | @next first middle last call calls head tail inductionHypothesis =>
      rw [inductionHypothesis, head.unboundSessionKeys nodeId]
      cases generated : generatedKey nodeId call <;>
        simp [generated]

/-! ## Lookups -/

/-- What may be found depends on the identity key and the authorisations of the peer. -/
theorem mayFind_congr
    {state similar : State}
    {peerId : String}
    (sameKey : similar.identityKeys peerId = state.identityKeys peerId)
    (sameAuths :
      ∀ deliveryAuth,
        deliveryAuth ∈ similar.deliveryAuths peerId ↔
          deliveryAuth ∈ state.deliveryAuths peerId)
    (now : Instant)
    (internetAddress : String)
    (found : Option InternetPrivateEndpointChannel) :
    similar.MayFind now peerId internetAddress found ↔
      state.MayFind now peerId internetAddress found := by
  cases found <;> simp only [State.MayFind, sameKey, sameAuths]

/-- Without a valid authorisation, nothing is found. -/
theorem mayFind_of_noneValid
    {state : State}
    {now : Instant}
    {peerId internetAddress : String}
    (noneValid :
      ¬ ∃ deliveryAuth ∈ state.deliveryAuths peerId, deliveryAuth.IsValidAt now)
    (found : Option InternetPrivateEndpointChannel) :
    state.MayFind now peerId internetAddress found ↔ found = none := by
  cases found with
  | none =>
      refine iff_of_true (.inr ?_) rfl
      intro deliveryAuth stored valid
      exact noneValid ⟨deliveryAuth, stored, valid⟩
  | some channel =>
      refine iff_of_false ?_ (by simp)
      rintro ⟨-, -, -, stored, valid⟩
      exact noneValid ⟨_, stored, valid⟩

/-- The last channel is found when the key and the authorisation are stored and it is valid. -/
theorem lastChannel_eq_some_iff
    {state : State}
    {now : Instant}
    {peerId internetAddress : String}
    {channel : InternetPrivateEndpointChannel} :
    state.lastChannel now peerId internetAddress = some channel ↔
      channel.peer.id = peerId ∧
        channel.peer.internetAddress = internetAddress ∧
        state.identityKeys peerId = some channel.peer.identityPublicKey ∧
        (state.deliveryAuths peerId).head? = some channel.deliveryAuthPath ∧
        channel.deliveryAuthPath.IsValidAt now := by
  obtain ⟨⟨id, address, publicKey⟩, authorisation⟩ := channel
  cases hasIdentityKey : state.identityKeys peerId with
  | none =>
      simp [State.lastChannel, hasIdentityKey]
  | some identityKey =>
      cases hasDeliveryAuth : (state.deliveryAuths peerId).head? with
      | none =>
          simp [State.lastChannel, hasIdentityKey, hasDeliveryAuth]
      | some deliveryAuth =>
          simp only [State.lastChannel, hasIdentityKey, hasDeliveryAuth,
            Option.ite_none_right_eq_some, Option.some.injEq,
            InternetPrivateEndpointChannel.mk.injEq, Peer.mk.injEq]
          constructor
          · rintro ⟨valid, ⟨rfl, rfl, rfl⟩, rfl⟩
            exact ⟨rfl, rfl, rfl, rfl, valid⟩
          · rintro ⟨rfl, rfl, rfl, rfl, valid⟩
            exact ⟨valid, ⟨rfl, rfl, rfl⟩, rfl⟩

/-- A record that is found carries the address on record. -/
theorem gatewayOf_of_found
    {state : State}
    {peerId : String}
    {record : PeerEndpoint}
    (found : some record = findPeerEndpoint peerId state.peerEndpoints) :
    state.gatewayOf peerId = some record.internetGatewayAddress := by
  rw [State.gatewayOf, ← found]
  rfl

/-! ## Atomic saves -/

section Atomic

variable {libraries : Libraries}
  {before after : State}
  {call : Call}

/-- A save that succeeds may have stored every entry. -/
theorem PerformedCompletely.saved
    {connectionParams : PrivateEndpointConnParams}
    {channel : InternetPrivateEndpointChannel}
    (sameId :
      channel.peer.id =
        libraries.getIdFromIdentityKey connectionParams.identityKey) :
    PerformedCompletely libraries before
      ⟨.savePrivateEndpointChannel connectionParams, .ok channel⟩
      (before.saveEntries
        (libraries.getIdFromIdentityKey connectionParams.identityKey)
        connectionParams .all) := by
  refine ⟨⟨epoch, sameId, .inl rfl⟩, ?_⟩
  rintro _ _ shape
  cases shape
  rfl

/-- The contract of any other call is not affected. -/
theorem PerformedCompletely.of_notSave
    (performed : Performed libraries before call after)
    (notSave : savesEntries call = false) :
    PerformedCompletely libraries before call after := by
  refine ⟨performed, ?_⟩
  rintro _ _ rfl
  cases notSave

theorem PerformedAtomically.saved
    {connectionParams : PrivateEndpointConnParams}
    {channel : InternetPrivateEndpointChannel}
    (sameId :
      channel.peer.id =
        libraries.getIdFromIdentityKey connectionParams.identityKey) :
    PerformedAtomically libraries before
      ⟨.savePrivateEndpointChannel connectionParams, .ok channel⟩
      (before.saveEntries
        (libraries.getIdFromIdentityKey connectionParams.identityKey)
        connectionParams .all) := by
  refine ⟨.saved sameId, ?_⟩
  rintro _ _ shape
  cases shape

theorem PerformedAtomically.of_notSave
    (performed : Performed libraries before call after)
    (notSave : savesEntries call = false) :
    PerformedAtomically libraries before call after := by
  refine ⟨.of_notSave performed notSave, ?_⟩
  rintro _ _ rfl
  cases notSave

/-- Where no channel is looked up, it makes no difference what the key stores return. -/
theorem PerformedOnRegisters.of_atomically
    (performed : PerformedAtomically libraries before call after)
    (notLookup : findsChannel call = false) :
    PerformedOnRegisters libraries before call after := by
  unfold PerformedOnRegisters
  split
  · cases notLookup
  · exact performed

/-- Stores that return what was written last write as the others do. -/
theorem PerformedOnRegisters.write
    (performed : PerformedOnRegisters libraries before call after) :
    Write libraries before call after := by
  unfold PerformedOnRegisters at performed
  split at performed
  · exact .of_unchanged performed.2 rfl
  · exact performed.1.1.write

/-- With atomic saves, a call saves every entry of its peer or none. -/
theorem PerformedOnRegisters.saves
    (performed : PerformedOnRegisters libraries before call after) :
    SavesEverything libraries before call after ∧
      RefusesEverything before call after := by
  unfold PerformedOnRegisters at performed
  split at performed
  · constructor
    · rintro _ _ shape
      cases shape
    · rintro _ _ shape
      cases shape
  · exact ⟨performed.1.2, performed.2⟩

theorem writes_of_registers
    {first last : State}
    {calls : List Call}
    (run : Run (PerformedOnRegisters libraries) first calls last) :
    Run (Write libraries) first calls last :=
  run.mono fun _ _ _ _ performed => performed.write

/-- With atomic saves, the session key and the last authorisation change only together. -/
theorem PerformedOnRegisters.entries
    (performed : PerformedOnRegisters libraries before call after)
    (peerId : String) :
    after.sessionKeys peerId =
        ((keyWrite libraries peerId call).map
          PrivateEndpointConnParams.sessionKey).or (before.sessionKeys peerId) ∧
      (after.deliveryAuths peerId).head? =
        ((keyWrite libraries peerId call).map
          PrivateEndpointConnParams.deliveryAuth).or
            (before.deliveryAuths peerId).head? := by
  obtain ⟨savesAll, refusesAll⟩ := performed.saves
  cases performed.write with
  | saved connectionParams channel written =>
      rw [savesAll connectionParams channel rfl]
      by_cases same :
          libraries.getIdFromIdentityKey connectionParams.identityKey = peerId
      · subst same
        simp [keyWrite, State.saveEntries, WrittenEntries.all]
      · simp [keyWrite, same, State.saveEntries, WrittenEntries.all,
          Function.update_of_ne (Ne.symm same)]
  | partlySaved connectionParams failure =>
      rw [refusesAll connectionParams failure rfl]
      simp [keyWrite]
  | recorded =>
      simp [keyWrite]
  | keyGenerated =>
      simp [keyWrite, State.addUnboundSessionKey]
  | emitterStored =>
      simp [keyWrite]
  | nothing _ reads =>
      simp [keyWrite_of_readsOnly reads]

end Atomic

section AtomicRuns

variable {libraries : Libraries}
  {first last : State}
  {calls : List Call}

/-- With atomic saves, the session key stored is that of the last save. -/
theorem sessionKeys_run
    (run : Run (PerformedOnRegisters libraries) first calls last)
    (peerId : String) :
    last.sessionKeys peerId =
      ((lastWrite (keyWrite libraries peerId) calls).map
        PrivateEndpointConnParams.sessionKey).or (first.sessionKeys peerId) := by
  rw [← lastWrite_map]
  exact run.register fun _ _ _ _ performed => (performed.entries peerId).1

/-- With atomic saves, the authorisation that comes first is that of the last save. -/
theorem deliveryAuths_run
    (run : Run (PerformedOnRegisters libraries) first calls last)
    (peerId : String) :
    (last.deliveryAuths peerId).head? =
      ((lastWrite (keyWrite libraries peerId) calls).map
        PrivateEndpointConnParams.deliveryAuth).or
          (first.deliveryAuths peerId).head? := by
  rw [← lastWrite_map]
  exact run.register fun _ _ _ _ performed => (performed.entries peerId).2

end AtomicRuns

end AwalaEndpoint
