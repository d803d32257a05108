import AwalaEndpoint.InternetEndpoint
import AwalaEndpoint.Library.Pool
import AwalaEndpoint.Stubs

namespace AwalaEndpoint

open Awaiting LabelledRuns

/-!
# The peer store

Any number of processes save channels at the same time, fail or crash.  Because
a call saves the keys of a peer before it records the peer's gateway, a record
never exists without the entries that go with it.
-/

/-! ## Looking up a channel in a state -/

/-- What `getPeerChannel` makes of what `getChannel` found. -/
def lookedUp (peerId : String) :
    Option InternetPrivateEndpointChannel →
      Except Failure (Option InternetPrivateEndpointChannel)
  | none => .error (.thrown .error ("Could not find channel for peer " ++ peerId))
  | some channel => .ok (some channel)

/-- What `getPeerChannel` may come to in a state whose stores are available. -/
def State.MayLookUp
    (state : State)
    (now : Instant)
    (peerId : String)
    (result : Except Failure (Option InternetPrivateEndpointChannel)) : Prop :=
  match findPeerEndpoint peerId state.peerEndpoints with
  | none => result = .ok none
  | some record =>
      ∃ found,
        state.MayFind now peerId record.internetGatewayAddress found ∧
          result = lookedUp peerId found

/-- `getPeerChannel` ran in a state, at a given time and with the stores available. -/
def LooksUp
    (libraries : Libraries)
    (now : Instant)
    (state : State)
    (peerId : String)
    (result : Except Failure (Option InternetPrivateEndpointChannel)) : Prop :=
  ∃ lookup after,
    Runs (InternetEndpoint.getPeerChannel peerId) lookup result ∧
      Run (Performs libraries now) state lookup after ∧
      ∀ call ∈ lookup, call.failure? = none

/-- Where authorisations are stored for a peer, one of them is valid. -/
def State.Unexpired
    (state : State)
    (now : Instant)
    (peerId : String) : Prop :=
  state.deliveryAuths peerId ≠ [] →
  ∃ deliveryAuth ∈ state.deliveryAuths peerId, deliveryAuth.IsValidAt now

/-- `getPeerChannel` runs to what may be looked up, and to all of it. -/
theorem looksUp_iff
    {libraries : Libraries}
    {now : Instant}
    {state : State}
    {peerId : String}
    {result : Except Failure (Option InternetPrivateEndpointChannel)} :
    LooksUp libraries now state peerId result ↔
      state.MayLookUp now peerId result := by
  constructor
  · rintro ⟨lookup, after, runs, performed, available⟩
    cases getPeerChannel_runs_iff.mp runs with
    | recordUnavailable failure =>
        cases available ⟨.findOne peerId, .error failure⟩ (by simp)
    | unknownPeer =>
        obtain ⟨_, ⟨recordFound, -⟩, -⟩ := Run.cons_iff.mp performed
        simp [State.MayLookUp, ← recordFound]
    | entriesUnavailable record failure =>
        cases available
          ⟨.getChannel peerId record.internetGatewayAddress, .error failure⟩
          (by simp)
    | missingEntries record =>
        obtain ⟨_, ⟨recordFound, rfl⟩, rest⟩ := Run.cons_iff.mp performed
        obtain ⟨_, ⟨mayFind, -⟩, -⟩ := Run.cons_iff.mp rest
        simp only [State.MayLookUp, ← recordFound]
        exact ⟨none, mayFind, rfl⟩
    | found record channel =>
        obtain ⟨_, ⟨recordFound, rfl⟩, rest⟩ := Run.cons_iff.mp performed
        obtain ⟨_, ⟨mayFind, -⟩, -⟩ := Run.cons_iff.mp rest
        simp only [State.MayLookUp, ← recordFound]
        exact ⟨some channel, mayFind, rfl⟩
  · intro mayLookUp
    unfold State.MayLookUp at mayLookUp
    cases recordFound : findPeerEndpoint peerId state.peerEndpoints with
    | none =>
        simp only [recordFound] at mayLookUp
        subst mayLookUp
        exact ⟨[⟨.findOne peerId, .ok none⟩], state,
          getPeerChannel_runs_iff.mpr .unknownPeer,
          .next ⟨recordFound.symm, rfl⟩ (.done _),
          by simp [Completed.failure?]⟩
    | some record =>
        simp only [recordFound] at mayLookUp
        obtain ⟨found, mayFind, rfl⟩ := mayLookUp
        refine ⟨[⟨.findOne peerId, .ok (some record)⟩,
            ⟨.getChannel peerId record.internetGatewayAddress, .ok found⟩],
          state, ?_,
          .next ⟨recordFound.symm, rfl⟩
            (.next ⟨mayFind, rfl⟩ (.done _)),
          by simp [Completed.failure?]⟩
        cases found with
        | none =>
            exact getPeerChannel_runs_iff.mpr (.missingEntries record)
        | some channel =>
            exact getPeerChannel_runs_iff.mpr (.found record channel)

/-- A channel is looked up when there is a record and a channel to its address. -/
theorem mayLookUp_some_iff
    {state : State}
    {now : Instant}
    {peerId : String}
    {channel : InternetPrivateEndpointChannel} :
    state.MayLookUp now peerId (.ok (some channel)) ↔
      ∃ record,
        findPeerEndpoint peerId state.peerEndpoints = some record ∧
          state.MayFind now peerId record.internetGatewayAddress
            (some channel) := by
  unfold State.MayLookUp
  cases recordFound : findPeerEndpoint peerId state.peerEndpoints with
  | none =>
      simp
  | some record =>
      constructor
      · rintro ⟨found, mayFind, isFound⟩
        cases found with
        | none =>
            cases isFound
        | some other =>
            cases isFound
            exact ⟨record, rfl, mayFind⟩
      · rintro ⟨_, ⟨rfl⟩, mayFind⟩
        exact ⟨some channel, mayFind, rfl⟩

/-- A peer on record with its entries has a channel to the address on record. -/
theorem channel_of_mayLookUp
    {state : State}
    {now : Instant}
    {peerId address : String}
    {result : Except Failure (Option InternetPrivateEndpointChannel)}
    (mayLookUp : state.MayLookUp now peerId result)
    (onRecord : state.gatewayOf peerId = some address)
    (present : state.HasEntries peerId)
    (unexpired : state.Unexpired now peerId) :
    ∃ channel,
      result = .ok (some channel) ∧ channel.peer.internetAddress = address := by
  obtain ⟨hasIdentityKey, hasDeliveryAuth⟩ := present
  obtain ⟨deliveryAuth, stored, valid⟩ := unexpired hasDeliveryAuth
  obtain ⟨record, recordFound, sameAddress⟩ := Option.map_eq_some_iff.mp onRecord
  simp only [State.MayLookUp, recordFound] at mayLookUp
  obtain ⟨found, mayFind, rfl⟩ := mayLookUp
  cases found with
  | none =>
      rcases mayFind with noKey | allExpired
      · rw [State.HasIdentityKey, noKey] at hasIdentityKey
        cases hasIdentityKey
      · exact absurd valid (allExpired deliveryAuth stored)
  | some channel =>
      exact ⟨channel, rfl, mayFind.2.1.trans sameAddress⟩

/-- A peer that is not on record has no channel. -/
theorem mayLookUp_of_noRecord
    {state : State}
    {now : Instant}
    {peerId : String}
    {result : Except Failure (Option InternetPrivateEndpointChannel)}
    (noRecord : state.gatewayOf peerId = none) :
    state.MayLookUp now peerId result ↔ result = .ok none := by
  rw [State.MayLookUp, Option.map_eq_none_iff.mp noRecord]

/-- A peer with a document is on record. -/
theorem gatewayOf_of_mem
    {state : State}
    {record : PeerEndpoint}
    (member : record ∈ state.peerEndpoints) :
    ∃ address, state.gatewayOf record.peerId = some address := by
  cases found : findPeerEndpoint record.peerId state.peerEndpoints with
  | some first =>
      exact ⟨first.internetGatewayAddress, by simp [State.gatewayOf, found]⟩
  | none =>
      have absent := List.find?_eq_none.mp found record member
      simp at absent

/-! ## Traces of one call of `saveChannel` -/

/-- A channel that was saved belongs to the peer of its identity key. -/
theorem peerId_of_keysSave
    {libraries : Libraries}
    {first last : State}
    {calls : List Call}
    {connectionParams : PrivateEndpointConnParams}
    {channel : InternetPrivateEndpointChannel}
    (run : Run (Write libraries) first calls last)
    (member : keysSave connectionParams (.ok channel) ∈ calls) :
    channel.peer.id =
      libraries.getIdFromIdentityKey connectionParams.identityKey := by
  obtain ⟨_, _, _, _, -, -, write, -⟩ := run.split_at member
  cases write with
  | saved _ _ _ sameId =>
      exact sameId
  | nothing _ reads =>
      cases reads

/-- A call that put an address on record had saved the keys before. -/
theorem SaveProgress.of_recordWrite
    {connectionParams : PrivateEndpointConnParams}
    {trace : List Call}
    {remaining : Promise InternetPrivateEndpointChannel}
    {call : Call}
    {peerId address : String}
    (progress : SaveProgress connectionParams trace remaining)
    (member : call ∈ trace)
    (wrote : recordWrite peerId call = some address) :
    ∃ channel,
      trace =
          [keysSave connectionParams (.ok channel),
            recordUpdate connectionParams channel (.ok ())] ∧
        channel.peer.id = peerId ∧
        connectionParams.internetGatewayAddress = address := by
  rw [recordWrite_eq_some_iff] at wrote
  subst wrote
  cases progress with
  | notStarted =>
      cases member
  | refused failure =>
      simp [keysSave] at member
  | keysSaved channel =>
      simp [keysSave] at member
  | finished channel outcome =>
      simp only [keysSave, recordUpdate, List.mem_cons, Completed.mk.injEq,
        reduceCtorEq, false_and, Operation.updateOne.injEq, List.not_mem_nil,
        or_false, false_or] at member
      obtain ⟨⟨samePeer, sameAddress⟩, sameOutcome⟩ := member
      refine ⟨channel, ?_, samePeer.symm, sameAddress.symm⟩
      cases eq_of_heq sameOutcome
      rfl

/-! ## Concurrent calls of `saveChannel` -/

section Savers

variable {Caller : Type} [DecidableEq Caller]

/-- A pool in which every caller is about to save its connection parameters. -/
def savers
    (connectionParams : Caller → PrivateEndpointConnParams) :
    Configuration interface Caller (fun _ => InternetPrivateEndpointChannel) State :=
  .start State.empty fun caller =>
    InternetEndpoint.saveChannel (connectionParams caller)

/-- A call of `saveChannel` for a peer has completed its update of the record. -/
def HasRecorded
    (libraries : Libraries)
    (connectionParams : Caller → PrivateEndpointConnParams)
    (events : List (PoolEvent interface Caller))
    (peerId : String)
    (caller : Caller) : Prop :=
  libraries.getIdFromIdentityKey (connectionParams caller).identityKey = peerId ∧
    ∃ channel,
      recordUpdate (connectionParams caller) channel (.ok ()) ∈
        performedBy caller events

variable {libraries : Libraries}
  {connectionParams : Caller → PrivateEndpointConnParams}
  {events : List (PoolEvent interface Caller)}
  {last :
    Configuration interface Caller (fun _ => InternetPrivateEndpointChannel) State}

/-- An update of a record follows, in the same call, the save of the peer's keys. -/
theorem keysSave_of_recordWrite
    (run :
      Run (PoolStep (PerformedCompletely libraries)) (savers connectionParams) events last)
    {caller : Caller}
    {call : Call}
    {peerId address : String}
    (member : call ∈ performedBy caller events)
    (wrote : recordWrite peerId call = some address) :
    ∃ channel,
      performedBy caller events =
          [keysSave (connectionParams caller) (.ok channel),
            recordUpdate (connectionParams caller) channel (.ok ())] ∧
        libraries.getIdFromIdentityKey (connectionParams caller).identityKey =
          peerId ∧
        (connectionParams caller).internetGatewayAddress = address ∧
        last.world.HasEntries peerId := by
  have started :
      (savers connectionParams).processes caller =
        some (InternetEndpoint.saveChannel (connectionParams caller)) :=
    rfl
  obtain ⟨remaining, steps, -⟩ := caller_steps run started
  obtain ⟨channel, shape, samePeer, sameAddress⟩ :=
    (saveChannel_steps steps).of_recordWrite member wrote
  have saved :
      keysSave (connectionParams caller) (.ok channel) ∈ performedIn events := by
    refine mem_performedIn_iff.mpr ⟨caller, mem_performedBy_iff.mp ?_⟩
    simp [shape]
  have sameId :
      libraries.getIdFromIdentityKey (connectionParams caller).identityKey =
        peerId :=
    (peerId_of_keysSave (writes_of_completely (world_run run)) saved).symm.trans samePeer
  refine ⟨channel, shape, sameId, sameAddress, ?_⟩
  exact hasEntries_run (world_run run) saved
    (keyWrite_eq_some_iff.mpr ⟨sameId, channel, rfl⟩)

/-- A peer on record was recorded by a call for it, and its entries are stored. -/
theorem recorded_of_gateway
    (run :
      Run (PoolStep (PerformedCompletely libraries)) (savers connectionParams) events last)
    {peerId address : String}
    (onRecord : last.world.gatewayOf peerId = some address) :
    last.world.HasEntries peerId ∧
      ∃ caller, HasRecorded libraries connectionParams events peerId caller := by
  have written :
      lastWrite (recordWrite peerId) (performedIn events) = some address := by
    have atEnd := gatewayOf_writes (writes_of_completely (world_run run)) peerId
    rw [onRecord] at atEnd
    simpa [savers, Configuration.start, State.gatewayOf, State.empty,
      findPeerEndpoint] using atEnd.symm
  obtain ⟨earlier, call, later, shape, wrote, -⟩ :=
    lastWrite_eq_some_iff.mp written
  obtain ⟨caller, performed⟩ :=
    mem_performedIn_iff.mp (show call ∈ performedIn events by simp [shape])
  obtain ⟨channel, trace, sameId, -, present⟩ :=
    keysSave_of_recordWrite run (mem_performedBy_iff.mpr performed) wrote
  exact ⟨present, caller, sameId, channel, by simp [trace]⟩

/-- Once a call for a peer has completed its update, the peer is on record. -/
theorem gateway_of_recorded
    (run :
      Run (PoolStep (PerformedCompletely libraries)) (savers connectionParams) events last)
    {peerId : String}
    {caller : Caller}
    (recorded : HasRecorded libraries connectionParams events peerId caller) :
    ∃ address, last.world.gatewayOf peerId = some address := by
  obtain ⟨sameId, channel, member⟩ := recorded
  obtain ⟨_, _, samePeer, -⟩ :=
    keysSave_of_recordWrite run member
      (recordWrite_eq_some_iff.mpr rfl)
  have wrote :
      recordWrite peerId
          (recordUpdate (connectionParams caller) channel (.ok ())) =
        some (connectionParams caller).internetGatewayAddress := by
    refine recordWrite_eq_some_iff.mpr ?_
    rw [← sameId, samePeer]
    rfl
  cases onRecord : last.world.gatewayOf peerId with
  | some address =>
      exact ⟨address, rfl⟩
  | none =>
      have atEnd := gatewayOf_writes (writes_of_completely (world_run run)) peerId
      rw [onRecord] at atEnd
      have silent := lastWrite_eq_none_iff.mp (Option.or_eq_none_iff.mp atEnd.symm).1
      have performed :=
        mem_performedIn_iff.mpr ⟨caller, mem_performedBy_iff.mp member⟩
      cases (silent _ performed).symm.trans wrote

end Savers

/-! ## Calls of `saveChannel` one after another -/

/-- One call of `saveChannel`, as far as it came. -/
structure SaveAttempt where
  connectionParams : PrivateEndpointConnParams
  trace : List Call

namespace SaveAttempt

/-- A call of `saveChannel` runs alone, and may fail or crash on the way. -/
def Attempts
    (libraries : Libraries)
    (before : State)
    (attempt : SaveAttempt)
    (after : State) : Prop :=
  (∃ remaining,
      Steps (InternetEndpoint.saveChannel attempt.connectionParams)
        attempt.trace remaining) ∧
    Run (PerformedCompletely libraries) before attempt.trace after

/-- Whether a call completed its update of the record. -/
def completesUpdate (attempt : SaveAttempt) : Bool :=
  attempt.trace.any fun call =>
    match call with
    | ⟨.updateOne _ _, .ok _⟩ => true
    | _ => false

/-- The address that a call recorded for a peer, if it completed its update. -/
def recorded
    (libraries : Libraries)
    (peerId : String)
    (attempt : SaveAttempt) : Option String :=
  if attempt.completesUpdate ∧
      libraries.getIdFromIdentityKey attempt.connectionParams.identityKey =
        peerId then
    some attempt.connectionParams.internetGatewayAddress
  else
    none

variable {libraries : Libraries}
  {before after : State}
  {attempt : SaveAttempt}

/-- A call overwrites the address on record with its own if it completes its update. -/
theorem Attempts.gatewayOf
    (attempts : Attempts libraries before attempt after)
    (peerId : String) :
    after.gatewayOf peerId =
      (attempt.recorded libraries peerId).or (before.gatewayOf peerId) := by
  obtain ⟨⟨remaining, steps⟩, performed⟩ := attempts
  obtain ⟨connectionParams, trace⟩ := attempt
  rw [gatewayOf_writes (writes_of_completely performed) peerId]
  congr 1
  have progress : SaveProgress connectionParams trace remaining :=
    saveChannel_steps steps
  cases progress with
  | notStarted =>
      rfl
  | refused failure =>
      rfl
  | keysSaved channel =>
      rfl
  | finished channel outcome =>
      have sameId :=
        peerId_of_keysSave (writes_of_completely performed) List.mem_cons_self
      cases outcome with
      | error failure =>
          rfl
      | ok answer =>
          refine (lastWrite_concat [keysSave connectionParams (.ok channel)] _).trans ?_
          simp [recordUpdate, recordWrite, sameId, lastWrite, keysSave, recorded,
            completesUpdate]

/-- A call that completes its update leaves the entries of its peer. -/
theorem Attempts.hasEntries
    (attempts : Attempts libraries before attempt after)
    {peerId address : String}
    (recordedAddress : attempt.recorded libraries peerId = some address) :
    after.HasEntries peerId := by
  obtain ⟨⟨remaining, steps⟩, performed⟩ := attempts
  obtain ⟨connectionParams, trace⟩ := attempt
  simp only [recorded, Option.ite_none_right_eq_some] at recordedAddress
  obtain ⟨⟨completes, sameId⟩, -⟩ := recordedAddress
  have progress : SaveProgress connectionParams trace remaining :=
    saveChannel_steps steps
  cases progress with
  | notStarted =>
      cases completes
  | refused failure =>
      cases completes
  | keysSaved channel =>
      cases completes
  | finished channel outcome =>
      exact hasEntries_run performed (List.mem_cons_self)
        (keyWrite_eq_some_iff.mpr ⟨sameId, channel, rfl⟩)

/-- No call removes the entries of a peer. -/
theorem Attempts.keepsEntries
    (attempts : Attempts libraries before attempt after)
    {peerId : String}
    (present : before.HasEntries peerId) :
    after.HasEntries peerId :=
  attempts.2.preserves (fun state => state.HasEntries peerId)
    (fun _ _ _ _ performed holds => performed.1.hasEntries holds) present

/-- After calls one after another, the address on record is the last one recorded. -/
theorem gatewayOf_attempts
    {final : State}
    {attempts : List SaveAttempt}
    (run : Run (Attempts libraries) State.empty attempts final)
    (peerId : String) :
    final.gatewayOf peerId = lastWrite (recorded libraries peerId) attempts := by
  have atEnd :
      final.gatewayOf peerId =
        (lastWrite (recorded libraries peerId) attempts).or
          (State.empty.gatewayOf peerId) :=
    run.register fun _ _ _ _ attempted => attempted.gatewayOf peerId
  simpa [State.gatewayOf, State.empty, findPeerEndpoint] using atEnd

/-- After calls one after another, a peer on record has its entries. -/
theorem hasEntries_attempts
    {final : State}
    {attempts : List SaveAttempt}
    (run : Run (Attempts libraries) State.empty attempts final)
    {peerId address : String}
    (onRecord : final.gatewayOf peerId = some address) :
    final.HasEntries peerId := by
  rw [gatewayOf_attempts run peerId, lastWrite_eq_some_iff] at onRecord
  obtain ⟨earlier, attempt, later, rfl, recordedAddress, -⟩ := onRecord
  obtain ⟨_, -, rest⟩ := Run.append_iff.mp run
  obtain ⟨_, attempted, trailing⟩ := Run.cons_iff.mp rest
  exact trailing.preserves (fun state => state.HasEntries peerId)
    (fun _ _ _ _ other holds => other.keepsEntries holds)
    (attempted.hasEntries recordedAddress)

/-- After calls one after another, a lookup finds the address recorded last. -/
theorem lookup_attempts
    {final : State}
    {attempts : List SaveAttempt}
    (run : Run (Attempts libraries) State.empty attempts final)
    {now : Instant}
    {peerId : String}
    {result : Except Failure (Option InternetPrivateEndpointChannel)}
    (unexpired : final.Unexpired now peerId)
    (mayLookUp : final.MayLookUp now peerId result) :
    result.map (Option.map fun channel => channel.peer.internetAddress) =
      .ok (lastWrite (recorded libraries peerId) attempts) := by
  rw [← gatewayOf_attempts run peerId]
  cases onRecord : final.gatewayOf peerId with
  | none =>
      rw [(mayLookUp_of_noRecord onRecord).mp mayLookUp]
      rfl
  | some address =>
      obtain ⟨channel, rfl, rfl⟩ :=
        channel_of_mayLookUp mayLookUp onRecord
          (hasEntries_attempts run onRecord) unexpired
      rfl

end SaveAttempt

/-! ## The invariant -/

/-- At most one record a peer, and entries in the key stores for every record. -/
structure State.IsConsistent (state : State) : Prop where
  uniqueRecords : (state.peerEndpoints.map PeerEndpoint.peerId).Nodup
  entries : ∀ record ∈ state.peerEndpoints, state.HasEntries record.peerId

/--
However calls of `saveChannel` interleave, fail and crash, the stores stay
consistent, a lookup never throws, and it finds nothing exactly when no call for
the peer has completed its update; when calls run one after another, it finds
the address that was recorded last for the peer.
-/
theorem peerStore_reachable
    {Caller : Type}
    [DecidableEq Caller]
    {libraries : Libraries}
    {connectionParams : Caller → PrivateEndpointConnParams}
    {events : List (PoolEvent interface Caller)}
    {last :
      Configuration interface Caller (fun _ => InternetPrivateEndpointChannel)
        State}
    (run :
      Run (PoolStep (PerformedCompletely libraries)) (savers connectionParams) events
        last) :
    last.world.IsConsistent ∧
      (∀ now peerId result,
        last.world.Unexpired now peerId →
        LooksUp libraries now last.world peerId result →
        (∃ found, result = .ok found) ∧
          (result = .ok none ↔
            ¬ ∃ caller,
              HasRecorded libraries connectionParams events peerId caller)) ∧
      ∀ attempts final,
        Run (SaveAttempt.Attempts libraries) State.empty attempts final →
        ∀ now peerId result,
          final.Unexpired now peerId →
          LooksUp libraries now final peerId result →
          result.map
              (Option.map fun channel => channel.peer.internetAddress) =
            .ok (lastWrite (SaveAttempt.recorded libraries peerId) attempts) := by
  have performed :=
    (world_run run).mono fun _ _ _ _ completely => completely.1
  refine ⟨⟨nodup_run performed (by simp [savers, Configuration.start,
    State.empty]), ?_⟩, ?_, ?_⟩
  · intro record member
    obtain ⟨address, onRecord⟩ := gatewayOf_of_mem member
    exact (recorded_of_gateway run onRecord).1
  · intro now peerId result unexpired looksUp
    have mayLookUp := looksUp_iff.mp looksUp
    cases onRecord : last.world.gatewayOf peerId with
    | none =>
        rw [(mayLookUp_of_noRecord onRecord).mp mayLookUp]
        refine ⟨⟨none, rfl⟩, iff_of_true rfl ?_⟩
        rintro ⟨caller, recorded⟩
        obtain ⟨address, isOnRecord⟩ := gateway_of_recorded run recorded
        cases onRecord.symm.trans isOnRecord
    | some address =>
        obtain ⟨present, recorded⟩ := recorded_of_gateway run onRecord
        obtain ⟨channel, rfl, -⟩ :=
          channel_of_mayLookUp mayLookUp onRecord present unexpired
        exact ⟨⟨some channel, rfl⟩,
          iff_of_false (by simp) (not_not.mpr recorded)⟩
  · intro attempts final attempted now peerId result unexpired looksUp
    exact SaveAttempt.lookup_attempts attempted unexpired
      (looksUp_iff.mp looksUp)

namespace Stubs

/-- Two calls for the peer, with two gateways. -/
def competingParams : Bool → PrivateEndpointConnParams
  | false => connectionParams peerAddress 0
  | true => connectionParams otherAddress 1

/-- A call saves the keys. -/
def competingSave (caller : Bool) : Call :=
  keysSave (competingParams caller) (.ok (channel (competingParams caller)))

/-- A call updates the record. -/
def competingUpdate (caller : Bool) : Call :=
  recordUpdate (competingParams caller) (channel (competingParams caller)) (.ok ())

/-- One of the calls crashes before it records its address. -/
def competingSaves : List (PoolEvent interface Bool) :=
  [.performed false (competingSave false),
    .performed true (competingSave true),
    .crashed true,
    .performed false (competingUpdate false)]

theorem competingSaves_run :
    ∃ last,
      Run (PoolStep (PerformedCompletely routeLibraries))
          (savers competingParams) competingSaves last ∧
        last.world.Unexpired epoch peerId :=
  ⟨_,
    .next (.settles rfl (.saved rfl))
      (.next (.settles rfl (.saved rfl))
        (.next .crashed
          (.next (.settles rfl (.of_notSave ⟨epoch, rfl⟩ rfl))
            (.done _)))),
    fun _ => ⟨_, List.mem_cons_self, by decide⟩⟩

/-- The same two calls, one after the other. -/
def consecutiveSaves : List SaveAttempt :=
  [⟨competingParams false, [competingSave false, competingUpdate false]⟩,
    ⟨competingParams true, [competingSave true]⟩]

theorem consecutiveSaves_run :
    ∃ final,
      Run (SaveAttempt.Attempts routeLibraries) State.empty consecutiveSaves
          final ∧
        final.Unexpired epoch peerId := by
  have first :
      ∃ remaining,
        Steps (InternetEndpoint.saveChannel (competingParams false))
          [competingSave false, competingUpdate false] remaining :=
    ⟨_, .next (.resumed _ _ _) (.next (.resumed _ _ _) (.done _))⟩
  have second :
      ∃ remaining,
        Steps (InternetEndpoint.saveChannel (competingParams true))
          [competingSave true] remaining :=
    ⟨_, .next (.resumed _ _ _) (.done _)⟩
  exact ⟨_,
    .next
      ⟨first, .next (.saved rfl)
        (.next (.of_notSave ⟨epoch, rfl⟩ rfl) (.done _))⟩
      (.next ⟨second, .next (.saved rfl) (.done _)⟩ (.done _)),
    fun _ => ⟨_, List.mem_cons_self, by decide⟩⟩

end Stubs

/--
The peer is found after one of two calls crashed, and at the address recorded
last when they ran one after the other.
-/
theorem peerStore_reachable_stubs :
    ∃ (last :
          Configuration interface Bool
            (fun _ => InternetPrivateEndpointChannel) State)
        (final : State),
      Run (PoolStep (PerformedCompletely Stubs.routeLibraries))
          (savers Stubs.competingParams) Stubs.competingSaves last ∧
        Run (SaveAttempt.Attempts Stubs.routeLibraries) State.empty
          Stubs.consecutiveSaves final ∧
        last.world.IsConsistent ∧
        (∀ result,
          LooksUp Stubs.routeLibraries epoch last.world Stubs.peerId result →
          ∃ channel, result = .ok (some channel)) ∧
        ∀ result,
          LooksUp Stubs.routeLibraries epoch final Stubs.peerId result →
          result.map
              (Option.map fun channel => channel.peer.internetAddress) =
            .ok (some Stubs.peerAddress) := by
  obtain ⟨last, run, unexpired⟩ := Stubs.competingSaves_run
  obtain ⟨final, attempted, finallyUnexpired⟩ := Stubs.consecutiveSaves_run
  obtain ⟨consistent, found, foundLast⟩ := peerStore_reachable run
  refine ⟨last, final, run, attempted, consistent, ?_, ?_⟩
  · intro result looksUp
    obtain ⟨⟨answer, rfl⟩, none_iff⟩ := found _ _ _ unexpired looksUp
    cases answer with
    | some channel =>
        exact ⟨channel, rfl⟩
    | none =>
        have recorded :
            HasRecorded Stubs.routeLibraries Stubs.competingParams
              Stubs.competingSaves Stubs.peerId false :=
          ⟨rfl, Stubs.channel (Stubs.competingParams false),
            List.mem_cons_of_mem _ List.mem_cons_self⟩
        exact absurd ⟨false, recorded⟩ (none_iff.mp rfl)
  · intro result looksUp
    exact foundLast _ _ attempted _ _ _ finallyUnexpired looksUp

end AwalaEndpoint
