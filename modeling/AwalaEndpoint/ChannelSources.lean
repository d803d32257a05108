import AwalaEndpoint.PeerStore

namespace AwalaEndpoint

open Awaiting LabelledRuns

/-!
# Where the parts of a channel come from

Calls of `saveChannel` and `getPeerChannel` interleave between their store
operations.  The gateway address of a peer comes from the call that updated its
record last, and its keys and authorisation from the call that saved them last.
These are the same call as long as the calls for the peer do not overlap.
-/

section Calls

variable {Saver Reader : Type}

/-- What a call resolves with: a saved channel, or a channel that was looked up. -/
abbrev CallResult : Saver ⊕ Reader → Type
  | .inl _ => InternetPrivateEndpointChannel
  | .inr _ => Option InternetPrivateEndpointChannel

/-- The parameters that are saved and the peers that are looked up. -/
structure ChannelCalls (Saver Reader : Type) where
  connectionParams : Saver → PrivateEndpointConnParams
  lookedUp : Reader → String

namespace ChannelCalls

/-- The program of a call. -/
def program
    (calls : ChannelCalls Saver Reader) :
    (caller : Saver ⊕ Reader) → Promise (CallResult caller)
  | .inl saver => InternetEndpoint.saveChannel (calls.connectionParams saver)
  | .inr reader => InternetEndpoint.getPeerChannel (calls.lookedUp reader)

/-- Every call is about to start, over empty stores. -/
def start
    (calls : ChannelCalls Saver Reader) :
    Configuration interface (Saver ⊕ Reader) CallResult State :=
  .start State.empty calls.program

theorem start_saver
    (calls : ChannelCalls Saver Reader)
    (saver : Saver) :
    calls.start.processes (.inl saver) =
      some (InternetEndpoint.saveChannel (calls.connectionParams saver)) :=
  rfl

theorem start_reader
    (calls : ChannelCalls Saver Reader)
    (reader : Reader) :
    calls.start.processes (.inr reader) =
      some (InternetEndpoint.getPeerChannel (calls.lookedUp reader)) :=
  rfl

/-- Whether a call is about the channel with the given peer. -/
def concerns
    (calls : ChannelCalls Saver Reader)
    (libraries : Libraries)
    (peerId : String) : Saver ⊕ Reader → Prop
  | .inl saver =>
      libraries.getIdFromIdentityKey
        (calls.connectionParams saver).identityKey = peerId
  | .inr reader => calls.lookedUp reader = peerId

end ChannelCalls

/-- The call that updates the record of a peer in a step. -/
def updaterOf
    (peerId : String) :
    PoolEvent interface (Saver ⊕ Reader) → Option Saver
  | .performed (.inl saver) call => (recordWrite peerId call).map fun _ => saver
  | _ => none

/-- The call that saves the keys and authorisation of a peer in a step. -/
def saverOf
    (libraries : Libraries)
    (peerId : String) :
    PoolEvent interface (Saver ⊕ Reader) → Option Saver
  | .performed (.inl saver) call =>
      (keyWrite libraries peerId call).map fun _ => saver
  | _ => none

/-- A lookup that was started and finished, and what it returned. -/
def Returns
    (last : Configuration interface (Saver ⊕ Reader) CallResult State)
    (reader : Reader)
    (channel : InternetPrivateEndpointChannel) : Prop :=
  last.processes (.inr reader) = some (.settled (.ok (some channel)))

variable [DecidableEq Saver] [DecidableEq Reader]

variable {libraries : Libraries}
  {calls : ChannelCalls Saver Reader}
  {events : List (PoolEvent interface (Saver ⊕ Reader))}
  {last : Configuration interface (Saver ⊕ Reader) CallResult State}

/-! ## Registers of calls -/

/-- Looking up a channel writes nothing. -/
theorem readsOnly_of_lookup
    {peerId : String}
    {trace : List Call}
    {remaining : Promise (Option InternetPrivateEndpointChannel)}
    (steps : Steps (InternetEndpoint.getPeerChannel peerId) trace remaining) :
    ∀ call ∈ trace, readsOnly call = true := by
  intro call member
  rcases getPeerChannel_steps steps with
    rfl | ⟨outcome, rfl⟩ | ⟨record, outcome, rfl⟩
  · cases member
  · rw [List.mem_singleton.mp member]
    rfl
  · rcases List.mem_cons.mp member with rfl | isLast
    · rfl
    · rw [List.mem_singleton.mp isLast]
      rfl

/-- The parameters a call saves are its own. -/
theorem SaveProgress.of_keyWrite
    {connectionParams saved : PrivateEndpointConnParams}
    {trace : List Call}
    {remaining : Promise InternetPrivateEndpointChannel}
    {call : Call}
    {peerId : String}
    (progress : SaveProgress connectionParams trace remaining)
    (member : call ∈ trace)
    (wrote : keyWrite libraries peerId call = some saved) :
    saved = connectionParams := by
  obtain ⟨-, channel, rfl⟩ := keyWrite_eq_some_iff.mp wrote
  cases progress with
  | notStarted =>
      cases member
  | refused failure =>
      simp [keysSave] at member
  | keysSaved other =>
      simp only [keysSave, List.mem_singleton, Completed.mk.injEq,
        Operation.savePrivateEndpointChannel.injEq] at member
      exact member.1
  | finished other outcome =>
      simp only [keysSave, recordUpdate, List.mem_cons, Completed.mk.injEq,
        Operation.savePrivateEndpointChannel.injEq, reduceCtorEq, false_and,
        List.not_mem_nil, or_false] at member
      exact member.1

/-- The steps of a call are steps of its program. -/
theorem program_steps
    {perform : State → Call → State → Prop}
    (run : Run (PoolStep perform) calls.start events last)
    (caller : Saver ⊕ Reader) :
    ∃ remaining,
      Steps (calls.program caller) (performedBy caller events) remaining ∧
        (last.processes caller = some remaining ∨
          last.processes caller = none) :=
  caller_steps run rfl

/-- What a step puts on record is the address of the call that updates the record. -/
theorem recordWrite_of_updater
    {perform : State → Call → State → Prop}
    (run : Run (PoolStep perform) calls.start events last)
    (peerId : String)
    {event : PoolEvent interface (Saver ⊕ Reader)}
    (member : event ∈ events) :
    event.completed?.bind (recordWrite peerId) =
      (updaterOf peerId event).map fun saver =>
        (calls.connectionParams saver).internetGatewayAddress := by
  cases event with
  | crashed =>
      rfl
  | performed caller call =>
      have performed := mem_performedBy_iff.mpr member
      obtain ⟨_, steps, -⟩ := program_steps run caller
      cases caller with
      | inr reader =>
          exact recordWrite_of_readsOnly
            (readsOnly_of_lookup steps call performed) peerId
      | inl saver =>
          cases wrote : recordWrite peerId call with
          | none =>
              simp [PoolEvent.completed?, updaterOf, wrote]
          | some address =>
              obtain ⟨_, -, -, sameAddress⟩ :=
                (saveChannel_steps steps).of_recordWrite performed wrote
              simp [PoolEvent.completed?, updaterOf, wrote, sameAddress]

/-- What a step saves for a peer are the parameters of the call that saves them. -/
theorem keyWrite_of_saver
    {perform : State → Call → State → Prop}
    (run : Run (PoolStep perform) calls.start events last)
    (peerId : String)
    {event : PoolEvent interface (Saver ⊕ Reader)}
    (member : event ∈ events) :
    event.completed?.bind (keyWrite libraries peerId) =
      (saverOf libraries peerId event).map calls.connectionParams := by
  cases event with
  | crashed =>
      rfl
  | performed caller call =>
      have performed := mem_performedBy_iff.mpr member
      obtain ⟨_, steps, -⟩ := program_steps run caller
      cases caller with
      | inr reader =>
          exact keyWrite_of_readsOnly
            (readsOnly_of_lookup steps call performed) peerId
      | inl saver =>
          cases wrote : keyWrite libraries peerId call with
          | none =>
              simp [PoolEvent.completed?, saverOf, wrote]
          | some saved =>
              have isOwn := (saveChannel_steps steps).of_keyWrite performed wrote
              simp [PoolEvent.completed?, saverOf, wrote, isOwn]

/-- The address on record is that of the call that updated the record last. -/
theorem gatewayOf_updater
    (run :
      Run (PoolStep (PerformedOnRegisters libraries)) calls.start events last)
    (peerId : String) :
    last.world.gatewayOf peerId =
      (lastWrite (updaterOf peerId) events).map fun saver =>
        (calls.connectionParams saver).internetGatewayAddress := by
  have atEnd := gatewayOf_writes (writes_of_registers (world_run run)) peerId
  rw [performedIn, lastWrite_filterMap,
    lastWrite_congr fun _ => recordWrite_of_updater run peerId,
    lastWrite_map] at atEnd
  simpa [ChannelCalls.start, Configuration.start, State.gatewayOf, State.empty,
    findPeerEndpoint] using atEnd

/-- Keys and authorisation come from the call that saved them last. -/
theorem entries_saver
    (run :
      Run (PoolStep (PerformedOnRegisters libraries)) calls.start events last)
    (peerId : String) :
    last.world.sessionKeys peerId =
        (lastWrite (saverOf libraries peerId) events).map
          (fun saver => (calls.connectionParams saver).sessionKey) ∧
      (last.world.deliveryAuths peerId).head? =
        (lastWrite (saverOf libraries peerId) events).map
          fun saver => (calls.connectionParams saver).deliveryAuth := by
  have saved :
      lastWrite (keyWrite libraries peerId) (performedIn events) =
        (lastWrite (saverOf libraries peerId) events).map
          calls.connectionParams := by
    rw [performedIn, lastWrite_filterMap,
      lastWrite_congr fun _ => keyWrite_of_saver run peerId, lastWrite_map]
  have sessionKey := sessionKeys_run (world_run run) peerId
  have deliveryAuth := deliveryAuths_run (world_run run) peerId
  rw [saved, Option.map_map] at sessionKey deliveryAuth
  constructor
  · simpa [ChannelCalls.start, Configuration.start, State.empty,
      Function.comp_def] using sessionKey
  · simpa [ChannelCalls.start, Configuration.start, State.empty,
      Function.comp_def] using deliveryAuth

/-! ## Channels that are returned -/

/-- The step in which a lookup finds a record. -/
def recordFound
    (peerId : String)
    (reader : Reader)
    (record : PeerEndpoint) : PoolEvent interface (Saver ⊕ Reader) :=
  .performed (.inr reader) ⟨.findOne peerId, .ok (some record)⟩

/-- The step in which a lookup finds the channel to the address on record. -/
def channelFound
    (peerId : String)
    (reader : Reader)
    (record : PeerEndpoint)
    (channel : InternetPrivateEndpointChannel) :
    PoolEvent interface (Saver ⊕ Reader) :=
  .performed (.inr reader)
    ⟨.getChannel peerId record.internetGatewayAddress, .ok (some channel)⟩

/--
A lookup returned a channel with the address of the call that had updated the
record last when the record was found, and with the authorisation of the call
that had saved one last when the channel was found.
-/
def ComesFrom
    (libraries : Libraries)
    (calls : ChannelCalls Saver Reader)
    (events : List (PoolEvent interface (Saver ⊕ Reader)))
    (peerId : String)
    (reader : Reader)
    (channel : InternetPrivateEndpointChannel)
    (updater saver : Saver) : Prop :=
  ∃ earlier record between later,
    events =
        earlier ++ recordFound peerId reader record ::
          (between ++ channelFound peerId reader record channel :: later) ∧
      lastWrite (updaterOf peerId) earlier = some updater ∧
      lastWrite (saverOf libraries peerId)
          (earlier ++ recordFound peerId reader record :: between) =
        some saver ∧
      channel.peer.internetAddress =
        (calls.connectionParams updater).internetGatewayAddress ∧
      channel.deliveryAuthPath = (calls.connectionParams saver).deliveryAuth

/-- A lookup that returned a channel found a record and then the channel. -/
theorem steps_of_returns
    {perform : State → Call → State → Prop}
    (run : Run (PoolStep perform) calls.start events last)
    {reader : Reader}
    {channel : InternetPrivateEndpointChannel}
    (returned : Returns last reader channel) :
    ∃ earlier record between later,
      events =
          earlier ++ recordFound (calls.lookedUp reader) reader record ::
            (between ++
              channelFound (calls.lookedUp reader) reader record channel ::
                later) ∧
        performedBy (.inr reader) earlier = [] ∧
        performedBy (.inr reader) between = [] := by
  have runs := caller_runs run (calls.start_reader reader) returned
  have lookup := getPeerChannel_runs_iff.mp runs
  generalize trace : performedBy (.inr reader) events = performed at lookup
  cases lookup with
  | found record =>
      obtain ⟨earlier, rest, rfl, quietBefore, afterRecord⟩ :=
        performedBy_eq_cons trace
      obtain ⟨between, later, rfl, quietBetween, -⟩ :=
        performedBy_eq_cons afterRecord
      exact ⟨earlier, record, between, later, rfl, quietBefore, quietBetween⟩

/-- Every channel that is returned comes from an update and a save. -/
theorem comesFrom_of_returns
    (run :
      Run (PoolStep (PerformedOnRegisters libraries)) calls.start events last)
    {reader : Reader}
    {channel : InternetPrivateEndpointChannel}
    (returned : Returns last reader channel) :
    ∃ updater saver,
      ComesFrom libraries calls events (calls.lookedUp reader) reader channel
        updater saver := by
  obtain ⟨earlier, record, between, later, rfl, -⟩ := steps_of_returns run returned
  obtain ⟨atRecord, leading, rest⟩ := Run.append_iff.mp run
  obtain ⟨afterRecord, foundRecord, continued⟩ := Run.cons_iff.mp rest
  obtain ⟨atChannel, waiting, ending⟩ := Run.append_iff.mp continued
  obtain ⟨_, foundChannel, -⟩ := Run.cons_iff.mp ending
  have onRecord :
      atRecord.world.gatewayOf (calls.lookedUp reader) =
        some record.internetGatewayAddress := by
    cases foundRecord with
    | performed _ _ performed =>
        obtain ⟨⟨⟨_, isRecord, -⟩, -⟩, -⟩ := performed
        exact gatewayOf_of_found isRecord
  have stored :
      channel.peer.internetAddress = record.internetGatewayAddress ∧
        (atChannel.world.deliveryAuths (calls.lookedUp reader)).head? =
          some channel.deliveryAuthPath := by
    cases foundChannel with
    | performed _ _ performed =>
        obtain ⟨⟨_, isChannel⟩, -⟩ := performed
        obtain ⟨-, sameAddress, -, isLast, -⟩ :=
          lastChannel_eq_some_iff.mp isChannel.symm
        exact ⟨sameAddress, isLast⟩
  rw [gatewayOf_updater leading] at onRecord
  obtain ⟨updater, lastUpdate, itsAddress⟩ := Option.map_eq_some_iff.mp onRecord
  have authStored := stored.2
  rw [(entries_saver (leading.append (.next foundRecord waiting)) _).2] at authStored
  obtain ⟨saver, lastSave, itsAuth⟩ := Option.map_eq_some_iff.mp authStored
  exact ⟨updater, saver, earlier, record, between, later, rfl, lastUpdate,
    lastSave, stored.1.trans itsAddress.symm, itsAuth.symm⟩

/-! ## Calls that do not overlap -/

/-- Whether a call that made these operations is between its two operations. -/
def midway : List Call → Bool
  | [⟨.savePrivateEndpointChannel _, .ok _⟩] => true
  | [⟨.findOne _, .ok (some _)⟩] => true
  | _ => false

/-- A call for a peer takes a step only while no other call for it is midway. -/
def OneAtATime
    (libraries : Libraries)
    (calls : ChannelCalls Saver Reader)
    (peerId : String)
    (events : List (PoolEvent interface (Saver ⊕ Reader))) : Prop :=
  ∀ taken caller call rest,
    events = taken ++ .performed caller call :: rest →
    calls.concerns libraries peerId caller →
    ∀ other,
      other ≠ caller →
      calls.concerns libraries peerId other →
      midway (performedBy other taken) = false

/-- No update of the record of a peer fails. -/
def UpdatesSucceed
    (peerId : String)
    (events : List (PoolEvent interface (Saver ⊕ Reader))) : Prop :=
  ∀ caller address failure,
    .performed caller ⟨.updateOne peerId address, .error failure⟩ ∉ events

/--
The call that saved the keys of a peer last is the one that is midway, and when
none is midway it is the one that updated the record last.
-/
structure SourcesAgree
    (libraries : Libraries)
    (calls : ChannelCalls Saver Reader)
    (peerId : String)
    (taken : List (PoolEvent interface (Saver ⊕ Reader))) : Prop where
  ofMidway :
    ∀ saver,
      calls.concerns libraries peerId (.inl saver) →
      midway (performedBy (.inl saver) taken) = true →
      lastWrite (saverOf libraries peerId) taken = some saver
  ofQuiet :
    (∀ saver,
      calls.concerns libraries peerId (.inl saver) →
      midway (performedBy (.inl saver) taken) = false) →
    lastWrite (saverOf libraries peerId) taken =
      lastWrite (updaterOf peerId) taken

theorem OneAtATime.of_append
    {peerId : String}
    {taken later : List (PoolEvent interface (Saver ⊕ Reader))}
    (apart : OneAtATime libraries calls peerId (taken ++ later)) :
    OneAtATime libraries calls peerId taken := by
  intro earlier caller call rest shape
  apply apart earlier caller call (rest ++ later)
  simp [shape]

/-- A step taken while no other call for the peer is midway keeps the calls apart. -/
theorem OneAtATime.concat
    {peerId : String}
    {taken : List (PoolEvent interface (Saver ⊕ Reader))}
    {caller : Saver ⊕ Reader}
    {call : Call}
    (apart : OneAtATime libraries calls peerId taken)
    (othersQuiet :
      ∀ other,
        other ≠ caller →
        midway (performedBy other taken) = false) :
    OneAtATime libraries calls peerId (taken ++ [.performed caller call]) := by
  intro earlier owner settled rest shape concerned other different otherConcerned
  rcases List.eq_nil_or_concat rest with rfl | ⟨between, final, rfl⟩
  · obtain ⟨rfl, isLast⟩ := List.append_inj' shape rfl
    cases isLast
    exact othersQuiet other different
  · rw [List.concat_eq_append, ← List.cons_append, ← List.append_assoc] at shape
    obtain ⟨isTaken, -⟩ := List.append_inj' shape rfl
    exact apart earlier owner settled between isTaken concerned other different
      otherConcerned

/-- A step that writes nothing for a peer and moves no save of it keeps the agreement. -/
theorem SourcesAgree.of_unrelated
    {peerId : String}
    {taken : List (PoolEvent interface (Saver ⊕ Reader))}
    {event : PoolEvent interface (Saver ⊕ Reader)}
    (agree : SourcesAgree libraries calls peerId taken)
    (savesNothing : saverOf libraries peerId event = none)
    (updatesNothing : updaterOf peerId event = none)
    (unmoved :
      ∀ saver,
        calls.concerns libraries peerId (.inl saver) →
        midway (performedBy (.inl saver) (taken ++ [event])) =
          midway (performedBy (.inl saver) taken)) :
    SourcesAgree libraries calls peerId (taken ++ [event]) := by
  have sameSaver :
      lastWrite (saverOf libraries peerId) (taken ++ [event]) =
        lastWrite (saverOf libraries peerId) taken := by
    rw [lastWrite_concat, savesNothing, Option.none_or]
  have sameUpdater :
      lastWrite (updaterOf peerId) (taken ++ [event]) =
        lastWrite (updaterOf peerId) taken := by
    rw [lastWrite_concat, updatesNothing, Option.none_or]
  constructor
  · intro saver concerned isMidway
    rw [unmoved saver concerned] at isMidway
    rw [sameSaver]
    exact agree.ofMidway saver concerned isMidway
  · intro quiet
    rw [sameSaver, sameUpdater]
    refine agree.ofQuiet fun saver concerned => ?_
    rw [← unmoved saver concerned]
    exact quiet saver concerned

/-- Only a call for a peer saves its keys. -/
theorem concerns_of_saverOf
    {perform : State → Call → State → Prop}
    (run : Run (PoolStep perform) calls.start events last)
    {peerId : String}
    {event : PoolEvent interface (Saver ⊕ Reader)}
    {saver : Saver}
    (member : event ∈ events)
    (saves : saverOf libraries peerId event = some saver) :
    calls.concerns libraries peerId (.inl saver) ∧
      ∃ call, event = .performed (.inl saver) call := by
  cases event with
  | crashed =>
      cases saves
  | performed caller call =>
      cases caller with
      | inr reader =>
          cases saves
      | inl owner =>
          obtain ⟨saved, wrote, rfl⟩ := Option.map_eq_some_iff.mp saves
          obtain ⟨_, steps, -⟩ := program_steps run (.inl owner)
          have isOwn :=
            (saveChannel_steps steps).of_keyWrite
              (mem_performedBy_iff.mpr member) wrote
          have samePeer := (keyWrite_eq_some_iff.mp wrote).1
          rw [isOwn] at samePeer
          exact ⟨samePeer, call, rfl⟩

/-- Only a call for a peer updates its record. -/
theorem concerns_of_updaterOf
    (run : Run (PoolStep (Write libraries)) calls.start events last)
    {peerId : String}
    {event : PoolEvent interface (Saver ⊕ Reader)}
    {saver : Saver}
    (member : event ∈ events)
    (updates : updaterOf peerId event = some saver) :
    calls.concerns libraries peerId (.inl saver) := by
  cases event with
  | crashed =>
      cases updates
  | performed caller call =>
      cases caller with
      | inr reader =>
          cases updates
      | inl owner =>
          obtain ⟨address, wrote, rfl⟩ := Option.map_eq_some_iff.mp updates
          obtain ⟨_, steps, -⟩ := program_steps run (.inl owner)
          obtain ⟨channel, trace, samePeer, -⟩ :=
            (saveChannel_steps steps).of_recordWrite
              (mem_performedBy_iff.mpr member) wrote
          have saved :
              keysSave (calls.connectionParams owner) (.ok channel) ∈
                performedIn events := by
            refine mem_performedIn_iff.mpr
              ⟨.inl owner, mem_performedBy_iff.mp ?_⟩
            simp [trace]
          exact (peerId_of_keysSave (world_run run) saved).symm.trans samePeer

section Save

variable {peerId : String}
  {taken : List (PoolEvent interface (Saver ⊕ Reader))}
  {saver : Saver}
  {call : Call}

/-- A step of one save moves no other save. -/
theorem performedBy_otherSave
    {other : Saver}
    (different : other ≠ saver) :
    performedBy (.inl other)
        (taken ++ [.performed (.inl saver : Saver ⊕ Reader) call]) =
      performedBy (.inl other) taken := by
  apply performedBy_concat_other
  simpa [PoolEvent.caller] using Ne.symm different

/-- After a save for the peer has saved its keys, it is the one that is midway. -/
theorem SourcesAgree.of_keysSaved
    {channel : InternetPrivateEndpointChannel}
    (concerned : calls.concerns libraries peerId (.inl saver))
    (othersQuiet :
      ∀ other,
        other ≠ saver →
        calls.concerns libraries peerId (.inl other) →
        midway (performedBy (.inl other) taken) = false)
    (isMidwayNow :
      midway
          (performedBy (.inl saver)
            (taken ++ [.performed (.inl saver)
              (keysSave (calls.connectionParams saver) (.ok channel))])) =
        true) :
    SourcesAgree libraries calls peerId
      (taken ++ [.performed (.inl saver)
        (keysSave (calls.connectionParams saver) (.ok channel))]) := by
  have wrote :
      keyWrite libraries peerId
          (keysSave (calls.connectionParams saver) (.ok channel)) =
        some (calls.connectionParams saver) :=
    keyWrite_eq_some_iff.mpr ⟨concerned, channel, rfl⟩
  constructor
  · intro other otherConcerned isMidway
    by_cases same : other = saver
    · rw [same]
      simp [lastWrite_concat, saverOf, wrote]
    · rw [performedBy_otherSave same, othersQuiet other same otherConcerned]
        at isMidway
      cases isMidway
  · intro quiet
    rw [quiet saver concerned] at isMidwayNow
    cases isMidwayNow

/-- After the save that was midway has updated the record, it is behind both parts. -/
theorem SourcesAgree.of_recordUpdated
    {channel : InternetPrivateEndpointChannel}
    (agree : SourcesAgree libraries calls peerId taken)
    (concerned : calls.concerns libraries peerId (.inl saver))
    (othersQuiet :
      ∀ other,
        other ≠ saver →
        calls.concerns libraries peerId (.inl other) →
        midway (performedBy (.inl other) taken) = false)
    (wasMidway : midway (performedBy (.inl saver) taken) = true)
    (isQuietNow :
      midway
          (performedBy (.inl saver)
            (taken ++ [.performed (.inl saver)
              (recordUpdate (calls.connectionParams saver) channel
                (.ok ()))])) =
        false)
    (samePeer : channel.peer.id = peerId) :
    SourcesAgree libraries calls peerId
      (taken ++ [.performed (.inl saver)
        (recordUpdate (calls.connectionParams saver) channel (.ok ()))]) := by
  constructor
  · intro other otherConcerned isMidway
    by_cases same : other = saver
    · rw [same, isQuietNow] at isMidway
      cases isMidway
    · rw [performedBy_otherSave same, othersQuiet other same otherConcerned]
        at isMidway
      cases isMidway
  · intro _
    have wrote :
        recordWrite peerId
            (recordUpdate (calls.connectionParams saver) channel (.ok ())) =
          some (calls.connectionParams saver).internetGatewayAddress := by
      rw [recordWrite_eq_some_iff, ← samePeer]
      rfl
    rw [lastWrite_concat, lastWrite_concat]
    simp only [updaterOf, wrote, Option.map_some, Option.some_or]
    exact agree.ofMidway saver concerned wasMidway

/-- A step of a save for the peer keeps the agreement when no other save is midway. -/
theorem SourcesAgree.of_save
    {remaining : Promise InternetPrivateEndpointChannel}
    (agree : SourcesAgree libraries calls peerId taken)
    (concerned : calls.concerns libraries peerId (.inl saver))
    (othersQuiet :
      ∀ other,
        other ≠ saver →
        calls.concerns libraries peerId (.inl other) →
        midway (performedBy (.inl other) taken) = false)
    (progress :
      SaveProgress (calls.connectionParams saver)
        (performedBy (.inl saver) taken ++ [call]) remaining)
    (samePeer :
      ∀ channel,
        keysSave (calls.connectionParams saver) (.ok channel) ∈
          performedBy (.inl saver) taken →
        channel.peer.id = peerId)
    (succeeds : ∀ address failure, call ≠ ⟨.updateOne peerId address, .error failure⟩) :
    SourcesAgree libraries calls peerId
      (taken ++ [.performed (.inl saver) call]) := by
  have moved := performedBy_concat_same (.inl saver : Saver ⊕ Reader) taken call
  generalize shape :
      performedBy (.inl saver) taken ++ [call] = trace at progress moved
  obtain ⟨before, isLast⟩ := dropLast_of_concat shape
  cases progress with
  | notStarted =>
      cases isLast
  | refused failure =>
      have isRefused :
          keysSave (calls.connectionParams saver) (.error failure) = call :=
        Option.some.inj isLast
      subst isRefused
      refine agree.of_unrelated rfl rfl ?_
      intro other _
      by_cases same : other = saver
      · subst same
        rw [moved, before]
        rfl
      · rw [performedBy_otherSave same]
  | keysSaved channel =>
      have isSave :
          keysSave (calls.connectionParams saver) (.ok channel) = call :=
        Option.some.inj isLast
      subst isSave
      apply SourcesAgree.of_keysSaved concerned othersQuiet
      rw [moved]
      rfl
  | finished channel outcome =>
      have isUpdate :
          recordUpdate (calls.connectionParams saver) channel outcome = call :=
        Option.some.inj isLast
      subst isUpdate
      have samePeerId : channel.peer.id = peerId :=
        samePeer channel (by rw [before]; simp)
      cases outcome with
      | error failure =>
          refine (succeeds (calls.connectionParams saver).internetGatewayAddress
            failure ?_).elim
          rw [← samePeerId]
          rfl
      | ok answer =>
          refine agree.of_recordUpdated concerned othersQuiet ?_ ?_ samePeerId
          · rw [before]
            rfl
          · rw [moved]
            rfl

/-- A step of a save for another peer keeps the agreement. -/
theorem SourcesAgree.of_elsewhere
    (agree : SourcesAgree libraries calls peerId taken)
    (run :
      Run (PoolStep (Write libraries)) calls.start
        (taken ++ [.performed (.inl saver) call]) last)
    (elsewhere : ¬ calls.concerns libraries peerId (.inl saver)) :
    SourcesAgree libraries calls peerId
      (taken ++ [.performed (.inl saver) call]) := by
  refine agree.of_unrelated ?_ ?_ ?_
  · refine Option.eq_none_iff_forall_ne_some.mpr fun owner saves => ?_
    obtain ⟨ownerConcerned, _, isOwner⟩ :=
      concerns_of_saverOf run (by simp) saves
    cases isOwner
    exact elsewhere ownerConcerned
  · refine Option.eq_none_iff_forall_ne_some.mpr fun owner updates => ?_
    have ownerConcerned := concerns_of_updaterOf run (by simp) updates
    obtain ⟨_, -, rfl⟩ := Option.map_eq_some_iff.mp updates
    exact elsewhere ownerConcerned
  · intro other otherConcerned
    have different : other ≠ saver := by
      rintro rfl
      exact elsewhere otherConcerned
    rw [performedBy_otherSave different]

end Save

/-- While the calls for a peer do not overlap, the sources of its channel agree. -/
theorem sourcesAgree_run
    (run : Run (PoolStep (Write libraries)) calls.start events last)
    {peerId : String}
    (apart : OneAtATime libraries calls peerId events)
    (succeed : UpdatesSucceed peerId events) :
    SourcesAgree libraries calls peerId events := by
  refine run.alongside
    (fun taken _ =>
      OneAtATime libraries calls peerId taken →
      UpdatesSucceed peerId taken →
      SourcesAgree libraries calls peerId taken)
    (fun _ _ => ⟨fun _ _ isMidway => (by cases isMidway), fun _ => rfl⟩)
    ?_ apart succeed
  intro taken before event after leading inductionHypothesis stepped apart succeed
  have agree :=
    inductionHypothesis apart.of_append
      fun caller address failure member =>
        succeed caller address failure (by simp [member])
  have extended := leading.extend stepped
  cases event with
  | crashed owner =>
      refine agree.of_unrelated rfl rfl fun saver _ => ?_
      rw [performedBy_concat_crashed]
  | performed caller call =>
      cases caller with
      | inr reader =>
          refine agree.of_unrelated rfl rfl fun saver _ => ?_
          rw [performedBy_concat_other (by simp [PoolEvent.caller])]
      | inl saver =>
          obtain ⟨remaining, steps, -⟩ := program_steps extended (.inl saver)
          rw [performedBy_concat_same] at steps
          have progress := saveChannel_steps steps
          by_cases concerned : calls.concerns libraries peerId (.inl saver)
          · refine agree.of_save concerned ?_ progress ?_ ?_
            · intro other different otherConcerned
              exact apart taken (.inl saver) call [] rfl concerned (.inl other)
                (by simpa using different) otherConcerned
            · intro channel member
              refine (peerId_of_keysSave (world_run leading)
                (mem_performedIn_iff.mpr
                  ⟨.inl saver, mem_performedBy_iff.mp member⟩)).trans concerned
            · rintro address failure rfl
              exact succeed (.inl saver) address failure (by simp)
          · exact agree.of_elsewhere extended concerned

/-- A lookup that found its record and its channel did nothing else. -/
theorem quiet_of_lookup
    {perform : State → Call → State → Prop}
    {reader : Reader}
    {peerId : String}
    {record : PeerEndpoint}
    {channel : InternetPrivateEndpointChannel}
    {earlier between later : List (PoolEvent interface (Saver ⊕ Reader))}
    (run :
      Run (PoolStep perform) calls.start
        (earlier ++ recordFound peerId reader record ::
          (between ++ channelFound peerId reader record channel :: later))
        last) :
    performedBy (.inr reader) earlier = [] ∧
      performedBy (.inr reader) between = [] := by
  obtain ⟨_, steps, -⟩ := program_steps run (.inr reader)
  have atMostTwo :
      (performedBy (.inr reader)
        (earlier ++ recordFound peerId reader record ::
          (between ++ channelFound peerId reader record channel ::
            later))).length ≤ 2 := by
    rcases getPeerChannel_steps steps with
      shape | ⟨outcome, shape⟩ | ⟨found, outcome, shape⟩ <;>
      simp [shape]
  simp only [recordFound, channelFound, performedBy_append,
    performedBy_cons_same, List.length_append, List.length_cons] at atMostTwo
  exact ⟨List.length_eq_zero_iff.mp (by omega),
    List.length_eq_zero_iff.mp (by omega)⟩

/-- While a lookup of a peer is midway and calls do not overlap, nobody saves its keys. -/
theorem saves_nothing_midway
    {perform : State → Call → State → Prop}
    (run : Run (PoolStep perform) calls.start events last)
    {peerId : String}
    (apart : OneAtATime libraries calls peerId events)
    {reader : Reader}
    (concerned : calls.concerns libraries peerId (.inr reader))
    (taken rest : List (PoolEvent interface (Saver ⊕ Reader)))
    {event : PoolEvent interface (Saver ⊕ Reader)}
    (shape : events = taken ++ event :: rest)
    (isMidway : midway (performedBy (.inr reader) taken) = true) :
    saverOf libraries peerId event = none := by
  refine Option.eq_none_iff_forall_ne_some.mpr fun saver saves => ?_
  obtain ⟨saverConcerned, call, isSave⟩ :=
    concerns_of_saverOf run (by simp [shape]) saves
  have notMidway :=
    apart taken (.inl saver) call rest (by rw [shape, isSave]) saverConcerned
      (.inr reader) (by simp) concerned
  rw [isMidway] at notMidway
  cases notMidway

/-- Without overlaps, a channel that is returned comes from a single call. -/
theorem sameSource_of_returns
    (run :
      Run (PoolStep (PerformedOnRegisters libraries)) calls.start events last)
    {reader : Reader}
    {channel : InternetPrivateEndpointChannel}
    (apart : OneAtATime libraries calls (calls.lookedUp reader) events)
    (succeed : UpdatesSucceed (calls.lookedUp reader) events)
    (returned : Returns last reader channel) :
    ∃ saver,
      ComesFrom libraries calls events (calls.lookedUp reader) reader channel
        saver saver := by
  obtain ⟨updater, saver, earlier, record, between, later, shape, lastUpdate,
    lastSave, itsAddress, itsAuth⟩ := comesFrom_of_returns run returned
  subst shape
  have concerned :
      calls.concerns libraries (calls.lookedUp reader) (.inr reader) :=
    rfl
  obtain ⟨quietBefore, quietBetween⟩ := quiet_of_lookup run
  obtain ⟨atRecord, leading, -⟩ := Run.append_iff.mp run
  have agree :
      SourcesAgree libraries calls (calls.lookedUp reader) earlier :=
    sourcesAgree_run
      (viewed_run id leading fun _ _ _ performed => performed.write)
      apart.of_append
      fun caller address failure member =>
        succeed caller address failure (by simp [member])
  have sameBefore :
      lastWrite (saverOf libraries (calls.lookedUp reader)) earlier =
        some updater := by
    rw [agree.ofQuiet, lastUpdate]
    intro other otherConcerned
    exact apart earlier (.inr reader) _ _ rfl concerned (.inl other) (by simp)
      otherConcerned
  have savesNothing :
      lastWrite (saverOf libraries (calls.lookedUp reader))
          (recordFound (calls.lookedUp reader) reader record :: between) =
        none := by
    rw [lastWrite_eq_none_iff]
    intro event member
    rcases List.mem_cons.mp member with rfl | inBetween
    · rfl
    · obtain ⟨before, after, rfl⟩ := List.append_of_mem inBetween
      refine saves_nothing_midway run apart concerned
        (earlier ++ recordFound (calls.lookedUp reader) reader record :: before)
        (after ++
          channelFound (calls.lookedUp reader) reader record channel :: later)
        (by simp) ?_
      rw [performedBy_append, List.append_eq_nil_iff] at quietBetween
      simp [performedBy_append, recordFound, quietBefore, quietBetween.1, midway]
  rw [lastWrite_append, savesNothing, sameBefore, Option.none_or] at lastSave
  cases lastSave
  exact ⟨updater, earlier, record, between, later, rfl, lastUpdate,
    by rw [lastWrite_append, savesNothing, sameBefore, Option.none_or],
    itsAddress, itsAuth⟩

/-- Every call has settled. -/
def Finished
    (last : Configuration interface (Saver ⊕ Reader) CallResult State) : Prop :=
  ∀ caller, ∃ result, last.processes caller = some (.settled result)

/-- A save that has settled is not midway. -/
theorem notMidway_of_finished
    {perform : State → Call → State → Prop}
    (run : Run (PoolStep perform) calls.start events last)
    (finished : Finished last)
    (saver : Saver) :
    midway (performedBy (.inl saver) events) = false := by
  obtain ⟨result, settled⟩ := finished (.inl saver)
  rcases saveChannel_runs
      (caller_runs run (calls.start_saver saver) settled) with
    ⟨failure, trace, -⟩ | ⟨channel, outcome, trace, -⟩
  · rw [trace]
    rfl
  · rw [trace]
    rfl

/-- Without overlaps, what is stored in the end comes from a single call. -/
theorem sameSource_of_finished
    (run :
      Run (PoolStep (PerformedOnRegisters libraries)) calls.start events last)
    {peerId : String}
    (apart : OneAtATime libraries calls peerId events)
    (succeed : UpdatesSucceed peerId events)
    (finished : Finished last) :
    lastWrite (saverOf libraries peerId) events =
      lastWrite (updaterOf peerId) events := by
  have agree : SourcesAgree libraries calls peerId events :=
    sourcesAgree_run
      (viewed_run id run fun _ _ _ performed => performed.write)
      apart succeed
  exact agree.ofQuiet fun saver _ => notMidway_of_finished run finished saver

/-- The gateway address, session key and last authorisation of a peer are of these calls. -/
def StoredFrom
    (calls : ChannelCalls Saver Reader)
    (state : State)
    (peerId : String)
    (updater saver : Option Saver) : Prop :=
  state.gatewayOf peerId =
      updater.map (fun source =>
        (calls.connectionParams source).internetGatewayAddress) ∧
    state.sessionKeys peerId =
      saver.map (fun source => (calls.connectionParams source).sessionKey) ∧
    (state.deliveryAuths peerId).head? =
      saver.map fun source => (calls.connectionParams source).deliveryAuth

/--
However calls interleave, the address in a channel is that of the call that
updated the record last and its authorisation that of the call that saved one
last; when the calls for a peer do not overlap and no update fails, these are
one call, both in every channel returned and in the stores in the end.
-/
theorem channel_sources
    {Saver Reader : Type}
    [DecidableEq Saver]
    [DecidableEq Reader]
    {libraries : Libraries}
    {calls : ChannelCalls Saver Reader}
    {events : List (PoolEvent interface (Saver ⊕ Reader))}
    {last : Configuration interface (Saver ⊕ Reader) CallResult State}
    (run :
      Run (PoolStep (PerformedOnRegisters libraries)) calls.start events last)
    (peerId : String) :
    (∀ reader channel,
        calls.lookedUp reader = peerId →
        Returns last reader channel →
        ∃ updater saver,
          ComesFrom libraries calls events peerId reader channel updater saver) ∧
      StoredFrom calls last.world peerId
        (lastWrite (updaterOf peerId) events)
        (lastWrite (saverOf libraries peerId) events) ∧
      (OneAtATime libraries calls peerId events →
        UpdatesSucceed peerId events →
        (∀ reader channel,
            calls.lookedUp reader = peerId →
            Returns last reader channel →
            ∃ saver,
              ComesFrom libraries calls events peerId reader channel
                saver saver) ∧
          (Finished last →
            ∃ source, StoredFrom calls last.world peerId source source)) := by
  have stored :
      StoredFrom calls last.world peerId (lastWrite (updaterOf peerId) events)
        (lastWrite (saverOf libraries peerId) events) :=
    ⟨gatewayOf_updater run peerId, entries_saver run peerId⟩
  refine ⟨?_, stored, ?_⟩
  · rintro reader channel rfl returned
    exact comesFrom_of_returns run returned
  · intro apart succeed
    constructor
    · rintro reader channel rfl returned
      exact sameSource_of_returns run apart succeed returned
    · intro finished
      rw [sameSource_of_finished run apart succeed finished] at stored
      exact ⟨_, stored⟩

end Calls

/-! ## Two saves and a lookup -/

/-- Two calls save parameters of the stub peer, with two gateways, and one looks it up. -/
def stubCalls : ChannelCalls Bool Unit where
  connectionParams
    | false => Stubs.connectionParams Stubs.peerAddress 0
    | true => Stubs.connectionParams Stubs.otherAddress 1
  lookedUp _ := Stubs.peerId

/-- A call saves its keys. -/
def stubKeysSaved (saver : Bool) : PoolEvent interface (Bool ⊕ Unit) :=
  .performed (.inl saver)
    (keysSave (stubCalls.connectionParams saver)
      (.ok (Stubs.channel (stubCalls.connectionParams saver))))

/-- A call updates the record. -/
def stubRecordUpdated (saver : Bool) : PoolEvent interface (Bool ⊕ Unit) :=
  .performed (.inl saver)
    (recordUpdate (stubCalls.connectionParams saver)
      (Stubs.channel (stubCalls.connectionParams saver)) (.ok ()))

/-- The channel to a gateway with the authorisation of the given version. -/
def stubFound (address : String) (version : UInt8) : InternetPrivateEndpointChannel where
  peer := ⟨Stubs.peerId, address, Stubs.peerKey⟩
  deliveryAuthPath := Stubs.deliveryAuth [version]

/-- The lookup finds this channel. -/
def stubLookedUp
    (address : String)
    (version : UInt8) : List (PoolEvent interface (Bool ⊕ Unit)) :=
  [recordFound Stubs.peerId () ⟨Stubs.peerId, address⟩,
    channelFound Stubs.peerId () ⟨Stubs.peerId, address⟩
      (stubFound address version)]

/-- One call saves after the other, and then the peer is looked up. -/
def stubConsecutive : List (PoolEvent interface (Bool ⊕ Unit)) :=
  [stubKeysSaved false, stubRecordUpdated false, stubKeysSaved true,
    stubRecordUpdated true] ++ stubLookedUp Stubs.otherAddress 1

/-- Both calls save their keys before either updates the record. -/
def stubOverlapping : List (PoolEvent interface (Bool ⊕ Unit)) :=
  [stubKeysSaved false, stubKeysSaved true, stubRecordUpdated true,
    stubRecordUpdated false] ++ stubLookedUp Stubs.peerAddress 1

theorem stubKeysSaved_performed
    (saver : Bool)
    (state : State) :
    PerformedOnRegisters Stubs.routeLibraries state
      (keysSave (stubCalls.connectionParams saver)
        (.ok (Stubs.channel (stubCalls.connectionParams saver))))
      (state.saveEntries Stubs.peerId (stubCalls.connectionParams saver) .all) := by
  refine .of_atomically ?_ rfl
  cases saver
  · exact .saved rfl
  · exact .saved rfl

theorem stubRecordUpdated_performed
    (saver : Bool)
    (state : State) :
    PerformedOnRegisters Stubs.routeLibraries state
      (recordUpdate (stubCalls.connectionParams saver)
        (Stubs.channel (stubCalls.connectionParams saver)) (.ok ()))
      { state with
        peerEndpoints :=
          upsertPeerEndpoint Stubs.peerId
            (stubCalls.connectionParams saver).internetGatewayAddress
            state.peerEndpoints } :=
  .of_atomically (.of_notSave ⟨epoch, rfl⟩ rfl) rfl

theorem stubRecordFound_performed
    {state : State}
    {record : PeerEndpoint}
    (onRecord : some record = findPeerEndpoint Stubs.peerId state.peerEndpoints) :
    PerformedOnRegisters Stubs.routeLibraries state
      ⟨.findOne Stubs.peerId, .ok (some record)⟩ state :=
  .of_atomically (.of_notSave ⟨epoch, onRecord, rfl⟩ rfl) rfl

/-- Every call has settled once each of the three has. -/
theorem finished_of_settled
    {last : Configuration interface (Bool ⊕ Unit) CallResult State}
    (settled :
      (∃ result, last.processes (.inl false) = some (.settled result)) ∧
        (∃ result, last.processes (.inl true) = some (.settled result)) ∧
        ∃ result, last.processes (.inr ()) = some (.settled result)) :
    Finished last := by
  rintro ((_ | _) | _)
  · exact settled.1
  · exact settled.2.1
  · exact settled.2.2

theorem stubConsecutive_run :
    ∃ last,
      Run (PoolStep (PerformedOnRegisters Stubs.routeLibraries))
          stubCalls.start stubConsecutive last ∧
        Finished last ∧
        Returns last () (stubFound Stubs.otherAddress 1) :=
  ⟨_,
    .next (.settles rfl (stubKeysSaved_performed false _))
      (.next (.settles rfl (stubRecordUpdated_performed false _))
        (.next (.settles rfl (stubKeysSaved_performed true _))
          (.next (.settles rfl (stubRecordUpdated_performed true _))
            (.next (.settles rfl (stubRecordFound_performed rfl))
              (.next (.settles rfl ⟨⟨epoch, rfl⟩, rfl⟩) (.done _)))))),
    finished_of_settled ⟨⟨_, rfl⟩, ⟨_, rfl⟩, _, rfl⟩, rfl⟩

/-- A step of the stub calls that is taken while the other two are not midway. -/
theorem stubApart_concat
    {taken : List (PoolEvent interface (Bool ⊕ Unit))}
    {caller : Bool ⊕ Unit}
    {call : Call}
    (apart : OneAtATime Stubs.routeLibraries stubCalls Stubs.peerId taken)
    (othersQuiet :
      (caller = .inl false ∨ midway (performedBy (.inl false) taken) = false) ∧
        (caller = .inl true ∨ midway (performedBy (.inl true) taken) = false) ∧
        (caller = .inr () ∨ midway (performedBy (.inr ()) taken) = false)) :
    OneAtATime Stubs.routeLibraries stubCalls Stubs.peerId
      (taken ++ [.performed caller call]) := by
  refine apart.concat ?_
  rintro ((_ | _) | _) different
  · exact othersQuiet.1.resolve_left (Ne.symm different)
  · exact othersQuiet.2.1.resolve_left (Ne.symm different)
  · exact othersQuiet.2.2.resolve_left (Ne.symm different)

/-- The calls of the first run do not overlap. -/
theorem stubConsecutive_oneAtATime :
    OneAtATime Stubs.routeLibraries stubCalls Stubs.peerId stubConsecutive := by
  have atStart : OneAtATime Stubs.routeLibraries stubCalls Stubs.peerId [] := by
    intro taken _ _ _ shape
    cases taken <;> cases shape
  have keysSaved :
      OneAtATime Stubs.routeLibraries stubCalls Stubs.peerId
        (stubConsecutive.take 1) :=
    stubApart_concat atStart (by decide)
  have recordUpdated :
      OneAtATime Stubs.routeLibraries stubCalls Stubs.peerId
        (stubConsecutive.take 2) :=
    stubApart_concat keysSaved (by decide)
  have otherKeysSaved :
      OneAtATime Stubs.routeLibraries stubCalls Stubs.peerId
        (stubConsecutive.take 3) :=
    stubApart_concat recordUpdated (by decide)
  have otherRecordUpdated :
      OneAtATime Stubs.routeLibraries stubCalls Stubs.peerId
        (stubConsecutive.take 4) :=
    stubApart_concat otherKeysSaved (by decide)
  have recordFound :
      OneAtATime Stubs.routeLibraries stubCalls Stubs.peerId
        (stubConsecutive.take 5) :=
    stubApart_concat otherRecordUpdated (by decide)
  exact stubApart_concat recordFound (by decide)

/-- No update of the first run fails. -/
theorem stubConsecutive_updatesSucceed :
    UpdatesSucceed Stubs.peerId stubConsecutive := by
  intro caller address failure member
  simp [stubConsecutive, stubKeysSaved, stubRecordUpdated, stubLookedUp,
    keysSave, recordUpdate, recordFound, channelFound] at member

/--
After two saves one after the other, the channel that is looked up and what is
stored in the end come from a single call.
-/
theorem channel_sources_stubs :
    ∃ last,
      Run (PoolStep (PerformedOnRegisters Stubs.routeLibraries))
          stubCalls.start stubConsecutive last ∧
        OneAtATime Stubs.routeLibraries stubCalls Stubs.peerId
          stubConsecutive ∧
        UpdatesSucceed Stubs.peerId stubConsecutive ∧
        Finished last ∧
        (∃ saver,
          ComesFrom Stubs.routeLibraries stubCalls stubConsecutive
            Stubs.peerId () (stubFound Stubs.otherAddress 1) saver saver) ∧
        ∃ source,
          StoredFrom stubCalls last.world Stubs.peerId source source := by
  obtain ⟨last, run, finished, returned⟩ := stubConsecutive_run
  obtain ⟨-, -, together⟩ := channel_sources run Stubs.peerId
  obtain ⟨found, stored⟩ :=
    together stubConsecutive_oneAtATime stubConsecutive_updatesSucceed
  exact ⟨last, run, stubConsecutive_oneAtATime,
    stubConsecutive_updatesSucceed, finished, found () _ rfl returned,
    stored finished⟩

/--
Two overlapping saves mix their channels: the keys are those of the one, the
address is that of the other, in the channel returned and in the stores.
-/
theorem overlapping_saves_mix :
    ∃ last,
      Run (PoolStep (PerformedOnRegisters Stubs.routeLibraries))
          stubCalls.start stubOverlapping last ∧
        Finished last ∧
        Returns last () (stubFound Stubs.peerAddress 1) ∧
        (¬ ∃ saver,
          (stubFound Stubs.peerAddress 1).peer.internetAddress =
              (stubCalls.connectionParams saver).internetGatewayAddress ∧
            (stubFound Stubs.peerAddress 1).deliveryAuthPath =
              (stubCalls.connectionParams saver).deliveryAuth) ∧
        ¬ ∃ source,
          StoredFrom stubCalls last.world Stubs.peerId source source := by
  refine ⟨_,
    .next (.settles rfl (stubKeysSaved_performed false _))
      (.next (.settles rfl (stubKeysSaved_performed true _))
        (.next (.settles rfl (stubRecordUpdated_performed true _))
          (.next (.settles rfl (stubRecordUpdated_performed false _))
            (.next (.settles rfl (stubRecordFound_performed rfl))
              (.next (.settles rfl ⟨⟨epoch, rfl⟩, rfl⟩) (.done _)))))),
    finished_of_settled ⟨⟨_, rfl⟩, ⟨_, rfl⟩, _, rfl⟩, rfl, ?_, ?_⟩
  · rintro ⟨saver, sameAddress, sameAuth⟩
    cases saver with
    | false =>
        exact absurd sameAuth (by decide)
    | true =>
        exact absurd sameAddress (by decide)
  · rintro ⟨source, sameAddress, sameKey, -⟩
    rcases source with _ | _ | _
    · cases sameAddress
    · exact absurd sameKey (by decide)
    · exact absurd sameAddress (by decide)

end AwalaEndpoint
