import AwalaEndpoint.Bootstrap
import AwalaEndpoint.Library.Pool
import AwalaEndpoint.Stubs

namespace AwalaEndpoint

open Awaiting LabelledRuns

/-!
# The initial session key

Bootstrap runs look for the initial session key and generate it when there is
none, in two operations.  A second run that looks between the two finds no key
either, and generates another one.  As long as a run generates its key while no
other run is about to, there is one key, and everybody publishes it.
-/

section Deployments

variable {Job Client : Type}

/-- What a caller resolves with: a bootstrap report, or published parameters. -/
abbrev KeyResult : Job ⊕ Client → Type
  | .inl _ => Bootstrap.Report
  | .inr _ => Buffer

/-- The environments of the bootstrap runs and the endpoints that publish parameters. -/
structure KeyCalls (Job Client : Type) where
  environment : Job → Environment
  endpoint : Client → InternetEndpoint

namespace KeyCalls

/-- The program of a caller. -/
def program
    (calls : KeyCalls Job Client)
    (libraries : Libraries) :
    (caller : Job ⊕ Client) → Promise (KeyResult caller)
  | .inl job => Bootstrap.bootstrapData libraries (calls.environment job)
  | .inr client => (calls.endpoint client).getConnectionParams libraries

/-- Everybody is about to start, over empty stores. -/
def start
    (calls : KeyCalls Job Client)
    (libraries : Libraries) :
    Configuration interface (Job ⊕ Client) KeyResult State :=
  .start State.empty (calls.program libraries)

theorem start_job
    (calls : KeyCalls Job Client)
    (libraries : Libraries)
    (job : Job) :
    (calls.start libraries).processes (.inl job) =
      some (Bootstrap.bootstrapData libraries (calls.environment job)) :=
  rfl

theorem start_client
    (calls : KeyCalls Job Client)
    (libraries : Libraries)
    (client : Client) :
    (calls.start libraries).processes (.inr client) =
      some ((calls.endpoint client).getConnectionParams libraries) :=
  rfl

end KeyCalls

/-- A bootstrap run that has not crashed is about to generate a key. -/
def AboutToGenerate
    (configuration :
      Configuration interface (Job ⊕ Client) KeyResult State)
    (job : Job)
    (nodeId : String) : Prop :=
  ∃ resume,
    configuration.processes (.inl job) =
      some (.await (.generateSessionKey nodeId) resume)

/-- The step in which a caller finds that there is no key. -/
def keyMissing
    (nodeId : String)
    (caller : Job ⊕ Client) : PoolEvent interface (Job ⊕ Client) :=
  .performed caller ⟨.retrieveUnboundSessionPublicKey nodeId, .ok none⟩

/-- A run generates a key only while no other run is about to generate one. -/
def GeneratesAlone
    (before : Configuration interface (Job ⊕ Client) KeyResult State)
    (event : PoolEvent interface (Job ⊕ Client)) : Prop :=
  ∀ job nodeId key,
    event = .performed (.inl job) ⟨.generateSessionKey nodeId, .ok key⟩ →
    ∀ other,
      other ≠ job →
      ¬ AboutToGenerate before other nodeId

variable [DecidableEq Job] [DecidableEq Client]

/-- A step in which a key is generated alone, if one is generated. -/
def LoneStep
    (libraries : Libraries)
    (before : Configuration interface (Job ⊕ Client) KeyResult State)
    (event : PoolEvent interface (Job ⊕ Client))
    (after : Configuration interface (Job ⊕ Client) KeyResult State) : Prop :=
  PoolStep (Performed libraries) before event after ∧ GeneratesAlone before event

variable {libraries : Libraries}
  {calls : KeyCalls Job Client}
  {events : List (PoolEvent interface (Job ⊕ Client))}
  {before after last :
    Configuration interface (Job ⊕ Client) KeyResult State}
  {event : PoolEvent interface (Job ⊕ Client)}

/-! ## Steps -/

/-- A run that generates a key was about to do so. -/
theorem aboutToGenerate_of_generation
    {job : Job}
    {nodeId : String}
    {outcome : Except Failure SessionKey}
    (stepped :
      PoolStep (Performed libraries) before
        (.performed (.inl job) ⟨.generateSessionKey nodeId, outcome⟩) after) :
    AboutToGenerate before job nodeId := by
  cases stepped with
  | performed live advance _ =>
      cases advance with
      | resumed _ resume =>
          exact ⟨resume, live⟩

/-- Publishing parameters generates no key. -/
theorem generatedKey_of_client
    (run :
      Run (PoolStep (Performed libraries)) (calls.start libraries) events last)
    {client : Client}
    {call : Call}
    (member : .performed (.inr client) call ∈ events)
    (nodeId : String) :
    generatedKey nodeId call = none := by
  have performed := mem_performedBy_iff.mpr member
  obtain ⟨_, steps, -⟩ := caller_steps run (calls.start_client libraries client)
  rcases getConnectionParams_steps steps with shape | ⟨outcome, shape⟩
  · rw [shape] at performed
    cases performed
  · rw [shape, List.mem_singleton] at performed
    rw [performed]
    rfl

/-- A run comes to be about to generate a key only by finding that there is none. -/
theorem aboutToGenerate_step
    (run :
      Run (PoolStep (Performed libraries)) (calls.start libraries) events before)
    (stepped : PoolStep (Performed libraries) before event after)
    {job : Job}
    {nodeId : String}
    (about : AboutToGenerate after job nodeId) :
    (AboutToGenerate before job nodeId ∧ event.caller ≠ .inl job) ∨
      event = keyMissing nodeId (.inl job) := by
  obtain ⟨resume, awaits⟩ := about
  have steps :=
    caller_steps_of_live (run.extend stepped) (calls.start_job libraries job)
      awaits
  obtain ⟨earlier, shape⟩ := Bootstrap.checked_of_awaiting steps
  by_cases isOwn : event.caller = .inl job
  · cases event with
    | performed caller call =>
        cases isOwn
        rw [performedBy_concat_same] at shape
        obtain ⟨-, isCheck⟩ := List.append_inj' shape rfl
        cases isCheck
        exact .inr rfl
    | crashed caller =>
        cases isOwn
        cases stepped.processes_crashed.symm.trans awaits
  · rw [stepped.processes_other isOwn] at awaits
    exact .inl ⟨⟨resume, awaits⟩, isOwn⟩

/-- A step adds the key it generates, and no other step changes the keys. -/
theorem unboundSessionKeys_step
    (stepped : PoolStep (Performed libraries) before event after)
    (nodeId : String) :
    after.world.unboundSessionKeys nodeId =
      before.world.unboundSessionKeys nodeId ++
        (event.completed?.bind (generatedKey nodeId)).toList := by
  cases stepped with
  | performed _ _ performs =>
      exact performs.unboundSessionKeys nodeId
  | crashed =>
      simp [PoolEvent.completed?]

/-! ## A single key -/

/-- There is a key at most, and none while a run is about to generate it. -/
structure SingleKey
    (configuration :
      Configuration interface (Job ⊕ Client) KeyResult State) : Prop where
  atMostOne :
    ∀ nodeId,
      (configuration.world.unboundSessionKeys nodeId).length ≤ 1
  noneYet :
    ∀ job nodeId,
      AboutToGenerate configuration job nodeId →
      configuration.world.unboundSessionKeys nodeId = []

/-- A key that is generated is generated by a bootstrap run. -/
theorem generatedByJob
    (run :
      Run (PoolStep (Performed libraries)) (calls.start libraries) events last)
    (member : event ∈ events)
    {nodeId : String}
    {key : SessionKey}
    (generated : event.completed?.bind (generatedKey nodeId) = some key) :
    ∃ job : Job,
      event = .performed (.inl job) ⟨.generateSessionKey nodeId, .ok key⟩ := by
  rcases event with ⟨caller, call⟩ | _
  · cases caller with
    | inl job =>
        exact ⟨job, by rw [generatedKey_eq_some_iff.mp generated]⟩
    | inr client =>
        have isKey : generatedKey nodeId call = some key := generated
        rw [generatedKey_of_client run member nodeId] at isKey
        cases isKey
  · cases generated

theorem SingleKey.step
    (run :
      Run (PoolStep (Performed libraries)) (calls.start libraries) events before)
    (single : SingleKey before)
    (lone : LoneStep libraries before event after) :
    SingleKey after := by
  obtain ⟨stepped, alone⟩ := lone
  have extended := run.extend stepped
  constructor
  · intro nodeId
    rw [unboundSessionKeys_step stepped nodeId]
    cases generated : event.completed?.bind (generatedKey nodeId) with
    | none =>
        simpa using single.atMostOne nodeId
    | some key =>
        obtain ⟨job, rfl⟩ := generatedByJob extended (by simp) generated
        simp [single.noneYet job nodeId (aboutToGenerate_of_generation stepped)]
  · intro job nodeId about
    rw [unboundSessionKeys_step stepped nodeId]
    rcases aboutToGenerate_step run stepped about with ⟨aboutBefore, isOther⟩ | rfl
    · cases generated : event.completed?.bind (generatedKey nodeId) with
      | none =>
          simpa using single.noneYet job nodeId aboutBefore
      | some key =>
          obtain ⟨other, rfl⟩ := generatedByJob extended (by simp) generated
          have different : job ≠ other := by
            rintro rfl
            exact isOther rfl
          exact absurd aboutBefore (alone other nodeId key rfl job different)
    · cases stepped with
      | performed _ _ performs =>
          obtain ⟨_, isEmpty, -⟩ := performs
          simp [isEmpty, keyMissing, PoolEvent.completed?, generatedKey]

/-- In a run whose keys are generated alone, there is a single key. -/
theorem singleKey_run
    (run : Run (LoneStep libraries) (calls.start libraries) events last) :
    SingleKey last := by
  refine run.alongside (fun _ configuration => SingleKey configuration) ?_ ?_
  · refine ⟨fun nodeId => Nat.zero_le 1, ?_⟩
    intro job nodeId about
    rfl
  · intro taken before event after leading single lone
    exact single.step (leading.mono fun _ _ _ _ stepped => stepped.1) lone

/-- The keys at the end of a run are the ones that were generated. -/
theorem unboundSessionKeys_last
    (run :
      Run (PoolStep (Performed libraries)) (calls.start libraries) events last)
    (nodeId : String) :
    last.world.unboundSessionKeys nodeId =
      (performedIn events).filterMap (generatedKey nodeId) := by
  rw [unboundSessionKeys_run (world_run run) nodeId]
  rfl

/-- The only key is any key that is stored. -/
theorem eq_singleton_of_mem
    {keys : List SessionKey}
    {key : SessionKey}
    (atMostOne : keys.length ≤ 1)
    (member : key ∈ keys) :
    keys = [key] := by
  match keys with
  | [] =>
      cases member
  | [only] =>
      rw [List.mem_singleton.mp member]
  | _ :: _ :: _ =>
      simp at atMostOne

/-- A bootstrap run saved the only key of a node. -/
def SavedOnlyKey
    (events : List (PoolEvent interface (Job ⊕ Client)))
    (last : Configuration interface (Job ⊕ Client) KeyResult State)
    (job : Job) : Prop :=
  ∃ nodeId key,
    last.world.unboundSessionKeys nodeId = [key] ∧
      ⟨.generateSessionKey nodeId, .ok key⟩ ∈ performedBy (.inl job) events

/-- With a single key, the key a bootstrap run generated is the only one. -/
theorem SingleKey.savedOnlyKey_iff
    (single : SingleKey last)
    (run :
      Run (PoolStep (Performed libraries)) (calls.start libraries) events last)
    (job : Job) :
    SavedOnlyKey events last job ↔
      ∃ nodeId key,
        ⟨.generateSessionKey nodeId, .ok key⟩ ∈
          performedBy (.inl job) events := by
  constructor
  · rintro ⟨nodeId, key, -, generated⟩
    exact ⟨nodeId, key, generated⟩
  · rintro ⟨nodeId, key, generated⟩
    refine ⟨nodeId, key,
      eq_singleton_of_mem (single.atMostOne nodeId) ?_, generated⟩
    rw [unboundSessionKeys_last run, List.mem_filterMap]
    exact ⟨_,
      mem_performedIn_iff.mpr ⟨_, mem_performedBy_iff.mp generated⟩,
      generatedKey_eq_some_iff.mpr rfl⟩

/-- A key that was published is stored ever after. -/
theorem stored_of_published
    (run :
      Run (PoolStep (Performed libraries)) (calls.start libraries) events last)
    {client : Client}
    {buffer : Buffer}
    (published :
      last.processes (.inr client) = some (.settled (.ok buffer))) :
    ∃ key,
      key ∈ last.world.unboundSessionKeys (calls.endpoint client).id ∧
        buffer =
          libraries.serializeConnectionParams
            (publishedParams (calls.endpoint client) key) := by
  obtain ⟨key, trace, serialized⟩ :=
    getConnectionParams_resolves_iff.mp
      (caller_runs run (calls.start_client libraries client) published)
  refine ⟨key, ?_, serialized⟩
  have found :=
    mem_performedBy_iff.mp
      (trace ▸ List.mem_singleton_self _ :
        keyCheck (calls.endpoint client) (.ok (some key)) ∈
          performedBy (.inr client) events)
  obtain ⟨earlier, later, before, after, rfl, -, stepped, rest⟩ :=
    run.split_at found
  cases stepped with
  | performed _ _ performs =>
      obtain ⟨_, stored, rfl⟩ := performs
      rw [unboundSessionKeys_run (world_run rest)]
      exact List.mem_append_left _ stored

/--
There is one initial key: at most one is stored, a bootstrap run has logged that
it created a key, and reports so, exactly when it saved the one there is, and
whoever published connection parameters published them with that key.
-/
structure OneInitialKey
    (libraries : Libraries)
    (calls : KeyCalls Job Client)
    (events : List (PoolEvent interface (Job ⊕ Client)))
    (last : Configuration interface (Job ⊕ Client) KeyResult State) : Prop where
  atMostOne :
    ∀ nodeId, (last.world.unboundSessionKeys nodeId).length ≤ 1
  logged :
    ∀ job,
      Bootstrap.Logged libraries (calls.environment job)
          Bootstrap.createdEntry (performedBy (.inl job) events) ↔
        SavedOnlyKey events last job
  reported :
    ∀ job report,
      last.processes (.inl job) = some (.settled (.ok report)) →
      (Bootstrap.createdEntry ∈ report.logged ↔ SavedOnlyKey events last job)
  published :
    ∀ client buffer,
      last.processes (.inr client) = some (.settled (.ok buffer)) →
      ∃ key,
        last.world.unboundSessionKeys (calls.endpoint client).id = [key] ∧
          buffer =
            libraries.serializeConnectionParams
              (publishedParams (calls.endpoint client) key)

/--
However bootstrap runs and servers interleave, fail and crash, there is one
initial key, provided that each key is generated while no other run that found
none is about to generate its own.
-/
theorem oneInitialKey_run
    {Job Client : Type}
    [DecidableEq Job]
    [DecidableEq Client]
    {libraries : Libraries}
    {calls : KeyCalls Job Client}
    {events : List (PoolEvent interface (Job ⊕ Client))}
    {last : Configuration interface (Job ⊕ Client) KeyResult State}
    (run : Run (LoneStep libraries) (calls.start libraries) events last) :
    OneInitialKey libraries calls events last := by
  have single := singleKey_run run
  have poolRun :
      Run (PoolStep (Performed libraries)) (calls.start libraries) events last :=
    run.mono fun _ _ _ _ stepped => stepped.1
  have logged :
      ∀ job,
        Bootstrap.Logged libraries (calls.environment job)
            Bootstrap.createdEntry (performedBy (.inl job) events) ↔
          SavedOnlyKey events last job := by
    intro job
    obtain ⟨_, steps, -⟩ :=
      caller_steps poolRun (calls.start_job libraries job)
    rw [single.savedOnlyKey_iff poolRun job]
    exact Bootstrap.logged_created_iff steps
  refine ⟨single.atMostOne, logged, ?_, ?_⟩
  · intro job report settled
    rw [← logged job]
    exact Bootstrap.created_mem_report_iff
      (caller_runs poolRun (calls.start_job libraries job) settled)
  · intro client buffer published
    obtain ⟨key, stored, serialized⟩ := stored_of_published poolRun published
    exact ⟨key, eq_singleton_of_mem (single.atMostOne _) stored, serialized⟩

end Deployments

/-! ## Two bootstrap runs and two servers -/

/-- Two bootstrap runs of the stub endpoint, and two servers that publish its parameters. -/
def stubKeyCalls : KeyCalls Bool Bool where
  environment _ := Stubs.environment
  endpoint _ := Stubs.endpoint

/-- The initial session key that a bootstrap run generates. -/
def stubKey (job : Bool) : SessionKey :=
  if job then ⟨[1], [1]⟩ else ⟨[0], [0]⟩

/-- A bootstrap run loads the identity key. -/
def stubIdentityLoaded (job : Bool) : PoolEvent interface (Bool ⊕ Bool) :=
  .performed (.inl job) ⟨.retrievePrivateKeyByRef "set", .ok ()⟩

/-- A bootstrap run generates its key. -/
def stubKeyGenerated (job : Bool) : PoolEvent interface (Bool ⊕ Bool) :=
  .performed (.inl job) (keyGeneration Stubs.endpoint (.ok (stubKey job)))

/-- A bootstrap run closes its connection. -/
def stubClosed (job : Bool) : PoolEvent interface (Bool ⊕ Bool) :=
  .performed (.inl job) ⟨.closeConnection, .ok ()⟩

/-- A server finds the key of a bootstrap run. -/
def stubKeyFound (client job : Bool) : PoolEvent interface (Bool ⊕ Bool) :=
  .performed (.inr client) (keyCheck Stubs.endpoint (.ok (some (stubKey job))))

/-- A later bootstrap run finds the key of the first. -/
def stubKeyPresent : PoolEvent interface (Bool ⊕ Bool) :=
  .performed (.inl true) (keyCheck Stubs.endpoint (.ok (some (stubKey false))))

/-- A bootstrap run, a server that publishes its key and another bootstrap run. -/
def stubKeyEvents : List (PoolEvent interface (Bool ⊕ Bool)) :=
  [stubIdentityLoaded false, keyMissing Stubs.endpointId (.inl false),
    stubKeyGenerated false, stubKeyFound false false, stubClosed false,
    stubIdentityLoaded true, stubKeyPresent, stubClosed true]

/--
The first bootstrap run creates the key, which a server publishes and the second
run finds.
-/
theorem oneInitialKey_run_stubs :
    ∃ last,
      Run (LoneStep Stubs.routeLibraries)
          (stubKeyCalls.start Stubs.routeLibraries) stubKeyEvents last ∧
        OneInitialKey Stubs.routeLibraries stubKeyCalls stubKeyEvents last ∧
        last.world.unboundSessionKeys Stubs.endpointId = [stubKey false] ∧
        last.processes (.inl true) =
          some (.settled (.ok ⟨[Bootstrap.existsEntry], .ok ()⟩)) := by
  have firstRun :
      ∃ middle,
        Run (LoneStep Stubs.routeLibraries)
            (stubKeyCalls.start Stubs.routeLibraries)
            [stubIdentityLoaded false, keyMissing Stubs.endpointId (.inl false),
              stubKeyGenerated false, stubKeyFound false false,
              stubClosed false]
            middle ∧
          middle.world.unboundSessionKeys Stubs.endpointId = [stubKey false] ∧
          middle.processes (.inl true) =
            some
              (Bootstrap.bootstrapData Stubs.routeLibraries
                Stubs.environment) := by
    refine ⟨_,
      .next ⟨.settles rfl ⟨epoch, rfl⟩,
          fun _ _ _ isGeneration => by cases isGeneration⟩
        (.next ⟨.settles rfl ⟨epoch, rfl, rfl⟩,
            fun _ _ _ isGeneration => by cases isGeneration⟩
          (.next ⟨.settles rfl ⟨epoch, by decide, rfl⟩, ?_⟩
            (.next ⟨.settles rfl ⟨epoch, by decide, rfl⟩,
                fun _ _ _ isGeneration => by cases isGeneration⟩
              (.next ⟨.settles rfl ⟨epoch, rfl⟩,
                  fun _ _ _ isGeneration => by cases isGeneration⟩
                (.done _))))), rfl, rfl⟩
    rintro job nodeId key isGeneration other different ⟨resume, awaits⟩
    cases isGeneration
    cases other with
    | false =>
        exact different rfl
    | true =>
        cases awaits
  obtain ⟨⟨world, processes⟩, first, stored, awaits⟩ := firstRun
  have secondRun :
      ∃ last,
        Run (LoneStep Stubs.routeLibraries) ⟨world, processes⟩
            [stubIdentityLoaded true, stubKeyPresent, stubClosed true] last ∧
          last.world = world ∧
          last.processes (.inl true) =
            some (.settled (.ok ⟨[Bootstrap.existsEntry], .ok ()⟩)) := by
    have present : stubKey false ∈ world.unboundSessionKeys Stubs.endpointId := by
      rw [stored]
      exact List.mem_singleton_self _
    exact ⟨_,
      .next ⟨.settles awaits ⟨epoch, rfl⟩,
          fun _ _ _ isGeneration => by cases isGeneration⟩
        (.next ⟨.settles rfl ⟨epoch, present, rfl⟩,
            fun _ _ _ isGeneration => by cases isGeneration⟩
          (.next ⟨.settles rfl ⟨epoch, rfl⟩,
              fun _ _ _ isGeneration => by cases isGeneration⟩
            (.done _))), rfl, rfl⟩
  obtain ⟨last, second, sameWorld, settled⟩ := secondRun
  have run := first.append second
  refine ⟨last, run, oneInitialKey_run run, ?_, settled⟩
  rw [sameWorld]
  exact stored

/-- Two overlapping bootstrap runs both create a key, and servers publish different ones. -/
theorem overlapping_bootstraps_create_two_keys :
    ∃ last,
      Run (PoolStep (Performed Stubs.routeLibraries))
          (stubKeyCalls.start Stubs.routeLibraries)
          [stubIdentityLoaded false, stubIdentityLoaded true,
            keyMissing Stubs.endpointId (.inl false),
            keyMissing Stubs.endpointId (.inl true),
            stubKeyGenerated false, stubKeyGenerated true,
            stubClosed false, stubClosed true,
            stubKeyFound false false, stubKeyFound true true]
          last ∧
        last.world.unboundSessionKeys Stubs.endpointId =
          [stubKey false, stubKey true] ∧
        (∀ job,
          last.processes (.inl job) =
            some (.settled (.ok ⟨[Bootstrap.createdEntry], .ok ()⟩))) ∧
        last.processes (.inr false) =
          some (.settled (.ok
            (Stubs.routeLibraries.serializeConnectionParams
              (publishedParams Stubs.endpoint (stubKey false))))) ∧
        last.processes (.inr true) =
          some (.settled (.ok
            (Stubs.routeLibraries.serializeConnectionParams
              (publishedParams Stubs.endpoint (stubKey true))))) ∧
        Stubs.routeLibraries.serializeConnectionParams
            (publishedParams Stubs.endpoint (stubKey false)) ≠
          Stubs.routeLibraries.serializeConnectionParams
            (publishedParams Stubs.endpoint (stubKey true)) := by
  refine ⟨_,
    .next (.settles rfl ⟨epoch, rfl⟩)
      (.next (.settles rfl ⟨epoch, rfl⟩)
        (.next (.settles rfl ⟨epoch, rfl, rfl⟩)
          (.next (.settles rfl ⟨epoch, rfl, rfl⟩)
            (.next (.settles rfl ⟨epoch, by decide, rfl⟩)
              (.next (.settles rfl ⟨epoch, by decide, rfl⟩)
                (.next (.settles rfl ⟨epoch, rfl⟩)
                  (.next (.settles rfl ⟨epoch, rfl⟩)
                    (.next (.settles rfl ⟨epoch, by decide, rfl⟩)
                      (.next (.settles rfl ⟨epoch, by decide, rfl⟩)
                        (.done _)))))))))),
    rfl, ?_, rfl, rfl, by decide⟩
  rintro (_ | _)
  · rfl
  · rfl

end AwalaEndpoint
