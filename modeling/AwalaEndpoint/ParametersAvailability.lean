import AwalaEndpoint.Deployment

namespace AwalaEndpoint

open Awaiting LabelledRuns

/-!
# When connection parameters are available

The bootstrap script and the servers find out for themselves what the active
endpoint is.  They come to the same one, so a server publishes the key that the
script left for it, from the moment on at which the script logs that it is done.
-/

section Bootstrapped

variable {libraries : Libraries}
  {environment : Environment}
  {endpoint : InternetEndpoint}
  {trace : List Call}

/-- The active endpoint is put together from the environment. -/
structure IsActive
    (libraries : Libraries)
    (environment : Environment)
    (endpoint : InternetEndpoint) : Prop where
  identityPublicKey :
    getIdentityPublicKey libraries environment = .ok endpoint.identityPublicKey
  id : endpoint.id = libraries.getIdFromIdentityKey endpoint.identityPublicKey
  internetAddress :
    environment.required "INTERNET_ADDRESS" = .ok endpoint.internetAddress

/-- There is at most one active endpoint. -/
theorem IsActive.unique
    {other : InternetEndpoint}
    (isActive : IsActive libraries environment endpoint)
    (otherActive : IsActive libraries environment other) :
    endpoint = other := by
  obtain ⟨id, internetAddress, publicKey⟩ := endpoint
  obtain ⟨otherId, otherAddress, otherKey⟩ := other
  obtain ⟨hasKey, hasId, hasAddress⟩ := isActive
  obtain ⟨otherHasKey, otherHasId, otherHasAddress⟩ := otherActive
  cases hasKey.symm.trans otherHasKey
  cases hasAddress.symm.trans otherHasAddress
  have sameId : id = otherId := hasId.trans otherHasId.symm
  rw [sameId]

/-- What `getActive` resolves with is the active endpoint. -/
theorem isActive_of_getActive
    (runs :
      Runs (InternetEndpoint.getActive libraries environment) trace
        (.ok endpoint)) :
    IsActive libraries environment endpoint := by
  rcases runs_bind_iff.mp runs with
    ⟨_, -, impossible⟩ | ⟨_, _, _, -, -, reading⟩
  · cases impossible
  · obtain ⟨publicKey, hasKey, addressing⟩ := runs_settled_bind reading
    obtain ⟨internetAddress, hasAddress, storing⟩ :=
      runs_settled_bind addressing
    obtain ⟨_, -, returning⟩ := runs_settled_bind storing
    obtain ⟨-, isEndpoint⟩ := runs_settled_iff.mp returning
    cases isEndpoint
    exact ⟨hasKey, rfl, hasAddress⟩

/-- Calls that show that a key of the node is stored. -/
def showsKey (nodeId : String) (key : SessionKey) (call : Call) : Prop :=
  call = ⟨.retrieveUnboundSessionPublicKey nodeId, .ok (some key)⟩ ∨
    call = ⟨.generateSessionKey nodeId, .ok key⟩

/-- A run that logged a line about the key has found or generated one. -/
theorem showsKey_of_logged
    {entry : LogEntry}
    (isActive : IsActive libraries environment endpoint)
    (logged : Bootstrap.Logged libraries environment entry trace) :
    ∃ key, ∃ call ∈ trace, showsKey endpoint.id key call := by
  obtain ⟨earlier, later, rfl, runs⟩ := logged
  rcases runs_bind_iff.mp runs with
    ⟨_, -, impossible⟩ | ⟨found, loading, rest, rfl, finding, making⟩
  · cases impossible
  · cases isActive.unique (isActive_of_getActive finding)
    rcases runs_bind_iff.mp making with
      ⟨_, -, impossible⟩ | ⟨wasKeyCreated, made, _, rfl, progress, -⟩
    · cases impossible
    · have progress := makeInitialSessionKeyIfMissing_steps progress
      generalize resolved :
          (Program.settled (.ok wasKeyCreated) : Promise Bool) = remaining
          at progress
      cases progress with
      | notStarted =>
          cases resolved
      | checkFailed =>
          cases resolved
      | keyExists key =>
          exact ⟨key, keyCheck endpoint (.ok (some key)), by simp, .inl rfl⟩
      | keyMissing =>
          cases resolved
      | generated outcome =>
          cases outcome with
          | error failure =>
              cases resolved
          | ok key =>
              exact ⟨key, keyGeneration endpoint (.ok key), by simp, .inr rfl⟩

end Bootstrapped

namespace Deployment

/-- The endpoint of a deployment is the active one. -/
theorem endpoint_isActive
    {Id : Type}
    (deployment : Deployment Id) :
    IsActive deployment.libraries deployment.environment
      deployment.endpoint := by
  obtain ⟨trace, runs⟩ := deployment.isActive
  exact isActive_of_getActive runs

variable {Id : Type}
  [DecidableEq Id]
  {deployment : Deployment Id}
  {state : State}
  {events : List (TaskEvent Id)}
  {last : Snapshot Id}

/-- A key that a call has shown is stored, and stays. -/
theorem stored_of_showsKey
    (run :
      Run (DeploymentStep deployment.libraries) (deployment.start state) events
        last)
    {task : Task Id}
    {nodeId : String}
    {key : SessionKey}
    {call : Call}
    (shows : showsKey nodeId key call)
    (member : .performed task call ∈ events) :
    key ∈ last.world.unboundSessionKeys nodeId := by
  obtain ⟨earlier, later, before, after, -, -, performed, trailing⟩ :=
    split_at_performed run member
  have stored : key ∈ after.world.unboundSessionKeys nodeId := by
    rcases shows with rfl | rfl
    · obtain ⟨now, isStored, unchanged⟩ := performed.performed rfl
      rw [unchanged]
      exact isStored
    · rw [(performed.performed rfl).unboundSessionKeys nodeId]
      simp [generatedKey]
  exact (world_run trailing).preserves
    (fun state => key ∈ state.unboundSessionKeys nodeId)
    (fun _ _ _ _ performed holds => performed.unboundSessionKeys holds) stored

end Deployment

/--
Once a bootstrap run has logged that it is done, whoever asks a server for the
connection parameters gets them with a key that is stored for the endpoint,
unless the key store fails.
-/
theorem parameters_served_after_bootstrap
    {Id : Type}
    [DecidableEq Id]
    {deployment : Deployment Id}
    {state : State}
    {taken later : List (TaskEvent Id)}
    {last : Snapshot Id}
    {job visitor : Id}
    {entry : LogEntry}
    {result : Except Failure ConnectionParams.DerReply}
    (run :
      Run (DeploymentStep deployment.libraries) (deployment.start state)
        (taken ++ later) last)
    (logged :
      Bootstrap.Logged deployment.libraries deployment.environment entry
        (performedBy (.bootstrap job) taken))
    (notAsked : performedBy (.visit visitor) taken = [])
    (settled : last.processes (.visit visitor) = some (.settled result)) :
    (∃ key ∈ last.world.unboundSessionKeys deployment.endpoint.id,
        result =
          .ok ⟨HttpStatusCodes.ok, ConnectionParams.derContentType,
            deployment.libraries.serializeConnectionParams
              (publishedParams deployment.endpoint key)⟩) ∨
      ∃ failure,
        .performed (.visit visitor)
            (keyCheck deployment.endpoint (.error failure)) ∈ later ∧
          result = .error failure := by
  obtain ⟨outcome, asked, rfl⟩ :=
    ConnectionParams.handler_runs_iff.mp (caller_runs run rfl settled)
  rw [performedBy_append, notAsked, List.nil_append] at asked
  obtain ⟨untilVisit, afterVisit, rfl, -, -⟩ := performedBy_eq_cons asked
  rcases outcome with failure | _ | key
  · exact .inr ⟨failure, by simp, rfl⟩
  · obtain ⟨key, call, member, shows⟩ :=
      showsKey_of_logged deployment.endpoint_isActive logged
    rw [← List.append_assoc] at run
    obtain ⟨atVisit, leading, trailing⟩ := Run.append_iff.mp run
    have stored :=
      Deployment.stored_of_showsKey leading shows
        (List.mem_append_left untilVisit (mem_performedBy_iff.mp member))
    obtain ⟨_, stepped, -⟩ := Run.cons_iff.mp trailing
    obtain ⟨_, noKeys, -⟩ := stepped.performs.performed rfl
    rw [noKeys] at stored
    cases stored
  · refine .inl ⟨key, ?_, rfl⟩
    have found :
        .performed (.visit visitor)
            (keyCheck deployment.endpoint (.ok (some key))) ∈
          taken ++
            (untilVisit ++
              .performed (.visit visitor)
                (keyCheck deployment.endpoint (.ok (some key))) ::
              afterVisit) := by
      simp
    exact Deployment.stored_of_showsKey run (.inl rfl) found

namespace Stubs

/-- A session key. -/
def sessionKey : SessionKey := ⟨[7], [7]⟩

/-- A bootstrap run that generates the key, as far as the line that it logs. -/
def bootstrapTrace : List Call :=
  [⟨.retrievePrivateKeyByRef "set", .ok ()⟩,
    keyCheck endpoint (.ok none),
    keyGeneration endpoint (.ok sessionKey)]

theorem bootstrapTrace_logged :
    Bootstrap.Logged deploymentLibraries environment Bootstrap.createdEntry
      bootstrapTrace := by
  refine ⟨bootstrapTrace, [], rfl, ?_⟩
  refine runs_await_iff.mpr ⟨.ok (), _, rfl, ?_⟩
  refine runs_await_iff.mpr ⟨.ok none, _, rfl, ?_⟩
  refine runs_await_iff.mpr ⟨.ok sessionKey, _, rfl, ?_⟩
  exact runs_settled_iff.mpr ⟨rfl, rfl⟩

/-- The stores once the key is generated. -/
def keyedStores : State :=
  State.empty.addUnboundSessionKey endpoint.id sessionKey

theorem keyLoaded_performed :
    PerformedInDeployment deployment.libraries State.empty
      ⟨.retrievePrivateKeyByRef "set", .ok ()⟩ State.empty :=
  ⟨epoch, rfl⟩

theorem keyMissing_performed :
    PerformedInDeployment deployment.libraries State.empty
      (keyCheck endpoint (.ok none)) State.empty :=
  ⟨epoch, rfl, rfl⟩

theorem keyGenerated_performed :
    PerformedInDeployment deployment.libraries State.empty
      (keyGeneration endpoint (.ok sessionKey)) keyedStores :=
  ⟨epoch, by decide, rfl⟩

theorem keyFound_performed :
    PerformedInDeployment deployment.libraries keyedStores
      (keyCheck endpoint (.ok (some sessionKey))) keyedStores :=
  ⟨epoch, by decide, rfl⟩

/-- The steps of the bootstrap run. -/
def keyGenerated : List (TaskEvent Bool) :=
  bootstrapTrace.map (.performed (.bootstrap false))

/-- Somebody asks for the key and gets it. -/
def keyServed : List (TaskEvent Bool) :=
  [.performed (.visit false) (keyCheck endpoint (.ok (some sessionKey)))]

/-- A bootstrap run generates the key, and then somebody asks for it. -/
theorem bootstrapped_run :
    ∃ last,
      Run (DeploymentStep deployment.libraries) (deployment.start State.empty)
          (keyGenerated ++ keyServed) last ∧
        last.processes (.visit false) =
          some (.settled
            (.ok ⟨HttpStatusCodes.ok, ConnectionParams.derContentType,
              sessionKey.keyId⟩)) :=
  ⟨_,
    .next (.settles rfl keyLoaded_performed)
      (.next (.settles rfl keyMissing_performed)
        (.next (.settles rfl keyGenerated_performed)
          (.next (.settles rfl keyFound_performed) (.done _)))), rfl⟩

end Stubs

/-- The visitor of the stub deployment gets the key that was generated. -/
theorem parameters_served_after_bootstrap_stubs :
    ∃ (last : Snapshot Bool) (key : SessionKey),
      Run (DeploymentStep Stubs.deployment.libraries)
          (Stubs.deployment.start State.empty)
          (Stubs.keyGenerated ++ Stubs.keyServed) last ∧
        key ∈ last.world.unboundSessionKeys Stubs.endpointId ∧
        last.processes (.visit false) =
          some (.settled
            (.ok ⟨HttpStatusCodes.ok, ConnectionParams.derContentType,
              key.keyId⟩)) := by
  obtain ⟨last, run, settled⟩ := Stubs.bootstrapped_run
  have logged :
      Bootstrap.Logged Stubs.deployment.libraries
        Stubs.deployment.environment Bootstrap.createdEntry
        (performedBy (.bootstrap false) Stubs.keyGenerated) :=
    Stubs.bootstrapTrace_logged
  rcases parameters_served_after_bootstrap run logged rfl settled with
    ⟨key, stored, served⟩ | ⟨failure, -, impossible⟩
  · refine ⟨last, key, run, stored, ?_⟩
    rw [settled, served]
    rfl
  · cases impossible

end AwalaEndpoint
