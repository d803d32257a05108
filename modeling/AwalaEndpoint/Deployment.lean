import AwalaEndpoint.Bootstrap
import AwalaEndpoint.ConnectionParams
import AwalaEndpoint.EmitterSchedules
import AwalaEndpoint.EventAcknowledgement
import AwalaEndpoint.Library.Isolation

namespace AwalaEndpoint

open Awaiting LabelledRuns

/-!
# Deployments

A deployment consists of any number of PoHTTP servers, PoHTTP clients and
bootstrap runs over the same stores.  What they do at the same time interleaves
at every operation that is awaited, any operation can fail and any process can
crash.

Each server keeps its emitter function in a memory of its own.  A deployment does
not say how many servers there are: a read of the memory returns anything, which
covers every number of them.
-/

/-- What is going on in a deployment, told apart by the ids of the tasks. -/
inductive Task (Id : Type) where
  /-- A gateway delivers a parcel to a PoHTTP server. -/
  | parcel (id : Id)
  /-- The app sends an event to a PoHTTP client. -/
  | event (id : Id)
  /-- Somebody asks a PoHTTP server for its connection parameters. -/
  | visit (id : Id)
  /-- A bootstrap run. -/
  | bootstrap (id : Id)
  deriving DecidableEq

/-- What a task resolves with. -/
@[reducible] def Task.Result {Id : Type} : Task Id → Type
  | .parcel _ => Reply
  | .event _ => Reply
  | .visit _ => ConnectionParams.DerReply
  | .bootstrap _ => Bootstrap.Report

/-- The stores of a deployment and what is left of its tasks. -/
abbrev Snapshot (Id : Type) :=
  Configuration interface (Task Id) Task.Result State

/-- A step of a deployment. -/
abbrev TaskEvent (Id : Type) :=
  PoolEvent interface (Task Id)

/--
The environment that all processes of a deployment share, the endpoint that it
makes active, and the requests that are sent to the processes.
-/
structure Deployment (Id : Type) where
  libraries : Libraries
  environment : Environment
  endpoint : InternetEndpoint
  shouldUseTls : Bool
  parcelBody : Id → Buffer
  eventRequest : Id → PostRequest
  isActive :
    ∃ trace,
      Runs (InternetEndpoint.getActive libraries environment) trace (.ok endpoint)

/-- Calls on the memory of a server. -/
def usesMemory : Call → Bool
  | ⟨.loadEmitterFunction, _⟩ => true
  | ⟨.storeEmitterFunction _, _⟩ => true
  | _ => false

/--
The contract of a call in a deployment.  Calls on the memory of a server say
nothing about the stores.
-/
def PerformedInDeployment
    (libraries : Libraries)
    (before : State)
    (call : Call)
    (after : State) : Prop :=
  if usesMemory call then
    after = before
  else
    Performed libraries before call after

/-- A step of a deployment. -/
abbrev DeploymentStep
    {Id : Type}
    [DecidableEq Id]
    (libraries : Libraries) :
    Snapshot Id → TaskEvent Id → Snapshot Id → Prop :=
  PoolStep (PerformedInDeployment libraries)

namespace Deployment

variable {Id : Type}

/-- The program of a task. -/
def program
    (deployment : Deployment Id) :
    (task : Task Id) → Promise task.Result
  | .parcel id =>
      ParcelDelivery.handler deployment.libraries deployment.endpoint
        (Emitter.init deployment.environment) (deployment.parcelBody id)
  | .event id =>
      PohttpClient.handler deployment.libraries deployment.endpoint
        deployment.shouldUseTls (deployment.eventRequest id)
  | .visit _ =>
      ConnectionParams.handler deployment.libraries deployment.endpoint
  | .bootstrap _ =>
      Bootstrap.bootstrapData deployment.libraries deployment.environment

/-- All tasks are about to start. -/
def start
    (deployment : Deployment Id)
    (state : State) : Snapshot Id :=
  .start state deployment.program

end Deployment

/-! ## What calls do to the stores of a deployment -/

section Contract

variable {libraries : Libraries}
  {before after : State}
  {call : Call}

/-- A call does what its contract says, or it is one on the memory of a server. -/
theorem PerformedInDeployment.cases
    (performed : PerformedInDeployment libraries before call after) :
    (usesMemory call = true ∧ after = before) ∨
      Performed libraries before call after := by
  unfold PerformedInDeployment at performed
  split at performed
  · next isMemory =>
      exact .inl ⟨isMemory, performed⟩
  · exact .inr performed

/-- A call that is not on the memory of a server does what its contract says. -/
theorem PerformedInDeployment.performed
    (performed : PerformedInDeployment libraries before call after)
    (notMemory : usesMemory call = false) :
    Performed libraries before call after := by
  rcases performed.cases with ⟨isMemory, -⟩ | performs
  · cases notMemory.symm.trans isMemory
  · exact performs

theorem performedInDeployment_of_performed
    (performed : Performed libraries before call after)
    (notMemory : usesMemory call = false) :
    PerformedInDeployment libraries before call after := by
  simpa [PerformedInDeployment, notMemory] using performed

theorem recordWrite_of_usesMemory
    (isMemory : usesMemory call = true)
    (peerId : String) :
    recordWrite peerId call = none := by
  cases written : recordWrite peerId call with
  | none =>
      rfl
  | some address =>
      rw [recordWrite_eq_some_iff.mp written] at isMemory
      cases isMemory

/-- The address on record changes only by an update that succeeded. -/
theorem PerformedInDeployment.gatewayOf
    (performed : PerformedInDeployment libraries before call after)
    (peerId : String) :
    after.gatewayOf peerId =
      (recordWrite peerId call).or (before.gatewayOf peerId) := by
  rcases performed.cases with ⟨isMemory, rfl⟩ | performs
  · simp [recordWrite_of_usesMemory isMemory]
  · exact performs.write.gatewayOf peerId

/-- No call removes the identity key of a peer. -/
theorem PerformedInDeployment.hasIdentityKey
    (performed : PerformedInDeployment libraries before call after)
    {peerId : String}
    (present : before.HasIdentityKey peerId) :
    after.HasIdentityKey peerId := by
  rcases performed.cases with ⟨-, rfl⟩ | performs
  · exact present
  · exact performs.hasIdentityKey present

/-- No call removes an authorisation of a peer. -/
theorem PerformedInDeployment.mem_deliveryAuths
    (performed : PerformedInDeployment libraries before call after)
    {peerId : String}
    {deliveryAuth : CertificationPath}
    (stored : deliveryAuth ∈ before.deliveryAuths peerId) :
    deliveryAuth ∈ after.deliveryAuths peerId := by
  rcases performed.cases with ⟨-, rfl⟩ | performs
  · exact stored
  · exact performs.mem_deliveryAuths stored

/-- Unbound keys are only ever added. -/
theorem PerformedInDeployment.unboundSessionKeys
    (performed : PerformedInDeployment libraries before call after)
    {nodeId : String}
    {key : SessionKey}
    (stored : key ∈ before.unboundSessionKeys nodeId) :
    key ∈ after.unboundSessionKeys nodeId := by
  rcases performed.cases with ⟨-, rfl⟩ | performs
  · exact stored
  · rw [performs.unboundSessionKeys nodeId]
    exact List.mem_append_left _ stored

/-- A run of calls that are not on the memory of a server is one in a deployment. -/
theorem performedInDeployment_run
    {calls : List Call}
    (run : Run (Performed libraries) before calls after)
    (notMemory : ∀ call ∈ calls, usesMemory call = false) :
    Run (PerformedInDeployment libraries) before calls after :=
  run.mono fun _ call _ member performed =>
    performedInDeployment_of_performed performed (notMemory call member)

end Contract

section Runs

variable {libraries : Libraries}
  {first last : State}
  {calls : List Call}

/-- In a deployment, too, the address on record is that of the last update. -/
theorem gatewayOf_deployment
    (run : Run (PerformedInDeployment libraries) first calls last)
    (peerId : String) :
    last.gatewayOf peerId =
      (lastWrite (recordWrite peerId) calls).or (first.gatewayOf peerId) :=
  run.register fun _ _ _ _ performed => performed.gatewayOf peerId

/-- An address that is on record without having been there was put there by an update. -/
theorem updated_of_gatewayOf
    (run : Run (PerformedInDeployment libraries) first calls last)
    {peerId address : String}
    (notBefore : first.gatewayOf peerId = none)
    (onRecord : last.gatewayOf peerId = some address) :
    ⟨.updateOne peerId address, .ok ()⟩ ∈ calls := by
  rw [gatewayOf_deployment run peerId, notBefore, Option.or_none,
    lastWrite_eq_some_iff] at onRecord
  obtain ⟨earlier, call, later, rfl, wrote, -⟩ := onRecord
  rw [recordWrite_eq_some_iff.mp wrote]
  simp

end Runs

/-! ## Traces of tasks -/

namespace ParcelDelivery

/-- The parcel of a request passed the checks among these calls and was decrypted. -/
structure Checked
    (libraries : Libraries)
    (endpoint : InternetEndpoint)
    (body : Buffer)
    (calls : List Call)
    (parcel : Parcel)
    (serviceMessage : ServiceMessage) : Prop where
  deserialized : libraries.deserializeParcel body = .ok parcel
  validated : ⟨.validateMessage parcel, .ok ()⟩ ∈ calls
  addressed : parcel.recipient.internetAddress = some endpoint.internetAddress
  decrypted : ⟨.unwrapPayload parcel, .ok serviceMessage⟩ ∈ calls

/-- Checks that were passed stay passed. -/
theorem Checked.extend
    {libraries : Libraries}
    {endpoint : InternetEndpoint}
    {body : Buffer}
    {calls : List Call}
    {parcel : Parcel}
    {serviceMessage : ServiceMessage}
    (checked :
      Checked libraries endpoint body calls parcel serviceMessage)
    (more : List Call) :
    Checked libraries endpoint body (calls ++ more) parcel serviceMessage where
  deserialized := checked.deserialized
  validated := List.mem_append_left more checked.validated
  addressed := checked.addressed
  decrypted := List.mem_append_left more checked.decrypted

/-- Calls that check a parcel. -/
def checksParcel : Call → Bool
  | ⟨.validateMessage _, _⟩ => true
  | ⟨.unwrapPayload _, _⟩ => true
  | _ => false

variable {libraries : Libraries}
  {endpoint : InternetEndpoint}
  {emitter : Emitter}
  {body : Buffer}
  {earlier later : List Call}
  {call : Call}
  {reply : Except Failure Reply}

/-- Before the checks are over, a request does nothing else. -/
theorem DeliveryRun.checked
    (run :
      DeliveryRun libraries endpoint emitter body
        (earlier ++ call :: later) reply)
    (notACheck : checksParcel call = false) :
    ∃ parcel serviceMessage processing,
      earlier = checks parcel serviceMessage ++ processing ∧
        Checked libraries endpoint body earlier parcel serviceMessage ∧
        MessageRun libraries emitter parcel serviceMessage
          (processing ++ call :: later) reply := by
  generalize shape : earlier ++ call :: later = trace at run
  have absent (leading : List Call)
      (allChecks : ∀ other ∈ leading, checksParcel other = true) :
      call ∉ leading := by
    intro member
    cases notACheck.symm.trans (allChecks call member)
  cases run with
  | malformedParcel =>
      simp at shape
  | invalidParcel parcel outcome =>
      refine absurd ?_ (absent [⟨.validateMessage parcel, outcome⟩]
        (by simp [checksParcel]))
      rw [← shape]
      simp
  | undecrypted parcel failure =>
      refine absurd ?_ (absent
        [⟨.validateMessage parcel, .ok ()⟩,
          ⟨.unwrapPayload parcel, .error failure⟩]
        (by simp [checksParcel]))
      rw [← shape]
      simp
  | processed parcel serviceMessage processing _ deserialized addressed run =>
      obtain ⟨middle, rfl, rfl⟩ :=
        split_after
          (absent (checks parcel serviceMessage) (by simp [checks, checksParcel]))
          shape.symm
      exact ⟨parcel, serviceMessage, middle, rfl,
        ⟨deserialized, by simp [checks], addressed, by simp [checks]⟩, run⟩

end ParcelDelivery

/-! ## Which tasks make which calls -/

/-- The operations that the tasks of each kind await. -/
def Task.mayAwait {Id : Type} : Task Id → Operation → Bool
  | .parcel _, .validateMessage _ => true
  | .parcel _, .unwrapPayload _ => true
  | .parcel _, .savePrivateEndpointChannel _ => true
  | .parcel _, .updateOne _ _ => true
  | .parcel _, .loadEmitterFunction => true
  | .parcel _, .makeEmitter _ => true
  | .parcel _, .storeEmitterFunction _ => true
  | .parcel _, .callEmitterFunction _ _ => true
  | .event _, .findOne _ => true
  | .event _, .getChannel _ _ => true
  | .event _, .makeMessage _ _ _ => true
  | .event _, .deliverParcel _ _ _ => true
  | .visit _, .retrieveUnboundSessionPublicKey _ => true
  | .bootstrap _, .retrievePrivateKeyByRef _ => true
  | .bootstrap _, .retrieveUnboundSessionPublicKey _ => true
  | .bootstrap _, .generateSessionKey _ => true
  | .bootstrap _, .closeConnection => true
  | _, _ => false

section Kinds

variable {Id : Type}
  {id : Id}
  {libraries : Libraries}
  {trace : List Call}

theorem mayAwait_of_delivery
    {endpoint : InternetEndpoint}
    {emitter : Emitter}
    {body : Buffer}
    {reply : Except Failure Reply}
    (run : ParcelDelivery.DeliveryRun libraries endpoint emitter body trace reply) :
    ∀ call ∈ trace, (Task.parcel id).mayAwait call.operation = true := by
  cases run with
  | malformedParcel =>
      simp
  | invalidParcel =>
      simp [Task.mayAwait]
  | undecrypted =>
      simp [Task.mayAwait]
  | processed parcel serviceMessage processing _ _ _ run =>
      have inProcessing :
          ∀ call ∈ processing,
            (Task.parcel id).mayAwait call.operation = true := by
        cases run with
        | malformedParams =>
            simp
        | channel connectionParams _ _ _ _ saving =>
            cases saveChannel_steps saving <;>
              simp [keysSave, recordUpdate, Task.mayAwait]
        | refusedEvent =>
            simp
        | event event _ _ _ _ emitting =>
            exact (emit_runs emitting).all
              (fun call => (Task.parcel id).mayAwait call.operation = true)
              (fun _ => rfl) (fun _ _ => rfl) (fun _ _ => rfl) (fun _ _ => rfl)
      intro call member
      rcases List.mem_append.mp member with isCheck | later
      · have inChecks :
            ∀ other ∈ ParcelDelivery.checks parcel serviceMessage,
              (Task.parcel id).mayAwait other.operation = true := by
          simp [ParcelDelivery.checks, Task.mayAwait]
        exact inChecks call isCheck
      · exact inProcessing call later

theorem mayAwait_of_lookup
    {peerId : String}
    {result : Except Failure (Option InternetPrivateEndpointChannel)}
    (run : LookupRun peerId trace result) :
    ∀ call ∈ trace, (Task.event id).mayAwait call.operation = true := by
  cases run <;> simp [Task.mayAwait]

theorem mayAwait_of_post
    {endpoint : InternetEndpoint}
    {shouldUseTls : Bool}
    {request : PostRequest}
    {reply : Except Failure Reply}
    (run :
      PohttpClient.PostRun libraries endpoint shouldUseTls request trace reply) :
    ∀ call ∈ trace, (Task.event id).mayAwait call.operation = true := by
  cases run with
  | malformedEvent =>
      simp
  | unknownSender =>
      simp
  | refusedEvent =>
      simp
  | accepted event messageOptions _ _ _ _ _ sending =>
      cases sending with
      | lookupFailed _ failure lookup =>
          exact mayAwait_of_lookup lookup
      | unknownPeer _ lookup =>
          exact mayAwait_of_lookup lookup
      | unmade looking channel failure lookup =>
          have inLookup :
              ∀ call ∈ looking, (Task.event id).mayAwait call.operation = true :=
            mayAwait_of_lookup lookup
          simpa [or_imp, forall_and, PohttpClient.parcelMade, Task.mayAwait]
            using inLookup
      | attempted looking channel parcelSerialised outcome lookup =>
          have inLookup :
              ∀ call ∈ looking, (Task.event id).mayAwait call.operation = true :=
            mayAwait_of_lookup lookup
          simpa [or_imp, forall_and, PohttpClient.parcelMade,
            PohttpClient.parcelDelivered, Task.mayAwait] using inLookup

theorem mayAwait_of_loading
    {call : Call}
    (loads : Bootstrap.LoadsIdentityKey call) :
    (Task.bootstrap id).mayAwait call.operation = true := by
  obtain ⟨keyRef, isLoading⟩ := loads
  rw [isLoading]
  rfl

theorem mayAwait_of_keyMaking
    {environment : Environment}
    {remaining : Promise LogEntry}
    (steps :
      Steps (Bootstrap.makeInitialSessionKey libraries environment) trace
        remaining) :
    ∀ call ∈ trace, (Task.bootstrap id).mayAwait call.operation = true := by
  rcases Bootstrap.makeInitialSessionKey_steps steps with
    loading | ⟨endpoint, earlier, later, made, rfl, loading, progress, -⟩
  · exact fun call member => mayAwait_of_loading (loading call member)
  · have inLater :
        ∀ call ∈ later, (Task.bootstrap id).mayAwait call.operation = true := by
      cases progress <;> simp [keyCheck, keyGeneration, Task.mayAwait]
    intro call member
    rcases List.mem_append.mp member with early | late
    · exact mayAwait_of_loading (loading call early)
    · exact inLater call late

theorem mayAwait_of_bootstrap
    {environment : Environment}
    {remaining : Promise Bootstrap.Report}
    (steps :
      Steps (Bootstrap.bootstrapData libraries environment) trace remaining) :
    ∀ call ∈ trace, (Task.bootstrap id).mayAwait call.operation = true := by
  rcases Bootstrap.bootstrapData_steps steps with
    ⟨_, making⟩ | ⟨made, earlier, later, rfl, making, closing⟩
  · exact mayAwait_of_keyMaking making
  · intro call member
    rcases List.mem_append.mp member with early | late
    · exact mayAwait_of_keyMaking making call early
    · rw [closing call late]
      rfl

end Kinds

namespace Deployment

variable {Id : Type}
  [DecidableEq Id]
  {deployment : Deployment Id}
  {state : State}
  {events taken later : List (TaskEvent Id)}
  {last : Snapshot Id}
  {id : Id}

/--
What a task has done so far is the beginning of a run of its program, for example
of one in which all further calls fail.
-/
theorem completes
    (run :
      Run (DeploymentStep deployment.libraries) (deployment.start state) events
        last)
    (task : Task Id) :
    ∃ rest result,
      Runs (deployment.program task) (performedBy task events ++ rest)
          result ∧
        ∀ call ∈ rest, call.outcome = .error (Failure.unavailable "") := by
  have started :
      (deployment.start state).processes task =
        some (deployment.program task) :=
    rfl
  obtain ⟨_, steps, -⟩ := caller_steps run started
  exact exists_runs_of_steps (Failure.unavailable "") steps

/-- The calls a task made before one of its steps, that step and what comes next. -/
theorem completes_at
    (run :
      Run (DeploymentStep deployment.libraries) (deployment.start state) events
        last)
    {task : Task Id}
    {call : Call}
    (shape : events = taken ++ .performed task call :: later) :
    ∃ rest result,
      Runs (deployment.program task)
        (performedBy task taken ++ call :: (performedBy task later ++ rest))
        result := by
  obtain ⟨rest, result, runs, -⟩ := completes run task
  rw [shape, performedBy_append, performedBy_cons_same, List.append_assoc]
    at runs
  exact ⟨rest, result, runs⟩

/-- Every step of a task settles an operation that tasks of its kind await. -/
theorem mayAwait_of_performed
    (run :
      Run (DeploymentStep deployment.libraries) (deployment.start state) events
        last)
    {task : Task Id}
    {call : Call}
    (member : .performed task call ∈ events) :
    task.mayAwait call.operation = true := by
  obtain ⟨rest, result, runs, -⟩ := completes run task
  have made : call ∈ performedBy task events ++ rest :=
    List.mem_append_left rest (mem_performedBy_iff.mpr member)
  cases task with
  | parcel id =>
      exact mayAwait_of_delivery (ParcelDelivery.handler_runs runs) call made
  | event id =>
      exact mayAwait_of_post (PohttpClient.handler_runs runs) call made
  | visit id =>
      obtain ⟨outcome, rfl⟩ := ConnectionParams.handler_steps runs call made
      rfl
  | bootstrap id =>
      exact mayAwait_of_bootstrap runs call made

/-- The calls a parcel made before one that is no check, when there is one. -/
theorem parcelChecked
    (run :
      Run (DeploymentStep deployment.libraries) (deployment.start state) events
        last)
    {call : Call}
    (shape : events = taken ++ .performed (.parcel id) call :: later)
    (notACheck : ParcelDelivery.checksParcel call = false) :
    ∃ parcel serviceMessage processing rest reply,
      performedBy (.parcel id) taken =
          ParcelDelivery.checks parcel serviceMessage ++ processing ∧
        ParcelDelivery.Checked deployment.libraries deployment.endpoint
          (deployment.parcelBody id) (performedBy (.parcel id) taken) parcel
          serviceMessage ∧
        ParcelDelivery.MessageRun deployment.libraries
          (Emitter.init deployment.environment) parcel serviceMessage
          (processing ++ call :: rest) reply := by
  obtain ⟨_, reply, runs⟩ := completes_at run shape
  obtain ⟨parcel, serviceMessage, processing, shape, checked, processes⟩ :=
    (ParcelDelivery.handler_runs runs).checked notACheck
  exact ⟨parcel, serviceMessage, processing, _, reply, shape, checked,
    processes⟩

end Deployment

namespace Stubs

/-- Libraries that know the parcels of the route, one event and the given dates. -/
def appLibraries
    (event : CloudEvent)
    (dates : String → Date) : Libraries :=
  { routeLibraries with
    convertMessageToEvent _ := .ok event
    newDate := dates
    parseISO := dates }

/-- Libraries that know the parcels of the route and the stub event. -/
def deploymentLibraries : Libraries :=
  appLibraries (outgoingEvent "epoch" "later") dates

/-- A deployment in which two parcels arrive, and an event twice. -/
def deploymentOf
    (event : CloudEvent)
    (dates : String → Date) : Deployment Bool where
  libraries := appLibraries event dates
  environment := environment
  endpoint := endpoint
  shouldUseTls := true
  parcelBody isNewer := if isNewer then [1] else [0]
  eventRequest _ := request
  isActive :=
    ⟨[⟨.retrievePrivateKeyByRef "set", .ok ()⟩],
      runs_await_iff.mpr ⟨.ok (), [], rfl, runs_settled_iff.mpr ⟨rfl, rfl⟩⟩⟩

/-- The deployment with the stub event. -/
def deployment : Deployment Bool :=
  deploymentOf (outgoingEvent "epoch" "later") dates

/-- The peer's older parcel is stored. -/
def parcelStored : List (TaskEvent Bool) :=
  (ParcelDelivery.stubDelivery [0] olderParcel peerAddress 0).trace.map
    (.performed (.parcel false))

/-- The stores once the peer's older parcel is stored. -/
def storedState : State :=
  ParcelDelivery.storedState deploymentLibraries State.empty
    (connectionParams peerAddress 0)

/-- The older parcel is stored first, whatever event the app sends. -/
theorem parcelStored_first
    (event : CloudEvent)
    (dates : String → Date) :
    ∃ reply,
      Run (DeploymentStep (deploymentOf event dates).libraries)
        ((deploymentOf event dates).start State.empty) parcelStored
        ⟨storedState,
          Function.update
            (fun task => some ((deploymentOf event dates).program task))
            (.parcel false) (some (.settled reply))⟩ := by
  have handles :
      ParcelDelivery.Handles (appLibraries event dates) endpoint
        (Emitter.init environment) State.empty
        (ParcelDelivery.stubDelivery [0] olderParcel peerAddress 0)
        storedState :=
    ParcelDelivery.handles_storedDelivery State.empty rfl rfl rfl rfl rfl
  refine ⟨_, run_alone handles.1 (performedInDeployment_run handles.2 ?_) rfl⟩
  decide

theorem parcelStored_run :
    ∃ reply,
      Run (DeploymentStep deployment.libraries) (deployment.start State.empty)
        parcelStored
        ⟨storedState,
          Function.update (fun task => some (deployment.program task))
            (.parcel false) (some (.settled reply))⟩ :=
  parcelStored_first (outgoingEvent "epoch" "later") dates

/-- An event for the peer is delivered to its gateway. -/
def eventDelivered (isSecond : Bool) : List (TaskEvent Bool) :=
  (PohttpClient.stubTrace (.ok ())).map (.performed (.event isSecond))

theorem eventDelivered_run
    {processes :
      (task : Task Bool) → Option (Promise task.Result)}
    (isSecond : Bool)
    (awaits :
      processes (.event isSecond) =
        some (deployment.program (.event isSecond))) :
    ∃ reply,
      Run (DeploymentStep deployment.libraries) ⟨storedState, processes⟩
        (eventDelivered isSecond)
        ⟨storedState,
          Function.update processes (.event isSecond)
            (some (.settled reply))⟩ := by
  have channelFound :
      storedState.MayFind epoch peerId peerAddress
        (some PohttpClient.stubChannel) := by
    decide
  have performed :
      Run (Performed deploymentLibraries) storedState
        (PohttpClient.stubTrace (.ok ())) storedState :=
    .next ⟨epoch, rfl, rfl⟩ (.next ⟨epoch, channelFound, rfl⟩
      (.next ⟨epoch, rfl⟩ (.next ⟨epoch, rfl⟩ (.done _))))
  have runs :
      Runs (deployment.program (.event isSecond))
        (PohttpClient.stubTrace (.ok ()))
        (.ok (PohttpClient.deliveryReply (.ok ()))) := by
    refine runs_await_iff.mpr ⟨_, _, rfl, ?_⟩
    refine runs_await_iff.mpr ⟨_, _, rfl, ?_⟩
    refine runs_await_iff.mpr ⟨_, _, rfl, ?_⟩
    refine runs_await_iff.mpr ⟨_, _, rfl, ?_⟩
    exact runs_settled_iff.mpr ⟨rfl, rfl⟩
  refine ⟨_, run_alone runs (performedInDeployment_run performed ?_) awaits⟩
  decide

/-- A parcel is stored and then an event is delivered. -/
theorem deployment_run :
    ∃ last,
      Run (DeploymentStep deployment.libraries) (deployment.start State.empty)
        (parcelStored ++ eventDelivered false) last := by
  obtain ⟨reply, stored⟩ := parcelStored_run
  have awaits :
      Function.update (fun task => some (deployment.program task))
          (.parcel false) (some (.settled reply)) (.event false) =
        some (deployment.program (.event false)) :=
    rfl
  obtain ⟨_, delivered⟩ := eventDelivered_run false awaits
  exact ⟨_, stored.append delivered⟩

end Stubs

end AwalaEndpoint
