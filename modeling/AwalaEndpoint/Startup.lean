import AwalaEndpoint.IdentityKey
import AwalaEndpoint.Library.Reliable
import AwalaEndpoint.ParametersAvailability

namespace AwalaEndpoint

open Awaiting LabelledRuns

/-!
# Starting the servers

The PoHTTP server and client are set up from the same environment that the
bootstrap script reads.  A deployment runs the script first, so an environment in
which it got to the initial session key should be one in which the servers start.
-/

/-- The operations that the start of a server needs beyond those of the endpoint. -/
inductive StartupOperation where
  /-- `makeReceiver` of the CloudEvents transport. -/
  | makeReceiver (transport : String)
  /-- `server.ready()`. -/
  | ready
  /-- `fastifyInstance.listen()`. -/
  | listen (host : String) (port : Nat)
  deriving DecidableEq

/-- What these operations resolve with. -/
@[reducible] def StartupOperation.Answer : StartupOperation → Type
  | .makeReceiver _ => Unit
  | .ready => Unit
  | .listen _ _ => Unit

/-- The operations of the endpoint, in detail, with those of starting a server. -/
abbrev startupInterface : Interface :=
  detailedInterface.extend StartupOperation StartupOperation.Answer

/-- The result of a function that takes part in starting a server. -/
abbrev StartupPromise (Result : Type) : Type :=
  Program startupInterface Result

/-- The functions of third-party libraries that only the start of a server needs. -/
structure ServerLibraries extends Libraries where
  /-- `asBool` of `env-var`, for the variable with the given name. -/
  asBool : (name value : String) → Except Failure Bool
  /-- `MAX_RAMF_MESSAGE_LENGTH`. -/
  maxRamfMessageLength : Nat
  /-- `MAX_SDU_PLAINTEXT_LENGTH`. -/
  maxSduPlaintextLength : Nat

/-- A server that is ready, with what its application plugin has set up. -/
structure Server (Application : Type) where
  activeEndpoint : InternetEndpoint
  trustProxy : Bool
  requestIdHeader : String
  bodyLimit : Nat
  application : Application

namespace Startup

def serverPort : Nat := 8080

def serverHost : String := "0.0.0.0"

def defaultRequestIdHeader : String := "X-Request-Id"

/-- Await one of the operations of starting a server. -/
def performStartup
    (operation : StartupOperation) : StartupPromise operation.Answer :=
  @Program.perform startupInterface (.inr operation)

/-- Every operation of the endpoint is one of starting a server. -/
def inclusion :
    Implementation detailedInterface StartupOperation StartupOperation.Answer :=
  fun operation => @Program.perform startupInterface (.inl operation)

/-- `fastifyActiveEndpoint`, which finds out what the active endpoint is. -/
def fastifyActiveEndpoint
    (libraries : Libraries)
    (environment : Environment) : StartupPromise InternetEndpoint :=
  ((InternetEndpoint.getActive libraries environment).expand
    (implementation environment)).expand inclusion

/-- Set up a server: the plugins that all servers have, and then its application. -/
def makeFastify
    {Application : Type}
    (libraries : Libraries)
    (environment : Environment)
    (appPlugin : StartupPromise Application)
    (bodyLimit : Nat) : StartupPromise (Server Application) := do
  .settled (Bootstrap.makeLogger environment)
  .settled (Bootstrap.createMongooseConnectionFromEnv environment)
  let activeEndpoint ← fastifyActiveEndpoint libraries environment
  let application ← appPlugin
  performStartup .ready
  return {
    activeEndpoint := activeEndpoint
    trustProxy := true
    requestIdHeader :=
      ((environment "REQUEST_ID_HEADER").getD defaultRequestIdHeader).toLower
    bodyLimit := bodyLimit
    application := application
  }

/-- The plugin of the PoHTTP server, whose routes share an emitter. -/
def makePohttpServerPlugin (environment : Environment) : StartupPromise Emitter :=
  return Emitter.init environment

/-- Whether gateways must use TLS, which they must unless the environment says otherwise. -/
def tlsRequired
    (libraries : ServerLibraries)
    (environment : Environment) : Except Failure Bool :=
  libraries.asBool "POHTTP_TLS_REQUIRED"
    ((environment "POHTTP_TLS_REQUIRED").getD "true")

/-- The plugin of the PoHTTP client, which needs to receive events from the app. -/
def makePohttpClientPlugin
    (libraries : ServerLibraries)
    (environment : Environment) : StartupPromise Bool := do
  let shouldUseTls ← .settled (tlsRequired libraries environment)
  let transport := (environment "CE_TRANSPORT").getD defaultTransport
  performStartup (.makeReceiver transport)
  return shouldUseTls

def makePohttpServer
    (libraries : ServerLibraries)
    (environment : Environment) : StartupPromise (Server Emitter) :=
  makeFastify libraries.toLibraries environment
    (makePohttpServerPlugin environment) libraries.maxRamfMessageLength

def makePohttpClient
    (libraries : ServerLibraries)
    (environment : Environment) : StartupPromise (Server Bool) :=
  makeFastify libraries.toLibraries environment
    (makePohttpClientPlugin libraries environment)
    libraries.maxSduPlaintextLength

/-- Have a server listen; the result is the server that does. -/
def runFastify
    {Application : Type}
    (makeServer : StartupPromise (Server Application)) :
    StartupPromise (Server Application) := do
  let server ← makeServer
  performStartup (.listen serverHost serverPort)
  return server

/-! ## The configuration of a process -/

variable {libraries : Libraries}
  {environment : Environment}
  {endpoint : InternetEndpoint}

/-- The environment has all that it takes to act as the endpoint. -/
structure Configured
    (libraries : Libraries)
    (environment : Environment)
    (endpoint : InternetEndpoint) : Prop where
  logger : Bootstrap.makeLogger environment = .ok ()
  database : Bootstrap.createMongooseConnectionFromEnv environment = .ok ()
  keyRef :
    ∃ keyRef, environment.required "ACTIVE_ID_KEY_REF" = .ok keyRef
  kmsAdapter :
    ∃ adapter, environment.required "KMS_ADAPTER" = .ok adapter
  isActive : IsActive libraries environment endpoint
  keyStores : initKeyStoreSet libraries environment = .ok ()

theorem performKms_reliable
    (operation : KmsOperation) :
    Reliable (performKms operation) fun _ => True :=
  .perform _

theorem performStartup_reliable
    (operation : StartupOperation) :
    Reliable (performStartup operation) fun _ => True :=
  .perform _

/-- With an adapter, a provider is there unless a call fails. -/
theorem getKmsProvider_reliable
    {adapter : String}
    (hasAdapter : environment.required "KMS_ADAPTER" = .ok adapter) :
    Reliable (getKmsProvider environment) fun _ => True := by
  unfold getKmsProvider
  rw [hasAdapter]
  apply (performKms_reliable .loadCachedProvider).bind
  intro cached _
  cases cached with
  | some provider =>
      exact .resolved trivial
  | none =>
      apply (performKms_reliable (.initKmsProviderFromEnv adapter)).bind
      intro provider _
      apply (performKms_reliable (.storeCachedProvider provider)).bind
      intro _ _
      exact .resolved trivial

/-- With an adapter, a key is retrieved unless a call fails. -/
theorem retrieveWithKms_reliable
    {adapter : String}
    (hasAdapter : environment.required "KMS_ADAPTER" = .ok adapter)
    (ref : Buffer) :
    Reliable (retrieveWithKms environment ref) fun _ => True := by
  have initialised : Reliable (Kms.init environment) fun _ => True :=
    (getKmsProvider_reliable hasAdapter).bind fun _ _ => .resolved trivial
  apply initialised.bind
  intro kms _
  exact performKms_reliable _

/-- So does every operation of the endpoint. -/
theorem implementation_reliable
    {adapter : String}
    (hasAdapter : environment.required "KMS_ADAPTER" = .ok adapter)
    (operation : Operation) :
    Reliable (implementation environment operation) fun _ => True := by
  rcases retrieves_or_other operation with ⟨keyRef, rfl⟩ | isOther
  · exact retrieveWithKms_reliable hasAdapter _
  · rw [implementation_of_other isOther]
    exact .perform _

/-- In a configured process, the active endpoint is found unless a call fails. -/
theorem getActive_reliable
    (configured : Configured libraries environment endpoint) :
    Reliable (InternetEndpoint.getActive libraries environment)
      fun found => found = endpoint := by
  obtain ⟨keyRef, hasKeyRef⟩ := configured.keyRef
  have retrieves :
      Reliable (retrieveIdentityPrivateKeyRef environment)
        fun _ => True := by
    unfold retrieveIdentityPrivateKeyRef
    rw [hasKeyRef]
    exact .perform _
  apply retrieves.bind
  intro _ _
  rw [configured.isActive.identityPublicKey, configured.isActive.internetAddress,
    configured.keyStores]
  apply Reliable.resolved
  rw [← configured.isActive.id]

theorem fastifyActiveEndpoint_reliable
    (configured : Configured libraries environment endpoint) :
    Reliable (fastifyActiveEndpoint libraries environment)
      fun found => found = endpoint := by
  obtain ⟨adapter, hasAdapter⟩ := configured.kmsAdapter
  apply Reliable.expand
  · exact (getActive_reliable configured).expand
      (implementation_reliable hasAdapter)
  · exact fun operation => .perform _

/-- In a configured process, a server starts unless a call or its application fails. -/
theorem runFastify_reliable
    {Application : Type}
    {appPlugin : StartupPromise Application}
    {Applies : Application → Prop}
    (configured : Configured libraries environment endpoint)
    (applies : Reliable appPlugin Applies)
    (bodyLimit : Nat) :
    Reliable
      (runFastify (makeFastify libraries environment appPlugin bodyLimit))
      fun server =>
        server.activeEndpoint = endpoint ∧ Applies server.application := by
  have makes :
      Reliable (makeFastify libraries environment appPlugin bodyLimit)
        fun server =>
          server.activeEndpoint = endpoint ∧ Applies server.application := by
    unfold makeFastify
    rw [configured.logger, configured.database]
    apply (fastifyActiveEndpoint_reliable configured).bind
    intro activeEndpoint isEndpoint
    apply applies.bind
    intro application isApplied
    apply (performStartup_reliable .ready).bind
    intro _ _
    exact .resolved ⟨isEndpoint, isApplied⟩
  apply makes.bind
  intro server started
  apply (performStartup_reliable (.listen serverHost serverPort)).bind
  intro _ _
  exact .resolved started

/-! ## What a process that got going shows -/

/-- A key can only be retrieved when there is an adapter. -/
theorem kmsAdapter_of_retrieved
    {ref : Buffer}
    {trace : List DetailedCall}
    (runs : Runs (retrieveWithKms environment ref) trace (.ok ())) :
    ∃ adapter, environment.required "KMS_ADAPTER" = .ok adapter := by
  unfold retrieveWithKms Kms.init getKmsProvider at runs
  cases isSet : environment.required "KMS_ADAPTER" with
  | ok adapter =>
      exact ⟨adapter, rfl⟩
  | error failure =>
      rw [isSet] at runs
      obtain ⟨-, impossible⟩ := runs_settled_iff.mp runs
      cases impossible

/-- A call of the original program that settled was carried out like that. -/
theorem carriedOut_of_mem
    {calls : List Call}
    {trace : List DetailedCall}
    {operation : Operation}
    {outcome : Except Failure operation.Answer}
    (expands : Expands (implementation environment) calls trace)
    (member : (⟨operation, outcome⟩ : Call) ∈ calls) :
    ∃ part,
      Runs (implementation environment operation) part outcome ∧
        ∀ call ∈ part, call ∈ trace := by
  induction expands with
  | nil =>
      cases member
  | @cons _ _ rest part later carriedOut _ inductionHypothesis =>
      rcases List.mem_cons.mp member with isFirst | isLater
      · cases isFirst
        exact ⟨part, carriedOut, fun call => List.mem_append_left later⟩
      · obtain ⟨further, ran, inLater⟩ := inductionHypothesis isLater
        exact ⟨further, ran, fun call inPart =>
          List.mem_append_right part (inLater call inPart)⟩

/-- Finding the active endpoint takes most of the configuration. -/
theorem configured_of_getActive
    {calls : List Call}
    {trace : List DetailedCall}
    (logger : Bootstrap.makeLogger environment = .ok ())
    (database : Bootstrap.createMongooseConnectionFromEnv environment = .ok ())
    (expands : Expands (implementation environment) calls trace)
    {earlier later : List Call}
    (runs :
      Runs (InternetEndpoint.getActive libraries environment) earlier
        (.ok endpoint))
    (shape : calls = earlier ++ later) :
    Configured libraries environment endpoint := by
  have isActive := isActive_of_getActive runs
  rcases runs_bind_iff.mp runs with
    ⟨_, -, impossible⟩ | ⟨_, loading, rest, rfl, retrieving, reading⟩
  · cases impossible
  · obtain ⟨keyRef, hasKeyRef, retrieved⟩ := runs_settled_bind retrieving
    have isCall := runs_perform_iff.mp retrieved
    obtain ⟨part, ran, -⟩ :=
      carriedOut_of_mem expands
        (show (⟨.retrievePrivateKeyByRef keyRef, .ok ()⟩ : Call) ∈ calls by
          simp [shape, isCall])
    obtain ⟨_, -, addressing⟩ := runs_settled_bind reading
    obtain ⟨_, -, storing⟩ := runs_settled_bind addressing
    obtain ⟨_, keyStores, -⟩ := runs_settled_bind storing
    exact ⟨logger, database, ⟨keyRef, hasKeyRef⟩, kmsAdapter_of_retrieved ran,
      isActive, keyStores⟩

/-- A run that made sure that there is a key looked for it. -/
theorem checked_of_resolved
    {trace : List Call}
    {entry : LogEntry}
    (runs :
      Runs
        (do
          let wasKeyCreated ← endpoint.makeInitialSessionKeyIfMissing
          return Bootstrap.keyEntry wasKeyCreated)
        trace (.ok entry)) :
    ∃ found, keyCheck endpoint (.ok found) ∈ trace := by
  obtain ⟨checked, rest, rfl, afterCheck⟩ := runs_await_iff.mp runs
  cases checked with
  | error failure =>
      obtain ⟨-, impossible⟩ := runs_settled_iff.mp afterCheck
      cases impossible
  | ok found =>
      exact ⟨found, List.mem_cons_self⟩

/-- A bootstrap run that logged something looked for the key of the active endpoint. -/
theorem configured_of_bootstrap
    {trace : List DetailedCall}
    {report : Bootstrap.Report}
    (bootstrapped :
      Runs
        ((Bootstrap.bootstrapData libraries environment).expand
          (implementation environment))
        trace (.ok report))
    (logged : report.logged ≠ []) :
    ∃ endpoint found,
      Configured libraries environment endpoint ∧
        ⟨.inl (.retrieveUnboundSessionPublicKey endpoint.id), .ok found⟩ ∈
          trace := by
  obtain ⟨calls, expands, runs⟩ := runs_expand_iff.mp bootstrapped
  obtain ⟨_, logger, connecting⟩ := runs_settled_bind runs
  obtain ⟨_, database, -⟩ := runs_settled_bind connecting
  obtain ⟨made, closed, earlier, shape, making, rfl⟩ :=
    Bootstrap.bootstrapData_resolves runs
  cases made with
  | error failure =>
      exact absurd rfl logged
  | ok entry =>
      rcases runs_bind_iff.mp making with
        ⟨_, -, impossible⟩ | ⟨endpoint, loading, rest, rfl, finding, keyMaking⟩
      · cases impossible
      · have configured :=
          configured_of_getActive logger database expands finding
            (shape.trans (List.append_assoc loading rest _))
        obtain ⟨found, checked⟩ := checked_of_resolved keyMaking
        obtain ⟨part, ran, inTrace⟩ :=
          carriedOut_of_mem expands
            (show keyCheck endpoint (.ok found) ∈ calls by
              simp [shape, checked])
        have isPart := runs_perform_iff.mp ran
        refine ⟨endpoint, found, configured, inTrace _ ?_⟩
        rw [isPart]
        exact List.mem_singleton_self _

/-- A program that goes on after a first part has resolved when the first part has. -/
theorem resolved_of_bind
    {First Second : Type}
    {program : StartupPromise First}
    {next : First → StartupPromise Second}
    {trace : List (Completed startupInterface)}
    {value : Second}
    (runs : Runs (program >>= next) trace (.ok value)) :
    ∃ first earlier later,
      Runs program earlier (.ok first) ∧ Runs (next first) later (.ok value) := by
  rcases runs_bind_iff.mp runs with
    ⟨_, -, impossible⟩ | ⟨first, earlier, later, -, resolved, continued⟩
  · cases impossible
  · exact ⟨first, earlier, later, resolved, continued⟩

/-- The application of a server that has started is what its plugin resolved with. -/
theorem applied_of_started
    {Application : Type}
    {appPlugin : StartupPromise Application}
    {bodyLimit : Nat}
    {trace : List (Completed startupInterface)}
    {server : Server Application}
    (started :
      Runs (runFastify (makeFastify libraries environment appPlugin bodyLimit))
        trace (.ok server)) :
    ∃ applying, Runs appPlugin applying (.ok server.application) := by
  obtain ⟨made, _, _, making, listening⟩ := resolved_of_bind started
  obtain ⟨_, -, connecting⟩ := runs_settled_bind making
  obtain ⟨_, -, setUp⟩ := runs_settled_bind connecting
  obtain ⟨activeEndpoint, _, _, -, applies⟩ := resolved_of_bind setUp
  obtain ⟨application, applying, _, applied, readies⟩ :=
    resolved_of_bind applies
  obtain ⟨_, _, _, -, returned⟩ := resolved_of_bind readies
  obtain ⟨_, _, _, -, listened⟩ := resolved_of_bind listening
  obtain ⟨-, isMade⟩ := runs_settled_iff.mp returned
  obtain ⟨-, isServer⟩ := runs_settled_iff.mp listened
  cases isServer
  cases isMade
  exact ⟨applying, applied⟩

/-- The application of the PoHTTP server shares the emitter of its environment. -/
theorem makePohttpServerPlugin_reliable :
    Reliable (makePohttpServerPlugin environment)
      fun emitter => emitter = Emitter.init environment :=
  .resolved rfl

/-- The application of the PoHTTP client knows whether gateways must use TLS. -/
theorem makePohttpClientPlugin_reliable
    {libraries : ServerLibraries}
    {shouldUseTls : Bool}
    (isKnown : tlsRequired libraries environment = .ok shouldUseTls) :
    Reliable (makePohttpClientPlugin libraries environment)
      fun required => required = shouldUseTls := by
  unfold makePohttpClientPlugin
  rw [isKnown]
  apply (performStartup_reliable (.makeReceiver _)).bind
  intro _ _
  exact .resolved rfl

/-- The client does not start without knowing whether gateways must use TLS. -/
theorem tlsRequired_of_started
    {libraries : ServerLibraries}
    {trace : List (Completed startupInterface)}
    {client : Server Bool}
    (started :
      Runs (runFastify (makePohttpClient libraries environment)) trace
        (.ok client)) :
    tlsRequired libraries environment = .ok client.application := by
  obtain ⟨applying, applied⟩ := applied_of_started started
  obtain ⟨shouldUseTls, isKnown, receiving⟩ := runs_settled_bind applied
  obtain ⟨_, _, _, -, returned⟩ := resolved_of_bind receiving
  obtain ⟨-, isApplication⟩ := runs_settled_iff.mp returned
  cases isApplication
  exact isKnown

end Startup

/--
Servers start where the bootstrap script got to the initial session key.  In such
an environment the PoHTTP server and client act for the endpoint whose key the
script looked for, and they fail to start only when one of their calls fails, or
when the client cannot tell whether gateways must use TLS.
-/
theorem servers_start_after_bootstrap
    {libraries : ServerLibraries}
    {environment : Environment}
    {trace : List DetailedCall}
    {report : Bootstrap.Report}
    (bootstrapped :
      Runs
        ((Bootstrap.bootstrapData libraries.toLibraries environment).expand
          (implementation environment))
        trace (.ok report))
    (logged : report.logged ≠ []) :
    ∃ endpoint found,
      ⟨.inl (.retrieveUnboundSessionPublicKey endpoint.id), .ok found⟩ ∈
          trace ∧
        Reliable
          (Startup.runFastify (Startup.makePohttpServer libraries environment))
          (fun server =>
            server.activeEndpoint = endpoint ∧
              server.application = Emitter.init environment) ∧
        (∀ shouldUseTls,
          Startup.tlsRequired libraries environment = .ok shouldUseTls →
          Reliable
            (Startup.runFastify
              (Startup.makePohttpClient libraries environment))
            (fun client =>
              client.activeEndpoint = endpoint ∧
                client.application = shouldUseTls)) ∧
        ∀ failure clientTrace client,
          Startup.tlsRequired libraries environment = .error failure →
          ¬ Runs
            (Startup.runFastify
              (Startup.makePohttpClient libraries environment))
            clientTrace (.ok client) := by
  obtain ⟨endpoint, found, configured, checked⟩ :=
    Startup.configured_of_bootstrap bootstrapped logged
  refine ⟨endpoint, found, checked, ?_, ?_, ?_⟩
  · exact Startup.runFastify_reliable configured
      Startup.makePohttpServerPlugin_reliable _
  · intro shouldUseTls isKnown
    exact Startup.runFastify_reliable configured
      (Startup.makePohttpClientPlugin_reliable isKnown) _
  · intro failure clientTrace client isUnknown started
    cases isUnknown.symm.trans (Startup.tlsRequired_of_started started)

namespace Stubs

/-- The environment of servers that do not say whether gateways must use TLS. -/
def serverEnvironment : Environment
  | "POHTTP_TLS_REQUIRED" => none
  | name => environment name

/-- Libraries that know the ways to write each boolean. -/
def serverLibraries : ServerLibraries where
  toLibraries := deploymentLibraries
  asBool _ value :=
    if value ∈ ["true", "TRUE", "1"] then
      .ok true
    else if value ∈ ["false", "FALSE", "0"] then
      .ok false
    else
      .error malformed
  maxRamfMessageLength := 9437184
  maxSduPlaintextLength := 8322048

theorem detailedBootstrap_runs :
    Runs
      ((Bootstrap.bootstrapData deploymentLibraries serverEnvironment).expand
        (implementation serverEnvironment))
      detailedBootstrap (.ok ⟨[Bootstrap.createdEntry], .ok ()⟩) := by
  refine runs_await_iff.mpr ⟨_, _, rfl, ?_⟩
  refine runs_await_iff.mpr ⟨_, _, rfl, ?_⟩
  refine runs_await_iff.mpr ⟨_, _, rfl, ?_⟩
  refine runs_await_iff.mpr ⟨_, _, rfl, ?_⟩
  refine runs_await_iff.mpr ⟨_, _, rfl, ?_⟩
  refine runs_await_iff.mpr ⟨_, _, rfl, ?_⟩
  refine runs_await_iff.mpr ⟨_, _, rfl, ?_⟩
  exact runs_settled_iff.mpr ⟨rfl, rfl⟩

end Stubs

/-- After a bootstrap run both servers start, and the client requires TLS. -/
theorem servers_start_after_bootstrap_stubs :
    ∃ endpoint,
      Reliable
          (Startup.runFastify
            (Startup.makePohttpServer Stubs.serverLibraries
              Stubs.serverEnvironment))
          (fun server =>
            server.activeEndpoint = endpoint ∧
              server.application = Emitter.init Stubs.serverEnvironment) ∧
        Reliable
          (Startup.runFastify
            (Startup.makePohttpClient Stubs.serverLibraries
              Stubs.serverEnvironment))
          (fun client =>
            client.activeEndpoint = endpoint ∧ client.application = true) := by
  obtain ⟨endpoint, _, -, serverStarts, clientStarts, -⟩ :=
    servers_start_after_bootstrap
      (show
        Runs
          ((Bootstrap.bootstrapData Stubs.serverLibraries.toLibraries
              Stubs.serverEnvironment).expand
            (implementation Stubs.serverEnvironment))
          Stubs.detailedBootstrap (.ok ⟨[Bootstrap.createdEntry], .ok ()⟩) from
        Stubs.detailedBootstrap_runs)
      (List.cons_ne_nil _ _)
  exact ⟨endpoint, serverStarts, clientStarts true rfl⟩

end AwalaEndpoint
