import AwalaEndpoint.Library.Expansion
import AwalaEndpoint.InternetEndpoint

namespace AwalaEndpoint

open Awaiting LabelledRuns

/-!
# The provider of the key management service

Private identity keys are imported with a provider that is expensive to make, so
the process keeps the one it has made for all its functions.  Nothing stops
functions that run at the same time from making a provider each; what matters is
that the process ends up with one of them.
-/

/-- What keys are imported for. -/
structure RsaHashedImportParams where
  name : String
  hash : String
  deriving Repr, DecidableEq

def rsaPssImportAlgorithm : RsaHashedImportParams :=
  ⟨"RSA-PSS", "SHA-256"⟩

def rsaPssKeyUsages : List String :=
  ["sign", "verify"]

/-- A provider that `initKmsProviderFromEnv` returned. -/
structure KmsProvider where
  handle : Nat
  deriving Repr, DecidableEq

/-- The operations by which a private key is retrieved. -/
inductive KmsOperation where
  /-- A read of `cachedProvider`. -/
  | loadCachedProvider
  /-- An assignment to `cachedProvider`. -/
  | storeCachedProvider (provider : KmsProvider)
  /-- `initKmsProviderFromEnv`, which makes calls to the cloud. -/
  | initKmsProviderFromEnv (adapter : String)
  /-- `importKey` of a provider. -/
  | importKey
      (provider : KmsProvider)
      (format : String)
      (keyRaw : Buffer)
      (algorithm : RsaHashedImportParams)
      (extractable : Bool)
      (keyUsages : List String)
  deriving DecidableEq

/-- What these operations resolve with. -/
@[reducible] def KmsOperation.Answer : KmsOperation → Type
  | .loadCachedProvider => Option KmsProvider
  | .storeCachedProvider _ => Unit
  | .initKmsProviderFromEnv _ => KmsProvider
  | .importKey _ _ _ _ _ _ => Unit

/-- The operations of the endpoint with those that retrieve a private key. -/
abbrev detailedInterface : Interface :=
  interface.extend KmsOperation KmsOperation.Answer

/-- The result of a function that is modelled down to these operations. -/
abbrev DetailedPromise (Result : Type) : Type :=
  Program detailedInterface Result

/-- One of these operations that has settled, with its outcome. -/
abbrev DetailedCall : Type :=
  Completed detailedInterface

/-- Await one of the operations that retrieve a private key. -/
def performKms
    (operation : KmsOperation) : DetailedPromise operation.Answer :=
  @Program.perform detailedInterface (.inr operation)

/--
The provider of this process.  It is assigned and returned in one go once it is
there, so the caller gets the one it has just made.
-/
def getKmsProvider (environment : Environment) : DetailedPromise KmsProvider := do
  let adapter ← .settled (environment.required "KMS_ADAPTER")
  let cachedProvider : Option KmsProvider ← performKms .loadCachedProvider
  match cachedProvider with
  | some cachedProvider => return cachedProvider
  | none =>
      let cachedProvider ← performKms (.initKmsProviderFromEnv adapter)
      performKms (.storeCachedProvider cachedProvider)
      return cachedProvider

/-- The key management service, by the provider to use. -/
structure Kms where
  provider : KmsProvider
  deriving Repr, DecidableEq

namespace Kms

/-- `Kms.init`. -/
def init (environment : Environment) : DetailedPromise Kms := do
  let provider ← getKmsProvider environment
  return ⟨provider⟩

/-- Import the key that a reference stands for. -/
def retrievePrivateKeyByRef (kms : Kms) (ref : Buffer) : DetailedPromise Unit :=
  performKms
    (.importKey kms.provider "raw" ref rsaPssImportAlgorithm true
      rsaPssKeyUsages)

end Kms

/-- Retrieve a key with a newly initialised KMS. -/
def retrieveWithKms
    (environment : Environment)
    (ref : Buffer) : DetailedPromise Unit := do
  let kms ← Kms.init environment
  kms.retrievePrivateKeyByRef ref

/-! ## Traces -/

/-- A read of the cached provider. -/
def providerLoad (outcome : Except Failure (Option KmsProvider)) : DetailedCall :=
  ⟨.inr .loadCachedProvider, outcome⟩

/-- An attempt to make a provider. -/
def providerInit
    (adapter : String)
    (outcome : Except Failure KmsProvider) : DetailedCall :=
  ⟨.inr (.initKmsProviderFromEnv adapter), outcome⟩

/-- The assignment of a provider to the cache. -/
def providerStore
    (provider : KmsProvider)
    (outcome : Except Failure Unit) : DetailedCall :=
  ⟨.inr (.storeCachedProvider provider), outcome⟩

/-- The import of a key. -/
def keyImport
    (provider : KmsProvider)
    (ref : Buffer)
    (outcome : Except Failure Unit) : DetailedCall :=
  ⟨.inr
      (.importKey provider "raw" ref rsaPssImportAlgorithm true
        rsaPssKeyUsages), outcome⟩

variable {environment : Environment}
  {ref : Buffer}
  {trace : List DetailedCall}
  {remaining : DetailedPromise Unit}

/-- How far the import of a key has come. -/
inductive ImportTrace
    (provider : KmsProvider)
    (ref : Buffer) : List DetailedCall → Prop where
  | notStarted :
      ImportTrace provider ref []
  | finished (outcome : Except Failure Unit) :
      ImportTrace provider ref [keyImport provider ref outcome]

/-- How far the retrieval of a key has come. -/
inductive RetrievalTrace
    (environment : Environment)
    (ref : Buffer) : List DetailedCall → Prop where
  | notStarted :
      RetrievalTrace environment ref []
  | unreadable (failure : Failure) :
      RetrievalTrace environment ref [providerLoad (.error failure)]
  | cached
      (provider : KmsProvider)
      (importing : List DetailedCall) :
      ImportTrace provider ref importing →
      RetrievalTrace environment ref
        (providerLoad (.ok (some provider)) :: importing)
  | missing :
      RetrievalTrace environment ref [providerLoad (.ok none)]
  | notMade
      (adapter : String)
      (failure : Failure) :
      environment "KMS_ADAPTER" = some adapter →
      RetrievalTrace environment ref
        [providerLoad (.ok none), providerInit adapter (.error failure)]
  | made
      (adapter : String)
      (provider : KmsProvider) :
      environment "KMS_ADAPTER" = some adapter →
      RetrievalTrace environment ref
        [providerLoad (.ok none), providerInit adapter (.ok provider)]
  | notStored
      (adapter : String)
      (provider : KmsProvider)
      (failure : Failure) :
      environment "KMS_ADAPTER" = some adapter →
      RetrievalTrace environment ref
        [providerLoad (.ok none), providerInit adapter (.ok provider),
          providerStore provider (.error failure)]
  | stored
      (adapter : String)
      (provider : KmsProvider)
      (importing : List DetailedCall) :
      environment "KMS_ADAPTER" = some adapter →
      ImportTrace provider ref importing →
      RetrievalTrace environment ref
        (providerLoad (.ok none) :: providerInit adapter (.ok provider) ::
          providerStore provider (.ok ()) :: importing)

theorem importKey_steps
    {provider : KmsProvider}
    (steps :
      Steps (Kms.retrievePrivateKeyByRef ⟨provider⟩ ref) trace remaining) :
    ImportTrace provider ref trace := by
  rcases steps_await_iff.mp steps with
    ⟨rfl, -⟩ | ⟨outcome, rest, rfl, afterImport⟩
  · exact .notStarted
  · obtain ⟨rfl, -⟩ := steps_settled_iff.mp afterImport
    exact .finished outcome

/-- A key is imported with the provider that was cached, or with one made for it. -/
theorem retrieveWithKms_steps
    (steps : Steps (retrieveWithKms environment ref) trace remaining) :
    RetrievalTrace environment ref trace := by
  unfold retrieveWithKms Kms.init getKmsProvider at steps
  cases isSet : environment.required "KMS_ADAPTER" with
  | error failure =>
      rw [isSet] at steps
      obtain ⟨rfl, -⟩ := steps_settled_iff.mp steps
      exact .notStarted
  | ok adapter =>
      rw [isSet] at steps
      have hasAdapter := (required_eq_ok_iff.mp isSet).1
      rcases steps_await_iff.mp steps with
        ⟨rfl, -⟩ | ⟨loaded, rest, rfl, afterLoad⟩
      · exact .notStarted
      · rcases loaded with failure | _ | provider
        · obtain ⟨rfl, -⟩ := steps_settled_iff.mp afterLoad
          exact .unreadable failure
        · rcases steps_await_iff.mp afterLoad with
            ⟨rfl, -⟩ | ⟨made, later, rfl, afterInit⟩
          · exact .missing
          · cases made with
            | error failure =>
                obtain ⟨rfl, -⟩ := steps_settled_iff.mp afterInit
                exact .notMade adapter failure hasAdapter
            | ok provider =>
                rcases steps_await_iff.mp afterInit with
                  ⟨rfl, -⟩ | ⟨stored, last, rfl, afterStore⟩
                · exact .made adapter provider hasAdapter
                · cases stored with
                  | error failure =>
                      obtain ⟨rfl, -⟩ := steps_settled_iff.mp afterStore
                      exact .notStored adapter provider failure hasAdapter
                  | ok answer =>
                      exact .stored adapter provider last hasAdapter
                        (importKey_steps afterStore)
        · exact .cached provider rest (importKey_steps afterLoad)

/-- Right before a key is imported, its provider was found or made and stored. -/
theorem RetrievalTrace.of_import
    {taken : List DetailedCall}
    {provider : KmsProvider}
    {outcome : Except Failure Unit}
    (progress :
      RetrievalTrace environment ref
        (taken ++ [keyImport provider ref outcome])) :
    taken = [providerLoad (.ok (some provider))] ∨
      ∃ adapter,
        environment "KMS_ADAPTER" = some adapter ∧
          taken =
            [providerLoad (.ok none), providerInit adapter (.ok provider),
              providerStore provider (.ok ())] := by
  generalize shape : taken ++ [keyImport provider ref outcome] = trace
    at progress
  obtain ⟨before, isLast⟩ := dropLast_of_concat shape
  cases progress with
  | cached found importing imports =>
      cases imports with
      | notStarted =>
          cases isLast
      | finished =>
          cases isLast
          exact .inl before
  | stored adapter made importing hasAdapter imports =>
      cases imports with
      | notStarted =>
          cases isLast
      | finished =>
          cases isLast
          exact .inr ⟨adapter, hasAdapter, before⟩
  | _ =>
      cases isLast

/-- Right before a provider is made, there was none. -/
theorem RetrievalTrace.of_init
    {taken : List DetailedCall}
    {adapter : String}
    {outcome : Except Failure KmsProvider}
    (progress :
      RetrievalTrace environment ref
        (taken ++ [providerInit adapter outcome])) :
    environment "KMS_ADAPTER" = some adapter ∧
      taken = [providerLoad (.ok none)] := by
  generalize shape : taken ++ [providerInit adapter outcome] = trace at progress
  obtain ⟨before, isLast⟩ := dropLast_of_concat shape
  cases progress with
  | cached found importing imports =>
      cases imports <;> cases isLast
  | stored configured made importing hasAdapter imports =>
      cases imports <;> cases isLast
  | notMade configured failure hasAdapter =>
      cases isLast
      exact ⟨hasAdapter, before⟩
  | made configured provider hasAdapter =>
      cases isLast
      exact ⟨hasAdapter, before⟩
  | _ =>
      cases isLast

/-- Right before a provider is stored, it was made because there was none. -/
theorem RetrievalTrace.of_store
    {taken : List DetailedCall}
    {provider : KmsProvider}
    {outcome : Except Failure Unit}
    (progress :
      RetrievalTrace environment ref
        (taken ++ [providerStore provider outcome])) :
    ∃ adapter,
      environment "KMS_ADAPTER" = some adapter ∧
        taken =
          [providerLoad (.ok none), providerInit adapter (.ok provider)] := by
  generalize shape : taken ++ [providerStore provider outcome] = trace
    at progress
  obtain ⟨before, isLast⟩ := dropLast_of_concat shape
  cases progress with
  | cached found importing imports =>
      cases imports <;> cases isLast
  | stored adapter made importing hasAdapter imports =>
      cases imports with
      | notStarted =>
          cases isLast
          exact ⟨adapter, hasAdapter, before⟩
      | finished =>
          cases isLast
  | notStored adapter made failure hasAdapter =>
      cases isLast
      exact ⟨adapter, hasAdapter, before⟩
  | _ =>
      cases isLast

/-! ## The memory of the process -/

/--
The contract of a call that retrieves a key, with the cached provider as the
world.  Reading and writing memory cannot fail.
-/
def KmsPerforms
    (before : Option KmsProvider)
    (call : DetailedCall)
    (after : Option KmsProvider) : Prop :=
  match call with
  | ⟨.inr .loadCachedProvider, outcome⟩ =>
      outcome = .ok before ∧ after = before
  | ⟨.inr (.storeCachedProvider provider), outcome⟩ =>
      outcome = .ok () ∧ after = some provider
  | ⟨.inr (.initKmsProviderFromEnv _), _⟩ => after = before
  | ⟨.inr (.importKey _ _ _ _ _ _), _⟩ => after = before
  | ⟨.inl _, _⟩ => after = before

/-- The provider a call stores, if it stores one. -/
def storedProvider : DetailedCall → Option KmsProvider
  | ⟨.inr (.storeCachedProvider provider), _⟩ => some provider
  | _ => none

theorem storedProvider_eq_some_iff
    {call : DetailedCall}
    {provider : KmsProvider} :
    storedProvider call = some provider ↔
      ∃ outcome, call = providerStore provider outcome := by
  constructor
  · intro stores
    rcases call with ⟨_ | operation, outcome⟩
    · cases stores
    · cases operation with
      | storeCachedProvider stored =>
          cases stores
          exact ⟨outcome, rfl⟩
      | _ =>
          cases stores
  · rintro ⟨outcome, rfl⟩
    rfl

/-- The cached provider is the one that was stored last. -/
theorem KmsPerforms.cachedProvider
    {before after : Option KmsProvider}
    {call : DetailedCall}
    (performs : KmsPerforms before call after) :
    after = (storedProvider call).or before := by
  rcases call with ⟨_ | operation, outcome⟩
  · exact performs
  · cases operation with
    | loadCachedProvider =>
        exact performs.2
    | storeCachedProvider provider =>
        exact performs.2
    | _ =>
        exact performs

section Schedules

variable {Caller : Type}
  [DecidableEq Caller]

/-- A step of the functions of one process that retrieve keys. -/
abbrev KmsStep :
    Configuration detailedInterface Caller (fun _ => Unit)
        (Option KmsProvider) →
      PoolEvent detailedInterface Caller →
      Configuration detailedInterface Caller (fun _ => Unit)
        (Option KmsProvider) → Prop :=
  PoolStep KmsPerforms

/-- Functions that are about to retrieve a key each, when nothing is cached. -/
def retrievals
    (environment : Environment)
    (refs : Caller → Buffer) :
    Configuration detailedInterface Caller (fun _ => Unit)
      (Option KmsProvider) :=
  .start none fun caller => retrieveWithKms environment (refs caller)

variable {refs : Caller → Buffer}
  {events taken later : List (PoolEvent detailedInterface Caller)}
  {first middle last :
    Configuration detailedInterface Caller (fun _ => Unit)
      (Option KmsProvider)}
  {caller : Caller}
  {provider : KmsProvider}

/-- What is cached was stored last, or had been cached already. -/
theorem cachedProvider_run
    (run : Run KmsStep first events last) :
    last.world =
      (lastWrite storedProvider (performedIn events)).or first.world := by
  change
    id last.world =
      (lastWrite storedProvider (performedIn events)).or (id first.world)
  exact (world_run run).register fun _ _ _ _ performs =>
    performs.cachedProvider

/-- The cache does not change while no provider is stored. -/
theorem cachedProvider_of_notStored
    (run : Run KmsStep first events last)
    (notStored :
      ∀ owner stored outcome,
        .performed owner (providerStore stored outcome) ∉ events) :
    last.world = first.world := by
  have quiet :
      lastWrite storedProvider (performedIn events) = none := by
    apply lastWrite_eq_none_iff.mpr
    intro call member
    obtain ⟨owner, performed⟩ := mem_performedIn_iff.mp member
    cases stores : storedProvider call with
    | none =>
        rfl
    | some stored =>
        obtain ⟨outcome, rfl⟩ := storedProvider_eq_some_iff.mp stores
        exact absurd performed (notStored owner stored outcome)
  rw [cachedProvider_run run, quiet]
  rfl

/-- A provider, once cached, is not removed. -/
theorem cached_later
    (run : Run KmsStep first events last)
    (cached : first.world ≠ none) :
    last.world ≠ none := by
  rw [cachedProvider_run run]
  cases lastWrite storedProvider (performedIn events) with
  | none =>
      exact cached
  | some stored =>
      exact Option.some_ne_none stored

/-- A read of the cache is answered with what is cached. -/
theorem loaded_of_first
    {outcome : Except Failure (Option KmsProvider)}
    {rest : List DetailedCall}
    (run : Run KmsStep first events last)
    (shape : performedBy caller events = providerLoad outcome :: rest) :
    ∃ earlier later,
      ∃ before : Configuration detailedInterface Caller (fun _ => Unit)
          (Option KmsProvider),
        events =
            earlier ++ .performed caller (providerLoad outcome) :: later ∧
          Run KmsStep first earlier before ∧
          outcome = .ok before.world := by
  obtain ⟨earlier, later, rfl, -, -⟩ := performedBy_eq_cons shape
  obtain ⟨before, leading, rest⟩ := Run.append_iff.mp run
  obtain ⟨_, stepped, -⟩ := Run.cons_iff.mp rest
  exact ⟨earlier, later, before, rfl, leading, stepped.performs.1⟩

/-- Each function has come some way in retrieving its key. -/
theorem retrievalTrace_run
    (run : Run KmsStep (retrievals environment refs) events last)
    (caller : Caller) :
    RetrievalTrace environment (refs caller) (performedBy caller events) := by
  obtain ⟨_, steps, -⟩ := caller_steps run rfl
  exact retrieveWithKms_steps steps

/-- The same of a function up to one of its calls. -/
theorem retrievalTrace_at
    {call : DetailedCall}
    (run : Run KmsStep (retrievals environment refs) events last)
    (shape : events = taken ++ .performed caller call :: later) :
    RetrievalTrace environment (refs caller)
      (performedBy caller taken ++ [call]) := by
  subst shape
  rw [← List.singleton_append, ← List.append_assoc] at run
  obtain ⟨_, leading, -⟩ := Run.append_iff.mp run
  rw [← performedBy_concat_same]
  exact retrievalTrace_run leading caller

/-- Whoever stores a provider has made it. -/
theorem made_of_stored
    {outcome : Except Failure Unit}
    (run : Run KmsStep (retrievals environment refs) events last)
    (stored : .performed caller (providerStore provider outcome) ∈ events) :
    ∃ adapter,
      environment "KMS_ADAPTER" = some adapter ∧
        .performed caller (providerInit adapter (.ok provider)) ∈ events := by
  obtain ⟨taken, later, rfl⟩ := List.append_of_mem stored
  obtain ⟨adapter, hasAdapter, before⟩ := (retrievalTrace_at run rfl).of_store
  have made :
      providerInit adapter (.ok provider) ∈ performedBy caller taken := by
    simp [before]
  exact ⟨adapter, hasAdapter,
    List.mem_append_left _ (mem_performedBy_iff.mp made)⟩

/-- Whatever is cached has been made. -/
theorem made_of_cached
    (run : Run KmsStep (retrievals environment refs) events last)
    (cached : last.world = some provider) :
    ∃ owner adapter,
      environment "KMS_ADAPTER" = some adapter ∧
        .performed owner (providerInit adapter (.ok provider)) ∈ events := by
  rw [cachedProvider_run run, show (retrievals environment refs).world = none
    from rfl, Option.or_none, lastWrite_eq_some_iff] at cached
  obtain ⟨earlier, call, later, shape, stores, -⟩ := cached
  obtain ⟨outcome, rfl⟩ := storedProvider_eq_some_iff.mp stores
  obtain ⟨owner, stored⟩ :=
    mem_performedIn_iff.mp
      (show providerStore provider outcome ∈ performedIn events by
        simp [shape])
  obtain ⟨adapter, hasAdapter, made⟩ := made_of_stored run stored
  exact ⟨owner, adapter, hasAdapter, made⟩

/-- Operations by which a provider is made and cached. -/
def KmsOperation.makesProvider : KmsOperation → Bool
  | .initKmsProviderFromEnv _ => true
  | .storeCachedProvider _ => true
  | _ => false

/-- No function of the process is about to make a provider or to store one. -/
def Undisturbed
    (configuration :
      Configuration detailedInterface Caller (fun _ => Unit)
        (Option KmsProvider)) : Prop :=
  ∀ caller operation resume,
    configuration.processes caller = some (.await (.inr operation) resume) →
    operation.makesProvider = false

/-- A function that goes on making a provider was about to. -/
theorem Undisturbed.next
    {call : DetailedCall}
    {operation : KmsOperation}
    {rest : List DetailedCall}
    (undisturbed : Undisturbed middle)
    (trailing : Run KmsStep middle later last)
    (shape : performedBy caller later = call :: rest)
    (isKms : call.operation = .inr operation) :
    operation.makesProvider = false := by
  obtain ⟨resume, awaiting⟩ := awaits_of_performedBy trailing shape
  obtain ⟨_, outcome⟩ := call
  cases isKms
  exact undisturbed caller operation resume awaiting

/-- Nobody stores a provider once there is one and nobody is about to make any. -/
theorem notStored_of_undisturbed
    {outcome : Except Failure Unit}
    (leading : Run KmsStep (retrievals environment refs) taken middle)
    (trailing : Run KmsStep middle later last)
    (cached : middle.world ≠ none)
    (undisturbed : Undisturbed middle) :
    .performed caller (providerStore provider outcome) ∉ later := by
  intro stored
  obtain ⟨earlier, rest, rfl⟩ := List.append_of_mem stored
  obtain ⟨adapter, -, before⟩ :=
    (retrievalTrace_at (leading.append trailing)
      (List.append_assoc taken earlier _).symm).of_store
  rw [performedBy_append] at before
  rcases List.append_eq_cons_iff.mp before with
    ⟨notStarted, shape⟩ | ⟨started, -, shape⟩
  · obtain ⟨_, untilStored, -⟩ := Run.append_iff.mp trailing
    obtain ⟨_, _, _, -, reached, loaded⟩ := loaded_of_first untilStored shape
    exact cached_later reached cached (Except.ok.inj loaded).symm
  · have next :
        performedBy caller
            (earlier ++
              .performed caller (providerStore provider outcome) :: rest) =
          performedBy caller earlier ++
            providerStore provider outcome :: performedBy caller rest := by
      rw [performedBy_append, performedBy_cons_same]
    cases ahead : performedBy caller earlier with
    | nil =>
        rw [ahead] at next
        cases undisturbed.next trailing next rfl
    | cons call others =>
        rw [ahead] at next shape
        rcases List.append_eq_cons_iff.mp shape.symm with
          ⟨-, isInit⟩ | ⟨_, -, tooLong⟩
        · cases isInit
          cases undisturbed.next trailing next rfl
        · simp at tooLong

/-- What a function does that starts when a provider is cached for good. -/
theorem usesCached_of_undisturbed
    (leading : Run KmsStep (retrievals environment refs) taken middle)
    (trailing : Run KmsStep middle later last)
    (cached : middle.world = some provider)
    (undisturbed : Undisturbed middle)
    (notStarted : performedBy caller taken = []) :
    ∀ call ∈ performedBy caller later,
      call = providerLoad (.ok (some provider)) ∨
        ∃ outcome, call = keyImport provider (refs caller) outcome := by
  have isCached : middle.world ≠ none := by
    simp [cached]
  have progress := retrievalTrace_run (leading.append trailing) caller
  rw [performedBy_append, notStarted, List.nil_append] at progress
  have loads :
      ∀ outcome rest,
        performedBy caller later = providerLoad outcome :: rest →
        outcome = .ok (some provider) := by
    intro outcome rest shape
    obtain ⟨earlier, remaining, before, rfl, reached, loaded⟩ :=
      loaded_of_first trailing shape
    rw [loaded, cachedProvider_of_notStored reached, cached]
    intro owner stored stores member
    exact
      notStored_of_undisturbed leading trailing isCached undisturbed
        (List.mem_append_left _ member)
  generalize performedBy caller later = trace at progress loads
  cases progress with
  | notStarted =>
      simp
  | cached found importing imports =>
      cases loads _ _ rfl
      cases imports with
      | notStarted =>
          simp
      | finished outcome =>
          simp
  | _ =>
      cases loads _ _ rfl

/-- How the functions of a process share its provider. -/
structure SharesProvider
    (environment : Environment)
    (refs : Caller → Buffer)
    (events : List (PoolEvent detailedInterface Caller))
    (last :
      Configuration detailedInterface Caller (fun _ => Unit)
        (Option KmsProvider)) : Prop where
  madeBeforeUse :
    ∀ taken caller provider outcome later,
      events =
        taken ++
          .performed caller (keyImport provider (refs caller) outcome) ::
            later →
      ∃ owner adapter,
        environment "KMS_ADAPTER" = some adapter ∧
          .performed owner (providerInit adapter (.ok provider)) ∈ taken
  madeWhenMissing :
    ∀ taken caller adapter outcome later,
      events =
        taken ++ .performed caller (providerInit adapter outcome) :: later →
      ∃ earlier between,
        taken =
            earlier ++ .performed caller (providerLoad (.ok none)) :: between ∧
          ∀ owner provider stored,
            .performed owner (providerStore provider stored) ∉ earlier
  keptForGood :
    ∀ taken later middle provider,
      events = taken ++ later →
      Run KmsStep (retrievals environment refs) taken middle →
      Run KmsStep middle later last →
      middle.world = some provider →
      Undisturbed middle →
      last.world = some provider ∧
        ∀ caller,
          performedBy caller taken = [] →
          ∀ call ∈ performedBy caller later,
            call = providerLoad (.ok (some provider)) ∨
              ∃ outcome, call = keyImport provider (refs caller) outcome

/--
However the functions of a process that retrieve keys interleave and fail, a key
is imported only with a provider that was made for the configured adapter, and a
provider is made only by a function that started when none had been cached.  Once
one is cached and none is being made, it stays, and functions that start later
use it without making their own.
-/
theorem sharesProvider_run
    (run : Run KmsStep (retrievals environment refs) events last) :
    SharesProvider environment refs events last := by
  refine ⟨?_, ?_, ?_⟩
  · intro taken caller provider outcome later shape
    rcases (retrievalTrace_at run shape).of_import with
      loaded | ⟨adapter, hasAdapter, made⟩
    · rw [shape] at run
      obtain ⟨_, leading, -⟩ := Run.append_iff.mp run
      obtain ⟨earlier, rest, before, rfl, reached, found⟩ :=
        loaded_of_first leading loaded
      obtain ⟨owner, adapter, hasAdapter, made⟩ :=
        made_of_cached reached (Except.ok.inj found).symm
      exact ⟨owner, adapter, hasAdapter, List.mem_append_left _ made⟩
    · have member :
          providerInit adapter (.ok provider) ∈ performedBy caller taken := by
        simp [made]
      exact ⟨caller, adapter, hasAdapter, mem_performedBy_iff.mp member⟩
  · intro taken caller adapter outcome later shape
    obtain ⟨-, loaded⟩ := (retrievalTrace_at run shape).of_init
    rw [shape] at run
    obtain ⟨_, leading, -⟩ := Run.append_iff.mp run
    obtain ⟨earlier, between, before, rfl, reached, found⟩ :=
      loaded_of_first leading loaded
    refine ⟨earlier, between, rfl, ?_⟩
    intro owner provider stored stores
    obtain ⟨sooner, after, rfl⟩ := List.append_of_mem stores
    obtain ⟨_, -, rest⟩ := Run.append_iff.mp reached
    obtain ⟨_, stepped, remaining⟩ := Run.cons_iff.mp rest
    apply cached_later remaining _ (Except.ok.inj found).symm
    rw [stepped.performs.cachedProvider]
    exact Option.some_ne_none provider
  · intro taken later middle provider _ leading trailing cached undisturbed
    refine ⟨?_, ?_⟩
    · rw [← cached]
      apply cachedProvider_of_notStored trailing
      intro owner stored outcome
      apply notStored_of_undisturbed leading trailing _ undisturbed
      simp [cached]
    · intro caller notStarted
      exact
        usesCached_of_undisturbed leading trailing cached undisturbed notStarted

end Schedules

/-- An environment with an adapter. -/
def adapterEnvironment : Environment
  | "KMS_ADAPTER" => some "AWS"
  | _ => none

/-- Two functions make a provider each; a third one starts when they have. -/
def overlappingRetrievals : List (PoolEvent detailedInterface Nat) :=
  [.performed 0 (providerLoad (.ok none)),
    .performed 1 (providerLoad (.ok none)),
    .performed 0 (providerInit "AWS" (.ok ⟨0⟩)),
    .performed 1 (providerInit "AWS" (.ok ⟨1⟩)),
    .performed 0 (providerStore ⟨0⟩ (.ok ())),
    .performed 1 (providerStore ⟨1⟩ (.ok ())),
    .performed 0 (keyImport ⟨0⟩ [] (.ok ())),
    .performed 2 (providerLoad (.ok (some ⟨1⟩))),
    .performed 2 (keyImport ⟨1⟩ [] (.ok ()))]

/-- The provider that was stored last is the one that remains. -/
theorem sharesProvider_run_stubs :
    ∃ last : Configuration detailedInterface Nat (fun _ => Unit)
        (Option KmsProvider),
      last.world = some ⟨1⟩ ∧
        SharesProvider adapterEnvironment (fun _ => []) overlappingRetrievals
          last := by
  have run :
      ∃ last,
        Run KmsStep (retrievals adapterEnvironment fun _ : Nat => [])
            overlappingRetrievals last ∧
          last.world = some ⟨1⟩ := by
    refine ⟨_,
      .next (.settles rfl ⟨rfl, rfl⟩)
        (.next (.settles rfl ⟨rfl, rfl⟩)
          (.next (.settles rfl rfl)
            (.next (.settles rfl rfl)
              (.next (.settles rfl ⟨rfl, rfl⟩)
                (.next (.settles rfl ⟨rfl, rfl⟩)
                  (.next (.settles rfl rfl)
                    (.next (.settles rfl ⟨rfl, rfl⟩)
                      (.next (.settles rfl rfl)
                        (.done _))))))))), rfl⟩
  obtain ⟨last, ran, cached⟩ := run
  exact ⟨last, cached, sharesProvider_run ran⟩

end AwalaEndpoint
