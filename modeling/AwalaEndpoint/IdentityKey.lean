import AwalaEndpoint.Deployment
import AwalaEndpoint.KmsProvider

namespace AwalaEndpoint

open Awaiting LabelledRuns

/-!
# Loading the identity key

The endpoint's private identity key is retrieved in several steps, through the
provider that the process keeps.  A deployment modelled down to these steps is
simulated by one in which the key is retrieved in a single step.
-/

/-- `Buffer.from` of a text. -/
def bufferFromText (text : String) : Buffer :=
  text.toUTF8.toList

/-- How the operations of the endpoint are carried out: the KMS in detail. -/
def implementation
    (environment : Environment) :
    Implementation interface KmsOperation KmsOperation.Answer
  | .retrievePrivateKeyByRef keyRef =>
      retrieveWithKms environment (bufferFromText keyRef)
  | operation =>
      @Program.perform detailedInterface (.inl operation)

/-- Whether a call retrieves a private key in a single step. -/
def retrievesKey : Call → Bool
  | ⟨.retrievePrivateKeyByRef _, _⟩ => true
  | _ => false

/-- What a call looks like: only the retrieval of keys is not seen. -/
def visibleCall (call : Call) : Option Call :=
  if retrievesKey call then none else some call

/-- What a detailed call looks like. -/
def visibleDetail : DetailedCall → Option Call
  | ⟨.inl operation, outcome⟩ => visibleCall ⟨operation, outcome⟩
  | ⟨.inr _, _⟩ => none

/-- The contract of a detailed call.  Retrieving keys says nothing about the stores. -/
def PerformedInDetail
    (libraries : Libraries)
    (before : State)
    (call : DetailedCall)
    (after : State) : Prop :=
  match call with
  | ⟨.inl operation, outcome⟩ =>
      PerformedInDeployment libraries before ⟨operation, outcome⟩ after
  | ⟨.inr _, _⟩ => after = before

/-- The stores of a deployment and what is seen of it. -/
def scene (libraries : Libraries) : Scene interface State Call where
  perform := PerformedInDeployment libraries
  label := visibleCall

/-- The same of a deployment in detail. -/
def detailedScene
    (libraries : Libraries) : Scene detailedInterface State Call where
  perform := PerformedInDetail libraries
  label := visibleDetail

/-- The tasks of a deployment in detail, about to start. -/
def Deployment.detailedStart
    {Id : Type}
    (deployment : Deployment Id)
    (state : State) :
    Configuration detailedInterface (Task Id) Task.Result State :=
  .start state fun task =>
    (deployment.program task).expand (implementation deployment.environment)

/-- A step of a deployment in detail. -/
abbrev DetailedStep
    {Id : Type}
    [DecidableEq Id]
    (libraries : Libraries) :
    Configuration detailedInterface (Task Id) Task.Result State →
      PoolEvent detailedInterface (Task Id) →
      Configuration detailedInterface (Task Id) Task.Result State → Prop :=
  PoolStep (PerformedInDetail libraries)

section Commits

variable {libraries : Libraries}
  {environment : Environment}

/-- Retrieving a key takes calls of the KMS and its provider only. -/
theorem RetrievalTrace.isKms
    {ref : Buffer}
    {trace : List DetailedCall}
    (progress : RetrievalTrace environment ref trace)
    {call : DetailedCall}
    (member : call ∈ trace) :
    ∃ operation, call.operation = .inr operation := by
  have all : ∀ call ∈ trace, call.operation.isRight = true := by
    cases progress with
    | cached provider importing imports =>
        cases imports <;> simp [providerLoad, keyImport]
    | stored adapter provider importing _ imports =>
        cases imports <;>
          simp [providerLoad, providerInit, providerStore, keyImport]
    | _ =>
        simp [providerLoad, providerInit, providerStore]
  exact Sum.isRight_iff.mp (all call member)

/-- The retrieval of a key changes no store. -/
theorem performed_of_retrieval
    (state : State)
    (keyRef : String)
    (outcome : Except Failure Unit) :
    PerformedInDeployment libraries state
      ⟨.retrievePrivateKeyByRef keyRef, outcome⟩ state :=
  performedInDeployment_of_performed ⟨epoch, rfl⟩ rfl

/-- A call that is made as part of a retrieval is not seen and changes no store. -/
theorem quiet_of_retrieval
    {ref : Buffer}
    {trace : List DetailedCall}
    {middle next : DetailedPromise Unit}
    {completed : DetailedCall}
    {before after : State}
    (steps : Steps (retrieveWithKms environment ref) trace middle)
    (stepped : Advance middle completed next)
    (performed : PerformedInDetail libraries before completed after) :
    visibleDetail completed = none ∧ after = before := by
  obtain ⟨operation, isKms⟩ :=
    (retrieveWithKms_steps (steps.extend stepped)).isKms List.mem_concat_self
  obtain ⟨_, outcome⟩ := completed
  cases isKms
  exact ⟨rfl, performed⟩

/-- Every operation but the retrieval of a key is carried out as it is. -/
theorem implementation_of_other
    {operation : Operation}
    (isOther : ∀ keyRef, operation ≠ .retrievePrivateKeyByRef keyRef) :
    implementation environment operation =
      @Program.perform detailedInterface (.inl operation) := by
  cases operation with
  | retrievePrivateKeyByRef keyRef =>
      exact absurd rfl (isOther keyRef)
  | _ =>
      rfl

/-- An operation retrieves a key, or it is carried out as it is. -/
theorem retrieves_or_other
    (operation : Operation) :
    (∃ keyRef, operation = .retrievePrivateKeyByRef keyRef) ∨
      ∀ keyRef, operation ≠ .retrievePrivateKeyByRef keyRef := by
  by_cases retrieves : ∃ keyRef, operation = .retrievePrivateKeyByRef keyRef
  · exact .inl retrieves
  · exact .inr fun keyRef same => retrieves ⟨keyRef, same⟩

/-- What the retrieval of a key does can be taken to happen at its end. -/
theorem implementation_commits :
    CommitsAtEnd (implementation environment) (scene libraries)
      (detailedScene libraries) id where
  immediately operation outcome settles := by
    rcases retrieves_or_other operation with ⟨keyRef, rfl⟩ | isOther
    · exact ⟨rfl, fun state => performed_of_retrieval state keyRef outcome⟩
    · rw [implementation_of_other isOther] at settles
      cases settles
  unnoticed operation trace middle completed next before after steps stepped
      unsettled performed := by
    rcases retrieves_or_other operation with ⟨keyRef, rfl⟩ | isOther
    · exact quiet_of_retrieval steps stepped performed
    · rw [implementation_of_other isOther] at steps
      obtain ⟨outcome, -, rfl⟩ := advance_of_perform steps stepped
      exact absurd rfl (unsettled outcome)
  lastly operation trace middle completed outcome before after steps stepped
      performed := by
    rcases retrieves_or_other operation with ⟨keyRef, rfl⟩ | isOther
    · obtain ⟨unseen, rfl⟩ := quiet_of_retrieval steps stepped performed
      exact ⟨unseen.symm, performed_of_retrieval _ keyRef outcome⟩
    · rw [implementation_of_other isOther] at steps
      obtain ⟨settled, rfl, same⟩ := advance_of_perform steps stepped
      cases same
      exact ⟨rfl, performed⟩

end Commits

/--
Retrieving the identity key step by step makes no difference.  Whatever a
deployment in detail comes to, a deployment that retrieves the key in one step
can come to: with the same calls of all other kinds by the same tasks in the same
order, the same crashes and the same stores, and with the same results of any
tasks that have settled.
-/
theorem detailed_deployment_simulated
    {Id : Type}
    [DecidableEq Id]
    {deployment : Deployment Id}
    {state : State}
    {events : List (PoolEvent detailedInterface (Task Id))}
    {last : Configuration detailedInterface (Task Id) Task.Result State}
    (run :
      Run (DetailedStep deployment.libraries) (deployment.detailedStart state)
        events last)
    (tasks : List (Task Id)) :
    ∃ explanation reached,
      Run (DeploymentStep deployment.libraries) (deployment.start state)
          explanation reached ∧
        seenIn visibleCall explanation = seenIn visibleDetail events ∧
        reached.world = last.world ∧
        ∀ task ∈ tasks, ∀ result,
          last.processes task = some (.settled result) →
          reached.processes task = some (.settled result) := by
  obtain ⟨explanation, reached, explained, looksSame, simulates, settled⟩ :=
    expanded_run
      (implementation_commits :
        CommitsAtEnd (implementation deployment.environment)
          (scene deployment.libraries) (detailedScene deployment.libraries) id)
      run tasks
  exact ⟨explanation, reached, explained, looksSame, simulates.world, settled⟩

namespace Stubs

/-- The key that a bootstrap run generates. -/
def initialKey : SessionKey := ⟨[0], [0]⟩

/-- A bootstrap run that retrieves the identity key in detail. -/
def detailedBootstrap : List DetailedCall :=
  [providerLoad (.ok none),
    providerInit "set" (.ok ⟨0⟩),
    providerStore ⟨0⟩ (.ok ()),
    keyImport ⟨0⟩ (bufferFromText "set") (.ok ()),
    ⟨.inl (.retrieveUnboundSessionPublicKey endpointId), .ok none⟩,
    ⟨.inl (.generateSessionKey endpointId), .ok initialKey⟩,
    ⟨.inl .closeConnection, .ok ()⟩]

theorem detailedBootstrap_run :
    ∃ last,
      Run (DetailedStep deployment.libraries)
          (deployment.detailedStart State.empty)
          (detailedBootstrap.map (.performed (.bootstrap false))) last ∧
        last.processes (.bootstrap false) =
          some (.settled (.ok ⟨[Bootstrap.createdEntry], .ok ()⟩)) := by
  have performed :
      Run (PerformedInDetail deployment.libraries) State.empty
        detailedBootstrap
        (State.empty.addUnboundSessionKey endpointId initialKey) :=
    .next rfl (.next rfl (.next rfl (.next rfl
      (.next ⟨epoch, rfl, rfl⟩ (.next ⟨epoch, by decide, rfl⟩
        (.next ⟨epoch, rfl⟩ (.done _)))))))
  have runs :
      Runs
        ((deployment.program (.bootstrap false)).expand
          (implementation deployment.environment))
        detailedBootstrap (.ok ⟨[Bootstrap.createdEntry], .ok ()⟩) := by
    refine runs_await_iff.mpr ⟨_, _, rfl, ?_⟩
    refine runs_await_iff.mpr ⟨_, _, rfl, ?_⟩
    refine runs_await_iff.mpr ⟨_, _, rfl, ?_⟩
    refine runs_await_iff.mpr ⟨_, _, rfl, ?_⟩
    refine runs_await_iff.mpr ⟨_, _, rfl, ?_⟩
    refine runs_await_iff.mpr ⟨_, _, rfl, ?_⟩
    refine runs_await_iff.mpr ⟨_, _, rfl, ?_⟩
    exact runs_settled_iff.mpr ⟨rfl, rfl⟩
  exact ⟨_, run_alone runs performed rfl, by simp⟩

end Stubs

/-- The key that was retrieved in detail might have been retrieved in one step. -/
theorem detailed_deployment_simulated_stubs :
    ∃ explanation reached,
      Run (DeploymentStep Stubs.deployment.libraries)
          (Stubs.deployment.start State.empty) explanation reached ∧
        reached.processes (.bootstrap false) =
          some (.settled (.ok ⟨[Bootstrap.createdEntry], .ok ()⟩)) := by
  obtain ⟨last, run, settled⟩ := Stubs.detailedBootstrap_run
  obtain ⟨explanation, reached, explained, -, -, same⟩ :=
    detailed_deployment_simulated run [.bootstrap false]
  exact ⟨explanation, reached, explained, same _ (by simp) _ settled⟩

end AwalaEndpoint
