import AwalaEndpoint.InternetEndpoint

namespace AwalaEndpoint

open Awaiting LabelledRuns

/-!
# Bootstrapping

The job that is run on each deployment to generate the initial session key, and
the traces it can leave.
-/

namespace Bootstrap

/-- What a run logs when it generated the key. -/
def createdEntry : LogEntry :=
  ⟨.info, "Created initial session key"⟩

/-- What a run logs when it found a key. -/
def existsEntry : LogEntry :=
  ⟨.info, "Initial session key already exists"⟩

/-- `makeLogger`, which needs the version of the endpoint. -/
def makeLogger (environment : Environment) : Except Failure Unit := do
  let _ ← environment.required "ENDPOINT_VERSION"

/-- `createMongooseConnectionFromEnv`, which needs to know where MongoDB is. -/
def createMongooseConnectionFromEnv
    (environment : Environment) : Except Failure Unit := do
  let _ ← environment.required "MONGODB_URI"

/-- The line to log about the key. -/
def keyEntry (wasKeyCreated : Bool) : LogEntry :=
  if wasKeyCreated then createdEntry else existsEntry

/-- Generate the key if it is missing; the result is the line logged. -/
def makeInitialSessionKey
    (libraries : Libraries)
    (environment : Environment) : Promise LogEntry := do
  let endpoint ← InternetEndpoint.getActive libraries environment
  let wasKeyCreated ← endpoint.makeInitialSessionKeyIfMissing
  return keyEntry wasKeyCreated

/-- What is left of a bootstrap run: the lines it logged and how it settled. -/
structure Report where
  logged : List LogEntry
  settled : Except Failure Unit

/-- The report on an attempt to make the key and to close the connection. -/
def report
    (made : Except Failure LogEntry)
    (closed : Except Failure Unit) : Report :=
  match made with
  | .ok entry => ⟨[entry], closed⟩
  | .error failure => ⟨[], closed.bind fun _ => .error failure⟩

/-- The bootstrap script: the database connection is closed in any case. -/
def bootstrapData
    (libraries : Libraries)
    (environment : Environment) : Promise Report := do
  .settled (makeLogger environment)
  .settled (createMongooseConnectionFromEnv environment)
  let made ← (makeInitialSessionKey libraries environment).attempt
  let closed : Except Failure Unit ← (perform .closeConnection).attempt
  return report made closed

/-! ## Traces -/

variable {libraries : Libraries} {environment : Environment}

/-- Whether a call loads the private identity key. -/
def LoadsIdentityKey (call : Call) : Prop :=
  ∃ keyRef, call.operation = .retrievePrivateKeyByRef keyRef

/-- Loading the private identity key is a single call at most. -/
theorem retrieveIdentityPrivateKeyRef_steps
    {trace : List Call}
    {remaining : Promise Unit}
    (steps : Steps (retrieveIdentityPrivateKeyRef environment) trace remaining) :
    ∀ call ∈ trace, LoadsIdentityKey call := by
  rcases steps_settled_bind steps with rfl | ⟨keyRef, -, loading⟩
  · simp
  · rcases steps_await_iff.mp loading with
      ⟨rfl, -⟩ | ⟨outcome, rest, rfl, afterLoading⟩
    · simp
    · obtain ⟨rfl, -⟩ := steps_settled_iff.mp afterLoading
      intro call member
      rw [List.mem_singleton] at member
      exact ⟨keyRef, by rw [member]⟩

/-- Finding out what the active endpoint is loads its identity key at most. -/
theorem getActive_steps
    {trace : List Call}
    {remaining : Promise InternetEndpoint}
    (steps :
      Steps (InternetEndpoint.getActive libraries environment) trace remaining) :
    ∀ call ∈ trace, LoadsIdentityKey call := by
  rcases steps_bind_iff.mp steps with
    ⟨_, loading, -⟩ | ⟨_, earlier, later, rfl, loading, reading⟩
  · exact retrieveIdentityPrivateKeyRef_steps loading
  · have quiet : later = [] := by
      apply trace_eq_nil_of_settled reading
      exact settled_bind_of_settled fun publicKey =>
        settled_bind_of_settled fun internetAddress =>
          settled_bind_of_settled fun _ => ⟨_, rfl⟩
    rw [quiet, List.append_nil]
    exact retrieveIdentityPrivateKeyRef_steps loading

/--
A run that makes the initial key is still finding out what the endpoint is, or
has come some way in making its key.
-/
theorem makeInitialSessionKey_steps
    {trace : List Call}
    {remaining : Promise LogEntry}
    (steps :
      Steps (makeInitialSessionKey libraries environment) trace remaining) :
    (∀ call ∈ trace, LoadsIdentityKey call) ∨
      ∃ endpoint earlier later made,
        trace = earlier ++ later ∧
          (∀ call ∈ earlier, LoadsIdentityKey call) ∧
          KeyProgress endpoint later made ∧
          remaining =
            (made >>= fun wasKeyCreated =>
              .settled (.ok (keyEntry wasKeyCreated))) := by
  rcases steps_bind_iff.mp steps with
    ⟨_, finding, -⟩ | ⟨endpoint, earlier, rest, rfl, found, making⟩
  · exact .inl (getActive_steps finding)
  · refine .inr ?_
    rcases steps_bind_iff.mp making with
      ⟨made, progress, rfl⟩ | ⟨wasKeyCreated, later, last, rfl, made, logging⟩
    · exact ⟨endpoint, earlier, rest, made, rfl, getActive_steps found,
        makeInitialSessionKeyIfMissing_steps progress, rfl⟩
    · obtain ⟨rfl, rfl⟩ := steps_settled_iff.mp logging
      rw [List.append_nil]
      exact ⟨endpoint, earlier, later, _, rfl, getActive_steps found,
        makeInitialSessionKeyIfMissing_steps made, rfl⟩

/-- A run that made the initial key, or found one, has finished with the key. -/
theorem makeInitialSessionKey_resolves
    {trace : List Call}
    {entry : LogEntry}
    (runs :
      Runs (makeInitialSessionKey libraries environment) trace (.ok entry)) :
    ∃ endpoint earlier later wasKeyCreated,
      trace = earlier ++ later ∧
        KeyProgress endpoint later (.settled (.ok wasKeyCreated)) ∧
        entry = keyEntry wasKeyCreated := by
  rcases runs_bind_iff.mp runs with
    ⟨_, -, impossible⟩ | ⟨endpoint, earlier, rest, rfl, -, making⟩
  · cases impossible
  · rcases runs_bind_iff.mp making with
      ⟨_, -, impossible⟩ | ⟨wasKeyCreated, later, last, rfl, made, logging⟩
    · cases impossible
    · obtain ⟨rfl, resolved⟩ := runs_settled_iff.mp logging
      cases resolved
      exact ⟨endpoint, earlier, later, wasKeyCreated, by simp,
        makeInitialSessionKeyIfMissing_steps made, rfl⟩

/-- After it has generated the key, a run is done making it. -/
theorem resolved_of_generation
    {trace : List Call}
    {remaining : Promise LogEntry}
    {nodeId : String}
    {key : SessionKey}
    (steps :
      Steps (makeInitialSessionKey libraries environment) trace remaining)
    (generated : ⟨.generateSessionKey nodeId, .ok key⟩ ∈ trace) :
    remaining = .settled (.ok createdEntry) := by
  rcases makeInitialSessionKey_steps steps with
    loading | ⟨endpoint, earlier, later, made, rfl, loading, progress, rfl⟩
  · obtain ⟨keyRef, impossible⟩ := loading _ generated
    cases impossible
  · rcases List.mem_append.mp generated with inEarlier | inLater
    · obtain ⟨keyRef, impossible⟩ := loading _ inEarlier
      cases impossible
    · cases progress with
      | notStarted =>
          cases inLater
      | checkFailed =>
          simp [keyCheck] at inLater
      | keyExists =>
          simp [keyCheck] at inLater
      | keyMissing =>
          simp [keyCheck] at inLater
      | generated outcome =>
          have isLast :
              (⟨.generateSessionKey nodeId, .ok key⟩ : Call) =
                keyGeneration endpoint outcome := by
            simpa [keyCheck] using inLater
          cases outcome with
          | error failure =>
              cases isLast
          | ok generatedKey =>
              rfl

/-- A bootstrap run is making the key, or it has stopped doing so and is closing up. -/
theorem bootstrapData_steps
    {trace : List Call}
    {remaining : Promise Report}
    (steps : Steps (bootstrapData libraries environment) trace remaining) :
    (∃ middle,
        Steps (makeInitialSessionKey libraries environment) trace middle) ∨
      ∃ made earlier later,
        trace = earlier ++ later ∧
          Runs (makeInitialSessionKey libraries environment) earlier made ∧
          ∀ call ∈ later, call.operation = .closeConnection := by
  rcases steps_settled_bind steps with rfl | ⟨_, -, connecting⟩
  · exact .inl ⟨_, .done _⟩
  · rcases steps_settled_bind connecting with rfl | ⟨_, -, attempting⟩
    · exact .inl ⟨_, .done _⟩
    · rcases steps_bind_iff.mp attempting with
        ⟨_, making, -⟩ | ⟨made, earlier, later, rfl, making, closing⟩
      · obtain ⟨middle, -, steps⟩ := steps_attempt_iff.mp making
        exact .inl ⟨middle, steps⟩
      · obtain ⟨_, same, ran⟩ := runs_attempt_iff.mp making
        cases same
        refine .inr ⟨made, earlier, later, rfl, ran, ?_⟩
        rcases steps_await_iff.mp closing with
          ⟨rfl, -⟩ | ⟨outcome, rest, rfl, reporting⟩
        · simp
        · obtain ⟨rfl, -⟩ := steps_settled_iff.mp reporting
          simp

/-- A bootstrap run that reports closed the connection after it tried to make the key. -/
theorem bootstrapData_resolves
    {trace : List Call}
    {result : Report}
    (runs : Runs (bootstrapData libraries environment) trace (.ok result)) :
    ∃ made closed earlier,
      trace = earlier ++ [⟨.closeConnection, closed⟩] ∧
        Runs (makeInitialSessionKey libraries environment) earlier made ∧
        result = report made closed := by
  obtain ⟨_, -, connecting⟩ := runs_settled_bind runs
  obtain ⟨_, -, attempting⟩ := runs_settled_bind connecting
  rcases runs_bind_iff.mp attempting with
    ⟨_, -, impossible⟩ | ⟨made, earlier, later, rfl, making, closing⟩
  · cases impossible
  · obtain ⟨_, same, ran⟩ := runs_attempt_iff.mp making
    cases same
    obtain ⟨closed, rest, rfl, reporting⟩ := runs_await_iff.mp closing
    obtain ⟨rfl, reported⟩ := runs_settled_iff.mp reporting
    cases reported
    exact ⟨made, closed, earlier, rfl, ran, rfl⟩

/-! ## What a run did to the key -/

/-- Right before a run generates a key, it found that there was none. -/
theorem checked_of_generation
    {trace : List Call}
    {remaining : Promise LogEntry}
    {nodeId : String}
    {outcome : Except Failure SessionKey}
    (steps :
      Steps (makeInitialSessionKey libraries environment)
        (trace ++ [⟨.generateSessionKey nodeId, outcome⟩]) remaining) :
    ∃ earlier,
      trace =
        earlier ++ [⟨.retrieveUnboundSessionPublicKey nodeId, .ok none⟩] := by
  rcases makeInitialSessionKey_steps steps with
    loading | ⟨endpoint, earlier, later, made, shape, loading, progress, -⟩
  · obtain ⟨keyRef, impossible⟩ :=
      loading ⟨.generateSessionKey nodeId, outcome⟩ (by simp)
    cases impossible
  · cases progress with
    | notStarted =>
        rw [List.append_nil] at shape
        obtain ⟨keyRef, impossible⟩ :=
          loading ⟨.generateSessionKey nodeId, outcome⟩ (by simp [← shape])
        cases impossible
    | checkFailed =>
        cases (List.append_inj' shape rfl).2
    | keyExists =>
        cases (List.append_inj' shape rfl).2
    | keyMissing =>
        cases (List.append_inj' shape rfl).2
    | generated attempted =>
        rw [List.append_cons earlier] at shape
        obtain ⟨rfl, isLast⟩ := List.append_inj' shape rfl
        cases isLast
        exact ⟨earlier, rfl⟩

/-- The same of a whole bootstrap run. -/
theorem bootstrapData_checked_of_generation
    {trace : List Call}
    {remaining : Promise Report}
    {nodeId : String}
    {outcome : Except Failure SessionKey}
    (steps :
      Steps (bootstrapData libraries environment)
        (trace ++ [⟨.generateSessionKey nodeId, outcome⟩]) remaining) :
    ∃ earlier,
      trace =
        earlier ++ [⟨.retrieveUnboundSessionPublicKey nodeId, .ok none⟩] := by
  rcases bootstrapData_steps steps with
    ⟨middle, making⟩ | ⟨made, earlier, later, shape, making, closing⟩
  · exact checked_of_generation making
  · rcases List.eq_nil_or_concat later with rfl | ⟨closed, last, rfl⟩
    · rw [List.append_nil] at shape
      rw [← shape] at making
      exact checked_of_generation making
    · rw [List.concat_eq_append, ← List.append_assoc] at shape
      obtain ⟨-, isLast⟩ := List.append_inj' shape rfl
      cases isLast
      cases closing ⟨.generateSessionKey nodeId, outcome⟩ (by simp)

/-- A run that is about to generate a key has just found that there was none. -/
theorem checked_of_awaiting
    {trace : List Call}
    {nodeId : String}
    {resume : Except Failure SessionKey → Promise Report}
    (steps :
      Steps (bootstrapData libraries environment) trace
        (.await (.generateSessionKey nodeId) resume)) :
    ∃ earlier,
      trace =
        earlier ++ [⟨.retrieveUnboundSessionPublicKey nodeId, .ok none⟩] :=
  bootstrapData_checked_of_generation
    (steps.extend (.resumed _ _ (.error (Failure.unavailable ""))))

/-- A run that made these calls has logged the line about the key. -/
def Logged
    (libraries : Libraries)
    (environment : Environment)
    (entry : LogEntry)
    (trace : List Call) : Prop :=
  ∃ earlier later,
    trace = earlier ++ later ∧
      Runs (makeInitialSessionKey libraries environment) earlier (.ok entry)

/-- A run has logged the creation of a key exactly when it has generated one. -/
theorem logged_created_iff
    {trace : List Call}
    {remaining : Promise Report}
    (steps : Steps (bootstrapData libraries environment) trace remaining) :
    Logged libraries environment createdEntry trace ↔
      ∃ nodeId key, ⟨.generateSessionKey nodeId, .ok key⟩ ∈ trace := by
  constructor
  · rintro ⟨earlier, later, rfl, runs⟩
    obtain ⟨endpoint, loaded, made, wasKeyCreated, rfl, progress, entry⟩ :=
      makeInitialSessionKey_resolves runs
    cases wasKeyCreated with
    | false =>
        exact absurd entry (by decide)
    | true =>
        obtain ⟨key, generated⟩ := progress.generated_of_true
        exact ⟨endpoint.id, key,
          List.mem_append_left later (List.mem_append_right loaded generated)⟩
  · rintro ⟨nodeId, key, generated⟩
    rcases bootstrapData_steps steps with
      ⟨middle, making⟩ | ⟨made, earlier, later, rfl, making, closing⟩
    · rw [resolved_of_generation making generated] at making
      exact ⟨trace, [], by simp, making⟩
    · rcases List.mem_append.mp generated with inEarlier | inLater
      · cases resolved_of_generation making inEarlier
        exact ⟨earlier, later, rfl, making⟩
      · cases closing _ inLater

/-- A run that reports has logged the creation exactly when its report says so. -/
theorem created_mem_report_iff
    {trace : List Call}
    {result : Report}
    (runs : Runs (bootstrapData libraries environment) trace (.ok result)) :
    createdEntry ∈ result.logged ↔
      Logged libraries environment createdEntry trace := by
  have generation := logged_created_iff runs
  obtain ⟨made, closed, earlier, rfl, making, rfl⟩ := bootstrapData_resolves runs
  constructor
  · intro member
    cases made with
    | error failure =>
        simp [report] at member
    | ok entry =>
        simp only [report, List.mem_singleton] at member
        subst member
        exact ⟨earlier, _, rfl, making⟩
  · intro logged
    obtain ⟨nodeId, key, generated⟩ := generation.mp logged
    have inEarlier :
        (⟨.generateSessionKey nodeId, .ok key⟩ : Call) ∈ earlier := by
      simpa using generated
    cases resolved_of_generation making inEarlier
    simp [report]

end Bootstrap

end AwalaEndpoint
