import AwalaEndpoint.Library.LabelledRun

namespace Awaiting

open LabelledRuns

/-!
# Programs that await operations

An asynchronous function is modelled by what it awaits: either it has settled,
resolved with a value or rejected with a failure, or it awaits one operation and
resumes with the outcome of that operation.  Code between two awaits takes no
step of its own.

The meaning of a program is the set of traces it can leave: the operations it
awaited, in order, each with the outcome it was given.  Nothing is assumed here
about which outcomes can occur; a world restricts them by following the trace
along its own states.
-/

/-- The operations a program may await, their answers, and what a rejection carries. -/
structure Interface where
  Operation : Type
  Answer : Operation → Type
  Failure : Type

/-- How an operation settled: an answer or a failure. -/
abbrev Interface.Outcome
    (interface : Interface)
    (operation : interface.Operation) : Type :=
  Except interface.Failure (interface.Answer operation)

/-- An operation that has settled. -/
structure Completed (interface : Interface) where
  operation : interface.Operation
  outcome : interface.Outcome operation

/-- The failure an operation settled with, if it failed. -/
def Completed.failure?
    {interface : Interface}
    (completed : Completed interface) : Option interface.Failure :=
  match completed.outcome with
  | .ok _ => none
  | .error failure => some failure

/-- An asynchronous computation over an interface. -/
inductive Program (interface : Interface) (Result : Type) : Type where
  | settled (result : Except interface.Failure Result)
  | await
      (operation : interface.Operation)
      (resume : interface.Outcome operation → Program interface Result)

variable {interface : Interface} {First Second : Type}

namespace Program

/-- Run one program and, when it resolves, another one with its value. -/
def bind :
    Program interface First →
      (First → Program interface Second) →
      Program interface Second
  | .settled (.ok value), next => next value
  | .settled (.error failure), _ => .settled (.error failure)
  | .await operation resume, next =>
      .await operation fun outcome => (resume outcome).bind next

instance : Monad (Program interface) where
  pure value := .settled (.ok value)
  bind := Program.bind

/-- Reject with a failure. -/
def reject (failure : interface.Failure) : Program interface First :=
  .settled (.error failure)

/-- Await a single operation. -/
def perform
    (operation : interface.Operation) :
    Program interface (interface.Answer operation) :=
  .await operation .settled

/-- Catch every rejection: the outcome becomes the value. -/
def attempt :
    Program interface First →
      Program interface (Except interface.Failure First)
  | .settled result => .settled (.ok result)
  | .await operation resume =>
      .await operation fun outcome => (resume outcome).attempt

@[simp] theorem pure_eq
    (value : First) :
    (pure value : Program interface First) = .settled (.ok value) :=
  rfl

@[simp] theorem settled_ok_bind
    (value : First)
    (next : First → Program interface Second) :
    (Program.settled (.ok value) >>= next) = next value :=
  rfl

@[simp] theorem settled_error_bind
    (failure : interface.Failure)
    (next : First → Program interface Second) :
    (Program.settled (.error failure) >>= next) = .settled (.error failure) :=
  rfl

@[simp] theorem await_bind
    (operation : interface.Operation)
    (resume : interface.Outcome operation → Program interface First)
    (next : First → Program interface Second) :
    (Program.await operation resume >>= next) =
      .await operation fun outcome => resume outcome >>= next :=
  rfl

/-- Mapping the value of an operation is resuming with its image. -/
theorem settled_bind_map
    (image : First → Second) :
    (fun outcome : Except interface.Failure First =>
      (Program.settled outcome >>= fun value =>
        (Program.settled (.ok (image value)) : Program interface Second))) =
      fun outcome => .settled (outcome.map image) := by
  funext outcome
  cases outcome with
  | error failure =>
      rfl
  | ok value =>
      rfl

end Program

/-- One awaited operation settles and the program resumes with its outcome. -/
inductive Advance :
    Program interface First → Completed interface → Program interface First → Prop where
  | resumed
      (operation : interface.Operation)
      (resume : interface.Outcome operation → Program interface First)
      (outcome : interface.Outcome operation) :
      Advance (.await operation resume) ⟨operation, outcome⟩ (resume outcome)

@[simp] theorem advance_settled_iff
    {result : Except interface.Failure First}
    {completed : Completed interface}
    {advanced : Program interface First} :
    Advance (.settled result) completed advanced ↔ False := by
  constructor
  · intro step
    cases step
  · exact False.elim

@[simp] theorem advance_await_iff
    {operation : interface.Operation}
    {resume : interface.Outcome operation → Program interface First}
    {completed : Completed interface}
    {advanced : Program interface First} :
    Advance (.await operation resume) completed advanced ↔
      ∃ outcome, completed = ⟨operation, outcome⟩ ∧ advanced = resume outcome := by
  constructor
  · intro step
    cases step with
    | resumed _ _ outcome =>
        exact ⟨outcome, rfl, rfl⟩
  · rintro ⟨outcome, rfl, rfl⟩
    exact .resumed operation resume outcome

/-- `Steps program trace remaining`: after `trace` the program is at `remaining`. -/
abbrev Steps :
    Program interface First →
      List (Completed interface) →
      Program interface First → Prop :=
  Run Advance

/-- `Runs program trace result`: the program leaves `trace` and settles with `result`. -/
def Runs
    (program : Program interface First)
    (trace : List (Completed interface))
    (result : Except interface.Failure First) : Prop :=
  Steps program trace (.settled result)

/-- A settled program takes no step. -/
theorem steps_settled_iff
    {result : Except interface.Failure First}
    {trace : List (Completed interface)}
    {remaining : Program interface First} :
    Steps (.settled result) trace remaining ↔
      trace = [] ∧ remaining = .settled result := by
  cases trace with
  | nil =>
      simp [eq_comm]
  | cons completed rest =>
      simp

/-- A program that turns out to be settled leaves no trace. -/
theorem trace_eq_nil_of_settled
    {program remaining : Program interface First}
    {trace : List (Completed interface)}
    (steps : Steps program trace remaining)
    (settles : ∃ final, program = .settled final) :
    trace = [] := by
  obtain ⟨final, rfl⟩ := settles
  exact (steps_settled_iff.mp steps).1

/-- A step of a program that starts settled is a step of what comes next. -/
theorem steps_settled_bind
    {result : Except interface.Failure First}
    {next : First → Program interface Second}
    {trace : List (Completed interface)}
    {remaining : Program interface Second}
    (steps : Steps (Program.settled result >>= next) trace remaining) :
    trace = [] ∨
      ∃ value, result = .ok value ∧ Steps (next value) trace remaining := by
  cases result with
  | error failure =>
      exact .inl (steps_settled_iff.mp steps).1
  | ok value =>
      exact .inr ⟨value, rfl, steps⟩

/-- A program that starts settled and resolves did so in what comes next. -/
theorem runs_settled_bind
    {result : Except interface.Failure First}
    {next : First → Program interface Second}
    {trace : List (Completed interface)}
    {resolved : Second}
    (runs : Runs (Program.settled result >>= next) trace (.ok resolved)) :
    ∃ value, result = .ok value ∧ Runs (next value) trace (.ok resolved) := by
  cases result with
  | error failure =>
      cases (steps_settled_iff.mp runs).2
  | ok value =>
      exact ⟨value, rfl, runs⟩

/-- An awaiting program has not moved, or its operation has settled first. -/
theorem steps_await_iff
    {operation : interface.Operation}
    {resume : interface.Outcome operation → Program interface First}
    {trace : List (Completed interface)}
    {remaining : Program interface First} :
    Steps (.await operation resume) trace remaining ↔
      (trace = [] ∧ remaining = .await operation resume) ∨
        ∃ outcome rest,
          trace = ⟨operation, outcome⟩ :: rest ∧
            Steps (resume outcome) rest remaining := by
  cases trace with
  | nil =>
      constructor
      · intro steps
        exact .inl ⟨rfl, (Run.nil_iff.mp steps).symm⟩
      · rintro (⟨_, rfl⟩ | ⟨_, _, shape, _⟩)
        · exact .done _
        · cases shape
  | cons completed rest =>
      simp only [Run.cons_iff, advance_await_iff, List.cons.injEq,
        reduceCtorEq, false_and, false_or]
      constructor
      · rintro ⟨middle, ⟨outcome, rfl, rfl⟩, later⟩
        exact ⟨outcome, rest, ⟨rfl, rfl⟩, later⟩
      · rintro ⟨outcome, later, ⟨rfl, rfl⟩, steps⟩
        exact ⟨resume outcome, ⟨outcome, rfl, rfl⟩, steps⟩

theorem runs_settled_iff
    {result final : Except interface.Failure First}
    {trace : List (Completed interface)} :
    Runs (.settled result) trace final ↔ trace = [] ∧ final = result := by
  simp [Runs, steps_settled_iff]

theorem runs_await_iff
    {operation : interface.Operation}
    {resume : interface.Outcome operation → Program interface First}
    {trace : List (Completed interface)}
    {result : Except interface.Failure First} :
    Runs (.await operation resume) trace result ↔
      ∃ outcome rest,
        trace = ⟨operation, outcome⟩ :: rest ∧
          Runs (resume outcome) rest result := by
  simp [Runs, steps_await_iff]

/-- A single operation leaves itself as trace and its outcome as result. -/
theorem runs_perform_iff
    {operation : interface.Operation}
    {trace : List (Completed interface)}
    {result : interface.Outcome operation} :
    Runs (.perform operation) trace result ↔ trace = [⟨operation, result⟩] := by
  simp only [Program.perform, runs_await_iff, runs_settled_iff]
  constructor
  · rintro ⟨outcome, rest, rfl, rfl, rfl⟩
    rfl
  · rintro rfl
    exact ⟨result, [], rfl, rfl, rfl⟩

/-- A settled program composed with programs that are settled is settled. -/
theorem settled_bind_of_settled
    {result : Except interface.Failure First}
    {next : First → Program interface Second}
    (settles : ∀ value, ∃ final, next value = .settled final) :
    ∃ final, (Program.settled result >>= next) = .settled final := by
  cases result with
  | error failure =>
      exact ⟨_, rfl⟩
  | ok value =>
      exact settles value

/-- Every program settles when every operation it awaits fails. -/
theorem exists_runs
    (failure : interface.Failure)
    (program : Program interface First) :
    ∃ trace result,
      Runs program trace result ∧
        ∀ completed ∈ trace, completed.outcome = .error failure := by
  induction program with
  | settled result =>
      exact ⟨[], result, .done _, by simp⟩
  | await operation resume inductionHypothesis =>
      obtain ⟨trace, result, runs, failing⟩ :=
        inductionHypothesis (.error failure)
      refine ⟨⟨operation, .error failure⟩ :: trace, result,
        runs_await_iff.mpr ⟨.error failure, trace, rfl, runs⟩, ?_⟩
      rw [List.forall_mem_cons]
      exact ⟨rfl, failing⟩

/-- A program that leaves no trace, whatever happens, has settled. -/
theorem settled_of_silent
    (failure : interface.Failure)
    {program : Program interface First}
    (silent : ∀ trace result, Runs program trace result → trace = []) :
    ∃ result, program = .settled result := by
  obtain ⟨trace, result, runs, -⟩ := exists_runs failure program
  cases silent trace result runs
  exact ⟨result, Run.nil_iff.mp runs⟩

/-- What a program has done is the beginning of a run in which all further calls fail. -/
theorem exists_runs_of_steps
    (failure : interface.Failure)
    {program remaining : Program interface First}
    {trace : List (Completed interface)}
    (steps : Steps program trace remaining) :
    ∃ rest result,
      Runs program (trace ++ rest) result ∧
        ∀ completed ∈ rest, completed.outcome = .error failure := by
  obtain ⟨rest, result, runs, failing⟩ := exists_runs failure remaining
  exact ⟨rest, result, steps.append runs, failing⟩

/--
A composed program fails with its first part, or its trace is that of the first
part followed by that of the second.
-/
theorem runs_bind_iff
    {program : Program interface First}
    {next : First → Program interface Second}
    {trace : List (Completed interface)}
    {result : Except interface.Failure Second} :
    Runs (program >>= next) trace result ↔
      (∃ failure,
          Runs program trace (.error failure) ∧ result = .error failure) ∨
        ∃ value earlier later,
          trace = earlier ++ later ∧
            Runs program earlier (.ok value) ∧
            Runs (next value) later result := by
  induction program generalizing trace with
  | settled settledResult =>
      cases settledResult with
      | error failure =>
          simp [runs_settled_iff]
      | ok value =>
          simp [runs_settled_iff]
  | await operation resume inductionHypothesis =>
      simp only [Program.await_bind, runs_await_iff, inductionHypothesis]
      constructor
      · rintro ⟨outcome, rest, rfl, ⟨failure, failed, rfl⟩ |
          ⟨value, earlier, later, rfl, resolved, continued⟩⟩
        · exact .inl ⟨failure, ⟨outcome, rest, rfl, failed⟩, rfl⟩
        · exact .inr ⟨value, ⟨operation, outcome⟩ :: earlier, later,
            rfl, ⟨outcome, earlier, rfl, resolved⟩, continued⟩
      · rintro (⟨failure, ⟨outcome, rest, rfl, failed⟩, rfl⟩ |
          ⟨value, _, later, rfl, ⟨outcome, earlier, rfl, resolved⟩, continued⟩)
        · exact ⟨outcome, rest, rfl, .inl ⟨failure, failed, rfl⟩⟩
        · exact ⟨outcome, earlier ++ later, rfl,
            .inr ⟨value, earlier, later, rfl, resolved, continued⟩⟩

/--
A composed program is still in its first part, or it has taken the steps of the
first part and then some of the second.
-/
theorem steps_bind_iff
    {program : Program interface First}
    {next : First → Program interface Second}
    {trace : List (Completed interface)}
    {remaining : Program interface Second} :
    Steps (program >>= next) trace remaining ↔
      (∃ middle, Steps program trace middle ∧ remaining = (middle >>= next)) ∨
        ∃ value earlier later,
          trace = earlier ++ later ∧
            Runs program earlier (.ok value) ∧
            Steps (next value) later remaining := by
  induction program generalizing trace with
  | settled settledResult =>
      cases settledResult with
      | error failure =>
          simp only [Program.settled_error_bind, steps_settled_iff,
            runs_settled_iff]
          constructor
          · rintro ⟨rfl, rfl⟩
            exact .inl ⟨_, ⟨rfl, rfl⟩, rfl⟩
          · rintro (⟨_, ⟨rfl, rfl⟩, rfl⟩ | ⟨_, _, _, _, ⟨_, impossible⟩, _⟩)
            · exact ⟨rfl, rfl⟩
            · cases impossible
      | ok value =>
          simp only [Program.settled_ok_bind, steps_settled_iff,
            runs_settled_iff]
          constructor
          · intro steps
            exact .inr ⟨value, [], trace, rfl, ⟨rfl, rfl⟩, steps⟩
          · rintro (⟨_, ⟨rfl, rfl⟩, rfl⟩ | ⟨_, _, _, rfl, ⟨rfl, same⟩, steps⟩)
            · exact .done _
            · cases same
              exact steps
  | await operation resume inductionHypothesis =>
      simp only [Program.await_bind, steps_await_iff, runs_await_iff,
        inductionHypothesis]
      constructor
      · rintro (⟨rfl, rfl⟩ | ⟨outcome, rest, rfl, ⟨middle, early, rfl⟩ |
          ⟨value, earlier, later, rfl, resolved, continued⟩⟩)
        · exact .inl ⟨_, .inl ⟨rfl, rfl⟩, rfl⟩
        · exact .inl ⟨middle, .inr ⟨outcome, rest, rfl, early⟩, rfl⟩
        · exact .inr ⟨value, ⟨operation, outcome⟩ :: earlier, later, rfl,
            ⟨outcome, earlier, rfl, resolved⟩, continued⟩
      · rintro (⟨_, ⟨rfl, rfl⟩ | ⟨outcome, rest, rfl, early⟩, rfl⟩ |
          ⟨value, _, later, rfl, ⟨outcome, earlier, rfl, resolved⟩, continued⟩)
        · exact .inl ⟨rfl, rfl⟩
        · exact .inr ⟨outcome, rest, rfl, .inl ⟨_, early, rfl⟩⟩
        · exact .inr ⟨outcome, earlier ++ later, rfl,
            .inr ⟨value, earlier, later, rfl, resolved, continued⟩⟩

/-- Catching changes the result of a program and nothing about its trace. -/
theorem runs_attempt_iff
    {program : Program interface First}
    {trace : List (Completed interface)}
    {result : Except interface.Failure (Except interface.Failure First)} :
    Runs program.attempt trace result ↔
      ∃ caught, result = .ok caught ∧ Runs program trace caught := by
  induction program generalizing trace with
  | settled settledResult =>
      simp only [Program.attempt, runs_settled_iff]
      constructor
      · rintro ⟨rfl, rfl⟩
        exact ⟨settledResult, rfl, rfl, rfl⟩
      · rintro ⟨caught, rfl, rfl, rfl⟩
        exact ⟨rfl, rfl⟩
  | await operation resume inductionHypothesis =>
      simp only [Program.attempt, runs_await_iff, inductionHypothesis]
      constructor
      · rintro ⟨outcome, rest, rfl, caught, rfl, ran⟩
        exact ⟨caught, rfl, outcome, rest, rfl, ran⟩
      · rintro ⟨caught, rfl, outcome, rest, rfl, ran⟩
        exact ⟨outcome, rest, rfl, caught, rfl, ran⟩

/-- What is left of a program that is caught is what is left of it, caught. -/
theorem steps_attempt_iff
    {program : Program interface First}
    {trace : List (Completed interface)}
    {remaining : Program interface (Except interface.Failure First)} :
    Steps program.attempt trace remaining ↔
      ∃ middle, remaining = middle.attempt ∧ Steps program trace middle := by
  induction program generalizing trace with
  | settled settledResult =>
      simp only [Program.attempt, steps_settled_iff]
      constructor
      · rintro ⟨rfl, rfl⟩
        exact ⟨_, rfl, rfl, rfl⟩
      · rintro ⟨_, rfl, rfl, rfl⟩
        exact ⟨rfl, rfl⟩
  | await operation resume inductionHypothesis =>
      simp only [Program.attempt, steps_await_iff, inductionHypothesis]
      constructor
      · rintro (⟨rfl, rfl⟩ | ⟨outcome, rest, rfl, middle, rfl, steps⟩)
        · exact ⟨_, rfl, .inl ⟨rfl, rfl⟩⟩
        · exact ⟨middle, rfl, .inr ⟨outcome, rest, rfl, steps⟩⟩
      · rintro ⟨_, rfl, ⟨rfl, rfl⟩ | ⟨outcome, rest, rfl, steps⟩⟩
        · exact .inl ⟨rfl, rfl⟩
        · exact .inr ⟨outcome, rest, rfl, _, rfl, steps⟩

end Awaiting
