import Mathlib.Data.Option.Defs
import AwalaEndpoint.Library.Pool

namespace Awaiting

open LabelledRuns

/-!
# Operations that are implemented by programs

An interface is extended by further operations, and every operation of a program
is replaced by a program over the extended interface that implements it.  A run
of the expanded program is a run of the original one in which each operation
settles as its implementation does.

In a pool, others can take steps while an operation is being carried out.  When
nothing of it can be noticed before its last step, which does what the operation
says, the pool of the expanded programs simulates the pool of the original ones:
the same is seen to happen, in the same order, and each caller settles as it
could have if its operations were indivisible.
-/

/-- An interface with further operations. -/
@[reducible] def Interface.extend
    (interface : Interface)
    (Further : Type)
    (FurtherAnswer : Further → Type) : Interface where
  Operation := interface.Operation ⊕ Further
  Answer
    | .inl operation => interface.Answer operation
    | .inr operation => FurtherAnswer operation
  Failure := interface.Failure

/-- A program of the extended interface for each operation of the interface. -/
abbrev Implementation
    (interface : Interface)
    (Further : Type)
    (FurtherAnswer : Further → Type) : Type :=
  (operation : interface.Operation) →
    Program (interface.extend Further FurtherAnswer)
      (interface.Answer operation)

variable {interface : Interface}
  {Further : Type}
  {FurtherAnswer : Further → Type}
  {First : Type}

/-- Replace every operation of a program by its implementation. -/
def Program.expand
    (implement : Implementation interface Further FurtherAnswer) :
    Program interface First →
      Program (interface.extend Further FurtherAnswer) First
  | .settled result => .settled result
  | .await operation resume =>
      (implement operation).attempt >>= fun outcome =>
        (resume outcome).expand implement

/-- A trace of implementations, one for each of the given operations. -/
inductive Expands
    (implement : Implementation interface Further FurtherAnswer) :
    List (Completed interface) →
      List (Completed (interface.extend Further FurtherAnswer)) → Prop where
  | nil :
      Expands implement [] []
  | cons
      {operation : interface.Operation}
      {outcome : interface.Outcome operation}
      {rest : List (Completed interface)}
      {part later : List (Completed (interface.extend Further FurtherAnswer))} :
      Runs (implement operation) part outcome →
      Expands implement rest later →
      Expands implement (⟨operation, outcome⟩ :: rest) (part ++ later)

/--
An expanded program runs like the original one, each of whose operations settles
as its implementation does.
-/
theorem runs_expand_iff
    {implement : Implementation interface Further FurtherAnswer}
    {program : Program interface First}
    {trace : List (Completed (interface.extend Further FurtherAnswer))}
    {result : Except interface.Failure First} :
    Runs (program.expand implement) trace result ↔
      ∃ calls, Expands implement calls trace ∧ Runs program calls result := by
  induction program generalizing trace with
  | settled settledResult =>
      constructor
      · intro runs
        obtain ⟨rfl, rfl⟩ := runs_settled_iff.mp runs
        exact ⟨[], .nil, .done _⟩
      · rintro ⟨calls, expands, runs⟩
        obtain ⟨rfl, rfl⟩ := runs_settled_iff.mp runs
        cases expands
        exact .done _
  | await operation resume inductionHypothesis =>
      constructor
      · intro runs
        rcases runs_bind_iff.mp runs with
          ⟨_, caught, -⟩ | ⟨outcome, part, later, rfl, caught, continued⟩
        · obtain ⟨_, impossible, -⟩ := runs_attempt_iff.mp caught
          cases impossible
        · obtain ⟨_, same, implemented⟩ := runs_attempt_iff.mp caught
          cases same
          obtain ⟨calls, expands, ran⟩ :=
            (inductionHypothesis outcome).mp continued
          exact ⟨⟨operation, outcome⟩ :: calls, .cons implemented expands,
            runs_await_iff.mpr ⟨outcome, calls, rfl, ran⟩⟩
      · rintro ⟨calls, expands, runs⟩
        obtain ⟨outcome, rest, rfl, ran⟩ := runs_await_iff.mp runs
        cases expands with
        | @cons _ _ _ part later implemented expands =>
            apply runs_bind_iff.mpr
            refine .inr ⟨outcome, part, later, rfl, ?_, ?_⟩
            · exact runs_attempt_iff.mpr ⟨outcome, rfl, implemented⟩
            · exact (inductionHypothesis outcome).mpr ⟨rest, expands, ran⟩

/-- A single operation settles in one step. -/
theorem advance_of_perform
    {operation : interface.Operation}
    {trace : List (Completed interface)}
    {middle next : Program interface (interface.Answer operation)}
    {completed : Completed interface}
    (steps : Steps (Program.perform operation) trace middle)
    (stepped : Advance middle completed next) :
    ∃ outcome,
      completed = ⟨operation, outcome⟩ ∧ next = .settled outcome := by
  rcases steps_await_iff.mp steps with
    ⟨-, rfl⟩ | ⟨outcome, rest, -, afterwards⟩
  · exact advance_await_iff.mp stepped
  · obtain ⟨-, rfl⟩ := steps_settled_iff.mp afterwards
    exact (advance_settled_iff.mp stepped).elim

/-! ## Simulation of one program -/

/-- A world and what can be seen of the operations that settle in it. -/
structure Scene
    (interface : Interface)
    (World Label : Type) where
  perform : World → Completed interface → World → Prop
  label : Completed interface → Option Label

/--
An implementation commits at its end.  Its last step does what the operation
says and looks like it, the steps before it go unnoticed, and so does an
operation whose implementation settles at once.
-/
structure CommitsAtEnd
    {World DetailedWorld Label : Type}
    (implement : Implementation interface Further FurtherAnswer)
    (scene : Scene interface World Label)
    (detailedScene :
      Scene (interface.extend Further FurtherAnswer) DetailedWorld Label)
    (observe : DetailedWorld → World) : Prop where
  immediately :
    ∀ operation outcome,
      implement operation = .settled outcome →
      scene.label ⟨operation, outcome⟩ = none ∧
        ∀ world, scene.perform world ⟨operation, outcome⟩ world
  unnoticed :
    ∀ operation trace middle completed next before after,
      Steps (implement operation) trace middle →
      Advance middle completed next →
      (∀ outcome, next ≠ .settled outcome) →
      detailedScene.perform before completed after →
      detailedScene.label completed = none ∧ observe after = observe before
  lastly :
    ∀ operation trace middle completed outcome before after,
      Steps (implement operation) trace middle →
      Advance middle completed (.settled outcome) →
      detailedScene.perform before completed after →
      scene.label ⟨operation, outcome⟩ = detailedScene.label completed ∧
        scene.perform (observe before) ⟨operation, outcome⟩ (observe after)

/-- Operations that can settle unseen without changing the world. -/
def Silent
    {World Label : Type}
    (scene : Scene interface World Label)
    (calls : List (Completed interface)) : Prop :=
  ∀ call ∈ calls,
    scene.label call = none ∧ ∀ world, scene.perform world call world

theorem Silent.nil
    {World Label : Type}
    {scene : Scene interface World Label} :
    Silent scene [] := by
  simp [Silent]

/-- Silent operations are not seen. -/
theorem Silent.filterMap_label
    {World Label : Type}
    {scene : Scene interface World Label}
    {calls : List (Completed interface)}
    (silent : Silent scene calls) :
    calls.filterMap scene.label = [] :=
  List.filterMap_eq_nil_iff.mpr fun call member => (silent call member).1

/-- Silent operations can settle one after another. -/
theorem Silent.run
    {World Label : Type}
    {scene : Scene interface World Label}
    {calls : List (Completed interface)}
    (silent : Silent scene calls)
    (world : World) :
    Run scene.perform world calls world := by
  induction calls with
  | nil =>
      exact .done world
  | cons call rest inductionHypothesis =>
      apply Run.next ((silent call (by simp)).2 world)
      apply inductionHypothesis
      intro later member
      exact silent later (List.mem_cons_of_mem call member)

/-- An expanded program has settled, or it is carrying out an operation. -/
inductive Follows
    (implement : Implementation interface Further FurtherAnswer) :
    Program interface First →
      Program (interface.extend Further FurtherAnswer) First → Prop where
  | settled (result : Except interface.Failure First) :
      Follows implement (.settled result) (.settled result)
  | carryingOut
      {operation : interface.Operation}
      {resume : interface.Outcome operation → Program interface First}
      {trace : List (Completed (interface.extend Further FurtherAnswer))}
      {middle :
        Program (interface.extend Further FurtherAnswer)
          (interface.Answer operation)} :
      Steps (implement operation) trace middle →
      (∀ outcome, middle ≠ .settled outcome) →
      Follows implement
        (.await operation resume)
        (middle.attempt >>= fun outcome => (resume outcome).expand implement)

/-- An expanded program is where silent operations lead the original one. -/
def Explains
    {World Label : Type}
    (implement : Implementation interface Further FurtherAnswer)
    (scene : Scene interface World Label)
    (program : Program interface First)
    (detailed : Program (interface.extend Further FurtherAnswer) First) :
    Prop :=
  ∃ calls reached,
    Steps program calls reached ∧
      Silent scene calls ∧
      Follows implement reached detailed

section Simulation

variable {World DetailedWorld Label : Type}
  {implement : Implementation interface Further FurtherAnswer}
  {scene : Scene interface World Label}
  {detailedScene :
    Scene (interface.extend Further FurtherAnswer) DetailedWorld Label}
  {observe : DetailedWorld → World}

/-- A program explains its expansion. -/
theorem explains_expand
    (commits : CommitsAtEnd implement scene detailedScene observe)
    (program : Program interface First) :
    Explains implement scene program (program.expand implement) := by
  induction program with
  | settled result =>
      exact ⟨[], _, .done _, .nil, .settled result⟩
  | await operation resume inductionHypothesis =>
      by_cases isImmediate : ∃ outcome, implement operation = .settled outcome
      · obtain ⟨outcome, settles⟩ := isImmediate
        obtain ⟨calls, reached, steps, silent, follows⟩ :=
          inductionHypothesis outcome
        refine ⟨⟨operation, outcome⟩ :: calls, reached,
          .next (.resumed operation resume outcome) steps, ?_, ?_⟩
        · intro call member
          rcases List.mem_cons.mp member with rfl | isLater
          · exact commits.immediately operation outcome settles
          · exact silent call isLater
        · rw [Program.expand, settles]
          exact follows
      · refine ⟨[], _, .done _, .nil, .carryingOut (.done _) ?_⟩
        intro outcome settles
        exact isImmediate ⟨outcome, settles⟩

/-- A program that explains a settled one settles in the same way. -/
theorem Explains.settles
    {program : Program interface First}
    {result : Except interface.Failure First}
    (explains : Explains implement scene program (.settled result)) :
    ∃ calls, Runs program calls result ∧ Silent scene calls := by
  obtain ⟨calls, reached, steps, silent, follows⟩ := explains
  generalize isSettled :
    (Program.settled result :
        Program (interface.extend Further FurtherAnswer) First) =
      detailed at follows
  cases follows with
  | settled other =>
      cases isSettled
      exact ⟨calls, steps, silent⟩
  | @carryingOut _ _ _ middle _ unsettled =>
      cases middle with
      | settled outcome =>
          exact absurd rfl (unsettled outcome)
      | await operation resume =>
          cases isSettled

/-- A step of an expanded program is explained by steps of the original one. -/
theorem Explains.advance
    (commits : CommitsAtEnd implement scene detailedScene observe)
    {program : Program interface First}
    {detailed advanced :
      Program (interface.extend Further FurtherAnswer) First}
    {completed : Completed (interface.extend Further FurtherAnswer)}
    {before after : DetailedWorld}
    (explains : Explains implement scene program detailed)
    (stepped : Advance detailed completed advanced)
    (performed : detailedScene.perform before completed after) :
    ∃ calls reached,
      Steps program calls reached ∧
        Run scene.perform (observe before) calls (observe after) ∧
        calls.filterMap scene.label =
          (detailedScene.label completed).toList ∧
        Explains implement scene reached advanced := by
  obtain ⟨calls, current, steps, silent, follows⟩ := explains
  cases follows with
  | settled result =>
      exact (advance_settled_iff.mp stepped).elim
  | @carryingOut operation resume trace middle implementing unsettled =>
      cases middle with
      | settled outcome =>
          exact absurd rfl (unsettled outcome)
      | await detail proceed =>
          obtain ⟨answer, rfl, rfl⟩ := advance_await_iff.mp stepped
          have moved :
              Advance (.await detail proceed) ⟨detail, answer⟩
                (proceed answer) :=
            .resumed detail proceed answer
          by_cases isLast : ∃ outcome, proceed answer = .settled outcome
          · obtain ⟨outcome, settles⟩ := isLast
            rw [settles] at moved
            obtain ⟨looksSame, commit⟩ :=
              commits.lastly operation trace _ _ outcome before after
                implementing moved performed
            refine ⟨calls ++ [⟨operation, outcome⟩], resume outcome, ?_, ?_, ?_,
              ?_⟩
            · exact steps.extend (.resumed operation resume outcome)
            · exact (silent.run (observe before)).extend commit
            · rw [List.filterMap_append, silent.filterMap_label, ← looksSame]
              cases seen : scene.label ⟨operation, outcome⟩ <;>
                simp [seen]
            · change
                Explains implement scene (resume outcome)
                  ((proceed answer).attempt >>= fun outcome =>
                    (resume outcome).expand implement)
              rw [settles]
              exact explains_expand commits (resume outcome)
          · have stillUnsettled :
                ∀ outcome, proceed answer ≠ .settled outcome := by
              intro outcome settles
              exact isLast ⟨outcome, settles⟩
            obtain ⟨unseen, quiet⟩ :=
              commits.unnoticed operation trace _ _ _ before after implementing
                moved stillUnsettled performed
            refine ⟨[], program, .done _, ?_, ?_, ?_⟩
            · rw [quiet]
              exact .done _
            · rw [unseen]
              rfl
            · exact ⟨calls, _, steps, silent,
                .carryingOut (implementing.extend moved) stillUnsettled⟩

/-! ## Simulation of a pool -/

variable {Caller : Type}
  {Result : Caller → Type}

/-- What is seen of a pool: operations with what they look like, and crashes. -/
def seenIn
    {interface : Interface}
    (label : Completed interface → Option Label)
    (events : List (PoolEvent interface Caller)) :
    List (Caller × Option Label) :=
  events.filterMap fun event =>
    match event with
    | .performed caller completed =>
        (label completed).map fun seen => (caller, some seen)
    | .crashed caller => some (caller, none)

theorem seenIn_append
    {interface : Interface}
    (label : Completed interface → Option Label)
    (earlier later : List (PoolEvent interface Caller)) :
    seenIn label (earlier ++ later) =
      seenIn label earlier ++ seenIn label later :=
  List.filterMap_append ..

/-- Of the steps of one caller, the operations are seen that can be seen. -/
theorem seenIn_map_performed
    {interface : Interface}
    (label : Completed interface → Option Label)
    (caller : Caller)
    (calls : List (Completed interface)) :
    seenIn label (calls.map (.performed caller)) =
      (calls.filterMap label).map fun seen => (caller, some seen) := by
  simp only [seenIn, List.filterMap_map, List.map_filterMap]
  rfl

/-- A pool explains one of expanded programs, caller by caller. -/
structure Simulates
    (implement : Implementation interface Further FurtherAnswer)
    (scene : Scene interface World Label)
    (observe : DetailedWorld → World)
    (configuration : Configuration interface Caller Result World)
    (detailed :
      Configuration (interface.extend Further FurtherAnswer) Caller Result
        DetailedWorld) : Prop where
  world : configuration.world = observe detailed.world
  processes :
    ∀ caller,
      Option.Rel (Explains implement scene)
        (configuration.processes caller) (detailed.processes caller)

variable [DecidableEq Caller]

/-- Callers are still explained when one of them moves on in both pools. -/
theorem explained_update
    {processes : (caller : Caller) → Option (Program interface (Result caller))}
    {detailed :
      (caller : Caller) →
        Option
          (Program (interface.extend Further FurtherAnswer) (Result caller))}
    (explained :
      ∀ caller,
        Option.Rel (Explains implement scene)
          (processes caller) (detailed caller))
    (owner : Caller)
    {remaining : Option (Program interface (Result owner))}
    {detailedRemaining :
      Option (Program (interface.extend Further FurtherAnswer) (Result owner))}
    (moved :
      Option.Rel (Explains implement scene) remaining detailedRemaining)
    (caller : Caller) :
    Option.Rel (Explains implement scene)
      (Function.update processes owner remaining caller)
      (Function.update detailed owner detailedRemaining caller) := by
  by_cases isOwner : caller = owner
  · subst isOwner
    rw [Function.update_self, Function.update_self]
    exact moved
  · rw [Function.update_of_ne isOwner, Function.update_of_ne isOwner]
    exact explained caller

/-- Each step of the detailed pool is explained by steps of the other one. -/
theorem Simulates.step
    (commits : CommitsAtEnd implement scene detailedScene observe)
    {configuration : Configuration interface Caller Result World}
    {detailed next :
      Configuration (interface.extend Further FurtherAnswer) Caller Result
        DetailedWorld}
    {event : PoolEvent (interface.extend Further FurtherAnswer) Caller}
    (simulates : Simulates implement scene observe configuration detailed)
    (stepped : PoolStep detailedScene.perform detailed event next) :
    ∃ events reached,
      Run (PoolStep scene.perform) configuration events reached ∧
        seenIn scene.label events = seenIn detailedScene.label [event] ∧
        Simulates implement scene observe reached next := by
  obtain ⟨world, processes⟩ := configuration
  obtain ⟨rfl, explained⟩ := simulates
  cases stepped with
  | @performed before after detailedProcesses caller current advanced completed
      awaiting advance performs =>
      have explains :
          Option.Rel (Explains implement scene) (processes caller)
            (some current) := by
        rw [← awaiting]
        exact explained caller
      generalize isProcess : processes caller = process at explains
      cases explains with
      | some explains =>
          obtain ⟨calls, reached, steps, performed, looksSame, explainsRest⟩ :=
            explains.advance commits advance performs
          refine ⟨_, _, run_alone steps performed isProcess, ?_, rfl,
            explained_update explained caller (.some explainsRest)⟩
          rw [seenIn_map_performed, looksSame]
          cases seen : detailedScene.label completed <;>
            simp [seenIn, seen]
  | @crashed before detailedProcesses caller =>
      exact ⟨[.crashed caller], _, .next .crashed (.done _), rfl, rfl,
        explained_update explained caller .none⟩

/-- Every run of the detailed pool is explained by a run of the other one. -/
theorem Simulates.run
    (commits : CommitsAtEnd implement scene detailedScene observe)
    {configuration : Configuration interface Caller Result World}
    {detailed last :
      Configuration (interface.extend Further FurtherAnswer) Caller Result
        DetailedWorld}
    {events : List (PoolEvent (interface.extend Further FurtherAnswer) Caller)}
    (simulates : Simulates implement scene observe configuration detailed)
    (run : Run (PoolStep detailedScene.perform) detailed events last) :
    ∃ explanation reached,
      Run (PoolStep scene.perform) configuration explanation reached ∧
        seenIn scene.label explanation = seenIn detailedScene.label events ∧
        Simulates implement scene observe reached last := by
  induction run generalizing configuration with
  | done =>
      exact ⟨[], configuration, .done _, rfl, simulates⟩
  | @next _ _ _ event later stepped _ inductionHypothesis =>
      obtain ⟨leading, middle, led, seen, simulatesNext⟩ :=
        simulates.step commits stepped
      obtain ⟨trailing, reached, trailed, seenLater, simulatesLast⟩ :=
        inductionHypothesis simulatesNext
      refine ⟨leading ++ trailing, reached, led.append trailed, ?_,
        simulatesLast⟩
      rw [seenIn_append, seen, seenLater, ← seenIn_append, List.singleton_append]

/-- A caller that has settled in the detailed pool can settle in the other one. -/
theorem Simulates.settle
    {configuration : Configuration interface Caller Result World}
    {detailed :
      Configuration (interface.extend Further FurtherAnswer) Caller Result
        DetailedWorld}
    {caller : Caller}
    {result : Except interface.Failure (Result caller)}
    (simulates : Simulates implement scene observe configuration detailed)
    (settled : detailed.processes caller = some (.settled result)) :
    ∃ events reached,
      Run (PoolStep scene.perform) configuration events reached ∧
        seenIn scene.label events = [] ∧
        Simulates implement scene observe reached detailed ∧
        reached.processes caller = some (.settled result) ∧
        ∀ other, other ≠ caller →
          reached.processes other = configuration.processes other := by
  obtain ⟨world, processes⟩ := configuration
  obtain ⟨sameWorld, explained⟩ := simulates
  have explains :
      Option.Rel (Explains implement scene) (processes caller)
        (some (.settled result)) := by
    rw [← settled]
    exact explained caller
  generalize isProcess : processes caller = process at explains
  cases explains with
  | some explains =>
      obtain ⟨calls, runs, silent⟩ := explains.settles
      have isExplained :
          Option.Rel (Explains implement scene)
            (some (.settled result)) (detailed.processes caller) := by
        rw [settled]
        exact .some ⟨[], _, .done _, .nil, .settled result⟩
      refine ⟨_, _, run_alone runs (silent.run world) isProcess, ?_,
        ⟨sameWorld, ?_⟩, Function.update_self _ _ _, ?_⟩
      · rw [seenIn_map_performed, silent.filterMap_label]
        rfl
      · intro other
        have keeps := explained_update explained caller isExplained other
        rwa [Function.update_eq_self] at keeps
      · intro other isOther
        exact Function.update_of_ne isOther _ _

/-- Callers that have settled in the detailed pool can settle in the other one. -/
theorem Simulates.catchUp
    {configuration : Configuration interface Caller Result World}
    {detailed :
      Configuration (interface.extend Further FurtherAnswer) Caller Result
        DetailedWorld}
    (simulates : Simulates implement scene observe configuration detailed)
    (callers : List Caller) :
    ∃ events reached,
      Run (PoolStep scene.perform) configuration events reached ∧
        seenIn scene.label events = [] ∧
        Simulates implement scene observe reached detailed ∧
        ∀ caller ∈ callers, ∀ result,
          detailed.processes caller = some (.settled result) →
          reached.processes caller = some (.settled result) := by
  induction callers with
  | nil =>
      exact ⟨[], configuration, .done _, rfl, simulates, by simp⟩
  | cons caller rest inductionHypothesis =>
      obtain ⟨events, middle, run, unseen, explained, caughtUp⟩ :=
        inductionHypothesis
      by_cases hasSettled :
          ∃ result, detailed.processes caller = some (.settled result)
      · obtain ⟨result, settled⟩ := hasSettled
        obtain ⟨further, reached, ran, unseenToo, explainedLater, isSettled,
          others⟩ := explained.settle settled
        refine ⟨events ++ further, reached, run.append ran, ?_, explainedLater,
          ?_⟩
        · rw [seenIn_append, unseen, unseenToo, List.append_nil]
        · intro other member otherResult otherSettled
          by_cases isCaller : other = caller
          · subst isCaller
            cases settled.symm.trans otherSettled
            exact isSettled
          · rw [others other isCaller]
            apply caughtUp other _ otherResult otherSettled
            exact (List.mem_cons.mp member).resolve_left isCaller
      · refine ⟨events, middle, run, unseen, explained, ?_⟩
        intro other member result settled
        rcases List.mem_cons.mp member with rfl | isLater
        · exact absurd ⟨result, settled⟩ hasSettled
        · exact caughtUp other isLater result settled

/--
A run of a pool of expanded programs is explained by one of the original
programs, in which the same is seen and at whose end the world looks the same;
the given callers have settled in the same way.
-/
theorem expanded_run
    (commits : CommitsAtEnd implement scene detailedScene observe)
    {programs : (caller : Caller) → Program interface (Result caller)}
    {world : DetailedWorld}
    {last :
      Configuration (interface.extend Further FurtherAnswer) Caller Result
        DetailedWorld}
    {events : List (PoolEvent (interface.extend Further FurtherAnswer) Caller)}
    (run :
      Run (PoolStep detailedScene.perform)
        (.start world fun caller => (programs caller).expand implement)
        events last)
    (callers : List Caller) :
    ∃ explanation reached,
      Run (PoolStep scene.perform) (.start (observe world) programs) explanation
          reached ∧
        seenIn scene.label explanation = seenIn detailedScene.label events ∧
        Simulates implement scene observe reached last ∧
        ∀ caller ∈ callers, ∀ result,
          last.processes caller = some (.settled result) →
          reached.processes caller = some (.settled result) := by
  have simulates :
      Simulates implement scene observe
        (.start (observe world) programs)
        (.start world fun caller => (programs caller).expand implement) :=
    ⟨rfl, fun caller => .some (explains_expand commits (programs caller))⟩
  obtain ⟨leading, middle, led, seen, simulatesLast⟩ :=
    simulates.run commits run
  obtain ⟨trailing, reached, trailed, unseen, explained, caughtUp⟩ :=
    simulatesLast.catchUp callers
  refine ⟨leading ++ trailing, reached, led.append trailed, ?_, explained,
    caughtUp⟩
  rw [seenIn_append, seen, unseen, List.append_nil]

end Simulation

end Awaiting
