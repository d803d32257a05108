import Mathlib.Logic.Function.Basic
import AwalaEndpoint.Library.Program

namespace Awaiting

open LabelledRuns

/-!
# Pools of concurrent programs over a shared world

Any number of callers run one program each against a shared world.  A step of
the pool lets one caller's awaited operation settle, which is the only moment at
which callers can interleave, or crashes a caller for good.

Two projections relate a run of the pool to what is known about sequential runs:
the world only sees the sequence of operations, whoever awaited them, and each
caller only sees its own operations, as a trace of its own program.
-/

/-- The shared world together with what is left of every caller's program. -/
structure Configuration
    (interface : Interface)
    (Caller : Type)
    (Result : Caller → Type)
    (World : Type) where
  world : World
  processes : (caller : Caller) → Option (Program interface (Result caller))

/-- What one step of a pool does. -/
inductive PoolEvent (interface : Interface) (Caller : Type) where
  | performed (caller : Caller) (completed : Completed interface)
  | crashed (caller : Caller)

variable {interface : Interface} {Caller World : Type} {Result : Caller → Type}

namespace PoolEvent

/-- The operation a step performed, if it performed one. -/
def completed? : PoolEvent interface Caller → Option (Completed interface)
  | .performed _ completed => some completed
  | .crashed _ => none

/-- The operation a step performed for the given caller, if it performed one. -/
def completedBy?
    [DecidableEq Caller]
    (caller : Caller) :
    PoolEvent interface Caller → Option (Completed interface)
  | .performed owner completed => if owner = caller then some completed else none
  | .crashed _ => none

/-- The caller a step belongs to. -/
def caller : PoolEvent interface Caller → Caller
  | .performed owner _ => owner
  | .crashed owner => owner

end PoolEvent

/-- The operations of a pool run in the order in which the world saw them. -/
def performedIn
    (events : List (PoolEvent interface Caller)) :
    List (Completed interface) :=
  events.filterMap PoolEvent.completed?

/-- One caller's operations in a pool run. -/
def performedBy
    [DecidableEq Caller]
    (caller : Caller)
    (events : List (PoolEvent interface Caller)) :
    List (Completed interface) :=
  events.filterMap (PoolEvent.completedBy? caller)

/-- One step of a pool. -/
inductive PoolStep
    [DecidableEq Caller]
    (perform : World → Completed interface → World → Prop) :
    Configuration interface Caller Result World →
      PoolEvent interface Caller →
      Configuration interface Caller Result World → Prop where
  | performed
      {before after : World}
      {processes : (caller : Caller) → Option (Program interface (Result caller))}
      {caller : Caller}
      {program advanced : Program interface (Result caller)}
      {completed : Completed interface} :
      processes caller = some program →
      Advance program completed advanced →
      perform before completed after →
      PoolStep perform
        ⟨before, processes⟩
        (.performed caller completed)
        ⟨after, Function.update processes caller (some advanced)⟩
  | crashed
      {world : World}
      {processes : (caller : Caller) → Option (Program interface (Result caller))}
      {caller : Caller} :
      PoolStep perform
        ⟨world, processes⟩
        (.crashed caller)
        ⟨world, Function.update processes caller none⟩

/-- A caller that awaits an operation can take the step in which it settles. -/
theorem PoolStep.settles
    [DecidableEq Caller]
    {perform : World → Completed interface → World → Prop}
    {before after : World}
    {processes : (caller : Caller) → Option (Program interface (Result caller))}
    {caller : Caller}
    {operation : interface.Operation}
    {resume : interface.Outcome operation → Program interface (Result caller)}
    {outcome : interface.Outcome operation}
    (awaits : processes caller = some (.await operation resume))
    (performs : perform before ⟨operation, outcome⟩ after) :
    PoolStep perform
      ⟨before, processes⟩
      (.performed caller ⟨operation, outcome⟩)
      ⟨after, Function.update processes caller (some (resume outcome))⟩ :=
  .performed awaits (.resumed operation resume outcome) performs

/-- A step over a world is one over any view of it that allows the operation. -/
theorem PoolStep.viewed
    [DecidableEq Caller]
    {View : Type}
    {perform : World → Completed interface → World → Prop}
    {other : View → Completed interface → View → Prop}
    {before after : Configuration interface Caller Result World}
    {event : PoolEvent interface Caller}
    (view : World → View)
    (stepped : PoolStep perform before event after)
    (allows :
      ∀ state completed next,
        perform state completed next →
        other (view state) completed (view next)) :
    PoolStep other
      ⟨view before.world, before.processes⟩
      event
      ⟨view after.world, after.processes⟩ := by
  cases stepped with
  | performed awaiting advance performs =>
      exact .performed awaiting advance (allows _ _ _ performs)
  | crashed =>
      exact .crashed

/-- A step leaves every caller but its own where it was. -/
theorem PoolStep.processes_other
    [DecidableEq Caller]
    {perform : World → Completed interface → World → Prop}
    {before after : Configuration interface Caller Result World}
    {event : PoolEvent interface Caller}
    (stepped : PoolStep perform before event after)
    {caller : Caller}
    (isOther : event.caller ≠ caller) :
    after.processes caller = before.processes caller := by
  cases stepped with
  | performed =>
      exact Function.update_of_ne (Ne.symm isOther) _ _
  | crashed =>
      exact Function.update_of_ne (Ne.symm isOther) _ _

/-- The world allows the operation of a step. -/
theorem PoolStep.performs
    [DecidableEq Caller]
    {perform : World → Completed interface → World → Prop}
    {before after : Configuration interface Caller Result World}
    {caller : Caller}
    {completed : Completed interface}
    (stepped : PoolStep perform before (.performed caller completed) after) :
    perform before.world completed after.world := by
  cases stepped with
  | performed _ _ performs =>
      exact performs

/-- A caller that took a step has not crashed. -/
theorem PoolStep.processes_performed
    [DecidableEq Caller]
    {perform : World → Completed interface → World → Prop}
    {before after : Configuration interface Caller Result World}
    {caller : Caller}
    {completed : Completed interface}
    (stepped : PoolStep perform before (.performed caller completed) after) :
    ∃ remaining, after.processes caller = some remaining := by
  cases stepped with
  | performed =>
      exact ⟨_, Function.update_self _ _ _⟩

/-- Nothing is left of a caller that crashes. -/
theorem PoolStep.processes_crashed
    [DecidableEq Caller]
    {perform : World → Completed interface → World → Prop}
    {before after : Configuration interface Caller Result World}
    {caller : Caller}
    (stepped : PoolStep perform before (.crashed caller) after) :
    after.processes caller = none := by
  cases stepped with
  | crashed =>
      exact Function.update_self _ _ _

/-- A pool in which every caller is about to start its program. -/
def Configuration.start
    (world : World)
    (programs : (caller : Caller) → Program interface (Result caller)) :
    Configuration interface Caller Result World where
  world := world
  processes caller := some (programs caller)

section Projections

variable {perform : World → Completed interface → World → Prop}

/-- An operation is performed exactly when some caller performs it. -/
theorem mem_performedIn_iff
    {events : List (PoolEvent interface Caller)}
    {completed : Completed interface} :
    completed ∈ performedIn events ↔
      ∃ caller, PoolEvent.performed caller completed ∈ events := by
  simp only [performedIn, List.mem_filterMap]
  constructor
  · rintro ⟨event, member, extracted⟩
    cases event with
    | performed owner done =>
        cases extracted
        exact ⟨owner, member⟩
    | crashed owner =>
        cases extracted
  · rintro ⟨caller, member⟩
    exact ⟨_, member, rfl⟩

variable [DecidableEq Caller]

theorem performedBy_append
    (caller : Caller)
    (earlier later : List (PoolEvent interface Caller)) :
    performedBy caller (earlier ++ later) =
      performedBy caller earlier ++ performedBy caller later := by
  simp [performedBy]

@[simp] theorem performedBy_cons_same
    (caller : Caller)
    (completed : Completed interface)
    (events : List (PoolEvent interface Caller)) :
    performedBy caller (.performed caller completed :: events) =
      completed :: performedBy caller events := by
  simp [performedBy, PoolEvent.completedBy?]

theorem performedBy_cons_other
    {caller owner : Caller}
    (different : owner ≠ caller)
    (completed : Completed interface)
    (events : List (PoolEvent interface Caller)) :
    performedBy caller (.performed owner completed :: events) =
      performedBy caller events := by
  simp [performedBy, PoolEvent.completedBy?, different]

@[simp] theorem performedBy_cons_crashed
    (caller owner : Caller)
    (events : List (PoolEvent interface Caller)) :
    performedBy caller (.crashed owner :: events) =
      performedBy caller events :=
  rfl

@[simp] theorem performedBy_nil
    (caller : Caller) :
    performedBy caller ([] : List (PoolEvent interface Caller)) = [] :=
  rfl

theorem performedBy_concat_same
    (caller : Caller)
    (taken : List (PoolEvent interface Caller))
    (completed : Completed interface) :
    performedBy caller (taken ++ [.performed caller completed]) =
      performedBy caller taken ++ [completed] := by
  rw [performedBy_append, performedBy_cons_same, performedBy_nil]

/-- A step of another caller adds nothing to a caller's operations. -/
theorem performedBy_concat_other
    {caller : Caller}
    {event : PoolEvent interface Caller}
    (isOther : event.caller ≠ caller)
    (taken : List (PoolEvent interface Caller)) :
    performedBy caller (taken ++ [event]) = performedBy caller taken := by
  cases event with
  | performed owner completed =>
      have different : owner ≠ caller := isOther
      rw [performedBy_append, performedBy_cons_other different,
        performedBy_nil, List.append_nil]
  | crashed owner =>
      rw [performedBy_append, performedBy_cons_crashed, performedBy_nil,
        List.append_nil]

theorem performedBy_concat_crashed
    (caller owner : Caller)
    (taken : List (PoolEvent interface Caller)) :
    performedBy caller (taken ++ [.crashed owner]) =
      performedBy caller taken := by
  rw [performedBy_append, performedBy_cons_crashed, performedBy_nil,
    List.append_nil]

theorem mem_performedBy_iff
    {caller : Caller}
    {events : List (PoolEvent interface Caller)}
    {completed : Completed interface} :
    completed ∈ performedBy caller events ↔
      PoolEvent.performed caller completed ∈ events := by
  simp only [performedBy, List.mem_filterMap]
  constructor
  · rintro ⟨event, member, extracted⟩
    cases event with
    | performed owner done =>
        simp only [PoolEvent.completedBy?, Option.ite_none_right_eq_some,
          Option.some.injEq] at extracted
        obtain ⟨rfl, rfl⟩ := extracted
        exact member
    | crashed owner =>
        cases extracted
  · intro member
    exact ⟨_, member, by simp [PoolEvent.completedBy?]⟩

/-- The first of a caller's operations splits the run at the step that performed it. -/
theorem performedBy_eq_cons
    {caller : Caller}
    {events : List (PoolEvent interface Caller)}
    {completed : Completed interface}
    {rest : List (Completed interface)}
    (shape : performedBy caller events = completed :: rest) :
    ∃ earlier later,
      events = earlier ++ .performed caller completed :: later ∧
        performedBy caller earlier = [] ∧
        performedBy caller later = rest := by
  obtain ⟨earlier, event, later, rfl, quiet, extracted, remaining⟩ :=
    List.filterMap_eq_cons_iff.mp shape
  cases event with
  | crashed owner =>
      cases extracted
  | performed owner done =>
      simp only [PoolEvent.completedBy?, Option.ite_none_right_eq_some,
        Option.some.injEq] at extracted
      obtain ⟨rfl, rfl⟩ := extracted
      exact ⟨earlier, later, rfl,
        List.filterMap_eq_nil_iff.mpr quiet, remaining⟩

/-- A caller whose next operation is known has been awaiting it. -/
theorem awaits_of_performedBy
    {first last : Configuration interface Caller Result World}
    {events : List (PoolEvent interface Caller)}
    (run : Run (PoolStep perform) first events last)
    {caller : Caller}
    {completed : Completed interface}
    {rest : List (Completed interface)}
    (shape : performedBy caller events = completed :: rest) :
    ∃ resume,
      first.processes caller = some (.await completed.operation resume) := by
  induction run with
  | done =>
      cases shape
  | @next before _ _ event later stepped _ inductionHypothesis =>
      by_cases isOwn : event.caller = caller
      · subst isOwn
        cases event with
        | performed owner call =>
            have isFirst :
                call :: performedBy owner later = completed :: rest := by
              rw [← performedBy_cons_same]
              exact shape
            cases isFirst
            cases stepped with
            | performed awaiting advance _ =>
                cases advance with
                | resumed operation resume =>
                    exact ⟨resume, awaiting⟩
        | crashed owner =>
            obtain ⟨resume, awaiting⟩ := inductionHypothesis shape
            cases stepped.processes_crashed.symm.trans awaiting
      · rw [← stepped.processes_other isOwn]
        apply inductionHypothesis
        rw [← shape, ← List.singleton_append, performedBy_append,
          show performedBy caller [event] = [] from
            performedBy_concat_other isOwn [], List.nil_append]

/-- The world of a pool goes through the performed operations in order. -/
theorem world_run
    {first last : Configuration interface Caller Result World}
    {events : List (PoolEvent interface Caller)}
    (run : Run (PoolStep perform) first events last) :
    Run perform first.world (performedIn events) last.world := by
  induction run with
  | done state =>
      exact .done _
  | next head tail inductionHypothesis =>
      cases head with
      | performed awaiting advanced performed =>
          exact .next performed inductionHypothesis
      | crashed =>
          exact inductionHypothesis

/-- A run over a world is one over any view of it that allows the operations. -/
theorem viewed_run
    {View : Type}
    {other : View → Completed interface → View → Prop}
    {first last : Configuration interface Caller Result World}
    {events : List (PoolEvent interface Caller)}
    (view : World → View)
    (run : Run (PoolStep perform) first events last)
    (allows :
      ∀ state completed next,
        perform state completed next →
        other (view state) completed (view next)) :
    Run (PoolStep other)
      ⟨view first.world, first.processes⟩
      events
      ⟨view last.world, last.processes⟩ := by
  induction run with
  | done state =>
      exact .done _
  | next head tail inductionHypothesis =>
      exact .next (head.viewed view allows) inductionHypothesis

/--
Every caller takes the steps of its own program: what is left of a caller that
has not crashed is what its own operations lead to.
-/
theorem caller_steps
    {first last : Configuration interface Caller Result World}
    {events : List (PoolEvent interface Caller)}
    (run : Run (PoolStep perform) first events last)
    {caller : Caller}
    {program : Program interface (Result caller)}
    (started : first.processes caller = some program) :
    ∃ remaining,
      Steps program (performedBy caller events) remaining ∧
        (last.processes caller = some remaining ∨
          last.processes caller = none) := by
  refine run.alongside
    (fun taken configuration =>
      ∃ remaining,
        Steps program (performedBy caller taken) remaining ∧
          (configuration.processes caller = some remaining ∨
            configuration.processes caller = none))
    ⟨program, .done program, .inl started⟩ ?_
  rintro taken before event after - ⟨remaining, steps, held⟩ stepped
  by_cases isOwn : event.caller = caller
  · cases stepped with
    | @performed _ _ _ owner current advanced _ awaiting advance _ =>
        have same : owner = caller := isOwn
        subst same
        have isCurrent : current = remaining := by
          rcases held with live | crashed
          · exact Option.some.inj (awaiting.symm.trans live)
          · cases awaiting.symm.trans crashed
        subst current
        refine ⟨advanced, ?_, .inl (Function.update_self _ _ _)⟩
        rw [performedBy_concat_same]
        exact steps.extend advance
    | @crashed _ _ owner =>
        have same : owner = caller := isOwn
        subst same
        refine ⟨remaining, ?_, .inr (Function.update_self _ _ _)⟩
        rw [performedBy_concat_crashed]
        exact steps
  · refine ⟨remaining, ?_, ?_⟩
    · rw [performedBy_concat_other isOwn]
      exact steps
    · rw [stepped.processes_other isOwn]
      exact held

/-- What a caller that has not crashed has left to do is what its operations lead to. -/
theorem caller_steps_of_live
    {first last : Configuration interface Caller Result World}
    {events : List (PoolEvent interface Caller)}
    (run : Run (PoolStep perform) first events last)
    {caller : Caller}
    {program remaining : Program interface (Result caller)}
    (started : first.processes caller = some program)
    (live : last.processes caller = some remaining) :
    Steps program (performedBy caller events) remaining := by
  obtain ⟨reached, steps, isLive | crashed⟩ := caller_steps run started
  · cases live.symm.trans isLive
    exact steps
  · cases live.symm.trans crashed

/-- A caller that has settled left a complete run of its program. -/
theorem caller_runs
    {first last : Configuration interface Caller Result World}
    {events : List (PoolEvent interface Caller)}
    (run : Run (PoolStep perform) first events last)
    {caller : Caller}
    {program : Program interface (Result caller)}
    {result : Except interface.Failure (Result caller)}
    (started : first.processes caller = some program)
    (settled : last.processes caller = some (.settled result)) :
    Runs program (performedBy caller events) result :=
  caller_steps_of_live run started settled

/-- A run goes on, up to each of its steps, and the world allows the step's operation. -/
theorem split_at_performed
    {first last : Configuration interface Caller Result World}
    {events : List (PoolEvent interface Caller)}
    (run : Run (PoolStep perform) first events last)
    {caller : Caller}
    {completed : Completed interface}
    (member : .performed caller completed ∈ events) :
    ∃ (earlier later : List (PoolEvent interface Caller))
        (before after : Configuration interface Caller Result World),
      events = earlier ++ .performed caller completed :: later ∧
        Run (PoolStep perform) first earlier before ∧
        perform before.world completed after.world ∧
        Run (PoolStep perform) after later last := by
  obtain ⟨earlier, later, before, after, shape, leading, stepped, trailing⟩ :=
    run.split_at member
  exact ⟨earlier, later, before, after, shape, leading, stepped.performs,
    trailing⟩

/-- A caller can take steps of its program that the world allows while others wait. -/
theorem run_alone
    {before after : World}
    {processes : (caller : Caller) → Option (Program interface (Result caller))}
    {caller : Caller}
    {program remaining : Program interface (Result caller)}
    {trace : List (Completed interface)}
    (steps : Steps program trace remaining)
    (performs : Run perform before trace after)
    (awaits : processes caller = some program) :
    Run (PoolStep perform)
      ⟨before, processes⟩
      (trace.map (.performed caller))
      ⟨after, Function.update processes caller (some remaining)⟩ := by
  induction steps generalizing before processes with
  | done state =>
      rw [Run.nil_iff] at performs
      subst performs
      rw [Function.update_eq_self_iff.mpr awaits.symm]
      exact .done _
  | next advance later inductionHypothesis =>
      obtain ⟨middle, performed, rest⟩ := Run.cons_iff.mp performs
      refine .next (.performed awaits advance performed) ?_
      have alone :=
        inductionHypothesis rest
          (Function.update_self caller (some _) processes)
      rwa [Function.update_idem] at alone

end Projections

end Awaiting
