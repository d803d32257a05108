import AwalaEndpoint.Library.Expansion

namespace Awaiting

/-!
# Programs that fail only when an operation does

A reliable program resolves with a value that has some property, or it rejects
with the failure of an operation that it awaited.  It raises no failure of its
own, so whoever has to find out why it rejected need not look at the program.
-/

variable {interface : Interface}
  {First Second : Type}

/-- The program resolves as it should or passes on the failure of an operation. -/
def Reliable
    (program : Program interface First)
    (Resolves : First → Prop) : Prop :=
  ∀ trace result,
    Runs program trace result →
    (∃ value, result = .ok value ∧ Resolves value) ∨
      ∃ call ∈ trace, ∃ failure,
        call.failure? = some failure ∧ result = .error failure

namespace Reliable

variable {Resolves : First → Prop}

/-- A value is resolved with. -/
theorem resolved
    {value : First}
    (resolves : Resolves value) :
    Reliable (.settled (.ok value) : Program interface First) Resolves := by
  intro trace result runs
  obtain ⟨-, rfl⟩ := runs_settled_iff.mp runs
  exact .inl ⟨value, rfl, resolves⟩

/-- A single operation settles as it does. -/
theorem perform
    (operation : interface.Operation) :
    Reliable (.perform operation : Program interface _) fun _ => True := by
  intro trace result runs
  have isTrace := runs_perform_iff.mp runs
  subst isTrace
  cases result with
  | ok value =>
      exact .inl ⟨value, rfl, trivial⟩
  | error failure =>
      exact .inr ⟨_, List.mem_singleton_self _, failure, rfl, rfl⟩

/-- What comes next has to be reliable for what the first program resolves with. -/
theorem bind
    {Continues : Second → Prop}
    {program : Program interface First}
    {next : First → Program interface Second}
    (reliable : Reliable program Resolves)
    (nextReliable : ∀ value, Resolves value → Reliable (next value) Continues) :
    Reliable (program >>= next) Continues := by
  intro trace result runs
  rcases runs_bind_iff.mp runs with
    ⟨failure, rejected, rfl⟩ | ⟨value, earlier, later, rfl, resolved, continued⟩
  · rcases reliable trace _ rejected with
      ⟨_, impossible, -⟩ | ⟨call, member, cause, failed, same⟩
    · cases impossible
    · cases same
      exact .inr ⟨call, member, failure, failed, rfl⟩
  · rcases reliable earlier _ resolved with
      ⟨_, same, resolves⟩ | ⟨_, -, _, -, impossible⟩
    · cases same
      rcases nextReliable value resolves later result continued with
        continues | ⟨call, member, failure, failed, rejected⟩
      · exact .inl continues
      · exact .inr
          ⟨call, List.mem_append_right earlier member, failure, failed,
            rejected⟩
    · cases impossible

/-- A program stays reliable when its operations are carried out reliably. -/
theorem expand
    {Further : Type}
    {FurtherAnswer : Further → Type}
    {implement : Implementation interface Further FurtherAnswer}
    {program : Program interface First}
    (reliable : Reliable program Resolves)
    (implemented :
      ∀ operation, Reliable (implement operation) fun _ => True) :
    Reliable (program.expand implement) Resolves := by
  intro trace result runs
  obtain ⟨calls, expands, ran⟩ := runs_expand_iff.mp runs
  rcases reliable calls result ran with
    resolves | ⟨call, member, failure, failed, rfl⟩
  · exact .inl resolves
  · refine .inr ?_
    clear runs ran
    induction expands with
    | nil =>
        cases member
    | @cons operation outcome rest part later carriedOut _
        inductionHypothesis =>
        rcases List.mem_cons.mp member with rfl | isLater
        · cases outcome with
          | ok value =>
              cases failed
          | error cause =>
              cases failed
              rcases implemented operation part _ carriedOut with
                ⟨_, impossible, -⟩ | ⟨detail, inPart, _, fails, same⟩
              · cases impossible
              · cases same
                exact ⟨detail, List.mem_append_left later inPart, failure,
                  fails, rfl⟩
        · obtain ⟨detail, inLater, cause, fails, same⟩ :=
            inductionHypothesis isLater
          exact ⟨detail, List.mem_append_right part inLater, cause, fails,
            same⟩

end Reliable

end Awaiting
