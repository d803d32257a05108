import AwalaEndpoint.Library.Pool

namespace Awaiting

open LabelledRuns

/-!
# Isolated callers of a pool

Some callers of a pool are chosen and a part of the world is observed.  When the
other callers do not change what is observed, and the chosen ones depend on
nothing else, the steps of the chosen callers alone are a run of the pool: it
looks the same at its end, and each chosen caller has come as far.
-/

variable {interface : Interface}
  {Caller World View : Type}
  {Result : Caller → Type}

/-- The steps of the chosen callers. -/
def stepsOf
    (chosen : Caller → Bool)
    (events : List (PoolEvent interface Caller)) :
    List (PoolEvent interface Caller) :=
  events.filter fun event => chosen event.caller

/-- What is observed of the world and what is left of the chosen callers. -/
def Configuration.observed
    (observe : World → View)
    (chosen : Caller → Bool)
    (configuration : Configuration interface Caller Result World) :
    View ×
      ((caller : { caller : Caller // chosen caller = true }) →
        Option (Program interface (Result caller))) :=
  (observe configuration.world, fun caller => configuration.processes caller)

theorem observed_eq_iff
    {observe : World → View}
    {chosen : Caller → Bool}
    {configuration other : Configuration interface Caller Result World} :
    configuration.observed observe chosen = other.observed observe chosen ↔
      observe configuration.world = observe other.world ∧
        ∀ caller,
          chosen caller = true →
          configuration.processes caller = other.processes caller := by
  rw [Configuration.observed, Configuration.observed, Prod.mk.injEq,
    funext_iff, Subtype.forall]

section Isolation

variable [DecidableEq Caller]
  {perform : World → Completed interface → World → Prop}
  {observe : World → View}
  {chosen : Caller → Bool}
  {before after similar : Configuration interface Caller Result World}
  {event : PoolEvent interface Caller}

/-- Processes that agree on a caller still do when one of them moves on. -/
theorem update_processes_eq
    {processes others :
      (caller : Caller) → Option (Program interface (Result caller))}
    {caller : Caller}
    (agree : processes caller = others caller)
    (owner : Caller)
    (remaining : Option (Program interface (Result owner))) :
    Function.update processes owner remaining caller =
      Function.update others owner remaining caller := by
  by_cases isOwn : caller = owner
  · subst isOwn
    rw [Function.update_self, Function.update_self]
  · rw [Function.update_of_ne isOwn, Function.update_of_ne isOwn, agree]

/-- A step of another caller is not observed when its operation is not. -/
theorem PoolStep.unobserved
    (stepped : PoolStep perform before event after)
    (isOther : chosen event.caller = false)
    (unnoticed :
      ∀ state caller completed next,
        event = .performed caller completed →
        perform state completed next →
        observe next = observe state) :
    after.observed observe chosen = before.observed observe chosen := by
  refine observed_eq_iff.mpr ⟨?_, ?_⟩
  · cases stepped with
    | performed _ _ performs =>
        exact unnoticed _ _ _ _ rfl performs
    | crashed =>
        rfl
  · intro caller isChosen
    refine stepped.processes_other ?_
    rintro rfl
    cases isOther.symm.trans isChosen

/-- A step of a chosen caller can be taken wherever the same is observed. -/
theorem PoolStep.repeated
    (stepped : PoolStep perform before event after)
    (isChosen : chosen event.caller = true)
    (repeatable :
      ∀ state caller completed next other,
        event = .performed caller completed →
        perform state completed next →
        observe other = observe state →
        ∃ reached,
          perform other completed reached ∧ observe reached = observe next)
    (same :
      similar.observed observe chosen = before.observed observe chosen) :
    ∃ reached,
      PoolStep perform similar event reached ∧
        reached.observed observe chosen = after.observed observe chosen := by
  obtain ⟨world, processes⟩ := similar
  obtain ⟨sameView, sameProcesses⟩ := observed_eq_iff.mp same
  cases stepped with
  | @performed _ _ _ caller _ _ _ awaiting advance performs =>
      obtain ⟨reached, repeats, looksSame⟩ :=
        repeatable _ _ _ _ world rfl performs sameView
      refine ⟨_, .performed ((sameProcesses caller isChosen).trans awaiting)
        advance repeats, observed_eq_iff.mpr ⟨looksSame, ?_⟩⟩
      intro other otherChosen
      exact update_processes_eq (sameProcesses other otherChosen) _ _
  | crashed =>
      refine ⟨_, .crashed, observed_eq_iff.mpr ⟨sameView, ?_⟩⟩
      intro other otherChosen
      exact update_processes_eq (sameProcesses other otherChosen) _ _

/--
The chosen callers are isolated: their steps alone are a run of the pool, with
the same observation at its end and the same left of each of them.
-/
theorem isolated_run
    (observe : World → View)
    (chosen : Caller → Bool)
    {first last : Configuration interface Caller Result World}
    {events : List (PoolEvent interface Caller)}
    (run : Run (PoolStep perform) first events last)
    (unnoticed :
      ∀ state caller completed next,
        .performed caller completed ∈ events →
        chosen caller = false →
        perform state completed next →
        observe next = observe state)
    (repeatable :
      ∀ state caller completed next other,
        .performed caller completed ∈ events →
        chosen caller = true →
        perform state completed next →
        observe other = observe state →
        ∃ reached,
          perform other completed reached ∧ observe reached = observe next) :
    ∃ final,
      Run (PoolStep perform) first (stepsOf chosen events) final ∧
        observe final.world = observe last.world ∧
        ∀ caller,
          chosen caller = true →
          final.processes caller = last.processes caller := by
  obtain ⟨final, ran, same⟩ :=
    run.without (Configuration.observed observe chosen)
      (fun event => chosen event.caller)
      (by
        intro _ event _ member isOther stepped
        refine stepped.unobserved isOther ?_
        rintro state caller completed next rfl performs
        exact unnoticed state caller completed next member isOther performs)
      (by
        intro _ event _ _ member isChosen stepped same
        refine stepped.repeated isChosen ?_ same
        rintro state caller completed next other rfl performs sameView
        exact repeatable state caller completed next other member isChosen
          performs sameView)
      rfl
  exact ⟨final, ran, observed_eq_iff.mp same⟩

end Isolation

end Awaiting
