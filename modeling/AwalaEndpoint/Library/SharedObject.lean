import Mathlib.Logic.Function.Basic
import AwalaEndpoint.Library.LabelledRun

namespace SharedObjects

open LabelledRuns

/-!
# Jobs that act on a shared object

Any number of jobs, each in a phase of its own, act on one object.  An action is
possible when its job can advance by it and the object allows it.

A run of the whole is nothing but a run of the object together with a run of
every job: what is known about the object alone and about one job alone carries
over to every interleaving, and what is to be shown about a whole run can be
shown for the object and for each job.
-/

variable {Job Phase Action Object : Type*}

/-- What the actions of the jobs do to their phases and to the object. -/
structure Sharing (Job Phase Action Object : Type*) where
  advances : Job → Phase → Action → Phase → Prop
  acts : Object → Action → Object → Prop

/-- The object and the phases of all jobs. -/
structure Situation (Job Phase Object : Type*) where
  object : Object
  phases : Job → Phase

/-- A job advances by an action that the object allows. -/
inductive SharingStep
    [DecidableEq Job]
    (sharing : Sharing Job Phase Action Object) :
    Situation Job Phase Object →
      Job × Action →
      Situation Job Phase Object → Prop where
  | acted
      {before after : Object}
      {phases : Job → Phase}
      {job : Job}
      {action : Action}
      {next : Phase} :
      sharing.advances job (phases job) action next →
      sharing.acts before action after →
      SharingStep sharing
        ⟨before, phases⟩
        (job, action)
        ⟨after, Function.update phases job next⟩

/-- The actions of one job, in order. -/
def actionsOf
    [DecidableEq Job]
    (job : Job)
    (labels : List (Job × Action)) : List Action :=
  labels.filterMap fun label =>
    if label.1 = job then some label.2 else none

section Actions

variable [DecidableEq Job]

@[simp] theorem actionsOf_nil
    (job : Job) :
    actionsOf job ([] : List (Job × Action)) = [] :=
  rfl

@[simp] theorem actionsOf_cons_same
    (job : Job)
    (action : Action)
    (labels : List (Job × Action)) :
    actionsOf job ((job, action) :: labels) =
      action :: actionsOf job labels := by
  simp [actionsOf]

theorem actionsOf_cons_other
    {job owner : Job}
    (different : owner ≠ job)
    (action : Action)
    (labels : List (Job × Action)) :
    actionsOf job ((owner, action) :: labels) = actionsOf job labels := by
  simp [actionsOf, different]

theorem mem_actionsOf_iff
    {job : Job}
    {action : Action}
    {labels : List (Job × Action)} :
    action ∈ actionsOf job labels ↔ (job, action) ∈ labels := by
  simp only [actionsOf, List.mem_filterMap, Option.ite_none_right_eq_some,
    Option.some.injEq]
  constructor
  · rintro ⟨⟨owner, taken⟩, member, rfl, rfl⟩
    exact member
  · intro member
    exact ⟨_, member, rfl, rfl⟩

/-- The first of a job's actions splits a run where it was taken. -/
theorem actionsOf_eq_cons
    {job : Job}
    {labels : List (Job × Action)}
    {action : Action}
    {rest : List Action}
    (shape : actionsOf job labels = action :: rest) :
    ∃ earlier later,
      labels = earlier ++ (job, action) :: later ∧
        actionsOf job earlier = [] ∧
        actionsOf job later = rest := by
  obtain ⟨earlier, ⟨owner, taken⟩, later, rfl, quiet, extracted, remaining⟩ :=
    List.filterMap_eq_cons_iff.mp shape
  simp only [Option.ite_none_right_eq_some, Option.some.injEq] at extracted
  obtain ⟨rfl, rfl⟩ := extracted
  exact ⟨earlier, later, rfl, List.filterMap_eq_nil_iff.mpr quiet, remaining⟩

end Actions

section Projections

variable [DecidableEq Job]
  {sharing : Sharing Job Phase Action Object}
  {first last : Situation Job Phase Object}
  {labels : List (Job × Action)}

/-- The object goes through the actions of all jobs in order. -/
theorem object_run
    (run : Run (SharingStep sharing) first labels last) :
    Run sharing.acts first.object (labels.map Prod.snd) last.object := by
  induction run with
  | done situation =>
      exact .done _
  | next head tail inductionHypothesis =>
      cases head with
      | acted advances acts =>
          exact .next acts inductionHypothesis

/-- Every job goes through its own actions in order. -/
theorem job_run
    (run : Run (SharingStep sharing) first labels last)
    (job : Job) :
    Run (sharing.advances job) (first.phases job) (actionsOf job labels)
      (last.phases job) := by
  induction run with
  | done situation =>
      exact .done _
  | @next _ _ _ _ labels head tail inductionHypothesis =>
      cases head with
      | @acted before after phases owner action next advances acts =>
          by_cases isOwn : owner = job
          · subst isOwn
            rw [actionsOf_cons_same]
            refine .next advances ?_
            simpa only [Function.update_self] using inductionHypothesis
          · rw [actionsOf_cons_other isOwn]
            simpa only [Function.update_of_ne (Ne.symm isOwn)] using
              inductionHypothesis

/-- Runs of the object and of every job over the same actions make one run of the whole. -/
theorem sharing_run
    (objectRuns :
      Run sharing.acts first.object (labels.map Prod.snd) last.object)
    (jobsRun :
      ∀ job,
        Run (sharing.advances job) (first.phases job) (actionsOf job labels)
          (last.phases job)) :
    Run (SharingStep sharing) first labels last := by
  induction labels generalizing first with
  | nil =>
      have sameObject : first.object = last.object :=
        Run.nil_iff.mp objectRuns
      have samePhases : first.phases = last.phases := by
        funext job
        exact Run.nil_iff.mp (jobsRun job)
      rw [Run.nil_iff]
      cases first
      cases last
      simp_all only
  | cons label labels inductionHypothesis =>
      obtain ⟨owner, action⟩ := label
      obtain ⟨object, acts, later⟩ := Run.cons_iff.mp objectRuns
      have ownRun := jobsRun owner
      rw [actionsOf_cons_same] at ownRun
      obtain ⟨phase, advances, rest⟩ := Run.cons_iff.mp ownRun
      refine .next (.acted advances acts) ?_
      apply inductionHypothesis
      · exact later
      · intro job
        by_cases isOwn : owner = job
        · subst isOwn
          simpa only [Function.update_self] using rest
        · have otherRun := jobsRun job
          rw [actionsOf_cons_other isOwn] at otherRun
          simpa only [Function.update_of_ne (Ne.symm isOwn)] using otherRun

end Projections

end SharedObjects
