import Mathlib.Data.List.Basic
import Mathlib.Data.List.Induction

namespace LabelledRuns

/-!
# Finite labelled runs and last-write registers

A run is a finite sequence of labelled transitions.  The module is independent
of what the states and labels are: it is used for a program advancing through
its awaited operations, for a store answering a sequence of operations, for a
pool of concurrent programs and for a server handling one request after another.

The second half is about registers.  A register is an observation of the state
that every transition either overwrites, with a value read off the label, or
leaves alone.  At the end of a run a register holds the last value written.
-/

variable {State Label Value : Type*}

/-- `Run step first labels last`: the labelled transitions lead from `first` to `last`. -/
inductive Run (step : State → Label → State → Prop) :
    State → List Label → State → Prop where
  | done (state : State) :
      Run step state [] state
  | next
      {first middle last : State}
      {label : Label}
      {labels : List Label} :
      step first label middle →
      Run step middle labels last →
      Run step first (label :: labels) last

namespace Run

variable {step : State → Label → State → Prop}

@[simp] theorem nil_iff
    {first last : State} :
    Run step first [] last ↔ first = last := by
  constructor
  · intro run
    cases run
    rfl
  · rintro rfl
    exact .done first

@[simp] theorem cons_iff
    {first last : State}
    {label : Label}
    {labels : List Label} :
    Run step first (label :: labels) last ↔
      ∃ middle, step first label middle ∧ Run step middle labels last := by
  constructor
  · intro run
    cases run with
    | next head tail =>
        exact ⟨_, head, tail⟩
  · rintro ⟨middle, head, tail⟩
    exact .next head tail

/-- A run over a concatenation is a run over each part, meeting in the middle. -/
theorem append_iff
    {first last : State}
    {earlier later : List Label} :
    Run step first (earlier ++ later) last ↔
      ∃ middle, Run step first earlier middle ∧ Run step middle later last := by
  induction earlier generalizing first with
  | nil =>
      simp
  | cons label labels inductionHypothesis =>
      simp only [List.cons_append, cons_iff, inductionHypothesis]
      constructor
      · rintro ⟨next, head, middle, tail, rest⟩
        exact ⟨middle, ⟨next, head, tail⟩, rest⟩
      · rintro ⟨middle, ⟨next, head, tail⟩, rest⟩
        exact ⟨next, head, middle, tail, rest⟩

/-- Runs whose end and start agree can be joined. -/
theorem append
    {first middle last : State}
    {earlier later : List Label}
    (leading : Run step first earlier middle)
    (trailing : Run step middle later last) :
    Run step first (earlier ++ later) last :=
  append_iff.mpr ⟨middle, leading, trailing⟩

/-- A run can be extended by one final transition. -/
theorem extend
    {first middle last : State}
    {label : Label}
    {labels : List Label}
    (run : Run step first labels middle)
    (final : step middle label last) :
    Run step first (labels ++ [label]) last :=
  run.append (.next final (.done last))

/-- Every label of a run sits between the part before it and the part after it. -/
theorem split_at
    {first last : State}
    {label : Label}
    {labels : List Label}
    (run : Run step first labels last)
    (member : label ∈ labels) :
    ∃ earlier later before after,
      labels = earlier ++ label :: later ∧
        Run step first earlier before ∧
        step before label after ∧
        Run step after later last := by
  obtain ⟨earlier, later, rfl⟩ := List.append_of_mem member
  obtain ⟨before, leading, rest⟩ := append_iff.mp run
  obtain ⟨after, head, trailing⟩ := cons_iff.mp rest
  exact ⟨earlier, later, before, after, rfl, leading, head, trailing⟩

/-- A run of one transition relation is a run of any relation that allows its steps. -/
theorem mono
    {other : State → Label → State → Prop}
    {first last : State}
    {labels : List Label}
    (run : Run step first labels last)
    (allows :
      ∀ before label after,
        label ∈ labels →
        step before label after →
        other before label after) :
    Run other first labels last := by
  induction run with
  | done state =>
      exact .done state
  | next head tail inductionHypothesis =>
      refine .next (allows _ _ _ (by simp) head) (inductionHypothesis ?_)
      intro before label after member stepped
      exact allows before label after (by simp [member]) stepped

/-- An invariant of every transition of a run holds at its end. -/
theorem preserves
    (Invariant : State → Prop)
    {first last : State}
    {labels : List Label}
    (run : Run step first labels last)
    (preserved :
      ∀ before label after,
        label ∈ labels →
        step before label after →
        Invariant before →
        Invariant after)
    (initially : Invariant first) :
    Invariant last := by
  induction run with
  | done state =>
      exact initially
  | next head tail inductionHypothesis =>
      apply inductionHypothesis
      · intro before label after member stepped holds
        exact preserved before label after (by simp [member]) stepped holds
      · exact preserved _ _ _ (by simp) head initially

/--
Induction along a run, from its start: a relation between the labels taken so
far and the state reached holds at the end when every extension by one
transition keeps it.
-/
theorem alongside
    (Holds : List Label → State → Prop)
    {first last : State}
    {labels : List Label}
    (run : Run step first labels last)
    (initially : Holds [] first)
    (extended :
      ∀ taken before label after,
        Run step first taken before →
        Holds taken before →
        step before label after →
        Holds (taken ++ [label]) after) :
    Holds labels last := by
  induction labels using List.reverseRecOn generalizing last with
  | nil =>
      rw [← nil_iff.mp run]
      exact initially
  | append_singleton taken label inductionHypothesis =>
      obtain ⟨before, leading, final⟩ := append_iff.mp run
      obtain ⟨after, stepped, ended⟩ := cons_iff.mp final
      rw [nil_iff] at ended
      subst ended
      exact extended taken before label after leading
        (inductionHypothesis leading) stepped

end Run

/-- An item that is not in the first part of a list sits after that part. -/
theorem split_after
    {leading trailing earlier later : List Label}
    {item : Label}
    (absent : item ∉ leading)
    (shape : leading ++ trailing = earlier ++ item :: later) :
    ∃ middle,
      earlier = leading ++ middle ∧ trailing = middle ++ item :: later := by
  rcases List.append_eq_append_iff.mp shape with
    ⟨middle, isEarlier, isTrailing⟩ | ⟨overlap, isLeading, isLater⟩
  · exact ⟨middle, isEarlier, isTrailing⟩
  · cases overlap with
    | nil =>
        rw [List.append_nil] at isLeading
        exact ⟨[], by rw [isLeading, List.append_nil], isLater.symm⟩
    | cons first rest =>
        rw [isLeading, (List.cons.inj isLater).1] at absent
        simp at absent

/-- An item that is not in the first part of a list is what alone follows that part. -/
theorem split_at_last
    {leading earlier later : List Label}
    {final item : Label}
    (absent : item ∉ leading)
    (shape : leading ++ [final] = earlier ++ item :: later) :
    earlier = leading ∧ final = item ∧ later = [] := by
  obtain ⟨middle, rfl, isLast⟩ := split_after absent shape
  cases middle with
  | nil =>
      obtain ⟨isFinal, isDone⟩ := List.cons.inj isLast
      exact ⟨List.append_nil leading, isFinal, isDone.symm⟩
  | cons =>
      simp at isLast

/-- The last element of a list and what comes before it. -/
theorem dropLast_of_concat
    {Element : Type*}
    {earlier whole : List Element}
    {final : Element}
    (shape : earlier ++ [final] = whole) :
    earlier = whole.dropLast ∧ whole.getLast? = some final := by
  subst shape
  simp

/-- What a list is searched for is found in a first part that contains some. -/
theorem findSome?_of_append
    {Item Found : Type*}
    {search : Item → Option Found}
    {earlier later : List Item}
    {item : Item}
    {found first : Found}
    (inBoth : (earlier ++ later).findSome? search = some first)
    (member : item ∈ earlier)
    (isFound : search item = some found) :
    earlier.findSome? search = some first := by
  rw [List.findSome?_append] at inBoth
  cases inEarlier : earlier.findSome? search with
  | none =>
      cases (List.findSome?_eq_none_iff.mp inEarlier item member).symm.trans
        isFound
  | some other =>
      rwa [inEarlier, Option.some_or] at inBoth

/-- The value the last writing label of a list wrote, if any label wrote one. -/
def lastWrite
    (writes : Label → Option Value)
    (labels : List Label) : Option Value :=
  (labels.filterMap writes).getLast?

section LastWrite

variable {writes : Label → Option Value}

@[simp] theorem lastWrite_nil :
    lastWrite writes [] = none :=
  rfl

/-- Later writes win over earlier ones. -/
theorem lastWrite_append
    (earlier later : List Label) :
    lastWrite writes (earlier ++ later) =
      (lastWrite writes later).or (lastWrite writes earlier) := by
  simp [lastWrite, List.getLast?_append]

/-- A label appended at the end decides the last write when it writes. -/
theorem lastWrite_concat
    (earlier : List Label)
    (label : Label) :
    lastWrite writes (earlier ++ [label]) =
      (writes label).or (lastWrite writes earlier) := by
  rw [lastWrite_append]
  cases written : writes label <;>
    simp [lastWrite, written]

/-- Only labels that write matter to the last write. -/
theorem lastWrite_filterMap
    {Source : Type*}
    {extract : Source → Option Label}
    (sources : List Source) :
    lastWrite writes (sources.filterMap extract) =
      lastWrite (fun source => (extract source).bind writes) sources := by
  simp [lastWrite, List.filterMap_filterMap]

/-- Registers that agree on every label of a list hold the same last write. -/
theorem lastWrite_congr
    {others : Label → Option Value}
    {labels : List Label}
    (agree : ∀ label ∈ labels, writes label = others label) :
    lastWrite writes labels = lastWrite others labels := by
  rw [lastWrite, lastWrite, List.filterMap_congr agree]

/-- Writing an image of a value is the image of writing the value. -/
theorem lastWrite_map
    {Image : Type*}
    (image : Value → Image)
    (labels : List Label) :
    lastWrite (fun label => (writes label).map image) labels =
      (lastWrite writes labels).map image := by
  induction labels using List.reverseRecOn with
  | nil =>
      rfl
  | append_singleton earlier label inductionHypothesis =>
      rw [lastWrite_concat, lastWrite_concat, inductionHypothesis]
      cases writes label <;> rfl

/-- Nothing has been written exactly when no label writes. -/
theorem lastWrite_eq_none_iff
    {labels : List Label} :
    lastWrite writes labels = none ↔
      ∀ label ∈ labels, writes label = none := by
  simp [lastWrite]

/-- The last value written was written by a label that no other write follows. -/
theorem lastWrite_eq_some_iff
    {labels : List Label}
    {value : Value} :
    lastWrite writes labels = some value ↔
      ∃ earlier label later,
        labels = earlier ++ label :: later ∧
          writes label = some value ∧
          ∀ other ∈ later, writes other = none := by
  constructor
  · intro written
    induction labels using List.reverseRecOn with
    | nil =>
        simp at written
    | append_singleton earlier label inductionHypothesis =>
        rw [lastWrite_concat] at written
        cases byLabel : writes label with
        | some last =>
            refine ⟨earlier, label, [], rfl, ?_, by simp⟩
            simpa [byLabel] using written
        | none =>
            obtain ⟨before, writer, after, shape, wrote, quiet⟩ :=
              inductionHypothesis (by simpa [byLabel] using written)
            refine ⟨before, writer, after ++ [label], by simp [shape],
              wrote, ?_⟩
            intro other member
            rcases List.mem_append.mp member with inAfter | isLabel
            · exact quiet other inAfter
            · rw [List.mem_singleton.mp isLabel]
              exact byLabel
  · rintro ⟨earlier, label, later, rfl, wrote, quiet⟩
    have silent : lastWrite writes later = none :=
      lastWrite_eq_none_iff.mpr quiet
    rw [show earlier ++ label :: later = (earlier ++ [label]) ++ later by simp,
      lastWrite_append, silent, lastWrite_concat, wrote]
    rfl

end LastWrite

namespace Run

variable {step : State → Label → State → Prop}

/-- A register holds the last value written, or what it held at the start. -/
theorem register
    {read : State → Option Value}
    {writes : Label → Option Value}
    {first last : State}
    {labels : List Label}
    (run : Run step first labels last)
    (each :
      ∀ before label after,
        label ∈ labels →
        step before label after →
        read after = (writes label).or (read before)) :
    read last = (lastWrite writes labels).or (read first) := by
  induction run with
  | done state =>
      simp
  | @next first middle last label labels head tail inductionHypothesis =>
      have later :
          read last = (lastWrite writes labels).or (read middle) := by
        apply inductionHypothesis
        intro before other after member stepped
        exact each before other after (by simp [member]) stepped
      rw [later, each first label middle (by simp) head,
        show label :: labels = [label] ++ labels from rfl,
        lastWrite_append, ← Option.or_assoc]
      congr 1
      cases written : writes label <;>
        simp [lastWrite, written]

/-- An observation that no transition of a run changes is the same at both ends. -/
theorem unchanged
    {observe : State → Value}
    {first last : State}
    {labels : List Label}
    (run : Run step first labels last)
    (each :
      ∀ before label after,
        label ∈ labels →
        step before label after →
        observe after = observe before) :
    observe last = observe first := by
  refine run.preserves
    (fun state => observe state = observe first) ?_ rfl
  intro before label after member stepped same
  rw [each before label after member stepped, same]

/--
What an observation of the states and a translation of the labels show of a run
is a run of another relation, when each label is translated into one of its
labels that allows what is seen of the transition, or nothing is seen of it.
-/
theorem translated
    {Image Seen : Type*}
    {other : Seen → Image → Seen → Prop}
    (observe : State → Seen)
    (translate : Label → Option Image)
    {first last : State}
    {labels : List Label}
    (run : Run step first labels last)
    (unnoticed :
      ∀ before label after,
        label ∈ labels →
        step before label after →
        translate label = none →
        observe after = observe before)
    (allowed :
      ∀ before label after image,
        label ∈ labels →
        step before label after →
        translate label = some image →
        other (observe before) image (observe after)) :
    Run other (observe first) (labels.filterMap translate) (observe last) := by
  induction run with
  | done state =>
      exact .done _
  | @next first middle last label labels head tail inductionHypothesis =>
      have rest :
          Run other (observe middle) (labels.filterMap translate)
            (observe last) := by
        apply inductionHypothesis
        · intro before later after member
          exact unnoticed before later after (by simp [member])
        · intro before later after image member
          exact allowed before later after image (by simp [member])
      cases translation : translate label with
      | none =>
          rw [List.filterMap_cons_none translation,
            ← unnoticed first label middle (by simp) head translation]
          exact rest
      | some image =>
          rw [List.filterMap_cons_some translation]
          exact .next
            (allowed first label middle image (by simp) head translation) rest

/--
Removing from a run the transitions that an observation does not notice keeps
the observation, when every other transition can be taken from any state that
looks the same, with a result that looks the same.
-/
theorem without
    (observe : State → Value)
    (kept : Label → Bool)
    {first last other : State}
    {labels : List Label}
    (run : Run step first labels last)
    (unnoticed :
      ∀ before label after,
        label ∈ labels →
        kept label = false →
        step before label after →
        observe after = observe before)
    (repeatable :
      ∀ before label after similar,
        label ∈ labels →
        kept label = true →
        step before label after →
        observe similar = observe before →
        ∃ next, step similar label next ∧ observe next = observe after)
    (same : observe other = observe first) :
    ∃ final,
      Run step other (labels.filter kept) final ∧
        observe final = observe last := by
  induction run generalizing other with
  | done state =>
      exact ⟨other, .done other, same⟩
  | @next first middle last label labels head tail inductionHypothesis =>
      have rest :=
        fun {similar : State} (looksSame : observe similar = observe middle) =>
          inductionHypothesis
            (fun before later after member =>
              unnoticed before later after (by simp [member]))
            (fun before later after onlooker member =>
              repeatable before later after onlooker (by simp [member]))
            looksSame
      cases decision : kept label with
      | false =>
          have quiet : observe middle = observe first :=
            unnoticed first label middle (by simp) decision head
          simpa [decision] using rest (same.trans quiet.symm)
      | true =>
          obtain ⟨next, stepped, looksSame⟩ :=
            repeatable first label middle other (by simp) decision head same
          obtain ⟨final, later, ended⟩ := rest looksSame
          refine ⟨final, ?_, ended⟩
          rw [List.filter_cons_of_pos decision]
          exact .next stepped later

end Run

end LabelledRuns
