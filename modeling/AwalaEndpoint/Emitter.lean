import AwalaEndpoint.InternetEndpoint

namespace AwalaEndpoint

open Awaiting

/-!
# The lazy event emitter

`Emitter` makes its emitter function on first use and keeps it in memory that
all requests of the process share.
-/

/-- The transport used when the environment does not name one. -/
def defaultTransport : String := "ce-http-binary"

/-- The wrapper around the CloudEvents emitter. -/
structure Emitter where
  transport : String
  deriving Repr, DecidableEq

namespace Emitter

/-- `Emitter.init`. -/
def init (environment : Environment) : Emitter where
  transport := (environment "CE_TRANSPORT").getD defaultTransport

/-- Call the emitter function held in memory with the event. -/
def callEmitterFunction (event : CloudEvent) : Promise Unit := do
  let emitterFunction : Option EmitterFunction ← perform .loadEmitterFunction
  match emitterFunction with
  | none => reject (.thrown .typeError "this.emitterFunction is not a function")
  | some emitterFunction => perform (.callEmitterFunction emitterFunction event)

/-- Call the emitter function and wrap whatever it throws. -/
def callAndWrapErrors (event : CloudEvent) : Promise Unit := do
  let outcome ← (callEmitterFunction event).attempt
  match outcome with
  | .ok _ => return ()
  | .error cause => reject (.wrapped "Failed to emit event" cause)

/-- Make the emitter function if it is missing, then hand it the event. -/
def emit (emitter : Emitter) (event : CloudEvent) : Promise Unit := do
  let cached : Option EmitterFunction ← perform .loadEmitterFunction
  match cached with
  | some _ => callAndWrapErrors event
  | none =>
      let emitterFunction ← perform (.makeEmitter emitter.transport)
      perform (.storeEmitterFunction emitterFunction)
      callAndWrapErrors event

end Emitter

/-- Whether a call belongs to the initialisation of an emitter. -/
def initialisesEmitter : Call → Bool
  | ⟨.loadEmitterFunction, _⟩ => true
  | ⟨.storeEmitterFunction _, _⟩ => true
  | ⟨.makeEmitter _, _⟩ => true
  | _ => false

/-- What a call of `emit` does with its event. -/
inductive EmitRun (event : CloudEvent) : List Call → Except Failure Unit → Prop where
  | handedOver
      (initialisation : List Call)
      (emitterFunction : EmitterFunction)
      (outcome : Except Failure Unit) :
      (∀ call ∈ initialisation, initialisesEmitter call = true) →
      (∀ call ∈ initialisation, call.failure? = none) →
      EmitRun event
        (initialisation ++ [⟨.callEmitterFunction emitterFunction event, outcome⟩])
        (outcome.mapError (.wrapped "Failed to emit event"))
  | notHandedOver
      (initialisation : List Call)
      (failure : Failure) :
      (∀ call ∈ initialisation, initialisesEmitter call = true) →
      EmitRun event initialisation (.error failure)

namespace EmitRun

/-- Further initialisation before a run of `emit` is still a run of `emit`. -/
theorem prepend
    {event : CloudEvent}
    {trace : List Call}
    {result : Except Failure Unit}
    (run : EmitRun event trace result)
    {leading : Call}
    (initialises : initialisesEmitter leading = true)
    (succeeded : leading.failure? = none) :
    EmitRun event (leading :: trace) result := by
  cases run with
  | handedOver initialisation emitterFunction outcome quiet completed =>
      refine .handedOver (leading :: initialisation) emitterFunction outcome ?_ ?_
      · simpa [initialises] using quiet
      · simpa [succeeded] using completed
  | notHandedOver initialisation failure quiet =>
      refine .notHandedOver (leading :: trace) failure ?_
      simpa [initialises] using quiet

/-- What holds of the four kinds of calls that `emit` makes holds of its whole trace. -/
theorem all
    {event : CloudEvent}
    {trace : List Call}
    {result : Except Failure Unit}
    (run : EmitRun event trace result)
    (Holds : Call → Prop)
    (loading : ∀ outcome, Holds ⟨.loadEmitterFunction, outcome⟩)
    (making : ∀ transport outcome, Holds ⟨.makeEmitter transport, outcome⟩)
    (storing :
      ∀ emitterFunction outcome,
        Holds ⟨.storeEmitterFunction emitterFunction, outcome⟩)
    (handing :
      ∀ emitterFunction outcome,
        Holds ⟨.callEmitterFunction emitterFunction event, outcome⟩) :
    ∀ call ∈ trace, Holds call := by
  have initialising : ∀ call, initialisesEmitter call = true → Holds call := by
    rintro ⟨operation, outcome⟩ initialises
    cases operation with
    | loadEmitterFunction =>
        exact loading outcome
    | makeEmitter transport =>
        exact making transport outcome
    | storeEmitterFunction emitterFunction =>
        exact storing emitterFunction outcome
    | _ =>
        cases initialises
  cases run with
  | handedOver initialisation emitterFunction outcome initialises =>
      intro call member
      rcases List.mem_append.mp member with early | isLast
      · exact initialising call (initialises call early)
      · rw [List.mem_singleton.mp isLast]
        exact handing emitterFunction outcome
  | notHandedOver _ failure initialises =>
      exact fun call member => initialising call (initialises call member)

/-- When `emit` resolves, all its calls succeeded and the last one handed over the event. -/
theorem resolved
    {event : CloudEvent}
    {trace : List Call}
    (run : EmitRun event trace (.ok ())) :
    (∀ call ∈ trace, call.failure? = none) ∧
      ∃ emitterFunction,
        ⟨.callEmitterFunction emitterFunction event, .ok ()⟩ ∈ trace := by
  generalize settled : (.ok () : Except Failure Unit) = result at run
  cases run with
  | handedOver initialisation emitterFunction outcome _ succeeded =>
      cases outcome with
      | error failure =>
          cases settled
      | ok answer =>
          refine ⟨?_, emitterFunction, by simp⟩
          intro call member
          rcases List.mem_append.mp member with early | isLast
          · exact succeeded call early
          · rw [List.mem_singleton.mp isLast]
            rfl
  | notHandedOver =>
      cases settled

end EmitRun

/-- Calling the emitter function hands it the event unless there is no function. -/
theorem callAndWrapErrors_runs
    {event : CloudEvent}
    {trace : List Call}
    {result : Except Failure Unit}
    (runs : Runs (Emitter.callAndWrapErrors event) trace result) :
    EmitRun event trace result := by
  obtain ⟨loaded, rest, rfl, afterLoad⟩ := runs_await_iff.mp runs
  rcases loaded with failure | _ | emitterFunction
  · obtain ⟨rfl, rfl⟩ := runs_settled_iff.mp afterLoad
    exact .notHandedOver _ _ (by simp [initialisesEmitter])
  · obtain ⟨rfl, rfl⟩ := runs_settled_iff.mp afterLoad
    exact .notHandedOver _ _ (by simp [initialisesEmitter])
  · obtain ⟨outcome, last, rfl, afterCall⟩ := runs_await_iff.mp afterLoad
    have settled :
        last = [] ∧
          result = outcome.mapError (.wrapped "Failed to emit event") := by
      cases outcome with
      | ok answer =>
          exact runs_settled_iff.mp afterCall
      | error failure =>
          exact runs_settled_iff.mp afterCall
    obtain ⟨rfl, rfl⟩ := settled
    exact .handedOver [⟨.loadEmitterFunction, .ok (some emitterFunction)⟩]
      emitterFunction outcome (by simp [initialisesEmitter])
      (by simp [Completed.failure?])

/-- `emit` hands its event to an emitter function at most once. -/
theorem emit_runs
    {emitter : Emitter}
    {event : CloudEvent}
    {trace : List Call}
    {result : Except Failure Unit}
    (runs : Runs (emitter.emit event) trace result) :
    EmitRun event trace result := by
  obtain ⟨cached, rest, rfl, afterCheck⟩ := runs_await_iff.mp runs
  rcases cached with failure | _ | emitterFunction
  · obtain ⟨rfl, rfl⟩ := runs_settled_iff.mp afterCheck
    exact .notHandedOver _ _ (by simp [initialisesEmitter])
  · obtain ⟨made, later, rfl, afterMake⟩ := runs_await_iff.mp afterCheck
    cases made with
    | error failure =>
        obtain ⟨rfl, rfl⟩ := runs_settled_iff.mp afterMake
        exact .notHandedOver _ _ (by simp [initialisesEmitter])
    | ok emitterFunction =>
        obtain ⟨stored, last, rfl, afterStore⟩ := runs_await_iff.mp afterMake
        cases stored with
        | error failure =>
            obtain ⟨rfl, rfl⟩ := runs_settled_iff.mp afterStore
            exact .notHandedOver _ _ (by simp [initialisesEmitter])
        | ok answer =>
            exact (((callAndWrapErrors_runs afterStore).prepend rfl rfl).prepend
              rfl rfl).prepend rfl rfl
  · exact (callAndWrapErrors_runs afterCheck).prepend rfl rfl

end AwalaEndpoint
