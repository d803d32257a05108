import AwalaEndpoint.Library.Pool
import AwalaEndpoint.ParcelDeliveryEffects

namespace AwalaEndpoint

open Awaiting LabelledRuns

/-!
# Overlapping calls of the emitter

One emitter serves all requests of the process, and its function is made and
cached while other requests go on.  Whatever order the calls settle in, and
whichever of them fail, no event is lost silently or handed over twice.
-/

section Traces

variable {emitter : Emitter}
  {event : CloudEvent}
  {trace : List Call}
  {remaining : Promise Unit}

/-- How far the use of the cached function has come. -/
inductive CallTrace (event : CloudEvent) : List Call → Prop where
  | notStarted :
      CallTrace event []
  | loaded (outcome : Except Failure (Option EmitterFunction)) :
      CallTrace event [⟨.loadEmitterFunction, outcome⟩]
  | called
      (emitterFunction : EmitterFunction)
      (outcome : Except Failure Unit) :
      CallTrace event
        [⟨.loadEmitterFunction, .ok (some emitterFunction)⟩,
          ⟨.callEmitterFunction emitterFunction event, outcome⟩]

/-- How far a call of `emit` has come. -/
inductive EmitTrace
    (emitter : Emitter)
    (event : CloudEvent) : List Call → Prop where
  | notStarted :
      EmitTrace emitter event []
  | unreadable (failure : Failure) :
      EmitTrace emitter event [⟨.loadEmitterFunction, .error failure⟩]
  | cached
      (emitterFunction : EmitterFunction)
      (calling : List Call) :
      CallTrace event calling →
      EmitTrace emitter event
        (⟨.loadEmitterFunction, .ok (some emitterFunction)⟩ :: calling)
  | missing :
      EmitTrace emitter event [⟨.loadEmitterFunction, .ok none⟩]
  | notMade (failure : Failure) :
      EmitTrace emitter event
        [⟨.loadEmitterFunction, .ok none⟩,
          ⟨.makeEmitter emitter.transport, .error failure⟩]
  | made (emitterFunction : EmitterFunction) :
      EmitTrace emitter event
        [⟨.loadEmitterFunction, .ok none⟩,
          ⟨.makeEmitter emitter.transport, .ok emitterFunction⟩]
  | notStored
      (emitterFunction : EmitterFunction)
      (failure : Failure) :
      EmitTrace emitter event
        [⟨.loadEmitterFunction, .ok none⟩,
          ⟨.makeEmitter emitter.transport, .ok emitterFunction⟩,
          ⟨.storeEmitterFunction emitterFunction, .error failure⟩]
  | stored
      (emitterFunction : EmitterFunction)
      (calling : List Call) :
      CallTrace event calling →
      EmitTrace emitter event
        (⟨.loadEmitterFunction, .ok none⟩ ::
          ⟨.makeEmitter emitter.transport, .ok emitterFunction⟩ ::
          ⟨.storeEmitterFunction emitterFunction, .ok ()⟩ :: calling)

/-- The cached function is loaded and then called with the event. -/
theorem callAndWrapErrors_steps
    (steps : Steps (Emitter.callAndWrapErrors event) trace remaining) :
    CallTrace event trace := by
  rcases steps_await_iff.mp steps with
    ⟨rfl, -⟩ | ⟨loaded, rest, rfl, afterLoad⟩
  · exact .notStarted
  · rcases loaded with failure | _ | emitterFunction
    · obtain ⟨rfl, -⟩ := steps_settled_iff.mp afterLoad
      exact .loaded _
    · obtain ⟨rfl, -⟩ := steps_settled_iff.mp afterLoad
      exact .loaded _
    · rcases steps_await_iff.mp afterLoad with
        ⟨rfl, -⟩ | ⟨outcome, last, rfl, afterCall⟩
      · exact .loaded _
      · have finished : last = [] := by
          cases outcome with
          | ok answer =>
              exact (steps_settled_iff.mp afterCall).1
          | error failure =>
              exact (steps_settled_iff.mp afterCall).1
        rw [finished]
        exact .called emitterFunction outcome

/-- `emit` makes and stores the function only when it was missing, and then calls it. -/
theorem emit_steps
    (steps : Steps (emitter.emit event) trace remaining) :
    EmitTrace emitter event trace := by
  rcases steps_await_iff.mp steps with
    ⟨rfl, -⟩ | ⟨cached, rest, rfl, afterCheck⟩
  · exact .notStarted
  · rcases cached with failure | _ | emitterFunction
    · obtain ⟨rfl, -⟩ := steps_settled_iff.mp afterCheck
      exact .unreadable failure
    · rcases steps_await_iff.mp afterCheck with
        ⟨rfl, -⟩ | ⟨made, later, rfl, afterMake⟩
      · exact .missing
      · cases made with
        | error failure =>
            obtain ⟨rfl, -⟩ := steps_settled_iff.mp afterMake
            exact .notMade failure
        | ok emitterFunction =>
            rcases steps_await_iff.mp afterMake with
              ⟨rfl, -⟩ | ⟨stored, last, rfl, afterStore⟩
            · exact .made emitterFunction
            · cases stored with
              | error failure =>
                  obtain ⟨rfl, -⟩ := steps_settled_iff.mp afterStore
                  exact .notStored emitterFunction failure
              | ok answer =>
                  exact .stored emitterFunction last
                    (callAndWrapErrors_steps afterStore)
    · exact .cached emitterFunction rest (callAndWrapErrors_steps afterCheck)

/-- Using the function hands over the event once, if at all. -/
theorem CallTrace.emittedEvents
    (calling : CallTrace event trace) :
    AwalaEndpoint.emittedEvents trace = [] ∨
      AwalaEndpoint.emittedEvents trace = [event] := by
  cases calling with
  | notStarted =>
      exact .inl rfl
  | loaded outcome =>
      exact .inl rfl
  | called emitterFunction outcome =>
      exact .inr rfl

/-- A call of `emit` hands over its event once, if at all. -/
theorem EmitTrace.emittedEvents
    (progress : EmitTrace emitter event trace) :
    AwalaEndpoint.emittedEvents trace = [] ∨
      AwalaEndpoint.emittedEvents trace = [event] := by
  cases progress with
  | cached emitterFunction calling called =>
      exact called.emittedEvents
  | stored emitterFunction calling called =>
      exact called.emittedEvents
  | _ =>
      exact .inl rfl

/-- Using the function neither makes nor stores one. -/
theorem CallTrace.notInitialising
    (calling : CallTrace event trace) :
    (∀ transport outcome, (⟨.makeEmitter transport, outcome⟩ : Call) ∉ trace) ∧
      ∀ emitterFunction outcome,
        (⟨.storeEmitterFunction emitterFunction, outcome⟩ : Call) ∉ trace := by
  cases calling <;> simp

/-- A call that stores a function has made it. -/
theorem EmitTrace.made_of_stored
    (progress : EmitTrace emitter event trace)
    {emitterFunction : EmitterFunction}
    {outcome : Except Failure Unit}
    (stored : (⟨.storeEmitterFunction emitterFunction, outcome⟩ : Call) ∈ trace) :
    (⟨.makeEmitter emitter.transport, .ok emitterFunction⟩ : Call) ∈ trace := by
  cases progress with
  | cached _ calling called =>
      have notStored := called.notInitialising.2 emitterFunction outcome
      simp [notStored] at stored
  | stored made calling called =>
      have notStored := called.notInitialising.2 emitterFunction outcome
      simp only [List.mem_cons, Completed.mk.injEq, reduceCtorEq, false_and,
        Operation.storeEmitterFunction.injEq, notStored, or_false,
        false_or] at stored
      simp [stored.1]
  | notStored made failure =>
      simp at stored
      simp [stored.1]
  | _ =>
      simp at stored

/-- A call that makes a function has found none before. -/
theorem EmitTrace.missing_of_made
    (progress : EmitTrace emitter event trace)
    {transport : String}
    {outcome : Except Failure EmitterFunction}
    (made : (⟨.makeEmitter transport, outcome⟩ : Call) ∈ trace) :
    ∃ rest, trace = ⟨.loadEmitterFunction, .ok none⟩ :: rest := by
  cases progress with
  | cached _ calling called =>
      have notMade := called.notInitialising.1 transport outcome
      simp [notMade] at made
  | notStarted =>
      cases made
  | unreadable failure =>
      simp at made
  | _ =>
      exact ⟨_, rfl⟩

/-- A settled call whose function resolved with the event has resolved. -/
theorem EmitRun.resolved_of_called
    {result : Except Failure Unit}
    (run : EmitRun event trace result)
    {emitterFunction : EmitterFunction}
    (called :
      (⟨.callEmitterFunction emitterFunction event, .ok ()⟩ : Call) ∈ trace) :
    result = .ok () := by
  cases run with
  | handedOver initialisation usedFunction outcome quiet =>
      rcases List.mem_append.mp called with early | isLast
      · cases quiet _ early
      · cases List.mem_singleton.mp isLast
        exact rfl
  | notHandedOver _ failure quiet =>
      cases quiet _ called

/-- A settled call that handed over nothing has rejected. -/
theorem EmitRun.rejected
    {result : Except Failure Unit}
    (run : EmitRun event trace result)
    (notHandedOver : AwalaEndpoint.emittedEvents trace = []) :
    ∃ failure, result = .error failure := by
  cases run with
  | handedOver initialisation emitterFunction outcome quiet =>
      simp [AwalaEndpoint.emittedEvents, emittedEvent] at notHandedOver
  | notHandedOver _ failure quiet =>
      exact ⟨failure, rfl⟩

end Traces

namespace ParcelDelivery

/-- The message was to be emitted, and its event was not handed over. -/
theorem MessageRun.rejected
    {libraries : Libraries}
    {emitter : Emitter}
    {parcel : Parcel}
    {serviceMessage : ServiceMessage}
    {processing : List Call}
    {result : Except Failure Reply}
    (run :
      MessageRun libraries emitter parcel serviceMessage processing result)
    {outcome : Except Failure (Option EmitterFunction)}
    (emits : ⟨.loadEmitterFunction, outcome⟩ ∈ processing)
    (notHandedOver : emittedEvents processing = []) :
    ∃ failure, result = .error failure := by
  cases run with
  | malformedParams =>
      cases emits
  | channel connectionParams saving saved _ _ saves =>
      cases saveChannel_steps saves with
      | refused failure =>
          simp [keysSave] at emits
      | finished saved outcome =>
          simp [keysSave, recordUpdate] at emits
  | refusedEvent =>
      cases emits
  | event event emission emitted _ _ emissionRuns =>
      obtain ⟨failure, rfl⟩ := (emit_runs emissionRuns).rejected notHandedOver
      exact ⟨failure, rfl⟩

/-- A parcel whose event was to be emitted is not accepted without handing it over. -/
theorem notAccepted_of_notHandedOver
    {libraries : Libraries}
    {endpoint : InternetEndpoint}
    {emitter : Emitter}
    {body : Buffer}
    {trace : List Call}
    {reply : Except Failure Reply}
    (runs : Runs (handler libraries endpoint emitter body) trace reply)
    {outcome : Except Failure (Option EmitterFunction)}
    (emits : ⟨.loadEmitterFunction, outcome⟩ ∈ trace)
    (notHandedOver : emittedEvents trace = []) :
    statusOf reply ≠ HttpStatusCodes.accepted := by
  cases handler_runs runs with
  | malformedParcel =>
      cases emits
  | invalidParcel =>
      simp at emits
  | undecrypted =>
      simp at emits
  | processed parcel serviceMessage processing _ _ _ messageRun =>
      have emitsLater : ⟨.loadEmitterFunction, outcome⟩ ∈ processing := by
        simpa [checks] using emits
      obtain ⟨failure, rfl⟩ := messageRun.rejected emitsLater notHandedOver
      exact (by decide : (500 : Nat) ≠ 202)

end ParcelDelivery

/-- The emitter function a call caches, if it caches one. -/
def functionWrite : Call → Option EmitterFunction
  | ⟨.storeEmitterFunction emitterFunction, _⟩ => some emitterFunction
  | _ => none

theorem functionWrite_eq_some_iff
    {call : Call}
    {emitterFunction : EmitterFunction} :
    functionWrite call = some emitterFunction ↔
      ∃ outcome, call = ⟨.storeEmitterFunction emitterFunction, outcome⟩ := by
  rcases call with ⟨operation, outcome⟩
  cases operation with
  | storeEmitterFunction stored =>
      constructor
      · intro same
        cases same
        exact ⟨outcome, rfl⟩
      · rintro ⟨_, same⟩
        cases same
        exact rfl
  | _ =>
      simp [functionWrite]

/-- The cached function changes only by being stored. -/
theorem Performed.emitterFunction
    {libraries : Libraries}
    {before after : State}
    {call : Call}
    (performed : Performed libraries before call after) :
    after.emitterFunction = (functionWrite call).or before.emitterFunction := by
  cases performed.write with
  | nothing _ reads =>
      rcases call with ⟨operation, outcome⟩
      cases operation with
      | storeEmitterFunction emitterFunction =>
          cases reads
      | _ =>
          exact rfl
  | _ =>
      exact rfl

section Schedules

variable {Caller : Type}

/-- Calls of `emit` on one emitter that are about to start, over the given state. -/
def emitCalls
    (emitter : Emitter)
    (event : Caller → CloudEvent)
    (state : State) :
    Configuration interface Caller (fun _ => Unit) State :=
  .start state fun caller => emitter.emit (event caller)

theorem emitCalls_processes
    (emitter : Emitter)
    (event : Caller → CloudEvent)
    (state : State)
    (caller : Caller) :
    (emitCalls emitter event state).processes caller =
      some (emitter.emit (event caller)) :=
  rfl

variable [DecidableEq Caller]

/-- What holds whenever the calls of an emitter have come to some point. -/
structure EmitsReliably
    (libraries : Libraries)
    (emitter : Emitter)
    (event : Caller → CloudEvent)
    (events : List (PoolEvent interface Caller))
    (last : Configuration interface Caller (fun _ => Unit) State) : Prop where
  atMostOnce :
    ∀ caller,
      emittedEvents (performedBy caller events) = [] ∨
        emittedEvents (performedBy caller events) = [event caller]
  resolved_iff :
    ∀ caller result,
      last.processes caller = some (.settled result) →
      (result = .ok () ↔
        ∃ emitterFunction,
          ⟨.callEmitterFunction emitterFunction (event caller), .ok ()⟩ ∈
            performedBy caller events)
  rejected :
    ∀ caller result,
      last.processes caller = some (.settled result) →
      emittedEvents (performedBy caller events) = [] →
      ∃ failure, result = .error failure
  staysCached :
    ∀ step next,
      PoolStep (Performed libraries) last step next →
      last.world.emitterFunction ≠ none →
      next.world.emitterFunction ≠ none
  cachedWhenMade :
    ∀ step next,
      PoolStep (Performed libraries) last step next →
      next.world.emitterFunction ≠ last.world.emitterFunction →
      ∃ caller emitterFunction,
        next.world.emitterFunction = some emitterFunction ∧
          ⟨.makeEmitter emitter.transport, .ok emitterFunction⟩ ∈
            performedBy caller events
  notMadeAgain :
    ∀ caller later final,
      last.world.emitterFunction ≠ none →
      performedBy caller events = [] →
      Run (PoolStep (Performed libraries)) last later final →
      ∀ transport outcome,
        ⟨.makeEmitter transport, outcome⟩ ∉ performedBy caller later
  notAcknowledged :
    ∀ endpoint body trace reply outcome,
      Runs (ParcelDelivery.handler libraries endpoint emitter body) trace reply →
      ⟨.loadEmitterFunction, outcome⟩ ∈ trace →
      emittedEvents trace = [] →
      statusOf reply ≠ HttpStatusCodes.accepted

variable {libraries : Libraries}
  {emitter : Emitter}
  {event : Caller → CloudEvent}
  {state : State}
  {events : List (PoolEvent interface Caller)}
  {last next : Configuration interface Caller (fun _ => Unit) State}
  {step : PoolEvent interface Caller}

/-- Every caller has come some way through `emit`. -/
theorem emitTrace_run
    (run :
      Run (PoolStep (Performed libraries)) (emitCalls emitter event state)
        events last)
    (caller : Caller) :
    EmitTrace emitter (event caller) (performedBy caller events) := by
  obtain ⟨_, steps, -⟩ :=
    caller_steps run (emitCalls_processes emitter event state caller)
  exact emit_steps steps

/-- A caller that has settled has left a run of `emit`. -/
theorem emitRun_of_settled
    (run :
      Run (PoolStep (Performed libraries)) (emitCalls emitter event state)
        events last)
    {caller : Caller}
    {result : Except Failure Unit}
    (settled : last.processes caller = some (.settled result)) :
    EmitRun (event caller) (performedBy caller events) result :=
  emit_runs (caller_runs run rfl settled)

/-- No step forgets the cached function. -/
theorem cached_step
    (stepped : PoolStep (Performed libraries) last step next)
    (cached : last.world.emitterFunction ≠ none) :
    next.world.emitterFunction ≠ none := by
  cases stepped with
  | performed _ _ performed =>
      rw [performed.emitterFunction]
      cases functionWrite _ with
      | none =>
          exact cached
      | some emitterFunction =>
          exact Option.some_ne_none _
  | crashed =>
      exact cached

/-- A step that changes the cached function stores one that its caller has made. -/
theorem made_of_changed
    (run :
      Run (PoolStep (Performed libraries)) (emitCalls emitter event state)
        events last)
    (stepped : PoolStep (Performed libraries) last step next)
    (changed : next.world.emitterFunction ≠ last.world.emitterFunction) :
    ∃ caller emitterFunction,
      next.world.emitterFunction = some emitterFunction ∧
        ⟨.makeEmitter emitter.transport, .ok emitterFunction⟩ ∈
          performedBy caller events := by
  have progress := emitTrace_run (run.extend stepped)
  cases stepped with
  | crashed =>
      exact absurd rfl changed
  | @performed _ _ _ caller _ _ call _ _ performed =>
      have written := performed.emitterFunction
      cases stores : functionWrite call with
      | none =>
          rw [stores] at written
          exact absurd written changed
      | some emitterFunction =>
          rw [stores] at written
          obtain ⟨outcome, rfl⟩ := functionWrite_eq_some_iff.mp stores
          have made :=
            (progress caller).made_of_stored
              (mem_performedBy_iff.mpr (List.mem_concat_self))
          rw [performedBy_concat_same, List.mem_append] at made
          rcases made with earlier | isStore
          · exact ⟨caller, emitterFunction, written, earlier⟩
          · simp at isStore

/-- A caller that starts when a function is cached never makes one. -/
theorem notMade_of_cached
    (run :
      Run (PoolStep (Performed libraries)) (emitCalls emitter event state)
        events last)
    {caller : Caller}
    {later : List (PoolEvent interface Caller)}
    {final : Configuration interface Caller (fun _ => Unit) State}
    (cached : last.world.emitterFunction ≠ none)
    (notStarted : performedBy caller events = [])
    (continued : Run (PoolStep (Performed libraries)) last later final)
    (transport : String)
    (outcome : Except Failure EmitterFunction) :
    ⟨.makeEmitter transport, outcome⟩ ∉ performedBy caller later := by
  intro made
  have progress := emitTrace_run (run.append continued) caller
  rw [performedBy_append, notStarted, List.nil_append] at progress
  obtain ⟨rest, shape⟩ := progress.missing_of_made made
  obtain ⟨earlier, behind, rfl, -, -⟩ := performedBy_eq_cons shape
  obtain ⟨middle, leading, remainder⟩ := Run.append_iff.mp continued
  obtain ⟨_, stepped, -⟩ := Run.cons_iff.mp remainder
  have stillCached : middle.world.emitterFunction ≠ none :=
    leading.preserves (fun configuration =>
        configuration.world.emitterFunction ≠ none)
      (fun _ _ _ _ => cached_step) cached
  cases stepped with
  | performed _ _ performed =>
      obtain ⟨_, loaded, -⟩ := performed
      exact stillCached (Except.ok.inj loaded).symm

/--
However the calls of an emitter interleave and whatever fails, each hands over its
event at most once and resolves exactly when it was handed over and accepted, and
a function that was made successfully stays cached for all later calls.
-/
theorem emitsReliably_run
    (run :
      Run (PoolStep (Performed libraries)) (emitCalls emitter event state)
        events last) :
    EmitsReliably libraries emitter event events last := by
  refine ⟨?_, ?_, ?_, ?_, ?_, ?_, ?_⟩
  · intro caller
    exact (emitTrace_run run caller).emittedEvents
  · intro caller result settled
    have emitted := emitRun_of_settled run settled
    constructor
    · rintro rfl
      exact emitted.resolved.2
    · rintro ⟨emitterFunction, called⟩
      exact emitted.resolved_of_called called
  · intro caller result settled notHandedOver
    exact (emitRun_of_settled run settled).rejected notHandedOver
  · intro step next stepped cached
    exact cached_step stepped cached
  · intro step next stepped changed
    exact made_of_changed run stepped changed
  · intro caller later final cached notStarted continued
    exact notMade_of_cached run cached notStarted continued
  · intro endpoint body trace reply outcome runs emits notHandedOver
    exact ParcelDelivery.notAccepted_of_notHandedOver runs emits notHandedOver

end Schedules

/-- Two overlapping first calls, of which one fails to make a function. -/
def overlappingEmits : List (PoolEvent interface Bool) :=
  [.performed false ⟨.loadEmitterFunction, .ok none⟩,
    .performed true ⟨.loadEmitterFunction, .ok none⟩,
    .performed false ⟨.makeEmitter defaultTransport, .error Stubs.malformed⟩,
    .performed true ⟨.makeEmitter defaultTransport, .ok ⟨0⟩⟩,
    .performed true ⟨.storeEmitterFunction ⟨0⟩, .ok ()⟩,
    .performed true ⟨.loadEmitterFunction, .ok (some ⟨0⟩)⟩,
    .performed true
      ⟨.callEmitterFunction ⟨0⟩ (Stubs.outgoingEvent "epoch" none), .ok ()⟩]

/-- The call that fails rejects, and the other one hands over its event. -/
theorem emitsReliably_run_stubs :
    ∃ last : Configuration interface Bool (fun _ => Unit) State,
      last.processes false = some (.settled (.error Stubs.malformed)) ∧
        last.processes true = some (.settled (.ok ())) ∧
        EmitsReliably Stubs.routeLibraries ⟨defaultTransport⟩
          (fun _ => Stubs.outgoingEvent "epoch" none) overlappingEmits last := by
  have run :
      ∃ last,
        Run (PoolStep (Performed Stubs.routeLibraries))
            (emitCalls ⟨defaultTransport⟩
              (fun _ : Bool => Stubs.outgoingEvent "epoch" none) State.empty)
            overlappingEmits last ∧
          last.processes false = some (.settled (.error Stubs.malformed)) ∧
          last.processes true = some (.settled (.ok ())) := by
    refine ⟨_,
      .next (.settles rfl ⟨epoch, rfl, rfl⟩)
        (.next (.settles rfl ⟨epoch, rfl, rfl⟩)
          (.next (.settles rfl ⟨epoch, rfl⟩)
            (.next (.settles rfl ⟨epoch, rfl⟩)
              (.next (.settles rfl ⟨epoch, rfl, rfl⟩)
                (.next (.settles rfl ⟨epoch, rfl, rfl⟩)
                  (.next (.settles rfl ⟨epoch, rfl⟩)
                    (.done _))))))), rfl, rfl⟩
  obtain ⟨last, ran, failed, resolved⟩ := run
  exact ⟨last, failed, resolved, emitsReliably_run ran⟩

end AwalaEndpoint
