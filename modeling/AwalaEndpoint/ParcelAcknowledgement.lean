import AwalaEndpoint.ParcelDeliveryEffects

namespace AwalaEndpoint

open Awaiting LabelledRuns

/-!
# What an acknowledged parcel came to

A gateway forgets a parcel once the route has answered 202.  The decryption of a
parcel and the saving of a channel are wrapped in handlers that answer 202
whatever was thrown; the emission of an event is not.
-/

/-- Whether a call failed in a way that a later attempt may not. -/
def failsTransiently (call : Call) : Bool :=
  call.failure?.any Failure.isTransient

namespace ParcelDelivery

/-- Calls whose failures the route catches without changing its answer. -/
def swallowsFailure : Call → Bool
  | ⟨.unwrapPayload _, _⟩ => true
  | ⟨.savePrivateEndpointChannel _, _⟩ => true
  | ⟨.updateOne _ _, _⟩ => true
  | _ => false

/-- The decrypted message was emitted as an event. -/
def Emitted (libraries : Libraries) (delivery : Delivery) : Prop :=
  ∃ parcel serviceMessage event emitterFunction,
    ⟨.unwrapPayload parcel, .ok serviceMessage⟩ ∈ delivery.trace ∧
      makeIncomingServiceMessageEvent libraries
        (incomingOptions parcel serviceMessage) = .ok event ∧
      ⟨.callEmitterFunction emitterFunction event, .ok ()⟩ ∈ delivery.trace

/-- The decrypted message was connection parameters that reached all stores. -/
def Stored (libraries : Libraries) (delivery : Delivery) : Prop :=
  ∃ parcel serviceMessage connectionParams channel,
    ⟨.unwrapPayload parcel, .ok serviceMessage⟩ ∈ delivery.trace ∧
      serviceMessage.type = pdaPathType ∧
      libraries.deserializeConnParams serviceMessage.content =
        .ok connectionParams ∧
      keysSave connectionParams (.ok channel) ∈ delivery.trace ∧
      recordUpdate connectionParams channel (.ok ()) ∈ delivery.trace

/-- The decrypted message was connection parameters that are malformed. -/
def CarriesMalformedParams (libraries : Libraries) (delivery : Delivery) : Prop :=
  ∃ parcel serviceMessage failure,
    ⟨.unwrapPayload parcel, .ok serviceMessage⟩ ∈ delivery.trace ∧
      serviceMessage.type = pdaPathType ∧
      libraries.deserializeConnParams serviceMessage.content = .error failure

/-- Something failed that would fail again. -/
def FailedPermanently (libraries : Libraries) (delivery : Delivery) : Prop :=
  CarriesMalformedParams libraries delivery ∨
    ∃ call ∈ delivery.trace,
      ∃ failure, call.failure? = some failure ∧ failure.isTransient = false

/-- An acknowledged parcel is accounted for, and nothing about it is worth a retry. -/
structure NotLost (libraries : Libraries) (delivery : Delivery) : Prop where
  accounted :
    statusOf delivery.reply = HttpStatusCodes.accepted →
    Emitted libraries delivery ∨ Stored libraries delivery ∨
      FailedPermanently libraries delivery
  notTransient :
    statusOf delivery.reply = HttpStatusCodes.accepted →
    ∀ call ∈ delivery.trace, failsTransiently call = false

/-- No failure that the route swallows was transient. -/
def NoSwallowedTransientFailure (delivery : Delivery) : Prop :=
  ∀ call ∈ delivery.trace,
    swallowsFailure call = true → failsTransiently call = false

section Requests

variable {libraries : Libraries}
  {endpoint : InternetEndpoint}
  {emitter : Emitter}

/-- A request answered otherwise than 202 swallowed no failure. -/
theorem accepted_of_swallowed
    {delivery : Delivery}
    (runs :
      Runs (handler libraries endpoint emitter delivery.body)
        delivery.trace delivery.reply)
    {call : Call}
    {failure : Failure}
    (member : call ∈ delivery.trace)
    (swallows : swallowsFailure call = true)
    (failed : call.failure? = some failure) :
    statusOf delivery.reply = HttpStatusCodes.accepted := by
  obtain ⟨body, trace, reply⟩ := delivery
  cases handler_runs runs with
  | malformedParcel =>
      cases member
  | invalidParcel =>
      rw [List.mem_singleton.mp member] at swallows
      cases swallows
  | undecrypted =>
      rfl
  | processed parcel serviceMessage processing _ _ _ run =>
      have inParts : call ∈ checks parcel serviceMessage ++ processing := member
      rcases List.mem_append.mp inParts with early | late
      · rcases List.mem_cons.mp early with rfl | isLast
        · cases swallows
        · rw [List.mem_singleton.mp isLast] at failed
          cases failed
      · cases run with
        | malformedParams =>
            rfl
        | channel =>
            rfl
        | refusedEvent =>
            cases late
        | event event _ _ _ _ emitting =>
            have quiet : swallowsFailure call = false :=
              (emit_runs emitting).all
                (fun call => swallowsFailure call = false)
                (fun _ => rfl) (fun _ _ => rfl) (fun _ _ => rfl)
                (fun _ _ => rfl) call late
            cases quiet.symm.trans swallows

/-- In a request answered 202, only calls whose failure is swallowed can have failed. -/
theorem succeeded_of_accepted
    {delivery : Delivery}
    (runs :
      Runs (handler libraries endpoint emitter delivery.body)
        delivery.trace delivery.reply)
    (accepted : statusOf delivery.reply = HttpStatusCodes.accepted)
    {call : Call}
    (member : call ∈ delivery.trace)
    (propagates : swallowsFailure call = false) :
    call.failure? = none := by
  obtain ⟨body, trace, reply⟩ := delivery
  cases handler_runs runs with
  | malformedParcel =>
      cases member
  | invalidParcel =>
      cases accepted
  | undecrypted =>
      rcases List.mem_cons.mp member with rfl | isLast
      · rfl
      · rw [List.mem_singleton.mp isLast] at propagates
        cases propagates
  | processed parcel serviceMessage processing _ _ _ run =>
      have inParts : call ∈ checks parcel serviceMessage ++ processing := member
      rcases List.mem_append.mp inParts with early | late
      · rcases List.mem_cons.mp early with rfl | isLast
        · rfl
        · rw [List.mem_singleton.mp isLast]
          rfl
      · cases run with
        | malformedParams =>
            cases late
        | channel connectionParams _ saved _ _ saving =>
            rcases saveChannel_runs saving with
              ⟨failure, rfl, -⟩ | ⟨channel, outcome, rfl, -⟩
            · rw [List.mem_singleton.mp late] at propagates
              cases propagates
            · rcases List.mem_cons.mp late with rfl | isLast
              · cases propagates
              · rw [List.mem_singleton.mp isLast] at propagates
                cases propagates
        | refusedEvent =>
            cases late
        | event event _ emitted _ _ emitting =>
            cases emitted with
            | error failure =>
                cases accepted
            | ok answer =>
                exact (emit_runs emitting).resolved.1 call late

/--
A request answered 202 emitted its message, stored it, carried malformed
connection parameters or swallowed a failure.
-/
theorem accounted_of_accepted
    {delivery : Delivery}
    (runs :
      Runs (handler libraries endpoint emitter delivery.body)
        delivery.trace delivery.reply)
    (accepted : statusOf delivery.reply = HttpStatusCodes.accepted) :
    Emitted libraries delivery ∨ Stored libraries delivery ∨
      CarriesMalformedParams libraries delivery ∨
      ∃ call ∈ delivery.trace,
        swallowsFailure call = true ∧
          ∃ failure, call.failure? = some failure := by
  obtain ⟨body, trace, reply⟩ := delivery
  cases handler_runs runs with
  | malformedParcel =>
      cases accepted
  | invalidParcel =>
      cases accepted
  | undecrypted parcel failure =>
      exact .inr (.inr (.inr
        ⟨⟨.unwrapPayload parcel, .error failure⟩, by simp, rfl, failure, rfl⟩))
  | processed parcel serviceMessage processing _ _ _ run =>
      have decrypted :
          ⟨.unwrapPayload parcel, .ok serviceMessage⟩ ∈
            checks parcel serviceMessage ++ processing := by
        simp [checks]
      cases run with
      | malformedParams failure isPda malformed =>
          exact .inr (.inr (.inl
            ⟨parcel, serviceMessage, failure, decrypted, isPda, malformed⟩))
      | channel connectionParams _ saved isPda wellFormed saving =>
          rcases saveChannel_runs saving with
            ⟨failure, rfl, -⟩ | ⟨channel, outcome, rfl, -⟩
          · exact .inr (.inr (.inr
              ⟨keysSave connectionParams (.error failure), by simp, rfl,
                failure, rfl⟩))
          · cases outcome with
            | error failure =>
                exact .inr (.inr (.inr
                  ⟨recordUpdate connectionParams channel (.error failure),
                    by simp, rfl, failure, rfl⟩))
            | ok answer =>
                exact .inr (.inl
                  ⟨parcel, serviceMessage, connectionParams, channel,
                    decrypted, isPda, wellFormed, by simp, by simp⟩)
      | refusedEvent =>
          cases accepted
      | event event _ emitted _ made emitting =>
          cases emitted with
          | error failure =>
              cases accepted
          | ok answer =>
              obtain ⟨-, emitterFunction, handed⟩ :=
                (emit_runs emitting).resolved
              exact .inl ⟨parcel, serviceMessage, event, emitterFunction,
                decrypted, made, List.mem_append_right (checks _ _) handed⟩

/--
No acknowledged parcel is lost exactly when no call to decrypt a parcel, to save
its channel or to update the peer's record failed transiently.
-/
theorem notLost_iff
    {delivery : Delivery}
    (runs :
      Runs (handler libraries endpoint emitter delivery.body)
        delivery.trace delivery.reply) :
    NotLost libraries delivery ↔ NoSwallowedTransientFailure delivery := by
  constructor
  · intro notLost call member swallows
    cases failed : call.failure? with
    | none =>
        simp [failsTransiently, failed]
    | some failure =>
        exact notLost.notTransient
          (accepted_of_swallowed runs member swallows failed) call member
  · intro permanent
    constructor
    · intro accepted
      rcases accounted_of_accepted runs accepted with
        emitted | stored | malformed | ⟨call, member, swallows, failure, failed⟩
      · exact .inl emitted
      · exact .inr (.inl stored)
      · exact .inr (.inr (.inl malformed))
      · refine .inr (.inr (.inr ⟨call, member, failure, failed, ?_⟩))
        simpa [failsTransiently, failed] using permanent call member swallows
    · intro accepted call member
      cases swallows : swallowsFailure call with
      | true =>
          exact permanent call member swallows
      | false =>
          simp [failsTransiently,
            succeeded_of_accepted runs accepted member swallows]

end Requests

/-- The private key store is unavailable while a parcel is decrypted. -/
def undecryptedDelivery : Delivery where
  body := [0]
  trace :=
    [⟨.validateMessage Stubs.olderParcel, .ok ()⟩,
      ⟨.unwrapPayload Stubs.olderParcel,
        .error (.unavailable "private key store is unavailable")⟩]
  reply := .ok (acceptedReply "Ignoring invalid service message")

theorem undecryptedDelivery_runs :
    Runs
      (handler Stubs.routeLibraries Stubs.endpoint ⟨defaultTransport⟩
        undecryptedDelivery.body)
      undecryptedDelivery.trace undecryptedDelivery.reply := by
  refine runs_await_iff.mpr ⟨.ok (), _, rfl, ?_⟩
  refine runs_await_iff.mpr
    ⟨.error (.unavailable "private key store is unavailable"), [], rfl, ?_⟩
  exact runs_settled_iff.mpr ⟨rfl, rfl⟩

/-- The parcel is not among those that are safe to acknowledge. -/
theorem notLost_iff_stubs :
    NotLost Stubs.routeLibraries undecryptedDelivery ↔
      NoSwallowedTransientFailure undecryptedDelivery :=
  notLost_iff undecryptedDelivery_runs

/--
The parcel is acknowledged although it was neither emitted nor stored and the
only failure was that of an unavailable store.
-/
theorem transient_failure_acknowledged :
    Runs
        (handler Stubs.routeLibraries Stubs.endpoint ⟨defaultTransport⟩
          undecryptedDelivery.body)
        undecryptedDelivery.trace undecryptedDelivery.reply ∧
      statusOf undecryptedDelivery.reply = HttpStatusCodes.accepted ∧
      ¬ NotLost Stubs.routeLibraries undecryptedDelivery ∧
      ¬ (Emitted Stubs.routeLibraries undecryptedDelivery ∨
        Stored Stubs.routeLibraries undecryptedDelivery ∨
        FailedPermanently Stubs.routeLibraries undecryptedDelivery) := by
  refine ⟨undecryptedDelivery_runs, rfl, ?_, ?_⟩
  · intro notLost
    cases notLost.notTransient rfl
      ⟨.unwrapPayload Stubs.olderParcel,
        .error (.unavailable "private key store is unavailable")⟩
      (by simp [undecryptedDelivery])
  · rintro (⟨_, _, _, _, decrypted, -⟩ | ⟨_, _, _, _, decrypted, -⟩ |
      ⟨_, _, _, decrypted, -⟩ | ⟨call, member, failure, failed, permanent⟩)
    · simp [undecryptedDelivery] at decrypted
    · simp [undecryptedDelivery] at decrypted
    · simp [undecryptedDelivery] at decrypted
    · rcases List.mem_cons.mp member with rfl | isLast
      · cases failed
      · rw [List.mem_singleton.mp isLast] at failed
        cases failed
        cases permanent

end ParcelDelivery

end AwalaEndpoint
