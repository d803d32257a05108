import AwalaEndpoint.ParcelDelivery
import AwalaEndpoint.Stubs

namespace AwalaEndpoint

open Awaiting LabelledRuns

/-!
# Effects of the parcel delivery route

A request can do two things to the world: change the stored channels or hand an
event to the broker.  This module relates both to the checks the parcel went
through, along any sequence of requests.
-/

/-- One request to the route: its body, the calls it made and its reply. -/
structure Delivery where
  body : Buffer
  trace : List Call
  reply : Except Failure Reply

/-- The event a call hands to the emitter function. -/
def emittedEvent : Call → Option CloudEvent
  | ⟨.callEmitterFunction _ event, _⟩ => some event
  | _ => none

/-- The events a sequence of calls hands to the emitter function. -/
def emittedEvents (calls : List Call) : List CloudEvent :=
  calls.filterMap emittedEvent

/-- The state without the memory of the server process. -/
def State.stores (state : State) : State :=
  { state with emitterFunction := none }

namespace ParcelDelivery

/-- The route handles a request that goes with the given calls and reply. -/
def Handles
    (libraries : Libraries)
    (endpoint : InternetEndpoint)
    (emitter : Emitter)
    (before : State)
    (delivery : Delivery)
    (after : State) : Prop :=
  Runs (handler libraries endpoint emitter delivery.body)
      delivery.trace delivery.reply ∧
    Run (Performed libraries) before delivery.trace after

/-- The parcel of a request was validated, is bound for the endpoint and was decrypted. -/
def Passes
    (libraries : Libraries)
    (endpoint : InternetEndpoint)
    (delivery : Delivery)
    (parcel : Parcel)
    (serviceMessage : ServiceMessage) : Prop :=
  libraries.deserializeParcel delivery.body = .ok parcel ∧
    ⟨.validateMessage parcel, .ok ()⟩ ∈ delivery.trace ∧
    parcel.recipient.internetAddress = some endpoint.internetAddress ∧
    ⟨.unwrapPayload parcel, .ok serviceMessage⟩ ∈ delivery.trace

/-- The payload of a request was decrypted. -/
def Decrypts (delivery : Delivery) : Prop :=
  ∃ parcel serviceMessage,
    ⟨.unwrapPayload parcel, .ok serviceMessage⟩ ∈ delivery.trace

/-- After the checks, the request called `saveChannel` once and did nothing else. -/
def SavesOnce
    (delivery : Delivery)
    (parcel : Parcel)
    (serviceMessage : ServiceMessage)
    (connectionParams : PrivateEndpointConnParams) : Prop :=
  ∃ saving saved,
    delivery.trace = checks parcel serviceMessage ++ saving ∧
      Runs (InternetEndpoint.saveChannel connectionParams) saving saved

/-- After the checks, the request called `emit` once and did nothing else. -/
def EmitsOnce
    (emitter : Emitter)
    (delivery : Delivery)
    (parcel : Parcel)
    (serviceMessage : ServiceMessage)
    (event : CloudEvent) : Prop :=
  ∃ emission emitted,
    delivery.trace = checks parcel serviceMessage ++ emission ∧
      Runs (emitter.emit event) emission emitted

/-- The event carries the parcel, its authenticated sender and its service message. -/
structure Describes
    (event : CloudEvent)
    (parcel : Parcel)
    (serviceMessage : ServiceMessage) : Prop where
  id : event.id = parcel.id
  source : event.source = parcel.senderCertificate.calculateSubjectId
  subject : event.subject = some parcel.recipient.id
  contentType : event.datacontenttype = some serviceMessage.type
  data : event.data = .buffer serviceMessage.content
  time : event.time = some parcel.creationDate.toISOString
  expiry : event.expiry = some (.string parcel.expiryDate.toISOString)

/-- The effects of one handled request match the checks its parcel went through. -/
structure EffectsMatchChecks
    (libraries : Libraries)
    (endpoint : InternetEndpoint)
    (emitter : Emitter)
    (before : State)
    (delivery : Delivery)
    (after : State) : Prop where
  effectsOnlyAfterChecks :
    emittedEvents delivery.trace ≠ [] ∨ after.stores ≠ before.stores →
    ∃ parcel serviceMessage,
      Passes libraries endpoint delivery parcel serviceMessage
  connectionParamsSavedOnce :
    ∀ parcel serviceMessage connectionParams,
      Passes libraries endpoint delivery parcel serviceMessage →
      serviceMessage.type = pdaPathType →
      libraries.deserializeConnParams serviceMessage.content =
        .ok connectionParams →
      emittedEvents delivery.trace = [] ∧
        SavesOnce delivery parcel serviceMessage connectionParams
  malformedParamsIgnored :
    ∀ parcel serviceMessage failure,
      Passes libraries endpoint delivery parcel serviceMessage →
      serviceMessage.type = pdaPathType →
      libraries.deserializeConnParams serviceMessage.content =
        .error failure →
      delivery.trace = checks parcel serviceMessage ∧ after = before ∧
        emittedEvents delivery.trace = []
  messageEmittedOnce :
    ∀ parcel serviceMessage event,
      Passes libraries endpoint delivery parcel serviceMessage →
      serviceMessage.type ≠ pdaPathType →
      makeIncomingServiceMessageEvent libraries
        (incomingOptions parcel serviceMessage) = .ok event →
      after.stores = before.stores ∧
        EmitsOnce emitter delivery parcel serviceMessage event ∧
        (emittedEvents delivery.trace = [] ∨
          emittedEvents delivery.trace = [event])
  refusedEventIgnored :
    ∀ parcel serviceMessage failure,
      Passes libraries endpoint delivery parcel serviceMessage →
      serviceMessage.type ≠ pdaPathType →
      makeIncomingServiceMessageEvent libraries
        (incomingOptions parcel serviceMessage) = .error failure →
      delivery.trace = checks parcel serviceMessage ∧ after = before ∧
        emittedEvents delivery.trace = [] ∧
        statusOf delivery.reply = HttpStatusCodes.internalServerError
  eventDescribesMessage :
    ∀ parcel serviceMessage,
      Passes libraries endpoint delivery parcel serviceMessage →
      KeepsAttributes libraries
        (incomingServiceMessageAttributes
          (incomingOptions parcel serviceMessage)) →
      ∃ event,
        makeIncomingServiceMessageEvent libraries
            (incomingOptions parcel serviceMessage) = .ok event ∧
          Describes event parcel serviceMessage
  refusedWithoutEffect :
    statusOf delivery.reply = HttpStatusCodes.badRequest ∨
      statusOf delivery.reply = HttpStatusCodes.forbidden ∨
      ¬ Decrypts delivery →
    after = before ∧ emittedEvents delivery.trace = []

end ParcelDelivery

/-! ## Calls that store nothing -/

/-- Emitting an event only touches the memory of the process. -/
theorem stores_of_emitCall
    {libraries : Libraries}
    {before after : State}
    {call : Call}
    (performed : Performed libraries before call after)
    (emits : initialisesEmitter call = true ∨ (emittedEvent call).isSome = true) :
    after.stores = before.stores := by
  cases performed.write with
  | saved =>
      simp [initialisesEmitter, emittedEvent] at emits
  | partlySaved =>
      simp [initialisesEmitter, emittedEvent] at emits
  | recorded =>
      simp [initialisesEmitter, emittedEvent] at emits
  | keyGenerated =>
      simp [initialisesEmitter, emittedEvent] at emits
  | emitterStored =>
      rfl
  | nothing =>
      rfl

/-- Initialising the emitter emits nothing. -/
theorem emittedEvents_of_initialisation
    {calls : List Call}
    (quiet : ∀ call ∈ calls, initialisesEmitter call = true) :
    emittedEvents calls = [] := by
  rw [emittedEvents, List.filterMap_eq_nil_iff]
  intro call member
  have initialises := quiet call member
  rcases call with ⟨operation, outcome⟩
  cases operation <;> first | rfl | cases initialises

/-- A run of `emit` leaves the stores alone and emits its event at most once. -/
theorem EmitRun.effects
    {libraries : Libraries}
    {event : CloudEvent}
    {trace : List Call}
    {result : Except Failure Unit}
    {before after : State}
    (run : EmitRun event trace result)
    (performed : Run (Performed libraries) before trace after) :
    after.stores = before.stores ∧
      (emittedEvents trace = [] ∨ emittedEvents trace = [event]) := by
  constructor
  · refine performed.unchanged fun _ call _ member stepped =>
      stores_of_emitCall stepped ?_
    exact run.all
      (fun call =>
        initialisesEmitter call = true ∨ (emittedEvent call).isSome = true)
      (fun _ => .inl rfl) (fun _ _ => .inl rfl) (fun _ _ => .inl rfl)
      (fun _ _ => .inr rfl) call member
  · cases run with
    | handedOver initialisation emitterFunction outcome quiet =>
        have silent := emittedEvents_of_initialisation quiet
        rw [emittedEvents] at silent
        right
        simp [emittedEvents, silent, emittedEvent]
    | notHandedOver _ failure quiet =>
        left
        exact emittedEvents_of_initialisation quiet

/-- Saving a channel emits nothing. -/
theorem SaveProgress.emittedEvents
    {connectionParams : PrivateEndpointConnParams}
    {trace : List Call}
    {remaining : Promise InternetPrivateEndpointChannel}
    (progress : SaveProgress connectionParams trace remaining) :
    AwalaEndpoint.emittedEvents trace = [] := by
  cases progress <;> rfl

namespace ParcelDelivery

variable {libraries : Libraries}
  {endpoint : InternetEndpoint}
  {emitter : Emitter}

/-- The checks change nothing. -/
theorem checks_run
    {parcel : Parcel}
    {serviceMessage : ServiceMessage}
    {before after : State}
    {later : List Call}
    (performed :
      Run (Performed libraries) before
        (checks parcel serviceMessage ++ later) after) :
    Run (Performed libraries) before later after := by
  obtain ⟨first, ⟨_, validated⟩, second, ⟨_, unwrapped⟩, rest⟩ := by
    simpa only [checks, List.cons_append, List.nil_append, Run.cons_iff]
      using performed
  cases validated
  cases unwrapped
  exact rest

/-- A call that is made after the checks and is not a decryption does not decrypt. -/
theorem unwraps_of_checks
    {parcel other : Parcel}
    {serviceMessage otherMessage : ServiceMessage}
    {later : List Call}
    (member :
      (⟨.unwrapPayload other, .ok otherMessage⟩ : Call) ∈
        checks parcel serviceMessage ++ later)
    (quiet :
      (⟨.unwrapPayload other, .ok otherMessage⟩ : Call) ∉ later) :
    other = parcel ∧ otherMessage = serviceMessage := by
  rcases List.mem_append.mp member with inChecks | inLater
  · simpa [checks] using inChecks
  · exact (quiet inLater).elim

theorem unwrap_notMem_save
    {connectionParams : PrivateEndpointConnParams}
    {trace : List Call}
    {remaining : Promise InternetPrivateEndpointChannel}
    (progress : SaveProgress connectionParams trace remaining)
    (parcel : Parcel)
    (outcome : Except Failure ServiceMessage) :
    (⟨.unwrapPayload parcel, outcome⟩ : Call) ∉ trace := by
  cases progress <;> simp [keysSave, recordUpdate]

theorem unwrap_notMem_emit
    {event : CloudEvent}
    {trace : List Call}
    {result : Except Failure Unit}
    (run : EmitRun event trace result)
    (parcel : Parcel)
    (outcome : Except Failure ServiceMessage) :
    (⟨.unwrapPayload parcel, outcome⟩ : Call) ∉ trace := by
  intro member
  have isOther :=
    run.all (fun call => call.operation ≠ .unwrapPayload parcel)
      (by simp) (by simp) (by simp) (by simp) _ member
  exact isOther rfl

/-- Processing a decrypted message decrypts nothing further. -/
theorem MessageRun.unwrap_notMem
    {parcel : Parcel}
    {serviceMessage : ServiceMessage}
    {trace : List Call}
    {result : Except Failure Reply}
    (run : MessageRun libraries emitter parcel serviceMessage trace result)
    (other : Parcel)
    (outcome : Except Failure ServiceMessage) :
    (⟨.unwrapPayload other, outcome⟩ : Call) ∉ trace := by
  cases run with
  | malformedParams =>
      simp
  | channel connectionParams saving saved _ _ runs =>
      exact unwrap_notMem_save (saveChannel_steps runs) other outcome
  | refusedEvent =>
      simp
  | event event emission emitted _ _ runs =>
      exact unwrap_notMem_emit (emit_runs runs) other outcome

/-- Processing a decrypted message is never answered 400 or 403. -/
theorem MessageRun.statusOf_eq
    {parcel : Parcel}
    {serviceMessage : ServiceMessage}
    {trace : List Call}
    {result : Except Failure Reply}
    (run : MessageRun libraries emitter parcel serviceMessage trace result) :
    statusOf result = HttpStatusCodes.accepted ∨
      statusOf result = HttpStatusCodes.internalServerError := by
  cases run with
  | malformedParams =>
      exact .inl rfl
  | channel =>
      exact .inl rfl
  | refusedEvent =>
      exact .inr rfl
  | event event emission emitted =>
      cases emitted with
      | ok answer =>
          exact .inl rfl
      | error failure =>
          exact .inr rfl

/-- A request that decrypts nothing and has no effect meets its checks. -/
theorem effectsMatchChecks_of_quiet
    {before : State}
    {delivery : Delivery}
    (undecrypted : ¬ Decrypts delivery)
    (silent : emittedEvents delivery.trace = []) :
    EffectsMatchChecks libraries endpoint emitter before delivery before := by
  have neverPasses :
      ∀ parcel serviceMessage,
        ¬ Passes libraries endpoint delivery parcel serviceMessage :=
    fun parcel serviceMessage passes =>
      undecrypted ⟨parcel, serviceMessage, passes.2.2.2⟩
  refine ⟨?_, ?_, ?_, ?_, ?_, ?_, fun _ => ⟨rfl, silent⟩⟩
  · rintro (emitted | changed)
    · exact (emitted silent).elim
    · exact (changed rfl).elim
  · exact fun parcel serviceMessage _ passes =>
      (neverPasses parcel serviceMessage passes).elim
  · exact fun parcel serviceMessage _ passes =>
      (neverPasses parcel serviceMessage passes).elim
  · exact fun parcel serviceMessage _ passes =>
      (neverPasses parcel serviceMessage passes).elim
  · exact fun parcel serviceMessage _ passes =>
      (neverPasses parcel serviceMessage passes).elim
  · exact fun parcel serviceMessage passes =>
      (neverPasses parcel serviceMessage passes).elim

/-- The event made from a parcel describes it when the constructor keeps its attributes. -/
theorem describes_of_keepsAttributes
    {parcel : Parcel}
    {serviceMessage : ServiceMessage}
    (keeps :
      KeepsAttributes libraries
        (incomingServiceMessageAttributes
          (incomingOptions parcel serviceMessage))) :
    ∃ event,
      makeIncomingServiceMessageEvent libraries
          (incomingOptions parcel serviceMessage) = .ok event ∧
        Describes event parcel serviceMessage :=
  ⟨_, keeps, rfl, rfl, rfl, rfl, rfl, rfl, rfl⟩

section Processing

variable {parcel : Parcel}
  {serviceMessage : ServiceMessage}
  {processing : List Call}
  {result : Except Failure Reply}

/-- Well-formed connection parameters are saved. -/
theorem MessageRun.saves
    {connectionParams : PrivateEndpointConnParams}
    (run : MessageRun libraries emitter parcel serviceMessage processing result)
    (isPda : serviceMessage.type = pdaPathType)
    (wellFormed :
      libraries.deserializeConnParams serviceMessage.content =
        .ok connectionParams) :
    ∃ saved,
      Runs (InternetEndpoint.saveChannel connectionParams) processing saved := by
  cases run with
  | malformedParams failure _ malformed =>
      cases malformed.symm.trans wellFormed
  | channel _ _ saved _ deserialized runs =>
      cases deserialized.symm.trans wellFormed
      exact ⟨saved, runs⟩
  | refusedEvent _ notPda =>
      exact (notPda isPda).elim
  | event _ _ _ notPda =>
      exact (notPda isPda).elim

/-- Nothing is done about malformed connection parameters. -/
theorem MessageRun.ignores
    {failure : Failure}
    (run : MessageRun libraries emitter parcel serviceMessage processing result)
    (isPda : serviceMessage.type = pdaPathType)
    (malformed :
      libraries.deserializeConnParams serviceMessage.content =
        .error failure) :
    processing = [] := by
  cases run with
  | malformedParams =>
      rfl
  | channel _ _ _ _ wellFormed =>
      cases malformed.symm.trans wellFormed
  | refusedEvent _ notPda =>
      exact (notPda isPda).elim
  | event _ _ _ notPda =>
      exact (notPda isPda).elim

/-- A message of any other type is emitted as the event that is made from it. -/
theorem MessageRun.emits
    {event : CloudEvent}
    (run : MessageRun libraries emitter parcel serviceMessage processing result)
    (notPda : serviceMessage.type ≠ pdaPathType)
    (made :
      makeIncomingServiceMessageEvent libraries
        (incomingOptions parcel serviceMessage) = .ok event) :
    ∃ emitted, Runs (emitter.emit event) processing emitted := by
  cases run with
  | malformedParams _ isPda =>
      exact (notPda isPda).elim
  | channel _ _ _ isPda =>
      exact (notPda isPda).elim
  | refusedEvent failure _ refused =>
      cases refused.symm.trans made
  | event _ _ emitted _ alsoMade runs =>
      cases alsoMade.symm.trans made
      exact ⟨emitted, runs⟩

/-- A message from which no event can be made is neither emitted nor acknowledged. -/
theorem MessageRun.emitsNothing
    {failure : Failure}
    (run : MessageRun libraries emitter parcel serviceMessage processing result)
    (notPda : serviceMessage.type ≠ pdaPathType)
    (refused :
      makeIncomingServiceMessageEvent libraries
        (incomingOptions parcel serviceMessage) = .error failure) :
    processing = [] ∧ statusOf result = HttpStatusCodes.internalServerError := by
  cases run with
  | malformedParams _ isPda =>
      exact (notPda isPda).elim
  | channel _ _ _ isPda =>
      exact (notPda isPda).elim
  | refusedEvent =>
      exact ⟨rfl, rfl⟩
  | event _ _ _ _ made =>
      cases refused.symm.trans made

end Processing

/-- After the checks, the effects of a request are those of its decrypted message. -/
theorem effectsMatchChecks_of_processed
    {body : Buffer}
    {parcel : Parcel}
    {serviceMessage : ServiceMessage}
    {processing : List Call}
    {result : Except Failure Reply}
    {before after : State}
    (deserialized : libraries.deserializeParcel body = .ok parcel)
    (sameAddress :
      parcel.recipient.internetAddress = some endpoint.internetAddress)
    (run : MessageRun libraries emitter parcel serviceMessage processing result)
    (performed : Run (Performed libraries) before processing after) :
    EffectsMatchChecks libraries endpoint emitter before
      ⟨body, checks parcel serviceMessage ++ processing, result⟩ after := by
  have passes :
      Passes libraries endpoint
        ⟨body, checks parcel serviceMessage ++ processing, result⟩
        parcel serviceMessage :=
    ⟨deserialized, by simp [checks], sameAddress, by simp [checks]⟩
  have onlyThese :
      ∀ other otherMessage,
        Passes libraries endpoint
          ⟨body, checks parcel serviceMessage ++ processing, result⟩
          other otherMessage →
        other = parcel ∧ otherMessage = serviceMessage :=
    fun other otherMessage otherPasses =>
      unwraps_of_checks otherPasses.2.2.2 (run.unwrap_notMem other _)
  have silentChecks :
      emittedEvents (checks parcel serviceMessage ++ processing) =
        emittedEvents processing :=
    rfl
  refine ⟨fun _ => ⟨parcel, serviceMessage, passes⟩, ?_, ?_, ?_, ?_,
    fun _ _ _ keeps => describes_of_keepsAttributes keeps, ?_⟩
  · intro other otherMessage connectionParams otherPasses isPda wellFormed
    obtain ⟨rfl, rfl⟩ := onlyThese other otherMessage otherPasses
    obtain ⟨saved, runs⟩ := run.saves isPda wellFormed
    have silent := (saveChannel_steps runs).emittedEvents
    exact ⟨silentChecks.trans silent, processing, saved, rfl, runs⟩
  · intro other otherMessage failure otherPasses isPda malformed
    obtain ⟨rfl, rfl⟩ := onlyThese other otherMessage otherPasses
    have quiet := run.ignores isPda malformed
    subst quiet
    exact ⟨List.append_nil _, (Run.nil_iff.mp performed).symm, rfl⟩
  · intro other otherMessage event otherPasses notPda made
    obtain ⟨rfl, rfl⟩ := onlyThese other otherMessage otherPasses
    obtain ⟨emitted, runs⟩ := run.emits notPda made
    obtain ⟨sameStores, emittedOnce⟩ := (emit_runs runs).effects performed
    exact ⟨sameStores, ⟨processing, emitted, rfl, runs⟩, emittedOnce⟩
  · intro other otherMessage failure otherPasses notPda refused
    obtain ⟨rfl, rfl⟩ := onlyThese other otherMessage otherPasses
    obtain ⟨quiet, failed⟩ := run.emitsNothing notPda refused
    subst quiet
    exact ⟨List.append_nil _, (Run.nil_iff.mp performed).symm, rfl, failed⟩
  · rintro (badRequest | forbidden | undecrypted)
    · rcases run.statusOf_eq with accepted | failed
      · cases badRequest.symm.trans accepted
      · cases badRequest.symm.trans failed
    · rcases run.statusOf_eq with accepted | failed
      · cases forbidden.symm.trans accepted
      · cases forbidden.symm.trans failed
    · exact (undecrypted ⟨parcel, serviceMessage, passes.2.2.2⟩).elim

/-- The effects of every request match the checks its parcel went through. -/
theorem Handles.effectsMatchChecks
    {before after : State}
    {delivery : Delivery}
    (handles : Handles libraries endpoint emitter before delivery after) :
    EffectsMatchChecks libraries endpoint emitter before delivery after := by
  obtain ⟨runs, performed⟩ := handles
  obtain ⟨body, trace, reply⟩ := delivery
  cases handler_runs runs with
  | malformedParcel =>
      rw [← Run.nil_iff.mp performed]
      exact effectsMatchChecks_of_quiet (by simp [Decrypts]) rfl
  | invalidParcel parcel outcome =>
      obtain ⟨_, ⟨_, validated⟩, rfl⟩ := by
        simpa only [Run.cons_iff, Run.nil_iff] using performed
      cases validated
      exact effectsMatchChecks_of_quiet (by simp [Decrypts]) rfl
  | undecrypted parcel failure =>
      obtain ⟨_, ⟨_, validated⟩, _, ⟨_, unwrapped⟩, rfl⟩ := by
        simpa only [Run.cons_iff, Run.nil_iff] using performed
      cases validated
      cases unwrapped
      exact effectsMatchChecks_of_quiet (by simp [Decrypts]) rfl
  | processed parcel serviceMessage processing _ deserialized sameAddress run =>
      exact effectsMatchChecks_of_processed deserialized sameAddress run
        (checks_run performed)

/-! ## Requests that store connection parameters -/

/-- The request whose connection parameters were saved and recorded. -/
def storedDelivery
    (body : Buffer)
    (parcel : Parcel)
    (serviceMessage : ServiceMessage)
    (connectionParams : PrivateEndpointConnParams)
    (channel : InternetPrivateEndpointChannel) : Delivery where
  body := body
  trace :=
    checks parcel serviceMessage ++
      [keysSave connectionParams (.ok channel),
        recordUpdate connectionParams channel (.ok ())]
  reply := .ok (acceptedReply "Peer connection params stored")

/-- The state once connection parameters were saved and recorded. -/
def storedState
    (libraries : Libraries)
    (before : State)
    (connectionParams : PrivateEndpointConnParams) : State :=
  let peerId := libraries.getIdFromIdentityKey connectionParams.identityKey
  { before.saveEntries peerId connectionParams .all with
    peerEndpoints :=
      upsertPeerEndpoint peerId connectionParams.internetGatewayAddress
        before.peerEndpoints }

/-- The route stores the connection parameters of whichever parcel carries them. -/
theorem handles_storedDelivery
    {body : Buffer}
    {parcel : Parcel}
    {serviceMessage : ServiceMessage}
    {connectionParams : PrivateEndpointConnParams}
    {channel : InternetPrivateEndpointChannel}
    (before : State)
    (deserialized : libraries.deserializeParcel body = .ok parcel)
    (sameAddress :
      parcel.recipient.internetAddress = some endpoint.internetAddress)
    (isPda : serviceMessage.type = pdaPathType)
    (wellFormed :
      libraries.deserializeConnParams serviceMessage.content = .ok connectionParams)
    (sameId :
      channel.peer.id =
        libraries.getIdFromIdentityKey connectionParams.identityKey) :
    Handles libraries endpoint emitter before
      (storedDelivery body parcel serviceMessage connectionParams channel)
      (storedState libraries before connectionParams) := by
  constructor
  · have processed :
        Runs (processServiceMessage libraries emitter parcel serviceMessage)
          [keysSave connectionParams (.ok channel),
            recordUpdate connectionParams channel (.ok ())]
          (.ok (acceptedReply "Peer connection params stored")) := by
      simp only [processServiceMessage, isPda, ↓reduceIte,
        createOrUpdateChannel, wellFormed]
      refine runs_await_iff.mpr ⟨.ok channel, _, rfl, ?_⟩
      exact runs_await_iff.mpr
        ⟨.ok (), [], rfl, runs_settled_iff.mpr ⟨rfl, rfl⟩⟩
    simp only [storedDelivery, handler, deserializeParcel, deserialized]
    refine runs_await_iff.mpr ⟨.ok (), _, rfl, ?_⟩
    simp only [sameAddress, ne_eq, not_true_eq_false, ↓reduceIte]
    exact runs_await_iff.mpr ⟨.ok serviceMessage, _, rfl, processed⟩
  · refine .next ⟨epoch, rfl⟩ (.next ⟨epoch, rfl⟩ ?_)
    refine Run.cons_iff.mpr
      ⟨before.saveEntries
        (libraries.getIdFromIdentityKey connectionParams.identityKey)
        connectionParams .all, ⟨epoch, sameId, .inl rfl⟩, ?_⟩
    refine .next ⟨epoch, ?_⟩ (.done _)
    simp only [storedState, Performs, recordUpdate, sameId]
    rfl

/-- A parcel of the stub libraries, handled with the parameters it carries stored. -/
def stubDelivery
    (body : Buffer)
    (parcel : Parcel)
    (address : String)
    (version : UInt8) : Delivery :=
  storedDelivery body parcel (Stubs.paramsMessage version)
    (Stubs.connectionParams address version)
    (Stubs.channel (Stubs.connectionParams address version))

theorem handles_stubDelivery
    (body : Buffer)
    (parcel : Parcel)
    (address : String)
    (version : UInt8)
    (before : State)
    (deserialized : Stubs.routeLibraries.deserializeParcel body = .ok parcel)
    (sameAddress :
      parcel.recipient.internetAddress = some Stubs.endpointAddress)
    (wellFormed :
      Stubs.routeLibraries.deserializeConnParams [version] =
        .ok (Stubs.connectionParams address version)) :
    Handles Stubs.routeLibraries Stubs.endpoint ⟨defaultTransport⟩ before
      (stubDelivery body parcel address version)
      (storedState Stubs.routeLibraries before
        (Stubs.connectionParams address version)) :=
  handles_storedDelivery before deserialized sameAddress rfl wellFormed rfl

/-! ## The effects of a run -/

/-- Along any sequence of requests, the effects of each match its checks. -/
theorem effectsMatchChecks_run
    {first last : State}
    {deliveries : List Delivery}
    (run : Run (Handles libraries endpoint emitter) first deliveries last) :
    Run
      (fun before delivery after =>
        Handles libraries endpoint emitter before delivery after ∧
          EffectsMatchChecks libraries endpoint emitter before delivery after)
      first deliveries last :=
  run.mono fun _ _ _ _ handles =>
    ⟨handles, handles.effectsMatchChecks⟩

/-- A message to the app, told apart by its content type. -/
def stubMessage (contentType : String) : ServiceMessage :=
  ⟨contentType, [7]⟩

/-- The event of the stub message with a content type. -/
def stubEvent : CloudEvent :=
  incomingServiceMessageAttributes
    (incomingOptions Stubs.newerParcel (stubMessage "text/plain"))

/-- The request of a malformed parcel. -/
def malformedDelivery : Delivery where
  body := [9]
  trace := []
  reply :=
    .ok ⟨HttpStatusCodes.badRequest,
      some "Payload is not a valid RAMF-serialized parcel",
      [⟨.info, "Refusing malformed parcel"⟩]⟩

/-- The request whose message is emitted, by an emitter function made for it. -/
def emittedDelivery : Delivery where
  body := [1]
  trace :=
    checks Stubs.newerParcel (stubMessage "text/plain") ++
      [⟨.loadEmitterFunction, .ok none⟩,
        ⟨.makeEmitter defaultTransport, .ok ⟨0⟩⟩,
        ⟨.storeEmitterFunction ⟨0⟩, .ok ()⟩,
        ⟨.loadEmitterFunction, .ok (some ⟨0⟩)⟩,
        ⟨.callEmitterFunction ⟨0⟩ stubEvent, .ok ()⟩]
  reply := .ok (acceptedReply "Parcel is valid and has been queued")

/-- The request whose message has an empty content type. -/
def refusedDelivery : Delivery where
  body := [1]
  trace := checks Stubs.newerParcel (stubMessage "")
  reply := .error Stubs.malformed

theorem handles_malformedDelivery
    (state : State) :
    Handles Stubs.routeLibraries Stubs.endpoint ⟨defaultTransport⟩ state
      malformedDelivery state :=
  ⟨runs_settled_iff.mpr ⟨rfl, rfl⟩, .done _⟩

theorem handles_emittedDelivery
    {state : State}
    (noEmitter : state.emitterFunction = none) :
    Handles Stubs.routeLibraries Stubs.endpoint ⟨defaultTransport⟩ state
      emittedDelivery { state with emitterFunction := some ⟨0⟩ } := by
  constructor
  · refine runs_await_iff.mpr ⟨.ok (), _, rfl, ?_⟩
    refine runs_await_iff.mpr ⟨.ok (stubMessage "text/plain"), _, rfl, ?_⟩
    refine runs_await_iff.mpr ⟨.ok none, _, rfl, ?_⟩
    refine runs_await_iff.mpr ⟨.ok ⟨0⟩, _, rfl, ?_⟩
    refine runs_await_iff.mpr ⟨.ok (), _, rfl, ?_⟩
    refine runs_await_iff.mpr ⟨.ok (some ⟨0⟩), _, rfl, ?_⟩
    refine runs_await_iff.mpr ⟨.ok (), _, rfl, ?_⟩
    exact runs_settled_iff.mpr ⟨rfl, rfl⟩
  · refine .next ⟨epoch, rfl⟩ (.next ⟨epoch, rfl⟩ ?_)
    refine .next ⟨epoch, ?_, rfl⟩ (.next ⟨epoch, rfl⟩ ?_)
    · rw [noEmitter]
    · exact .next ⟨epoch, rfl, rfl⟩
        (.next ⟨epoch, rfl, rfl⟩ (.next ⟨epoch, rfl⟩ (.done _)))

theorem handles_refusedDelivery
    (state : State) :
    Handles Stubs.routeLibraries Stubs.endpoint ⟨defaultTransport⟩ state
      refusedDelivery state := by
  constructor
  · refine runs_await_iff.mpr ⟨.ok (), _, rfl, ?_⟩
    refine runs_await_iff.mpr ⟨.ok (stubMessage ""), [], rfl, ?_⟩
    exact runs_settled_iff.mpr ⟨rfl, rfl⟩
  · exact .next ⟨epoch, rfl⟩ (.next ⟨epoch, rfl⟩ (.done _))

/--
Parameters are stored, a malformed body has no effect, one message is emitted and
one is refused.
-/
theorem effectsMatchChecks_run_stubs :
    KeepsAttributes Stubs.routeLibraries stubEvent ∧
      ∃ last,
        Run
          (fun before delivery after =>
            Handles Stubs.routeLibraries Stubs.endpoint ⟨defaultTransport⟩
                before delivery after ∧
              EffectsMatchChecks Stubs.routeLibraries Stubs.endpoint
                ⟨defaultTransport⟩ before delivery after)
          State.empty
          [stubDelivery [0] Stubs.olderParcel Stubs.peerAddress 0,
            malformedDelivery, emittedDelivery, refusedDelivery]
          last :=
  ⟨rfl, _, effectsMatchChecks_run
    (.next (handles_stubDelivery _ _ _ _ State.empty rfl rfl rfl)
      (.next (handles_malformedDelivery _)
        (.next (handles_emittedDelivery rfl)
          (.next (handles_refusedDelivery _) (.done _)))))⟩

/--
A decrypted message with an empty content type passes all checks, but its event
is refused: `emit` is not called, and the request ends in an internal error.
-/
theorem refused_message_not_emitted :
    Handles Stubs.routeLibraries Stubs.endpoint ⟨defaultTransport⟩
        State.empty refusedDelivery State.empty ∧
      Passes Stubs.routeLibraries Stubs.endpoint refusedDelivery
        Stubs.newerParcel (stubMessage "") ∧
      (stubMessage "").type ≠ pdaPathType ∧
      (¬ ∃ event,
        EmitsOnce ⟨defaultTransport⟩ refusedDelivery Stubs.newerParcel
          (stubMessage "") event) ∧
      statusOf refusedDelivery.reply = HttpStatusCodes.internalServerError := by
  refine ⟨handles_refusedDelivery _, ⟨rfl, ?_, rfl, ?_⟩, by decide, ?_, rfl⟩
  · simp [refusedDelivery, checks]
  · simp [refusedDelivery, checks]
  · rintro ⟨event, emission, emitted, shape, runs⟩
    -- Whatever `emit` goes on to do, it first reads the emitter function.
    obtain ⟨_, _, rfl, -⟩ := runs_await_iff.mp runs
    simp [refusedDelivery] at shape

end ParcelDelivery

end AwalaEndpoint
