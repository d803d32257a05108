import AwalaEndpoint.ChannelOwnership

namespace AwalaEndpoint

open Awaiting LabelledRuns

/-!
# Which gateway a peer ends up with

The route takes no notice of when a parcel was created.  The gateway address on
record is a register that each request with stored parameters overwrites, so
the parcel processed last decides.
-/

namespace Delivery

/-- The gateway address in the connection parameters of a request. -/
def carriedGateway
    (libraries : Libraries)
    (delivery : Delivery) : Option String :=
  (delivery.carriedParams libraries).map
    PrivateEndpointConnParams.internetGatewayAddress

/-- The gateway address a request put on record for a peer, if it did. -/
def storedGateway
    (libraries : Libraries)
    (peerId : String)
    (delivery : Delivery) : Option String :=
  if delivery.reply =
      .ok (ParcelDelivery.acceptedReply "Peer connection params stored") ∧
      delivery.carriesParamsFor libraries peerId = true then
    delivery.carriedGateway libraries
  else
    none

/-- A request with parameters of a peer that the route stored. -/
def StoresParamsFor
    (libraries : Libraries)
    (peerId : String)
    (delivery : Delivery) : Prop :=
  delivery.reply =
      .ok (ParcelDelivery.acceptedReply "Peer connection params stored") ∧
    delivery.carriesParamsFor libraries peerId = true

/-- The request is the last one of a run that stored parameters of the peer. -/
structure IsLastFor
    (libraries : Libraries)
    (peerId : String)
    (delivery : Delivery)
    (deliveries : List Delivery) : Prop where
  stored : delivery.StoresParamsFor libraries peerId
  last :
    ∃ earlier later,
      deliveries = earlier ++ delivery :: later ∧
        ∀ other ∈ later, ¬ other.StoresParamsFor libraries peerId

end Delivery

section Requests

variable {libraries : Libraries}
  {endpoint : InternetEndpoint}
  {emitter : Emitter}
  {peerId : String}

/-- Initialising the emitter or emitting an event puts no address on record. -/
theorem EmitRun.recordWrite_eq_none
    {event : CloudEvent}
    {trace : List Call}
    {result : Except Failure Unit}
    (run : EmitRun event trace result) :
    lastWrite (recordWrite peerId) trace = none :=
  lastWrite_eq_none_iff.mpr
    (run.all (fun call => recordWrite peerId call = none)
      (fun _ => rfl) (fun _ _ => rfl) (fun _ _ => rfl) fun _ _ => rfl)

theorem Delivery.storedGateway_of_otherReply
    {body : Buffer}
    {trace : List Call}
    {reply : Except Failure Reply}
    (otherReply :
      reply ≠
        .ok (ParcelDelivery.acceptedReply "Peer connection params stored")) :
    Delivery.storedGateway libraries peerId ⟨body, trace, reply⟩ = none := by
  simp [storedGateway, otherReply]

/-- The address of connection parameters goes on record for the peer they identify. -/
theorem Delivery.storedGateway_of_stored
    {body : Buffer}
    {parcel : Parcel}
    {serviceMessage : ServiceMessage}
    {connectionParams : PrivateEndpointConnParams}
    {processing : List Call}
    (isPda : serviceMessage.type = ParcelDelivery.pdaPathType)
    (wellFormed :
      libraries.deserializeConnParams serviceMessage.content =
        .ok connectionParams) :
    Delivery.storedGateway libraries peerId
        ⟨body, ParcelDelivery.checks parcel serviceMessage ++ processing,
          .ok (ParcelDelivery.acceptedReply "Peer connection params stored")⟩ =
      if libraries.getIdFromIdentityKey connectionParams.identityKey = peerId then
        some connectionParams.internetGatewayAddress
      else
        none := by
  rw [Delivery.storedGateway, Delivery.carriedGateway,
    Delivery.carriesParamsFor, carriedParams_checks]
  simp [isPda, wellFormed, Except.toOption]

/-- A request overwrites the address on record with the one it stored, if any. -/
theorem ParcelDelivery.Handles.gatewayOf
    {before after : State}
    {delivery : Delivery}
    (handles :
      ParcelDelivery.Handles libraries endpoint emitter before delivery after)
    (peerId : String) :
    after.gatewayOf peerId =
      (delivery.storedGateway libraries peerId).or (before.gatewayOf peerId) := by
  obtain ⟨runs, performed⟩ := handles
  obtain ⟨body, trace, reply⟩ := delivery
  rw [gatewayOf_run performed peerId]
  congr 1
  cases ParcelDelivery.handler_runs runs with
  | malformedParcel =>
      exact (Delivery.storedGateway_of_otherReply (by decide)).symm
  | invalidParcel =>
      exact (Delivery.storedGateway_of_otherReply (by decide)).symm
  | undecrypted =>
      exact (Delivery.storedGateway_of_otherReply (by decide)).symm
  | processed parcel serviceMessage processing _ _ _ run =>
      have silentChecks :
          lastWrite (recordWrite peerId)
              (ParcelDelivery.checks parcel serviceMessage ++ processing) =
            lastWrite (recordWrite peerId) processing :=
        rfl
      refine silentChecks.trans ?_
      cases run with
      | malformedParams =>
          exact (Delivery.storedGateway_of_otherReply (by decide)).symm
      | channel connectionParams _ saved isPda wellFormed saving =>
          rcases saveChannel_runs saving with
            ⟨failure, rfl, rfl⟩ | ⟨channel, outcome, rfl, rfl⟩
          · refine (Delivery.storedGateway_of_otherReply ?_).symm
            simp [ParcelDelivery.savedLine, ParcelDelivery.acceptedReply]
          · cases outcome with
            | error failure =>
                refine (Delivery.storedGateway_of_otherReply ?_).symm
                simp [ParcelDelivery.savedLine, ParcelDelivery.acceptedReply,
                  Except.map]
            | ok answer =>
                obtain ⟨_, ⟨_, sameId, -⟩, -⟩ :=
                  Run.cons_iff.mp (ParcelDelivery.checks_run performed)
                refine Eq.trans ?_
                  (Delivery.storedGateway_of_stored isPda wellFormed).symm
                refine (lastWrite_concat
                  [keysSave connectionParams (.ok channel)] _).trans ?_
                simp [recordUpdate, recordWrite, sameId, lastWrite, keysSave]
      | refusedEvent =>
          exact (Delivery.storedGateway_of_otherReply (by simp)).symm
      | event event _ emitted _ _ emitting =>
          rw [(emit_runs emitting).recordWrite_eq_none]
          refine (Delivery.storedGateway_of_otherReply ?_).symm
          cases emitted with
          | ok answer =>
              simp [ParcelDelivery.acceptedReply]
          | error failure =>
              simp

/-- After a run, the address on record is the one stored last. -/
theorem recordedGateway_run
    {first last : State}
    {deliveries : List Delivery}
    (run :
      Run (ParcelDelivery.Handles libraries endpoint emitter)
        first deliveries last)
    (peerId : String) :
    last.gatewayOf peerId =
      (lastWrite (Delivery.storedGateway libraries peerId) deliveries).or
        (first.gatewayOf peerId) :=
  run.register fun _ _ _ _ handles => handles.gatewayOf peerId

/-- The address on record is that of the last request that stored parameters. -/
theorem recordedGateway_of_last
    {first last : State}
    {deliveries : List Delivery}
    {delivery : Delivery}
    (run :
      Run (ParcelDelivery.Handles libraries endpoint emitter)
        first deliveries last)
    (isLast : delivery.IsLastFor libraries peerId deliveries) :
    last.gatewayOf peerId = delivery.carriedGateway libraries := by
  obtain ⟨stored, earlier, later, shape, quiet⟩ := isLast
  have carries := stored.2
  simp only [Delivery.carriesParamsFor, Option.any_eq_true] at carries
  obtain ⟨connectionParams, carried, -⟩ := carries
  have written :
      lastWrite (Delivery.storedGateway libraries peerId) deliveries =
        some connectionParams.internetGatewayAddress := by
    refine lastWrite_eq_some_iff.mpr ⟨earlier, delivery, later, shape, ?_, ?_⟩
    · simp [Delivery.storedGateway, stored.1, stored.2,
        Delivery.carriedGateway, carried]
    · intro other member
      exact if_neg (quiet other member)
  rw [recordedGateway_run run peerId, written, Option.some_or,
    Delivery.carriedGateway, carried, Option.map_some]

/--
However often and in whichever orders parcels are processed, the record of a peer
ends with the gateway address of the parcel processed last; so two orders end with
the same address exactly when their last parcels carry the same one.
-/
theorem gateway_of_last_processed
    (peerId : String)
    {firstStart firstEnd secondStart secondEnd : State}
    {firstDeliveries secondDeliveries : List Delivery}
    {firstFinal secondFinal : Delivery}
    (firstOrder :
      Run (ParcelDelivery.Handles libraries endpoint emitter)
        firstStart firstDeliveries firstEnd)
    (secondOrder :
      Run (ParcelDelivery.Handles libraries endpoint emitter)
        secondStart secondDeliveries secondEnd)
    (firstLast : firstFinal.IsLastFor libraries peerId firstDeliveries)
    (secondLast : secondFinal.IsLastFor libraries peerId secondDeliveries) :
    firstEnd.gatewayOf peerId = firstFinal.carriedGateway libraries ∧
      secondEnd.gatewayOf peerId = secondFinal.carriedGateway libraries ∧
      (firstEnd.gatewayOf peerId = secondEnd.gatewayOf peerId ↔
        firstFinal.carriedGateway libraries =
          secondFinal.carriedGateway libraries) := by
  have firstEnds := recordedGateway_of_last firstOrder firstLast
  have secondEnds := recordedGateway_of_last secondOrder secondLast
  refine ⟨firstEnds, secondEnds, ?_⟩
  rw [firstEnds, secondEnds]

end Requests

namespace ParcelDelivery

/-- The older parcel of the stub peer, with its parameters stored. -/
def olderDelivery : Delivery :=
  stubDelivery [0] Stubs.olderParcel Stubs.peerAddress 0

/-- The newer parcel of the stub peer, with its parameters stored. -/
def newerDelivery : Delivery :=
  stubDelivery [1] Stubs.newerParcel Stubs.otherAddress 1

/-- Either parcel can be processed last. -/
theorem twoOrders_run :
    ∃ first second,
      Run (Handles Stubs.routeLibraries Stubs.endpoint ⟨defaultTransport⟩)
          State.empty [olderDelivery, newerDelivery] first ∧
        Run (Handles Stubs.routeLibraries Stubs.endpoint ⟨defaultTransport⟩)
          State.empty [newerDelivery, olderDelivery] second ∧
        first.gatewayOf Stubs.peerId = some Stubs.otherAddress ∧
        second.gatewayOf Stubs.peerId = some Stubs.peerAddress :=
  ⟨_, _,
    .next (handles_stubDelivery [0] Stubs.olderParcel Stubs.peerAddress 0 _
        rfl rfl rfl)
      (.next (handles_stubDelivery [1] Stubs.newerParcel Stubs.otherAddress 1 _
        rfl rfl rfl) (.done _)),
    .next (handles_stubDelivery [1] Stubs.newerParcel Stubs.otherAddress 1 _
        rfl rfl rfl)
      (.next (handles_stubDelivery [0] Stubs.olderParcel Stubs.peerAddress 0 _
        rfl rfl rfl) (.done _)),
    rfl, rfl⟩

end ParcelDelivery

/-- The two orders of the two parcels end with different addresses. -/
theorem gateway_of_last_processed_stubs :
    ∃ first second : State,
      first.gatewayOf Stubs.peerId = some Stubs.otherAddress ∧
        ¬ first.gatewayOf Stubs.peerId = second.gatewayOf Stubs.peerId := by
  obtain ⟨first, second, firstOrder, secondOrder, -⟩ :=
    ParcelDelivery.twoOrders_run
  have olderStored :
      ParcelDelivery.olderDelivery.StoresParamsFor Stubs.routeLibraries
        Stubs.peerId :=
    ⟨rfl, rfl⟩
  have newerStored :
      ParcelDelivery.newerDelivery.StoresParamsFor Stubs.routeLibraries
        Stubs.peerId :=
    ⟨rfl, rfl⟩
  obtain ⟨firstEnds, -, agree⟩ :=
    gateway_of_last_processed Stubs.peerId firstOrder secondOrder
      ⟨newerStored, [ParcelDelivery.olderDelivery], [], rfl, by simp⟩
      ⟨olderStored, [ParcelDelivery.newerDelivery], [], rfl, by simp⟩
  exact ⟨first, second, firstEnds, agree.not.mpr (by decide)⟩

/--
The record does not end with the address of the newest parcel: the parcels of
the peer have different creation dates, and when the older one is processed last
the peer is back at its older gateway.
-/
theorem older_parcel_reverts_gateway :
    ∃ first second,
      Run
          (ParcelDelivery.Handles Stubs.routeLibraries Stubs.endpoint
            ⟨defaultTransport⟩)
          State.empty
          [ParcelDelivery.olderDelivery, ParcelDelivery.newerDelivery]
          first ∧
        Run
          (ParcelDelivery.Handles Stubs.routeLibraries Stubs.endpoint
            ⟨defaultTransport⟩)
          State.empty
          [ParcelDelivery.newerDelivery, ParcelDelivery.olderDelivery]
          second ∧
        Stubs.olderParcel.creationDate.milliseconds <
          Stubs.newerParcel.creationDate.milliseconds ∧
        first.gatewayOf Stubs.peerId =
          ParcelDelivery.newerDelivery.carriedGateway Stubs.routeLibraries ∧
        second.gatewayOf Stubs.peerId ≠
          ParcelDelivery.newerDelivery.carriedGateway Stubs.routeLibraries := by
  obtain ⟨first, second, firstOrder, secondOrder, firstEnds, secondEnds⟩ :=
    ParcelDelivery.twoOrders_run
  refine ⟨first, second, firstOrder, secondOrder, by decide, firstEnds, ?_⟩
  rw [secondEnds]
  decide

end AwalaEndpoint
