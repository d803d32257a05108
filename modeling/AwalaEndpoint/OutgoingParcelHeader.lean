import AwalaEndpoint.EventAcknowledgement

namespace AwalaEndpoint

open Awaiting LabelledRuns

/-!
# The header of an outgoing parcel

The decoder reads the creation date and the lifetime of a parcel off its event.
The first part compares the expiry of the parcel with the one the event asks
for; the second part compares the header with what a parcel can hold.
-/

/-! ## When the parcel expires -/

/-- The instant at which the app wants the parcel of an event to expire. -/
def requestedExpiry
    (libraries : Libraries)
    (event : CloudEvent)
    (time : Instant) : Option Int :=
  match event.expiry with
  | none => some (time.milliseconds + defaultTtlSeconds * 1000)
  | some (.string text) => (libraries.parseISO text).map Instant.milliseconds
  | some .other => none

/-- The expiry of a parcel: its creation date plus its lifetime. -/
def parcelExpiry (options : MessageOptions) : Option Int :=
  match options.creationDate, options.ttl with
  | some created, .integer seconds => some (created.milliseconds + seconds * 1000)
  | _, _ => none

/-- The parcel expires at the requested instant, to within a second. -/
def ExpiresOnTime (options : MessageOptions) (requested : Int) : Prop :=
  ∃ instant,
    parcelExpiry options = some instant ∧ (instant - requested).natAbs ≤ 1000

/-- A parcel that may live for more than a second has not expired already. -/
def NotExpiredAlready (options : MessageOptions) (requested : Int) : Prop :=
  ∀ now : Int,
    now + 1000 < requested →
    ∃ instant, parcelExpiry options = some instant ∧ now < instant

/-- The clock drift tolerance in milliseconds. -/
def clockDriftTolerance : Int := clockDriftToleranceHours * millisecondsInHour

/-- Rounding towards zero loses less than a whole second. -/
theorem tdiv_mul_sub_natAbs_lt
    (difference : Int) :
    (difference.tdiv 1000 * 1000 - difference).natAbs < 1000 := by
  have parts := Int.tmod_add_tdiv_mul difference 1000
  have remainder : (difference.tmod 1000).natAbs < 1000 := by
    rw [Int.natAbs_tmod]
    exact Nat.mod_lt _ (by decide)
  omega

/-- The lifetime of an accepted event reaches from its time to the requested expiry. -/
theorem ttl_of_accepted
    {libraries : Libraries}
    {event : CloudEvent}
    {time : Instant}
    {ttl : Number}
    (accepted : getTtl libraries event.expiry (some time) = .ok ttl) :
    ∃ requested seconds,
      requestedExpiry libraries event time = some requested ∧
        ttl = .integer seconds ∧
        (time.milliseconds + seconds * 1000 - requested).natAbs < 1000 := by
  cases hasExpiry : event.expiry with
  | none =>
      rw [hasExpiry, getTtl_none, Except.ok.injEq] at accepted
      exact ⟨_, defaultTtlSeconds, by rw [requestedExpiry, hasExpiry],
        accepted.symm, by simp⟩
  | some expiry =>
      rw [hasExpiry] at accepted
      obtain ⟨text, instant, rfl, parsed, rfl, -⟩ :=
        getTtl_some_eq_ok_iff.mp accepted
      refine ⟨instant.milliseconds,
        (instant.milliseconds - time.milliseconds).tdiv 1000, ?_, rfl, ?_⟩
      · simp [requestedExpiry, hasExpiry, parsed]
      · have rounding :=
          tdiv_mul_sub_natAbs_lt (instant.milliseconds - time.milliseconds)
        omega

/--
The parcel of an accepted event expires as much before the requested instant as
the creation date was moved back, unless the date is out of range.
-/
theorem parcelExpiry_of_accepted
    {libraries : Libraries}
    {event : CloudEvent}
    {options : OutgoingServiceMessageOptions}
    {time : Instant}
    (accepted : getOutgoingServiceMessageOptions libraries event = .ok options)
    (hasTime : eventDate libraries event.time = some time) :
    ∃ requested,
      requestedExpiry libraries event time = some requested ∧
        ∀ instant,
          parcelExpiry options.messageOptions = some instant →
          (instant - (requested - clockDriftTolerance)).natAbs < 1000 := by
  obtain ⟨-, -, -, -, hasTtl, -, hasDate⟩ :=
    getOutgoingServiceMessageOptions_eq_ok_iff.mp accepted
  rw [hasTime] at hasTtl hasDate
  obtain ⟨requested, seconds, asked, sameTtl, close⟩ := ttl_of_accepted hasTtl
  refine ⟨requested, asked, ?_⟩
  intro instant expires
  rw [subHours_some] at hasDate
  cases clipped :
      timeClip (time.milliseconds -
        clockDriftToleranceHours * millisecondsInHour) with
  | none =>
      rw [clipped] at hasDate
      simp [parcelExpiry, OutgoingServiceMessageOptions.messageOptions,
        hasDate] at expires
  | some created =>
      rw [clipped] at hasDate
      have shifted := timeClip_eq_some_iff.mp clipped
      simp only [parcelExpiry, OutgoingServiceMessageOptions.messageOptions,
        hasDate, sameTtl, Option.some.injEq] at expires
      simp only [clockDriftTolerance]
      omega

/--
No accepted event gets a parcel that expires when the app asked, and each may
get one that has expired already.
-/
theorem parcel_expires_early
    {libraries : Libraries}
    {event : CloudEvent}
    {options : OutgoingServiceMessageOptions}
    {time : Instant}
    (accepted : getOutgoingServiceMessageOptions libraries event = .ok options)
    (hasTime : eventDate libraries event.time = some time) :
    ∃ requested,
      requestedExpiry libraries event time = some requested ∧
        ¬ ExpiresOnTime options.messageOptions requested ∧
        ¬ NotExpiredAlready options.messageOptions requested := by
  obtain ⟨requested, asked, early⟩ := parcelExpiry_of_accepted accepted hasTime
  have tolerance : clockDriftTolerance = 10800000 := rfl
  refine ⟨requested, asked, ?_, ?_⟩
  · rintro ⟨instant, expires, close⟩
    have shifted := early instant expires
    omega
  · intro alive
    obtain ⟨instant, expires, later⟩ :=
      alive (requested - clockDriftTolerance + 1000) (by omega)
    have shifted := early instant expires
    omega

/-- The stub event asks for one second after the epoch. -/
theorem parcel_expires_early_stubs :
    ∃ requested,
      requestedExpiry
          (Stubs.clientLibraries (Stubs.outgoingEvent "epoch" "later"))
          (Stubs.outgoingEvent "epoch" "later") epoch = some requested ∧
        ¬ ExpiresOnTime PohttpClient.stubOptions.messageOptions requested ∧
        ¬ NotExpiredAlready PohttpClient.stubOptions.messageOptions requested :=
  parcel_expires_early rfl rfl

/--
The parcel of an event that asks for one hour after the epoch has expired two
hours before the epoch.
-/
theorem parcel_expired_two_hours_early :
    ∃ options,
      getOutgoingServiceMessageOptions
          (Stubs.clientLibraries (Stubs.outgoingEvent "epoch" "hour"))
          (Stubs.outgoingEvent "epoch" "hour") = .ok options ∧
        eventDate
          (Stubs.clientLibraries (Stubs.outgoingEvent "epoch" "hour"))
          (Stubs.outgoingEvent "epoch" "hour").time = some epoch ∧
        requestedExpiry
          (Stubs.clientLibraries (Stubs.outgoingEvent "epoch" "hour"))
          (Stubs.outgoingEvent "epoch" "hour") epoch =
            some millisecondsInHour ∧
        parcelExpiry options.messageOptions = some (-2 * millisecondsInHour) ∧
        ¬ ExpiresOnTime options.messageOptions millisecondsInHour ∧
        ¬ NotExpiredAlready options.messageOptions millisecondsInHour := by
  refine ⟨_, rfl, rfl, rfl, rfl, ?_, ?_⟩
  · rintro ⟨instant, expires, close⟩
    cases expires
    exact absurd close (by decide)
  · intro alive
    obtain ⟨instant, expires, later⟩ := alive 0 (by decide)
    cases expires
    exact absurd later (by decide)

/-! ## What a parcel can hold -/

/-- The longest lifetime of a parcel, in seconds. -/
def maxTtlSeconds : Int := 15552000

/-- The length of the longest id of a parcel. -/
def maxIdLength : Nat := 64

/-- `text.length` of the language: the number of UTF-16 code units. -/
def utf16Length (text : String) : Nat :=
  text.toList.foldl
    (fun units character =>
      if character.toNat < 0x10000 then units + 1 else units + 2)
    0

/-- A header that can be serialised. -/
structure Serialisable (options : MessageOptions) : Prop where
  ttl :
    ∃ seconds,
      options.ttl = .integer seconds ∧ 0 ≤ seconds ∧ seconds ≤ maxTtlSeconds
  creationDate : isValid options.creationDate = true
  id : utf16Length options.id ≤ maxIdLength

/-- The source of an event is one that the client sends messages of. -/
def IsFromKnownSender (endpoint : InternetEndpoint) (event : CloudEvent) : Prop :=
  event.source = endpoint.id ∨ event.source = PohttpClient.defaultSenderIdKeyword

/--
The parcel of an event from a known sender can be serialised, or the event is
answered 400.
-/
structure NotPoisonous
    (libraries : Libraries)
    (endpoint : InternetEndpoint)
    (shouldUseTls : Bool)
    (request : PostRequest)
    (event : CloudEvent) : Prop where
  serialisable :
    IsFromKnownSender endpoint event →
    ∀ options,
      getOutgoingServiceMessageOptions libraries event = .ok options →
      Serialisable options.messageOptions
  refused :
    (∀ options,
      getOutgoingServiceMessageOptions libraries event = .ok options →
      ¬ Serialisable options.messageOptions) →
    ∀ trace reply,
      Runs (PohttpClient.handler libraries endpoint shouldUseTls request)
        trace reply →
      statusOf reply = HttpStatusCodes.badRequest

/-- An expiry that is no date in a text, or that is before the time of its event. -/
def HasRefusedExpiry (libraries : Libraries) (event : CloudEvent) : Prop :=
  ∃ expiry,
    event.expiry = some expiry ∧
      ∀ text instant,
        expiry = .string text →
        libraries.parseISO text = some instant →
        ∃ time,
          eventDate libraries event.time = some time ∧
            (instant.milliseconds - time.milliseconds).tdiv 1000 < 0

/-- An event that the decoder refuses. -/
def IsRefused (libraries : Libraries) (event : CloudEvent) : Prop :=
  event.type ≠ outgoingServiceMessageType ∨
    event.subject = none ∨
    event.datacontenttype = none ∨
    eventContent event.data = none ∨
    HasRefusedExpiry libraries event

/--
An event with a short id and a valid time, not too early to be moved back, and
with an expiry at most the longest lifetime after it.
-/
def IsWithinLimits (libraries : Libraries) (event : CloudEvent) : Prop :=
  utf16Length event.id ≤ maxIdLength ∧
    ∃ time text instant,
      eventDate libraries event.time = some time ∧
        -maxTimeValue ≤ time.milliseconds - clockDriftTolerance ∧
        event.expiry = some (.string text) ∧
        libraries.parseISO text = some instant ∧
        (instant.milliseconds - time.milliseconds).tdiv 1000 ≤ maxTtlSeconds

section Limits

variable {libraries : Libraries}
  {event : CloudEvent}

/-- A lifetime is refused exactly for the stated reasons. -/
theorem getTtl_accepted_iff :
    (∃ ttl,
        getTtl libraries event.expiry (eventDate libraries event.time) =
          .ok ttl) ↔
      ¬ HasRefusedExpiry libraries event := by
  cases hasExpiry : event.expiry with
  | none =>
      simp [HasRefusedExpiry, hasExpiry, getTtl_none]
  | some expiry =>
      simp only [getTtl_some_eq_ok_iff, HasRefusedExpiry, hasExpiry,
        Option.some.injEq, exists_eq_left', not_forall, not_exists, not_and]
      constructor
      · rintro ⟨ttl, text, instant, isText, parsed, rfl, notBefore⟩
        refine ⟨text, instant, isText, parsed, ?_⟩
        intro time hasTime before
        rw [hasTime, differenceInSeconds_some, lessThan_integer] at notBefore
        exact absurd before (of_decide_eq_false notBefore)
      · rintro ⟨text, instant, isText, parsed, notBefore⟩
        refine ⟨_, text, instant, isText, parsed, rfl, ?_⟩
        cases hasTime : eventDate libraries event.time with
        | none =>
            simp
        | some time =>
            simpa using notBefore time hasTime

/-- An event is accepted exactly when none of the reasons to refuse it applies. -/
theorem accepted_iff :
    (∃ options,
        getOutgoingServiceMessageOptions libraries event = .ok options) ↔
      ¬ IsRefused libraries event := by
  rw [decoded_iff, getTtl_accepted_iff]
  constructor
  · rintro ⟨complete, acceptedExpiry⟩
    rintro (otherType | noSubject | noType | noContent | refusedExpiry)
    · exact otherType complete.outgoing
    · exact complete.hasSubject noSubject
    · exact complete.hasContentType noType
    · exact complete.hasContent (eventContent_eq_none_iff.mp noContent)
    · exact acceptedExpiry refusedExpiry
  · intro notRefused
    simp only [IsRefused, eventContent_eq_none_iff, not_or, not_not]
      at notRefused
    obtain ⟨outgoing, hasSubject, hasType, hasContent, acceptedExpiry⟩ :=
      notRefused
    exact ⟨⟨outgoing, hasSubject, hasType, hasContent⟩, acceptedExpiry⟩

/-- A moved-back date is valid exactly when it does not leave the range of dates. -/
theorem isValid_subHours_iff
    (time : Instant) :
    isValid (subHours (some time) clockDriftToleranceHours) = true ↔
      -maxTimeValue ≤ time.milliseconds - clockDriftTolerance := by
  have upper := time.representable.2
  have tolerance : (0 : Int) ≤ clockDriftTolerance := by decide
  rw [subHours_some, isValid, Option.isSome_iff_ne_none, ne_eq,
    timeClip_eq_none_iff]
  simp only [clockDriftTolerance] at tolerance ⊢
  omega

/-- An accepted header can be serialised exactly when its event is within the limits. -/
theorem serialisable_iff
    {options : OutgoingServiceMessageOptions}
    (accepted : getOutgoingServiceMessageOptions libraries event = .ok options) :
    Serialisable options.messageOptions ↔ IsWithinLimits libraries event := by
  obtain ⟨-, -, -, -, hasTtl, sameId, hasDate⟩ :=
    getOutgoingServiceMessageOptions_eq_ok_iff.mp accepted
  constructor
  · rintro ⟨⟨seconds, isInteger, -, withinLimit⟩, validDate, shortId⟩
    simp only [OutgoingServiceMessageOptions.messageOptions] at *
    rw [sameId] at shortId
    refine ⟨shortId, ?_⟩
    rw [hasDate] at validDate
    rw [isInteger] at hasTtl
    cases hasTime : eventDate libraries event.time with
    | none =>
        simp [hasTime, isValid] at validDate
    | some time =>
        rw [hasTime] at hasTtl validDate
        cases hasExpiry : event.expiry with
        | none =>
            rw [hasExpiry, getTtl_none] at hasTtl
            cases hasTtl
            exact absurd withinLimit (by decide)
        | some expiry =>
            rw [hasExpiry] at hasTtl
            obtain ⟨text, instant, rfl, parsed, sameTtl, -⟩ :=
              getTtl_some_eq_ok_iff.mp hasTtl
            cases sameTtl
            exact ⟨time, text, instant, rfl,
              (isValid_subHours_iff time).mp validDate, rfl, parsed,
              withinLimit⟩
  · rintro ⟨shortId, time, text, instant, hasTime, notTooEarly, hasExpiry,
      parsed, withinLimit⟩
    rw [hasTime] at hasTtl hasDate
    rw [hasExpiry] at hasTtl
    obtain ⟨_, _, sameText, sameParsed, isInteger, notBefore⟩ :=
      getTtl_some_eq_ok_iff.mp hasTtl
    cases sameText
    cases parsed.symm.trans sameParsed
    rw [isInteger, differenceInSeconds_some, lessThan_integer] at notBefore
    refine ⟨⟨_, isInteger, ?_, withinLimit⟩, ?_, ?_⟩
    · exact Int.not_lt.mp (of_decide_eq_false notBefore)
    · simp only [OutgoingServiceMessageOptions.messageOptions, hasDate]
      exact (isValid_subHours_iff time).mpr notTooEarly
    · simpa only [OutgoingServiceMessageOptions.messageOptions, sameId] using
        shortId

/--
The event of a request is answered 400 or has a parcel that can be serialised,
exactly when its sender is unknown, the decoder refuses it or it is within the
limits of a parcel.
-/
theorem notPoisonous_iff
    {endpoint : InternetEndpoint}
    {shouldUseTls : Bool}
    {request : PostRequest}
    (converted : libraries.convertMessageToEvent request = .ok event) :
    NotPoisonous libraries endpoint shouldUseTls request event ↔
      ¬ IsFromKnownSender endpoint event ∨
        IsRefused libraries event ∨
        IsWithinLimits libraries event := by
  constructor
  · intro notPoisonous
    by_cases known : IsFromKnownSender endpoint event
    · by_cases refused : IsRefused libraries event
      · exact .inr (.inl refused)
      · obtain ⟨options, accepted⟩ := accepted_iff.mpr refused
        exact .inr (.inr ((serialisable_iff accepted).mp
          (notPoisonous.serialisable known options accepted)))
    · exact .inl known
  · intro unknownOrRefusedOrWithin
    have serialisable :
        IsFromKnownSender endpoint event →
        ∀ options,
          getOutgoingServiceMessageOptions libraries event = .ok options →
          Serialisable options.messageOptions := by
      intro known options accepted
      rcases unknownOrRefusedOrWithin with unknown | refused | within
      · exact absurd known unknown
      · exact (accepted_iff.mp ⟨options, accepted⟩ refused).elim
      · exact (serialisable_iff accepted).mpr within
    refine ⟨serialisable, ?_⟩
    intro never trace reply runs
    refine PohttpClient.badRequest_of_unacceptable runs
      (PohttpClient.unacceptable_of_refused converted ?_)
    intro known options accepted
    exact never options accepted (serialisable known options accepted)

end Limits

/-- An event with an expiry within the limits is not poisonous. -/
theorem notPoisonous_iff_stubs :
    NotPoisonous (Stubs.clientLibraries (Stubs.outgoingEvent "epoch" "later"))
        Stubs.endpoint true Stubs.request
        (Stubs.outgoingEvent "epoch" "later") ↔
      ¬ IsFromKnownSender Stubs.endpoint (Stubs.outgoingEvent "epoch" "later") ∨
        IsRefused (Stubs.clientLibraries (Stubs.outgoingEvent "epoch" "later"))
          (Stubs.outgoingEvent "epoch" "later") ∨
        IsWithinLimits
          (Stubs.clientLibraries (Stubs.outgoingEvent "epoch" "later"))
          (Stubs.outgoingEvent "epoch" "later") :=
  notPoisonous_iff rfl

/--
An event without expiry gets a lifetime that no parcel can have, and is answered
with an internal server error when the parcel cannot be made.
-/
theorem default_lifetime_poisonous :
    ∃ options trace,
      getOutgoingServiceMessageOptions
          (Stubs.clientLibraries (Stubs.outgoingEvent "epoch" none))
          (Stubs.outgoingEvent "epoch" none) = .ok options ∧
        options.ttl = .integer 15778476 ∧
        ¬ Serialisable options.messageOptions ∧
        Runs
          (PohttpClient.handler
            (Stubs.clientLibraries (Stubs.outgoingEvent "epoch" none))
            Stubs.endpoint true Stubs.request)
          trace (.error Stubs.malformed) ∧
        statusOf (.error Stubs.malformed) ≠ HttpStatusCodes.badRequest ∧
        ¬ NotPoisonous
          (Stubs.clientLibraries (Stubs.outgoingEvent "epoch" none))
          Stubs.endpoint true Stubs.request
          (Stubs.outgoingEvent "epoch" none) := by
  have unserialisable :
      ¬ Serialisable
        ⟨.integer defaultTtlSeconds, "message",
          subHours (some epoch) clockDriftToleranceHours⟩ := by
    rintro ⟨⟨seconds, isInteger, -, withinLimit⟩, -, -⟩
    cases isInteger
    exact absurd withinLimit (by decide)
  refine ⟨_,
    [⟨.findOne Stubs.peerId, .ok (some ⟨Stubs.peerId, Stubs.peerAddress⟩)⟩,
      ⟨.getChannel Stubs.peerId Stubs.peerAddress,
        .ok (some PohttpClient.stubChannel)⟩,
      ⟨.makeMessage PohttpClient.stubChannel ⟨"text/plain", []⟩
        ⟨.integer defaultTtlSeconds, "message",
          subHours (some epoch) clockDriftToleranceHours⟩,
        .error Stubs.malformed⟩],
    rfl, rfl, unserialisable, ?_, by decide, ?_⟩
  · refine runs_await_iff.mpr
      ⟨.ok (some ⟨Stubs.peerId, Stubs.peerAddress⟩), _, rfl, ?_⟩
    refine runs_await_iff.mpr
      ⟨.ok (some PohttpClient.stubChannel), _, rfl, ?_⟩
    refine runs_await_iff.mpr ⟨.error Stubs.malformed, [], rfl, ?_⟩
    exact runs_settled_iff.mpr ⟨rfl, rfl⟩
  · intro notPoisonous
    exact unserialisable (notPoisonous.serialisable (.inr rfl) _ rfl)

end AwalaEndpoint
