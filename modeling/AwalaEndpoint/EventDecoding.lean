import AwalaEndpoint.ServiceMessageRoundTrip

namespace AwalaEndpoint

/-!
# Which events are decoded

The decoder of outgoing service messages is compared with the events that are
well formed.  It never asks whether the time of an event is valid, and it
compares whole seconds; the last theorem says for which events neither matters.
-/

/-- The instant an event expires at; `none` when it has no expiry. -/
inductive DenotesExpiry
    (libraries : Libraries)
    (event : CloudEvent) : Option Instant → Prop where
  | absent :
      event.expiry = none →
      DenotesExpiry libraries event none
  | date {text : String} {instant : Instant} :
      event.expiry = some (.string text) →
      libraries.parseISO text = some instant →
      DenotesExpiry libraries event (some instant)

/-- An event that is complete, has a valid time and does not expire before it. -/
def IsWellFormed (libraries : Libraries) (event : CloudEvent) : Prop :=
  IsComplete event ∧
    ∃ time expiry,
      eventDate libraries event.time = some time ∧
        DenotesExpiry libraries event expiry ∧
        ∀ instant,
          expiry = some instant →
          time.milliseconds ≤ instant.milliseconds

/-- The options decoded from an event and from the same event with a later expiry. -/
structure LaterExpiry
    (libraries : Libraries)
    (event : CloudEvent)
    (options laterOptions : OutgoingServiceMessageOptions) : Prop where
  decoded : getOutgoingServiceMessageOptions libraries event = .ok options
  postponed :
    ∃ text instant laterInstant,
      DenotesExpiry libraries event (some instant) ∧
        libraries.parseISO text = some laterInstant ∧
        instant.milliseconds ≤ laterInstant.milliseconds ∧
        getOutgoingServiceMessageOptions libraries
            { event with expiry := some (.string text) } =
          .ok laterOptions

/-- The decoder accepts the event exactly when it is well formed, with sane options. -/
structure DecodesWellFormed (libraries : Libraries) (event : CloudEvent) : Prop where
  accepted :
    (∃ options,
        getOutgoingServiceMessageOptions libraries event = .ok options) ↔
      IsWellFormed libraries event
  validDate :
    ∀ options,
      getOutgoingServiceMessageOptions libraries event = .ok options →
      isValid options.creationDate = true
  wholeLifetime :
    ∀ options,
      getOutgoingServiceMessageOptions libraries event = .ok options →
      ∃ seconds, options.ttl = .integer seconds ∧ 0 ≤ seconds
  monotone :
    ∀ time options laterOptions,
      eventDate libraries event.time = some time →
      LaterExpiry libraries event options laterOptions →
      ∃ seconds laterSeconds,
        options.ttl = .integer seconds ∧
          laterOptions.ttl = .integer laterSeconds ∧
          seconds ≤ laterSeconds

/--
A complete event with a readable expiry has a valid time, and either expires at
least a whole second before it, or not before it and the time can be moved back.
-/
def HasSoundTimes (libraries : Libraries) (event : CloudEvent) : Prop :=
  IsComplete event →
  ∀ expiry,
    DenotesExpiry libraries event expiry →
    ∃ time,
      eventDate libraries event.time = some time ∧
        ((∃ instant,
            expiry = some instant ∧
              instant.milliseconds + 1000 ≤ time.milliseconds) ∨
          (CanBeMovedBack time ∧
            ∀ instant,
              expiry = some instant →
              time.milliseconds ≤ instant.milliseconds))

/-- The lifetime that an expiry asks for. -/
def requestedTtl (expiry : Option Instant) (creationDate : Date) : Number :=
  match expiry with
  | none => .integer defaultTtlSeconds
  | some instant => differenceInSeconds (some instant) creationDate

/-- A difference rounded towards zero is negative from a whole second below zero on. -/
theorem tdiv_neg_iff
    (difference : Int) :
    difference.tdiv 1000 < 0 ↔ difference ≤ -1000 := by
  by_cases negative : difference < 0
  · have rounded : difference.tdiv 1000 = -(-difference / 1000) := by
      rw [← Int.tdiv_eq_ediv_of_nonneg (by omega), Int.neg_tdiv, Int.neg_neg]
    omega
  · have rounded : difference.tdiv 1000 = difference / 1000 :=
      Int.tdiv_eq_ediv_of_nonneg (Int.not_lt.mp negative)
    omega

section Decoding

variable {libraries : Libraries}
  {event : CloudEvent}

/-- An event expires at one instant at most. -/
theorem DenotesExpiry.unique
    {expiry other : Option Instant}
    (denotes : DenotesExpiry libraries event expiry)
    (denotesOther : DenotesExpiry libraries event other) :
    expiry = other := by
  cases denotes with
  | absent isAbsent =>
      cases denotesOther with
      | absent _ =>
          exact rfl
      | date isText _ =>
          cases isAbsent.symm.trans isText
  | date isText parsed =>
      cases denotesOther with
      | absent isAbsent =>
          cases isAbsent.symm.trans isText
      | date isOtherText otherParsed =>
          cases isText.symm.trans isOtherText
          exact parsed.symm.trans otherParsed

/-- A lifetime is accepted when the expiry is readable and it is not below zero. -/
theorem getTtl_eq_ok_iff
    {creationDate : Date}
    {ttl : Number} :
    getTtl libraries event.expiry creationDate = .ok ttl ↔
      ∃ expiry,
        DenotesExpiry libraries event expiry ∧
          ttl = requestedTtl expiry creationDate ∧
          ttl.lessThan 0 = false := by
  cases hasExpiry : event.expiry with
  | none =>
      rw [getTtl_none]
      constructor
      · intro same
        cases same
        exact ⟨none, .absent hasExpiry, rfl, by decide⟩
      · rintro ⟨expiry, denotes, rfl, -⟩
        rw [denotes.unique (.absent hasExpiry)]
        exact rfl
  | some value =>
      rw [getTtl_some_eq_ok_iff]
      constructor
      · rintro ⟨text, instant, rfl, parsed, sameTtl, notNegative⟩
        exact ⟨some instant, .date hasExpiry parsed, sameTtl, notNegative⟩
      · rintro ⟨expiry, denotes, sameTtl, notNegative⟩
        cases denotes with
        | absent isAbsent =>
            cases isAbsent.symm.trans hasExpiry
        | @date text instant isText parsed =>
            cases isText.symm.trans hasExpiry
            exact ⟨text, instant, rfl, parsed, sameTtl, notNegative⟩

/-- Without a valid time no lifetime is below zero. -/
theorem requestedTtl_none
    (expiry : Option Instant) :
    (requestedTtl expiry none).lessThan 0 = false := by
  cases expiry with
  | none =>
      decide
  | some instant =>
      simp [requestedTtl]

/-- A lifetime is below zero when the expiry is a whole second before the time. -/
theorem requestedTtl_some_iff
    {expiry : Option Instant}
    {time : Instant} :
    (requestedTtl expiry (some time)).lessThan 0 = false ↔
      ∀ instant,
        expiry = some instant →
        time.milliseconds < instant.milliseconds + 1000 := by
  cases expiry with
  | none =>
      simp [requestedTtl, defaultTtlSeconds, secondsInMonths, defaultTtlMonths]
  | some instant =>
      have sign := tdiv_neg_iff (instant.milliseconds - time.milliseconds)
      simp only [requestedTtl, differenceInSeconds_some, lessThan_integer,
        decide_eq_false_iff_not, Option.some.injEq, forall_eq']
      omega

/-- With a valid time every lifetime is a whole number of seconds. -/
theorem requestedTtl_some_integer
    (expiry : Option Instant)
    (time : Instant) :
    ∃ seconds, requestedTtl expiry (some time) = .integer seconds := by
  cases expiry with
  | none =>
      exact ⟨_, rfl⟩
  | some instant =>
      exact ⟨_, rfl⟩

/-- A complete event is accepted when its expiry is readable and not refused. -/
theorem accepted_iff_requestedTtl :
    (∃ options,
        getOutgoingServiceMessageOptions libraries event = .ok options) ↔
      IsComplete event ∧
        ∃ expiry,
          DenotesExpiry libraries event expiry ∧
            (requestedTtl expiry
              (eventDate libraries event.time)).lessThan 0 = false := by
  simp only [decoded_iff, getTtl_eq_ok_iff]
  constructor
  · rintro ⟨complete, ttl, expiry, denotes, rfl, notNegative⟩
    exact ⟨complete, expiry, denotes, notNegative⟩
  · rintro ⟨complete, expiry, denotes, notNegative⟩
    exact ⟨complete, _, expiry, denotes, rfl, notNegative⟩

/-- The lifetime of decoded options is the requested one. -/
theorem ttl_of_decoded
    {options : OutgoingServiceMessageOptions}
    (decoded : getOutgoingServiceMessageOptions libraries event = .ok options) :
    ∃ expiry,
      DenotesExpiry libraries event expiry ∧
        options.ttl = requestedTtl expiry (eventDate libraries event.time) ∧
        options.ttl.lessThan 0 = false := by
  obtain ⟨-, -, -, -, hasTtl, -, -⟩ :=
    getOutgoingServiceMessageOptions_eq_ok_iff.mp decoded
  exact getTtl_eq_ok_iff.mp hasTtl

/-- The creation date of decoded options is the time of the event, moved back. -/
theorem creationDate_of_decoded
    {options : OutgoingServiceMessageOptions}
    (decoded : getOutgoingServiceMessageOptions libraries event = .ok options) :
    options.creationDate =
      subHours (eventDate libraries event.time) clockDriftToleranceHours := by
  obtain ⟨-, -, -, -, -, -, hasDate⟩ :=
    getOutgoingServiceMessageOptions_eq_ok_iff.mp decoded
  exact hasDate

/-- A well-formed event is accepted. -/
theorem accepted_of_isWellFormed
    (wellFormed : IsWellFormed libraries event) :
    ∃ options,
      getOutgoingServiceMessageOptions libraries event = .ok options := by
  obtain ⟨complete, time, expiry, hasTime, denotes, notBefore⟩ := wellFormed
  refine accepted_iff_requestedTtl.mpr ⟨complete, expiry, denotes, ?_⟩
  rw [hasTime, requestedTtl_some_iff]
  intro instant isInstant
  have := notBefore instant isInstant
  omega

/-- For a valid time a later expiry never gives a shorter lifetime. -/
theorem ttl_mono
    {time : Instant}
    {options laterOptions : OutgoingServiceMessageOptions}
    (hasTime : eventDate libraries event.time = some time)
    (later : LaterExpiry libraries event options laterOptions) :
    ∃ seconds laterSeconds,
      options.ttl = .integer seconds ∧
        laterOptions.ttl = .integer laterSeconds ∧
        seconds ≤ laterSeconds := by
  obtain ⟨text, instant, laterInstant, denotes, parsed, postponed, laterDecoded⟩ :=
    later.postponed
  obtain ⟨expiry, denotesExpiry, sameTtl, -⟩ := ttl_of_decoded later.decoded
  obtain ⟨laterExpiry, denotesLater, sameLaterTtl, -⟩ :=
    ttl_of_decoded laterDecoded
  rw [denotesExpiry.unique denotes, hasTime] at sameTtl
  rw [denotesLater.unique (.date rfl parsed), hasTime] at sameLaterTtl
  refine ⟨_, _, sameTtl, sameLaterTtl, ?_⟩
  apply Int.tdiv_le_tdiv (by decide)
  exact Int.sub_le_sub_right postponed _

/-- An accepted event of the stated kind has a valid time that is not after its expiry. -/
theorem time_of_accepted
    (soundTimes : HasSoundTimes libraries event)
    {options : OutgoingServiceMessageOptions}
    (decoded : getOutgoingServiceMessageOptions libraries event = .ok options) :
    ∃ time expiry,
      eventDate libraries event.time = some time ∧
        DenotesExpiry libraries event expiry ∧
        CanBeMovedBack time ∧
        ∀ instant,
          expiry = some instant →
          time.milliseconds ≤ instant.milliseconds := by
  obtain ⟨complete, expiry, denotes, notNegative⟩ :=
    accepted_iff_requestedTtl.mp ⟨options, decoded⟩
  obtain ⟨time, hasTime, before | ⟨movable, notBefore⟩⟩ :=
    soundTimes complete expiry denotes
  · obtain ⟨instant, isInstant, secondBefore⟩ := before
    rw [hasTime, requestedTtl_some_iff] at notNegative
    have := notNegative instant isInstant
    omega
  · exact ⟨time, expiry, hasTime, denotes, movable, notBefore⟩

/-- An event that is decoded as well-formed ones are is of the stated kind. -/
theorem hasSoundTimes_of_decodesWellFormed
    (decodes : DecodesWellFormed libraries event) :
    HasSoundTimes libraries event := by
  intro complete expiry denotes
  by_cases notNegative :
      (requestedTtl expiry (eventDate libraries event.time)).lessThan 0 = false
  · obtain ⟨options, decoded⟩ :=
      accepted_iff_requestedTtl.mpr ⟨complete, expiry, denotes, notNegative⟩
    obtain ⟨-, time, wellFormedExpiry, hasTime, denotesWellFormed, notBefore⟩ :=
      decodes.accepted.mp ⟨options, decoded⟩
    rw [denotesWellFormed.unique denotes] at notBefore
    have validDate := decodes.validDate options decoded
    rw [creationDate_of_decoded decoded, hasTime, isValid_subHours_iff] at validDate
    exact ⟨time, hasTime, .inr ⟨validDate, notBefore⟩⟩
  · cases hasTime : eventDate libraries event.time with
    | none =>
        rw [hasTime] at notNegative
        exact absurd (requestedTtl_none expiry) notNegative
    | some time =>
        rw [hasTime, requestedTtl_some_iff] at notNegative
        simp only [not_forall, Int.not_lt] at notNegative
        obtain ⟨instant, isInstant, secondBefore⟩ := notNegative
        exact ⟨time, rfl, .inl ⟨instant, isInstant, secondBefore⟩⟩

/--
The decoder accepts exactly the well-formed events, with a valid creation date and
a whole lifetime, exactly for the events whose time is valid and can be moved back
and whose expiry is not within the second before it.
-/
theorem decodesWellFormed_iff :
    DecodesWellFormed libraries event ↔ HasSoundTimes libraries event := by
  refine ⟨hasSoundTimes_of_decodesWellFormed, ?_⟩
  intro soundTimes
  refine ⟨⟨?_, accepted_of_isWellFormed⟩, ?_, ?_, ?_⟩
  · rintro ⟨options, decoded⟩
    obtain ⟨complete, -⟩ := accepted_iff_requestedTtl.mp ⟨options, decoded⟩
    obtain ⟨time, expiry, hasTime, denotes, -, notBefore⟩ :=
      time_of_accepted soundTimes decoded
    exact ⟨complete, time, expiry, hasTime, denotes, notBefore⟩
  · intro options decoded
    obtain ⟨time, -, hasTime, -, movable, -⟩ :=
      time_of_accepted soundTimes decoded
    rw [creationDate_of_decoded decoded, hasTime, isValid_subHours_iff]
    exact movable
  · intro options decoded
    obtain ⟨time, -, hasTime, -, -, -⟩ := time_of_accepted soundTimes decoded
    obtain ⟨expiry, -, sameTtl, notNegative⟩ := ttl_of_decoded decoded
    obtain ⟨seconds, isInteger⟩ := requestedTtl_some_integer expiry time
    rw [hasTime, isInteger] at sameTtl
    rw [sameTtl, lessThan_integer] at notNegative
    exact ⟨seconds, sameTtl, Int.not_lt.mp (of_decide_eq_false notNegative)⟩
  · intro time options laterOptions hasTime later
    exact ttl_mono hasTime later

end Decoding

namespace Stubs

/-- An event that expires at the epoch and whose time is no date. -/
def undatedEvent : CloudEvent :=
  outgoingEvent "yesterday" (some epoch.toISOString)

/-- An event that expires 999 milliseconds before its time. -/
def expiredEvent : CloudEvent :=
  outgoingEvent later.toISOString (some "1970-01-01T00:00:00.001Z")

end Stubs

/--
An event with a malformed time is accepted with an invalid creation date and no
lifetime, and an event that expired before its time with a lifetime of zero.
-/
theorem malformed_events_accepted :
    (∃ options,
      getOutgoingServiceMessageOptions Stubs.isoLibraries Stubs.undatedEvent =
          .ok options ∧
        options.creationDate = none ∧ options.ttl = .nan) ∧
      (∃ options,
        getOutgoingServiceMessageOptions Stubs.isoLibraries Stubs.expiredEvent =
            .ok options ∧
          options.ttl = .integer 0) ∧
      ¬ DecodesWellFormed Stubs.isoLibraries Stubs.undatedEvent ∧
      ¬ DecodesWellFormed Stubs.isoLibraries Stubs.expiredEvent := by
  have noTime :
      eventDate Stubs.isoLibraries Stubs.undatedEvent.time = none := by
    decide +kernel
  have expiry :
      Stubs.isoLibraries.parseISO epoch.toISOString = some epoch := by
    decide +kernel
  have time :
      eventDate Stubs.isoLibraries Stubs.expiredEvent.time =
        some Stubs.later := by
    decide +kernel
  have earlier :
      Stubs.isoLibraries.parseISO "1970-01-01T00:00:00.001Z" =
        some ⟨1, by decide⟩ := by
    decide +kernel
  have undatedDecoded :
      getOutgoingServiceMessageOptions Stubs.isoLibraries Stubs.undatedEvent =
        .ok ⟨"message", Stubs.peerId, "text/plain", [], .nan, none⟩ := by
    rw [getOutgoingServiceMessageOptions_eq_ok_iff, noTime, getTtl_eq_ok_iff]
    exact ⟨rfl, rfl, rfl, rfl, ⟨_, .date rfl expiry, rfl, rfl⟩, rfl, rfl⟩
  have expiredDecoded :
      getOutgoingServiceMessageOptions Stubs.isoLibraries Stubs.expiredEvent =
        .ok ⟨"message", Stubs.peerId, "text/plain", [], .integer 0,
          subHours (some Stubs.later) clockDriftToleranceHours⟩ := by
    rw [getOutgoingServiceMessageOptions_eq_ok_iff, time, getTtl_eq_ok_iff]
    exact ⟨rfl, rfl, rfl, rfl, ⟨_, .date rfl earlier, rfl, rfl⟩, rfl, rfl⟩
  refine ⟨⟨_, undatedDecoded, rfl, rfl⟩, ⟨_, expiredDecoded, rfl⟩, ?_, ?_⟩
  · intro decodes
    cases decodes.validDate _ undatedDecoded
  · intro decodes
    obtain ⟨-, expiredTime, expiredExpiry, hasTime, denotes, notBefore⟩ :=
      decodes.accepted.mp ⟨_, expiredDecoded⟩
    cases time.symm.trans hasTime
    rw [denotes.unique (.date rfl earlier)] at notBefore
    exact absurd (notBefore _ rfl) (by decide)

end AwalaEndpoint
