import AwalaEndpoint.DateFormat
import AwalaEndpoint.OutgoingParcelHeader

namespace AwalaEndpoint

open ParcelDelivery (incomingOptions)

/-!
# From a parcel to an event and back

The encoder of incoming service messages and the decoder of outgoing ones share
no schema.  They are put together here: the event made from a parcel is sent back
unchanged, as the Ping service does, and the decoder returns the parcel.
-/

/-- The event sent back to where it came from, as the Ping service answers it. -/
def CloudEvent.echo (event : CloudEvent) : CloudEvent :=
  { event with
    type := outgoingServiceMessageType
    source := event.subject.getD ""
    subject := some event.source }

/-- Both parsers of dates read what `toISOString` prints. -/
structure ParsesISOStrings (libraries : Libraries) : Prop where
  newDate :
    ∀ instant : Instant, libraries.newDate instant.toISOString = some instant
  parseISO :
    ∀ instant : Instant, libraries.parseISO instant.toISOString = some instant

/-- An instant without milliseconds. -/
def Instant.IsWholeSecond (instant : Instant) : Prop :=
  instant.milliseconds % 1000 = 0

/-- An instant of a year that the dates of a parcel can have. -/
def Instant.HasFourDigitYear (instant : Instant) : Prop :=
  0 ≤ (calendarDate (instant.milliseconds / 86400000)).year ∧
    (calendarDate (instant.milliseconds / 86400000)).year ≤ 9999

/-- The options make a parcel that answers the given one with its own content. -/
structure Answers
    (parcel : Parcel)
    (serviceMessage : ServiceMessage)
    (options : OutgoingServiceMessageOptions) : Prop where
  sameId : options.parcelId = parcel.id
  sentBack : options.peerId = parcel.senderCertificate.calculateSubjectId
  sameType : options.contentType = serviceMessage.type
  sameContent : options.content = serviceMessage.content
  sameLifetime :
    ∃ seconds,
      options.ttl = .integer seconds ∧
        seconds * 1000 =
          parcel.expiryDate.milliseconds - parcel.creationDate.milliseconds

/-- The tolerance added to the creation date gives the one of the parcel. -/
def IsMovedBack
    (parcel : Parcel)
    (options : OutgoingServiceMessageOptions) : Prop :=
  addHours options.creationDate clockDriftToleranceHours =
    some parcel.creationDate

/-- The earliest creation date that can be moved back by the tolerance. -/
def CanBeMovedBack (instant : Instant) : Prop :=
  -maxTimeValue ≤ instant.milliseconds - clockDriftTolerance

/-- Moving a date back and forth returns it exactly when the way back is a date. -/
theorem addHours_subHours_iff
    (instant : Instant) :
    addHours (subHours (some instant) clockDriftToleranceHours)
        clockDriftToleranceHours =
      some instant ↔
    CanBeMovedBack instant := by
  unfold CanBeMovedBack
  rw [← isValid_subHours_iff]
  cases movedBack : subHours (some instant) clockDriftToleranceHours with
  | none =>
      simp [addHours, addMilliseconds, isValid]
  | some earlier =>
      rw [subHours_some, timeClip_eq_some_iff] at movedBack
      have sameInstant :
          addHours (some earlier) clockDriftToleranceHours = some instant := by
        refine timeClip_eq_some_iff.mpr ?_
        rw [movedBack]
        omega
      simp [sameInstant, isValid]

/-- The creation date of a parcel can be moved back by the tolerance. -/
theorem canBeMovedBack_of_fourDigitYear
    {instant : Instant}
    (fourDigits : instant.HasFourDigitYear) :
    CanBeMovedBack instant := by
  have notEarlier := days_of_year_nonneg fourDigits.1
  have tolerance : clockDriftTolerance = 10800000 := rfl
  have earliest : maxTimeValue = 8640000000000000 := rfl
  unfold CanBeMovedBack
  omega

/-- The difference of two whole seconds is a whole number of seconds. -/
theorem tdiv_mul_of_wholeSeconds
    {earlier later : Instant}
    (earlierWhole : earlier.IsWholeSecond)
    (laterWhole : later.IsWholeSecond) :
    (later.milliseconds - earlier.milliseconds).tdiv 1000 * 1000 =
      later.milliseconds - earlier.milliseconds := by
  apply Int.tdiv_mul_cancel
  unfold Instant.IsWholeSecond at earlierWhole laterWhole
  omega

section Echo

variable {libraries : Libraries}

/-- The lifetime read off the echo of an event is the one of its parcel. -/
theorem getTtl_echo
    (parses : ParsesISOStrings libraries)
    {creationDate expiryDate : Instant}
    (ordered : creationDate.milliseconds ≤ expiryDate.milliseconds) :
    getTtl libraries (some (.string expiryDate.toISOString))
        (some creationDate) =
      .ok (.integer
        ((expiryDate.milliseconds - creationDate.milliseconds).tdiv 1000)) := by
  have notNegative :
      0 ≤ (expiryDate.milliseconds - creationDate.milliseconds).tdiv 1000 :=
    Int.tdiv_nonneg (Int.sub_nonneg_of_le ordered) (by decide)
  refine getTtl_some_eq_ok_iff.mpr
    ⟨_, expiryDate, rfl, parses.parseISO expiryDate, rfl, ?_⟩
  rw [lessThan_integer]
  exact decide_eq_false (Int.not_lt.mpr notNegative)

/-- The decoder accepts the echo of the event made from a parcel. -/
theorem decode_echo
    (parses : ParsesISOStrings libraries)
    (options : IncomingServiceMessageOptions)
    (ordered :
      options.creationDate.milliseconds ≤ options.expiryDate.milliseconds) :
    getOutgoingServiceMessageOptions libraries
        (incomingServiceMessageAttributes options).echo =
      .ok {
        parcelId := options.parcelId
        peerId := options.senderId
        contentType := options.contentType
        content := options.content
        ttl :=
          .integer
            ((options.expiryDate.milliseconds -
              options.creationDate.milliseconds).tdiv 1000)
        creationDate :=
          subHours (some options.creationDate) clockDriftToleranceHours } := by
  have sameDate :
      eventDate libraries (incomingServiceMessageAttributes options).echo.time =
        some options.creationDate :=
    parses.newDate options.creationDate
  rw [getOutgoingServiceMessageOptions_eq_ok_iff, sameDate]
  exact ⟨rfl, rfl, rfl, rfl, getTtl_echo parses ordered, rfl, rfl⟩

/--
The echo of the event made from a parcel is accepted and answers the parcel with
its own content.  The creation date is the one of the parcel, moved back by the
tolerance.
-/
theorem echo_answers
    (parses : ParsesISOStrings libraries)
    {parcel : Parcel}
    {serviceMessage : ServiceMessage}
    (keeps :
      KeepsAttributes libraries
        (incomingServiceMessageAttributes
          (incomingOptions parcel serviceMessage)))
    (fourDigits : parcel.creationDate.HasFourDigitYear)
    (ordered :
      parcel.creationDate.milliseconds ≤ parcel.expiryDate.milliseconds)
    (creationWhole : parcel.creationDate.IsWholeSecond)
    (expiryWhole : parcel.expiryDate.IsWholeSecond) :
    ∃ event options,
      makeIncomingServiceMessageEvent libraries
          (incomingOptions parcel serviceMessage) = .ok event ∧
        getOutgoingServiceMessageOptions libraries event.echo = .ok options ∧
        Answers parcel serviceMessage options ∧
        IsMovedBack parcel options := by
  have accepted :=
    decode_echo parses (incomingOptions parcel serviceMessage) ordered
  have lifetime := tdiv_mul_of_wholeSeconds creationWhole expiryWhole
  have movedBack :=
    (addHours_subHours_iff parcel.creationDate).mpr
      (canBeMovedBack_of_fourDigitYear fourDigits)
  refine ⟨_, _, keeps, accepted, ?_, movedBack⟩
  exact ⟨rfl, rfl, rfl, rfl, _, rfl, lifetime⟩

end Echo

namespace Stubs

/-- Libraries that read dates in the format of `toISOString`. -/
def isoLibraries : Libraries :=
  libraries (fun _ => none) (fun _ => none) (fun _ => none) ofISOString

/-- The parsers of the stub read every printed date. -/
theorem isoLibraries_parse :
    ParsesISOStrings isoLibraries where
  newDate instant := by
    simp only [isoLibraries, libraries, ofISOString_toISOString]
  parseISO instant := by
    simp only [isoLibraries, libraries, ofISOString_toISOString]

end Stubs

/-- The message of a parcel created at the epoch is answered. -/
theorem echo_answers_stubs :
    ∃ event options,
      makeIncomingServiceMessageEvent Stubs.isoLibraries
          (incomingOptions Stubs.olderParcel (Stubs.paramsMessage 0)) =
            .ok event ∧
        getOutgoingServiceMessageOptions Stubs.isoLibraries event.echo =
          .ok options ∧
        Answers Stubs.olderParcel (Stubs.paramsMessage 0) options ∧
        IsMovedBack Stubs.olderParcel options :=
  echo_answers Stubs.isoLibraries_parse (by exact rfl)
    (by unfold Instant.HasFourDigitYear; decide) (by decide) rfl rfl

end AwalaEndpoint
