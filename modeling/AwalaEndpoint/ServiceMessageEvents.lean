import AwalaEndpoint.Collaborators

namespace AwalaEndpoint

/-!
# Service messages as CloudEvents

The two codecs between parcels and the events exchanged with the app.  A decoder
that refuses its event logs why and returns `null`; here it returns the logged
line as an error.
-/

/-- The type of the events sent to the app. -/
def incomingServiceMessageType : String :=
  "tech.relaycorp.awala.endpoint-internet.incoming-service-message"

/-- What the event of an incoming service message is made from. -/
structure IncomingServiceMessageOptions where
  creationDate : Instant
  expiryDate : Instant
  parcelId : String
  senderId : String
  recipientId : String
  contentType : String
  content : Buffer
  deriving DecidableEq

/-- The attributes given to the `CloudEvent` constructor. -/
def incomingServiceMessageAttributes
    (options : IncomingServiceMessageOptions) : CloudEvent where
  type := incomingServiceMessageType
  id := options.parcelId
  source := options.senderId
  subject := some options.recipientId
  datacontenttype := some options.contentType
  data := .buffer options.content
  time := some options.creationDate.toISOString
  expiry := some (.string options.expiryDate.toISOString)

/-- The event of an incoming service message. -/
def makeIncomingServiceMessageEvent
    (libraries : Libraries)
    (options : IncomingServiceMessageOptions) : Except Failure CloudEvent :=
  libraries.newCloudEvent (incomingServiceMessageAttributes options)

/-- The `CloudEvent` constructor accepts these attributes and keeps them. -/
def KeepsAttributes
    (libraries : Libraries)
    (attributes : CloudEvent) : Prop :=
  libraries.newCloudEvent attributes = .ok attributes

/-- The average number of seconds in a month. -/
def secondsInMonths : Int := 2629746

/-- The lifetime of a parcel whose event has no expiry, in months. -/
def defaultTtlMonths : Int := 6

/-- The lifetime of a parcel whose event has no expiry, in seconds. -/
def defaultTtlSeconds : Int := secondsInMonths * defaultTtlMonths

/-- The seconds between the creation date and the expiry of an event. -/
def getTtl
    (libraries : Libraries)
    (expiry : Option ExtensionValue)
    (creationDate : Date) : Except LogEntry Number :=
  match expiry with
  | none => .ok (.integer defaultTtlSeconds)
  | some .other => .error ⟨.info, "Refused malformed expiry"⟩
  | some (.string text) =>
      let expiryDate := libraries.parseISO text
      if isValid expiryDate then
        let difference := differenceInSeconds expiryDate creationDate
        if difference.lessThan 0 then
          .error ⟨.info, "Refused expiry less than time"⟩
        else
          .ok difference
      else
        .error ⟨.info, "Refused malformed expiry"⟩

/-- What a parcel is made from, as decoded from an event. -/
structure OutgoingServiceMessageOptions where
  parcelId : String
  peerId : String
  contentType : String
  content : Buffer
  ttl : Number
  creationDate : Date
  deriving DecidableEq

/-- How far the creation date is moved back, to allow for clock drift. -/
def clockDriftToleranceHours : Int := 3

/-- The type of the events the app sends. -/
def outgoingServiceMessageType : String :=
  "tech.relaycorp.awala.endpoint-internet.outgoing-service-message"

/-- The content of a service message; absent data is an empty buffer. -/
def eventContent : EventData → Option Buffer
  | .absent => some []
  | .buffer content => some content
  | .other => none

/-- `new Date(event.time!)`: the date of an absent time is invalid. -/
def eventDate (libraries : Libraries) (time : Option String) : Date :=
  time.bind libraries.newDate

/-- Decode the event of an outgoing service message. -/
def getOutgoingServiceMessageOptions
    (libraries : Libraries)
    (event : CloudEvent) : Except LogEntry OutgoingServiceMessageOptions :=
  if event.type = outgoingServiceMessageType then
    match event.subject with
    | none => .error ⟨.info, "Refused missing subject"⟩
    | some subject =>
        match event.datacontenttype with
        | none => .error ⟨.info, "Refused missing data content type"⟩
        | some contentType =>
            match eventContent event.data with
            | none =>
                .error ⟨.info, "Refused non-buffer service message content"⟩
            | some content =>
                let creationDate := eventDate libraries event.time
                match getTtl libraries event.expiry creationDate with
                | .error refusal => .error refusal
                | .ok ttl =>
                    .ok {
                      parcelId := event.id
                      peerId := subject
                      contentType := contentType
                      content := content
                      ttl := ttl
                      creationDate :=
                        subHours creationDate clockDriftToleranceHours
                    }
  else
    .error ⟨.error, "Refused invalid type"⟩

/-- The header options of the parcel, as handed to `makeMessage`. -/
def OutgoingServiceMessageOptions.messageOptions
    (options : OutgoingServiceMessageOptions) : MessageOptions where
  ttl := options.ttl
  id := options.parcelId
  creationDate := options.creationDate

/-- The service message of the parcel, as handed to `makeMessage`. -/
def OutgoingServiceMessageOptions.serviceMessage
    (options : OutgoingServiceMessageOptions) : ServiceMessage where
  type := options.contentType
  content := options.content

/-- The outgoing type, a subject, a content type, and a buffer or no data. -/
structure IsComplete (event : CloudEvent) : Prop where
  outgoing : event.type = outgoingServiceMessageType
  hasSubject : event.subject ≠ none
  hasContentType : event.datacontenttype ≠ none
  hasContent : event.data ≠ .other

/--
An event is accepted exactly when its type is the outgoing one, its subject and
content type are present, its data is a buffer or absent and its lifetime is
accepted; every option is then read off the event.
-/
theorem getOutgoingServiceMessageOptions_eq_ok_iff
    {libraries : Libraries}
    {event : CloudEvent}
    {options : OutgoingServiceMessageOptions} :
    getOutgoingServiceMessageOptions libraries event = .ok options ↔
      event.type = outgoingServiceMessageType ∧
        event.subject = some options.peerId ∧
        event.datacontenttype = some options.contentType ∧
        eventContent event.data = some options.content ∧
        getTtl libraries event.expiry (eventDate libraries event.time) =
          .ok options.ttl ∧
        options.parcelId = event.id ∧
        options.creationDate =
          subHours (eventDate libraries event.time) clockDriftToleranceHours := by
  unfold getOutgoingServiceMessageOptions
  constructor
  · intro accepted
    split at accepted
    · next sameType =>
        cases hasSubject : event.subject with
        | none =>
            simp [hasSubject] at accepted
        | some subject =>
            cases hasType : event.datacontenttype with
            | none =>
                simp [hasSubject, hasType] at accepted
            | some contentType =>
                cases hasContent : eventContent event.data with
                | none =>
                    simp [hasSubject, hasType, hasContent] at accepted
                | some content =>
                    cases hasTtl :
                        getTtl libraries event.expiry
                          (eventDate libraries event.time) with
                    | error refusal =>
                        simp [hasSubject, hasType, hasContent, hasTtl] at accepted
                    | ok ttl =>
                        simp only [hasSubject, hasType, hasContent, hasTtl,
                          Except.ok.injEq] at accepted
                        subst accepted
                        exact ⟨sameType, rfl, rfl, rfl, rfl, rfl, rfl⟩
    · cases accepted
  · rintro ⟨sameType, hasSubject, hasType, hasContent, hasTtl, sameId, sameDate⟩
    simp only [sameType, hasSubject, hasType, hasContent, hasTtl, ↓reduceIte,
      ← sameId, ← sameDate]

/-- Data that is neither a buffer nor absent is no content. -/
theorem eventContent_eq_none_iff
    {data : EventData} :
    eventContent data = none ↔ data = .other := by
  cases data <;> simp [eventContent]

/-- The options decoded from a complete event whose lifetime is accepted. -/
theorem decoded_iff
    {libraries : Libraries}
    {event : CloudEvent} :
    (∃ options,
        getOutgoingServiceMessageOptions libraries event = .ok options) ↔
      IsComplete event ∧
        ∃ ttl,
          getTtl libraries event.expiry (eventDate libraries event.time) =
            .ok ttl := by
  simp only [getOutgoingServiceMessageOptions_eq_ok_iff]
  constructor
  · rintro ⟨options, sameType, hasSubject, hasType, hasContent, hasTtl, -, -⟩
    refine ⟨⟨sameType, ?_, ?_, ?_⟩, options.ttl, hasTtl⟩
    · simp [hasSubject]
    · simp [hasType]
    · rw [ne_eq, ← eventContent_eq_none_iff, hasContent]
      exact Option.some_ne_none _
  · rintro ⟨complete, ttl, hasTtl⟩
    obtain ⟨subject, hasSubject⟩ :=
      Option.ne_none_iff_exists'.mp complete.hasSubject
    obtain ⟨contentType, hasType⟩ :=
      Option.ne_none_iff_exists'.mp complete.hasContentType
    obtain ⟨content, hasContent⟩ :=
      Option.ne_none_iff_exists'.mp
        (mt eventContent_eq_none_iff.mp complete.hasContent)
    exact ⟨⟨event.id, subject, contentType, content, ttl,
        subHours (eventDate libraries event.time) clockDriftToleranceHours⟩,
      complete.outgoing, hasSubject, hasType, hasContent, hasTtl, rfl, rfl⟩

/-- The lifetime of an event without expiry is the default. -/
theorem getTtl_none
    (libraries : Libraries)
    (creationDate : Date) :
    getTtl libraries none creationDate = .ok (.integer defaultTtlSeconds) :=
  rfl

/--
An expiry is accepted exactly when it is text that denotes an instant and the
difference to the creation date is not below zero; the difference is then the
lifetime.
-/
theorem getTtl_some_eq_ok_iff
    {libraries : Libraries}
    {expiry : ExtensionValue}
    {creationDate : Date}
    {ttl : Number} :
    getTtl libraries (some expiry) creationDate = .ok ttl ↔
      ∃ text expiryInstant,
        expiry = .string text ∧
          libraries.parseISO text = some expiryInstant ∧
          ttl = differenceInSeconds (some expiryInstant) creationDate ∧
          ttl.lessThan 0 = false := by
  cases expiry with
  | other =>
      simp [getTtl]
  | string text =>
      cases parsed : libraries.parseISO text with
      | none =>
          simp [getTtl, parsed, isValid]
      | some expiryInstant =>
          simp only [getTtl, parsed, isValid, Option.isSome_some, ↓reduceIte,
            ExtensionValue.string.injEq]
          split
          · next before =>
              simp only [reduceCtorEq, false_iff]
              rintro ⟨_, _, rfl, shape, rfl, notBefore⟩
              rw [parsed, Option.some.injEq] at shape
              subst shape
              rw [before] at notBefore
              cases notBefore
          · next notBefore =>
              rw [Bool.not_eq_true] at notBefore
              constructor
              · intro same
                cases same
                exact ⟨text, expiryInstant, rfl, parsed, rfl, notBefore⟩
              · rintro ⟨_, _, rfl, shape, rfl, -⟩
                rw [parsed, Option.some.injEq] at shape
                rw [shape]

end AwalaEndpoint
