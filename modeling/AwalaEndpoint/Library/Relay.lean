import AwalaEndpoint.Library.SharedObject

namespace Relays

open LabelledRuns SharedObjects

/-!
# Relays

A relay stands between parties and one user.  Parties hand it packets, some of
which tell the address of their party and some of which carry a message for the
user.  The user hands it contents for parties, which it sends as letters to the
addresses of the parties.

The module says what a relay is for, whatever packets, messages, parties and
addresses are: which jobs may take which actions when, and that all that jobs
share is the book of addresses.  A job brings one packet or one content, and
what it has done so far is told by its phase.
-/

variable {Job Packet Message Party Address Note Content Letter : Type}

/-- What jobs bring to a relay and what packets and messages mean to it. -/
structure Traffic
    (Job Packet Message Party Address Note Content : Type) where
  /-- The job brings the packet. -/
  brings : Job → Packet → Prop
  /-- The packet is meant for this relay. -/
  isForUs : Packet → Prop
  /-- The message tells the address of the party. -/
  advertises : Message → Party → Address → Prop
  /-- The user is to be told this about the message of the packet. -/
  notes : Packet → Message → Note → Prop
  /-- The job brings the content, for the party. -/
  requests : Job → Party → Content → Prop

/-- What the jobs of a relay do. -/
inductive Action
    (Packet Message Party Address Note Content Letter : Type) where
  /-- A packet was found to be valid. -/
  | admitted (packet : Packet)
  /-- A packet was decrypted. -/
  | opened (packet : Packet) (message : Message)
  /-- The address of a party was put into the book. -/
  | learned (party : Party) (address : Address)
  /-- The user was told about a message. -/
  | handedOver (note : Note)
  /-- A party was looked up in the book. -/
  | lookedUp (party : Party) (found : Option Address)
  /-- A letter for a party was made. -/
  | packed (party : Party) (content : Content) (letter : Letter)
  /-- A letter was sent to an address. -/
  | sent (address : Address) (letter : Letter)

/-- What a job has done so far. -/
inductive Phase
    (Packet Message Party Address Note Content Letter : Type) where
  | waiting
  | admitted (packet : Packet)
  | opened (packet : Packet) (message : Message)
  | learned
      (packet : Packet)
      (message : Message)
      (party : Party)
      (address : Address)
  | handedOver (packet : Packet) (message : Message) (note : Note)
  | lookedUp (party : Party) (content : Content) (found : Option Address)
  | packed
      (party : Party)
      (content : Content)
      (address : Address)
      (letter : Letter)
  | sent
      (party : Party)
      (content : Content)
      (address : Address)
      (letter : Letter)

/-- The book of addresses. -/
abbrev Book (Party Address : Type) :=
  Party → Option Address

/-- The address that an action puts into the book for a party. -/
def entryOf
    [DecidableEq Party]
    (party : Party) :
    Action Packet Message Party Address Note Content Letter → Option Address
  | .learned owner address => if owner = party then some address else none
  | _ => none

/-- How a job gets from one phase to the next. -/
inductive Advances
    (traffic : Traffic Job Packet Message Party Address Note Content)
    (job : Job) :
    Phase Packet Message Party Address Note Content Letter →
      Action Packet Message Party Address Note Content Letter →
      Phase Packet Message Party Address Note Content Letter → Prop where
  | admitted
      {packet : Packet} :
      traffic.brings job packet →
      Advances traffic job .waiting (.admitted packet) (.admitted packet)
  | opened
      {packet : Packet}
      {message : Message} :
      traffic.isForUs packet →
      Advances traffic job
        (.admitted packet)
        (.opened packet message)
        (.opened packet message)
  | learned
      {packet : Packet}
      {message : Message}
      {party : Party}
      {address : Address} :
      traffic.advertises message party address →
      Advances traffic job
        (.opened packet message)
        (.learned party address)
        (.learned packet message party address)
  | handedOver
      {packet : Packet}
      {message : Message}
      {note : Note} :
      traffic.notes packet message note →
      Advances traffic job
        (.opened packet message)
        (.handedOver note)
        (.handedOver packet message note)
  | lookedUp
      {party : Party}
      {content : Content}
      {found : Option Address} :
      traffic.requests job party content →
      Advances traffic job
        .waiting
        (.lookedUp party found)
        (.lookedUp party content found)
  | packed
      {party : Party}
      {content : Content}
      {address : Address}
      {letter : Letter} :
      Advances traffic job
        (.lookedUp party content (some address))
        (.packed party content letter)
        (.packed party content address letter)
  | sent
      {party : Party}
      {content : Content}
      {address : Address}
      {letter : Letter} :
      Advances traffic job
        (.packed party content address letter)
        (.sent address letter)
        (.sent party content address letter)

/-- What actions do to the book, and what the book says when it is consulted. -/
inductive Consults
    [DecidableEq Party] :
    Book Party Address →
      Action Packet Message Party Address Note Content Letter →
      Book Party Address → Prop where
  | learned
      {book : Book Party Address}
      {party : Party}
      {address : Address} :
      Consults book
        (.learned party address)
        (Function.update book party (some address))
  | lookedUp
      {book : Book Party Address}
      {party : Party} :
      Consults book (.lookedUp party (book party)) book
  | admitted
      {book : Book Party Address}
      {packet : Packet} :
      Consults book (.admitted packet) book
  | opened
      {book : Book Party Address}
      {packet : Packet}
      {message : Message} :
      Consults book (.opened packet message) book
  | handedOver
      {book : Book Party Address}
      {note : Note} :
      Consults book (.handedOver note) book
  | packed
      {book : Book Party Address}
      {party : Party}
      {content : Content}
      {letter : Letter} :
      Consults book (.packed party content letter) book
  | sent
      {book : Book Party Address}
      {address : Address}
      {letter : Letter} :
      Consults book (.sent address letter) book

/-- Jobs with the given traffic share a book of addresses. -/
def relay
    [DecidableEq Party]
    (traffic : Traffic Job Packet Message Party Address Note Content) :
    Sharing Job
      (Phase Packet Message Party Address Note Content Letter)
      (Action Packet Message Party Address Note Content Letter)
      (Book Party Address) where
  advances := Advances traffic
  acts := Consults

/-- All jobs are waiting. -/
def opening
    (book : Book Party Address) :
    Situation Job
      (Phase Packet Message Party Address Note Content Letter)
      (Book Party Address) where
  object := book
  phases _ := .waiting

/-! ## One job -/

/-- The actions that lead to a phase. -/
def Phase.actions :
    Phase Packet Message Party Address Note Content Letter →
      List (Action Packet Message Party Address Note Content Letter)
  | .waiting => []
  | .admitted packet => [.admitted packet]
  | .opened packet message => [.admitted packet, .opened packet message]
  | .learned packet message party address =>
      [.admitted packet, .opened packet message, .learned party address]
  | .handedOver packet message note =>
      [.admitted packet, .opened packet message, .handedOver note]
  | .lookedUp party _ found => [.lookedUp party found]
  | .packed party content address letter =>
      [.lookedUp party (some address), .packed party content letter]
  | .sent party content address letter =>
      [.lookedUp party (some address), .packed party content letter,
        .sent address letter]

/-- The job may be in the phase. -/
def Traffic.Allows
    (traffic : Traffic Job Packet Message Party Address Note Content)
    (job : Job) :
    Phase Packet Message Party Address Note Content Letter → Prop
  | .waiting => True
  | .admitted packet => traffic.brings job packet
  | .opened packet _ => traffic.brings job packet ∧ traffic.isForUs packet
  | .learned packet message party address =>
      traffic.brings job packet ∧
        traffic.isForUs packet ∧
        traffic.advertises message party address
  | .handedOver packet message note =>
      traffic.brings job packet ∧
        traffic.isForUs packet ∧
        traffic.notes packet message note
  | .lookedUp party content _ => traffic.requests job party content
  | .packed party content _ _ => traffic.requests job party content
  | .sent party content _ _ => traffic.requests job party content

section Jobs

variable {traffic : Traffic Job Packet Message Party Address Note Content}
  {job : Job}
  {phase next : Phase Packet Message Party Address Note Content Letter}
  {action : Action Packet Message Party Address Note Content Letter}
  {earlier later :
    List (Action Packet Message Party Address Note Content Letter)}

theorem Advances.actions_eq
    (advances : Advances traffic job phase action next) :
    next.actions = phase.actions ++ [action] := by
  cases advances <;> rfl

theorem Advances.allows
    (advances : Advances traffic job phase action next)
    (allowed : traffic.Allows job phase) :
    traffic.Allows job next := by
  cases advances with
  | admitted brings =>
      exact brings
  | opened isForUs =>
      exact ⟨allowed, isForUs⟩
  | learned advertises =>
      exact ⟨allowed.1, allowed.2, advertises⟩
  | handedOver notes =>
      exact ⟨allowed.1, allowed.2, notes⟩
  | lookedUp requests =>
      exact requests
  | packed =>
      exact allowed
  | sent =>
      exact allowed

/-- A job is in the phase that its actions led to, and it may be. -/
theorem phase_of_run
    (run : Run (Advances traffic job) .waiting earlier phase) :
    earlier = phase.actions ∧ traffic.Allows job phase := by
  refine run.alongside
    (fun taken reached =>
      taken = reached.actions ∧ traffic.Allows job reached)
    ⟨rfl, trivial⟩ ?_
  rintro taken before action after - ⟨rfl, allowed⟩ advances
  exact ⟨advances.actions_eq.symm, advances.allows allowed⟩

/-- A job is done sending exactly when it has sent a letter. -/
theorem Phase.exists_sent_iff :
    (∃ party content address letter,
        phase = .sent party content address letter) ↔
      ∃ address letter, .sent address letter ∈ phase.actions := by
  cases phase <;> simp [Phase.actions]

/-- The phase that a job was in before one of its actions. -/
theorem before_of_run
    (run :
      Run (Advances traffic job) .waiting (earlier ++ action :: later) phase) :
    ∃ before after,
      earlier = before.actions ∧
        traffic.Allows job before ∧
        Advances traffic job before action after ∧
        Run (Advances traffic job) after later phase := by
  obtain ⟨before, leading, rest⟩ := Run.append_iff.mp run
  obtain ⟨after, advances, trailing⟩ := Run.cons_iff.mp rest
  obtain ⟨shape, allowed⟩ := phase_of_run leading
  exact ⟨before, after, shape, allowed, advances, trailing⟩

/-- An address is learned last, from a packet that was admitted and opened. -/
theorem learned_of_run
    {party : Party}
    {address : Address}
    (run :
      Run (Advances traffic job) .waiting
        (earlier ++ .learned party address :: later) phase) :
    ∃ packet message,
      traffic.brings job packet ∧
        traffic.isForUs packet ∧
        traffic.advertises message party address ∧
        earlier = [.admitted packet, .opened packet message] ∧
        later = [] := by
  obtain ⟨_, _, rfl, allowed, advances, trailing⟩ := before_of_run run
  cases advances with
  | @learned packet message _ _ advertises =>
      cases trailing with
      | done =>
          exact ⟨packet, message, allowed.1, allowed.2, advertises, rfl, rfl⟩
      | next impossible =>
          cases impossible

/-- A letter is sent last, to where its party was found, with what was asked for in it. -/
theorem sent_of_run
    {address : Address}
    {letter : Letter}
    (run :
      Run (Advances traffic job) .waiting
        (earlier ++ .sent address letter :: later) phase) :
    ∃ party content,
      traffic.requests job party content ∧
        earlier =
          [.lookedUp party (some address), .packed party content letter] ∧
        later = [] := by
  obtain ⟨_, _, rfl, requests, advances, trailing⟩ := before_of_run run
  cases advances with
  | @sent party content _ _ =>
      cases trailing with
      | done =>
          exact ⟨party, content, requests, rfl, rfl⟩
      | next impossible =>
          cases impossible

end Jobs

/-! ## All jobs -/

/--
The last entry that was made for the party has the address, and comes from a
packet that its job had admitted and opened.
-/
def Traffic.LearnedLast
    [DecidableEq Job]
    [DecidableEq Party]
    (traffic : Traffic Job Packet Message Party Address Note Content)
    (labels :
      List (Job × Action Packet Message Party Address Note Content Letter))
    (party : Party)
    (address : Address) : Prop :=
  ∃ job packet message earlier later,
    labels = earlier ++ (job, .learned party address) :: later ∧
      (∀ label ∈ later, entryOf party label.2 = none) ∧
      traffic.brings job packet ∧
      traffic.isForUs packet ∧
      traffic.advertises message party address ∧
      actionsOf job labels =
        [.admitted packet, .opened packet message, .learned party address]

section Runs

variable [DecidableEq Job]
  [DecidableEq Party]
  {traffic : Traffic Job Packet Message Party Address Note Content}
  {labels taken later :
    List (Job × Action Packet Message Party Address Note Content Letter)}
  {last :
    Situation Job
      (Phase Packet Message Party Address Note Content Letter)
      (Book Party Address)}
  {book : Book Party Address}
  {job : Job}
  {party : Party}
  {address : Address}
  {letter : Letter}

/-- An entry of the book is the one that an action makes, or stays what it was. -/
theorem Consults.entry
    {book after : Book Party Address}
    {action : Action Packet Message Party Address Note Content Letter}
    (consults : Consults book action after)
    (party : Party) :
    after party = (entryOf party action).or (book party) := by
  cases consults with
  | @learned owner address =>
      by_cases isOwn : owner = party
      · subst isOwn
        simp [entryOf]
      · simp [entryOf, isOwn, Function.update_of_ne (Ne.symm isOwn)]
  | _ =>
      rfl

/-- A party is looked up in the book as it is. -/
theorem Consults.found_eq
    {book after : Book Party Address}
    {found : Option Address}
    (consults :
      Consults book
        (.lookedUp party found :
          Action Packet Message Party Address Note Content Letter)
        after) :
    book party = found := by
  cases consults with
  | lookedUp =>
      rfl

/-- An entry is the one that was made last. -/
theorem entry_of_consults
    {book after : Book Party Address}
    {actions : List (Action Packet Message Party Address Note Content Letter)}
    (run : Run Consults book actions after)
    (party : Party) :
    after party = (lastWrite (entryOf party) actions).or (book party) :=
  run.register fun _ _ _ _ consults => consults.entry party

/-- The book says what was learned last, if anything was. -/
theorem book_of_run
    (run : Run (SharingStep (relay traffic)) (opening book) labels last)
    (party : Party) :
    last.object party =
      (lastWrite (entryOf party) (labels.map Prod.snd)).or (book party) :=
  entry_of_consults (object_run run) party

theorem entryOf_eq_some_iff
    {action : Action Packet Message Party Address Note Content Letter} :
    entryOf party action = some address ↔
      action = .learned party address := by
  cases action with
  | learned owner told =>
      simp [entryOf]
  | _ =>
      simp [entryOf]

/-- What was entered last comes from a packet that was admitted and opened. -/
theorem learnedLast_of_lastWrite
    (run : Run (SharingStep (relay traffic)) (opening book) labels last)
    (written :
      lastWrite (entryOf party) (labels.map Prod.snd) = some address) :
    traffic.LearnedLast labels party address := by
  obtain ⟨_, _, _, shape, isEntry, isLast⟩ := lastWrite_eq_some_iff.mp written
  obtain ⟨earlier, rest, split, -, entered⟩ := List.map_eq_append_iff.mp shape
  obtain ⟨⟨job, action⟩, later, rfl, rfl, rfl⟩ := List.map_eq_cons_iff.mp entered
  have isLearning : action = .learned party address :=
    entryOf_eq_some_iff.mp isEntry
  subst isLearning
  have inLabels : (job, .learned party address) ∈ labels := by
    simp [split]
  obtain ⟨before, after, actions⟩ :=
    List.append_of_mem (mem_actionsOf_iff.mpr inLabels)
  have runs := job_run run job
  rw [actions] at runs
  obtain ⟨packet, message, brings, isForUs, advertises, rfl, rfl⟩ :=
    learned_of_run runs
  exact ⟨job, packet, message, earlier, later, split,
    fun label member => isLast _ (List.mem_map_of_mem member), brings, isForUs,
    advertises, actions⟩

/-- Entries were made for the party and the last is the address, or none was made. -/
theorem learned_of_book
    (run : Run (SharingStep (relay traffic)) (opening book) labels last)
    (inBook : last.object party = some address) :
    lastWrite (entryOf party) (labels.map Prod.snd) = none ∨
      traffic.LearnedLast labels party address := by
  rw [book_of_run run, Option.or_eq_some_iff] at inBook
  rcases inBook with written | ⟨notWritten, -⟩
  · exact .inr (learnedLast_of_lastWrite run written)
  · exact .inl notWritten

/--
A letter is sent to the address that the book had for its party when the job
looked it up, which is the one learned last before that moment.
-/
theorem sent_where_found
    (run : Run (SharingStep (relay traffic)) (opening book) labels last)
    (sent : (job, .sent address letter) ∈ labels) :
    ∃ party content earlier later,
      traffic.requests job party content ∧
        labels = earlier ++ (job, .lookedUp party (some address)) :: later ∧
        actionsOf job labels =
          [.lookedUp party (some address), .packed party content letter,
            .sent address letter] ∧
        (lastWrite (entryOf party) (earlier.map Prod.snd)).or (book party) =
          some address ∧
        (lastWrite (entryOf party) (earlier.map Prod.snd) = none ∨
          traffic.LearnedLast earlier party address) := by
  obtain ⟨before, after, actions⟩ :=
    List.append_of_mem (mem_actionsOf_iff.mpr sent)
  have runs := job_run run job
  rw [actions] at runs
  obtain ⟨party, content, requests, rfl, rfl⟩ := sent_of_run runs
  obtain ⟨earlier, later, rfl, -, -⟩ := actionsOf_eq_cons actions
  obtain ⟨consulted, leading, rest⟩ := Run.append_iff.mp run
  obtain ⟨_, lookup, -⟩ := Run.cons_iff.mp rest
  have inBook : consulted.object party = some address := by
    cases lookup with
    | acted _ consults =>
        exact consults.found_eq
  refine ⟨party, content, earlier, later, requests, rfl, actions, ?_,
    learned_of_book leading inBook⟩
  rw [← book_of_run leading]
  exact inBook

end Runs

end Relays
