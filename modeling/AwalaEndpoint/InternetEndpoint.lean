import AwalaEndpoint.StoreWrites

namespace AwalaEndpoint

open Awaiting LabelledRuns

/-!
# The Internet endpoint

The functions of `InternetEndpoint`, and for the ones that go through several
store operations the traces they can leave.  Callers and proofs about schedules
use these traces and do not unfold the functions.
-/

/-- The characters that `trim` takes off a text: white space and line terminators. -/
def isWhiteSpace (character : Char) : Bool :=
  let code := character.toNat
  (0x0009 ≤ code && code ≤ 0x000D) || code == 0x0020 || code == 0x00A0 ||
    code == 0x1680 || (0x2000 ≤ code && code ≤ 0x200A) || code == 0x2028 ||
    code == 0x2029 || code == 0x202F || code == 0x205F || code == 0x3000 ||
    code == 0xFEFF

/-- `text.trim().length === 0`. -/
def isBlank (text : String) : Bool :=
  text.toList.all isWhiteSpace

/-- `envVar.get(name).required().asString()`. -/
def Environment.required
    (environment : Environment)
    (name : String) : Except Failure String :=
  match environment name with
  | some value =>
      if isBlank value then
        .error (.thrown .envVarError
          ("env-var: \"" ++ name ++
            "\" is a required variable, but its value was empty"))
      else
        .ok value
  | none =>
      .error (.thrown .envVarError
        ("env-var: \"" ++ name ++
          "\" is a required variable, but it was not set"))

/-- A variable that is required has a value that is more than white space. -/
theorem required_eq_ok_iff
    {environment : Environment}
    {name value : String} :
    environment.required name = .ok value ↔
      environment name = some value ∧ isBlank value = false := by
  unfold Environment.required
  cases environment name with
  | none =>
      simp
  | some set =>
      simp only [Option.some.injEq]
      split
      · next blank =>
          simp only [reduceCtorEq, false_iff]
          rintro ⟨rfl, notBlank⟩
          cases blank.symm.trans notBlank
      · next notBlank =>
          rw [Bool.not_eq_true] at notBlank
          rw [Except.ok.injEq]
          constructor
          · rintro rfl
            exact ⟨rfl, notBlank⟩
          · rintro ⟨rfl, -⟩
            rfl

/-- The active endpoint, with the public half of its identity key pair. -/
structure InternetEndpoint where
  id : String
  internetAddress : String
  identityPublicKey : PublicKey
  deriving Repr, DecidableEq

/-- Split a text at line feeds, like `split('\n')`. -/
def splitLines (text : String) : List String :=
  (text.toList.splitOn '\n').map String.ofList

/-- `lines.slice(1, -1).join('')`. -/
def joinInnerLines (lines : List String) : String :=
  (lines.drop 1).dropLast.foldl (· ++ ·) ""

/-- The bytes of a key in PEM, or in base64 on a single line. -/
def convertPemToDer (libraries : Libraries) (pem : String) : Buffer :=
  let pemLines := splitLines pem
  let pemBody :=
    if pemLines.length = 1 then
      pemLines.headD ""
    else
      joinInnerLines pemLines
  libraries.bufferFromBase64 pemBody

/-- The public half of the active identity key pair, from the environment. -/
def getIdentityPublicKey
    (libraries : Libraries)
    (environment : Environment) : Except Failure PublicKey := do
  let keyPem ← environment.required "ACTIVE_ID_PUBLIC_KEY"
  let keyDer := convertPemToDer libraries keyPem
  libraries.derDeserializeRSAPublicKey keyDer

/-- The private half of the active identity key pair, from the KMS. -/
def retrieveIdentityPrivateKeyRef (environment : Environment) : Promise Unit := do
  let activeIdKeyRef ← .settled (environment.required "ACTIVE_ID_KEY_REF")
  perform (.retrievePrivateKeyByRef activeIdKeyRef)

/-- The key stores, of which only the private one may refuse to be set up. -/
def initKeyStoreSet
    (libraries : Libraries)
    (environment : Environment) : Except Failure Unit := do
  let privateKeyStoreAdapter ← environment.required "PRIVATE_KEY_STORE_ADAPTER"
  libraries.initPrivateKeystoreFromEnv environment privateKeyStoreAdapter

namespace InternetEndpoint

/-- The active endpoint of this deployment. -/
def getActive
    (libraries : Libraries)
    (environment : Environment) : Promise InternetEndpoint := do
  retrieveIdentityPrivateKeyRef environment
  let publicKey ← .settled (getIdentityPublicKey libraries environment)
  let endpointId := libraries.getIdFromIdentityKey publicKey
  let internetAddress ← .settled (environment.required "INTERNET_ADDRESS")
  .settled (initKeyStoreSet libraries environment)
  return {
    id := endpointId
    internetAddress := internetAddress
    identityPublicKey := publicKey
  }

/-- Save the keys and authorisation of a channel, then the address of its gateway. -/
def saveChannel
    (connectionParams : PrivateEndpointConnParams) :
    Promise InternetPrivateEndpointChannel := do
  let channel ← perform (.savePrivateEndpointChannel connectionParams)
  let peerId := channel.peer.id
  let internetGatewayAddress := connectionParams.internetGatewayAddress
  perform (.updateOne peerId internetGatewayAddress)
  return channel

/-- Look up the gateway address of a peer, then its keys and authorisation. -/
def getPeerChannel
    (peerId : String) :
    Promise (Option InternetPrivateEndpointChannel) := do
  let peerEndpoint : Option PeerEndpoint ← perform (.findOne peerId)
  match peerEndpoint with
  | none => return none
  | some peerEndpoint =>
      let channel : Option InternetPrivateEndpointChannel ←
        perform (.getChannel peerId peerEndpoint.internetGatewayAddress)
      match channel with
      | none =>
          reject (.thrown .error
            ("Could not find channel for peer " ++ peerId))
      | some channel => return some channel

/-- Generate the initial session key if none exists, and tell whether it was. -/
def makeInitialSessionKeyIfMissing (endpoint : InternetEndpoint) : Promise Bool := do
  let existingKey : Option SessionKey ←
    perform (.retrieveUnboundSessionPublicKey endpoint.id)
  match existingKey with
  | some _ => return false
  | none =>
      let _ ← perform (.generateSessionKey endpoint.id)
      return true

/-- The initial session key. -/
def retrieveInitialSessionKey (endpoint : InternetEndpoint) : Promise SessionKey := do
  let key : Option SessionKey ←
    perform (.retrieveUnboundSessionPublicKey endpoint.id)
  match key with
  | none =>
      reject (.thrown .error "Initial session key id is missing")
  | some key => return key

/-- The serialised connection parameters the endpoint publishes. -/
def getConnectionParams
    (libraries : Libraries)
    (endpoint : InternetEndpoint) : Promise Buffer := do
  let initialSessionKey ← endpoint.retrieveInitialSessionKey
  let params : NodeConnectionParams := {
    internetAddress := endpoint.internetAddress
    identityKey := endpoint.identityPublicKey
    sessionKey := initialSessionKey
  }
  return libraries.serializeConnectionParams params

/-- Why the endpoint refuses a parcel that does not carry its own address. -/
def addressMismatch (internetAddress : Option String) : String :=
  match internetAddress with
  | none => "Parcel recipient is missing Internet address"
  | some address =>
      "Parcel is bound for different Internet address (" ++ address ++ ")"

/-- Apply the inherited validation, then compare the recipient's Internet address. -/
def validateMessage
    (endpoint : InternetEndpoint)
    (message : Parcel) : Promise Unit := do
  perform (.validateMessage message)
  if message.recipient.internetAddress ≠ some endpoint.internetAddress then
    reject (.thrown .invalidMessageError
      (addressMismatch message.recipient.internetAddress))

end InternetEndpoint

/-! ## Traces of `saveChannel` -/

/-- The call that saves the keys and authorisation of a channel. -/
def keysSave
    (connectionParams : PrivateEndpointConnParams)
    (outcome : Except Failure InternetPrivateEndpointChannel) : Call :=
  ⟨.savePrivateEndpointChannel connectionParams, outcome⟩

/-- The call that records the gateway address of a saved channel. -/
def recordUpdate
    (connectionParams : PrivateEndpointConnParams)
    (channel : InternetPrivateEndpointChannel)
    (outcome : Except Failure Unit) : Call :=
  ⟨.updateOne channel.peer.id connectionParams.internetGatewayAddress, outcome⟩

/-- How far a call of `saveChannel` has come. -/
inductive SaveProgress
    (connectionParams : PrivateEndpointConnParams) :
    List Call → Promise InternetPrivateEndpointChannel → Prop where
  | notStarted :
      SaveProgress connectionParams [] (InternetEndpoint.saveChannel connectionParams)
  | refused (failure : Failure) :
      SaveProgress connectionParams
        [keysSave connectionParams (.error failure)]
        (.settled (.error failure))
  | keysSaved (channel : InternetPrivateEndpointChannel) :
      SaveProgress connectionParams
        [keysSave connectionParams (.ok channel)]
        (.await
          (.updateOne channel.peer.id connectionParams.internetGatewayAddress)
          fun outcome => .settled (outcome.map fun _ => channel))
  | finished
      (channel : InternetPrivateEndpointChannel)
      (outcome : Except Failure Unit) :
      SaveProgress connectionParams
        [keysSave connectionParams (.ok channel),
          recordUpdate connectionParams channel outcome]
        (.settled (outcome.map fun _ => channel))

/-- `saveChannel` saves the keys and, once they are saved, records the address. -/
theorem saveChannel_steps
    {connectionParams : PrivateEndpointConnParams}
    {trace : List Call}
    {remaining : Promise InternetPrivateEndpointChannel}
    (steps : Steps (InternetEndpoint.saveChannel connectionParams) trace remaining) :
    SaveProgress connectionParams trace remaining := by
  rcases steps_await_iff.mp steps with
    ⟨rfl, rfl⟩ | ⟨saved, rest, rfl, afterSave⟩
  · exact .notStarted
  · cases saved with
    | error failure =>
        obtain ⟨rfl, rfl⟩ := steps_settled_iff.mp afterSave
        exact .refused failure
    | ok channel =>
        rcases steps_await_iff.mp afterSave with
          ⟨rfl, rfl⟩ | ⟨updated, last, rfl, afterUpdate⟩
        · have progress :
              SaveProgress connectionParams
                [keysSave connectionParams (.ok channel)] _ :=
            .keysSaved channel
          rw [← Program.settled_bind_map] at progress
          exact progress
        · cases updated with
          | error failure =>
              obtain ⟨rfl, rfl⟩ := steps_settled_iff.mp afterUpdate
              exact .finished channel (.error failure)
          | ok answer =>
              obtain ⟨rfl, rfl⟩ := steps_settled_iff.mp afterUpdate
              exact .finished channel (.ok answer)

/-- A settled `saveChannel` was refused by the key stores or went on to the record. -/
theorem saveChannel_runs
    {connectionParams : PrivateEndpointConnParams}
    {trace : List Call}
    {saved : Except Failure InternetPrivateEndpointChannel}
    (runs : Runs (InternetEndpoint.saveChannel connectionParams) trace saved) :
    (∃ failure,
        trace = [keysSave connectionParams (.error failure)] ∧
          saved = .error failure) ∨
      ∃ channel outcome,
        trace =
            [keysSave connectionParams (.ok channel),
              recordUpdate connectionParams channel outcome] ∧
          saved = outcome.map fun _ => channel := by
  have progress := saveChannel_steps runs
  generalize settled :
      (Program.settled saved : Promise InternetPrivateEndpointChannel) =
        remaining at progress
  cases progress with
  | notStarted =>
      cases settled
  | refused failure =>
      cases settled
      exact .inl ⟨failure, rfl, rfl⟩
  | keysSaved channel =>
      cases settled
  | finished channel outcome =>
      cases settled
      exact .inr ⟨channel, outcome, rfl, rfl⟩

/-! ## Traces of `getPeerChannel` -/

/-- The complete runs of `getPeerChannel`. -/
inductive LookupRun
    (peerId : String) :
    List Call → Except Failure (Option InternetPrivateEndpointChannel) → Prop where
  | recordUnavailable (failure : Failure) :
      LookupRun peerId [⟨.findOne peerId, .error failure⟩] (.error failure)
  | unknownPeer :
      LookupRun peerId [⟨.findOne peerId, .ok none⟩] (.ok none)
  | entriesUnavailable
      (record : PeerEndpoint)
      (failure : Failure) :
      LookupRun peerId
        [⟨.findOne peerId, .ok (some record)⟩,
          ⟨.getChannel peerId record.internetGatewayAddress, .error failure⟩]
        (.error failure)
  | missingEntries (record : PeerEndpoint) :
      LookupRun peerId
        [⟨.findOne peerId, .ok (some record)⟩,
          ⟨.getChannel peerId record.internetGatewayAddress, .ok none⟩]
        (.error (.thrown .error ("Could not find channel for peer " ++ peerId)))
  | found
      (record : PeerEndpoint)
      (channel : InternetPrivateEndpointChannel) :
      LookupRun peerId
        [⟨.findOne peerId, .ok (some record)⟩,
          ⟨.getChannel peerId record.internetGatewayAddress, .ok (some channel)⟩]
        (.ok (some channel))

/-- `getPeerChannel` looks up the record and, when there is one, the entries. -/
theorem getPeerChannel_runs_iff
    {peerId : String}
    {trace : List Call}
    {result : Except Failure (Option InternetPrivateEndpointChannel)} :
    Runs (InternetEndpoint.getPeerChannel peerId) trace result ↔
      LookupRun peerId trace result := by
  constructor
  · intro runs
    obtain ⟨looked, rest, rfl, afterRecord⟩ := runs_await_iff.mp runs
    rcases looked with failure | _ | record
    · obtain ⟨rfl, rfl⟩ := runs_settled_iff.mp afterRecord
      exact .recordUnavailable failure
    · obtain ⟨rfl, rfl⟩ := runs_settled_iff.mp afterRecord
      exact .unknownPeer
    · obtain ⟨fetched, last, rfl, afterEntries⟩ := runs_await_iff.mp afterRecord
      rcases fetched with failure | _ | channel
      · obtain ⟨rfl, rfl⟩ := runs_settled_iff.mp afterEntries
        exact .entriesUnavailable record failure
      · obtain ⟨rfl, rfl⟩ := runs_settled_iff.mp afterEntries
        exact .missingEntries record
      · obtain ⟨rfl, rfl⟩ := runs_settled_iff.mp afterEntries
        exact .found record channel
  · intro lookup
    cases lookup with
    | recordUnavailable failure =>
        exact runs_await_iff.mpr
          ⟨.error failure, [], rfl, runs_settled_iff.mpr ⟨rfl, rfl⟩⟩
    | unknownPeer =>
        exact runs_await_iff.mpr
          ⟨.ok none, [], rfl, runs_settled_iff.mpr ⟨rfl, rfl⟩⟩
    | entriesUnavailable record failure =>
        refine runs_await_iff.mpr ⟨.ok (some record), _, rfl, ?_⟩
        exact runs_await_iff.mpr
          ⟨.error failure, [], rfl, runs_settled_iff.mpr ⟨rfl, rfl⟩⟩
    | missingEntries record =>
        refine runs_await_iff.mpr ⟨.ok (some record), _, rfl, ?_⟩
        exact runs_await_iff.mpr
          ⟨.ok none, [], rfl, runs_settled_iff.mpr ⟨rfl, rfl⟩⟩
    | found record channel =>
        refine runs_await_iff.mpr ⟨.ok (some record), _, rfl, ?_⟩
        exact runs_await_iff.mpr
          ⟨.ok (some channel), [], rfl, runs_settled_iff.mpr ⟨rfl, rfl⟩⟩

/-- An unfinished `getPeerChannel` has at most looked up the record. -/
theorem getPeerChannel_steps
    {peerId : String}
    {trace : List Call}
    {remaining : Promise (Option InternetPrivateEndpointChannel)}
    (steps : Steps (InternetEndpoint.getPeerChannel peerId) trace remaining) :
    trace = [] ∨
      (∃ outcome, trace = [⟨.findOne peerId, outcome⟩]) ∨
      ∃ record outcome,
        trace =
          [⟨.findOne peerId, .ok (some record)⟩,
            ⟨.getChannel peerId record.internetGatewayAddress, outcome⟩] := by
  rcases steps_await_iff.mp steps with
    ⟨rfl, -⟩ | ⟨looked, rest, rfl, afterRecord⟩
  · exact .inl rfl
  · rcases looked with failure | _ | record
    · obtain ⟨rfl, -⟩ := steps_settled_iff.mp afterRecord
      exact .inr (.inl ⟨_, rfl⟩)
    · obtain ⟨rfl, -⟩ := steps_settled_iff.mp afterRecord
      exact .inr (.inl ⟨_, rfl⟩)
    · rcases steps_await_iff.mp afterRecord with
        ⟨rfl, -⟩ | ⟨fetched, last, rfl, afterEntries⟩
      · exact .inr (.inl ⟨_, rfl⟩)
      · have finished : last = [] := by
          rcases fetched with failure | _ | channel <;>
            exact (steps_settled_iff.mp afterEntries).1
        rw [finished]
        exact .inr (.inr ⟨record, fetched, rfl⟩)

/-! ## Traces of the initial session key -/

/-- The call that looks for an unbound session key. -/
def keyCheck
    (endpoint : InternetEndpoint)
    (outcome : Except Failure (Option SessionKey)) : Call :=
  ⟨.retrieveUnboundSessionPublicKey endpoint.id, outcome⟩

/-- The call that generates the initial session key. -/
def keyGeneration
    (endpoint : InternetEndpoint)
    (outcome : Except Failure SessionKey) : Call :=
  ⟨.generateSessionKey endpoint.id, outcome⟩

/-- How far a call of `makeInitialSessionKeyIfMissing` has come. -/
inductive KeyProgress
    (endpoint : InternetEndpoint) :
    List Call → Promise Bool → Prop where
  | notStarted :
      KeyProgress endpoint [] endpoint.makeInitialSessionKeyIfMissing
  | checkFailed (failure : Failure) :
      KeyProgress endpoint [keyCheck endpoint (.error failure)]
        (.settled (.error failure))
  | keyExists (key : SessionKey) :
      KeyProgress endpoint [keyCheck endpoint (.ok (some key))]
        (.settled (.ok false))
  | keyMissing :
      KeyProgress endpoint [keyCheck endpoint (.ok none)]
        (.await (.generateSessionKey endpoint.id)
          fun outcome => .settled (outcome.map fun _ => true))
  | generated (outcome : Except Failure SessionKey) :
      KeyProgress endpoint
        [keyCheck endpoint (.ok none), keyGeneration endpoint outcome]
        (.settled (outcome.map fun _ => true))

/-- `makeInitialSessionKeyIfMissing` looks for a key and generates one if there is none. -/
theorem makeInitialSessionKeyIfMissing_steps
    {endpoint : InternetEndpoint}
    {trace : List Call}
    {remaining : Promise Bool}
    (steps : Steps endpoint.makeInitialSessionKeyIfMissing trace remaining) :
    KeyProgress endpoint trace remaining := by
  rcases steps_await_iff.mp steps with
    ⟨rfl, rfl⟩ | ⟨checked, rest, rfl, afterCheck⟩
  · exact .notStarted
  · rcases checked with failure | _ | key
    · obtain ⟨rfl, rfl⟩ := steps_settled_iff.mp afterCheck
      exact .checkFailed failure
    · rcases steps_await_iff.mp afterCheck with
        ⟨rfl, rfl⟩ | ⟨outcome, last, rfl, afterGeneration⟩
      · have progress :
            KeyProgress endpoint [keyCheck endpoint (.ok none)] _ :=
          .keyMissing
        rw [← Program.settled_bind_map] at progress
        exact progress
      · cases outcome with
        | error failure =>
            obtain ⟨rfl, rfl⟩ := steps_settled_iff.mp afterGeneration
            exact .generated (.error failure)
        | ok key =>
            obtain ⟨rfl, rfl⟩ := steps_settled_iff.mp afterGeneration
            exact .generated (.ok key)
    · obtain ⟨rfl, rfl⟩ := steps_settled_iff.mp afterCheck
      exact .keyExists key

/-- A call that resolves with `true` has generated a key. -/
theorem KeyProgress.generated_of_true
    {endpoint : InternetEndpoint}
    {trace : List Call}
    (progress : KeyProgress endpoint trace (.settled (.ok true))) :
    ∃ key, keyGeneration endpoint (.ok key) ∈ trace := by
  generalize resolved :
      (Program.settled (.ok true) : Promise Bool) = remaining at progress
  cases progress with
  | notStarted =>
      cases resolved
  | checkFailed =>
      cases resolved
  | keyExists =>
      cases resolved
  | keyMissing =>
      cases resolved
  | generated outcome =>
      cases outcome with
      | error failure =>
          cases resolved
      | ok key =>
          exact ⟨key, by simp⟩

/-- The parameters that are published when the initial session key is the given one. -/
def publishedParams
    (endpoint : InternetEndpoint)
    (key : SessionKey) : NodeConnectionParams where
  internetAddress := endpoint.internetAddress
  identityKey := endpoint.identityPublicKey
  sessionKey := key

/-- Connection parameters are published exactly with a session key that was found. -/
theorem getConnectionParams_resolves_iff
    {libraries : Libraries}
    {endpoint : InternetEndpoint}
    {trace : List Call}
    {buffer : Buffer} :
    Runs (endpoint.getConnectionParams libraries) trace (.ok buffer) ↔
      ∃ key,
        trace = [keyCheck endpoint (.ok (some key))] ∧
          buffer =
            libraries.serializeConnectionParams
              (publishedParams endpoint key) := by
  constructor
  · intro runs
    obtain ⟨checked, rest, rfl, afterCheck⟩ := runs_await_iff.mp runs
    rcases checked with failure | _ | key
    · obtain ⟨-, impossible⟩ := runs_settled_iff.mp afterCheck
      cases impossible
    · obtain ⟨-, impossible⟩ := runs_settled_iff.mp afterCheck
      cases impossible
    · obtain ⟨rfl, resolved⟩ := runs_settled_iff.mp afterCheck
      cases resolved
      exact ⟨key, rfl, rfl⟩
  · rintro ⟨key, rfl, rfl⟩
    exact runs_await_iff.mpr
      ⟨.ok (some key), [], rfl, runs_settled_iff.mpr ⟨rfl, rfl⟩⟩

/-- Publishing connection parameters only looks for a key. -/
theorem getConnectionParams_steps
    {libraries : Libraries}
    {endpoint : InternetEndpoint}
    {trace : List Call}
    {remaining : Promise Buffer}
    (steps : Steps (endpoint.getConnectionParams libraries) trace remaining) :
    trace = [] ∨ ∃ outcome, trace = [keyCheck endpoint outcome] := by
  rcases steps_await_iff.mp steps with
    ⟨rfl, -⟩ | ⟨checked, rest, rfl, afterCheck⟩
  · exact .inl rfl
  · have finished : rest = [] := by
      rcases checked with failure | _ | key <;>
        exact (steps_settled_iff.mp afterCheck).1
    rw [finished]
    exact .inr ⟨checked, rfl⟩

end AwalaEndpoint
