import Mathlib.Logic.Function.Basic
import AwalaEndpoint.Collaborators

namespace AwalaEndpoint

open LabelledRuns

/-!
# The stores and what the operations do to them

`State` is what the operations can observe: the `PeerEndpoint` collection, the
entries of the key stores and the memory of the server's emitter.  `Performs` is
the contract the code relies on: what each operation, once settled, says about
the state before it and leaves as the state after it.  It allows every failure
of every call to another service.  What a result assumes beyond it has a name of
its own.
-/

/-- Whether an authorisation can be used at the given time. -/
def CertificationPath.IsValidAt
    (path : CertificationPath)
    (now : Instant) : Prop :=
  now.milliseconds < path.leafCertificate.expiryDate.milliseconds

instance (path : CertificationPath) (now : Instant) : Decidable (path.IsValidAt now) :=
  inferInstanceAs (Decidable (_ < _))

/--
The contents of the stores, and of the memory that requests share.  The store
keeps every authorisation of a peer; the one saved last comes first.
-/
structure State where
  peerEndpoints : List PeerEndpoint
  identityKeys : String → Option PublicKey
  sessionKeys : String → Option SessionKey
  deliveryAuths : String → List CertificationPath
  unboundSessionKeys : String → List SessionKey
  emitterFunction : Option EmitterFunction

/-- Nothing stored and no emitter function made. -/
def State.empty : State where
  peerEndpoints := []
  identityKeys _ := none
  sessionKeys _ := none
  deliveryAuths _ := []
  unboundSessionKeys _ := []
  emitterFunction := none

/--
`updateOne` with `upsert`: set the address of the first document of the peer,
or insert a document when there is none.
-/
def upsertPeerEndpoint
    (peerId internetGatewayAddress : String) :
    List PeerEndpoint → List PeerEndpoint
  | [] => [⟨peerId, internetGatewayAddress⟩]
  | document :: rest =>
      if document.peerId = peerId then
        { document with internetGatewayAddress := internetGatewayAddress } :: rest
      else
        document :: upsertPeerEndpoint peerId internetGatewayAddress rest

/-- `findOne`: the first document of the peer. -/
def findPeerEndpoint
    (peerId : String)
    (documents : List PeerEndpoint) : Option PeerEndpoint :=
  documents.find? fun document => document.peerId = peerId

/-- Which entries of a peer a save has written. -/
structure WrittenEntries where
  identityKey : Bool
  sessionKey : Bool
  deliveryAuth : Bool
  deriving Repr, DecidableEq

/-- Every entry of the peer. -/
def WrittenEntries.all : WrittenEntries :=
  ⟨true, true, true⟩

/-- The keys of the peer, and not its authorisation. -/
def WrittenEntries.keys : WrittenEntries :=
  ⟨true, true, false⟩

namespace State

/-- The gateway address on record for a peer. -/
def gatewayOf (state : State) (peerId : String) : Option String :=
  (findPeerEndpoint peerId state.peerEndpoints).map PeerEndpoint.internetGatewayAddress

/-- Write the chosen key-store entries of a peer. -/
def saveEntries
    (state : State)
    (peerId : String)
    (connectionParams : PrivateEndpointConnParams)
    (written : WrittenEntries) : State :=
  { state with
    identityKeys :=
      if written.identityKey then
        Function.update state.identityKeys peerId (some connectionParams.identityKey)
      else
        state.identityKeys
    sessionKeys :=
      if written.sessionKey then
        Function.update state.sessionKeys peerId (some connectionParams.sessionKey)
      else
        state.sessionKeys
    deliveryAuths :=
      if written.deliveryAuth then
        Function.update state.deliveryAuths peerId
          (connectionParams.deliveryAuth ::
            (state.deliveryAuths peerId).erase connectionParams.deliveryAuth)
      else
        state.deliveryAuths }

/--
What `Endpoint.getChannel` may find: a channel with the identity key of the peer
and one of its authorisations that are valid, or nothing when it has no key or
no valid authorisation.
-/
def MayFind
    (state : State)
    (now : Instant)
    (peerId internetAddress : String) :
    Option InternetPrivateEndpointChannel → Prop
  | none =>
      state.identityKeys peerId = none ∨
        ∀ deliveryAuth ∈ state.deliveryAuths peerId, ¬ deliveryAuth.IsValidAt now
  | some channel =>
      channel.peer.id = peerId ∧
        channel.peer.internetAddress = internetAddress ∧
        state.identityKeys peerId = some channel.peer.identityPublicKey ∧
        channel.deliveryAuthPath ∈ state.deliveryAuths peerId ∧
        channel.deliveryAuthPath.IsValidAt now

instance
    (state : State)
    (now : Instant)
    (peerId internetAddress : String)
    (found : Option InternetPrivateEndpointChannel) :
    Decidable (state.MayFind now peerId internetAddress found) :=
  match found with
  | none => inferInstanceAs (Decidable (_ ∨ _))
  | some _ => inferInstanceAs (Decidable (_ ∧ _))

/-- The channel with the authorisation saved last, unless it has expired. -/
def lastChannel
    (state : State)
    (now : Instant)
    (peerId internetAddress : String) :
    Option InternetPrivateEndpointChannel :=
  match state.identityKeys peerId, (state.deliveryAuths peerId).head? with
  | some identityKey, some deliveryAuth =>
      if deliveryAuth.IsValidAt now then
        some {
          peer := ⟨peerId, internetAddress, identityKey⟩
          deliveryAuthPath := deliveryAuth
        }
      else
        none
  | _, _ => none

/-- Store one more unbound session key of a node. -/
def addUnboundSessionKey
    (state : State)
    (nodeId : String)
    (key : SessionKey) : State :=
  { state with
    unboundSessionKeys :=
      Function.update state.unboundSessionKeys nodeId
        (state.unboundSessionKeys nodeId ++ [key]) }

end State

/--
`Performs libraries now before call after`: the contract of a call that settled
at `now`.

A save that succeeds leaves out an authorisation that has expired, and one that
fails may have written some of the peer's entries.  Any other call that fails
leaves the state as it was.  Whether a payload is decrypted is left open, whatever
keys are stored.  Reading and writing memory cannot fail.
-/
def Performs
    (libraries : Libraries)
    (now : Instant)
    (before : State)
    (call : Call)
    (after : State) : Prop :=
  match call with
  | ⟨.savePrivateEndpointChannel connectionParams, outcome⟩ =>
      let peerId := libraries.getIdFromIdentityKey connectionParams.identityKey
      match outcome with
      | .ok channel =>
          channel.peer.id = peerId ∧
            (after = before.saveEntries peerId connectionParams .all ∨
              ¬ connectionParams.deliveryAuth.IsValidAt now ∧
                after = before.saveEntries peerId connectionParams .keys)
      | .error _ =>
          ∃ written, after = before.saveEntries peerId connectionParams written
  | ⟨.updateOne peerId internetGatewayAddress, outcome⟩ =>
      match outcome with
      | .ok _ =>
          after =
            { before with
              peerEndpoints :=
                upsertPeerEndpoint peerId internetGatewayAddress before.peerEndpoints }
      | .error _ => after = before
  | ⟨.findOne peerId, outcome⟩ =>
      match outcome with
      | .ok found => found = findPeerEndpoint peerId before.peerEndpoints ∧ after = before
      | .error _ => after = before
  | ⟨.getChannel peerId internetAddress, outcome⟩ =>
      match outcome with
      | .ok found => before.MayFind now peerId internetAddress found ∧ after = before
      | .error _ => after = before
  | ⟨.retrieveUnboundSessionPublicKey nodeId, outcome⟩ =>
      match outcome with
      | .ok none => before.unboundSessionKeys nodeId = [] ∧ after = before
      | .ok (some key) => key ∈ before.unboundSessionKeys nodeId ∧ after = before
      | .error _ => after = before
  | ⟨.generateSessionKey nodeId, outcome⟩ =>
      match outcome with
      | .ok key =>
          key ∉ before.unboundSessionKeys nodeId ∧
            after = before.addUnboundSessionKey nodeId key
      | .error _ => after = before
  | ⟨.loadEmitterFunction, outcome⟩ =>
      outcome = .ok before.emitterFunction ∧ after = before
  | ⟨.storeEmitterFunction emitterFunction, outcome⟩ =>
      outcome = .ok () ∧ after = { before with emitterFunction := some emitterFunction }
  | ⟨.validateMessage _, _⟩ => after = before
  | ⟨.unwrapPayload _, _⟩ => after = before
  | ⟨.makeMessage _ _ _, _⟩ => after = before
  | ⟨.deliverParcel _ _ _, _⟩ => after = before
  | ⟨.makeEmitter _, _⟩ => after = before
  | ⟨.callEmitterFunction _ _, _⟩ => after = before
  | ⟨.retrievePrivateKeyByRef _, _⟩ => after = before
  | ⟨.closeConnection, _⟩ => after = before

/-- The contract of a call, whenever it settled. -/
def Performed
    (libraries : Libraries)
    (before : State)
    (call : Call)
    (after : State) : Prop :=
  ∃ now, Performs libraries now before call after

/-- A save that succeeds has stored every entry of the peer. -/
def SavesEverything
    (libraries : Libraries)
    (before : State)
    (call : Call)
    (after : State) : Prop :=
  ∀ connectionParams channel,
    call = ⟨.savePrivateEndpointChannel connectionParams, .ok channel⟩ →
    after =
      before.saveEntries
        (libraries.getIdFromIdentityKey connectionParams.identityKey)
        connectionParams .all

/-- A save that fails has stored nothing. -/
def RefusesEverything
    (before : State)
    (call : Call)
    (after : State) : Prop :=
  ∀ connectionParams failure,
    call = ⟨.savePrivateEndpointChannel connectionParams, .error failure⟩ →
    after = before

/--
The contract of a call when, in addition, a save that succeeds has stored every
entry.
-/
def PerformedCompletely
    (libraries : Libraries)
    (before : State)
    (call : Call)
    (after : State) : Prop :=
  Performed libraries before call after ∧ SavesEverything libraries before call after

/--
The contract of a call when, in addition, a save is atomic: it stores every
entry or none.
-/
def PerformedAtomically
    (libraries : Libraries)
    (before : State)
    (call : Call)
    (after : State) : Prop :=
  PerformedCompletely libraries before call after ∧ RefusesEverything before call after

/--
The contract of a call when saves are atomic and the key stores return what was
written last: a channel is looked up with the authorisation saved last.
-/
def PerformedOnRegisters
    (libraries : Libraries)
    (before : State)
    (call : Call)
    (after : State) : Prop :=
  match call with
  | ⟨.getChannel peerId internetAddress, .ok found⟩ =>
      (∃ now, found = before.lastChannel now peerId internetAddress) ∧ after = before
  | _ => PerformedAtomically libraries before call after

end AwalaEndpoint
