import AwalaEndpoint.Date

namespace AwalaEndpoint

/-!
# Messages, keys and channels

The data the endpoint exchanges with Awala gateways, with the app behind it and
with its stores.  Parcels and service messages come from the Awala network;
CloudEvents go to and come from the app; a channel is what the endpoint needs to
send parcels to a peer.
-/

/-- The contents of a `Buffer`. -/
abbrev Buffer := List UInt8

/-- A public identity key, identified by its DER serialisation. -/
structure PublicKey where
  der : Buffer
  deriving Repr, DecidableEq

/-- The public half of a session key pair. -/
structure SessionKey where
  keyId : Buffer
  publicKey : Buffer
  deriving Repr, DecidableEq

/-- A certificate: its serialisation, the id of its subject and its expiry date. -/
structure Certificate where
  serialization : Buffer
  subjectId : String
  expiryDate : Instant
  deriving DecidableEq

/-- A certificate with the chain that issued it. -/
structure CertificationPath where
  leafCertificate : Certificate
  certificateAuthorities : List Certificate
  deriving DecidableEq

/-- The parameters a private endpoint sends so that it can be reached. -/
structure PrivateEndpointConnParams where
  identityKey : PublicKey
  internetGatewayAddress : String
  deliveryAuth : CertificationPath
  sessionKey : SessionKey
  deriving DecidableEq

/-- The parameters this endpoint publishes so that it can be reached. -/
structure NodeConnectionParams where
  internetAddress : String
  identityKey : PublicKey
  sessionKey : SessionKey
  deriving DecidableEq

/-- The recipient of a parcel. -/
structure Recipient where
  id : String
  internetAddress : Option String
  deriving Repr, DecidableEq

/-- A deserialised parcel.  Its sender certificate has been authenticated. -/
structure Parcel where
  id : String
  recipient : Recipient
  senderCertificate : Certificate
  creationDate : Instant
  expiryDate : Instant
  payload : Buffer
  deriving DecidableEq

/-- `senderCertificate.calculateSubjectId()`. -/
def Certificate.calculateSubjectId (certificate : Certificate) : String :=
  certificate.subjectId

/-- The payload of a parcel once decrypted. -/
structure ServiceMessage where
  type : String
  content : Buffer
  deriving Repr, DecidableEq

/-- The other end of a channel. -/
structure Peer where
  id : String
  internetAddress : String
  identityPublicKey : PublicKey
  deriving Repr, DecidableEq

/-- `InternetPrivateEndpointChannel`: the means to send parcels to a peer. -/
structure InternetPrivateEndpointChannel where
  peer : Peer
  deliveryAuthPath : CertificationPath
  deriving DecidableEq

/-- The `PeerEndpoint` document: where to deliver parcels bound for a peer. -/
structure PeerEndpoint where
  peerId : String
  internetGatewayAddress : String
  deriving Repr, DecidableEq

/-- The `data` of a CloudEvent: nothing (`undefined` or `null`), a `Buffer`, or neither. -/
inductive EventData where
  | absent
  | buffer (content : Buffer)
  | other
  deriving Repr, DecidableEq

/-- A defined extension attribute of a CloudEvent. -/
inductive ExtensionValue where
  | string (text : String)
  | other
  deriving Repr, DecidableEq

/-- The attributes of a CloudEvent; `none` stands for `undefined`. -/
structure CloudEvent where
  id : String
  type : String
  source : String
  subject : Option String
  datacontenttype : Option String
  data : EventData
  time : Option String
  expiry : Option ExtensionValue
  deriving Repr, DecidableEq

/-- The options `makeMessage` takes: what goes into the header of a parcel. -/
structure MessageOptions where
  ttl : Number
  id : String
  creationDate : Date
  deriving DecidableEq

/-- A function that `makeEmitter` returned. -/
structure EmitterFunction where
  handle : Nat
  deriving Repr, DecidableEq

end AwalaEndpoint
