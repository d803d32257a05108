import AwalaEndpoint.ParcelDelivery
import AwalaEndpoint.PohttpClient

namespace AwalaEndpoint.Stubs

/-!
# Stubs

Stand-ins for an endpoint, its peers and the libraries, in the spirit of the
repository's own test stubs.
-/

/-- The address of the endpoint. -/
def endpointAddress : String := "example.com"

/-- The address of the peer's gateway. -/
def peerAddress : String := "private.example.com"

/-- The address of another gateway. -/
def otherAddress : String := "other.example.com"

/-- The identity key of the endpoint. -/
def endpointKey : PublicKey := ⟨[0]⟩

/-- The identity key of the peer. -/
def peerKey : PublicKey := ⟨[1]⟩

/-- The identity key of an endpoint that is not the peer. -/
def attackerKey : PublicKey := ⟨[2]⟩

/-- The id of the endpoint. -/
def endpointId : String := "endpoint"

/-- The id of the peer. -/
def peerId : String := "peer"

/-- The id of an endpoint that is not the peer. -/
def attackerId : String := "attacker"

/-- The environment of the endpoint. -/
def environment : Environment
  | "ACTIVE_ID_PUBLIC_KEY" => some "AA=="
  | "INTERNET_ADDRESS" => some endpointAddress
  | _ => some "set"

/-- The endpoint. -/
def endpoint : InternetEndpoint :=
  ⟨endpointId, endpointAddress, endpointKey⟩

/-- The first instant of the year 2100. -/
def expiry : Instant := ⟨4102444800000, by decide⟩

/-- A certificate that expires long after the epoch. -/
def certificate (subjectId : String) : Certificate where
  serialization := []
  subjectId := subjectId
  expiryDate := expiry

/-- A delivery authorisation, told apart by its serialisation. -/
def deliveryAuth (serialization : Buffer) : CertificationPath where
  leafCertificate := { certificate endpointId with serialization := serialization }
  certificateAuthorities := []

/-- Connection parameters of the peer with the given gateway and version. -/
def connectionParams (address : String) (version : UInt8) : PrivateEndpointConnParams where
  identityKey := peerKey
  internetGatewayAddress := address
  deliveryAuth := deliveryAuth [version]
  sessionKey := ⟨[version], [version]⟩

/-- Connection parameters of somebody else, with an identity key of their own. -/
def attackerParams : PrivateEndpointConnParams :=
  { connectionParams otherAddress 2 with identityKey := attackerKey }

/-- The channel that a save of connection parameters of the peer resolves with. -/
def channel (params : PrivateEndpointConnParams) : InternetPrivateEndpointChannel where
  peer := ⟨peerId, params.internetGatewayAddress, params.identityKey⟩
  deliveryAuthPath := params.deliveryAuth

/-- The channel that a save of the other connection parameters resolves with. -/
def attackerChannel : InternetPrivateEndpointChannel where
  peer := ⟨attackerId, otherAddress, attackerKey⟩
  deliveryAuthPath := attackerParams.deliveryAuth

/-- A parcel to the endpoint, told apart by its payload. -/
def parcel (senderId : String) (creationDate : Instant) (payload : Buffer) : Parcel where
  id := "parcel"
  recipient := ⟨endpointId, some endpointAddress⟩
  senderCertificate := certificate senderId
  creationDate := creationDate
  expiryDate := expiry
  payload := payload

/-- What a stub library throws about data it does not know. -/
def malformed : Failure :=
  .thrown .error "malformed"

/-- The `CloudEvent` constructor refuses a source, subject or content type that is empty. -/
def newCloudEvent (attributes : CloudEvent) : Except Failure CloudEvent :=
  if attributes.source = "" ∨ attributes.subject = some "" ∨
      attributes.datacontenttype = some "" then
    .error malformed
  else
    .ok attributes

/--
Libraries that know the given serialisations, and a date for each text that the
dates give one.
-/
def libraries
    (parcels : Buffer → Option Parcel)
    (params : Buffer → Option PrivateEndpointConnParams)
    (events : PostRequest → Option CloudEvent)
    (dates : String → Date) : Libraries where
  deserializeParcel body := (parcels body).elim (.error malformed) .ok
  deserializeConnParams content := (params content).elim (.error malformed) .ok
  serializeConnectionParams connParams := connParams.sessionKey.keyId
  getIdFromIdentityKey key :=
    if key = endpointKey then endpointId
    else if key = attackerKey then attackerId
    else peerId
  initPrivateKeystoreFromEnv _ _ := .ok ()
  derDeserializeRSAPublicKey der := .ok ⟨der⟩
  bufferFromBase64 text := if text = "AA==" then [0] else [1]
  newCloudEvent := newCloudEvent
  convertMessageToEvent request := (events request).elim (.error malformed) .ok
  newDate := dates
  parseISO := dates

/-- An instant shortly after the epoch. -/
def later : Instant := ⟨1000, by decide⟩

/-- The first parcel of the peer. -/
def olderParcel : Parcel := parcel peerId epoch [0]

/-- A parcel of the peer that was created later. -/
def newerParcel : Parcel := parcel peerId later [1]

/-- A parcel of somebody else. -/
def forgedParcel : Parcel := parcel attackerId later [1]

/-- The connection parameters in the content of a message. -/
def paramsOf : Buffer → Option PrivateEndpointConnParams
  | [0] => some (connectionParams peerAddress 0)
  | [1] => some (connectionParams otherAddress 1)
  | [2] => some attackerParams
  | _ => none

/-- Libraries that know three parcels and three sets of connection parameters. -/
def routeLibraries : Libraries :=
  libraries
    (fun body =>
      match body with
      | [0] => some olderParcel
      | [1] => some newerParcel
      | [2] => some forgedParcel
      | _ => none)
    paramsOf
    (fun _ => none)
    (fun _ => none)

/-- The decrypted message that carries the given connection parameters. -/
def paramsMessage (version : UInt8) : ServiceMessage :=
  ⟨ParcelDelivery.pdaPathType, [version]⟩

/-- Dates for three texts; any other text denotes no date. -/
def dates : String → Date
  | "epoch" => some epoch
  | "later" => some later
  | "hour" => timeClip millisecondsInHour
  | _ => none

/-- An event for the peer, sent and expiring at the dates with the given names. -/
def outgoingEvent (time : String) (expiry : Option String) : CloudEvent where
  id := "message"
  type := outgoingServiceMessageType
  source := PohttpClient.defaultSenderIdKeyword
  subject := some peerId
  datacontenttype := some "text/plain"
  data := .absent
  time := some time
  expiry := expiry.map .string

/-- Libraries that find the given event in every request. -/
def clientLibraries (event : CloudEvent) : Libraries :=
  libraries (fun _ => none) (fun _ => none) (fun _ => some event) dates

/-- A request, whose event the libraries decide. -/
def request : PostRequest := ⟨[], []⟩

end AwalaEndpoint.Stubs
