import AwalaEndpoint.Library.Program
import AwalaEndpoint.Messages

namespace AwalaEndpoint

/-!
# Collaborators

What the code relies on but does not implement.  Functions of third-party
libraries whose result depends on their arguments alone are fields of
`Libraries`.  Everything else is awaited: calls to the key stores, MongoDB, the
KMS, the gateways and the event broker are operations, and so are the reads and
writes of the memory that concurrent requests of one process share.
-/

/-- The classes of errors the code creates or tells apart. -/
inductive ErrorName where
  | error
  | typeError
  | envVarError
  | invalidMessageError
  | pohttpInvalidParcelError
  | pohttpClientBindingError
  deriving Repr, DecidableEq

/--
What a rejected call carries.  An error that was thrown about the data at hand
will be thrown again however often the call is repeated; a backing service that
is unavailable may be back later.
-/
inductive Failure where
  | thrown (name : ErrorName) (message : String)
  | unavailable (message : String)
  | wrapped (message : String) (cause : Failure)
  deriving Repr, DecidableEq

/-- Whether repeating the call may succeed. -/
def Failure.isTransient : Failure → Bool
  | .thrown _ _ => false
  | .unavailable _ => true
  | .wrapped _ cause => cause.isTransient

/-- The levels the code logs at. -/
inductive LogLevel where
  | info
  | warn
  | error
  deriving Repr, DecidableEq

/-- A logged line, without its bindings. -/
structure LogEntry where
  level : LogLevel
  message : String
  deriving Repr, DecidableEq

/-- A request as the server framework hands it to a route. -/
structure PostRequest where
  headers : List (String × String)
  body : Buffer
  deriving Repr, DecidableEq

/-- The environment variables of a process. -/
abbrev Environment := String → Option String

/-- The functions of third-party libraries that only depend on their arguments. -/
structure Libraries where
  /-- `Parcel.deserialize`, which authenticates the sender certificate. -/
  deserializeParcel : Buffer → Except Failure Parcel
  /-- `PrivateEndpointConnParams.deserialize`. -/
  deserializeConnParams : Buffer → Except Failure PrivateEndpointConnParams
  /-- `NodeConnectionParams.serialize`. -/
  serializeConnectionParams : NodeConnectionParams → Buffer
  /-- `getIdFromIdentityKey`. -/
  getIdFromIdentityKey : PublicKey → String
  /-- `initPrivateKeystoreFromEnv`, which reads the environment for itself. -/
  initPrivateKeystoreFromEnv : Environment → String → Except Failure Unit
  /-- `derDeserializeRSAPublicKey`. -/
  derDeserializeRSAPublicKey : Buffer → Except Failure PublicKey
  /-- `Buffer.from` of base64 text. -/
  bufferFromBase64 : String → Buffer
  /-- The `CloudEvent` constructor, from the attributes it is given. -/
  newCloudEvent : CloudEvent → Except Failure CloudEvent
  /-- The function `makeReceiver` returned. -/
  convertMessageToEvent : PostRequest → Except Failure CloudEvent
  /-- `new Date` of text. -/
  newDate : String → Date
  /-- `parseISO` of `date-fns`. -/
  parseISO : String → Date

/-- The operations the code awaits. -/
inductive Operation where
  /-- `Endpoint.validateMessage`, which `InternetEndpoint` overrides. -/
  | validateMessage (parcel : Parcel)
  /-- `parcel.unwrapPayload` with the private key store. -/
  | unwrapPayload (parcel : Parcel)
  /-- `Endpoint.savePrivateEndpointChannel`. -/
  | savePrivateEndpointChannel (connectionParams : PrivateEndpointConnParams)
  /-- `Endpoint.getChannel`. -/
  | getChannel (peerId internetAddress : String)
  /-- `channel.makeMessage` of a parcel. -/
  | makeMessage
      (channel : InternetPrivateEndpointChannel)
      (serviceMessage : ServiceMessage)
      (options : MessageOptions)
  /-- `privateKeyStore.retrieveUnboundSessionPublicKey`. -/
  | retrieveUnboundSessionPublicKey (nodeId : String)
  /-- `Node.generateSessionKey` without a peer. -/
  | generateSessionKey (nodeId : String)
  /-- `updateOne` of the peer's record with the `upsert` option. -/
  | updateOne (peerId internetGatewayAddress : String)
  /-- `findOne` of the peer's record. -/
  | findOne (peerId : String)
  /-- `deliverParcel` to a gateway. -/
  | deliverParcel (internetAddress : String) (parcelSerialised : Buffer) (useTls : Bool)
  /-- `makeEmitter` of the CloudEvents transport. -/
  | makeEmitter (transport : String)
  /-- A call of an emitter function. -/
  | callEmitterFunction (emitterFunction : EmitterFunction) (event : CloudEvent)
  /-- A read of `this.emitterFunction`. -/
  | loadEmitterFunction
  /-- An assignment to `this.emitterFunction`. -/
  | storeEmitterFunction (emitterFunction : EmitterFunction)
  /-- `kms.retrievePrivateKeyByRef` with a newly initialised KMS. -/
  | retrievePrivateKeyByRef (keyRef : String)
  /-- `connection.close()`. -/
  | closeConnection
  deriving DecidableEq

/-- What an operation resolves with. -/
@[reducible] def Operation.Answer : Operation → Type
  | .validateMessage _ => Unit
  | .unwrapPayload _ => ServiceMessage
  | .savePrivateEndpointChannel _ => InternetPrivateEndpointChannel
  | .getChannel _ _ => Option InternetPrivateEndpointChannel
  | .makeMessage _ _ _ => Buffer
  | .retrieveUnboundSessionPublicKey _ => Option SessionKey
  | .generateSessionKey _ => SessionKey
  | .updateOne _ _ => Unit
  | .findOne _ => Option PeerEndpoint
  | .deliverParcel _ _ _ => Unit
  | .makeEmitter _ => EmitterFunction
  | .callEmitterFunction _ _ => Unit
  | .loadEmitterFunction => Option EmitterFunction
  | .storeEmitterFunction _ => Unit
  | .retrievePrivateKeyByRef _ => Unit
  | .closeConnection => Unit

/-- The operations, their answers and the failures of rejected calls. -/
abbrev interface : Awaiting.Interface where
  Operation := Operation
  Answer := Operation.Answer
  Failure := Failure

/-- An asynchronous function's result. -/
abbrev Promise (Result : Type) : Type :=
  Awaiting.Program interface Result

/-- Await one operation. -/
abbrev perform (operation : Operation) : Promise operation.Answer :=
  @Awaiting.Program.perform interface operation

/-- Reject with a failure. -/
abbrev reject {Result : Type} (failure : Failure) : Promise Result :=
  @Awaiting.Program.reject interface Result failure

/-- An operation that has settled, with its outcome. -/
abbrev Call : Type :=
  Awaiting.Completed interface

end AwalaEndpoint
