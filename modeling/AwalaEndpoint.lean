import AwalaEndpoint.Library.LabelledRun
import AwalaEndpoint.Library.Program
import AwalaEndpoint.Library.Pool
import AwalaEndpoint.Library.Base64
import AwalaEndpoint.Date
import AwalaEndpoint.DateFormat
import AwalaEndpoint.Messages
import AwalaEndpoint.Collaborators
import AwalaEndpoint.Stores
import AwalaEndpoint.StoreWrites
import AwalaEndpoint.InternetEndpoint
import AwalaEndpoint.Emitter
import AwalaEndpoint.ServiceMessageEvents
import AwalaEndpoint.Http
import AwalaEndpoint.NotFoundHandler
import AwalaEndpoint.ParcelDelivery
import AwalaEndpoint.PohttpClient
import AwalaEndpoint.Bootstrap
import AwalaEndpoint.Stubs
import AwalaEndpoint.PublicKeyPem
import AwalaEndpoint.PeerStore
import AwalaEndpoint.ChannelSaving
import AwalaEndpoint.ChannelSources
import AwalaEndpoint.EventAcknowledgement
import AwalaEndpoint.OutgoingParcelHeader
import AwalaEndpoint.ServiceMessageRoundTrip
import AwalaEndpoint.EventDecoding
import AwalaEndpoint.ParcelDeliveryEffects
import AwalaEndpoint.EmitterSchedules
import AwalaEndpoint.ParcelAcknowledgement
import AwalaEndpoint.ChannelOwnership
import AwalaEndpoint.ChannelConvergence
import AwalaEndpoint.InitialSessionKey
import AwalaEndpoint.AdvertisedChannels
import AwalaEndpoint.Library.Isolation
import AwalaEndpoint.ConnectionParams
import AwalaEndpoint.Deployment
import AwalaEndpoint.PeerAvailability
import AwalaEndpoint.ParametersAvailability
import AwalaEndpoint.Relaying
import AwalaEndpoint.PeerIsolation
import AwalaEndpoint.Library.Expansion
import AwalaEndpoint.KmsProvider
import AwalaEndpoint.IdentityKey
import AwalaEndpoint.Library.Reliable
import AwalaEndpoint.Startup
import AwalaEndpoint.Library.SharedObject
import AwalaEndpoint.Library.Relay
import AwalaEndpoint.RelayRefinement
