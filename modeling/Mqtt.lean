import Mqtt.Cli.Command
import Mqtt.Cli.Flags
import Mqtt.Client.Connection
import Mqtt.Client.Dialer
import Mqtt.Client.Document
import Mqtt.Client.Event
import Mqtt.Client.Operations
import Mqtt.Client.Options
import Mqtt.Client.World
import Mqtt.Codec
import Mqtt.Config.Basic
import Mqtt.Config.Load
import Mqtt.Config.Yaml
import Mqtt.Decimal.Shortest
import Mqtt.Doc.Basic
import Mqtt.Doc.Text
import Mqtt.Failure
import Mqtt.Log.Level
import Mqtt.Log.Lines
import Mqtt.Log.Logger
import Mqtt.Main
import Mqtt.Metrics.Registry
import Mqtt.Metrics.Store
import Mqtt.Net.Document
import Mqtt.Net.Endpoint
import Mqtt.Net.Host
import Mqtt.Net.Ip
import Mqtt.Net.Listen
import Mqtt.Net.Proxy
import Mqtt.Net.Quic
import Mqtt.Net.Url
import Mqtt.Packet.Basic
import Mqtt.Packet.Decode
import Mqtt.Packet.Document
import Mqtt.Packet.Encode
import Mqtt.Packet.Header
import Mqtt.Packet.Kind
import Mqtt.Packet.Message
import Mqtt.Packet.Validate
import Mqtt.Script.Broker
import Mqtt.Script.Network
import Mqtt.Script.Session
import Mqtt.Session.AckQueue
import Mqtt.Session.ExactlyOnce
import Mqtt.Session.Flow
import Mqtt.Session.KeepAlive
import Mqtt.Session.PacketIds
import Mqtt.Session.Subscriptions
import Mqtt.Session.Will
import Mqtt.Stream
import Mqtt.Text.Base64
import Mqtt.Text.Duration
import Mqtt.Text.Quote
import Mqtt.Tls.Certificate
import Mqtt.Tls.Curve
import Mqtt.Tls.Der
import Mqtt.Tls.Pem
import Mqtt.Topic
import Mqtt.WebSocket.Document
import Mqtt.WebSocket.Handshake
import Mqtt.WebSocket.Session
import Mqtt.Wire.Bytes
import Mqtt.Wire.Reading
import Mqtt.Wire.Writing
import Mqtt.Yaml.Parser
import Mqtt.Yaml.Resolve
import Mqtt.Yaml.Scanner
import Mqtt.Proofs.Wire
import Mqtt.Proofs.Bodies
import Mqtt.Proofs.RoundTrip
import Mqtt.Proofs.Faults
import Mqtt.Proofs.StreamFrames
import Mqtt.Proofs.HeldMessages
import Mqtt.Proofs.Inbound
import Mqtt.Proofs.Lifecycle
import Mqtt.Proofs.Reconnect
import Mqtt.Proofs.Operations
import Mqtt.Proofs.Runs
import Mqtt.Proofs.GivenUp
import Mqtt.Proofs.Acknowledgments
import Mqtt.Proofs.Links
import Mqtt.Proofs.StreamShapes
import Mqtt.Proofs.ReaderFraming
import Mqtt.Proofs.SubscriptionSet
import Mqtt.Proofs.DecodePaths
import Mqtt.Proofs.TopicMatching
import Mqtt.Proofs.DeadLink
import Mqtt.Proofs.AcceptedBodies
import Mqtt.Proofs.CanonicalFrames
import Mqtt.Proofs.Exchanges
import Mqtt.Proofs.Publishing
import Mqtt.Proofs.Resubscription
import Mqtt.Proofs.Relinking
import Mqtt.Proofs.Restoring
import Mqtt.Proofs.RemainingLength
import Mqtt.Proofs.PubrecSchedule
import Mqtt.Proofs.WebSocketStream
import Mqtt.Proofs.ConfiguredClient
import Mqtt.Proofs.ReusedTargets
import Mqtt.Proofs.SeriesKeys
import Mqtt.Proofs.IdentifierCycle
