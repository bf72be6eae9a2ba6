import Mqtt.Session.Will
import Mqtt.Session.ExactlyOnce
import Mqtt.Session.AckQueue
import Mqtt.Session.Subscriptions
import Mqtt.Packet.Encode
import Mqtt.Log.Level
/-! # Client options

A client is configured by a list of options applied in order to the defaults. After all of them,
every count and every duration left at zero or below takes its default again, as do an empty
protocol name, a protocol level of zero and a negative keepalive announced in CONNECT. So an
option can lower a setting but never switch it off. Durations are whole milliseconds.
-/

namespace Mqtt

/-- TLS settings, as far as they decide the client's behaviour. -/
structure TlsSettings where
  serverName : String := ""
  insecureSkipVerify : Bool := false
  minVersion : Nat := 0
  /-- Whether a pool of trusted roots is given instead of the system's. -/
  rootCAs : Bool := false
  /-- The number of client certificates. -/
  certificates : Nat := 0
  deriving DecidableEq, Repr, Inhabited

/-- The default size of each of the client's two buffers, in bytes. -/
def defaultBufferSize : Int := 1024

/-- The default largest number of topic filters in one SUBSCRIBE or UNSUBSCRIBE. -/
def defaultMaxTopicFilters : Int := 4

/-- The resolved settings of a client. -/
structure ClientOptions where
  clientId : Bytes := []
  username : Bytes := []
  password : Bytes := []
  cleanSession : Bool := true
  protocolName : Bytes := Connect.defaultProtocolName
  protocolLevel : UInt8 := Connect.defaultProtocolLevel
  will : Option Will := none
  /-- Whether deliveries on the will topic go to a handler of their own. -/
  willHandler : Bool := false
  sendBufferSize : Int := defaultBufferSize
  recvBufferSize : Int := defaultBufferSize
  reconnectMax : Int := 5
  reconnectInterval : Int := 60000
  reconnectDelay : Int := 5000
  keepAliveMax : Int := 5
  keepAliveInterval : Int := 30000
  connectKeepAlive : Int := 60000
  connectTimeout : Int := 4000
  recvTimeout : Int := 5000
  sendTimeout : Int := 4000
  tickInterval : Int := 1000
  publishRetries : Int := ExactlyOnce.defaultRetries
  pubrecInterval : Int := ExactlyOnce.defaultInterval
  qos2QueueSize : Int := ExactlyOnce.defaultSlots
  ackQueueSize : Int := defaultAckQueueSize
  maxSubscriptions : Int := defaultMaxSubscriptions
  maxTopicFilters : Int := defaultMaxTopicFilters
  publishRate : Float := 0
  publishBurst : Int := 0
  tls : Option TlsSettings := none
  /-- Whether a dialer of the caller's replaces the one the scheme selects. -/
  customDialer : Bool := false
  proxyUrl : String := ""
  proxyUsername : Bytes := []
  proxyPassword : Bytes := []
  proxyFromEnv : Bool := false
  /-- Whether lifecycle events go to a handler. -/
  onEvent : Bool := false
  /-- The level of the client's log; `none` is a log that drops everything. -/
  logLevel : Option LogLevel := none
  /-- Whether the client records metrics. -/
  metrics : Bool := false
  deriving Repr, Inhabited

/-- One option. -/
inductive ClientOption where
  | clientId (id : Bytes)
  | credentials (username password : Bytes)
  | will (w : Will)
  | willHandler
  | bufferSizes (send recv : Int)
  | reconnect (max interval : Int)
  | reconnectDelay (ms : Int)
  | keepAlive (interval maxMissed : Int)
  | connectKeepAlive (ms : Int)
  | connectTimeout (ms : Int)
  | recvTimeout (ms : Int)
  | sendTimeout (ms : Int)
  | tickInterval (ms : Int)
  | pubrecInterval (ms : Int)
  | publishRetries (n : Int)
  | qos2QueueSize (n : Int)
  | maxSubscriptions (n : Int)
  | maxTopicFilters (n : Int)
  | ackQueueSize (n : Int)
  | protocol (name : Bytes) (level : UInt8)
  | cleanSession (clean : Bool)
  | tls (settings : Option TlsSettings)
  | dialer
  | proxy (url : String) (username password : Bytes)
  | proxyFromEnvironment
  | publishRate (perSecond : Float) (burst : Int)
  | onEvent
  | logger (level : Option LogLevel)
  | metrics (on : Bool)
  deriving Repr, Inhabited

namespace ClientOptions

/-- Applies one option. -/
def set (o : ClientOptions) : ClientOption → ClientOptions
  | .clientId id => { o with clientId := id }
  | .credentials u p => { o with username := u, password := p }
  | .will w => { o with will := some w }
  | .willHandler => { o with willHandler := true }
  | .bufferSizes s r => { o with sendBufferSize := s, recvBufferSize := r }
  | .reconnect m i => { o with reconnectMax := m, reconnectInterval := i }
  | .reconnectDelay ms => { o with reconnectDelay := ms }
  | .keepAlive i m => { o with keepAliveInterval := i, keepAliveMax := m }
  | .connectKeepAlive ms => { o with connectKeepAlive := ms }
  | .connectTimeout ms => { o with connectTimeout := ms }
  | .recvTimeout ms => { o with recvTimeout := ms }
  | .sendTimeout ms => { o with sendTimeout := ms }
  | .tickInterval ms => { o with tickInterval := ms }
  | .pubrecInterval ms => { o with pubrecInterval := ms }
  | .publishRetries n => { o with publishRetries := n }
  | .qos2QueueSize n => { o with qos2QueueSize := n }
  | .maxSubscriptions n => { o with maxSubscriptions := n }
  | .maxTopicFilters n => { o with maxTopicFilters := n }
  | .ackQueueSize n => { o with ackQueueSize := n }
  | .protocol n l => { o with protocolName := n, protocolLevel := l }
  | .cleanSession c => { o with cleanSession := c }
  | .tls s => { o with tls := s }
  | .dialer => { o with customDialer := true }
  | .proxy u n p => { o with proxyUrl := u, proxyUsername := n, proxyPassword := p }
  | .proxyFromEnvironment => { o with proxyFromEnv := true }
  | .publishRate r b => { o with publishRate := r, publishBurst := b }
  | .onEvent => { o with onEvent := true }
  | .logger l => { o with logLevel := l }
  | .metrics m => { o with metrics := m }

/-- A setting of zero or below falls back to its default. -/
def positiveOr (v d : Int) : Int := if v ≤ 0 then d else v

/-- Restores the default of every setting left without a usable value. -/
def fillDefaults (o : ClientOptions) : ClientOptions :=
  let d : ClientOptions := {}
  { o with
    sendBufferSize := positiveOr o.sendBufferSize d.sendBufferSize
    recvBufferSize := positiveOr o.recvBufferSize d.recvBufferSize
    reconnectMax := positiveOr o.reconnectMax d.reconnectMax
    keepAliveMax := positiveOr o.keepAliveMax d.keepAliveMax
    publishRetries := positiveOr o.publishRetries d.publishRetries
    qos2QueueSize := positiveOr o.qos2QueueSize d.qos2QueueSize
    ackQueueSize := positiveOr o.ackQueueSize d.ackQueueSize
    maxSubscriptions := positiveOr o.maxSubscriptions d.maxSubscriptions
    maxTopicFilters := positiveOr o.maxTopicFilters d.maxTopicFilters
    reconnectInterval := positiveOr o.reconnectInterval d.reconnectInterval
    reconnectDelay := positiveOr o.reconnectDelay d.reconnectDelay
    keepAliveInterval := positiveOr o.keepAliveInterval d.keepAliveInterval
    connectTimeout := positiveOr o.connectTimeout d.connectTimeout
    recvTimeout := positiveOr o.recvTimeout d.recvTimeout
    sendTimeout := positiveOr o.sendTimeout d.sendTimeout
    tickInterval := positiveOr o.tickInterval d.tickInterval
    pubrecInterval := positiveOr o.pubrecInterval d.pubrecInterval
    connectKeepAlive := if o.connectKeepAlive < 0 then d.connectKeepAlive else o.connectKeepAlive
    protocolName := if o.protocolName.isEmpty then d.protocolName else o.protocolName
    protocolLevel := if o.protocolLevel == 0 then d.protocolLevel else o.protocolLevel }

/-- The settings after applying options in order to the defaults. -/
def resolve (opts : List ClientOption) : ClientOptions :=
  (opts.foldl set {}).fillDefaults

/-- A setting that falls back to a positive default is positive. -/
theorem positiveOr_pos {v d : Int} (h : 0 < d) : 0 < positiveOr v d := by
  unfold positiveOr
  split <;> omega

theorem resolve_recvBufferSize_pos (opts : List ClientOption) : 0 < (resolve opts).recvBufferSize :=
  positiveOr_pos (by decide)

/-- The keepalive announced in CONNECT: whole seconds, at most what the field holds. -/
def keepAliveSeconds (o : ClientOptions) : UInt16 :=
  (min (o.connectKeepAlive / 1000) 65535).toNat.toUInt16

/-- The CONNECT packet a client with these settings sends; a will is sent only when it has a
topic. -/
def connectPacket (o : ClientOptions) : Connect :=
  let c : Connect := { protocolName := o.protocolName, protocolLevel := o.protocolLevel,
                       clientId := o.clientId, cleanSession := o.cleanSession,
                       keepAlive := o.keepAliveSeconds, username := o.username,
                       password := o.password }
  match o.will with
  | some w => w.applyTo c
  | none => c

end ClientOptions

end Mqtt
