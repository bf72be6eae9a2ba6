import Mqtt.Client.World
import Mqtt.Packet.Document
/-! # Clients as documents

Options read from documents, and resolved settings, dialers and new clients described as
documents.

An option document names the option under `name` and holds its arguments beside it; durations
are whole milliseconds. The description of resolved settings holds every setting, durations in
milliseconds, and the TLS details only when TLS is set. The description of a new client shows
what it was built from: its codec, buffers, tables and queues, its dialer and the CONNECT packet
it would send.
-/

namespace Mqtt

/-- A will as a document. -/
def Will.toDoc (w : Will) : Doc :=
  .obj [("topic", .ofText w.topic), ("payload", .ofBytes w.payload), ("qos", w.qos.toNat),
        ("retain", w.retain)]

/-- A will from a document with its topic, payload, QoS and retain flag. -/
def Will.ofDoc (d : Doc) : DocRead Will := do
  return { topic := ← d.getText "topic", payload := ← d.getBytes "payload", qos := ← d.getU8 "qos",
           retain := ← d.getBool "retain" }

namespace ClientOption

/-- One option from a document naming it under `name`. -/
def ofDoc (d : Doc) : DocRead ClientOption := do
  let ms := d.getInt "ms"
  let n := d.getInt "n"
  match ← d.getStr "name" with
  | "client_id" => return .clientId (← d.getText "id")
  | "credentials" => return .credentials (← d.getText "username") (← d.getText "password")
  | "will" => return .will (← Will.ofDoc d)
  | "will_handler" => return .willHandler
  | "buffer_sizes" => return .bufferSizes (← d.getInt "send") (← d.getInt "recv")
  | "reconnect" => return .reconnect (← d.getInt "max") (← d.getInt "interval_ms")
  | "keepalive" => return .keepAlive (← d.getInt "interval_ms") (← d.getInt "max_missed")
  | "reconnect_delay" => return .reconnectDelay (← ms)
  | "connect_keepalive" => return .connectKeepAlive (← ms)
  | "connect_timeout" => return .connectTimeout (← ms)
  | "recv_timeout" => return .recvTimeout (← ms)
  | "send_timeout" => return .sendTimeout (← ms)
  | "tick_interval" => return .tickInterval (← ms)
  | "pubrec_interval" => return .pubrecInterval (← ms)
  | "publish_retries" => return .publishRetries (← n)
  | "qos2_queue_size" => return .qos2QueueSize (← n)
  | "max_subscriptions" => return .maxSubscriptions (← n)
  | "max_topic_filters" => return .maxTopicFilters (← n)
  | "ack_queue_size" => return .ackQueueSize (← n)
  | "protocol" => return .protocol (← d.getText "protocol_name") (← d.getU8 "level")
  | "clean_session" => return .cleanSession (← d.getBool "clean")
  | "proxy" => return .proxy (← d.getStr "url") (← d.getText "username") (← d.getText "password")
  | "proxy_from_environment" => return .proxyFromEnvironment
  | "publish_rate" => return .publishRate (← d.getFloat "rate") (← d.getInt "burst")
  | "tls" =>
    return .tls (some { serverName := ← d.getStr "server_name",
                        insecureSkipVerify := ← d.getBool "insecure_skip_verify" })
  | "tls_nil" => return .tls none
  | "on_event" => return .onEvent
  | "logger_nil" => return .logger none
  | "metrics_nil" => return .metrics false
  | other => throw s!"unknown option \"{other}\""

/-- The options listed under `key`. -/
def listOfDoc (d : Doc) (key : String) : DocRead (List ClientOption) := do
  (← d.getList key).mapM ofDoc

end ClientOption

/-- TLS settings as the fields of a document, each name prefixed. -/
def TlsSettings.fields (t : TlsSettings) (pre : String) : Doc.Fields :=
  [(pre ++ "server_name", .str t.serverName), (pre ++ "insecure_skip_verify", t.insecureSkipVerify),
   (pre ++ "min_version", t.minVersion), (pre ++ "root_cas", t.rootCAs),
   (pre ++ "certificates", t.certificates)]

/-- Resolved settings as a document. -/
def ClientOptions.toDoc (o : ClientOptions) : Doc :=
  .obj (([("client_id", .ofText o.clientId), ("username", .ofText o.username),
    ("password", .ofText o.password), ("clean_session", o.cleanSession),
    ("protocol_name", .ofText o.protocolName), ("protocol_level", o.protocolLevel.toNat),
    ("send_buffer_size", o.sendBufferSize), ("recv_buffer_size", o.recvBufferSize),
    ("reconnect_max", o.reconnectMax), ("reconnect_interval_ms", o.reconnectInterval),
    ("reconnect_delay_ms", o.reconnectDelay), ("keepalive_max", o.keepAliveMax),
    ("keepalive_interval_ms", o.keepAliveInterval), ("connect_keepalive_ms", o.connectKeepAlive),
    ("connect_timeout_ms", o.connectTimeout), ("recv_timeout_ms", o.recvTimeout),
    ("send_timeout_ms", o.sendTimeout), ("tick_interval_ms", o.tickInterval),
    ("publish_retries", o.publishRetries), ("pubrec_interval_ms", o.pubrecInterval),
    ("qos2_queue_size", o.qos2QueueSize), ("ack_queue_size", o.ackQueueSize),
    ("max_subscriptions", o.maxSubscriptions), ("max_topic_filters", o.maxTopicFilters),
    ("publish_rate", .float o.publishRate), ("publish_burst", o.publishBurst),
    ("tls", o.tls.isSome)] : Doc.Fields) ++
    (match o.tls with | some t => t.fields "tls_" | none => []) ++
    ([("custom_dialer", o.customDialer), ("proxy_url", .str o.proxyUrl),
     ("proxy_username", .ofText o.proxyUsername), ("proxy_password", .ofText o.proxyPassword),
     ("proxy_from_env", o.proxyFromEnv), ("will_handler", o.willHandler), ("on_event", o.onEvent),
     ("will", match o.will with | some w => w.toDoc | none => .null)] : Doc.Fields))

/-- The port a proxy is reached on when its URL names none. -/
def defaultProxyPort : Bytes := Bytes.ofString "1080"

/-- A dialer as a document. -/
def DialerChoice.toDoc (d : DialerChoice) : Doc :=
  .obj (([("dialer", .str d.kind.name), ("proxy", .str d.proxyUrl)] : Doc.Fields) ++
    (match d.timeout with | some t => [("timeout_ms", .int t)] | none => []) ++
    (match d.proxy with
     | some p => [("proxy_dialer", .obj [("scheme", .str p.url.scheme), ("username", .ofText p.username),
                   ("password", .ofText p.password), ("proxy_addr", .ofText (p.address defaultProxyPort))])]
     | none => []))

/-- A subscription table entry as a document: its filter, its QoS and whether it has a
handler. -/
def Subscription.Entry.toDoc {H : Type} (e : Subscription.Entry H) : Doc :=
  .obj [("filter", .ofText e.filter), ("qos", e.qos.toNat), ("handler", e.handler.isSome)]

/-- A new client as a document. -/
def Client.toDoc (c : Client) (d : DialerChoice) : Doc :=
  .obj [("options", c.options.toDoc), ("dialer", .str d.kind.name), ("dialer_info", d.toDoc),
    ("codec_protocol", .ofText c.codec.protocolName), ("codec_level", c.codec.protocolLevel.toNat),
    ("codec_max_filters", c.codec.maxTopicFilters), ("send_buf", c.sendCap), ("recv_buf", c.recvCap.size),
    ("subs_cap", c.subs.capacity), ("subs", .list c.subs.entries Subscription.Entry.toDoc),
    ("qos2_slots", c.qos2.slots.length), ("qos2_max_retries", c.qos2.maxRetries),
    ("ack_queue_cap", c.acks.capacity), ("flow_limited", c.flow.limited),
    ("state", .str c.state.name), ("connect", Packet.toDoc (.connect c.options.connectPacket))]

/-- Builds a client for a broker URI with options, in an environment that may name a proxy. -/
def Client.build (uri : String) (opts : List ClientOption) (env : Environment) :
    Except Failure (Client × DialerChoice) := do
  let ep ← Endpoint.parse uri
  let o := ClientOptions.resolve opts
  let d ← DialerChoice.select ep o env
  let c ← Client.create ep o (ClientOptions.resolve_recvBufferSize_pos opts)
  return (c, d)

/-- The document describing the client a URI and options build, or the failure to build it. -/
def Client.describe (uri : String) (opts : List ClientOption) (env : Environment) : Doc :=
  match Client.build uri opts env with
  | .ok (c, d) => c.toDoc d
  | .error f => .failure f

end Mqtt
