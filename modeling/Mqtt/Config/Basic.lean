import Mqtt.Net.Endpoint
import Mqtt.Net.Proxy
import Mqtt.Topic
import Mqtt.Doc.Basic
/-! # Configuration of the command-line client

The command-line client reads its settings from a YAML file in sections: the broker and the
client's identity, TLS files, keepalive, reconnecting, timeouts, limits, the will, logging and
metrics. Every setting has a default; the file overrides defaults, and `UMQTT_*` environment
variables override the file. Durations are whole seconds.

Checking a configuration reports every problem it finds, one per line, in a fixed order.
-/

namespace Mqtt

namespace Config

/-- The broker to reach and how the client introduces itself. -/
structure Broker where
  uri : String := "tcp://localhost:1883"
  clientId : String := "umqtt"
  username : String := ""
  password : String := ""
  cleanSession : Bool := true
  protocol : String := "MQTT"
  protocolLevel : Int := 4
  proxy : String := ""
  deriving Repr, Inhabited

/-- Files and names for TLS connections. -/
structure Tls where
  caFile : String := ""
  certFile : String := ""
  keyFile : String := ""
  serverName : String := ""
  insecureSkipVerify : Bool := false
  deriving Repr, Inhabited

/-- Keepalive, in seconds: the interval of pings, how many may go unanswered, and the
keepalive announced when connecting. -/
structure KeepAlive where
  interval : Int := 30
  maxMissed : Int := 5
  connect : Int := 60
  deriving Repr, Inhabited

/-- How often and how fast the client reconnects, in seconds. -/
structure Reconnect where
  maxAttempts : Int := 5
  interval : Int := 60
  delay : Int := 5
  deriving Repr, Inhabited

/-- Timeouts of connecting, receiving and sending, in seconds. -/
structure Timeouts where
  connect : Int := 4
  recv : Int := 5
  send : Int := 4
  deriving Repr, Inhabited

/-- Sizes of buffers and tables, and the publish rate. -/
structure Limits where
  sendBuffer : Int := 1024
  recvBuffer : Int := 1024
  maxSubscriptions : Int := 4
  qos2Queue : Int := 1
  publishRetries : Int := 3
  publishRate : Float := 0
  publishBurst : Int := 0
  deriving Repr, Inhabited

/-- The last will; an empty topic means none. -/
structure Will where
  topic : String := ""
  payload : String := ""
  qos : Int := 0
  retain : Bool := false
  deriving Repr, Inhabited

/-- The log level by name and the format of log lines. -/
structure Logging where
  level : String := "info"
  format : String := "json"
  deriving Repr, Inhabited

/-- Where metrics are served; empty for nowhere. -/
structure Metrics where
  addr : String := ""
  deriving Repr, Inhabited

end Config

/-- The configuration of the command-line client. -/
structure Config where
  broker : Config.Broker := {}
  tls : Config.Tls := {}
  keepAlive : Config.KeepAlive := {}
  reconnect : Config.Reconnect := {}
  timeouts : Config.Timeouts := {}
  limits : Config.Limits := {}
  will : Config.Will := {}
  logging : Config.Logging := {}
  metrics : Config.Metrics := {}
  deriving Repr, Inhabited

namespace Config

/-- A configuration as a document, under the names the file uses. -/
def toDoc (c : Config) : Doc :=
  .obj [
    ("broker", .obj [("uri", .str c.broker.uri), ("client_id", .str c.broker.clientId),
      ("username", .str c.broker.username), ("password", .str c.broker.password),
      ("clean_session", .bool c.broker.cleanSession), ("protocol", .str c.broker.protocol),
      ("protocol_level", .int c.broker.protocolLevel), ("proxy", .str c.broker.proxy)]),
    ("tls", .obj [("ca_file", .str c.tls.caFile), ("cert_file", .str c.tls.certFile),
      ("key_file", .str c.tls.keyFile), ("server_name", .str c.tls.serverName),
      ("insecure_skip_verify", .bool c.tls.insecureSkipVerify)]),
    ("keepalive", .obj [("interval", .int c.keepAlive.interval),
      ("max_missed", .int c.keepAlive.maxMissed), ("connect", .int c.keepAlive.connect)]),
    ("reconnect", .obj [("max_attempts", .int c.reconnect.maxAttempts),
      ("interval", .int c.reconnect.interval), ("delay", .int c.reconnect.delay)]),
    ("timeouts", .obj [("connect", .int c.timeouts.connect), ("recv", .int c.timeouts.recv),
      ("send", .int c.timeouts.send)]),
    ("limits", .obj [("send_buffer", .int c.limits.sendBuffer),
      ("recv_buffer", .int c.limits.recvBuffer),
      ("max_subscriptions", .int c.limits.maxSubscriptions),
      ("qos2_queue", .int c.limits.qos2Queue), ("publish_retries", .int c.limits.publishRetries),
      ("publish_rate", .float c.limits.publishRate), ("publish_burst", .int c.limits.publishBurst)]),
    ("will", .obj [("topic", .str c.will.topic), ("payload", .str c.will.payload),
      ("qos", .int c.will.qos), ("retain", .bool c.will.retain)]),
    ("logging", .obj [("level", .str c.logging.level), ("format", .str c.logging.format)]),
    ("metrics", .obj [("addr", .str c.metrics.addr)])]

/-- The smallest signed 64-bit integer. -/
def minInt64 : Int := -9223372036854775808

/-- A decimal integer with an optional sign that fits 64 bits signed, if the text is one. -/
def decimalInt? (s : String) : Option Int :=
  let (neg, ds) := match s.toList with
    | '-' :: r => (true, r)
    | '+' :: r => (false, r)
    | r => (false, r)
  if ds.isEmpty || !ds.all Char.isDigit then none
  else
    let n : Int := ds.foldl (fun a c => a * 10 + (c.toNat - '0'.toNat)) 0
    let v := if neg then -n else n
    if v < minInt64 || v > -minInt64 - 1 then none else some v

/-- The environment variables a configuration reads. -/
def environmentNames : List String :=
  ["BROKER_URI", "CLIENT_ID", "USERNAME", "PASSWORD", "PROXY", "LOG_LEVEL", "METRICS_ADDR",
   "KEEPALIVE_INTERVAL"].map ("UMQTT_" ++ ·)

/-- Applies the `UMQTT_*` variables that are set to something: broker URI, client identifier,
username, password, proxy, log level, metrics address, and the keepalive interval when it is a
decimal integer. -/
def withEnvironment (c : Config) (env : Environment) : Config :=
  let get (name : String) : Option String := (env.lookup ("UMQTT_" ++ name)).filter (!·.isEmpty)
  let c := match get "BROKER_URI" with | some v => { c with broker.uri := v } | none => c
  let c := match get "CLIENT_ID" with | some v => { c with broker.clientId := v } | none => c
  let c := match get "USERNAME" with | some v => { c with broker.username := v } | none => c
  let c := match get "PASSWORD" with | some v => { c with broker.password := v } | none => c
  let c := match get "PROXY" with | some v => { c with broker.proxy := v } | none => c
  let c := match get "LOG_LEVEL" with | some v => { c with logging.level := v } | none => c
  let c := match get "METRICS_ADDR" with | some v => { c with metrics.addr := v } | none => c
  match (get "KEEPALIVE_INTERVAL").bind decimalInt? with
  | some n => { c with keepAlive.interval := n }
  | none => c

/-- Every problem of a configuration, in the order they are checked. -/
def problems (c : Config) : List String :=
  (match Endpoint.parse c.broker.uri with
    | .error f => ["broker.uri: " ++ f.message]
    | .ok _ => []) ++
  (if c.broker.protocolLevel < 1 || c.broker.protocolLevel > 255 then
    ["broker.protocol_level must be between 1 and 255"] else []) ++
  (if c.broker.password != "" && c.broker.username == "" then
    ["broker.password requires broker.username"] else []) ++
  (if !c.broker.cleanSession && c.broker.clientId == "" then
    ["broker.client_id is required when clean_session is false"] else []) ++
  (if (c.tls.certFile == "") != (c.tls.keyFile == "") then
    ["tls.cert_file and tls.key_file must be set together"] else []) ++
  (if c.keepAlive.connect < 0 || c.keepAlive.connect > 65535 then
    ["keepalive.connect must be between 0 and 65535"] else []) ++
  (if c.will.topic == "" then [] else
    (match Topic.validateName (Bytes.ofString c.will.topic) with
      | .error f => ["will.topic: " ++ f.message]
      | .ok _ => []) ++
    (if c.will.qos < 0 || c.will.qos > 2 then ["will.qos must be 0, 1, or 2"] else [])) ++
  (if c.limits.publishRate < 0 then ["limits.publish_rate must not be negative"] else []) ++
  (if c.logging.format == "json" || c.logging.format == "text" then [] else
    ["logging.format " ++ Text.quote c.logging.format ++ " must be json or text"])

/-- A configuration without problems, or all its problems, one per line. -/
def check (c : Config) : Except String Config :=
  match c.problems with
  | [] => .ok c
  | ps => .error ("\n".intercalate ps)

end Config

end Mqtt
