import Mqtt.Config.Yaml
import Mqtt.Tls.Certificate
import Mqtt.Client.Document
import Mqtt.Log.Logger
/-! # Loading a configuration

Loading starts from the defaults, reads the YAML file when a path is given, applies the
environment and checks the result. Each stage has its own prefix in front of its problem:
`reading config file`, `parsing config file`, `validating config`.

From a loaded configuration come the TLS settings (none when no TLS setting is made; the CA
file must hold a certificate, and the certificate and key files must make a key pair), the
client options (seconds become milliseconds; credentials, proxy, will and TLS only when set) and
the logger.
-/

namespace Mqtt

/-- Files by path, and the directories that exist. -/
structure FileStore where
  files : List (String × String) := []
  dirs : List String := []
  deriving Repr, Inhabited

namespace FileStore

/-- The content of a file, or why it cannot be read. -/
def read (fs : FileStore) (path : String) : Except String String :=
  match fs.files.lookup path with
  | some text => .ok text
  | none =>
    if fs.dirs.contains path then .error s!"read {path}: is a directory"
    else .error s!"open {path}: no such file or directory"

end FileStore

namespace Config

/-- Loads a configuration: the file at `path` when it is not empty, then the environment, then
the check. -/
def load (fs : FileStore) (env : Environment) (path : String) : Except String Config := do
  let c ← if path.isEmpty then pure ({} : Config) else do
    let text ← (fs.read path).mapError ("reading config file: " ++ ·)
    (readYaml text {}).mapError ("parsing config file: " ++ ·)
  (c.withEnvironment env).check.mapError ("validating config: " ++ ·)

/-- The TLS settings of a configuration, none when it makes no TLS setting. -/
def tlsSettings (c : Config) (fs : FileStore) : Except String (Option TlsSettings) := do
  let t := c.tls
  if t.caFile.isEmpty && t.certFile.isEmpty && t.serverName.isEmpty && !t.insecureSkipVerify then
    return none
  let mut s : TlsSettings :=
    { serverName := t.serverName, insecureSkipVerify := t.insecureSkipVerify, minVersion := 771 }
  if !t.caFile.isEmpty then
    let text ← (fs.read t.caFile).mapError ("reading CA file: " ++ ·)
    if !Certificate.anyTrusted text then throw s!"no certificates in {t.caFile}"
    s := { s with rootCAs := true }
  if !t.certFile.isEmpty then
    let pair : Except String Unit := do
      let certText ← fs.read t.certFile
      let keyText ← fs.read t.keyFile
      Certificate.keyPair certText keyText
    pair.mapError ("loading client certificate: " ++ ·)
    s := { s with certificates := 1 }
  return some s

/-- The number of signed 64-bit integers. -/
def int64Span : Int := 18446744073709551616

/-- A count of seconds as milliseconds, as a signed 64-bit count of nanoseconds holds it. -/
def secondsToMs (n : Int) : Int :=
  let ns := n * 1000000000
  let wrapped := (ns - minInt64) % int64Span + minInt64
  wrapped.tdiv 1000000

/-- An integer as a byte, keeping its low eight bits. -/
def lowByte (n : Int) : UInt8 := (n % 256).toNat.toUInt8

/-- The client options a configuration gives. -/
def clientOptions (c : Config) (fs : FileStore) : Except String (List ClientOption) := do
  let base : List ClientOption := [
    .clientId (Bytes.ofString c.broker.clientId),
    .cleanSession c.broker.cleanSession,
    .protocol (Bytes.ofString c.broker.protocol) (lowByte c.broker.protocolLevel),
    .keepAlive (secondsToMs c.keepAlive.interval) c.keepAlive.maxMissed,
    .connectKeepAlive (secondsToMs c.keepAlive.connect),
    .reconnect c.reconnect.maxAttempts (secondsToMs c.reconnect.interval),
    .reconnectDelay (secondsToMs c.reconnect.delay),
    .connectTimeout (secondsToMs c.timeouts.connect),
    .recvTimeout (secondsToMs c.timeouts.recv),
    .sendTimeout (secondsToMs c.timeouts.send),
    .bufferSizes c.limits.sendBuffer c.limits.recvBuffer,
    .maxSubscriptions c.limits.maxSubscriptions,
    .qos2QueueSize c.limits.qos2Queue,
    .publishRetries c.limits.publishRetries,
    .publishRate c.limits.publishRate c.limits.publishBurst]
  let credentials := if c.broker.username.isEmpty then [] else
    [ClientOption.credentials (Bytes.ofString c.broker.username) (Bytes.ofString c.broker.password)]
  let proxy := if c.broker.proxy.isEmpty then [] else [ClientOption.proxy c.broker.proxy [] []]
  let lastWill : Mqtt.Will := ⟨Bytes.ofString c.will.topic, Bytes.ofString c.will.payload,
    lowByte c.will.qos, c.will.retain⟩
  let will := if c.will.topic.isEmpty then [] else [ClientOption.will lastWill]
  let tls := match ← c.tlsSettings fs with
    | some s => [ClientOption.tls (some s)]
    | none => []
  return base ++ credentials ++ proxy ++ will ++ tls

/-- The logger the logging section describes. -/
def logger (c : Config) : Logger := Logger.atLevel (LogLevel.parse c.logging.level)

/-- TLS settings as a document. -/
def tlsDoc (t : TlsSettings) : Doc :=
  .obj [("server_name", .str t.serverName), ("insecure_skip_verify", .bool t.insecureSkipVerify),
    ("min_version", .int t.minVersion), ("root_cas", .bool t.rootCAs),
    ("certificates", .int t.certificates)]

/-- What a loaded configuration gives, as a document: the configuration, the level of its
logger, its TLS settings and its client options, each of the last two possibly a failure. -/
def describe (c : Config) (fs : FileStore) : Doc :=
  .obj [("config", c.toDoc), ("log_level", .str c.logger.reported.name),
    ("tls", match c.tlsSettings fs with
      | .ok (some t) => tlsDoc t
      | .ok none => .null
      | .error e => .failure (.plain e)),
    ("options", match c.clientOptions fs with
      | .ok opts => (ClientOptions.resolve opts).toDoc
      | .error e => .failure (.plain e))]

end Config

end Mqtt
