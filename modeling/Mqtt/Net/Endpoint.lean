import Mqtt.Failure
import Mqtt.Net.Url
import Mqtt.Log.Level
/-! # Broker endpoints

A broker is named by a URI whose scheme picks the transport: `tcp`, `ssl` (TLS), `ws` and `wss`
(WebSocket), `unix` (a socket file) and `quic`. Network schemes need a host and a port;
WebSocket and QUIC have default ports. The address a transport dials is the socket path for
`unix`, the whole URI for WebSocket, and `host:port` otherwise.
-/

namespace Mqtt

/-- The transports a broker URI can name. -/
inductive Transport where
  | tcp
  | ssl
  | ws
  | wss
  | unix
  | quic
  deriving DecidableEq, Repr, Inhabited

namespace Transport

/-- The transport of a lowercase scheme. -/
def ofScheme? : String → Option Transport
  | "tcp" => some tcp
  | "ssl" => some ssl
  | "ws" => some ws
  | "wss" => some wss
  | "unix" => some unix
  | "quic" => some quic
  | _ => none

/-- The scheme of a transport. -/
def scheme : Transport → String
  | tcp => "tcp"
  | ssl => "ssl"
  | ws => "ws"
  | wss => "wss"
  | unix => "unix"
  | quic => "quic"

/-- The port used when a URI names none. -/
def defaultPort : Transport → Option String
  | ws => some "80"
  | wss => some "443"
  | quic => some "8883"
  | _ => none

end Transport

/-- A broker endpoint. -/
structure Endpoint where
  transport : Transport
  host : Bytes := []
  port : Bytes := []
  path : Bytes := []
  raw : String
  deriving DecidableEq, Repr, Inhabited

namespace Endpoint

/-- An invalid broker URI, with the reason. -/
def invalid (why : String) : Failure := .detail .invalidUri why

/-- Parses a broker URI. -/
def parse (uri : String) : Except Failure Endpoint := do
  if (LogLevel.trimSpace uri).isEmpty then throw (.of .missingArgument)
  let u ← match Url.parse uri with
    | .ok u => pure u
    | .error e => throw (invalid e)
  let some t := Transport.ofScheme? u.scheme
    | throw (.detail .unsupportedScheme (Text.quote u.scheme))
  if t == .unix then
    let path := if !u.host.isEmpty && u.host != Bytes.ofString "localhost" then u.host ++ u.path else u.path
    if path.isEmpty then throw (invalid s!"missing socket path in {Text.quote uri}")
    return { transport := t, path, raw := uri }
  let host := u.hostname
  if host.isEmpty then throw (invalid s!"missing host in {Text.quote uri}")
  if host.contains (Url.b ':') && u.host.head? != some (Url.b '[') then
    throw (invalid s!"IPv6 host must be bracketed in {Text.quote uri}")
  let port ← if !u.port.isEmpty then pure u.port else
    match t.defaultPort with
    | some p => pure (Bytes.ofString p)
    | none => throw (invalid s!"missing port in {Text.quote uri}")
  return { transport := t, host, port, path := u.path, raw := uri }

/-- The address the transport dials. -/
def address (e : Endpoint) : Bytes :=
  match e.transport with
  | .unix => e.path
  | .ws | .wss => Bytes.ofString e.raw
  | _ => joinHostPort e.host e.port

end Endpoint

end Mqtt
