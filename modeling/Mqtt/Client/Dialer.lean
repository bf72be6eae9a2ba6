import Mqtt.Client.Options
import Mqtt.Net.Proxy
/-! # Choosing how to dial

Each scheme of a broker URI has its dialer: TCP, TLS, WebSocket (for `ws` and `wss`), a Unix
socket or QUIC. A dialer given by the caller replaces the scheme's. A proxy applies to the TCP,
TLS and WebSocket schemes only: the one set in the options, or else, when asked for, the one the
environment names for the broker URI. TCP and TLS dialers tunnel through it themselves, so its
URL must name a proxy they speak; a WebSocket dialer hands the URL on and only needs it to be a
URL.
-/

namespace Mqtt

/-- The kinds of dialer. -/
inductive DialerKind where
  | tcp | tls | ws | unix | quic | custom
  deriving DecidableEq, Repr, Inhabited

/-- The name of a kind of dialer. -/
def DialerKind.name : DialerKind → String
  | .tcp => "tcp"
  | .tls => "tls"
  | .ws => "ws"
  | .unix => "unix"
  | .quic => "quic"
  | .custom => "custom"

/-- The dialer a client uses. -/
structure DialerChoice where
  kind : DialerKind
  /-- The proxy URL in force, empty for none. -/
  proxyUrl : String := ""
  /-- How long a TCP, TLS or Unix connection attempt may take, in milliseconds. -/
  timeout : Option Int := none
  /-- The proxy a TCP or TLS dialer tunnels through. -/
  proxy : Option ProxySettings := none
  deriving Repr, Inhabited

/-- The proxy URL for an endpoint: none for Unix sockets and QUIC, else the one set in the
options, else the environment's if the options ask for it. -/
def resolveProxy (ep : Endpoint) (o : ClientOptions) (env : Environment) : String :=
  if ep.transport == .unix || ep.transport == .quic then ""
  else if o.proxyUrl != "" then o.proxyUrl
  else if o.proxyFromEnv then proxyFromEnvironment env ep.raw
  else ""

/-- Chooses the dialer for an endpoint. -/
def DialerChoice.select (ep : Endpoint) (o : ClientOptions) (env : Environment) :
    Except Failure DialerChoice := do
  if o.customDialer then return { kind := .custom }
  let url := resolveProxy ep o env
  let proxy ← if url != "" && (ep.transport == .tcp || ep.transport == .ssl) then
      some <$> ProxySettings.parse url o.proxyUsername o.proxyPassword
    else pure none
  match ep.transport with
  | .tcp => return { kind := .tcp, proxyUrl := url, timeout := some o.connectTimeout, proxy }
  | .ssl => return { kind := .tls, proxyUrl := url, timeout := some o.connectTimeout, proxy }
  | .ws | .wss =>
    if url != "" then
      if let .error e := Url.parse url then throw (.plain ("invalid proxy URL: " ++ e))
    return { kind := .ws, proxyUrl := url }
  | .unix => return { kind := .unix, timeout := some o.connectTimeout }
  | .quic => return { kind := .quic }

end Mqtt
