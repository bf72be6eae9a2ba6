import Mqtt.Net.Proxy
import Mqtt.Net.Listen
/-! # Dialling on a host without a loopback network

The TCP, TLS and proxy dialers always open real sockets, and their servers listen on the loopback
interface. On a host whose loopback network is down, every TCP connection attempt fails at once
with "network is unreachable", before any server or proxy sees a byte. What is left to observe is
how each dialer reports that failure: a direct dial passes it on unchanged, an HTTP CONNECT
tunnel as a failure to connect to the proxy, and a SOCKS5 tunnel as a failed SOCKS connect from
the proxy's address to the target.

Unix sockets do not need the network: a dial reaches an echo server listening on a socket file,
fails when the file does not exist, and is refused when nothing listens on it.

The ports of loopback servers are chosen by the system, so messages show them as `PORT`.
-/

namespace Mqtt

/-- The loopback address a server listens on; its port is chosen by the system. -/
def loopbackHost : String := "127.0.0.1"

/-- The text of an address on the loopback interface as messages show it. -/
def loopbackShown : String := loopbackHost ++ ":PORT"

/-- Hides the ports of loopback addresses in a text: every `127.0.0.1:` followed by digits
becomes `127.0.0.1:PORT`. -/
def hideLoopbackPorts (s : String) : String :=
  let marker := loopbackHost ++ ":"
  match s.splitOn marker with
  | [] => s
  | first :: rest =>
    rest.foldl (fun acc piece =>
      let cs := piece.toList
      let digits := cs.takeWhile Char.isDigit
      if digits.isEmpty then acc ++ marker ++ piece
      else acc ++ marker ++ "PORT" ++ String.ofList (cs.drop digits.length)) first

/-- The failure of a TCP connection attempt on a host whose network is down. -/
def tcpUnreachable (addr : String) : Failure :=
  .plain s!"dial tcp {addr}: connect: network is unreachable"

/-- The number of a SOCKS port: decimal digits after an optional sign, from 1 to 65535. -/
def socksPort (text : String) : Option Nat :=
  let digits := match text.toList with
    | '+' :: r => r
    | '-' :: r => r
    | r => r
  if digits.isEmpty || !digits.all Char.isDigit || text.startsWith "-" then none
  else
    let n := Ip.decimal digits
    if 1 ≤ n && n ≤ 65535 then some n else none

/-- A `host:port` address as the SOCKS dialer reads it: an IP host in its usual form and the
port as a plain number; none when the address does not split or the port is not a SOCKS port. -/
def socksAddress (addr : String) : Option String :=
  match Listen.splitHostPort addr with
  | .error _ => none
  | .ok (host, portText) =>
    (socksPort portText).map fun port =>
      Ip.joinHostPort (((Ip.parse host).map Ip.text).getD host) (toString port)

namespace ProxySettings

/-- The port a proxy listens on when its URL names none: 8080 for HTTP, 443 for HTTPS and 1080
for SOCKS5. -/
def defaultPort (p : ProxySettings) : String :=
  if p.url.scheme == "http" then "8080" else if p.url.scheme == "https" then "443" else "1080"

/-- The address dialled to reach the proxy. -/
def dialAddress (p : ProxySettings) : String :=
  ((p.address (Bytes.ofString p.defaultPort)).toString?).getD ""

/-- The failure of a tunnel to `target` when connecting to the proxy failed with `e`. A SOCKS5
failure names the proxy's address and the target as the SOCKS dialer reads them, and neither
when one of them does not read. -/
def reachFailure (p : ProxySettings) (target : String) (e : Failure) : Failure :=
  if p.isHttp then .because .proxyFailed (.within "connect to proxy" e)
  else
    let path := match socksAddress p.dialAddress, socksAddress target with
      | some a, some b => s!"socks connect tcp {a}->{b}"
      | _, _ => "socks connect tcp"
    .because .proxyFailed (.within "SOCKS5 dial" (.within path e))

end ProxySettings

/-- What a Unix socket path leads to. -/
inductive UnixPeer where
  /-- A server that echoes what it reads. -/
  | echo
  /-- A socket file nobody listens on. -/
  | silent
  /-- No file at all. -/
  | absent
  deriving DecidableEq, Repr, Inhabited

/-- Dials a Unix socket; an empty path is refused before dialling. -/
def dialUnix (path : String) (peer : UnixPeer) : Except Failure Unit :=
  if path.isEmpty then .error (.detail .invalidUri "empty socket path")
  else match peer with
    | .echo => .ok ()
    | .silent => .error (.plain s!"dial unix {path}: connect: connection refused")
    | .absent => .error (.plain s!"dial unix {path}: connect: no such file or directory")

/-- A failure with every text in it changed by `g`. -/
def Failure.mapText (g : String → String) : Failure → Failure
  | .detail c t => .detail c (g t)
  | .because c inner => .because c (inner.mapText g)
  | .within ctx inner => .within (g ctx) (inner.mapText g)
  | .plain t => .plain (g t)
  | f => f

/-- The URL of a proxy listening on the loopback interface at `port`, with user information
when it is not empty. -/
def loopbackProxyUrl (scheme userinfo : String) (port : Nat) : String :=
  scheme ++ "://" ++ (if userinfo.isEmpty then "" else userinfo ++ "@") ++ loopbackHost ++ ":" ++ toString port

/-- How tunnelling to `target` through the proxy named by `url` fails on a host without loopback
network: the proxy URL is refused, or the proxy cannot be reached. Loopback ports are hidden. -/
def tunnelIsolated (url : String) (username password : Bytes) (target : String) : Failure :=
  let f := match ProxySettings.parse url username password with
    | .error f => f
    | .ok p => p.reachFailure target (tcpUnreachable p.dialAddress)
  f.mapText hideLoopbackPorts

end Mqtt
