import Mqtt.Net.Url
import Mqtt.Net.Listen
import Mqtt.Text.Base64
import Mqtt.Failure
/-! # The WebSocket opening handshake on a memory network

A client opens a WebSocket connection to a `ws://` or `wss://` URL: it dials the URL's host
(port 80 or 443 by default), directly or through an HTTP CONNECT or SOCKS5 proxy, runs TLS for
`wss`, and sends an HTTP upgrade request asking for the `mqtt` subprotocol. The server listens
on one address of the memory network, with TLS when it is secure; a proxy listens on another.

The checks come in this order: the URL must parse, be `ws` or `wss` and carry no user
information; the extra request headers must not repeat one the handshake sets itself; the proxy
scheme must be `http` or `socks5`. Then come the dials, the proxy's answers, TLS and the
server's answer to the upgrade.

A dial to an address nobody listens on is refused. Every dial is recorded, the proxy's own
dial to the target included. The server's certificate is self-signed for `oracle.test`, so
verifying it always fails: on the name when the name does not match, on the issuer otherwise.
-/

namespace Mqtt

namespace WebSocket

/-- The client's TLS settings. -/
structure TlsClient where
  serverName : String := ""
  insecureSkipVerify : Bool := false
  deriving Repr, Inhabited

/-- The protocol a scripted proxy speaks. -/
inductive ProxyKind where
  | http
  | socks5
  deriving DecidableEq, Repr, Inhabited

/-- A scripted proxy: the URL the client is given, what listens where, and how it answers. An
HTTP proxy writes `response` to a CONNECT request, or hangs up; a SOCKS5 proxy picks `method`,
answers a password with `authStatus` and a connect request with `reply`. -/
structure ProxyScript where
  url : String
  kind : ProxyKind := .http
  listen : String := "proxy.test:3128"
  response : String := ""
  hangUp : Bool := false
  method : Nat := 0
  authStatus : Nat := 0
  reply : Nat := 0
  deriving Repr, Inhabited

/-- Everything the handshake depends on. -/
structure DialScript where
  /-- The host the server listens on. -/
  host : String := "broker.test"
  /-- Whether the server speaks TLS, on port 443; otherwise it is plain, on port 80. -/
  secure : Bool := false
  path : String := "/mqtt"
  /-- The URL to dial, when it is not the server's own. -/
  url : Option String := none
  tls : TlsClient := {}
  handshakeTimeoutMs : Int := 0
  /-- Extra request headers, by name. -/
  header : List (String × String) := []
  proxy : Option ProxyScript := none
  /-- Whether the server turns the upgrade down. -/
  reject : Bool := false
  deriving Repr, Inhabited

/-- What a proxy saw of the client. -/
inductive ProxySeen where
  | nothing
  /-- A CONNECT request: its target, its `Host` header and its `Proxy-Authorization`. -/
  | connect (requestUri host authorization : String)
  /-- A SOCKS5 greeting with the methods offered, then possibly a user name and password, then
  possibly a connect request with its address type and target. -/
  | socks (methods : Bytes) (credentials : Option (String × String)) (request : Option (Nat × String))
  deriving DecidableEq, Repr, Inhabited

/-- What the handshake leaves behind besides its result. -/
structure Trail where
  dialed : List String := []
  proxySeen : ProxySeen := .nothing
  /-- The request's `X-` headers as the server read them. -/
  headersSeen : List (String × String) := []
  deriving Repr, Inhabited

/-- A step of the handshake: it may fail, and it keeps the trail either way. -/
abbrev Dialing := ExceptT Failure (StateM Trail)

/-- Who listens on an address. -/
inductive Peer where
  | server
  | proxy
  deriving DecidableEq, Repr

/-- How the client's connection stands once dialled and tunnelled. -/
inductive Link where
  /-- It reaches the server. -/
  | server
  /-- The other end has closed it. -/
  | closed
  /-- The other end will not answer. -/
  | silent
  deriving DecidableEq, Repr

/-- The text of bytes. -/
def text (b : Bytes) : String := (Bytes.toString? b).getD ""

/-- The failure of a dial nobody answers. -/
def refused (addr : String) : Failure :=
  .plain s!"dial tcp {addr}: connect {addr}: connection refused"

/-- The failure of a read that waits past its deadline. -/
def timedOut : Failure := .plain "i/o timeout"

/-- The failure of a write to a connection the peer closed. -/
def closedPipe : Failure := .plain "io: read/write on closed pipe"

/-- The failure of an upgrade the server did not grant. -/
def badHandshake : Failure := .plain "websocket: bad handshake"

/-- The failure of a URL that is not a WebSocket URL. -/
def malformedUrl : Failure := .plain "malformed ws or wss URL"

/-- Splits a URL host into the address to dial and the host name: a host without a port gets
443 for TLS and 80 otherwise. -/
def hostPortNoPort (host : String) (tls : Bool) : String × String :=
  let cs := host.toList
  let last (c : Char) : Option Nat := (cs.zipIdx.filter (·.1 == c)).getLast?.map (·.2)
  match last ':' with
  | some i =>
    if (last ']').all (· < i) then (host, String.ofList (cs.take i))
    else (host ++ (if tls then ":443" else ":80"), host)
  | none => (host ++ (if tls then ":443" else ":80"), host)

namespace DialScript

/-- The URL the client dials. -/
def target (s : DialScript) : String :=
  s.url.getD ((if s.secure then "wss://" else "ws://") ++ s.host ++ s.path)

/-- The address the server listens on. -/
def serverAddress (s : DialScript) : String :=
  text (joinHostPort (Bytes.ofString s.host) (Bytes.ofString (if s.secure then "443" else "80")))

/-- Who listens on an address. -/
def listener (s : DialScript) (addr : String) : Option Peer :=
  if addr == s.serverAddress then some .server
  else if s.proxy.any (·.listen == addr) then some .proxy
  else none

end DialScript

/-- Dials an address and records it. -/
def dial (s : DialScript) (addr : String) : Dialing (Option Peer) := do
  modify fun t => { t with dialed := t.dialed ++ [addr] }
  return s.listener addr

/-- Records what the proxy saw. -/
def see (p : ProxySeen) : Dialing Unit := modify fun t => { t with proxySeen := p }

/-- The link a proxy's dial to the target gives: the target when it is the server, a closed
connection when nobody listens there. -/
def linkTo : Option Peer → Link
  | some .server => .server
  | some .proxy => .silent
  | none => .closed

/-! ## Headers -/

/-- Whether a byte may stand in a header name. -/
def tokenChar (c : Char) : Bool :=
  c.isAlphanum && c.toNat < 128 || "!#$%&'*+-.^_|~".contains c || c.toNat == 96

/-- A header name in canonical form: the first letter and every letter after `-` in upper
case, the others in lower case; a name with a byte that may not stand in a name is kept. -/
def canonicalKey (k : String) : String :=
  if !k.all tokenChar then k
  else
    let step (acc : List Char × Bool) (c : Char) : List Char × Bool :=
      let c' := if acc.2 then c.toUpper else c.toLower
      (acc.1 ++ [c'], c == '-')
    String.ofList (k.toList.foldl step ([], true)).1

/-- The headers the handshake sets itself, which may not be given again. -/
def reservedHeaders : List String :=
  ["Upgrade", "Connection", "Sec-Websocket-Key", "Sec-Websocket-Version",
   "Sec-Websocket-Extensions", "Sec-Websocket-Protocol"]

/-- Sets a header, replacing an earlier value of the same name. -/
def setHeader (hs : List (String × String)) (k v : String) : List (String × String) :=
  if hs.any (·.1 == k) then hs.map fun (k', v') => if k' == k then (k, v) else (k', v')
  else hs ++ [(k, v)]

/-- Sorts the extra headers: a `Host` header replaces the request's host; the others are sent
under their canonical names, and one the handshake sets itself is refused. -/
def requestHeaders (given : List (String × String)) :
    Except Failure (Option String × List (String × String)) :=
  given.foldlM (fun (acc : Option String × List (String × String)) (k, v) =>
    let key := canonicalKey k
    if key == "Host" then .ok (some v, acc.2)
    else if reservedHeaders.contains key then
      .error (.plain ("websocket: duplicate header not allowed: " ++ key))
    else .ok (acc.1, setHeader acc.2 key v)) (none, [])

/-- A header value as written on the wire: line breaks become spaces and surrounding blanks go. -/
def wireValue (v : String) : String :=
  let spaced := v.map fun c => if c == '\r' || c == '\n' then ' ' else c
  let blank (c : Char) : Bool := c == ' ' || c == '\t'
  String.ofList ((spaced.toList.dropWhile blank).reverse.dropWhile blank).reverse

/-- Whether a server accepts a header value: no control character but the tab. -/
def acceptableValue (v : String) : Bool :=
  v.all fun c => c == '\t' || (c.toNat ≥ 0x20 && c.toNat != 0x7F)

/-- Whether an `Origin` header, if any, names the host the request went to. -/
def originAllowed (origin : Option String) (host : String) : Bool :=
  match origin with
  | none => true
  | some o =>
    match Url.parse o with
    | .error _ => false
    | .ok u => (text u.host).toLower == host.toLower

/-! ## Proxies -/

/-- The status code of a proxy's answer and the rest of its status line, or why it does not
read, or nothing when the answer stops short of its end. -/
inductive ProxyAnswer where
  | status (code : Nat) (status : String)
  | malformed (f : Failure)
  | unfinished
  deriving DecidableEq, Repr

/-- The complete lines at the head of a text, without their line breaks, and whether the text
ends in an unfinished line. -/
def answerLines (s : String) : List String × Bool :=
  let pieces := s.splitOn "\n"
  let complete := pieces.dropLast.map fun l =>
    if l.endsWith "\r" then String.ofList l.toList.dropLast else l
  (complete, !(pieces.getLastD "").isEmpty)

/-- Whether a protocol version reads: `HTTP/` and one digit, a dot and one digit. -/
def httpVersionOk (v : String) : Bool :=
  v == "HTTP/1.1" || v == "HTTP/1.0" ||
    (v.startsWith "HTTP/" && v.length == 8 &&
      match v.toList.drop 5 with
      | [a, '.', b] => a.isDigit && b.isDigit
      | _ => false)

/-- A three-character status code: digits, possibly signed with `+`. -/
def statusCode? (s : String) : Option Nat :=
  let digits := match s.toList with
    | '+' :: r => r
    | r => r
  if s.length == 3 && !digits.isEmpty && digits.all Char.isDigit then some (String.ofList digits).toNat!
  else none

/-- Checks the header lines of an answer up to the blank line. -/
def checkHeaderLines : List String → Bool → Option ProxyAnswer
  | [], _ => some .unfinished
  | l :: rest, first =>
    if l.isEmpty then none
    else if first && (l.startsWith " " || l.startsWith "\t") then
      some (.malformed (.plain ("malformed MIME header initial line: " ++ l)))
    else if l.startsWith " " || l.startsWith "\t" then checkHeaderLines rest false
    else match l.splitOn ":" with
      | key :: value =>
        if value.isEmpty then
          some (.malformed (.plain ("malformed MIME header: missing colon: " ++ Text.quote l)))
        else if key.isEmpty || !key.all tokenChar || !acceptableValue (":".intercalate value) then
          some (.malformed (.plain ("malformed MIME header line: " ++ l)))
        else checkHeaderLines rest false
      | [] => some .unfinished

/-- Reads a proxy's answer to a CONNECT request. -/
def readAnswer (response : String) : ProxyAnswer :=
  let (lines, _) := answerLines response
  match lines with
  | [] => .unfinished
  | line :: headers =>
    match line.splitOn " " with
    | [_] | [] => .malformed (.plain ("malformed HTTP response " ++ Text.quote line))
    | proto :: _ =>
      let status := String.ofList ((line.toList.drop (proto.length + 1)).dropWhile (· == ' '))
      let codeText := (status.splitOn " ").headD ""
      match statusCode? codeText with
      | none => .malformed (.plain ("malformed HTTP status code " ++ Text.quote codeText))
      | some code =>
        if !httpVersionOk proto then .malformed (.plain ("malformed HTTP version " ++ Text.quote proto))
        else match checkHeaderLines headers true with
          | some a => a
          | none => .status code status

/-- Whether an HTTP proxy goes on to tunnel after its answer: the answer starts with a 200
status line. -/
def tunnels (response : String) : Bool :=
  response.startsWith "HTTP/1.1 200 " || response.startsWith "HTTP/1.0 200 "

/-- The value of `Proxy-Authorization` for a proxy URL's user information: basic credentials
when a password is given, even an empty one. -/
def authorization (u : Url) : String :=
  match u.user with
  | some (name, some pass) => "Basic " ++ Base64.encode (name ++ [Url.b ':'] ++ pass)
  | _ => ""

/-- Reaches `target` through an HTTP CONNECT proxy. Answers the address dialled and the link. -/
def httpTunnel (s : DialScript) (p : ProxyScript) (u : Url) (target : String) :
    Dialing (String × Link) := do
  let addr := (hostPortNoPort (text u.host) false).1
  match ← dial s addr with
  | none => throw (refused addr)
  | some .server =>
    throw (.plain (if s.secure then "Bad Request" else "Method Not Allowed"))
  | some .proxy =>
    if p.kind != .http then throw timedOut
    see (.connect target target (authorization u))
    if p.hangUp then throw (.of .unexpectedEnd)
    match readAnswer p.response with
    | .malformed f => throw f
    | .unfinished => throw timedOut
    | .status code status =>
      if code != 200 then throw (.plain ((status.splitOn " ").drop 1 |> " ".intercalate))
      if tunnels p.response then return (addr, linkTo (← dial s target))
      return (addr, .silent)

/-- The words of SOCKS5 reply codes; the empty word is success. -/
def socksReplies : List String :=
  ["", "general failure", "connection not allowed by ruleset", "network unreachable",
   "host unreachable", "connection refused", "TTL expired", "command not supported",
   "address type not supported"]

/-- The SOCKS5 address type of a host, 1 for IPv4 (mapped IPv6 included), 4 for IPv6 and 3 for
a name, with the host as the proxy reads it back: an address in its usual form. -/
def socksHost (host : String) : Nat × String :=
  match Ip.parse host with
  | some ip => ((if (Ip.toV4 ip).isSome then 1 else 4), Ip.text ip)
  | none => (3, host)

/-- Reaches `target` through a SOCKS5 proxy. Answers the address dialled and the link. -/
def socksTunnel (s : DialScript) (p : ProxyScript) (u : Url) (target : String) :
    Dialing (String × Link) := do
  let addr := text u.host
  let (user, pass) := (text u.username, text u.password)
  match ← dial s addr with
  | none => throw (refused addr)
  | some .server =>
    throw (.plain ("proxy: failed to read greeting from SOCKS5 proxy at " ++ addr ++ ": i/o timeout"))
  | some .proxy =>
    if p.kind != .socks5 then
      throw (.plain ("proxy: failed to read greeting from SOCKS5 proxy at " ++ addr ++ ": i/o timeout"))
    let (host, portText) ← match Listen.splitHostPort target with
      | .ok hp => pure hp
      | .error why => throw (.plain ("address " ++ target ++ ": " ++ why))
    if portText.isEmpty || !portText.all Char.isDigit || Ip.decimal portText.toList > 9223372036854775807 then
      throw (.plain ("proxy: failed to parse port number: " ++ portText))
    let port := Ip.decimal portText.toList
    if port < 1 || port > 65535 then throw (.plain ("proxy: port number out of range: " ++ portText))
    let offersPassword := !user.isEmpty && user.utf8ByteSize < 256 && pass.utf8ByteSize < 256
    let methods : Bytes := if offersPassword then [0, 2] else [0]
    see (.socks methods none none)
    let proxyAt := "proxy: SOCKS5 proxy at " ++ addr
    if p.method == 255 then throw (.plain (proxyAt ++ " requires authentication"))
    let credentials := if p.method == 2 then some (user, pass) else none
    see (.socks methods credentials none)
    if p.method == 2 && p.authStatus != 0 then throw (.plain (proxyAt ++ " rejected username/password"))
    let (kind, hostShown) := socksHost host
    if kind == 3 && host.utf8ByteSize > 255 then
      throw (.plain ("proxy: destination host name too long: " ++ host))
    let shown := Ip.joinHostPort hostShown (toString port)
    see (.socks methods credentials (some (kind, shown)))
    let failure := socksReplies.getD p.reply "unknown error"
    if !failure.isEmpty then throw (.plain (proxyAt ++ " failed to connect: " ++ failure))
    return (addr, linkTo (← dial s shown))

/-! ## TLS and the upgrade -/

/-- Why the server's certificate does not fit a server name, if it does not: it names only
`oracle.test`, and no IP address. -/
def nameProblem (name : String) : Option String :=
  let cs := name.toList
  let candidate := if cs.length ≥ 3 && cs.head? == some '[' && cs.getLast? == some ']' then
      String.ofList (cs.drop 1).dropLast else name
  if (Ip.parse candidate).isSome then
    some ("x509: cannot validate certificate for " ++ candidate ++ " because it doesn't contain any IP SANs")
  else
    let lower := String.map (fun c => if 'A' ≤ c && c ≤ 'Z' then c.toLower else c) name
    if lower == "oracle.test" || lower == "oracle.test." then none
    else some ("x509: certificate is valid for oracle.test, not " ++ name)

/-- Runs TLS over the link. The server's certificate is only accepted unverified. -/
def secureLink (s : DialScript) (serverName : String) (link : Link) : Dialing Unit := do
  if serverName.isEmpty && !s.tls.insecureSkipVerify then
    throw (.plain "tls: either ServerName or InsecureSkipVerify must be specified in the tls.Config")
  match link with
  | .closed => throw closedPipe
  | .silent => throw timedOut
  | .server =>
    if !s.secure then throw (.plain "tls: first record does not look like a TLS handshake")
    if s.tls.insecureSkipVerify then return
    let why := (nameProblem serverName).getD "x509: certificate signed by unknown authority"
    throw (.plain ("tls: failed to verify certificate: " ++ why))

/-- Sends the upgrade request over the link and reads the server's answer. -/
def upgrade (s : DialScript) (tlsOn : Bool) (link : Link) (host : String)
    (headers : List (String × String)) : Dialing Unit := do
  match link with
  | .closed => throw closedPipe
  | .silent => throw timedOut
  | .server =>
    if s.secure && !tlsOn then throw badHandshake
    let sent := (headers.filter fun (k, _) => !k.isEmpty && k.all tokenChar).map
      fun (k, v) => (k, wireValue v)
    if !sent.all (acceptableValue ·.2) then throw badHandshake
    modify fun t => { t with headersSeen := sent.filter (·.1.startsWith "X-") }
    if s.reject then throw badHandshake
    if !originAllowed (sent.lookup "Origin") host then throw badHandshake

/-- The whole handshake. Answers the address the client dialled first. -/
def handshake (s : DialScript) : Dialing String := do
  let u ← match Url.parse s.target with
    | .ok u => pure u
    | .error e => throw (.plain e)
  let tlsOn ← if u.scheme == "ws" then pure false
    else if u.scheme == "wss" then pure true
    else throw malformedUrl
  if u.user.isSome then throw malformedUrl
  let (hostHeader, headers) ← match requestHeaders s.header with
    | .ok r => pure r
    | .error f => throw f
  let host := text u.host
  let (target, hostNoPort) := hostPortNoPort host tlsOn
  let (first, link) ← match s.proxy with
    | none => do
      match ← dial s target with
      | none => throw (refused target)
      | some peer => pure (target, if peer == .server then Link.server else .silent)
    | some p => do
      let pu ← match Url.parse p.url with
        | .ok pu => pure pu
        | .error e => throw (.plain ("invalid proxy URL: " ++ e))
      if pu.scheme == "http" then httpTunnel s p pu target
      else if pu.scheme == "socks5" then socksTunnel s p pu target
      else throw (.plain ("proxy: unknown scheme: " ++ pu.scheme))
  if tlsOn then
    secureLink s (if s.tls.serverName.isEmpty then hostNoPort else s.tls.serverName) link
  upgrade s tlsOn link (hostHeader.getD host) headers
  return first

/-- Runs the handshake: its result and its trail. -/
def DialScript.run (s : DialScript) : Except Failure String × Trail :=
  (handshake s).run.run {}

end WebSocket

end Mqtt
