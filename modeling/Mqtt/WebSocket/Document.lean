import Mqtt.WebSocket.Session
import Mqtt.Net.Host
import Mqtt.Doc.Basic
/-! # WebSocket runs as documents

A run dials, and when the handshake succeeds plays the session. Its report gives the dial's
failure or the session: the bytes each write sent, what each read returned, the two closes, a
write after them, and what the server received. Both kinds of report list the addresses
dialled, the `X-` headers the server saw and, when there is a proxy, what the proxy saw.

A proxy URL that does not parse is refused before anything else; a dialer made without
settings and without a proxy has no dialer to run with. Off the memory network every dial
fails, because the network is down.
-/

namespace Mqtt

namespace WebSocket

/-- What a proxy saw, as a document. -/
def ProxySeen.toDoc : ProxySeen → Doc
  | .nothing => .obj []
  | .connect uri host auth =>
    .obj [("method", .str "CONNECT"), ("request_uri", .str uri), ("host", .str host),
          ("proxy_authorization", .str auth)]
  | .socks methods credentials request =>
    .obj ([("version", .int 5), ("methods", .ofBytes methods)] ++
      (match credentials with
        | some (u, p) => [("username", .str u), ("password", .str p)]
        | none => []) ++
      (match request with
        | some (kind, target) => [("command", .int 1), ("address_type", .int kind), ("target", .str target)]
        | none => []))

/-- A read's result as a document: the bytes, or the failure with its close code. -/
def readDoc : Except (Failure × Option Nat) Bytes → Doc
  | .ok b => .obj [("n", .int b.length), ("hex", .ofBytes b)]
  | .error (f, code) =>
    .obj (Doc.failureFields f ++ [("n", .int 0)] ++
      (match code with
        | some c => [("close_code", .int c)]
        | none => []))

/-- What the server received, as a document. -/
def Received.toDoc : Received → Doc
  | .message d => .obj [("type", .str "binary"), ("hex", .ofBytes d)]
  | .closed c => .obj [("type", .str "end"), ("close_code", .int c)]

/-- The report of a run on the memory network. `bare` says the dialer was made without
settings. -/
def report (d : DialScript) (s : SessionScript) (bare : Bool) : Doc :=
  let proxyProblem := d.proxy.bind fun p =>
    match Url.parse p.url with
    | .error e => some e
    | .ok _ => none
  match proxyProblem with
  | some e => .obj [("set_proxy", .failure (.plain ("invalid proxy URL: " ++ e)))]
  | none =>
    if bare && d.proxy.isNone then .obj [("dialer", .null)]
    else
      let (result, trail) := d.run
      let common : Doc.Fields :=
        [("dialed", .list trail.dialed Doc.str),
         ("headers_seen", .obj (trail.headersSeen.map fun (k, v) => (k, .str v)))] ++
        (if d.proxy.isSome then [("proxy_saw", trail.proxySeen.toDoc)] else [])
      match result with
      | .error f => .obj ([("dial", .failure f), ("subprotocols", .null)] ++ common)
      | .ok first =>
        let o := s.run
        .obj ([("dial", .null), ("subprotocols", .list ["mqtt"] Doc.str),
               ("local_addr", .str "client.test:50000"), ("remote_addr", .str first),
               ("writes", .list o.writes fun w => match w with
                 | .ok n => .int n
                 | .error f => .failure f),
               ("reads", .list o.reads readDoc),
               ("close", .null),
               ("close_again", .failure (.plain "use of closed network connection")),
               ("write_after_close", .failure o.afterClose),
               ("server_received", .list o.received Received.toDoc)] ++ common)

/-- The report of a run off the memory network, where the server listens on a loopback port
and `path` follows its address in the URL: a URL that does not parse fails, and otherwise the
dial fails because the network is down. -/
def unreachableReport (path : String) : Doc :=
  let failure := match Url.parse ("ws://" ++ loopbackHost ++ ":40000" ++ path) with
    | .error e => Failure.plain (hideLoopbackPorts e)
    | .ok _ => tcpUnreachable loopbackShown
  .obj [("dial", .failure failure), ("subprotocols", .null)]

end WebSocket

end Mqtt
