import Mqtt.Net.Host
import Mqtt.Net.Quic
import Mqtt.Doc.Basic
/-! # Transport outcomes as documents

Dials through proxies and to echo servers, and the settings of a QUIC dialer, described as
documents.
-/

namespace Mqtt

/-- The report of a tunnel through a proxy that failed: the failure, and nothing the proxy saw. -/
def tunnelReport (f : Failure) : Doc :=
  .obj [("dial", .failure f), ("proxy_saw", .obj [])]

/-- The report of a dial to an echo server: the failure, or the bytes read back. -/
def echoReport (r : Except Failure Unit) (echo : Bytes) : Doc :=
  match r with
  | .error f => .obj [("dial", .failure f)]
  | .ok () => .obj [("dial", .null), ("echo", .ofBytes echo)]

/-- The settings of a QUIC dialer as a document. -/
def QuicTls.report (given : Option QuicTls) : Doc :=
  let (c, same) := QuicTls.enforce given
  .obj [("min_version", c.minVersion), ("next_protos", .list c.nextProtos Doc.str),
        ("server_name", .str c.serverName), ("same_config", same),
        ("keepalive_ms", QuicTls.keepAliveMs)]

end Mqtt
