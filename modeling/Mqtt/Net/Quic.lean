/-! # QUIC security settings

MQTT over QUIC needs TLS 1.3 and negotiates the application protocol `mqtt`. A QUIC dialer takes
the TLS settings it is given when they already ask for both; otherwise it uses a copy with the
minimum version raised to TLS 1.3 and, when no application protocol is listed, `mqtt` listed.
Without settings it uses exactly these two. Its connections send keep-alives every 15 s.
-/

namespace Mqtt

/-- The TLS settings that matter to QUIC. -/
structure QuicTls where
  /-- The lowest TLS version accepted, as its protocol number (TLS 1.3 is 772). -/
  minVersion : Nat := 0
  serverName : String := ""
  /-- The application protocols offered, in order of preference. -/
  nextProtos : List String := []
  deriving DecidableEq, Repr, Inhabited

namespace QuicTls

/-- The protocol number of TLS 1.3. -/
def tls13 : Nat := 772

/-- The application protocol of MQTT over QUIC. -/
def alpn : String := "mqtt"

/-- The period of QUIC keep-alives, in milliseconds. -/
def keepAliveMs : Nat := 15000

/-- The settings a QUIC dialer uses for the given ones, and whether they are the given ones
unchanged. -/
def enforce : Option QuicTls → QuicTls × Bool
  | none => ({ minVersion := tls13, nextProtos := [alpn] }, false)
  | some c =>
    if tls13 ≤ c.minVersion && !c.nextProtos.isEmpty then (c, true)
    else ({ c with minVersion := max c.minVersion tls13,
                   nextProtos := if c.nextProtos.isEmpty then [alpn] else c.nextProtos }, false)

end QuicTls

end Mqtt
