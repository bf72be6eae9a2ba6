import Mqtt.Text.Quote
import Mqtt.Net.Ip
/-! # Listening addresses

A TCP listening address is `host:port`, the host in brackets when it holds colons. Splitting it
fails without a colon, with colons in an unbracketed host, or with brackets out of place. The
port is a number from 0 to 65535, possibly signed, or the name of a well-known service; empty
means any port. An empty host, a wildcard address, a loopback address and any host name can be
listened on here; another IP address cannot be bound.
-/

namespace Mqtt

namespace Listen

/-- Splits `host:port`, or says why it cannot. -/
def splitHostPort (addr : String) : Except String (String × String) := do
  let cs := addr.toList
  let some i := (List.range cs.length).reverse.find? (cs[·]? == some ':') |
    throw "missing port in address"
  let (host, j, k) ← if cs.head? == some '[' then do
      let some e := cs.findIdx? (· == ']') | throw "missing ']' in address"
      if e + 1 == cs.length then throw "missing port in address"
      if e + 1 != i then
        if cs[e + 1]? == some ':' then throw "too many colons in address"
        else throw "missing port in address"
      pure ((cs.take e).drop 1, 1, e + 1)
    else do
      let h := cs.take i
      if h.contains ':' then throw "too many colons in address"
      pure (h, 0, 0)
  if (cs.drop j).contains '[' then throw "unexpected '[' in address"
  if (cs.drop k).contains ']' then throw "unexpected ']' in address"
  return (String.ofList host, String.ofList (cs.drop (i + 1)))

/-- The ports of well-known services by name. -/
def servicePorts : List (String × Nat) :=
  [("ftp", 21), ("ftps", 990), ("gopher", 70), ("http", 80), ("https", 443), ("imap2", 143),
   ("imap3", 220), ("imaps", 993), ("pop3", 110), ("pop3s", 995), ("smtp", 25),
   ("submissions", 465), ("ssh", 22), ("telnet", 23)]

/-- The port a port text names, or why it names none. A number too large to hold counts as
out of range. -/
def port (text : String) : Except String Int :=
  if text.isEmpty then .ok 0
  else
    let (neg, digits) := match text.toList with
      | '-' :: r => (true, r)
      | '+' :: r => (false, r)
      | r => (false, r)
    if digits.all Char.isDigit then
      let n : Nat := digits.foldl (fun (a : Nat) c => min (a * 10 + (c.toNat - 48)) 4294967295) 0
      let v : Int := if neg then -(n : Int) else n
      if v < 0 || v > 65535 then .error ("address " ++ text ++ ": invalid port") else .ok v
    else match servicePorts.lookup text.toLower with
      | some p => .ok p
      | none => .error ("lookup tcp/" ++ text ++ ": unknown port")

/-- Whether an address can be bound here: the wildcard and loopback addresses, an IPv4 address
mapped into the IPv6 space counting as the IPv4 address. -/
def bindable (ip : List UInt8) : Bool :=
  match Ip.toV4 ip with
  | some v4 => v4.head? == some 127 || v4.all (· == 0)
  | none => ip.all (· == 0) || ip == List.replicate 15 0 ++ [1]

/-- Why listening on an address fails, if it does: a host that is an IP address which cannot be
bound here is named in its usual form. -/
def problem (addr : String) : Option String :=
  match splitHostPort addr with
  | .error why => some ("listen tcp: address " ++ addr ++ ": " ++ why)
  | .ok (host, portText) =>
    match port portText with
    | .error why => some ("listen tcp: " ++ why)
    | .ok p =>
      match Ip.parse host with
      | some ip =>
        if bindable ip then none
        else some s!"listen tcp {Ip.joinHostPort (Ip.text ip) (toString p)}: bind: cannot assign requested address"
      | none => none

end Listen

end Mqtt
