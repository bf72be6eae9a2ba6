import Mqtt.Net.Endpoint
/-! # Proxies

A client may reach its broker through an HTTP CONNECT proxy (`http`, `https`) or a SOCKS5 proxy
(`socks5`, `socks5h`), named by a URL whose user information gives the credentials unless
others are set. The proxy may also come from the environment: `NO_PROXY` lists hosts that are
reached directly, `HTTPS_PROXY` serves the TLS schemes, and `HTTP_PROXY` all the others and
the TLS schemes when `HTTPS_PROXY` is not set; each variable may also be written in lowercase,
the uppercase one taking precedence.
-/

namespace Mqtt

/-- Proxy settings: the proxy URL and the credentials to give it. -/
structure ProxySettings where
  url : Url
  username : Bytes
  password : Bytes
  deriving DecidableEq, Repr, Inhabited

namespace ProxySettings

/-- Reads a proxy URL with optional credentials, which the URL's own replace only when no user
name is given. -/
def parse (raw : String) (username password : Bytes) : Except Failure ProxySettings := do
  let u ← match Url.parse raw with
    | .ok u => pure u
    | .error e => throw (.detail .invalidUri ("invalid proxy URL: " ++ e))
  if !(["http", "https", "socks5", "socks5h"].contains u.scheme) then
    throw (.detail .unsupportedScheme ("proxy scheme " ++ Text.quote u.scheme))
  if username.isEmpty && u.user.isSome then
    return ⟨u, u.username, u.password⟩
  return ⟨u, username, password⟩

/-- The proxy's address, with `defaultPort` when its URL names no port. -/
def address (p : ProxySettings) (defaultPort : Bytes) : Bytes :=
  if p.url.port.isEmpty then joinHostPort p.url.hostname defaultPort else p.url.host

/-- Whether the proxy speaks HTTP CONNECT rather than SOCKS5. -/
def isHttp (p : ProxySettings) : Bool := p.url.scheme == "http" || p.url.scheme == "https"

end ProxySettings

/-- Environment variables, as name and value. -/
abbrev Environment := List (String × String)

/-- The first of some variables that is set to something. -/
def Environment.first (env : Environment) (names : List String) : String :=
  (names.filterMap fun n => (env.lookup n).filter (!·.isEmpty)).headD ""

/-- Trims ASCII and Unicode space from both ends. -/
def trimmed (s : String) : String := LogLevel.trimSpace s

/-- Whether a host is to be reached without proxy under a `NO_PROXY` list: `*` matches every
host, `.domain` the domain and its subdomains, and a plain name the host itself and its
subdomains. -/
def noProxyMatches (host noProxy : String) : Bool :=
  (noProxy.splitOn ",").any fun raw =>
    let p := trimmed raw
    if p.isEmpty then false
    else if p == "*" then true
    else if p.startsWith "." then host.endsWith p || host == p.drop 1
    else host == p || host.endsWith ("." ++ p)

/-- The proxy the environment gives for a broker URI, or nothing. -/
def proxyFromEnvironment (env : Environment) (uri : String) : String :=
  match Url.parse uri with
  | .error _ => ""
  | .ok u =>
    let host := (Bytes.toString? u.hostname).getD ""
    if noProxyMatches host (env.first ["NO_PROXY", "no_proxy"]) then ""
    else
      let tls := if u.scheme == "ssl" || u.scheme == "wss" then env.first ["HTTPS_PROXY", "https_proxy"] else ""
      if tls.isEmpty then env.first ["HTTP_PROXY", "http_proxy"] else tls

end Mqtt
