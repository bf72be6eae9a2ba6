import Mqtt.Wire.Bytes
import Mqtt.Text.Quote
/-! # URLs

URLs split into scheme, user information, host, path, query and fragment, following RFC 3986
with these rules for what is accepted:

* no control byte anywhere;
* a scheme is a letter followed by letters, digits, `+`, `-` or `.`, ended by `:`;
  it is compared in lowercase;
* after a scheme, a part that does not start with `/` is opaque and has no host;
* an authority follows `//`; the user information ends at its last `@`;
* a host is either bracketed, `[...]` with an optional `:port`, or ends at an optional `:port`
  of digits only; percent escapes in a host may encode only bytes from `0x80` up (or `%25`), and
  only letters, digits and ``!$&'()*+,;=:[]<>"-_.~`` may stand in it unescaped;
* the path and the fragment are percent-decoded.

A failure is reported as `parse "<url>": <reason>`.
-/

namespace Mqtt

/-- A parsed URL; the host, path and user information are decoded bytes. -/
structure Url where
  scheme : String := ""
  opaque_ : Bytes := []
  user : Option (Bytes × Option Bytes) := none
  host : Bytes := []
  path : Bytes := []
  rawQuery : Bytes := []
  fragment : Bytes := []
  deriving DecidableEq, Repr, Inhabited

namespace Url

/-- Where a piece of a URL stands, which decides the bytes it may hold unescaped. -/
inductive Part where
  | host
  | zone
  | path
  | userinfo
  | fragment
  deriving DecidableEq, Repr

/-- The byte of a character. -/
def b (c : Char) : UInt8 := c.toNat.toUInt8

/-- ASCII letters and digits. -/
def isAlnum (c : UInt8) : Bool :=
  (b 'a' ≤ c && c ≤ b 'z') || (b 'A' ≤ c && c ≤ b 'Z') || (b '0' ≤ c && c ≤ b '9')

/-- Whether a byte must be percent-escaped in a part. -/
def mustEscape (c : UInt8) (p : Part) : Bool :=
  if isAlnum c then false
  else if (p == .host || p == .zone) && "!$&'()*+,;=:[]<>\"".toList.any (b · == c) then false
  else if "-_.~".toList.any (b · == c) then false
  else if "$&+,/:;=?@".toList.any (b · == c) then
    match p with
    | .path => c == b '?'
    | .userinfo => c == b '@' || c == b '/' || c == b '?' || c == b ':'
    | .fragment => false
    | _ => true
  else if p == .fragment && "!()*".toList.any (b · == c) then false
  else true

/-- Whether a byte is a hexadecimal digit. -/
def isHex (c : UInt8) : Bool :=
  (b '0' ≤ c && c ≤ b '9') || (b 'a' ≤ c && c ≤ b 'f') || (b 'A' ≤ c && c ≤ b 'F')

/-- The value of a hexadecimal digit. -/
def hexVal (c : UInt8) : UInt8 :=
  if c ≤ b '9' then c - b '0' else if c ≤ b 'F' then c - b 'A' + 10 else c - b 'a' + 10

/-- Text of bytes, for messages. -/
def quoted (s : Bytes) : String := Text.quoteBytes s

/-- Checks the escapes and bytes of a part. -/
def checkPart (p : Part) : Bytes → Except String Unit
  | [] => .ok ()
  | c :: rest =>
    if c == b '%' then
      match rest with
      | h :: l :: more =>
        if !(isHex h && isHex l) then .error ("invalid URL escape " ++ quoted ((c :: rest).take 3))
        else
          let v := (hexVal h <<< 4) ||| hexVal l
          let pct25 := h == b '2' && l == b '5'
          if p == .host && hexVal h < 8 && !pct25 then
            .error ("invalid URL escape " ++ quoted [c, h, l])
          else if p == .zone && !pct25 && v != b ' ' && mustEscape v .host then
            .error ("invalid URL escape " ++ quoted [c, h, l])
          else checkPart p more
      | _ => .error ("invalid URL escape " ++ quoted ((c :: rest).take 3))
    else if (p == .host || p == .zone) && c < 0x80 && mustEscape c p then
      .error ("invalid character " ++ quoted [c] ++ " in host name")
    else checkPart p rest

/-- Replaces every escape `%HH` by its byte. -/
def decodeEscapes : Bytes → Bytes
  | [] => []
  | c :: h :: l :: rest =>
    if c == b '%' && isHex h && isHex l then ((hexVal h <<< 4) ||| hexVal l) :: decodeEscapes rest
    else c :: decodeEscapes (h :: l :: rest)
  | c :: rest => c :: decodeEscapes rest

/-- Checks and decodes a part. -/
def unescape (p : Part) (s : Bytes) : Except String Bytes := do
  checkPart p s
  pure (decodeEscapes s)

/-- The index of the last occurrence of a byte. -/
def lastIndex (s : Bytes) (c : UInt8) : Option Nat :=
  (s.zipIdx.filter (·.1 == c)).getLast?.map (·.2)

/-- The index of the first occurrence of a byte. -/
def firstIndex (s : Bytes) (c : UInt8) : Option Nat := s.idxOf? c

/-- A port part is empty, or `:` followed by digits. -/
def validOptionalPort : Bytes → Bool
  | [] => true
  | c :: ds => c == b ':' && ds.all fun d => b '0' ≤ d && d ≤ b '9'

/-- Whether bytes occur inside others. -/
def infixOf (pat s : Bytes) : Option Nat :=
  (List.range (s.length + 1)).find? fun i => (s.drop i).take pat.length == pat

/-- Parses and decodes a host with its port. -/
def parseHost (h : Bytes) : Except String Bytes := do
  if h.head? == some (b '[') then
    let some i := lastIndex h (b ']') | throw "missing ']' in host"
    let colonPort := h.drop (i + 1)
    if !validOptionalPort colonPort then
      throw ("invalid port " ++ quoted colonPort ++ " after host")
    match infixOf [b '%', b '2', b '5'] (h.take i) with
    | some z =>
      let h1 ← unescape .host (h.take z)
      let h2 ← unescape .zone ((h.take i).drop z)
      let h3 ← unescape .host (h.drop i)
      return h1 ++ h2 ++ h3
    | none => unescape .host h
  else
    if let some i := lastIndex h (b ':') then
      let colonPort := h.drop i
      if !validOptionalPort colonPort then
        throw ("invalid port " ++ quoted colonPort ++ " after host")
    unescape .host h

/-- Whether user information holds only the characters it may. -/
def validUserinfo (s : Bytes) : Bool :=
  s.all fun c => isAlnum c || "-._:~!$&'()*+,;=%@".toList.any (b · == c)

/-- Splits an authority into user information and host. -/
def parseAuthority (a : Bytes) : Except String (Option (Bytes × Option Bytes) × Bytes) := do
  match lastIndex a (b '@') with
  | none => return (none, ← parseHost a)
  | some i =>
    let host ← parseHost (a.drop (i + 1))
    let info := a.take i
    if !validUserinfo info then throw "net/url: invalid userinfo"
    match firstIndex info (b ':') with
    | none => return (some (← unescape .userinfo info, none), host)
    | some j =>
      let u ← unescape .userinfo (info.take j)
      let p ← unescape .userinfo (info.drop (j + 1))
      return (some (u, some p), host)

/-- Splits off a scheme: letters first, then letters, digits, `+`, `-`, `.`, up to `:`. -/
def splitScheme (s : Bytes) : Except String (Bytes × Bytes) :=
  let rec go (acc : Bytes) : Bytes → Except String (Bytes × Bytes)
    | [] => .ok ([], s)
    | c :: rest =>
      if (b 'a' ≤ c && c ≤ b 'z') || (b 'A' ≤ c && c ≤ b 'Z') then go (acc ++ [c]) rest
      else if (b '0' ≤ c && c ≤ b '9') || c == b '+' || c == b '-' || c == b '.' then
        if acc.isEmpty then .ok ([], s) else go (acc ++ [c]) rest
      else if c == b ':' then
        if acc.isEmpty then .error "missing protocol scheme" else .ok (acc, rest)
      else .ok ([], s)
  go [] s

/-- ASCII lowercase. -/
def lower (s : Bytes) : Bytes := s.map fun c => if b 'A' ≤ c && c ≤ b 'Z' then c + 32 else c

/-- Parses a URL without its fragment. -/
def parseBody (s : Bytes) : Except String Url := do
  if s.any (fun c => c < 0x20 || c == 0x7F) then throw "net/url: invalid control character in URL"
  if s == [b '*'] then return { path := s }
  let (sch, rest) ← splitScheme s
  let scheme := String.fromUTF8! (ByteArray.mk (lower sch).toArray)
  let (rest, query) :=
    if rest.getLast? == some (b '?') && rest.count (b '?') == 1 then (rest.dropLast, [])
    else
      match firstIndex rest (b '?') with
      | some i => (rest.take i, rest.drop (i + 1))
      | none => (rest, [])
  if rest.head? != some (b '/') then
    if !scheme.isEmpty then return { scheme, opaque_ := rest, rawQuery := query }
    let seg := (rest.splitOn (b '/')).headD []
    if seg.contains (b ':') then throw "first path segment in URL cannot contain colon"
  let (user, host, rest) ←
    if rest.take 2 == [b '/', b '/'] && (!scheme.isEmpty || rest.take 3 != [b '/', b '/', b '/']) then
      let auth := rest.drop 2
      let (a, r) := match firstIndex auth (b '/') with
        | some i => (auth.take i, auth.drop i)
        | none => (auth, [])
      let (u, h) ← parseAuthority a
      pure (u, h, r)
    else pure (none, [], rest)
  return { scheme, user, host, path := ← unescape .path rest, rawQuery := query }

/-- Parses a URL. -/
def parse (raw : String) : Except String Url :=
  let s := Bytes.ofString raw
  let (body, frag) := match firstIndex s (b '#') with
    | some i => (s.take i, some (s.drop (i + 1)))
    | none => (s, none)
  match parseBody body with
  | .error e => .error ("parse " ++ quoted body ++ ": " ++ e)
  | .ok u =>
    match frag with
    | none => .ok u
    | some f =>
      match unescape .fragment f with
      | .ok fd => .ok { u with fragment := fd }
      | .error e => .error ("parse " ++ quoted s ++ ": " ++ e)

/-- Splits `host:port` at a last `:` followed by digits only, and removes brackets. -/
def splitHostPort (hp : Bytes) : Bytes × Bytes :=
  let (h, p) := match lastIndex hp (b ':') with
    | some i => if validOptionalPort (hp.drop i) then (hp.take i, hp.drop (i + 1)) else (hp, [])
    | none => (hp, [])
  if h.head? == some (b '[') && h.getLast? == some (b ']') then ((h.drop 1).dropLast, p) else (h, p)

/-- The host name without port and brackets. -/
def hostname (u : Url) : Bytes := (splitHostPort u.host).1

/-- The port, or nothing. -/
def port (u : Url) : Bytes := (splitHostPort u.host).2

/-- The user name. -/
def username (u : Url) : Bytes := (u.user.map (·.1)).getD []

/-- The password. -/
def password (u : Url) : Bytes := ((u.user.bind (·.2))).getD []

end Url

/-- `host:port`, with the host bracketed when it holds a `:`. -/
def joinHostPort (host port : Bytes) : Bytes :=
  if host.contains (Url.b ':') then [Url.b '['] ++ host ++ [Url.b ']', Url.b ':'] ++ port
  else host ++ [Url.b ':'] ++ port

end Mqtt
