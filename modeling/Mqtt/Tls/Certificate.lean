import Mqtt.Tls.Der
import Mqtt.Tls.Curve
import Mqtt.Tls.Pem
/-! # Certificates and key pairs

An X.509 certificate is read far enough to check its layout and to take its public key: the
signed part (version, serial number, signature algorithm, issuer, validity, subject, public key,
optional unique identifiers and extensions), then the signature algorithm again, which must be
the same, and the signature. Each part that does not read gives its own problem.

A private key is read as PKCS #1 (RSA), PKCS #8 (RSA, EC or Ed25519) or SEC 1 (EC). A key pair
is a PEM file with certificates and one with a private key: the first certificate's public key
must be of the key's type and equal to the one the key gives. An EC key gives its public point by
multiplication on its curve; an Ed25519 key is taken as given.

A pool of trusted roots accepts the certificates of a PEM file that read and have no headers.
-/

namespace Mqtt

/-- A public key, as far as a key pair is checked against it. -/
inductive PublicKey where
  | rsa (modulus : Nat)
  | ecdsa (curve : String) (x y : Nat)
  | ed25519 (key : Bytes)
  /-- A key of a known algorithm that does not sign, such as X25519. -/
  | agreement
  /-- A key of an algorithm the reader does not know. -/
  | unknown
  deriving Repr, Inhabited

/-- A private key, as far as it is compared with a public key. -/
inductive PrivateKey where
  | rsa (modulus : Nat)
  | ecdsa (curve : String) (x y : Nat)
  | ed25519
  | agreement
  deriving Repr, Inhabited

namespace Certificate

open Der

/-- The object identifier of RSA keys, 1.2.840.113549.1.1.1. -/
def rsaOid : Bytes := [0x2A, 0x86, 0x48, 0x86, 0xF7, 0x0D, 0x01, 0x01, 0x01]

/-- The object identifier of EC public keys, 1.2.840.10045.2.1. -/
def ecOid : Bytes := [0x2A, 0x86, 0x48, 0xCE, 0x3D, 0x02, 0x01]

/-- The object identifier of Ed25519, 1.3.101.112. -/
def ed25519Oid : Bytes := [0x2B, 0x65, 0x70]

/-- The object identifier of X25519, 1.3.101.110. -/
def x25519Oid : Bytes := [0x2B, 0x65, 0x6E]

/-- Fails with a problem unless a reading succeeded. -/
def need {α : Type} (r : Option α) (problem : String) : Except String α :=
  match r with
  | some a => .ok a
  | none => .error problem

/-- An algorithm identifier: its object identifier and the encoding of its parameters, if any. -/
def algorithm (content : Bytes) : Except String (Bytes × Option Bytes) := do
  let (oid, rest) ← need (oid? content) "x509: malformed OID"
  if rest.isEmpty then return (oid, none)
  let (_, _, after) ← need (read? rest) "x509: malformed parameters"
  return (oid, some (rest.take (rest.length - after.length)))

/-- Whether a name reads: a sequence of sets of attribute pairs. -/
def nameReads (content : Bytes) : Bool :=
  let rec sets : Nat → Bytes → Bool
    | 0, _ => true
    | fuel + 1, input =>
      if input.isEmpty then true
      else match expect? setTag input with
        | none => false
        | some (set, rest) => pairs set.length set && sets fuel rest
  sets content.length content
where
  pairs : Nat → Bytes → Bool
    | 0, _ => true
    | fuel + 1, input =>
      if input.isEmpty then true
      else match expect? sequenceTag input with
        | none => false
        | some (pair, rest) =>
          match oid? pair with
          | none => false
          | some (_, value) => (read? value).isSome && pairs fuel rest

/-- Whether a time of a validity period reads: UTC time `YYMMDDHHMMSSZ` or generalized time
`YYYYMMDDHHMMSSZ`. -/
def readTime (input : Bytes) : Except String Bytes :=
  match read? input with
  | some (0x17, c, rest) =>
    if c.length == 13 && c.getLast? == some 0x5A && (c.take 12).all (fun b => 0x30 ≤ b && b ≤ 0x39)
    then .ok rest else .error "x509: malformed UTCTime"
  | some (0x18, c, rest) =>
    if c.length == 15 && c.getLast? == some 0x5A && (c.take 14).all (fun b => 0x30 ≤ b && b ≤ 0x39)
    then .ok rest else .error "x509: malformed GeneralizedTime"
  | _ => .error "x509: unsupported time format"

/-- The public key of a subject public key info. -/
def publicKey (oid : Bytes) (params : Option Bytes) (key : Bytes) : Except String PublicKey :=
  if oid == rsaOid then do
    if params != some [0x05, 0x00] then throw "x509: RSA key missing NULL parameters"
    let (body, rest) ← need (expect? sequenceTag key) "x509: invalid RSA public key"
    if !rest.isEmpty then throw "x509: invalid RSA public key"
    let (n, body) ← need (integer? body) "x509: invalid RSA modulus"
    let (e, _) ← need (integer? body) "x509: invalid RSA public exponent"
    if n ≤ 0 then throw "x509: RSA modulus is not a positive number"
    if e ≤ 0 then throw "x509: RSA public exponent is not a positive number"
    return .rsa n.toNat
  else if oid == ecOid then do
    let some p := params | throw "x509: invalid ECDSA parameters"
    let (curveOid, _) ← need (Der.oid? p) "x509: invalid ECDSA parameters"
    let some curve := Curve.ofOid? curveOid | throw "x509: unsupported elliptic curve"
    let some (x, y) := curve.unmarshal key | throw "x509: failed to unmarshal elliptic curve point"
    return .ecdsa curve.name x y
  else if oid == ed25519Oid then do
    if params.isSome then throw "x509: Ed25519 key encoded with illegal parameters"
    if key.length != 32 then throw "x509: wrong Ed25519 public key size"
    return .ed25519 key
  else if oid == x25519Oid then do
    if params.isSome then throw "x509: X25519 key encoded with illegal parameters"
    return .agreement
  else return .unknown

/-- Skips an optional element with a tag, checking that it reads. -/
def skipOptional (tag : UInt8) (input : Bytes) (problem : String) : Except String Bytes :=
  match input.head? with
  | some t => if t == tag then (need (expect? tag input) problem).map Prod.snd else .ok input
  | none => .ok input

/-- Whether the extensions of a certificate read: a sequence of extensions, each an object
identifier, an optional critical flag and an octet string. -/
def extensionsRead (content : Bytes) : Except String Unit := do
  let (list, rest) ← need (expect? sequenceTag content) "x509: malformed extensions"
  if !rest.isEmpty then throw "x509: malformed extensions"
  let mut input := list
  let mut seen : List Bytes := []
  for _ in [0:list.length] do
    if input.isEmpty then break
    let (ext, rest) ← need (expect? sequenceTag input) "x509: malformed extension"
    input := rest
    let (oid, body) ← need (oid? ext) "x509: malformed extension OID field"
    let body := match body with
      | 0x01 :: 0x01 :: _ :: r => r
      | r => r
    let _ ← need (expect? octetStringTag body) "x509: malformed extension value field"
    if seen.contains oid then throw "x509: certificate contains duplicate extensions"
    seen := oid :: seen

/-- The public key of a certificate in DER, or the problem that stops reading it. -/
def parse (der : Bytes) : Except String PublicKey := do
  let (whole, _) ← need (expectWhole? sequenceTag der) "x509: malformed certificate"
  let (input, _) ← need (expect? sequenceTag whole) "x509: malformed certificate"
  let (tbsWhole, afterTbs) ← need (expectWhole? sequenceTag input) "x509: malformed tbs certificate"
  let (tbs, _) ← need (expect? sequenceTag tbsWhole) "x509: malformed tbs certificate"
  let (version, tbs) ← match tbs.head? with
    | some 0xA0 => do
      let (inner, rest) ← need (expect? (contextTag 0) tbs) "x509: malformed version"
      let (v, extra) ← need (integer? inner) "x509: malformed version"
      if !extra.isEmpty then throw "x509: malformed version"
      pure (v, rest)
    | _ => pure (0, tbs)
  if version < 0 then throw "x509: malformed version"
  if version + 1 > 3 then throw "x509: invalid version"
  let (serial, tbs) ← need (integer? tbs) "x509: malformed serial number"
  if serial < 0 then throw "x509: negative serial number"
  let (sigAlg, tbs) ← need (expect? sequenceTag tbs) "x509: malformed signature algorithm identifier"
  let (outerSigAlg, afterAlg) ← need (expect? sequenceTag afterTbs) "x509: malformed algorithm identifier"
  if outerSigAlg != sigAlg then
    throw "x509: inner and outer signature algorithm identifiers don't match"
  let _ ← algorithm sigAlg
  let (issuer, tbs) ← need (expect? sequenceTag tbs) "x509: malformed issuer"
  if !nameReads issuer then throw "x509: invalid RDNSequence"
  let (validity, tbs) ← need (expect? sequenceTag tbs) "x509: malformed validity"
  let rest ← readTime validity
  let _ ← readTime rest
  let (subject, tbs) ← need (expect? sequenceTag tbs) "x509: malformed subject"
  if !nameReads subject then throw "x509: invalid RDNSequence"
  let (spki, tbs) ← need (expect? sequenceTag tbs) "x509: malformed spki"
  let (pkAlg, spkiRest) ← need (expect? sequenceTag spki)
    "x509: malformed public key algorithm identifier"
  let (oid, params) ← algorithm pkAlg
  let (keyBits, _) ← need (bitString? spkiRest) "x509: malformed subjectPublicKey"
  let key ← publicKey oid params keyBits
  let mut tbs := tbs
  if version + 1 > 1 then
    tbs ← skipOptional 0xA1 tbs "x509: malformed issuerUniqueID"
    tbs ← skipOptional 0xA2 tbs "x509: malformed subjectUniqueID"
    if version + 1 == 3 && tbs.head? == some 0xA3 then
      let (exts, _) ← need (expect? (contextTag 3) tbs) "x509: malformed extensions"
      extensionsRead exts
  let _ ← need (bitString? afterAlg) "x509: malformed signature"
  if whole.length != der.length then throw "x509: trailing data"
  return key

/-- Whether a certificate in DER reads. -/
def reads (der : Bytes) : Bool := (parse der).toOption.isSome

/-- The integers of a sequence, as many as read from its start. -/
def leadingIntegers (input : Bytes) : List Int :=
  go input.length input
where
  go : Nat → Bytes → List Int
    | 0, _ => []
    | fuel + 1, i => match integer? i with
      | some (v, rest) => v :: go fuel rest
      | none => []

/-- An RSA private key in PKCS #1: a version up to 1, then the modulus, exponents and primes,
positive. -/
def rsaKey? (der : Bytes) : Option PrivateKey := do
  let (body, rest) ← expect? sequenceTag der
  if !rest.isEmpty then none
  let ints := leadingIntegers body
  match ints with
  | version :: n :: _e :: d :: p :: q :: _ =>
    if version > 1 || n ≤ 0 || d ≤ 0 || p ≤ 0 || q ≤ 0 then none
    else some (.rsa n.toNat)
  | _ => none

/-- An EC private key in SEC 1, on the curve given or else on the one it names. -/
def ecKey? (given : Option Curve) (der : Bytes) : Option PrivateKey := do
  let (body, _) ← expect? sequenceTag der
  let (version, body) ← integer? body
  if version != 1 then none
  let (scalar, body) ← expect? octetStringTag body
  let named : Option Curve := match expect? (contextTag 0) body with
    | some (inner, _) => (Der.oid? inner).bind fun (o, _) => Curve.ofOid? o
    | none => none
  let curve ← given.orElse fun _ => named
  let d := natOfBytes scalar
  if d ≥ curve.n || d == 0 then none
  let size := curve.scalarSize
  if scalar.length > size && (scalar.take (scalar.length - size)).any (· != 0) then none
  let (x, y) ← curve.publicPoint d
  some (.ecdsa curve.name x y)

/-- A private key in PKCS #8. -/
def pkcs8Key? (der : Bytes) : Option PrivateKey := do
  let (body, _) ← expect? sequenceTag der
  let (_, body) ← integer? body
  let (alg, body) ← expect? sequenceTag body
  let (inner, _) ← expect? octetStringTag body
  let (oid, params) ← (algorithm alg).toOption
  if oid == rsaOid then rsaKey? inner
  else if oid == ecOid then
    let curve := params.bind fun p => (Der.oid? p).bind fun (o, _) => Curve.ofOid? o
    if curve.isNone then none else ecKey? curve inner
  else if oid == ed25519Oid then
    if params.isSome then none
    else
      let (seed, _) ← expect? octetStringTag inner
      if seed.length != 32 then none else some .ed25519
  else if oid == x25519Oid then some .agreement
  else none

/-- A private key in any of the formats read. -/
def privateKey (der : Bytes) : Except String PrivateKey :=
  match rsaKey? der with
  | some k => .ok k
  | none => match pkcs8Key? der with
    | some k => .ok k
    | none => match ecKey? none der with
      | some k => .ok k
      | none => .error "tls: failed to parse private key"

/-- A list of names as written between brackets with spaces. -/
def bracketed (names : List String) : String := "[" ++ " ".intercalate names ++ "]"

/-- Whether a block type names a private key. -/
def isKeyType (t : String) : Bool := t == "PRIVATE KEY" || t.endsWith " PRIVATE KEY"

/-- Checks that a certificate file and a key file make a key pair: the certificate blocks, the
first private key block, and their keys agreeing. -/
def keyPair (certText keyText : String) : Except String Unit := do
  let certBlocks := Pem.blocks certText
  let certs := certBlocks.filter (·.type == "CERTIFICATE")
  let skipped := (certBlocks.filter (·.type != "CERTIFICATE")).map (·.type)
  let some first := certs.head? |
    match skipped with
    | [] => throw "tls: failed to find any PEM data in certificate input"
    | [t] =>
      if t.endsWith "PRIVATE KEY" then
        throw "tls: failed to find certificate PEM data in certificate input, but did find a private key; PEM inputs may have been switched"
      else throw s!"tls: failed to find \"CERTIFICATE\" PEM block in certificate input after skipping PEM blocks of the following types: {bracketed skipped}"
    | _ => throw s!"tls: failed to find \"CERTIFICATE\" PEM block in certificate input after skipping PEM blocks of the following types: {bracketed skipped}"
  let keyBlocks := Pem.blocks keyText
  let before := keyBlocks.takeWhile fun b => !isKeyType b.type
  let some keyBlock := keyBlocks.find? fun b => isKeyType b.type |
    match before.map (·.type) with
    | [] => throw "tls: failed to find any PEM data in key input"
    | ["CERTIFICATE"] => throw "tls: found a certificate rather than a key in the PEM for the private key"
    | ts => throw s!"tls: failed to find PEM block with type ending in \"PRIVATE KEY\" in key input after skipping PEM blocks of the following types: {bracketed ts}"
  let pub ← parse first.bytes
  let priv ← privateKey keyBlock.bytes
  match pub, priv with
  | .rsa n, .rsa m => if n != m then throw "tls: private key does not match public key"
  | .rsa _, _ => throw "tls: private key type does not match public key type"
  | .ecdsa c x y, .ecdsa c' x' y' =>
    if c != c' || x != x' || y != y' then throw "tls: private key does not match public key"
  | .ecdsa .., _ => throw "tls: private key type does not match public key type"
  | .ed25519 _, .ed25519 => pure ()
  | .ed25519 _, _ => throw "tls: private key type does not match public key type"
  | _, _ => throw "tls: unknown public key algorithm"

/-- Whether a PEM text holds a certificate a pool of trusted roots accepts. -/
def anyTrusted (text : String) : Bool :=
  (Pem.blocks text).any fun b => b.type == "CERTIFICATE" && b.headers.isEmpty && reads b.bytes

end Certificate

end Mqtt
