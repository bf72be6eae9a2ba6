import Mqtt.Wire.Bytes
/-! # NIST elliptic curves

The curves P-224, P-256, P-384 and P-521 are `y² = x³ - 3x + b` over the integers modulo a prime
`p`, with a base point `G` of prime order `n`. A private key is a number `d` below `n`; its
public key is the point `d·G`, written uncompressed as `0x04`, then `x` and `y` in as many bytes
as `p` needs.

Points are added in Jacobian coordinates `(X, Y, Z)` standing for `(X/Z², Y/Z³)`, so that only
the final conversion divides; `Z = 0` is the point at infinity.
-/

namespace Mqtt

/-- A NIST curve. -/
structure Curve where
  name : String
  /-- The object identifier naming the curve, as its DER content bytes. -/
  oid : Bytes
  p : Nat
  n : Nat
  b : Nat
  gx : Nat
  gy : Nat
  deriving Repr, Inhabited

namespace Curve

/-- P-224. -/
def p224 : Curve where
  name := "P-224"
  oid := [0x2B, 0x81, 0x04, 0x00, 0x21]
  p := 0xffffffffffffffffffffffffffffffff000000000000000000000001
  n := 0xffffffffffffffffffffffffffff16a2e0b8f03e13dd29455c5c2a3d
  b := 0xb4050a850c04b3abf54132565044b0b7d7bfd8ba270b39432355ffb4
  gx := 0xb70e0cbd6bb4bf7f321390b94a03c1d356c21122343280d6115c1d21
  gy := 0xbd376388b5f723fb4c22dfe6cd4375a05a07476444d5819985007e34

/-- P-256. -/
def p256 : Curve where
  name := "P-256"
  oid := [0x2A, 0x86, 0x48, 0xCE, 0x3D, 0x03, 0x01, 0x07]
  p := 0xffffffff00000001000000000000000000000000ffffffffffffffffffffffff
  n := 0xffffffff00000000ffffffffffffffffbce6faada7179e84f3b9cac2fc632551
  b := 0x5ac635d8aa3a93e7b3ebbd55769886bc651d06b0cc53b0f63bce3c3e27d2604b
  gx := 0x6b17d1f2e12c4247f8bce6e563a440f277037d812deb33a0f4a13945d898c296
  gy := 0x4fe342e2fe1a7f9b8ee7eb4a7c0f9e162bce33576b315ececbb6406837bf51f5

/-- P-384. -/
def p384 : Curve where
  name := "P-384"
  oid := [0x2B, 0x81, 0x04, 0x00, 0x22]
  p := 0xfffffffffffffffffffffffffffffffffffffffffffffffffffffffffffffffeffffffff0000000000000000ffffffff
  n := 0xffffffffffffffffffffffffffffffffffffffffffffffffc7634d81f4372ddf581a0db248b0a77aecec196accc52973
  b := 0xb3312fa7e23ee7e4988e056be3f82d19181d9c6efe8141120314088f5013875ac656398d8a2ed19d2a85c8edd3ec2aef
  gx := 0xaa87ca22be8b05378eb1c71ef320ad746e1d3b628ba79b9859f741e082542a385502f25dbf55296c3a545e3872760ab7
  gy := 0x3617de4a96262c6f5d9e98bf9292dc29f8f41dbd289a147ce9da3113b5f0b8c00a60b1ce1d7e819d7a431d7c90ea0e5f

/-- P-521. -/
def p521 : Curve where
  name := "P-521"
  oid := [0x2B, 0x81, 0x04, 0x00, 0x23]
  p := Nat.pow 2 521 - 1
  n := 0x01fffffffffffffffffffffffffffffffffffffffffffffffffffffffffffffffffa51868783bf2f966b7fcc0148f709a5d03bb5c9b8899c47aebb6fb71e91386409
  b := 0x0051953eb9618e1c9a1f929a21a0b68540eea2da725b99b315f3b8b489918ef109e156193951ec7e937b1652c0bd3bb1bf073573df883d2c34f1ef451fd46b503f00
  gx := 0x00c6858e06b70404e9cd9e3ecb662395b4429c648139053fb521f828af606b4d3dbaa14b5e77efe75928fe1dc127a2ffa8de3348b3c1856a429bf97e7e31c2e5bd66
  gy := 0x011839296a789a3bc0045c8a5fb42c7d1bd998f54449579b446817afbd17273e662c97ee72995ef42640c550b9013fad0761353c7086a272c24088be94769fd16650

/-- The curves by their object identifiers. -/
def all : List Curve := [p224, p256, p384, p521]

/-- The curve an object identifier names, if any. -/
def ofOid? (oid : Bytes) : Option Curve := all.find? (·.oid == oid)

/-- The number of bytes of a coordinate. -/
def coordinateSize (c : Curve) : Nat := (c.p.log2 + 8) / 8

/-- The number of bytes of a private key. -/
def scalarSize (c : Curve) : Nat := (c.n.log2 + 8) / 8

/-- `b ^ e` modulo `m`, by squaring. -/
def powMod (b e m : Nat) : Nat :=
  (List.range (e.log2 + 1)).reverse.foldl (fun acc i =>
    let sq := acc * acc % m
    if e.testBit i then sq * b % m else sq) 1

/-- A point in Jacobian coordinates. -/
structure Point where
  x : Nat
  y : Nat
  z : Nat
  deriving Repr, Inhabited

/-- The point at infinity. -/
def infinity : Point := ⟨1, 1, 0⟩

/-- `a - b` modulo the prime of the curve. -/
def sub (c : Curve) (a b : Nat) : Nat := (a % c.p + c.p - b % c.p) % c.p

/-- A point added to itself. -/
def double (c : Curve) (q : Point) : Point :=
  if q.z == 0 || q.y == 0 then infinity
  else
    let p := c.p
    let delta := q.z * q.z % p
    let gamma := q.y * q.y % p
    let beta := q.x * gamma % p
    let alpha := 3 * (sub c q.x delta) * ((q.x + delta) % p) % p
    let x3 := sub c (alpha * alpha) (8 * beta)
    let z3 := sub c (sub c ((q.y + q.z) * (q.y + q.z)) gamma) delta
    let y3 := sub c (alpha * (sub c (4 * beta) x3)) (8 * (gamma * gamma % p))
    ⟨x3, y3, z3⟩

/-- The sum of two points. -/
def add (c : Curve) (a b : Point) : Point :=
  if a.z == 0 then b
  else if b.z == 0 then a
  else
    let p := c.p
    let z1z1 := a.z * a.z % p
    let z2z2 := b.z * b.z % p
    let u1 := a.x * z2z2 % p
    let u2 := b.x * z1z1 % p
    let s1 := a.y * b.z % p * z2z2 % p
    let s2 := b.y * a.z % p * z1z1 % p
    if u1 == u2 then
      if s1 == s2 then double c a else infinity
    else
      let h := sub c u2 u1
      let r := sub c s2 s1
      let hh := h * h % p
      let hhh := hh * h % p
      let x3 := sub c (sub c (r * r) hhh) (2 * u1 * hh)
      let y3 := sub c (r * (sub c (u1 * hh) x3)) (s1 * hhh)
      let z3 := h * a.z % p * b.z % p
      ⟨x3, y3, z3⟩

/-- `k` times a point, by doubling and adding. -/
def scale (c : Curve) (k : Nat) (q : Point) : Point :=
  (List.range (k.log2 + 1)).reverse.foldl (fun acc i =>
    let d := double c acc
    if k.testBit i then add c d q else d) infinity

/-- The affine coordinates of a point other than infinity. -/
def affine (c : Curve) (q : Point) : Option (Nat × Nat) :=
  if q.z == 0 then none
  else
    let zi := powMod q.z (c.p - 2) c.p
    let zi2 := zi * zi % c.p
    some (q.x * zi2 % c.p, q.y * zi2 % c.p * zi % c.p)

/-- The public point of a private key. -/
def publicPoint (c : Curve) (d : Nat) : Option (Nat × Nat) :=
  affine c (scale c d ⟨c.gx, c.gy, 1⟩)

/-- Whether coordinates lie on the curve. -/
def onCurve (c : Curve) (x y : Nat) : Bool :=
  x < c.p && y < c.p &&
    y * y % c.p == (sub c (x * x % c.p * x) (3 * x) + c.b) % c.p

/-- The point an uncompressed encoding gives, when it is one on the curve. -/
def unmarshal (c : Curve) (bytes : Bytes) : Option (Nat × Nat) :=
  let size := c.coordinateSize
  match bytes with
  | 0x04 :: rest =>
    if rest.length != 2 * size then none
    else
      let x := rest.take size |>.foldl (fun a b => a * 256 + b.toNat) 0
      let y := rest.drop size |>.foldl (fun a b => a * 256 + b.toNat) 0
      if onCurve c x y then some (x, y) else none
  | _ => none

end Curve

end Mqtt
