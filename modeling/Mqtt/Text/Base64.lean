import Mqtt.Wire.Bytes
/-! # Base64

Base64 in the standard alphabet with `=` padding. Decoding ignores line breaks and accepts
padding only in the last group; encoding pads the last group to four characters.
-/

namespace Mqtt

namespace Base64

/-- The characters of the standard alphabet, by value. -/
def alphabet : List Char :=
  "ABCDEFGHIJKLMNOPQRSTUVWXYZabcdefghijklmnopqrstuvwxyz0123456789+/".toList

/-- The value of a character of the standard alphabet. -/
def value (c : Char) : Option Nat :=
  if 'A' ≤ c && c ≤ 'Z' then some (c.toNat - 'A'.toNat)
  else if 'a' ≤ c && c ≤ 'z' then some (c.toNat - 'a'.toNat + 26)
  else if '0' ≤ c && c ≤ '9' then some (c.toNat - '0'.toNat + 52)
  else if c == '+' then some 62
  else if c == '/' then some 63
  else none

/-- The bytes of one group of four characters, of which the last one or two may be padding
when the group is the last one. -/
def decodeGroup (g : List Char) (last : Bool) : Option Bytes :=
  match g with
  | [a, b, c, d] =>
    match value a, value b with
    | some va, some vb =>
      let n1 := va * 4 + vb / 16
      if c == '=' then
        if d == '=' && last then some [n1.toUInt8] else none
      else match value c with
        | none => none
        | some vc =>
          let n2 := (vb % 16) * 16 + vc / 4
          if d == '=' then
            if last then some [n1.toUInt8, n2.toUInt8] else none
          else match value d with
            | none => none
            | some vd => some [n1.toUInt8, n2.toUInt8, ((vc % 4) * 64 + vd).toUInt8]
    | _, _ => none
  | _ => none

/-- The bytes of base64 text, ignoring line breaks; none when it is not whole groups of four
characters of the alphabet with padding only at the end. -/
def decode (s : List Char) : Option Bytes :=
  let cs := s.filter fun c => c != '\n' && c != '\r'
  if cs.length % 4 != 0 then none
  else
    let groups := (List.range (cs.length / 4)).map fun i => (cs.drop (4 * i)).take 4
    let n := groups.length
    groups.zipIdx.foldl (fun acc (g, i) => acc.bind fun out =>
      (decodeGroup g (i + 1 == n)).map (out ++ ·)) (some [])

/-- The character of a six-bit value. -/
def char (v : Nat) : Char := alphabet.getD v '='

/-- The four characters of up to three bytes, padded. -/
def encodeGroup : Bytes → List Char
  | [a] =>
    let n := a.toNat
    [char (n / 4), char ((n % 4) * 16), '=', '=']
  | [a, b] =>
    let n := a.toNat * 256 + b.toNat
    [char (n / 1024), char ((n / 16) % 64), char ((n % 16) * 4), '=']
  | a :: b :: c :: _ =>
    let n := (a.toNat * 256 + b.toNat) * 256 + c.toNat
    [char (n / 262144), char ((n / 4096) % 64), char ((n / 64) % 64), char (n % 64)]
  | [] => []

/-- The base64 text of bytes. -/
def encode (bs : Bytes) : String :=
  let groups := (List.range ((bs.length + 2) / 3)).map fun i => (bs.drop (3 * i)).take 3
  String.ofList (groups.flatMap encodeGroup)

end Base64

end Mqtt
