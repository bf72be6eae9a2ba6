/-! # Bytes

Byte strings as lists of bytes, with the pieces of the wire format that every field uses:
two-byte big-endian numbers, UTF-8 well-formedness, and lowercase hexadecimal text.
-/

namespace Mqtt

/-- A byte string. -/
abbrev Bytes := List UInt8

namespace Bytes

/-- The UTF-8 bytes of a text. -/
def ofString (s : String) : Bytes := s.toUTF8.toList

/-- The two bytes of a number, most significant first. -/
def ofUInt16 (v : UInt16) : Bytes := [(v >>> 8).toUInt8, v.toUInt8]

/-- The number whose big-endian bytes are `hi` and `lo`. -/
def toUInt16 (hi lo : UInt8) : UInt16 := (hi.toUInt16 <<< 8) ||| lo.toUInt16

/-- Whether a byte continues a multi-byte sequence, `10xxxxxx`. -/
def isTrail (b : UInt8) : Bool := b &&& 0xC0 == 0x80

/-- Whether bytes are well-formed UTF-8: no overlong form, no surrogate, nothing above U+10FFFF. -/
def validUtf8 : Bytes → Bool
  | [] => true
  | b :: rest =>
    if b < 0x80 then validUtf8 rest
    else if 0xC2 ≤ b && b ≤ 0xDF then
      match rest with
      | c1 :: r => isTrail c1 && validUtf8 r
      | [] => false
    else if 0xE0 ≤ b && b ≤ 0xEF then
      match rest with
      | c1 :: c2 :: r =>
        let lo : UInt8 := if b == 0xE0 then 0xA0 else 0x80
        let hi : UInt8 := if b == 0xED then 0x9F else 0xBF
        lo ≤ c1 && c1 ≤ hi && isTrail c2 && validUtf8 r
      | _ => false
    else if 0xF0 ≤ b && b ≤ 0xF4 then
      match rest with
      | c1 :: c2 :: c3 :: r =>
        let lo : UInt8 := if b == 0xF0 then 0x90 else 0x80
        let hi : UInt8 := if b == 0xF4 then 0x8F else 0xBF
        lo ≤ c1 && c1 ≤ hi && isTrail c2 && isTrail c3 && validUtf8 r
      | _ => false
    else false

/-- The text of well-formed UTF-8 bytes. -/
def toString? (b : Bytes) : Option String :=
  String.fromUTF8? (ByteArray.mk b.toArray)

/-- The characters of bytes read as UTF-8, where a byte that does not begin a well-formed
character stands for the replacement character and reading goes on after it. Each step reads
at least one byte, so fuel of the bytes' length reads them all. -/
def lossyChars : Nat → Bytes → List Char
  | 0, _ => []
  | _, [] => []
  | fuel + 1, b :: rest =>
    let width := if b < 0x80 then 1 else if b < 0xE0 then 2 else if b < 0xF0 then 3 else 4
    let piece := (b :: rest).take width
    match (if validUtf8 piece then (toString? piece).bind (·.toList.head?) else none) with
    | some c => c :: lossyChars fuel ((b :: rest).drop width)
    | none => '\uFFFD' :: lossyChars fuel rest

/-- The text of bytes, with the replacement character for each byte that is not part of a
well-formed character. -/
def toStringLossy (b : Bytes) : String := String.ofList (lossyChars b.length b)

/-- The lowercase hexadecimal digit of a number below 16. -/
def hexDigit (n : UInt8) : Char :=
  if n < 10 then Char.ofNat (48 + n.toNat) else Char.ofNat (87 + n.toNat)

/-- Lowercase hexadecimal text, two digits per byte. -/
def toHex (b : Bytes) : String :=
  b.foldl (fun (s : String) (x : UInt8) => (s.push (hexDigit (x >>> 4))).push (hexDigit (x &&& 15))) ""

/-- The value of a hexadecimal digit of either case. -/
def hexValue? (c : Char) : Option UInt8 :=
  if '0' ≤ c && c ≤ '9' then some (c.toNat - 48).toUInt8
  else if 'a' ≤ c && c ≤ 'f' then some (c.toNat - 87).toUInt8
  else if 'A' ≤ c && c ≤ 'F' then some (c.toNat - 55).toUInt8
  else none

/-- The bytes of hexadecimal text with an even number of digits. -/
def ofHex? (s : String) : Option Bytes :=
  let rec go : List Char → Array UInt8 → Option (Array UInt8)
    | [], acc => some acc
    | [_], _ => none
    | h :: l :: rest, acc =>
      match hexValue? h, hexValue? l with
      | some a, some b => go rest (acc.push ((a <<< 4) ||| b))
      | _, _ => none
  (go s.toList #[]).map Array.toList

end Bytes

end Mqtt
