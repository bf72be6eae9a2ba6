/-! # Quoted text

Text written between double quotes with escapes, so that quotes, backslashes and characters
that do not print can be read back: `\a \b \f \n \r \t \v`, `\\` and `\"`, and `\xHH`,
`\uHHHH` or `\UHHHHHHHH` for other characters that do not print.
-/

namespace Mqtt

namespace Text

/-- The hexadecimal digits of `n`, lowercase, at least `w` of them. -/
def hexPadded (w n : Nat) : String :=
  let ds := Nat.toDigits 16 n
  String.ofList (List.replicate (w - ds.length) '0' ++ ds)

/-- Whether a character prints: letters, marks, numbers, punctuation, symbols and the ASCII
space, but not controls, format characters or other separators. -/
def printable (c : Char) : Bool :=
  let n := c.toNat
  if n < 0x20 || n == 0x7F then false
  else if n < 0x7F then true
  else if n < 0xA0 then false
  else
    !(n == 0xAD || n == 0x61C || n == 0x180E || (0x2000 ≤ n && n ≤ 0x200F) ||
      (0x2028 ≤ n && n ≤ 0x202F) || (0x205F ≤ n && n ≤ 0x206F) || n == 0x3000 ||
      n == 0xFEFF || (0xFFF9 ≤ n && n ≤ 0xFFFB) || n == 0x1680 || n == 0x85 ||
      (0xE000 ≤ n && n ≤ 0xF8FF) || (0xF0000 ≤ n))

/-- The escaped form of one character inside double quotes. -/
def escapeChar (c : Char) : String :=
  match c with
  | '\x07' => "\\a"
  | '\x08' => "\\b"
  | '\x0c' => "\\f"
  | '\n' => "\\n"
  | '\r' => "\\r"
  | '\t' => "\\t"
  | '\x0b' => "\\v"
  | '\\' => "\\\\"
  | '"' => "\\\""
  | _ =>
    if printable c then c.toString
    else if c.toNat < 0x80 then "\\x" ++ hexPadded 2 c.toNat
    else if c.toNat < 0x10000 then "\\u" ++ hexPadded 4 c.toNat
    else "\\U" ++ hexPadded 8 c.toNat

/-- Text between double quotes, with escapes. -/
def quote (s : String) : String :=
  "\"" ++ String.join (s.toList.map escapeChar) ++ "\""

/-- Bytes between double quotes: well-formed UTF-8 sequences as characters, other bytes as
`\xHH`. -/
def quoteBytes (b : List UInt8) : String :=
  match String.fromUTF8? (ByteArray.mk b.toArray) with
  | some s => quote s
  | none =>
    "\"" ++ String.join (b.map fun x =>
      if x < 0x80 then escapeChar (Char.ofNat x.toNat) else "\\x" ++ hexPadded 2 x.toNat) ++ "\""

end Text

end Mqtt
