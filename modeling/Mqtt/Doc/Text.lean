import Mqtt.Doc.Basic
import Mqtt.Decimal.Shortest
/-! # Documents as JSON text

The canonical text of a document is its JSON text with the keys of every object in byte order,
no white space, numbers in their shortest decimal form and, in strings, escapes for the quote,
the backslash, the control characters and the two Unicode line and paragraph separators.
Ordering documents by this text orders them by content, whatever the order of their keys.
-/

namespace Mqtt

namespace Decimal

/-- Numbers whose leading digit has a decimal exponent from -6 to 20 are written positionally,
others as a digit, the remaining digits after a point, `e`, a sign and the exponent. -/
def jsonText (neg : Bool) (d : Dec) : String :=
  let sign := if neg then "-" else ""
  if d.digits == 0 then sign ++ "0"
  else
    let ds := String.ofList (Nat.toDigits 10 d.digits)
    let n : Int := ds.length
    let lead := d.exp + n - 1
    if -6 ≤ lead && lead < 21 then
      if d.exp ≥ 0 then sign ++ ds ++ String.ofList (List.replicate d.exp.toNat '0')
      else if -d.exp < n then
        let whole := (n + d.exp).toNat
        sign ++ String.ofList (ds.toList.take whole) ++ "." ++ String.ofList (ds.toList.drop whole)
      else sign ++ "0." ++ String.ofList (List.replicate (-d.exp - n).toNat '0') ++ ds
    else
      let rest := String.ofList (ds.toList.drop 1)
      let mant := String.ofList (ds.toList.take 1) ++ (if rest.isEmpty then "" else "." ++ rest)
      sign ++ mant ++ "e" ++ (if lead < 0 then "-" else "+") ++ toString lead.natAbs

end Decimal

/-- A hexadecimal digit in lower case. -/
def lowerHexDigit (n : Nat) : Char := (Nat.toDigits 16 (n % 16)).headD '0'

/-- The `\u` escape of a character below U+10000. -/
def unicodeEscape (c : Char) : String :=
  let n := c.toNat
  "\\u" ++ String.ofList [lowerHexDigit (n / 4096), lowerHexDigit (n / 256), lowerHexDigit (n / 16),
    lowerHexDigit n]

/-- How one character is written inside a JSON string. -/
def jsonEscapeChar (c : Char) : String :=
  match c with
  | '"' => "\\\""
  | '\\' => "\\\\"
  | '\n' => "\\n"
  | '\r' => "\\r"
  | '\t' => "\\t"
  | _ =>
    if c.toNat == 8 then "\\b"
    else if c.toNat == 12 then "\\f"
    else if c.toNat < 0x20 || c.toNat == 0x2028 || c.toNat == 0x2029 then unicodeEscape c
    else c.toString

/-- A string as JSON text. -/
def jsonQuote (s : String) : String :=
  "\"" ++ String.join (s.toList.map jsonEscapeChar) ++ "\""

namespace Doc

/-- The fields of an object with each key kept once, at its last value. -/
def lastFields {α : Type} (fs : List (String × α)) : List (String × α) :=
  fs.foldl (fun acc (k, v) => (acc.filter (·.1 != k)) ++ [(k, v)]) []

mutual

/-- The canonical JSON text of a document. -/
def canonical : Doc → String
  | .null => "null"
  | .bool b => if b then "true" else "false"
  | .int n => toString n
  | .float x => let (neg, d) := Decimal.ofFloat x; Decimal.jsonText neg d
  | .str s => jsonQuote s
  | .arr items => "[" ++ ",".intercalate (canonicalItems items) ++ "]"
  | .obj fields =>
    let sorted := (lastFields (canonicalFields fields)).mergeSort fun a b => decide (a.1 ≤ b.1)
    "\x7b" ++ ",".intercalate (sorted.map fun (k, v) => jsonQuote k ++ ":" ++ v) ++ "\x7d"
  | .failure f => jsonQuote f.message

/-- The canonical texts of a list of documents. -/
def canonicalItems : List Doc → List String
  | [] => []
  | d :: rest => canonical d :: canonicalItems rest

/-- The canonical texts of the values of an object's fields. -/
def canonicalFields : List (String × Doc) → List (String × String)
  | [] => []
  | (k, d) :: rest => (k, canonical d) :: canonicalFields rest

end

/-- Documents ordered by their canonical text. -/
def sortByText (ds : List Doc) : List Doc :=
  ds.mergeSort fun a b => decide (a.canonical ≤ b.canonical)

end Doc

end Mqtt
