/-! # Reading YAML: what a plain scalar means

A scalar written without quotes and without a tag is read as null (empty, `~`, `null`), a
boolean (`true`, `false`, in three spellings each), an integer (decimal, `0x` hexadecimal, `0o`
or leading-zero octal, `0b` binary, with an optional sign and with `_` ignored), a float
(decimal with optional fraction and exponent, or one of the spellings of infinity and NaN), a
timestamp (text starting with a four-digit year and `-`) or else as text. A float too large to
hold is text. Quoted and block scalars are always text, and a tag names the type outright.

Tags are written short: `!!int` for `tag:yaml.org,2002:int`.
-/

namespace Mqtt

namespace Yaml

/-- What a scalar stands for. -/
inductive ScalarValue where
  | null
  | bool (b : Bool)
  | int (n : Int)
  | float (x : Float)
  | text (s : String)
  | timestamp (s : String)
  deriving Repr, Inhabited

/-- The prefix of the standard tags. -/
def standardTagPrefix : String := "tag:yaml.org,2002:"

/-- A tag written short: the standard prefix becomes `!!`. -/
def shortTag (tag : String) : String :=
  if tag.startsWith standardTagPrefix then "!!" ++ (tag.drop standardTagPrefix.length).toString
  else tag

/-- The value of a digit in a base, if it is one. -/
def digitIn (base : Nat) (c : Char) : Option Nat :=
  let v := if c.isDigit then some (c.toNat - '0'.toNat)
    else if 'a' ≤ c && c ≤ 'z' then some (c.toNat - 'a'.toNat + 10)
    else if 'A' ≤ c && c ≤ 'Z' then some (c.toNat - 'A'.toNat + 10)
    else none
  v.filter (· < base)

/-- The number written by digits in a base; none when a character is not a digit or there is
none. -/
def digitsValue (base : Nat) (cs : List Char) : Option Nat :=
  if cs.isEmpty then none
  else cs.foldl (fun acc c => acc.bind fun a => (digitIn base c).map fun d => a * base + d) (some 0)

/-- An unsigned number with its base taken from its prefix: `0x`, `0o`, `0b`, a leading `0`
for octal, decimal otherwise. -/
def unsignedValue (cs : List Char) : Option Nat :=
  match cs with
  | '0' :: 'x' :: rest | '0' :: 'X' :: rest => digitsValue 16 rest
  | '0' :: 'o' :: rest | '0' :: 'O' :: rest => digitsValue 8 rest
  | '0' :: 'b' :: rest | '0' :: 'B' :: rest => digitsValue 2 rest
  | ['0'] => some 0
  | '0' :: rest => digitsValue 8 rest
  | _ => digitsValue 10 cs

/-- The largest signed 64-bit integer. -/
def maxInt64 : Int := 9223372036854775807

/-- The largest unsigned 64-bit integer. -/
def maxUInt64 : Int := 18446744073709551615

/-- An integer as a signed or unsigned 64-bit integer reads it, if it is one. -/
def integerValue (s : String) : Option Int :=
  match s.toList with
  | '-' :: rest => (unsignedValue rest).bind fun n =>
      if (n : Int) ≤ maxInt64 + 1 then some (-(n : Int)) else none
  | '+' :: rest => (unsignedValue rest).bind fun n => if (n : Int) ≤ maxInt64 then some n else none
  | cs => (unsignedValue cs).bind fun n => if (n : Int) ≤ maxUInt64 then some n else none

/-- Whether text has the shape of a decimal float: optional sign, digits with an optional
fraction or a fraction alone, and an optional exponent. -/
def floatShape (s : String) : Bool :=
  let cs := match s.toList with
    | '-' :: r | '+' :: r => r
    | r => r
  let intDigits := cs.takeWhile Char.isDigit
  let rest := cs.drop intDigits.length
  let (fracOk, rest) := match rest with
    | '.' :: r =>
      let fd := r.takeWhile Char.isDigit
      (!intDigits.isEmpty || !fd.isEmpty, r.drop fd.length)
    | r => (!intDigits.isEmpty, r)
  let expOk := match rest with
    | [] => true
    | 'e' :: r | 'E' :: r =>
      let r' := match r with
        | '-' :: t | '+' :: t => t
        | t => t
      !r'.isEmpty && r'.all Char.isDigit
    | _ => false
  fracOk && expOk

/-- The float a decimal text stands for, when it is finite: digits and exponent read exactly,
then rounded once. -/
def decimalFloat (s : String) : Option Float :=
  let (neg, cs) := match s.toList with
    | '-' :: r => (true, r)
    | '+' :: r => (false, r)
    | r => (false, r)
  let mant := cs.takeWhile fun c => c != 'e' && c != 'E'
  let expPart := cs.drop (mant.length + 1)
  let whole := mant.takeWhile (· != '.')
  let frac := (mant.drop (whole.length + 1))
  let digits := whole ++ frac
  let m := (digitsValue 10 digits).getD 0
  let e : Int := match expPart with
    | '-' :: r => -((digitsValue 10 r).getD 0 : Int)
    | '+' :: r => (digitsValue 10 r).getD 0
    | r => (digitsValue 10 r).getD 0
  let e := e - frac.length
  let size : Int := e + (toString m).length
  if m == 0 || size < -400 then some (if neg then -0.0 else 0.0)
  else if size > 330 then none
  else
    let x := if e ≥ 0 then (m * Nat.pow 10 e.toNat : Nat).toFloat
      else Float.ofScientific m true e.natAbs
    let x := if neg then -x else x
    if x.isInf then none else some x

/-- The special floats by spelling. -/
def specialFloat (s : String) : Option Float :=
  if [".nan", ".NaN", ".NAN"].contains s then some (0.0 / 0.0)
  else if [".inf", ".Inf", ".INF", "+.inf", "+.Inf", "+.INF"].contains s then some (1.0 / 0.0)
  else if ["-.inf", "-.Inf", "-.INF"].contains s then some (-1.0 / 0.0)
  else none

/-- Whether text reads as a timestamp: four digits, a dash, a month, a dash and a day of one or
two digits each, then nothing or a time. -/
def timestampShape (s : String) : Bool :=
  let cs := s.toList
  let year := cs.takeWhile Char.isDigit
  if year.length != 4 then false
  else match cs.drop 4 with
    | '-' :: r =>
      let month := r.takeWhile Char.isDigit
      match r.drop month.length with
      | '-' :: r2 =>
        let day := r2.takeWhile Char.isDigit
        let tail := r2.drop day.length
        (month.length == 1 || month.length == 2) && (day.length == 1 || day.length == 2) &&
          (digitsValue 10 month).any (fun m => 1 ≤ m && m ≤ 12) &&
          (digitsValue 10 day).any (fun d => 1 ≤ d && d ≤ 31) &&
          (tail.isEmpty || tail.head? == some 'T' || tail.head? == some 't' || tail.head? == some ' ')
      | _ => false
    | _ => false

/-- The tag and value of a plain scalar without tag. -/
def resolvePlain (s : String) : String × ScalarValue :=
  if ["true", "True", "TRUE"].contains s then ("!!bool", .bool true)
  else if ["false", "False", "FALSE"].contains s then ("!!bool", .bool false)
  else if ["", "~", "null", "Null", "NULL"].contains s then ("!!null", .null)
  else if let some x := specialFloat s then ("!!float", .float x)
  else match s.toList.head? with
    | some '.' =>
      if floatShape s then
        match decimalFloat s with
        | some x => ("!!float", .float x)
        | none => ("!!str", .text s)
      else ("!!str", .text s)
    | some c =>
      if c.isDigit || c == '+' || c == '-' then
        if timestampShape s then ("!!timestamp", .timestamp s)
        else
          let plain := String.ofList (s.toList.filter (· != '_'))
          match integerValue plain with
          | some n => ("!!int", .int n)
          | none =>
            if floatShape plain then
              match decimalFloat plain with
              | some x => ("!!float", .float x)
              | none => ("!!str", .text s)
            else ("!!str", .text s)
      else ("!!str", .text s)
    | none => ("!!null", .null)

/-- Tags whose scalars the reader interprets. -/
def resolvableTag (tag : String) : Bool :=
  ["", "!!str", "!!bool", "!!int", "!!float", "!!null", "!!timestamp"].contains tag

/-- The value of a scalar under its tag: text for `!!str` and for tags the reader does not
interpret, the plain reading otherwise, which must then agree with the tag (a signed 64-bit
integer may stand for a float). A disagreement is a problem. -/
def resolve (tag text : String) : Except String (String × ScalarValue) :=
  if !resolvableTag tag then .ok (tag, .text text)
  else if tag == "!!str" then .ok (tag, .text text)
  else
    let (rtag, v) := resolvePlain text
    if tag == "" || tag == rtag then .ok (rtag, v)
    else if tag == "!!float" && rtag == "!!int" then
      match v with
      | .int n =>
        if n ≤ maxInt64 then .ok ("!!float", .float (Float.ofInt n))
        else .error s!"cannot decode {rtag} `{text}` as a {tag}"
      | other => .ok ("!!float", other)
    else .error s!"cannot decode {rtag} `{text}` as a {tag}"

end Yaml

end Mqtt
