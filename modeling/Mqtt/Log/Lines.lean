import Mqtt.Log.Logger
import Mqtt.Doc.Text
/-! # Log records as lines

A log writes each record as one line, either as a JSON object or as text. A text line is
`level=LEVEL msg=MESSAGE` followed by `key=value` for every value of the record, in the order they
were added. A key or a text value is quoted when it is empty or holds a space, `=`, `"`, a
control character or a character that is not printable; quoting escapes the quote, the
backslash and every character that is not printable. Numbers are written in their shortest
general form: positional for decimal exponents from -4 to 5, with an exponent otherwise. A null
value is written `<nil>`.

Reports of what a log wrote give the level the log stands at and the records written, as
documents for JSON lines and as text for text lines.
-/

namespace Mqtt

/-- How a log writes its records. -/
inductive LogFormat where
  | json
  | text
  deriving DecidableEq, Repr, Inhabited

/-- The format a name selects: `text` in any case, and JSON for everything else. -/
def LogFormat.ofName (s : String) : LogFormat :=
  if s.toLower == "text" then .text else .json

namespace Decimal

/-- The shortest general form: positional when the leading digit's exponent is from -4 to 5,
else one digit, the other digits after a point, and `e`, a sign and at least two exponent
digits. -/
def generalText (neg : Bool) (d : Dec) : String :=
  let sign := if neg then "-" else ""
  if d.digits == 0 then sign ++ "0"
  else
    let ds := (Nat.toDigits 10 d.digits)
    let n : Int := ds.length
    let lead := d.exp + n - 1
    if lead < -4 || lead ≥ 6 then
      let rest := String.ofList (ds.drop 1)
      let mant := String.ofList (ds.take 1) ++ (if rest.isEmpty then "" else "." ++ rest)
      let e := toString lead.natAbs
      sign ++ mant ++ "e" ++ (if lead < 0 then "-" else "+") ++ (if e.length < 2 then "0" ++ e else e)
    else jsonText neg d

end Decimal

/-- Whether a character outside ASCII is printable: not a C1 control, not a space other than the
ASCII space, not an invisible format character, not a surrogate, not private and not a
non-character. -/
def printableWide (c : Char) : Bool :=
  let n := c.toNat
  !(n ≤ 0xA0 || n == 0xAD || (0x600 ≤ n && n ≤ 0x605) || n == 0x61C || n == 0x6DD ||
    n == 0x70F || n == 0x1680 || n == 0x180E || (0x2000 ≤ n && n ≤ 0x200F) ||
    (0x2028 ≤ n && n ≤ 0x202F) || (0x205F ≤ n && n ≤ 0x206F) || n == 0x3000 ||
    (0xD800 ≤ n && n ≤ 0xF8FF) || n == 0xFEFF || (0xFFF9 ≤ n && n ≤ 0xFFFB) ||
    n == 0xFFFE || n == 0xFFFF || 0xF0000 ≤ n)

/-- Whether a character is printable. -/
def printable (c : Char) : Bool :=
  if c.toNat < 0x80 then 0x20 ≤ c.toNat && c.toNat < 0x7F else printableWide c

/-- Whether a key or text value must be quoted in a text line. -/
def needsQuoting (s : String) : Bool :=
  s.isEmpty || s.toList.any fun c =>
    if c.toNat < 0x80 then c == ' ' || c == '=' || c == '"' || !printable c
    else LogLevel.isSpace c || !printable c

/-- The escape of one character inside quotes. -/
def quotedChar (c : Char) : String :=
  let hex (width n : Nat) : String :=
    let ds := Nat.toDigits 16 n
    String.ofList (List.replicate (width - ds.length) '0' ++ ds)
  if c == '"' then "\\\"" else if c == '\\' then "\\\\"
  else if printable c then c.toString
  else match c.toNat with
    | 7 => "\\a" | 8 => "\\b" | 12 => "\\f" | 10 => "\\n" | 13 => "\\r" | 9 => "\\t" | 11 => "\\v"
    | n =>
      if n < 0x20 || n == 0x7F then "\\x" ++ hex 2 n
      else if n < 0x10000 then "\\u" ++ hex 4 n
      else "\\U" ++ hex 8 n

/-- Text in double quotes, with escapes. -/
def quoteText (s : String) : String :=
  "\"" ++ String.join (s.toList.map quotedChar) ++ "\""

/-- A key or text value as a text line writes it. -/
def lineText (s : String) : String := if needsQuoting s then quoteText s else s

/-- A number in its shortest general form. -/
def generalNumber (x : Float) : String :=
  let (neg, d) := Decimal.ofFloat x
  Decimal.generalText neg d

mutual

/-- A value as a text line writes it. -/
def Doc.lineValue : Doc → String
  | .null => "<nil>"
  | .bool b => toString b
  | .int n => generalNumber (Float.ofInt n)
  | .float x => generalNumber x
  | .str s => lineText s
  | .arr items => "[" ++ " ".intercalate (Doc.lineItems items) ++ "]"
  | .obj fields => "map[" ++ " ".intercalate (Doc.lineFields fields) ++ "]"
  | .failure f => lineText f.message

/-- The values of a list, as a text line writes them. -/
def Doc.lineItems : List Doc → List String
  | [] => []
  | d :: rest => d.lineValue :: Doc.lineItems rest

/-- The fields of an object as `key:value`, as a text line writes them. -/
def Doc.lineFields : List (String × Doc) → List String
  | [] => []
  | (k, v) :: rest => (k ++ ":" ++ v.lineValue) :: Doc.lineFields rest

end

/-- A record as a text line, without time. -/
def LogRecord.textLine (r : LogRecord) : String :=
  " ".intercalate (("level=" ++ r.level.name) :: ("msg=" ++ lineText r.msg) ::
    r.attrs.map fun (k, v) => lineText k ++ "=" ++ v.lineValue)

/-- A record as a JSON line, its fields in the order they were given. -/
def LogRecord.jsonLine (r : LogRecord) : String :=
  let fields := Doc.lastFields ([("level", Doc.str r.level.name), ("msg", Doc.str r.msg)] ++ r.attrs)
  "\x7b" ++ ",".intercalate (fields.map fun (k, v) => jsonQuote k ++ ":" ++ v.canonical) ++ "\x7d"

/-- What a log wrote during one call: the level it stands at afterwards and, when its lines are
seen, the records written, as JSON documents ordered by their text or as text lines. -/
def logReport (g : Logger) (fmt : LogFormat) (seen : Bool) (written : List LogRecord) : Doc :=
  let shown := if seen then written else []
  .obj [("level", .str g.reported.name),
    match fmt with
    | .json => ("records", .arr (Doc.sortByText (shown.map LogRecord.toDoc)))
    | .text => ("lines", .list shown fun r => .str r.textLine)]

end Mqtt
