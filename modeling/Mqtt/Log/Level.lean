/-! # Log levels

Log levels are numbered: debug 0, info 1, warn 2, error 3, and 4 for logging nothing. Other
numbers can be set and have no name of their own.
-/

namespace Mqtt

/-- A log level by its number. -/
structure LogLevel where
  code : Int
  deriving DecidableEq, Repr, Inhabited

namespace LogLevel

def debug : LogLevel := ⟨0⟩
def info : LogLevel := ⟨1⟩
def warn : LogLevel := ⟨2⟩
def error : LogLevel := ⟨3⟩
/-- The level at which nothing is logged. -/
def silent : LogLevel := ⟨4⟩

/-- The name of a level, `UNKNOWN` for a number without one. -/
def name (l : LogLevel) : String :=
  match l.code with
  | 0 => "DEBUG"
  | 1 => "INFO"
  | 2 => "WARN"
  | 3 => "ERROR"
  | 4 => "NONE"
  | _ => "UNKNOWN"

/-- Whether a character is white space in the Unicode sense. -/
def isSpace (c : Char) : Bool :=
  c == ' ' || ('\t' ≤ c && c ≤ '\r') || c.toNat == 0x85 || c.toNat == 0xA0 ||
    c.toNat == 0x1680 || (0x2000 ≤ c.toNat && c.toNat ≤ 0x200A) || c.toNat == 0x2028 ||
    c.toNat == 0x2029 || c.toNat == 0x202F || c.toNat == 0x205F || c.toNat == 0x3000

/-- Text without white space at either end. -/
def trimSpace (s : String) : String :=
  String.ofList ((s.toList.dropWhile isSpace).reverse.dropWhile isSpace).reverse

/-- The level a name stands for, ignoring case and surrounding space: `debug`, `warn` or
`warning`, `error`, `none` or `off`; anything else is info. -/
def parse (s : String) : LogLevel :=
  match (trimSpace s).toLower with
  | "debug" => debug
  | "warn" | "warning" => warn
  | "error" => error
  | "none" | "off" => silent
  | _ => info

end LogLevel

end Mqtt
