import Mqtt.Text.Duration
import Mqtt.Text.Quote
/-! # Command-line flags

A command reads its flags from the arguments after its name: `-name value`, `-name=value`, or
the same with two dashes. Reading stops at the first argument that is not a flag, at `-` alone
and after `--`. An unknown flag, a flag without its value, a value that does not read and a
malformed flag are errors; `-h` and `-help`, unless defined, ask for help.

Every error, and a request for help, prints the flags' usage: `Usage of NAME:`, then for each
flag in order of name its name and the type of its value, and on the next line its description
and its default when that is not the zero value.
-/

namespace Mqtt

/-- The type of a flag's value. -/
inductive FlagType where
  | text
  | int
  | duration
  deriving DecidableEq, Repr, Inhabited

/-- A flag's value. -/
inductive FlagValue where
  | text (s : String)
  | int (n : Int)
  /-- A duration in nanoseconds. -/
  | duration (ns : Int)
  deriving DecidableEq, Repr, Inhabited

/-- A flag a command accepts. -/
structure FlagSpec where
  name : String
  type : FlagType
  usage : String
  /-- The default as the usage writes it; empty for the zero value. -/
  shownDefault : String := ""
  default : FlagValue
  deriving Repr, Inhabited

/-- Why reading flags stopped. -/
inductive FlagError where
  /-- A problem, printed before the usage. -/
  | problem (text : String)
  /-- A request for help. -/
  | help
  deriving DecidableEq, Repr, Inhabited

namespace FlagError

/-- The text of the error the command reports. -/
def message : FlagError → String
  | problem t => t
  | help => "flag: help requested"

end FlagError

namespace Flags

/-- The name a usage line gives a type. -/
def typeName : FlagType → String
  | .text => "string"
  | .int => "int"
  | .duration => "duration"

/-- The usage of a set of flags, line by line. -/
def usage (command : String) (specs : List FlagSpec) : List String :=
  let sorted := specs.mergeSort fun a b => decide (a.name ≤ b.name)
  ("Usage of " ++ command ++ ":") :: sorted.flatMap fun f =>
    let head := "  -" ++ f.name ++ " " ++ typeName f.type
    let dflt := if f.shownDefault.isEmpty then "" else " (default " ++ f.shownDefault ++ ")"
    [head, "    \t" ++ f.usage ++ dflt]

/-- Whether the text underscores stand in separates digits, as in `1_000`. -/
def underscoresOk (s : List Char) : Bool :=
  let s := match s with
    | '-' :: r | '+' :: r => r
    | r => r
  let (start, hex, body) := match s with
    | '0' :: c :: r =>
      if c.toLower == 'b' || c.toLower == 'o' || c.toLower == 'x' then ('0', c.toLower == 'x', r)
      else ('^', false, s)
    | _ => ('^', false, s)
  let last := body.foldl (fun (saw : Option Char) c =>
    match saw with
    | none => none
    | some prev =>
      if c.isDigit || (hex && 'a' ≤ c.toLower && c.toLower ≤ 'f') then some '0'
      else if c == '_' then if prev == '0' then some '_' else none
      else if prev == '_' then none
      else some '!') (some start)
  match last with
  | some c => c != '_'
  | none => false

/-- An integer flag value: an optional sign, then digits in the base its prefix gives (`0x`,
`0o`, `0b`, a leading `0` for octal), with `_` between digits; it must fit 64 bits signed. -/
def parseInt (text : String) : Except String Int :=
  let cs := text.toList
  let (neg, body) := match cs with
    | '-' :: r => (true, r)
    | '+' :: r => (false, r)
    | r => (false, r)
  let (base, digits) := match body with
    | '0' :: c :: r =>
      if c.toLower == 'x' then (16, r) else if c.toLower == 'o' then (8, r)
      else if c.toLower == 'b' then (2, r) else (8, '0' :: c :: r)
    | r => (10, r)
  let bound : Nat := if neg then 9223372036854775808 else 9223372036854775807
  let step := digits.foldl (fun (acc : Except String Nat) c =>
    match acc with
    | .error e => .error e
    | .ok n =>
      if c == '_' then .ok n
      else
        let d := if c.isDigit then c.toNat - 48
          else if 'a' ≤ c.toLower && c.toLower ≤ 'z' then c.toLower.toNat - 87 else 99
        if d ≥ base then .error "parse error"
        else if n * base + d > 18446744073709551615 then .error "value out of range"
        else .ok (n * base + d)) (.ok 0)
  if digits.isEmpty then .error "parse error"
  else match step with
    | .error e => .error e
    | .ok n =>
      if cs.contains '_' && !underscoresOk cs then .error "parse error"
      else if n > bound then .error "value out of range"
      else .ok (if neg then -(n : Int) else n)

/-- Reads a value for a flag. -/
def readValue (t : FlagType) (text : String) : Except String FlagValue :=
  match t with
  | .text => .ok (.text text)
  | .int => (parseInt text).map FlagValue.int
  | .duration => match Duration.parse? text with
    | some ns => .ok (.duration ns)
    | none => .error "parse error"

/-- Reads the flags at the head of the arguments; the values set, by name, in order. -/
def parse (specs : List FlagSpec) (args : List String) :
    Except FlagError (List (String × FlagValue)) :=
  go args.length args []
where
  go : Nat → List String → List (String × FlagValue) → Except FlagError (List (String × FlagValue))
    | 0, _, acc => .ok acc
    | _, [], acc => .ok acc
    | fuel + 1, arg :: rest, acc =>
      let cs := arg.toList
      if cs.length < 2 || cs.head? != some '-' then .ok acc
      else if cs == ['-', '-'] then .ok acc
      else
        let dashes := if (cs.drop 1).head? == some '-' then 2 else 1
        let name := cs.drop dashes
        if name.isEmpty || name.head? == some '-' || name.head? == some '=' then
          .error (.problem ("bad flag syntax: " ++ arg))
        else
          let (flagName, inline) := match (name.drop 1).findIdx? (· == '=') with
            | some i => (name.take (i + 1), some (String.ofList (name.drop (i + 2))))
            | none => (name, none)
          let flagName := String.ofList flagName
          match specs.find? (·.name == flagName) with
          | none =>
            if flagName == "help" || flagName == "h" then .error .help
            else .error (.problem ("flag provided but not defined: -" ++ flagName))
          | some spec =>
            let (value, rest) := match inline with
              | some v => (some v, rest)
              | none => match rest with
                | v :: r => (some v, r)
                | [] => (none, [])
            match value with
            | none => .error (.problem ("flag needs an argument: -" ++ flagName))
            | some v =>
              match readValue spec.type v with
              | .error e =>
                .error (.problem ("invalid value " ++ Text.quote v ++ " for flag -" ++ flagName ++ ": " ++ e))
              | .ok fv => go fuel rest (acc ++ [(flagName, fv)])

end Flags

end Mqtt
