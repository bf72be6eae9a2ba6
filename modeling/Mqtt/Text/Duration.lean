/-! # Durations as text

A duration of whole milliseconds is written with units: below a second in milliseconds
(`100ms`), from a second on as hours, minutes and seconds, leading zero units left out and
the seconds carrying the milliseconds as a decimal fraction without trailing zeros (`1.5s`,
`1m0s`, `1h0m0s`). Zero is `0s`.

Read back, a duration is an optional sign and one or more decimal numbers, each with an
optional fraction and a unit (`ns`, `us`, `µs`, `μs`, `ms`, `s`, `m`, `h`), such as `1h30m` or
`1.5s`; a plain `0` needs no unit. The result is in nanoseconds and must fit 64 bits signed.
-/

namespace Mqtt

namespace Duration

/-- The milliseconds of a second as a fraction after the point, without trailing zeros; empty
for none. -/
def fraction (ms : Nat) : String :=
  if ms == 0 then ""
  else
    let digits := (toString (1000 + ms)).toList.drop 1
    let kept := (digits.reverse.dropWhile (· == '0')).reverse
    "." ++ String.ofList kept

/-- The text of a non-negative duration in milliseconds. -/
def textOfNat (ms : Nat) : String :=
  if ms == 0 then "0s"
  else if ms < 1000 then toString ms ++ "ms"
  else
    let h := ms / 3600000
    let m := ms / 60000 % 60
    let s := ms / 1000 % 60
    let secs := toString s ++ fraction (ms % 1000) ++ "s"
    if h > 0 then toString h ++ "h" ++ toString m ++ "m" ++ secs
    else if m > 0 then toString m ++ "m" ++ secs
    else secs

/-- The text of a duration in milliseconds; a negative one has a minus sign in front. -/
def text (ms : Int) : String :=
  if ms < 0 then "-" ++ textOfNat ms.natAbs else textOfNat ms.toNat

/-- The nanoseconds of a unit of duration. -/
def unitNanos : String → Option Nat
  | "ns" => some 1
  | "us" | "µs" | "μs" => some 1000
  | "ms" => some 1000000
  | "s" => some 1000000000
  | "m" => some 60000000000
  | "h" => some 3600000000000
  | _ => none

/-- The limit no duration in nanoseconds may pass: 2⁶³. -/
def limit : Nat := 9223372036854775808

/-- One number with its fraction and unit at the head of text, in nanoseconds, and the rest. -/
def term (s : List Char) : Option (Nat × List Char) := do
  let whole := s.takeWhile Char.isDigit
  let s := s.drop whole.length
  let v := whole.foldl (fun a c => a * 10 + (c.toNat - 48)) 0
  if v ≥ limit then none
  let (frac, s, hasFrac) := match s with
    | '.' :: r => let f := r.takeWhile Char.isDigit; (f, r.drop f.length, !f.isEmpty)
    | r => ([], r, false)
  if whole.isEmpty && !hasFrac then none
  let unitText := s.takeWhile fun c => c != '.' && !c.isDigit
  if unitText.isEmpty then none
  let unit ← unitNanos (String.ofList unitText)
  let rest := s.drop unitText.length
  if v > limit / unit then none
  let scaled := v * unit
  -- the fraction keeps the digits that fit before the value would pass the limit
  let (f, scale) := frac.foldl (fun (acc : Nat × Nat) c =>
    if acc.1 > (limit - 1) / 10 then acc else (acc.1 * 10 + (c.toNat - 48), acc.2 * 10)) (0, 1)
  let part := if f > 0 then (f.toFloat * (unit.toFloat / scale.toFloat)).toUInt64.toNat else 0
  let total := scaled + part
  if total > limit then none
  return (total, rest)

/-- The nanoseconds a duration text stands for, if it is one. -/
def parse? (text : String) : Option Int :=
  let (neg, s) := match text.toList with
    | '-' :: r => (true, r)
    | '+' :: r => (false, r)
    | r => (false, r)
  if s == ['0'] then some 0
  else if s.isEmpty then none
  else
    let rec go : Nat → List Char → Nat → Option Nat
      | 0, _, acc => some acc
      | fuel + 1, rest, acc =>
        if rest.isEmpty then some acc
        else match rest.head? with
          | some c =>
            if c != '.' && !c.isDigit then none
            else match term rest with
              | none => none
              | some (v, r) => if acc + v > limit then none else go fuel r (acc + v)
          | none => some acc
    match go (s.length + 1) s 0 with
    | none => none
    | some d =>
      if neg then some (-(d : Int))
      else if d ≥ limit then none
      else some d

end Duration

end Mqtt
