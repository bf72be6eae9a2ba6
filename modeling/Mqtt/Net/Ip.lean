/-! # IP addresses

An IP address is written as four decimal fields between dots, or as up to eight hexadecimal
groups between colons, where one `::` stands for a run of at least one zero group and the last
two groups may be written as a dotted address. A decimal field is at most 255 and has no
leading zero; a group has one to four digits of either case. An address written with a zone
(`%` and a name) is not taken. Addresses are held as their sixteen bytes; a dotted address is
mapped into the IPv6 space behind `::ffff:`.

An address is shown dotted when it is a mapped IPv4 address, and otherwise as eight groups in
lowercase without leading zeros, where the first of the longest runs of two or more zero groups
is written `::`.
-/

namespace Mqtt

namespace Ip

/-- The value of decimal digits. -/
def decimal (cs : List Char) : Nat := cs.foldl (fun a c => a * 10 + (c.toNat - 48)) 0

/-- The four bytes of a dotted address. -/
def parse4 (s : String) : Option (List UInt8) :=
  let fields := (s.splitOn ".").map String.toList
  if fields.length == 4 && fields.all (fun cs =>
      !cs.isEmpty && cs.length ≤ 3 && cs.all Char.isDigit && decimal cs ≤ 255 &&
        (cs.length == 1 || cs.head? != some '0'))
  then some (fields.map fun cs => (decimal cs).toUInt8)
  else none

/-- The value of a hexadecimal digit of either case. -/
def hexValue (c : Char) : Option Nat :=
  if '0' ≤ c && c ≤ '9' then some (c.toNat - 48)
  else if 'a' ≤ c && c ≤ 'f' then some (c.toNat - 87)
  else if 'A' ≤ c && c ≤ 'F' then some (c.toNat - 55)
  else none

/-- The value of one group: one to four hexadecimal digits. -/
def group (cs : List Char) : Option Nat :=
  if cs.isEmpty || cs.length > 4 then none
  else cs.foldl (fun acc c => acc.bind fun a => (hexValue c).map (a * 16 + ·)) (some 0)

/-- The two bytes of a group's value. -/
def groupBytes (v : Nat) : List UInt8 := [(v / 256).toUInt8, (v % 256).toUInt8]

/-- The bytes of colon-separated fields; the last may be a dotted address when `dottedLast`
allows it. -/
def fieldBytes (dottedLast : Bool) : List String → Option (List UInt8)
  | [] => some []
  | [f] => if dottedLast && f.contains '.' then parse4 f else (group f.toList).map groupBytes
  | f :: rest => do
    let v ← group f.toList
    let tail ← fieldBytes dottedLast rest
    return groupBytes v ++ tail

/-- The bytes of the colon-separated fields of a piece of an address; an empty piece has
none. -/
def pieceBytes (dottedLast : Bool) (piece : List Char) : Option (List UInt8) :=
  if piece.isEmpty then some [] else fieldBytes dottedLast ((String.ofList piece).splitOn ":")

/-- Where the first `::` of a text starts. -/
def doubleColon : List Char → Option Nat
  | ':' :: ':' :: _ => some 0
  | _ :: rest => (doubleColon rest).map (· + 1)
  | [] => none

/-- The sixteen bytes of an address written with colons. -/
def parse6 (s : String) : Option (List UInt8) :=
  let cs := s.toList
  if cs.contains '%' then none
  else match doubleColon cs with
    | none => do
      let bs ← pieceBytes true cs
      if bs.length == 16 then some bs else none
    | some i =>
      let head := cs.take i
      let tail := cs.drop (i + 2)
      if (doubleColon tail).isSome then none
      else do
        let h ← pieceBytes false head
        let t ← pieceBytes true tail
        if h.length + t.length ≤ 14 then some (h ++ List.replicate (16 - h.length - t.length) 0 ++ t)
        else none

/-- The twelve bytes in front of an IPv4 address mapped into the IPv6 space. -/
def mappedPrefix : List UInt8 := List.replicate 10 0 ++ [255, 255]

/-- The sixteen bytes of an address: the first dot, colon or percent sign of the text says
which way it is written. -/
def parse (s : String) : Option (List UInt8) :=
  match s.toList.find? (fun c => c == '.' || c == ':' || c == '%') with
  | some '.' => (parse4 s).map (mappedPrefix ++ ·)
  | some ':' => parse6 s
  | _ => none

/-- The four bytes of a mapped IPv4 address. -/
def toV4 (ip : List UInt8) : Option (List UInt8) :=
  if ip.take 12 == mappedPrefix then some (ip.drop 12) else none

/-- The eight groups of an address. -/
def groups (ip : List UInt8) : List Nat :=
  (List.range 8).map fun i => (ip.getD (2 * i) 0).toNat * 256 + (ip.getD (2 * i + 1) 0).toNat

/-- How many zero groups start at position `i`. -/
def zeroRun (gs : List Nat) (i : Nat) : Nat := ((gs.drop i).takeWhile (· == 0)).length

/-- The start and length of the first longest run of at least two zero groups. -/
def longestZeros (gs : List Nat) : Option (Nat × Nat) :=
  (List.range gs.length).foldl (fun best i =>
    let l := zeroRun gs i
    if l ≥ 2 && l > (best.map (·.2)).getD 0 then some (i, l) else best) none

/-- A group in lowercase hexadecimal without leading zeros. -/
def groupText (g : Nat) : String := String.ofList (Nat.toDigits 16 g)

/-- The text of an address. -/
def text (ip : List UInt8) : String :=
  match toV4 ip with
  | some v4 => ".".intercalate (v4.map fun b => toString b.toNat)
  | none =>
    let gs := groups ip
    match longestZeros gs with
    | none => ":".intercalate (gs.map groupText)
    | some (i, l) =>
      ":".intercalate ((gs.take i).map groupText) ++ "::" ++
        ":".intercalate ((gs.drop (i + l)).map groupText)

/-- `host:port`, with the host in brackets when it holds a colon. -/
def joinHostPort (host port : String) : String :=
  if host.contains ':' then "[" ++ host ++ "]:" ++ port else host ++ ":" ++ port

end Ip

end Mqtt
