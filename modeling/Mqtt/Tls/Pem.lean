import Mqtt.Text.Base64
/-! # PEM blocks

A PEM file holds blocks of base64 data between a line `-----BEGIN TYPE-----` and a line
`-----END TYPE-----`, with optional `Key: value` header lines after the first. Text around
blocks is ignored, and so is a block that is not closed by a matching END line, whose END line
holds more than blanks after it, or whose data is not base64: the search for the next block
goes on after its BEGIN marker.

Base64 data is read in the standard alphabet with padding; spaces, tabs and line breaks inside
it are ignored.
-/

namespace Mqtt

namespace Pem

/-- A block: its type, its headers and its data. -/
structure Block where
  type : String
  headers : List (String × String)
  bytes : Bytes
  deriving Repr, Inhabited

/-- Whether a list starts with another. -/
def startsWith (l p : List Char) : Bool := l.take p.length == p

/-- The position of the first occurrence of a pattern, if any. -/
def find? (l p : List Char) : Option Nat :=
  (List.range (l.length + 1)).find? fun i => startsWith (l.drop i) p

/-- The first line of text without its trailing blanks, and the text after its line break. -/
def getLine (l : List Char) : List Char × List Char :=
  let line := l.takeWhile (· != '\n')
  let rest := l.drop (line.length + 1)
  let trimmed := (line.reverse.dropWhile fun c => c == ' ' || c == '\t' || c == '\r').reverse
  (trimmed, rest)

/-- Text without blanks at either end. -/
def trimBlank (l : List Char) : List Char :=
  let blank := fun c => c == ' ' || c == '\t' || c == '\n' || c == '\r' || c == '\x0b' || c == '\x0c'
  ((l.dropWhile blank).reverse.dropWhile blank).reverse

/-- The header lines at the start of a block, and the text after them; none when the text ends
among them. -/
def headerLines : Nat → List Char → Option (List (String × String) × List Char)
  | 0, rest => some ([], rest)
  | fuel + 1, rest =>
    if rest.isEmpty then none
    else
      let (line, next) := getLine rest
      match line.findIdx? (· == ':') with
      | none => some ([], rest)
      | some i =>
        let key := String.ofList (trimBlank (line.take i))
        let value := String.ofList (trimBlank (line.drop (i + 1)))
        (headerLines fuel next).map fun (hs, r) => ((key, value) :: hs, r)

/-- The marker that starts a block, after a line break. -/
def beginMarker : List Char := "\n-----BEGIN ".toList

/-- The marker that ends a block, after a line break. -/
def endMarker : List Char := "\n-----END ".toList

/-- The five dashes that end a marker line. -/
def dashes : List Char := "-----".toList

/-- Reads the block that starts right after a BEGIN marker, or says to search on from `rest`. -/
def blockAfterBegin (rest : List Char) : Except (List Char) (Block × List Char) := do
  let (typeLine, rest) := getLine rest
  if !(typeLine.reverse.take 5 == dashes.reverse) then throw rest
  let type := typeLine.take (typeLine.length - 5)
  let some (headers, rest) := headerLines rest.length rest | throw []
  let (endIndex, trailerStart) ←
    if headers.isEmpty && startsWith rest (endMarker.drop 1) then pure (0, endMarker.length - 1)
    else match find? rest endMarker with
      | some i => pure (i, i + endMarker.length)
      | none => throw rest
  let trailer := rest.drop trailerStart
  let trailerLen := type.length + 5
  if trailer.length < trailerLen then throw rest
  let restOfEndLine := trailer.drop trailerLen
  let trailer := trailer.take trailerLen
  if !(startsWith trailer type && trailer.drop type.length == dashes) then throw rest
  if !(getLine restOfEndLine).1.isEmpty then throw rest
  let data := (rest.take endIndex).filter fun c => c != ' ' && c != '\t'
  let some bytes := Base64.decode data | throw rest
  let after := (getLine (rest.drop (endIndex + endMarker.length - 1))).2
  return ({ type := String.ofList type, headers, bytes }, after)

/-- The first block of a text and the text after it, if there is a block. -/
def decode? (text : List Char) : Option (Block × List Char) :=
  go (text.length + 1) text
where
  go : Nat → List Char → Option (Block × List Char)
    | 0, _ => none
    | fuel + 1, rest =>
      let start := "-----BEGIN ".toList
      let afterBegin :=
        if startsWith rest start then some (rest.drop start.length)
        else (find? rest beginMarker).map fun i => rest.drop (i + beginMarker.length)
      match afterBegin with
      | none => none
      | some r =>
        match blockAfterBegin r with
        | .ok found => some found
        | .error [] => none
        | .error next => go fuel next

/-- Every block of a text, in order. -/
def blocks (text : String) : List Block :=
  go (text.length + 1) text.toList
where
  go : Nat → List Char → List Block
    | 0, _ => []
    | fuel + 1, rest =>
      match decode? rest with
      | none => []
      | some (b, after) => b :: go fuel after

end Pem

end Mqtt
