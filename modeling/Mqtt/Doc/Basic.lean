import Mqtt.Failure
import Mqtt.Wire.Bytes
/-! # Documents

A `Doc` is a tree of values in the shape of JSON: the form in which the library reads settings
and scripts and describes its results. A described failure is kept as a failure, so whoever
prints the document decides how failures are written.

Reading a document field by field reports a missing or mistyped field by its name. Binary data
is written in documents as hexadecimal text, and text that is not UTF-8 as an object holding
its bytes in hexadecimal under `hex`.
-/

namespace Mqtt

/-- A document. -/
inductive Doc where
  | null
  | bool (b : Bool)
  | int (n : Int)
  | float (x : Float)
  | str (s : String)
  | arr (items : List Doc)
  | obj (fields : List (String × Doc))
  | failure (f : Failure)
  deriving Repr, Inhabited

/-- The fields of an object document. -/
abbrev Doc.Fields := List (String × Doc)

/-- Reading a document: a failed read says which field was wrong. -/
abbrev DocRead := Except String

namespace Doc

instance : Coe Bool Doc := ⟨bool⟩
instance : Coe String Doc := ⟨str⟩
instance : Coe Int Doc := ⟨int⟩
instance : Coe Nat Doc := ⟨fun n => int n⟩

/-- Binary data as hexadecimal text. -/
def ofBytes (b : Bytes) : Doc := str (Bytes.toHex b)

/-- Text as a string, or as its bytes in hexadecimal when it is not UTF-8. -/
def ofText (b : Bytes) : Doc :=
  match Bytes.toString? b with
  | some s => str s
  | none => obj [("hex", ofBytes b)]

/-- A list of items. -/
def list {α : Type} (l : List α) (f : α → Doc) : Doc := arr (l.map f)

/-- A failure, or `null` for success. -/
def ofCheck (r : Except Failure Unit) : Doc :=
  match r with
  | .ok () => null
  | .error f => failure f

/-- `{ok: true}` for success, or the failure. -/
def okOr (r : Except Failure Unit) : Doc :=
  match r with
  | .ok () => obj [("ok", bool true)]
  | .error f => failure f

/-- The fields of an object; other documents have none. -/
def fields : Doc → List (String × Doc)
  | obj fs => fs
  | _ => []

/-- An object with more fields. -/
def extend (d : Doc) (more : List (String × Doc)) : Doc := obj (d.fields ++ more)

/-- The fields describing a failure, to stand beside other fields of an object. -/
def failureFields (f : Failure) : List (String × Doc) := [("error", failure f)]

/-- A field's value; a `null` value counts as absent. -/
def get? (d : Doc) (k : String) : Option Doc :=
  match d.fields.lookup k with
  | some null => none
  | v => v

/-- A text field. -/
def strOpt (d : Doc) (k : String) : DocRead (Option String) :=
  match d.get? k with
  | none => pure none
  | some (str s) => pure (some s)
  | some _ => throw s!"field {k}: not a string"

def getStr (d : Doc) (k : String) (dflt : String := "") : DocRead String := do
  return (← d.strOpt k).getD dflt

/-- A boolean field. -/
def boolOpt (d : Doc) (k : String) : DocRead (Option Bool) :=
  match d.get? k with
  | none => pure none
  | some (bool b) => pure (some b)
  | some _ => throw s!"field {k}: not a bool"

def getBool (d : Doc) (k : String) : DocRead Bool := do return (← d.boolOpt k).getD false

/-- An integer field. -/
def intOpt (d : Doc) (k : String) : DocRead (Option Int) :=
  match d.get? k with
  | none => pure none
  | some (int n) => pure (some n)
  | some _ => throw s!"field {k}: not an integer"

def getInt (d : Doc) (k : String) (dflt : Int := 0) : DocRead Int := do
  return (← d.intOpt k).getD dflt

/-- A number field, integer or not. -/
def getFloat (d : Doc) (k : String) : DocRead Float :=
  match d.get? k with
  | none => pure 0
  | some (int n) => pure (Float.ofInt n)
  | some (float x) => pure x
  | some _ => throw s!"field {k}: not a number"

/-- An integer field between 0 and `hi`. -/
def getNat (d : Doc) (k : String) (hi : Nat) (dflt : Nat := 0) : DocRead Nat := do
  match ← d.intOpt k with
  | none => pure dflt
  | some i => if i < 0 || i > hi then throw s!"field {k}: out of range" else pure i.toNat

def getU8 (d : Doc) (k : String) : DocRead UInt8 := do return (← d.getNat k 255).toUInt8
def getU16 (d : Doc) (k : String) : DocRead UInt16 := do return (← d.getNat k 65535).toUInt16

/-- A list field. -/
def getList (d : Doc) (k : String) : DocRead (List Doc) :=
  match d.get? k with
  | none => pure []
  | some (arr a) => pure a
  | some _ => throw s!"field {k}: not a list"

/-- The bytes of hexadecimal text. -/
def hexField (k s : String) : DocRead Bytes :=
  match Bytes.ofHex? s with
  | some b => pure b
  | none => throw s!"field {k}: bad hex"

/-- Bytes repeated `n` times. -/
def repeatBytes (b : Bytes) (n : Nat) : Bytes := (List.replicate n b).flatten

/-- A binary field: hexadecimal under `k`, text under `k_text`, or under `k_repeat` a piece of
hexadecimal or text with a repeat count. -/
def bytesOpt (d : Doc) (k : String) : DocRead (Option Bytes) := do
  if let some s ← d.strOpt k then return some (← hexField k s)
  if let some s ← d.strOpt (k ++ "_text") then return some (Bytes.ofString s)
  match d.get? (k ++ "_repeat") with
  | none => return none
  | some r =>
    let n ← r.getNat "count" 100000000
    if let some h ← r.strOpt "hex" then return some (repeatBytes (← hexField k h) n)
    return some (repeatBytes (Bytes.ofString (← r.getStr "text")) n)

def getBytes (d : Doc) (k : String) : DocRead Bytes := do return (← d.bytesOpt k).getD []

/-- A text field: text under `k`, its bytes in hexadecimal under `k_hex`, or under `k_repeat`
a piece of text with a repeat count. -/
def textOpt (d : Doc) (k : String) : DocRead (Option Bytes) := do
  if let some s ← d.strOpt k then return some (Bytes.ofString s)
  if let some s ← d.strOpt (k ++ "_hex") then return some (← hexField k s)
  match d.get? (k ++ "_repeat") with
  | none => return none
  | some r => return some (repeatBytes (Bytes.ofString (← r.getStr "text")) (← r.getNat "count" 100000000))

def getText (d : Doc) (k : String) : DocRead Bytes := do return (← d.textOpt k).getD []

end Doc

end Mqtt
