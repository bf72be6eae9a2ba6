import Mqtt.Failure
import Mqtt.Wire.Bytes
/-! # Topics and topic filters

A topic name is a non-empty string of levels separated by `/`; a topic filter may use `+` for
exactly one non-empty level and `#`, as its last level, for any number of further levels.
`Topic.filterMatches` compares a filter with a topic level by level; a topic that starts with `$` is
matched only by filters that name its first level.
-/

namespace Mqtt

namespace Topic

/-- The byte of `/`, which separates levels. -/
def separator : UInt8 := 0x2F

/-- The single-level wildcard `+`. -/
def plus : UInt8 := 0x2B

/-- The multi-level wildcard `#`. -/
def hash : UInt8 := 0x23

/-- The levels of a topic or filter, split at every `/`; there is always at least one. -/
def levels (s : Bytes) : List Bytes := s.splitOn separator

/-- The characters of a name or filter: non-empty, at most 65535 bytes of UTF-8 without NUL. -/
def checkChars (s : Bytes) (invalid : Condition) : Except Failure Unit :=
  if s.isEmpty then .error (.of .emptyTopic)
  else if s.length > 65535 || !Bytes.validUtf8 s || s.contains 0 then .error (.of invalid)
  else .ok ()

/-- A topic name has valid characters and no wildcard. -/
def validateName (s : Bytes) : Except Failure Unit := do
  checkChars s .invalidTopicName
  if s.contains plus || s.contains hash then throw (.of .invalidTopicName)

/-- Whether a level of a filter is well placed: `+` stands alone, and `#` stands alone as the
last level. -/
def levelOk (isLast : Bool) (l : Bytes) : Bool :=
  (!l.contains plus || l == [plus]) && (!l.contains hash || (l == [hash] && isLast))

/-- Whether every level of a filter is well placed. -/
def levelsOk : List Bytes → Bool
  | [] => true
  | [l] => levelOk true l
  | l :: rest => levelOk false l && levelsOk rest

/-- A topic filter has valid characters and well-placed wildcards. -/
def validateFilter (s : Bytes) : Except Failure Unit := do
  checkChars s .invalidTopicFilter
  if !levelsOk (levels s) then throw (.of .invalidTopicFilter)

/-- Level-wise matching: `#` matches whatever remains, `+` any one non-empty level, any other
level itself; a filter that goes on after the topic ends matches only if what remains is `#`. -/
def matchLevels : List Bytes → List Bytes → Bool
  | f :: fs, t :: ts =>
    if f == [hash] then fs.isEmpty
    else if (if f == [plus] then t.isEmpty else f != t) then false
    else
      match fs, ts with
      | [], [] => true
      | [], _ :: _ => false
      | _ :: _, [] => fs == [[hash]]
      | _ :: _, _ :: _ => matchLevels fs ts
  | _, _ => false

/-- Whether a topic starts with `$`, the mark of the broker's own topics. -/
def isSystem (t : Bytes) : Bool := t.head? == some 0x24

/-- Whether a filter matches a topic. -/
def filterMatches (filter topic : Bytes) : Bool :=
  if filter.isEmpty || topic.isEmpty then false
  else if isSystem topic && (filter.head? == some plus || filter.head? == some hash) then false
  else matchLevels (levels filter) (levels topic)

end Topic

end Mqtt
