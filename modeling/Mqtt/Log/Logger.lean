import Mqtt.Log.Level
import Mqtt.Doc.Text
/-! # Structured logs

A log record has a level, a message and named values. A logger writes a record when its level
lets it through and it is not switched off; it adds its own named values to every record, before
those of the call, and a later value of a name replaces an earlier one.

A logger's reported level and the level that filters its records are the same, except for a
logger that wraps a handler of its own: that handler lets every record through whatever level
is set, and only switching the logger off silences it.
-/

namespace Mqtt

/-- The four levels a record can have, by their numbers. -/
def LogLevel.ofSetting (l : LogLevel) : LogLevel :=
  if l == .debug || l == .warn || l == .error then l else .info

/-- A written log record. -/
structure LogRecord where
  level : LogLevel
  msg : String
  attrs : Doc.Fields := []
  deriving Repr, Inhabited

/-- The record as a document: level name, message and values, each name once. -/
def LogRecord.toDoc (r : LogRecord) : Doc :=
  .obj (Doc.lastFields ([("level", .str r.level.name), ("msg", .str r.msg)] ++ r.attrs))

/-- A logger. -/
structure Logger where
  /-- Whether the logger is switched off. -/
  off : Bool := false
  /-- The level set, one of the four record levels. -/
  level : LogLevel := .info
  /-- Whether records are filtered by the level set. -/
  filtered : Bool := true
  attrs : Doc.Fields := []
  deriving Repr, Inhabited

namespace Logger

/-- A logger that writes nothing. -/
def silent : Logger := { off := true }

/-- Sets the level; the level of logging nothing switches the logger off. -/
def setLevel (g : Logger) (l : LogLevel) : Logger :=
  { g with off := l == .silent, level := l.ofSetting }

/-- A filtering logger at a level. -/
def atLevel (l : LogLevel) : Logger := ({} : Logger).setLevel l

/-- The level the logger reports. -/
def reported (g : Logger) : LogLevel := if g.off then .silent else g.level

/-- The logger with more values added to every record. -/
def withAttrs (g : Logger) (attrs : Doc.Fields) : Logger := { g with attrs := g.attrs ++ attrs }

/-- The record a call writes, if any. -/
def record (g : Logger) (l : LogLevel) (msg : String) (attrs : Doc.Fields) : Option LogRecord :=
  if g.off then none
  else if g.filtered && l.code < g.level.code then none
  else some { level := l, msg := msg, attrs := g.attrs ++ attrs }

end Logger

end Mqtt
