/-! # An in-memory metric store

Counters, gauges and histograms live in one store each, keyed by the text of a series: the
metric name followed by `|name=value` for every label, in the order of the label names. A store
keeps its series in the order they were first touched. A histogram keeps how many values it saw
and their sum.
-/

namespace Mqtt

/-- Label names with their values; a name occurs at most once. -/
abbrev Labels := List (String × String)

/-- The labels ordered by name. -/
def Labels.sorted (l : Labels) : Labels := l.mergeSort fun a b => decide (a.1 ≤ b.1)

/-- The key of a series: the name alone without labels, else the name and every label as
`|name=value`, labels ordered by name. -/
def labelsKey (name : String) (labels : Labels) : String :=
  labels.sorted.foldl (fun acc (k, v) => acc ++ "|" ++ k ++ "=" ++ v) name

/-- A histogram: the number of values observed and their sum. -/
structure Tally where
  count : Nat := 0
  sum : Float := 0
  deriving Repr, Inhabited

/-- Series keyed by text, in the order they were first touched. -/
abbrev Series (α : Type) := List (String × α)

namespace Series

variable {α : Type}

/-- The value of a series, if it was ever touched. -/
def get? (s : Series α) (key : String) : Option α := s.lookup key

/-- Changes the value of a series, starting from `init` when the series is new. -/
def update (s : Series α) (key : String) (init : α) (f : α → α) : Series α :=
  match s.find? (·.1 == key) with
  | some _ => s.map fun (k, v) => if k == key then (k, f v) else (k, v)
  | none => s ++ [(key, f init)]

end Series

/-- All series of a metric store. -/
structure MetricStore where
  counters : Series Float := []
  gauges : Series Float := []
  histograms : Series Tally := []
  deriving Repr, Inhabited

namespace MetricStore

/-- Adds to a counter. -/
def counterAdd (m : MetricStore) (key : String) (delta : Float) : MetricStore :=
  { m with counters := m.counters.update key 0 (· + delta) }

/-- Adds to a gauge. -/
def gaugeAdd (m : MetricStore) (key : String) (delta : Float) : MetricStore :=
  { m with gauges := m.gauges.update key 0 (· + delta) }

/-- Sets a gauge. -/
def gaugeSet (m : MetricStore) (key : String) (value : Float) : MetricStore :=
  { m with gauges := m.gauges.update key 0 fun _ => value }

/-- Records one value in a histogram. -/
def observe (m : MetricStore) (key : String) (value : Float) : MetricStore :=
  { m with histograms := m.histograms.update key {} fun t => { count := t.count + 1, sum := t.sum + value } }

/-- Makes a histogram exist without recording a value. -/
def touchHistogram (m : MetricStore) (key : String) : MetricStore :=
  { m with histograms := m.histograms.update key {} id }

/-- The value of a counter; zero if it was never touched. -/
def counterValue (m : MetricStore) (key : String) : Float := (m.counters.get? key).getD 0

/-- The value of a gauge; zero if it was never touched. -/
def gaugeValue (m : MetricStore) (key : String) : Float := (m.gauges.get? key).getD 0

/-- The number of values a histogram saw; zero if it was never touched. -/
def histogramCount (m : MetricStore) (key : String) : Nat := ((m.histograms.get? key).map (·.count)).getD 0

end MetricStore

end Mqtt
