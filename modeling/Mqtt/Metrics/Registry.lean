import Mqtt.Metrics.Store
import Mqtt.Doc.Basic
/-! # A metric registry

A registry holds metric families by name. Each family has a help text, a kind (counter, gauge or
histogram), fixed label names and one series per combination of label values. A metrics front
end creates a family on the first use of a name for each kind, with the label names of that
first use, and registers it:

* a name that is not a valid metric name, or a label name that is not valid, cannot be
  registered;
* a name already registered with the same help text and label names gives back the family
  registered first, which the front end then uses if it is of the same kind;
* a name already registered otherwise is refused.

A family that is not registered still takes writes, but nobody sees them. A use whose label
names differ from the family's goes nowhere. Counters never decrease: adding a negative amount
is a fault that stops everything.

Gathering lists the registered families that have series, ordered by name, each with its series
ordered by label values.
-/

namespace Mqtt

/-- The kind of a metric family. -/
inductive FamilyKind where
  | counter
  | gauge
  | histogram
  deriving DecidableEq, Repr, Inhabited

/-- The name of a kind as a gathered family shows it. -/
def FamilyKind.name : FamilyKind → String
  | .counter => "COUNTER"
  | .gauge => "GAUGE"
  | .histogram => "HISTOGRAM"

/-- The upper bounds of the buckets of a histogram. -/
def defaultBuckets : List Float := [0.005, 0.01, 0.025, 0.05, 0.1, 0.25, 0.5, 1, 2.5, 5, 10]

/-- The value of one series. A counter keeps its whole increments apart from the rest, as
unsigned integer; a histogram keeps how many values fell into each bucket (not cumulated), their
count and their sum. -/
inductive SeriesValue where
  | scalar (whole : Nat) (rest : Float)
  | histogram (perBucket : List Nat) (count : Nat) (sum : Float)
  deriving Repr, Inhabited

/-- The value of a fresh series of a kind. -/
def SeriesValue.fresh : FamilyKind → SeriesValue
  | .histogram => .histogram (defaultBuckets.map fun _ => 0) 0 0
  | _ => .scalar 0 0

/-- The index of the first bucket whose bound is at least `v`; the number of buckets when there
is none. -/
def bucketIndex (bounds : List Float) (v : Float) : Nat :=
  (bounds.findIdx? (v ≤ ·)).getD bounds.length

/-- A family: name, help, kind, label names in order, and its series by label values. A family
from outside the front end has one series without labels. -/
structure Family where
  name : String
  help : String
  kind : FamilyKind
  labelNames : List String
  series : List (List String × SeriesValue) := []
  /-- Whether the family was registered from outside the front end. -/
  foreign : Bool := false
  deriving Repr, Inhabited

/-- A change to one series. -/
inductive MetricWrite where
  | inc
  | dec
  | add (v : Float)
  | set (v : Float)
  | observe (v : Float)
  deriving Repr, Inhabited

/-- The fault of a counter asked to decrease. -/
def counterDecrease : String := "counter cannot decrease in value"

/-- Applies a write to a series of a kind; a counter refuses to decrease. -/
def SeriesValue.write (k : FamilyKind) (w : MetricWrite) : SeriesValue → Except String SeriesValue
  | .scalar whole rest =>
    match k, w with
    | .counter, .inc => .ok (.scalar (whole + 1) rest)
    | .counter, .add v =>
      if v < 0 then .error counterDecrease
      else
        let n := v.floor
        if n == v && v < 18446744073709551616 then .ok (.scalar (whole + v.toUInt64.toNat) rest)
        else .ok (.scalar whole (rest + v))
    | .gauge, .inc => .ok (.scalar whole (rest + 1))
    | .gauge, .dec => .ok (.scalar whole (rest - 1))
    | .gauge, .add v => .ok (.scalar whole (rest + v))
    | .gauge, .set v => .ok (.scalar 0 v)
    | _, _ => .ok (.scalar whole rest)
  | .histogram per count sum =>
    match w with
    | .observe v =>
      let i := bucketIndex defaultBuckets v
      .ok (.histogram (per.mapIdx fun j c => if j == i then c + 1 else c) (count + 1) (sum + v))
    | _ => .ok (.histogram per count sum)

/-- Whether a character may start a metric name. -/
def metricNameStart (c : Char) : Bool := c.isAlpha || c == '_' || c == ':'

/-- Whether a character may continue a metric name. -/
def metricNamePart (c : Char) : Bool := c.isAlphanum || c == '_' || c == ':'

/-- Whether a text is a valid metric name. -/
def validMetricName (s : String) : Bool :=
  match s.toList with
  | [] => false
  | c :: rest => metricNameStart c && rest.all metricNamePart

/-- Whether a text is a valid label name that is not reserved. -/
def validLabelName (s : String) : Bool :=
  match s.toList with
  | [] => false
  | c :: rest =>
    (c.isAlpha || c == '_') && rest.all (fun d => d.isAlphanum || d == '_') && !s.startsWith "__"

/-- A registry: its families, in the order they were registered. -/
structure Registry where
  families : List Family := []
  deriving Repr, Inhabited

/-- Where a front end's family for a name lives: registered under its name, or kept apart with
its label names, unseen. -/
inductive FamilyRef where
  | registered (name : String)
  | detached (labelNames : List String) (series : List (List String × SeriesValue))
  deriving Repr, Inhabited

namespace Registry

/-- The family registered under a name. -/
def find? (r : Registry) (name : String) : Option Family := r.families.find? (·.name == name)

/-- Registers a family from outside the front end: a counter without labels, with the help text
`foreign`. A name that is taken or not valid is left as it is. -/
def registerForeign (r : Registry) (name : String) : Registry :=
  if !validMetricName name || (r.find? name).isSome then r
  else { families := r.families ++ [{ name, help := "foreign", kind := .counter, labelNames := [],
                                      series := [([], .scalar 0 0)], foreign := true }] }

/-- Registers a family for a front end, and says where the front end's family lives. -/
def register (r : Registry) (f : Family) : FamilyRef × Registry :=
  if !validMetricName f.name || !f.labelNames.all validLabelName then (.detached f.labelNames [], r)
  else match r.find? f.name with
    | none => (.registered f.name, { families := r.families ++ [f] })
    | some g =>
      if g.help == f.help && g.labelNames == f.labelNames && g.kind == f.kind && !g.foreign
      then (.registered f.name, r)
      else (.detached f.labelNames [], r)

/-- Changes the family registered under a name. -/
def modifyFamily (r : Registry) (name : String) (g : Family → Family) : Registry :=
  { families := r.families.map fun f => if f.name == name then g f else f }

end Registry

/-- Applies a write to the series with some label values, creating it when new. -/
def writeSeries (k : FamilyKind) (values : List String) (w : MetricWrite)
    (series : List (List String × SeriesValue)) : Except String (List (List String × SeriesValue)) := do
  match series.find? (·.1 == values) with
  | some (_, v) =>
    let v' ← v.write k w
    return series.map fun (ls, x) => if ls == values then (ls, v') else (ls, x)
  | none =>
    let v' ← (SeriesValue.fresh k).write k w
    return series ++ [(values, v')]

/-- A metrics front end on a registry: the family it uses for each name and kind. -/
structure MetricsFrontEnd where
  families : List ((FamilyKind × String) × FamilyRef) := []
  deriving Repr, Inhabited

/-- The help text of a metric name: the client's own metrics have theirs, others their name. -/
def metricHelp (name : String) : String :=
  match name with
  | "umqtt_packets_sent_total" => "The total number of MQTT packets sent"
  | "umqtt_packets_received_total" => "The total number of MQTT packets received"
  | "umqtt_bytes_sent_total" => "The total number of MQTT bytes sent"
  | "umqtt_bytes_received_total" => "The total number of MQTT bytes received"
  | "umqtt_reconnects_total" => "The total number of reconnect attempts"
  | "umqtt_publish_retries_total" => "The total number of retransmitted PUBLISH and PUBREL packets"
  | "umqtt_qos2_dropped_total" => "The total number of inbound QoS 2 messages dropped without delivery"
  | "umqtt_state" => "The current connection state"
  | "umqtt_ack_wait_seconds" => "Time spent waiting for acknowledgments in seconds"
  | other => other

namespace MetricsFrontEnd

/-- Writes to the series of a metric with labels; a fault stops everything. -/
def write (fe : MetricsFrontEnd) (r : Registry) (k : FamilyKind) (name : String) (labels : Labels)
    (w : MetricWrite) : Except String (MetricsFrontEnd × Registry) := do
  let sorted := labels.sorted
  let names := sorted.map (·.1)
  let (ref, fe, r) := match fe.families.lookup (k, name) with
    | some ref => (ref, fe, r)
    | none =>
      let (ref, r') := r.register { name, help := metricHelp name, kind := k, labelNames := names }
      (ref, { families := fe.families ++ [((k, name), ref)] }, r')
  let fits := fun (want : List String) => want.length == names.length && want.all names.contains
  match ref with
  | .registered n =>
    match r.find? n with
    | none => return (fe, r)
    | some f =>
      if !fits f.labelNames then return (fe, r)
      let values := f.labelNames.map fun l => (sorted.lookup l).getD ""
      let series ← writeSeries k values w f.series
      return (fe, r.modifyFamily n fun g => { g with series := series })
  | .detached want series =>
    if !fits want then return (fe, r)
    let values := want.map fun l => (sorted.lookup l).getD ""
    let series' ← writeSeries k values w series
    let fe' := { families := fe.families.map fun (key, x) =>
      if key == (k, name) then (key, .detached want series') else (key, x) }
    return (fe', r)

end MetricsFrontEnd

/-- Orders two lists of label values. -/
def valuesBefore : List String → List String → Bool
  | [], _ :: _ => true
  | a :: as, b :: bs => a < b || (a == b && valuesBefore as bs)
  | _, _ => false

/-- The registered families that have series, ordered by name, with their series ordered by
label values. -/
def Registry.gather (r : Registry) : List Family :=
  let withSeries := r.families.filter fun f => !f.series.isEmpty
  (withSeries.mergeSort fun a b => decide (a.name ≤ b.name)).map fun f =>
    { f with series := f.series.mergeSort fun a b => !valuesBefore b.1 a.1 }

/-- A series as a document: its labels and its value, or for a histogram its count, sum and
cumulated bucket counts. -/
def seriesDoc (names : List String) (s : List String × SeriesValue) : Doc :=
  let labels := Doc.obj ((names.zip s.1).map fun (k, v) => (k, .str v))
  match s.2 with
  | .scalar whole rest => .obj [("labels", labels), ("value", .float (whole.toFloat + rest))]
  | .histogram per count sum =>
    let cumulated := (per.foldl (fun (acc : List Nat × Nat) c => (acc.1 ++ [acc.2 + c], acc.2 + c)) ([], 0)).1
    .obj [("labels", labels), ("count", count), ("sum", .float sum),
          ("buckets", .arr ((defaultBuckets.zip cumulated).map fun (b, c) => .arr [.float b, .int c]))]


/-- A gathered family as a document. -/
def Family.toDoc (f : Family) : Doc :=
  .obj [("name", .str f.name), ("help", .str f.help), ("type", .str f.kind.name),
        ("metrics", .list f.series (seriesDoc f.labelNames))]

/-- A step on a registry shared by two metrics front ends. -/
inductive RegistryStep where
  /-- A family registered from outside the front ends. -/
  | foreign (name : String)
  /-- A write through front end 1 or 2. -/
  | write (second : Bool) (k : FamilyKind) (name : String) (labels : Labels) (w : MetricWrite)
  deriving Repr, Inhabited

/-- Runs steps on an empty registry with two fresh front ends; a fault stops everything. -/
def runRegistrySteps (steps : List RegistryStep) : Except String Registry := do
  let init : Registry × MetricsFrontEnd × MetricsFrontEnd := ({}, {}, {})
  let (r, _, _) ← steps.foldlM (fun (st : Registry × MetricsFrontEnd × MetricsFrontEnd) s =>
    let (r, a, b) := st
    match s with
    | .foreign name => pure (r.registerForeign name, a, b)
    | .write second k name labels w =>
      if second then do
        let (b', r') ← b.write r k name labels w
        pure (r', a, b')
      else do
        let (a', r') ← a.write r k name labels w
        pure (r', a', b)) init
  return r

/-- The outcome of steps on a registry as a document: the gathered families, or the fault. -/
def registryReport (steps : List RegistryStep) : Doc :=
  match runRegistrySteps steps with
  | .ok r => .obj [("families", .list r.gather Family.toDoc)]
  | .error m => .obj [("error", .str "panic"), ("message", .str m)]

end Mqtt
