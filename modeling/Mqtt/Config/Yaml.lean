import Mqtt.Config.Basic
import Mqtt.Yaml.Parser
import Mqtt.Text.Base64
/-! # Reading a configuration from YAML

The first document of a YAML text is read over a configuration, section by section. A key the
configuration does not know is ignored, and a null value leaves a setting as it was. A text
setting takes the text of any other scalar; an integer setting takes an integer that fits 64 bits
signed or a float, cut towards zero; a boolean setting takes a boolean or one of the words `y`,
`yes`, `on`, `n`, `no`, `off` in three spellings; a float setting takes an integer or a float.

Anything else is a type error, `line N: cannot unmarshal TAG VALUE into TYPE`, where the value is
left out for collections and cut to seven bytes when longer than ten. A mapping that repeats a
key is not read at all, and each repetition is an error. Type errors are collected and reported
together; a scalar whose explicit tag does not fit its text, and a merge of something other than
mappings, stop the reading at once.

A key `<<` merges mappings into the one holding it: their keys count where the mapping does not
set them itself, the first merged mapping winning.
-/

namespace Mqtt

namespace Config

open Yaml

/-- Reading settings from nodes: the type errors found so far, or a problem that stops
reading. -/
abbrev Reading := StateT (List String) (Except String)

/-- Stops reading with a problem. -/
def stop {α : Type} (text : String) : Reading α := throw ("yaml: " ++ text)

/-- Records a type error. -/
def typeError (text : String) : Reading Unit := modify (· ++ [text])

/-- The first `n` bytes of text; a character cut in two leaves one replacement character for
each of its bytes that is kept. -/
def bytePrefix (s : String) (n : Nat) : String :=
  let (kept, used) := s.toList.foldl (fun (acc : List Char × Nat) c =>
    if acc.2 == n || acc.2 + c.utf8Size > n then (acc.1, if acc.2 == n then n else acc.2)
    else (acc.1 ++ [c], acc.2 + c.utf8Size)) ([], 0)
  let whole := s.utf8ByteSize
  let cut := min n whole - used
  String.ofList (kept ++ List.replicate cut '�')

/-- Records that a node cannot fill a setting of a type. -/
def mismatch (n : Node) (into : String) : Reading Unit := do
  let tag := n.tag
  let text := n.text
  let shown := if tag == "!!seq" || tag == "!!map" then ""
    else if text.utf8ByteSize > 10 then " `" ++ bytePrefix text 7 ++ "...`"
    else " `" ++ text ++ "`"
  let line := n.line
  typeError s!"line {line}: cannot unmarshal {tag}{shown} into {into}"

/-- Whether two keys are the same: both scalars, both sequences or both mappings, with the
same text. -/
def sameKey (a b : Node) : Bool :=
  a.text == b.text && match a, b with
    | .scalar .., .scalar .. | .sequence .., .sequence .. | .mapping .., .mapping .. => true
    | _, _ => false

/-- Records every key of a mapping that repeats an earlier one; true when there is one. -/
def repeatedKeys (pairs : List (Node × Node)) : Reading Bool := do
  let keys := pairs.map Prod.fst
  let mut found := false
  for (k, i) in keys.zipIdx do
    for later in keys.drop (i + 1) do
      if sameKey k later then
        let line := later.line
        let first := k.line
        let name := Text.quote later.text
        typeError s!"line {line}: mapping key {name} already defined at line {first}"
        found := true
  return found

/-- The value of a scalar: text for a scalar marked as a string, the decoded bytes for one
tagged as base64 binary, else what its tag and text give. -/
def scalarValue (n : Node) : Reading ScalarValue :=
  if n.tag == "!!str" then pure (.text n.text)
  else if n.tag == "!!binary" then
    match Base64.decode n.text.toList with
    | some b => pure (.text (Bytes.toStringLossy b))
    | none => stop "!!binary value contains invalid base64 data"
  else match resolve n.tag n.text with
    | .ok (_, v) => pure v
    | .error e => stop e

/-- Reads a node into a scalar setting of a type: `accept` says what a scalar value gives, and
a null leaves the setting as it was. -/
def readScalar {α : Type} (into : String) (accept : Node → ScalarValue → Option α) (n : Node)
    (current : α) : Reading α := do
  match n with
  | .scalar .. =>
    match ← scalarValue n with
    | .null => pure current
    | v => match accept n v with
      | some a => pure a
      | none => do mismatch n into; pure current
  | .mapping pairs _ _ =>
    if !(← repeatedKeys pairs) then mismatch n into
    pure current
  | .sequence .. => do mismatch n into; pure current

/-- The integer a float gives when cut towards zero into 64 bits; out of range it is the
smallest integer. -/
def truncatedInt (x : Float) : Int :=
  if x ≥ 9223372036854775808.0 || x < -9223372036854775808.0 then minInt64
  else
    let t : Int := x.abs.toUInt64.toNat
    if x < 0 then -t else t

/-- Reads a text setting: the scalar as written, or the decoded bytes of base64 binary. -/
def readText : Node → String → Reading String :=
  readScalar "string" fun n v => match v with
    | .text s => some (if n.tag == "!!binary" then s else n.text)
    | _ => some n.text

/-- Reads an integer setting. -/
def readInt : Node → Int → Reading Int :=
  readScalar "int" fun _ v => match v with
    | .int i => if i ≤ maxInt64 then some i else none
    | .float x => if x ≤ 9223372036854775808.0 then some (truncatedInt x) else none
    | _ => none

/-- The words that read as true and as false in a boolean setting. -/
def yesWords : List String := ["y", "Y", "yes", "Yes", "YES", "on", "On", "ON"]

/-- The words that read as false in a boolean setting. -/
def noWords : List String := ["n", "N", "no", "No", "NO", "off", "Off", "OFF"]

/-- Reads a boolean setting. -/
def readBool : Node → Bool → Reading Bool :=
  readScalar "bool" fun _ v => match v with
    | .bool b => some b
    | .text s => if yesWords.contains s then some true else if noWords.contains s then some false
      else none
    | _ => none

/-- Reads a float setting. -/
def readFloat : Node → Float → Reading Float :=
  readScalar "float64" fun _ v => match v with
    | .int i => some (Float.ofInt i)
    | .float x => some x
    | _ => none

/-- How each key of a section is read into it. -/
abbrev Keys (σ : Type) := List (String × (Node → σ → Reading σ))

/-- The name a key gives: the text of a scalar that is not null. A collection is a type error. -/
def keyName (k : Node) : Reading (Option String) := do
  match k with
  | .scalar .. =>
    match ← scalarValue k with
    | .null => pure none
    | _ => pure (some k.text)
  | _ => do
    let _ ← readText k ""
    pure none

/-- Whether a key asks to merge mappings. -/
def isMergeKey (k : Node) : Bool :=
  match k with
  | .scalar "<<" tag _ _ => tag == "!!merge" || tag == "" || tag == "!"
  | _ => false

/-- The names of the keys of a mapping that read as text. -/
def textKeys (pairs : List (Node × Node)) : Reading (List String) :=
  pairs.filterMapM fun (k, _) => match k with
    | .scalar .. => do
      match ← scalarValue k with
      | .text s => pure (some s)
      | _ => pure none
    | _ => pure none

/-- The mappings a merge value names: a mapping, or a sequence of mappings. -/
def mergedMappings (m : Node) : Reading (List Node) :=
  match m with
  | .mapping .. => pure [m]
  | .sequence items _ _ =>
    if items.all fun i => match i with | .mapping .. => true | _ => false then pure items
    else stop "map merge requires map or list of maps"
  | _ => stop "map merge requires map or list of maps"

/-- Reads a node into a section of type `into`. `taken`, while mappings are merged, holds the
keys set already, which are skipped; the keys read are added to it. -/
def readSection {σ : Type} (into : String) (keys : Keys σ) :
    Nat → Option (List String) → Node → σ → Reading (σ × Option (List String))
  | 0, taken, _, current => pure (current, taken)
  | fuel + 1, taken, n, current => do
    match n with
    | .scalar .. =>
      match ← scalarValue n with
      | .null => pure (current, taken)
      | _ => do mismatch n into; pure (current, taken)
    | .sequence .. => do mismatch n into; pure (current, taken)
    | .mapping pairs _ _ =>
      if ← repeatedKeys pairs then return (current, taken)
      let mut s := current
      let mut taken := taken
      let mut done : List String := []
      let mut merge : Option Node := none
      for (k, v) in pairs do
        if isMergeKey k then
          merge := some v
          continue
        let some name ← keyName k | continue
        if let some t := taken then
          if t.contains name then continue
          taken := some (t ++ [name])
        match keys.lookup name with
        | none => pure ()
        | some read =>
          if done.contains name then
            let line := k.line
            typeError s!"line {line}: field {name} already set in type {into}"
          else
            done := name :: done
            s ← read v s
      match merge with
      | none => return (s, taken)
      | some m =>
        let own := taken.isSome
        let mut shared ← match taken with
          | some t => pure t
          | none => textKeys pairs
        for part in ← mergedMappings m do
          let (s', t') ← readSection into keys fuel (some shared) part s
          s := s'
          shared := t'.getD shared
        return (s, if own then some shared else none)

/-- Reads a node into a section that holds no merges of its own. -/
def readPlainSection {σ : Type} (into : String) (keys : Keys σ) (n : Node) (current : σ) :
    Reading σ := do
  return (← readSection into keys 1000 none n current).1

/-- The keys of the broker section. -/
def brokerKeys : Keys Broker :=
  [("uri", fun n b => return { b with uri := ← readText n b.uri }),
   ("client_id", fun n b => return { b with clientId := ← readText n b.clientId }),
   ("username", fun n b => return { b with username := ← readText n b.username }),
   ("password", fun n b => return { b with password := ← readText n b.password }),
   ("clean_session", fun n b => return { b with cleanSession := ← readBool n b.cleanSession }),
   ("protocol", fun n b => return { b with protocol := ← readText n b.protocol }),
   ("protocol_level", fun n b => return { b with protocolLevel := ← readInt n b.protocolLevel }),
   ("proxy", fun n b => return { b with proxy := ← readText n b.proxy })]

/-- The keys of the TLS section. -/
def tlsKeys : Keys Tls :=
  [("ca_file", fun n t => return { t with caFile := ← readText n t.caFile }),
   ("cert_file", fun n t => return { t with certFile := ← readText n t.certFile }),
   ("key_file", fun n t => return { t with keyFile := ← readText n t.keyFile }),
   ("server_name", fun n t => return { t with serverName := ← readText n t.serverName }),
   ("insecure_skip_verify", fun n t =>
     return { t with insecureSkipVerify := ← readBool n t.insecureSkipVerify })]

/-- The keys of the keepalive section. -/
def keepAliveKeys : Keys KeepAlive :=
  [("interval", fun n k => return { k with interval := ← readInt n k.interval }),
   ("max_missed", fun n k => return { k with maxMissed := ← readInt n k.maxMissed }),
   ("connect", fun n k => return { k with connect := ← readInt n k.connect })]

/-- The keys of the reconnect section. -/
def reconnectKeys : Keys Reconnect :=
  [("max_attempts", fun n r => return { r with maxAttempts := ← readInt n r.maxAttempts }),
   ("interval", fun n r => return { r with interval := ← readInt n r.interval }),
   ("delay", fun n r => return { r with delay := ← readInt n r.delay })]

/-- The keys of the timeouts section. -/
def timeoutKeys : Keys Timeouts :=
  [("connect", fun n t => return { t with connect := ← readInt n t.connect }),
   ("recv", fun n t => return { t with recv := ← readInt n t.recv }),
   ("send", fun n t => return { t with send := ← readInt n t.send })]

/-- The keys of the limits section. -/
def limitKeys : Keys Limits :=
  [("send_buffer", fun n l => return { l with sendBuffer := ← readInt n l.sendBuffer }),
   ("recv_buffer", fun n l => return { l with recvBuffer := ← readInt n l.recvBuffer }),
   ("max_subscriptions", fun n l =>
     return { l with maxSubscriptions := ← readInt n l.maxSubscriptions }),
   ("qos2_queue", fun n l => return { l with qos2Queue := ← readInt n l.qos2Queue }),
   ("publish_retries", fun n l => return { l with publishRetries := ← readInt n l.publishRetries }),
   ("publish_rate", fun n l => return { l with publishRate := ← readFloat n l.publishRate }),
   ("publish_burst", fun n l => return { l with publishBurst := ← readInt n l.publishBurst })]

/-- The keys of the will section. -/
def willKeys : Keys Will :=
  [("topic", fun n w => return { w with topic := ← readText n w.topic }),
   ("payload", fun n w => return { w with payload := ← readText n w.payload }),
   ("qos", fun n w => return { w with qos := ← readInt n w.qos }),
   ("retain", fun n w => return { w with retain := ← readBool n w.retain })]

/-- The keys of the logging section. -/
def loggingKeys : Keys Logging :=
  [("level", fun n l => return { l with level := ← readText n l.level }),
   ("format", fun n l => return { l with format := ← readText n l.format })]

/-- The keys of the metrics section. -/
def metricsKeys : Keys Metrics :=
  [("addr", fun n m => return { m with addr := ← readText n m.addr })]

/-- The sections of a configuration. -/
def sectionKeys : Keys Config :=
  [("broker", fun n c => return { c with
      broker := ← readPlainSection "config.BrokerConfig" brokerKeys n c.broker }),
   ("tls", fun n c => return { c with tls := ← readPlainSection "config.TLSConfig" tlsKeys n c.tls }),
   ("keepalive", fun n c => return { c with
      keepAlive := ← readPlainSection "config.KeepAliveConfig" keepAliveKeys n c.keepAlive }),
   ("reconnect", fun n c => return { c with
      reconnect := ← readPlainSection "config.ReconnectConfig" reconnectKeys n c.reconnect }),
   ("timeouts", fun n c => return { c with
      timeouts := ← readPlainSection "config.TimeoutConfig" timeoutKeys n c.timeouts }),
   ("limits", fun n c => return { c with
      limits := ← readPlainSection "config.LimitsConfig" limitKeys n c.limits }),
   ("will", fun n c => return { c with will := ← readPlainSection "config.WillConfig" willKeys n c.will }),
   ("logging", fun n c => return { c with
      logging := ← readPlainSection "config.LoggingConfig" loggingKeys n c.logging }),
   ("metrics", fun n c => return { c with
      metrics := ← readPlainSection "config.MetricsConfig" metricsKeys n c.metrics })]

/-- Reads the first document of a YAML text over a configuration. -/
def readYaml (text : String) (base : Config) : Except String Config :=
  match parseDocument text with
  | .error e => .error e.message
  | .ok none => .ok base
  | .ok (some root) =>
    match (readPlainSection "config.Config" sectionKeys root base).run [] with
    | .error e => .error e
    | .ok (c, []) => .ok c
    | .ok (_, errors) => .error ("yaml: unmarshal errors:\n  " ++ "\n  ".intercalate errors)

end Config

end Mqtt
