import Mqtt.Client.Operations
import Mqtt.Client.Document
/-! # Scripted sessions

A scripted session runs a client against a scripted broker, step by step, and reports what
could be seen after each step: the step's result, the client's state, the packets written, the
messages handed to handlers, the events, the connection attempts and, when the client logs, its
log records. After the last step the client is deleted, and its metrics are reported.

The client is built with settings that suit a script: a reconnect delay of 1 ms, a connect
timeout of 100 ms, a receive timeout of 40 ms and the client identifier `oracle`, then the
script's own options, and last the scripted dialer, event reporting, a timer that never fires
by itself, metrics unless the script turns them off, and a log at the script's level if it
names one.

Time passes between steps: a few milliseconds per step, and 150 ms after the reader is told to
stop. Each step ends when nothing is left to run but waits for the broker.
-/

namespace Mqtt

/-- Replaces or adds the value of a key. -/
def upsertKey {κ α : Type} [BEq κ] (l : List (κ × α)) (k : κ) (v : α) : List (κ × α) :=
  if l.any (·.1 == k) then l.map fun (j, w) => if j == k then (j, v) else (j, w) else l ++ [(k, v)]

/-- A change to a broker's script: lists given replace the script's, answer switches and drop
counts are set key by key. -/
structure BrokerChange where
  connacks : Option (List ConnackPlan) := none
  subackCodes : Option (List UInt8) := none
  replies : List (PacketKind × Bool) := []
  drops : List (PacketKind × Nat) := []
  dials : Option (List Bool) := none
  failWrites : Option Bool := none
  deriving Repr, Inhabited

/-- The script after a change. -/
def BrokerScript.update (b : BrokerScript) (c : BrokerChange) : BrokerScript :=
  { connacks := c.connacks.getD b.connacks
    subackCodes := c.subackCodes.getD b.subackCodes
    replies := c.replies.foldl (fun l (k, v) => upsertKey l k v) b.replies
    drops := c.drops.foldl (fun l (k, v) => upsertKey l k v) b.drops
    dials := c.dials.getD b.dials
    failWrites := c.failWrites.getD b.failWrites }

/-- A CONNECT plan from a document: `raw` bytes, `close`, `silent`, or a CONNACK `code` with
`session_present`. -/
def ConnackPlan.ofDoc (d : Doc) : DocRead ConnackPlan := do
  if let some b ← d.bytesOpt "raw" then return .raw b
  if ← d.getBool "close" then return .close
  if ← d.getBool "silent" then return .silent
  return .answer (← d.getU8 "code") (← d.getBool "session_present")

/-- The packet kind a document key names. -/
def kindOfKey (k : String) : DocRead PacketKind :=
  match PacketKind.ofName? k with
  | some kind => pure kind
  | none => throw s!"unknown packet type \"{k}\""

/-- A broker change from a document. -/
def BrokerChange.ofDoc (d : Doc) : DocRead BrokerChange := do
  let connacks ← match d.get? "connacks" with
    | some _ => some <$> (← d.getList "connacks").mapM ConnackPlan.ofDoc
    | none => pure none
  let subackCodes ← match d.get? "suback_codes" with
    | some _ => some <$> (← d.getList "suback_codes").mapM (byteOfDoc "suback_codes")
    | none => pure none
  let replies ← ((d.get? "replies").getD (.obj [])).fields.mapM fun (k, v) => do
    match v with
    | .bool b => return (← kindOfKey k, b)
    | _ => throw s!"field replies.{k}: not a boolean"
  let drops ← ((d.get? "drop").getD (.obj [])).fields.mapM fun (k, v) => do
    match v with
    | .int n => return (← kindOfKey k, n.toNat)
    | _ => throw s!"field drop.{k}: not a number"
  let dials ← match d.get? "dials" with
    | some _ => some <$> (← d.getList "dials").mapM fun v => match v with
      | .bool b => pure b
      | _ => throw "field dials: not a boolean"
    | none => pure none
  return { connacks, subackCodes, replies, drops, dials, failWrites := ← d.boolOpt "fail_writes" }

/-- A step of a script. -/
inductive Step where
  | start
  | stop
  | delete
  | disconnect
  | stopReader
  | publish (msg : Option Message) (timeout : Int)
  | publishAsync (msg : Option Message)
  | subscribe (filter : Bytes) (qos : UInt8) (handler : Bool)
  | unsubscribe (filter : Bytes)
  | subscriptions
  | setKeepAlive (ms : Int)
  | control (command : Int) (arg : ControlArg)
  | tick (advance : Int)
  | broker (change : BrokerChange)
  /-- Bytes from the broker on its newest open connection. -/
  | inject (bytes : Bytes)
  /-- The broker closes its newest open connection. -/
  | brokerClose
  deriving Repr, Inhabited

namespace Step

/-- The message a publish step names, `none` for a null message. -/
def messageOfDoc (d : Doc) : DocRead (Option Message) := do
  if ← d.getBool "nil_message" then return none
  return some { topic := ← d.getText "topic", payload := ← d.getBytes "payload",
                qos := ← d.getU8 "qos", retain := ← d.getBool "retain" }

/-- The argument a control step names under `arg`. -/
def controlArgOfDoc (d : Doc) : DocRead ControlArg := do
  match ← d.getStr "arg" "none" with
  | "none" => return .none
  | "handler" => return .eventHandler
  | "func" => return .eventFunction
  | "string" => return .text (← d.getStr "value")
  | "duration" => return .duration (← d.getInt "ms")
  | "subscription" => return .subscription (← d.getText "filter") (← d.getU8 "qos")
  | "subscription_ptr" => return .subscriptionRef (← d.getText "filter") (← d.getU8 "qos")
  | "nil_subscription_ptr" => return .nullSubscriptionRef
  | other => throw s!"unknown control argument \"{other}\""

/-- The bytes a broker sends for a packet document. -/
def injectedOfDoc (d : Doc) : DocRead Bytes := do
  match d.get? "packet" with
  | some p => return BrokerScript.frame (← Packet.ofDoc p)
  | none => d.getBytes "hex"

/-- A step from a document naming it under `op`. -/
def ofDoc (d : Doc) : DocRead Step := do
  match ← d.getStr "op" with
  | "start" => return .start
  | "stop" => return .stop
  | "delete" => return .delete
  | "disconnect" => return .disconnect
  | "stop_reader" => return .stopReader
  | "publish" => return .publish (← messageOfDoc d) (← d.getInt "timeout_ms")
  | "publish_async" => return .publishAsync (← messageOfDoc d)
  | "subscribe" =>
    return .subscribe (← d.getText "filter") (← d.getU8 "qos") ((← d.boolOpt "handler").getD true)
  | "unsubscribe" => return .unsubscribe (← d.getText "filter")
  | "subscriptions" => return .subscriptions
  | "set_keepalive" => return .setKeepAlive (← d.getInt "ms")
  | "control" => return .control (← d.getInt "command") (← controlArgOfDoc d)
  | "tick" => return .tick (← d.getInt "advance_ms")
  | "broker" => return .broker (← BrokerChange.ofDoc ((d.get? "broker").getD (.obj [])))
  | "inject" => return .inject (← injectedOfDoc d)
  | "broker_close" => return .brokerClose
  | other => throw s!"unknown step \"{other}\""

/-- The name of a step. -/
def name : Step → String
  | .start => "start"
  | .stop => "stop"
  | .delete => "delete"
  | .disconnect => "disconnect"
  | .stopReader => "stop_reader"
  | .publish .. => "publish"
  | .publishAsync _ => "publish_async"
  | .subscribe .. => "subscribe"
  | .unsubscribe _ => "unsubscribe"
  | .subscriptions => "subscriptions"
  | .setKeepAlive _ => "set_keepalive"
  | .control .. => "control"
  | .tick _ => "tick"
  | .broker _ => "broker"
  | .inject _ => "inject"
  | .brokerClose => "broker_close"

end Step

/-- The time that passes between two steps, in milliseconds. -/
def stepGap : Int := 5

/-- The time a stopped reader needs to notice, in milliseconds. -/
def readerStopGap : Int := 150

/-- A control answer as a document. -/
def ControlValue.toDoc : ControlValue → Doc
  | .none => .null
  | .state s => .str s.name
  | .flag b => .bool b

namespace Sim

/-- The answer to a step that touches the broker's newest open connection. -/
def onNewestLink (f : Nat → Network → Network) : Sim Doc := do
  match (← get).net.newestOpen with
  | none => return .obj [("ok", false)]
  | some x =>
    modifyNet (f x)
    return .obj [("ok", true), ("conn", x)]

/-- Carries out one step and answers its result. -/
def runStep : Step → Sim Doc
  | .start => Doc.okOr <$> start
  | .stop => Doc.okOr <$> stop
  | .delete => Doc.okOr <$> delete
  | .disconnect => Doc.okOr <$> disconnect
  | .stopReader => do
    stopReader
    sleep readerStopGap
    return Doc.okOr (.ok ())
  | .publish m t => Doc.okOr <$> publish m t
  | .publishAsync m => Doc.okOr <$> publishAsync m
  | .subscribe f q h => Doc.okOr <$> subscribe f q (if h then some (.subscription f) else none)
  | .unsubscribe f => Doc.okOr <$> unsubscribe f
  | .subscriptions => do
    return .obj [("subscriptions", .list (← client).subs.entries Subscription.Entry.toDoc)]
  | .setKeepAlive ms => Doc.okOr <$> setKeepAliveInterval ms
  | .control cmd arg => do
    let r ← control cmd arg
    if cmd == 5 && r matches .ok _ then sleep readerStopGap
    return match r with
      | .ok v => .obj [("value", v.toDoc)]
      | .error f => .failure f
  | .tick advance => do
    let gaveUp ← tick ((← now) + advance)
    return .obj [("disconnected", gaveUp)]
  | .broker c => do
    modifyNet fun n => { n with broker := n.broker.update c }
    return Doc.okOr (.ok ())
  | .inject b => onNewestLink fun x n => n.deliver x b
  | .brokerClose => onNewestLink fun x n => n.closeByBroker x

end Sim

/-- A packet written, as a document. -/
def Written.toDoc : Written → Doc
  | .packet c p => .obj [("conn", c), ("packet", p.toDoc)]
  | .undecodable c b f => .obj [("conn", c), ("hex", .ofBytes b), ("error", .failure f)]
  | .refused c b => .obj [("conn", c), ("refused", .ofBytes b)]

/-- The filter a delivery is reported under. -/
def HandlerRef.label : HandlerRef → Doc
  | .will => .str "<will>"
  | .subscription f => .ofText f

/-- A delivery as a document. -/
def deliveryDoc (d : HandlerRef × Message) : Doc :=
  .obj (("filter", d.1.label) :: d.2.toDoc)

/-- What a step let be seen, as a document. -/
def Trace.toDoc (t : Trace) (op : String) (result : Doc) (state : ClientState) (withLogs : Bool) : Doc :=
  let events := (t.events.map ClientEvent.name).mergeSort fun a b => decide (a ≤ b)
  .obj ([("op", .str op), ("result", result), ("state", .str state.name),
    ("sent", .list t.sent Written.toDoc), ("messages", .list t.deliveries deliveryDoc),
    ("events", .list events Doc.str),
    ("dialed", .list t.dialed fun (a, ok) => .obj [("address", .ofText a), ("ok", ok)])] ++
    (if withLogs then [("logs", .arr (Doc.sortByText (t.logs.map LogRecord.toDoc)))] else []))

/-- Runs one step with the time before it, and lets everything it set going run; answers the
step's report. -/
def Sim.perform (withLogs : Bool) (s : Step) : Sim Doc := do
  sleep stepGap
  modify fun w => { w with trace := {} }
  let r ← runStep s
  settle
  let w ← get
  return w.trace.toDoc s.name r w.client.state withLogs

/-- Runs steps in order and answers their reports. -/
def Sim.performAll (withLogs : Bool) : List Step → Sim (List Doc)
  | [] => return []
  | s :: rest => do
    let d ← perform withLogs s
    return d :: (← performAll withLogs rest)

/-- A client's metrics as a document: each series under its kind and key. -/
def MetricStore.toDoc (m : MetricStore) : Doc :=
  .obj (m.counters.map (fun (k, v) => ("counter " ++ k, .float v)) ++
        m.gauges.map (fun (k, v) => ("gauge " ++ k, .float v)) ++
        m.histograms.map (fun (k, v) => ("histogram_count " ++ k, .int v.count)))

/-- A script: the client's options and URI, the broker's script and the steps. -/
structure Session where
  steps : List Step
  options : List ClientOption := []
  broker : BrokerChange := {}
  uri : String := "tcp://broker:1883"
  metrics : Bool := true
  logLevel : Option String := none
  deriving Repr, Inhabited

namespace Session

/-- A script from a document. -/
def ofDoc (d : Doc) : DocRead Session := do
  return { steps := ← (← d.getList "steps").mapM Step.ofDoc
           options := ← ClientOption.listOfDoc d "options"
           broker := ← BrokerChange.ofDoc ((d.get? "broker").getD (.obj []))
           uri := ← d.getStr "uri" "tcp://broker:1883"
           metrics := ((← d.boolOpt "metrics").getD true)
           logLevel := ← d.strOpt "log_level" }

/-- The options a scripted client is built with. -/
def clientOptions (s : Session) : List ClientOption :=
  [.reconnectDelay 1, .connectTimeout 100, .recvTimeout 40, .clientId (Bytes.ofString "oracle")] ++
  s.options ++ [.dialer, .onEvent, .tickInterval 3600000] ++
  (if s.metrics then [.metrics true] else []) ++
  (match s.logLevel with | some l => [.logger (some (LogLevel.parse l))] | none => [])

/-- The world a script starts from: its client, built but not started, and its broker; or the
failure to build the client. -/
def world (s : Session) : Except Failure World :=
  match Client.build s.uri s.clientOptions [] with
  | .error f => .error f
  | .ok (c, _) => .ok { client := c, net := { broker := ({} : BrokerScript).update s.broker } }

/-- Runs a script and answers its report: one entry per step and the metrics after the client
is deleted, or the failure to build the client. -/
def run (s : Session) : Doc :=
  match s.world with
  | .error f => .obj [("new", .failure f)]
  | .ok w =>
    let act : Sim (List Doc) := do
      let steps ← Sim.performAll s.logLevel.isSome s.steps
      let _ ← Sim.delete
      Sim.settle
      return steps
    let (steps, w') := act.run w
    .obj [("steps", .arr steps),
          ("metrics", match w'.client.metrics with | some m => m.toDoc | none => .obj [])]

end Session

end Mqtt
