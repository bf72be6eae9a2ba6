import Mqtt.Cli.Flags
import Mqtt.Config.Load
import Mqtt.Client.Operations
import Mqtt.Net.Listen
import Mqtt.Log.Lines
/-! # The command-line client

`umqtt pub` publishes one message and `umqtt sub` prints the messages of one subscription, as
`TOPIC PAYLOAD` lines, until it is told to terminate. Both take the flags `-config`, `-uri`,
`-topic`, `-qos`, `-message`, `-timeout` and `-metrics-addr`; a topic is required and the QoS
is 0, 1 or 2.

A run loads the configuration (file, then environment), lets `-uri` and `-metrics-addr` override
it, builds the client with the configuration's options, a log in the configured format and
level and a handler that logs each lifecycle event at debug level, starts it, and then publishes
or subscribes. Whatever happens after the client is built, it is deleted at the end. A failure
ends the run with exit code 1 and the line `umqtt: ` and the failure's text.

Here the client talks to a scripted broker. After a SUBACK whose first code grants the
subscription, the broker waits 100 ms and sends its scripted messages; 100 ms later the
subscriber is told to terminate.
-/

namespace Mqtt

/-- The flags of the commands. -/
def commandFlags : List FlagSpec :=
  [{ name := "config", type := .text, usage := "path to YAML configuration", default := .text "" },
   { name := "uri", type := .text, usage := "broker URI, overrides the configuration", default := .text "" },
   { name := "topic", type := .text, usage := "topic name (pub) or filter (sub)", default := .text "" },
   { name := "qos", type := .int, usage := "quality of service 0, 1 or 2", default := .int 0 },
   { name := "message", type := .text, usage := "payload to publish", default := .text "" },
   { name := "timeout", type := .duration, usage := "acknowledgment wait per attempt",
     shownDefault := "5s", default := .duration 5000000000 },
   { name := "metrics-addr", type := .text, usage := "serve Prometheus metrics on this address",
     default := .text "" }]

/-- The settings the flags give. -/
structure CommandSettings where
  configPath : String := ""
  uri : String := ""
  topic : String := ""
  qos : Int := 0
  message : String := ""
  /-- The wait for each acknowledgment, in nanoseconds. -/
  timeout : Int := 5000000000
  metricsAddr : String := ""
  deriving Repr, Inhabited

namespace CommandSettings

/-- Sets one flag's value. -/
def set (s : CommandSettings) : String × FlagValue → CommandSettings
  | ("config", .text v) => { s with configPath := v }
  | ("uri", .text v) => { s with uri := v }
  | ("topic", .text v) => { s with topic := v }
  | ("qos", .int n) => { s with qos := n }
  | ("message", .text v) => { s with message := v }
  | ("timeout", .duration ns) => { s with timeout := ns }
  | ("metrics-addr", .text v) => { s with metricsAddr := v }
  | _ => s

/-- The wait for each acknowledgment in whole milliseconds, rounded up. -/
def timeoutMs (s : CommandSettings) : Int :=
  if s.timeout ≤ 0 then 0 else (s.timeout + 999999) / 1000000

end CommandSettings

/-- The two commands. -/
inductive Command where
  | pub
  | sub
  deriving DecidableEq, Repr, Inhabited

/-- The scripted broker a command talks to. -/
structure ScriptedBroker where
  connack : ConnackPlan := .answer 0 false
  subackCodes : List UInt8 := []
  /-- Messages sent after a granted subscription; those with QoS above 0 get packet
  identifiers from 100 on, by position. -/
  publishes : List Message := []
  noPuback : Bool := false
  deriving Repr, Inhabited

/-- What a command is run with. -/
structure Invocation where
  args : List String
  env : Environment := []
  files : FileStore := {}
  broker : Option ScriptedBroker := none
  deriving Repr, Inhabited

/-- What a run of a command shows. -/
structure Outcome where
  exit : Nat := 0
  stdout : Bytes := []
  stderr : List String := []
  logs : List LogRecord := []
  format : LogFormat := .json
  terminated : Bool := false
  /-- The packets the broker read, in order. -/
  received : List Packet := []
  /-- How long the run took, in milliseconds: its sleeps, waits and timeouts. A run that waits out
  its whole reconnect budget takes the reconnect delay once for every attempt. -/
  durationMs : Int := 0
  deriving Repr, Inhabited

namespace Outcome

/-- A run that failed before a client was built. -/
def failed (lines : List String) : Outcome := { exit := 1, stderr := lines }

/-- The lines of an error, after `umqtt: `. -/
def errorLines (text : String) : List String := ("umqtt: " ++ text).splitOn "\n"

end Outcome

/-- The network behind a scripted broker: it answers CONNECT as scripted, grants subscriptions
with the scripted codes, answers PUBREC with PUBREL and leaves PUBACK out when told. Without a
broker no connection is accepted. -/
def ScriptedBroker.network : Option ScriptedBroker → Network
  | some b => { broker := { connacks := [b.connack], subackCodes := b.subackCodes,
                            replies := (.pubrel, true) :: if b.noPuback then [(.puback, false)] else [] } }
  | none => { broker := { dials := List.replicate 64 false } }

/-- The frame of each scripted message. -/
def ScriptedBroker.frames (b : ScriptedBroker) : Bytes :=
  (b.publishes.zipIdx.map fun (m, i) =>
    let id : UInt16 := if m.qos > 0 then (100 + i).toUInt16 else 0
    BrokerScript.frame (.publish ⟨m.topic, m.payload, m.qos, m.retain, false, id⟩)).flatten

/-- Writes a record through the command's own log, if its level lets it through. -/
def commandLog (g : Logger) (l : LogLevel) (msg : String) (attrs : Doc.Fields) : List LogRecord :=
  (g.record l msg attrs).toList

/-- The part of a run after the client is built: start, then publish or subscribe, then
delete. Answers the failure, if any, and whether the subscriber was told to terminate. -/
def Command.session (cmd : Command) (s : CommandSettings) (broker : Option ScriptedBroker)
    (base : Logger) : Sim (Option String × Bool × List LogRecord) := do
  let uri := (← Sim.client).endpoint.raw
  let result : Option String × Bool × List LogRecord ← match ← Sim.start with
    | .error e => pure (some ("connect " ++ uri ++ ": " ++ e.message), false, [])
    | .ok () =>
      Sim.settle
      match cmd with
      | .pub =>
        let msg : Message := { topic := Bytes.ofString s.topic, payload := Bytes.ofString s.message,
                               qos := (s.qos % 256).toNat.toUInt8 }
        match ← Sim.publish (some msg) s.timeoutMs with
        | .error e => pure (some e.message, false, [])
        | .ok () => pure (none, false, [])
      | .sub =>
        let filter := Bytes.ofString s.topic
        let qos := (s.qos % 256).toNat.toUInt8
        let before := (← get).net.broker.subackCodes
        match ← Sim.subscribe filter qos (some (.subscription filter)) with
        | .error e => pure (some e.message, false, [])
        | .ok () =>
          Sim.settle
          let subscribed := commandLog base .info "subscribed" [("topic", .str s.topic)]
          let firstCode := before.headD qos
          if let some b := broker then
            if firstCode ≤ 2 then
              Sim.sleep 100
              match (← get).net.newestOpen with
              | some x => Sim.modifyNet fun n => n.deliver x b.frames
              | none => pure ()
              Sim.pump
              Sim.settle
          Sim.sleep 100
          pure (none, true, subscribed)
  let _ ← Sim.delete
  Sim.settle
  return result

/-- The messages a subscriber printed: `TOPIC PAYLOAD` and a line break for each delivery. -/
def printedLines (t : Trace) : Bytes :=
  (t.deliveries.map fun (_, m) => m.topic ++ [0x20] ++ m.payload ++ [0x0A]).flatten

/-- Runs a command. -/
def Invocation.run (inv : Invocation) : Outcome :=
  match inv.args with
  | [] => .failed (Outcome.errorLines "usage: umqtt pub|sub [flags]")
  | name :: rest =>
    let cmd? : Option Command := if name == "pub" then some .pub else if name == "sub" then some .sub else none
    match cmd? with
    | none => .failed (Outcome.errorLines ("unknown command " ++ Text.quote name))
    | some cmd =>
      match Flags.parse commandFlags rest with
      | .error e =>
        let lead := match e with
          | .problem t => [t]
          | .help => []
        .failed (lead ++ Flags.usage name commandFlags ++ Outcome.errorLines e.message)
      | .ok values =>
        let s := values.foldl CommandSettings.set {}
        if s.topic.isEmpty then .failed (Outcome.errorLines "-topic is required")
        else if s.qos < 0 || s.qos > 2 then .failed (Outcome.errorLines "-qos must be 0, 1 or 2")
        else
          match Config.load inv.files inv.env s.configPath with
          | .error e => .failed (Outcome.errorLines e)
          | .ok cfg =>
            let cfg := if s.uri.isEmpty then cfg else { cfg with broker.uri := s.uri }
            let cfg := if s.metricsAddr.isEmpty then cfg else { cfg with metrics.addr := s.metricsAddr }
            let format := LogFormat.ofName cfg.logging.format
            let base := cfg.logger
            match cfg.clientOptions inv.files with
            | .error e => { Outcome.failed (Outcome.errorLines e) with format }
            | .ok opts =>
              let level := LogLevel.parse cfg.logging.level
              let metricsOn := !cfg.metrics.addr.isEmpty
              let opts := opts ++ [.logger (some level), .onEvent] ++
                (if metricsOn then [.metrics true] else [])
              match Client.build cfg.broker.uri opts [] with
              | .error f => { Outcome.failed (Outcome.errorLines f.message) with format }
              | .ok (client, _) =>
                let metricsLogs := if metricsOn then
                    match Listen.problem cfg.metrics.addr with
                    | some p => commandLog base .error "metrics server failed" [("error", .str p)]
                    | none => []
                  else []
                let world : World := { client, net := ScriptedBroker.network inv.broker }
                let ((failure, terminated, extra), w) :=
                  (cmd.session s inv.broker base).run world
                let eventLogs := w.trace.events.flatMap fun ev =>
                  commandLog base .debug "client event" [("event", .str ev.name)]
                let received := w.trace.sent.filterMap fun wr => match wr with
                  | .packet _ p => some p
                  | _ => none
                { exit := if failure.isSome then 1 else 0
                  stdout := printedLines w.trace
                  stderr := match failure with
                    | some f => Outcome.errorLines f
                    | none => []
                  logs := w.trace.logs ++ metricsLogs ++ eventLogs ++ extra
                  format, terminated, received
                  durationMs := w.clock }

/-- The files a run reads: the configuration file the flags name and, when that configuration
loads, the TLS files it names. -/
def Invocation.neededFiles (inv : Invocation) : List String :=
  match inv.args with
  | [] => []
  | _ :: rest =>
    match Flags.parse commandFlags rest with
    | .error _ => []
    | .ok values =>
      let s := values.foldl CommandSettings.set {}
      let config := if s.configPath.isEmpty then [] else [s.configPath]
      match Config.load inv.files inv.env s.configPath with
      | .error _ => config
      | .ok cfg =>
        let t := cfg.tls
        config ++ ([t.caFile, t.certFile, t.keyFile].filter (!·.isEmpty))

/-- What a run writes to its error stream: its log lines in the configured format, then its
error lines. -/
def Outcome.errorStream (o : Outcome) : List String :=
  (o.logs.map fun r => match o.format with
    | .json => r.jsonLine
    | .text => r.textLine) ++ o.stderr

end Mqtt
