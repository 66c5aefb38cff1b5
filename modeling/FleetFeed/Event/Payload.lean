import FleetFeed.Error.Classified
import FleetFeed.Event.Record
import FleetFeed.Text.Blank
import FleetFeed.Text.Upper

/-! The payloads of the feeds and the records made of them. A payload may leave out any member or give it as null; the
record then holds a value of its own. -/
namespace FleetFeed.Event

open Json

/-- What events are about. -/
inductive Topic where
  | log
  | multiLog
  | stackLog
  | stats
  | health
  | service
  | node
  deriving DecidableEq, Repr

def Topic.all : List Topic := [.log, .multiLog, .stackLog, .stats, .health, .service, .node]

/-- The text in upper case, or the default where it is absent or blank. -/
def upperOr (value : Option String) (default : String) : String := match value with
  | some s => if Text.allBlank s then default else Text.upper s
  | none => default

def given {α : Type} (name : String) (d : Decoder α) (value : α) : Fields α := (·.getD value) <$> Fields.optional name d

def word (name : String) : Fields String := given name Decoder.string ""

def label (name default : String) : Fields String := (upperOr · default) <$> Fields.optional name Decoder.string

def remark (name : String) : Fields (Option String) := Fields.optional name Decoder.string

def amount (name : String) : Fields Nat := given name (Decoder.word 64 "u64") 0

def share (name : String) : Fields Binary64 := given name Decoder.binary64 Binary64.zero

def lines (name : String) : Fields (List String) := given name (Decoder.list Decoder.string) []

def extent (name : String) : Fields Nat := given name (Decoder.word 32 "u32") 1

namespace Payload

def log : Fields LogEvent :=
  LogEvent.mk <$> word "containerId" <*> remark "containerName" <*> remark "agentId" <*> word "timestamp" <*> word "content"
    <*> label "level" "INFO" <*> remark "stream" <*> lines "groupedLines" <*> extent "lineCount"

def stackLog : Fields StackLogEvent :=
  StackLogEvent.mk <$> word "stackName" <*> word "serviceName" <*> word "containerId" <*> word "timestamp" <*> word "content"
    <*> label "level" "INFO" <*> lines "groupedLines" <*> extent "lineCount"

def stats : Fields StatsEvent :=
  StatsEvent.mk <$> word "containerId" <*> word "timestamp" <*> share "cpuPercent" <*> amount "memoryUsage"
    <*> amount "memoryLimit" <*> share "memoryPercent" <*> amount "networkRx" <*> amount "networkTx" <*> amount "blockRead"
    <*> amount "blockWrite" <*> amount "pids"

def health : Fields HealthEvent :=
  HealthEvent.mk <$> word "agentId" <*> label "status" "UNKNOWN" <*> word "timestamp" <*> amount "containerCount"
    <*> remark "message" <*> remark "lastSeen"

def service : Fields ServiceEvent :=
  ServiceEvent.mk <$> word "serviceId" <*> word "serviceName" <*> word "action" <*> amount "replicasRunning"
    <*> amount "replicasDesired" <*> word "timestamp" <*> remark "message"

def node : Fields NodeEvent :=
  NodeEvent.mk <$> word "nodeId" <*> word "hostname" <*> word "role" <*> label "status" "UNKNOWN"
    <*> label "availability" "UNKNOWN" <*> word "timestamp" <*> remark "message"

/-- Data with the payload as their single member. -/
def root {α : Type} (data member payload : String) (fields : Fields α) : Decoder α :=
  (Fields.required member (fields.decoder ("struct " ++ payload))).decoder ("struct " ++ data)

end Payload

/-- The member of the data that holds the payload. -/
def Topic.root : Topic → String
  | .log => "logStream"
  | .multiLog => "multiContainerLogs"
  | .stackLog => "stackLogs"
  | .stats => "containerStats"
  | .health => "agentHealth"
  | .service => "serviceEvents"
  | .node => "nodeEvents"

def Topic.decoder : Topic → Decoder Record
  | .log => .map .log (Payload.root "LogStreamData" (root .log) "LogPayload" Payload.log)
  | .multiLog => .map .log (Payload.root "MultiContainerLogsData" (root .multiLog) "LogPayload" Payload.log)
  | .stackLog => .map .stackLog (Payload.root "StackLogsData" (root .stackLog) "StackLogPayload" Payload.stackLog)
  | .stats => .map .stats (Payload.root "ContainerStatsData" (root .stats) "StatsPayload" Payload.stats)
  | .health => .map .health (Payload.root "AgentHealthData" (root .health) "HealthPayload" Payload.health)
  | .service => .map .service (Payload.root "ServiceEventsData" (root .service) "ServicePayload" Payload.service)
  | .node => .map .node (Payload.root "NodeEventsData" (root .node) "NodePayload" Payload.node)

/-- The record of the data that arrived for a topic. -/
def Topic.decode (c : Topic) (data : Value) : Except ClassifiedError Record := (c.decoder.ofValue data).mapError .malformed

end FleetFeed.Event
