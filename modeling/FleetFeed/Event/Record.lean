import FleetFeed.Json.Record

/-! The records of the feeds. Each is flat; a new record of a resource replaces the one before. -/
namespace FleetFeed.Event

open Json

structure LogEvent where
  containerId : String
  containerName : Option String
  agentId : Option String
  timestamp : String
  content : String
  level : String
  stream : Option String
  groupedLines : List String
  lineCount : Nat
  deriving DecidableEq, Repr

structure StackLogEvent where
  stackName : String
  serviceName : String
  containerId : String
  timestamp : String
  content : String
  level : String
  groupedLines : List String
  lineCount : Nat
  deriving DecidableEq, Repr

structure StatsEvent where
  containerId : String
  timestamp : String
  cpuPercent : Binary64
  memoryUsage : Nat
  memoryLimit : Nat
  memoryPercent : Binary64
  networkRx : Nat
  networkTx : Nat
  blockRead : Nat
  blockWrite : Nat
  pids : Nat
  deriving DecidableEq, Repr

structure HealthEvent where
  agentId : String
  status : String
  timestamp : String
  containerCount : Nat
  message : Option String
  lastSeen : Option String
  deriving DecidableEq, Repr

structure ServiceEvent where
  serviceId : String
  serviceName : String
  action : String
  replicasRunning : Nat
  replicasDesired : Nat
  timestamp : String
  message : Option String
  deriving DecidableEq, Repr

structure NodeEvent where
  nodeId : String
  hostname : String
  role : String
  status : String
  availability : String
  timestamp : String
  message : Option String
  deriving DecidableEq, Repr

/-- A record of any feed. -/
inductive Record where
  | log (e : LogEvent)
  | stackLog (e : StackLogEvent)
  | stats (e : StatsEvent)
  | health (e : HealthEvent)
  | service (e : ServiceEvent)
  | node (e : NodeEvent)
  deriving DecidableEq, Repr

def Record.timestamp : Record → String
  | .log e => e.timestamp
  | .stackLog e => e.timestamp
  | .stats e => e.timestamp
  | .health e => e.timestamp
  | .service e => e.timestamp
  | .node e => e.timestamp

private def text (name : String) : Fields String := Fields.required name Decoder.string

private def texts (name : String) : Fields (List String) := Fields.required name (Decoder.list Decoder.string)

private def count (name : String) : Fields Nat := Fields.required name (Decoder.word 64 "u64")

private def lineTotal (name : String) : Fields Nat := Fields.required name (Decoder.word 32 "u32")

private def percent (name : String) : Fields Binary64 := Fields.required name Decoder.binary64

private def note (name : String) : Fields (Option String) := Fields.nullable name Decoder.string

private def optional : Option String → Tree := Tree.ofOption .str

private def strings (ss : List String) : Tree := .arr (ss.map .str)

private def float (x : Binary64) : Tree := .num (.float x)

namespace LogEvent

def decoder : Decoder LogEvent :=
  (LogEvent.mk <$> text "container_id" <*> note "container_name" <*> note "agent_id" <*> text "timestamp" <*> text "content"
    <*> text "level" <*> note "stream" <*> texts "grouped_lines" <*> lineTotal "line_count").decoder "struct LogEvent"

def toTree (e : LogEvent) : Tree :=
  .record [("container_id", .str e.containerId), ("container_name", optional e.containerName),
    ("agent_id", optional e.agentId), ("timestamp", .str e.timestamp), ("content", .str e.content), ("level", .str e.level),
    ("stream", optional e.stream), ("grouped_lines", strings e.groupedLines), ("line_count", .ofNat e.lineCount)]

end LogEvent

namespace StackLogEvent

def decoder : Decoder StackLogEvent :=
  (StackLogEvent.mk <$> text "stack_name" <*> text "service_name" <*> text "container_id" <*> text "timestamp"
    <*> text "content" <*> text "level" <*> texts "grouped_lines" <*> lineTotal "line_count").decoder "struct StackLogEvent"

def toTree (e : StackLogEvent) : Tree :=
  .record [("stack_name", .str e.stackName), ("service_name", .str e.serviceName), ("container_id", .str e.containerId),
    ("timestamp", .str e.timestamp), ("content", .str e.content), ("level", .str e.level),
    ("grouped_lines", strings e.groupedLines), ("line_count", .ofNat e.lineCount)]

end StackLogEvent

namespace StatsEvent

def decoder : Decoder StatsEvent :=
  (StatsEvent.mk <$> text "container_id" <*> text "timestamp" <*> percent "cpu_percent" <*> count "memory_usage"
    <*> count "memory_limit" <*> percent "memory_percent" <*> count "network_rx" <*> count "network_tx"
    <*> count "block_read" <*> count "block_write" <*> count "pids").decoder "struct ContainerStatsEvent"

def toTree (e : StatsEvent) : Tree :=
  .record [("container_id", .str e.containerId), ("timestamp", .str e.timestamp), ("cpu_percent", float e.cpuPercent),
    ("memory_usage", .ofNat e.memoryUsage), ("memory_limit", .ofNat e.memoryLimit),
    ("memory_percent", float e.memoryPercent), ("network_rx", .ofNat e.networkRx), ("network_tx", .ofNat e.networkTx),
    ("block_read", .ofNat e.blockRead), ("block_write", .ofNat e.blockWrite), ("pids", .ofNat e.pids)]

end StatsEvent

namespace HealthEvent

def decoder : Decoder HealthEvent :=
  (HealthEvent.mk <$> text "agent_id" <*> text "status" <*> text "timestamp" <*> count "container_count" <*> note "message"
    <*> note "last_seen").decoder "struct AgentHealthEvent"

def toTree (e : HealthEvent) : Tree :=
  .record [("agent_id", .str e.agentId), ("status", .str e.status), ("timestamp", .str e.timestamp),
    ("container_count", .ofNat e.containerCount), ("message", optional e.message), ("last_seen", optional e.lastSeen)]

end HealthEvent

namespace ServiceEvent

def decoder : Decoder ServiceEvent :=
  (ServiceEvent.mk <$> text "service_id" <*> text "service_name" <*> text "action" <*> count "replicas_running"
    <*> count "replicas_desired" <*> text "timestamp" <*> note "message").decoder "struct ServiceEvent"

def toTree (e : ServiceEvent) : Tree :=
  .record [("service_id", .str e.serviceId), ("service_name", .str e.serviceName), ("action", .str e.action),
    ("replicas_running", .ofNat e.replicasRunning), ("replicas_desired", .ofNat e.replicasDesired),
    ("timestamp", .str e.timestamp), ("message", optional e.message)]

end ServiceEvent

namespace NodeEvent

def decoder : Decoder NodeEvent :=
  (NodeEvent.mk <$> text "node_id" <*> text "hostname" <*> text "role" <*> text "status" <*> text "availability"
    <*> text "timestamp" <*> note "message").decoder "struct NodeEvent"

def toTree (e : NodeEvent) : Tree :=
  .record [("node_id", .str e.nodeId), ("hostname", .str e.hostname), ("role", .str e.role), ("status", .str e.status),
    ("availability", .str e.availability), ("timestamp", .str e.timestamp), ("message", optional e.message)]

end NodeEvent

def Record.toTree : Record → Tree
  | .log e => e.toTree
  | .stackLog e => e.toTree
  | .stats e => e.toTree
  | .health e => e.toTree
  | .service e => e.toTree
  | .node e => e.toTree

end FleetFeed.Event
