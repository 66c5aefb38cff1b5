import FleetFeed.Event.Payload
import FleetFeed.Proofs.Json.Formats

/-! What the data of each topic have to be and which record is made of them. The formats and the records are given here field by
field, with the value that stands for one that is null or left out; reading agrees with both for all values of all topics
(`decode_accepts_exactly_its_format`). -/
namespace FleetFeed.Event

open Json

/-- The payload of a topic: its fields in order and what they take. -/
def Topic.format : Topic → Format
  | .log | .multiLog => [("containerId", .text), ("containerName", .text), ("agentId", .text), ("timestamp", .text),
      ("content", .text), ("level", .text), ("stream", .text), ("groupedLines", .texts), ("lineCount", .word 32)]
  | .stackLog => [("stackName", .text), ("serviceName", .text), ("containerId", .text), ("timestamp", .text),
      ("content", .text), ("level", .text), ("groupedLines", .texts), ("lineCount", .word 32)]
  | .stats => [("containerId", .text), ("timestamp", .text), ("cpuPercent", .number), ("memoryUsage", .word 64),
      ("memoryLimit", .word 64), ("memoryPercent", .number), ("networkRx", .word 64), ("networkTx", .word 64),
      ("blockRead", .word 64), ("blockWrite", .word 64), ("pids", .word 64)]
  | .health => [("agentId", .text), ("status", .text), ("timestamp", .text), ("containerCount", .word 64), ("message", .text),
      ("lastSeen", .text)]
  | .service => [("serviceId", .text), ("serviceName", .text), ("action", .text), ("replicasRunning", .word 64),
      ("replicasDesired", .word 64), ("timestamp", .text), ("message", .text)]
  | .node => [("nodeId", .text), ("hostname", .text), ("role", .text), ("status", .text), ("availability", .text),
      ("timestamp", .text), ("message", .text)]

/-! ### What a record holds of what is given -/

/-- The text that is given, or none. -/
def textOf (v : Value) : String := v.text?.getD ""

/-- The text that is given in upper case, or the default for none and for blanks. -/
def labelOf (default : String) (v : Value) : String := match v.text? with
  | some s => if s.toList.all Text.isBlank then default else Text.upper s
  | none => default

def linesOf (v : Value) : List String := v.texts?.getD []

def countOf (default : Nat) (v : Value) : Nat := v.natural?.getD default

def shareOf (v : Value) : Binary64 := v.binary64?.getD Binary64.zero

section

variable (given : String → Value)

def LogEvent.of : LogEvent where
  containerId := textOf (given "containerId")
  containerName := (given "containerName").text?
  agentId := (given "agentId").text?
  timestamp := textOf (given "timestamp")
  content := textOf (given "content")
  level := labelOf "INFO" (given "level")
  stream := (given "stream").text?
  groupedLines := linesOf (given "groupedLines")
  lineCount := countOf 1 (given "lineCount")

def StackLogEvent.of : StackLogEvent where
  stackName := textOf (given "stackName")
  serviceName := textOf (given "serviceName")
  containerId := textOf (given "containerId")
  timestamp := textOf (given "timestamp")
  content := textOf (given "content")
  level := labelOf "INFO" (given "level")
  groupedLines := linesOf (given "groupedLines")
  lineCount := countOf 1 (given "lineCount")

def StatsEvent.of : StatsEvent where
  containerId := textOf (given "containerId")
  timestamp := textOf (given "timestamp")
  cpuPercent := shareOf (given "cpuPercent")
  memoryUsage := countOf 0 (given "memoryUsage")
  memoryLimit := countOf 0 (given "memoryLimit")
  memoryPercent := shareOf (given "memoryPercent")
  networkRx := countOf 0 (given "networkRx")
  networkTx := countOf 0 (given "networkTx")
  blockRead := countOf 0 (given "blockRead")
  blockWrite := countOf 0 (given "blockWrite")
  pids := countOf 0 (given "pids")

def HealthEvent.of : HealthEvent where
  agentId := textOf (given "agentId")
  status := labelOf "UNKNOWN" (given "status")
  timestamp := textOf (given "timestamp")
  containerCount := countOf 0 (given "containerCount")
  message := (given "message").text?
  lastSeen := (given "lastSeen").text?

def ServiceEvent.of : ServiceEvent where
  serviceId := textOf (given "serviceId")
  serviceName := textOf (given "serviceName")
  action := textOf (given "action")
  replicasRunning := countOf 0 (given "replicasRunning")
  replicasDesired := countOf 0 (given "replicasDesired")
  timestamp := textOf (given "timestamp")
  message := (given "message").text?

def NodeEvent.of : NodeEvent where
  nodeId := textOf (given "nodeId")
  hostname := textOf (given "hostname")
  role := textOf (given "role")
  status := labelOf "UNKNOWN" (given "status")
  availability := labelOf "UNKNOWN" (given "availability")
  timestamp := textOf (given "timestamp")
  message := (given "message").text?

end

/-- The record of a payload of this topic. -/
def Topic.recordOf (c : Topic) (payload : Value) : Record :=
  let given := c.format.given payload
  match c with
  | .log | .multiLog => .log (.of given)
  | .stackLog => .stackLog (.of given)
  | .stats => .stats (.of given)
  | .health => .health (.of given)
  | .service => .service (.of given)
  | .node => .node (.of given)

/-! ### The fields of payloads -/

section

variable (name : String)

theorem follows_word : (word name).Follows [(name, .text)] fun given => textOf (given name) :=
  (Fields.Follows.optional Decoder.string_of).map _

theorem follows_label (default : String) :
    (label name default).Follows [(name, .text)] fun given => labelOf default (given name) :=
  (Fields.Follows.optional Decoder.string_of).map _

theorem follows_remark : (remark name).Follows [(name, .text)] fun given => (given name).text? :=
  .optional Decoder.string_of

theorem follows_amount : (amount name).Follows [(name, .word 64)] fun given => countOf 0 (given name) :=
  (Fields.Follows.optional (Decoder.word_of 64 "u64")).map _

theorem follows_share : (share name).Follows [(name, .number)] fun given => shareOf (given name) :=
  (Fields.Follows.optional Decoder.binary64_of).map _

theorem follows_lines : (lines name).Follows [(name, .texts)] fun given => linesOf (given name) :=
  (Fields.Follows.optional Decoder.list_string_of).map _

theorem follows_extent : (extent name).Follows [(name, .word 32)] fun given => countOf 1 (given name) :=
  (Fields.Follows.optional (Decoder.word_of 32 "u32")).map _

end

namespace Payload

theorem follows_log : log.Follows (Topic.format .log) LogEvent.of :=
  (((((((((follows_word _).map LogEvent.mk).seq (follows_remark _)).seq (follows_remark _)).seq (follows_word _)).seq
    (follows_word _)).seq (follows_label _ _)).seq (follows_remark _)).seq (follows_lines _)).seq (follows_extent _)

theorem follows_stackLog : stackLog.Follows (Topic.format .stackLog) StackLogEvent.of :=
  ((((((((follows_word _).map StackLogEvent.mk).seq (follows_word _)).seq (follows_word _)).seq (follows_word _)).seq
    (follows_word _)).seq (follows_label _ _)).seq (follows_lines _)).seq (follows_extent _)

theorem follows_stats : stats.Follows (Topic.format .stats) StatsEvent.of :=
  (((((((((((follows_word _).map StatsEvent.mk).seq (follows_word _)).seq (follows_share _)).seq (follows_amount _)).seq
    (follows_amount _)).seq (follows_share _)).seq (follows_amount _)).seq (follows_amount _)).seq (follows_amount _)).seq
    (follows_amount _)).seq (follows_amount _)

theorem follows_health : health.Follows (Topic.format .health) HealthEvent.of :=
  ((((((follows_word _).map HealthEvent.mk).seq (follows_label _ _)).seq (follows_word _)).seq (follows_amount _)).seq
    (follows_remark _)).seq (follows_remark _)

theorem follows_service : service.Follows (Topic.format .service) ServiceEvent.of :=
  (((((((follows_word _).map ServiceEvent.mk).seq (follows_word _)).seq (follows_word _)).seq (follows_amount _)).seq
    (follows_amount _)).seq (follows_word _)).seq (follows_remark _)

theorem follows_node : node.Follows (Topic.format .node) NodeEvent.of :=
  (((((((follows_word _).map NodeEvent.mk).seq (follows_word _)).seq (follows_word _)).seq (follows_label _ _)).seq
    (follows_label _ _)).seq (follows_word _)).seq (follows_remark _)

variable {α : Type} {fields : Fields α} {format : Format} {make : (String → Value) → α}

/-- What is read of data with a payload that follows a format. -/
theorem root_value (h : fields.Follows format make) (hnames : format.names.Nodup) {data member payload : String} (f : α → Record)
    {v : Value} (hv : v.Sorted) {r : Record} :
    Decoder.map f (root data member payload fields) .value v.toTree = .ok r ↔
      ∃ p, Wraps member p v ∧ format.Accepts p ∧ r = f (make (format.given p)) := by
  rw [Decoder.map, except_map_eq_ok]
  simp only [root, Fields.decoder_wrapped hv]
  constructor
  · rintro ⟨a, ⟨p, hp, hread⟩, rfl⟩
    obtain ⟨haccepts, rfl⟩ := (h.decoder_value hnames (hp.sorted hv)).1 hread
    exact ⟨p, hp, haccepts, rfl⟩
  · rintro ⟨p, hp, haccepts, rfl⟩
    exact ⟨_, ⟨p, hp, (h.decoder_value hnames (hp.sorted hv)).2 ⟨haccepts, rfl⟩⟩, rfl⟩

end Payload

theorem Topic.decoder_value (c : Topic) {v : Value} (hv : v.Sorted) {r : Record} :
    c.decoder .value v.toTree = .ok r ↔ ∃ p, Wraps c.root p v ∧ c.format.Accepts p ∧ r = c.recordOf p := by
  cases c with
  | log => exact Payload.root_value Payload.follows_log (by decide) Record.log hv
  | multiLog => exact Payload.root_value Payload.follows_log (by decide) Record.log hv
  | stackLog => exact Payload.root_value Payload.follows_stackLog (by decide) Record.stackLog hv
  | stats => exact Payload.root_value Payload.follows_stats (by decide) Record.stats hv
  | health => exact Payload.root_value Payload.follows_health (by decide) Record.health hv
  | service => exact Payload.root_value Payload.follows_service (by decide) Record.service hv
  | node => exact Payload.root_value Payload.follows_node (by decide) Record.node hv

/-- Data are read exactly where they hold a payload that its topic's format accepts, by name or by place; the record then has what
the payload gives, and a value of its own for what is null or left out. All else is an error without a code. -/
theorem Topic.decode_accepts_exactly_its_format (c : Topic) {v : Value} (hv : v.Sorted) :
    (∀ r, c.decode v = .ok r ↔ ∃ p, Wraps c.root p v ∧ c.format.Accepts p ∧ r = c.recordOf p) ∧
    ((∀ p, Wraps c.root p v → ¬ c.format.Accepts p) →
      ∃ why, c.decode v = .error ⟨"Malformed payload: " ++ why, none, true⟩) := by
  have hread (r : Record) : c.decode v = .ok r ↔ c.decoder .value v.toTree = .ok r := by
    unfold Topic.decode Decoder.ofValue
    cases c.decoder .value v.toTree <;> simp [Except.mapError]
  refine ⟨fun r => (hread r).trans (c.decoder_value hv), fun h => ?_⟩
  cases hdecoder : c.decoder .value v.toTree with
  | ok r =>
    obtain ⟨p, hp, haccepts, -⟩ := (c.decoder_value hv).1 hdecoder
    exact absurd haccepts (h p hp)
  | error why =>
    refine ⟨why.message, ?_⟩
    unfold Topic.decode Decoder.ofValue
    rw [hdecoder]
    rfl

/-- A payload with members that are null, left out or unknown, and one by place; a total that is one too large. -/
theorem Topic.sparse_payloads_are_read :
    Topic.node.decode (.obj [("nodeEvents", .obj [("hostname", .str "n1"), ("role", .null), ("status", .str "ready"),
      ("zone", .num (.int 3))])]) = .ok (.node ⟨"", "n1", "", "READY", "UNKNOWN", "", none⟩) ∧
    Topic.stackLog.decode (.arr [.arr [.str "web", .null, .str "c1"]]) = .ok (.stackLog ⟨"web", "", "c1", "", "", "INFO", [], 1⟩) ∧
    ∃ why, Topic.log.decode (.obj [("logStream", .obj [("lineCount", .num (.int 4294967296))])]) =
      .error ⟨"Malformed payload: " ++ why, none, true⟩ := by
  refine ⟨((Topic.node.decode_accepts_exactly_its_format ?_).1 _).2 ?_,
    ((Topic.stackLog.decode_accepts_exactly_its_format ?_).1 _).2 ?_, (Topic.log.decode_accepts_exactly_its_format ?_).2 ?_⟩
  · exact ⟨by decide, ⟨by decide, trivial, trivial, trivial, trivial, trivial⟩, trivial⟩
  · refine ⟨_, .byName List.mem_cons_self, ⟨.inl ⟨_, rfl⟩, ?_⟩, by rfl⟩
    simp only [Topic.format, List.forall_mem_cons]
    exact ⟨.inl rfl, .inr (.text "n1"), .inl rfl, .inr (.text "ready"), .inl rfl, .inl rfl, .inl rfl, nofun⟩
  · simp [Value.Sorted, Value.SortedItems]
  · refine ⟨_, .byPlace, ⟨.inr ⟨_, rfl, by decide⟩, ?_⟩, by rfl⟩
    simp only [Topic.format, List.forall_mem_cons]
    exact ⟨.inr (.text "web"), .inl rfl, .inr (.text "c1"), .inl rfl, .inl rfl, .inl rfl, .inl rfl, .inl rfl, nofun⟩
  · simp [Value.Sorted, Value.SortedMembers]
  · rintro p ⟨hp⟩ haccepts
    obtain rfl := congrArg Prod.snd (List.mem_singleton.1 hp)
    rcases haccepts.fields ("lineCount", .word 32) (by decide) with h | h
    · cases h
    · exact absurd (Kind.lt_of_holds (n := 4294967296) h) (by decide)

end FleetFeed.Event
