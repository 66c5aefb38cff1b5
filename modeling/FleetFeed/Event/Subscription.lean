import FleetFeed.Event.Payload
import FleetFeed.Graphql.Request
import FleetFeed.Session.Frame

/-! What is subscribed for a topic and the resources it is about. -/
namespace FleetFeed.Event

open Json

namespace Topic

/-- The name of the operation. -/
def operation : Topic → String
  | .log => "ContainerLogs"
  | .multiLog => "MultiContainerLogs"
  | .stackLog => "StackLogs"
  | .stats => "ContainerStats"
  | .health => "AgentHealth"
  | .service => "ServiceEvents"
  | .node => "NodeEvents"

def document : Topic → String
  | .log => "subscription ContainerLogs($containerId: ID!) \x7b
  logStream(containerId: $containerId) \x7b
    containerId
    containerName
    agentId
    timestamp
    content
    level
    stream
    groupedLines
    lineCount
  \x7d
\x7d"
  | .multiLog => "subscription MultiContainerLogs($containerIds: [ID!]!) \x7b
  multiContainerLogs(containerIds: $containerIds) \x7b
    containerId
    containerName
    agentId
    timestamp
    content
    level
    stream
    groupedLines
    lineCount
  \x7d
\x7d"
  | .stackLog => "subscription StackLogs($stackName: String!) \x7b
  stackLogs(stackName: $stackName) \x7b
    stackName
    serviceName
    containerId
    timestamp
    content
    level
    groupedLines
    lineCount
  \x7d
\x7d"
  | .stats => "subscription ContainerStats($containerId: ID!) \x7b
  containerStats(containerId: $containerId) \x7b
    containerId
    timestamp
    cpuPercent
    memoryUsage
    memoryLimit
    memoryPercent
    networkRx
    networkTx
    blockRead
    blockWrite
    pids
  \x7d
\x7d"
  | .health => "subscription AgentHealth($agentId: ID!) \x7b
  agentHealth(agentId: $agentId) \x7b
    agentId
    status
    timestamp
    containerCount
    message
    lastSeen
  \x7d
\x7d"
  | .service => "subscription ServiceEvents($serviceId: ID!) \x7b
  serviceEvents(serviceId: $serviceId) \x7b
    serviceId
    serviceName
    action
    replicasRunning
    replicasDesired
    timestamp
    message
  \x7d
\x7d"
  | .node => "subscription NodeEvents($nodeId: ID!) \x7b
  nodeEvents(nodeId: $nodeId) \x7b
    nodeId
    hostname
    role
    status
    availability
    timestamp
    message
  \x7d
\x7d"

/-- The variable that names the resource. -/
def variableName : Topic → String
  | .log => "containerId"
  | .multiLog => "containerIds"
  | .stackLog => "stackName"
  | .stats => "containerId"
  | .health => "agentId"
  | .service => "serviceId"
  | .node => "nodeId"

end Topic

/-- What a subscription is about: one resource of a topic, or a list of containers whose logs are merged. -/
inductive Target where
  | one (c : Topic) (key : String)
  | containers (ids : List String)
  deriving DecidableEq, Repr

namespace Target

def topic : Target → Topic
  | .one c _ => c
  | .containers _ => .multiLog

def vars : Target → Value
  | .one c key => .obj [(c.variableName, .str key)]
  | .containers ids => .obj [(Topic.variableName .multiLog, .arr (ids.map .str))]

def request (t : Target) : Graphql.Request := ⟨t.topic.document, some t.vars⟩

end Target

/-- Each text once, in increasing order. -/
def distinct (ids : List String) : List String :=
  (ids.mergeSort (fun a b => decide (a ≤ b))).eraseReps

/-- The key of a set of containers, whatever their order and repetitions. -/
def mergedKey (ids : List String) : String := ",".intercalate (distinct ids)

end FleetFeed.Event
