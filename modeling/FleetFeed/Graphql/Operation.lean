import FleetFeed.Graphql.Reply
import FleetFeed.Graphql.Request
import FleetFeed.Json.Writer

/-! One-shot queries and control mutations. Each is one request, and its result is read from one member of the data. -/
namespace FleetFeed.Graphql

open Json

structure ContainerSummary where
  id : String
  name : String
  image : String
  state : String
  status : String
  agentId : Option String
  deriving DecidableEq, Repr

structure AgentSummary where
  id : String
  name : String
  address : String
  status : String
  deriving DecidableEq, Repr

structure ContainerState where
  id : String
  state : String
  deriving DecidableEq, Repr

structure ServiceScale where
  id : String
  name : String
  replicas : Nat
  deriving DecidableEq, Repr

structure NodeAvailability where
  id : String
  availability : String
  deriving DecidableEq, Repr

def optionalText (name : String) : Fields String := Fields.defaulted name Decoder.string ""

namespace ContainerSummary

def decoder : Decoder ContainerSummary :=
  (ContainerSummary.mk <$> Fields.required "id" Decoder.string <*> optionalText "name" <*> optionalText "image" <*> optionalText "state"
    <*> optionalText "status" <*> Fields.optional "agentId" Decoder.string).decoder "struct ContainerSummary"

def toTree (c : ContainerSummary) : Tree :=
  .record [("id", .str c.id), ("name", .str c.name), ("image", .str c.image), ("state", .str c.state),
    ("status", .str c.status), ("agentId", Tree.ofOption .str c.agentId)]

end ContainerSummary

namespace AgentSummary

def decoder : Decoder AgentSummary :=
  (AgentSummary.mk <$> Fields.required "id" Decoder.string <*> optionalText "name" <*> optionalText "address" <*> optionalText "status").decoder
    "struct AgentSummary"

def toTree (a : AgentSummary) : Tree :=
  .record [("id", .str a.id), ("name", .str a.name), ("address", .str a.address), ("status", .str a.status)]

end AgentSummary

namespace ContainerState

def decoder : Decoder ContainerState :=
  (ContainerState.mk <$> Fields.required "id" Decoder.string <*> optionalText "state").decoder "struct ContainerState"

def toTree (c : ContainerState) : Tree := .record [("id", .str c.id), ("state", .str c.state)]

end ContainerState

namespace ServiceScale

def decoder : Decoder ServiceScale :=
  (ServiceScale.mk <$> Fields.required "id" Decoder.string <*> optionalText "name"
    <*> Fields.defaulted "replicas" (Decoder.word 64 "u64") 0).decoder "struct ServiceScale"

def toTree (s : ServiceScale) : Tree :=
  .record [("id", .str s.id), ("name", .str s.name), ("replicas", .ofNat s.replicas)]

end ServiceScale

namespace NodeAvailability

def decoder : Decoder NodeAvailability :=
  (NodeAvailability.mk <$> Fields.required "id" Decoder.string <*> optionalText "availability").decoder "struct NodeAvailability"

def toTree (n : NodeAvailability) : Tree := .record [("id", .str n.id), ("availability", .str n.availability)]

end NodeAvailability

inductive ContainerAction where
  | start
  | stop
  | restart
  deriving DecidableEq, Repr

def ContainerAction.wire : ContainerAction → String
  | .start => "START"
  | .stop => "STOP"
  | .restart => "RESTART"

/-- A request and how its data are read. -/
structure Operation (α : Type) where
  request : Request
  result : Decoder α

namespace Operation

/-- Data with a single member. -/
def root {α : Type} (type member : String) (d : Decoder α) : Decoder α := (Fields.required member d).decoder ("struct " ++ type)

def containersQuery : String := "query Containers \x7b
  containers \x7b
    id
    name
    image
    state
    status
    agentId
  \x7d
\x7d"

def agentsQuery : String := "query Agents \x7b
  agents \x7b
    id
    name
    address
    status
  \x7d
\x7d"

def actMutation : String := "mutation ContainerAction($id: ID!, $action: ContainerAction!) \x7b
  containerAction(id: $id, action: $action) \x7b
    id
    state
  \x7d
\x7d"

def scaleMutation : String := "mutation ScaleService($id: ID!, $replicas: Int!) \x7b
  scaleService(id: $id, replicas: $replicas) \x7b
    id
    name
    replicas
  \x7d
\x7d"

def drainMutation : String := "mutation DrainNode($id: ID!) \x7b
  updateNodeAvailability(id: $id, availability: DRAIN) \x7b
    id
    availability
  \x7d
\x7d"

def containers : Operation (List ContainerSummary) :=
  ⟨⟨containersQuery, none⟩, root "ContainersData" "containers" (Decoder.list ContainerSummary.decoder)⟩

def agents : Operation (List AgentSummary) :=
  ⟨⟨agentsQuery, none⟩, root "AgentsData" "agents" (Decoder.list AgentSummary.decoder)⟩

def act (id : String) (action : ContainerAction) : Operation ContainerState :=
  ⟨⟨actMutation, some (.ofMembers [("id", .str id), ("action", .str action.wire)])⟩,
    root "ContainerActionData" "containerAction" ContainerState.decoder⟩

def scale (id : String) (replicas : Nat) : Operation ServiceScale :=
  ⟨⟨scaleMutation, some (.ofMembers [("id", .str id), ("replicas", .num (.int replicas))])⟩,
    root "ScaleServiceData" "scaleService" ServiceScale.decoder⟩

def drain (id : String) : Operation NodeAvailability :=
  ⟨⟨drainMutation, some (.ofMembers [("id", .str id)])⟩, root "DrainNodeData" "updateNodeAvailability" NodeAvailability.decoder⟩

/-- A free document, whose data are handed over as they are. -/
def send (document : String) (vars : Option Value) : Operation Value := ⟨⟨document, vars⟩, Decoder.free⟩

/-- The text of the request. -/
def body {α : Type} (o : Operation α) : String := o.request.toTree.write

/-- The outcome of the operation, given what came of posting its request. -/
def outcome {α : Type} (o : Operation α) (posted : Except ClassifiedError Reply) : Except ClassifiedError α := do
  let reply ← posted
  let data ← reply.data
  (o.result.ofValue data).mapError .malformed

end Operation

/-- How posting a request can fail before there is a reply. -/
def unreachable (url : String) : ClassifiedError := .transport ("Request to " ++ url ++ " failed")

def bodyCut : ClassifiedError := .transport "Failed to read response body"

end FleetFeed.Graphql
