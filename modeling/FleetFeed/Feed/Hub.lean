import FleetFeed.Config.Client
import FleetFeed.Feed.Board

/-! The owner of all channels: one board for each topic, all of them at one place. -/
namespace FleetFeed.Feed

open Config Event

structure Hub where
  url : Url
  boards : Topic → Board

/-- What a link of the hub did: its topic, its channel and the action. -/
structure HubAction where
  topic : Topic
  channel : Nat
  action : LinkAction
  deriving DecidableEq, Repr

/-- The name under which the counters of a topic are told. -/
def boardName : Topic → String
  | .log => "container_logs"
  | .multiLog => "merged_logs"
  | .stackLog => "stack_logs"
  | .stats => "container_stats"
  | .health => "agent_health"
  | .service => "service_events"
  | .node => "node_events"

/-- What is really asked for, and its key. Merged logs are asked for with a list; blank containers are left out of it, and
a list of none asks for nothing. -/
def keyed : Target → Option (Target × String)
  | .one .multiLog _ => none
  | .one c key => some (.one c key, key)
  | .containers ids =>
    let ids := ids.filter fun id => !Text.allBlank id
    if ids.isEmpty then none else some (.containers ids, mergedKey ids)

namespace Hub

def new (url : Url) : Hub := ⟨url, fun _ => .new url⟩

def ofConfig (c : ClientConfig) : Except ClassifiedError Hub := do return .new (← c.resolve).ws

def registry (h : Hub) (c : Topic) : Registry Record := (h.boards c).registry

def withBoard (h : Hub) (c : Topic) (b : Board) : Hub := { h with boards := fun d => if d = c then b else h.boards d }

def tagged (c : Topic) (done : List (Nat × LinkAction)) : List HubAction := done.map fun a => ⟨c, a.1, a.2⟩

/-- A reference to what is asked for; none where nothing is. -/
def acquire (h : Hub) (t : Target) : Hub × Option Guard := match keyed t with
  | some (t, key) =>
    let (b, g) := (h.boards t.topic).acquire key t
    (h.withBoard t.topic b, some g)
  | none => (h, none)

def giveBack (h : Hub) (c : Topic) (g : Guard) : Hub × List HubAction :=
  let (b, done) := (h.boards c).giveBack c g
  (h.withBoard c b, tagged c done)

def release (h : Hub) (c : Topic) (key : String) : Hub × Bool × List HubAction :=
  let (b, held, done) := (h.boards c).release c key
  (h.withBoard c b, held, tagged c done)

def event (h : Hub) (c : Topic) (channel : Nat) (e : LinkEvent) : Hub × List HubAction :=
  let (b, done) := (h.boards c).event channel e
  (h.withBoard c b, tagged c (done.map (channel, ·)))

def setKey (h : Hub) (c : Topic) (x : Binding Record) (key : Option String) : Hub × Binding Record × List HubAction :=
  let (b, x, done) := (h.boards c).setKey c x key
  (h.withBoard c b, x, tagged c done)

/-- Shuts every channel of every topic down. -/
def clearAll (h : Hub) : Hub × List HubAction :=
  Topic.all.foldl (fun (h, done) c =>
    let (b, more) := (h.boards c).clearAll c
    (h.withBoard c b, done ++ tagged c more)) (h, [])

/-- The counters of every topic. -/
def stats (h : Hub) : List (Topic × Stats) := Topic.all.map fun c => (c, (h.registry c).stats)

end Hub

/-! ### Who holds what -/

/-- A hub and the guards that were taken from it, in the order in which they were; one that was given back keeps its
number. -/
structure Audience where
  hub : Hub
  guards : List (Option (Topic × Guard))

inductive HubStep where
  | acquire (t : Target)
  /-- A guard is dropped. -/
  | giveBack (guard : Nat)
  /-- A reference is given back at the registry of a topic itself. -/
  | release (c : Topic) (key : String)
  | poll (guard : Nat)
  | event (c : Topic) (channel : Nat) (e : LinkEvent)
  | clearAll
  deriving DecidableEq, Repr

namespace Audience

def of (h : Hub) : Audience := ⟨h, []⟩

def guard? (a : Audience) (guard : Nat) : Option (Topic × Guard) := (a.guards[guard]?).join

def current (a : Audience) (c : Topic) (g : Guard) : Status Record := g.current (a.hub.registry c)

/-- Looks at what a guard shows, once and without waiting. -/
def poll (a : Audience) (guard : Nat) : Audience × Option (Poll Record) := match a.guard? guard with
  | some (c, g) =>
    let (g, p) := g.poll (a.hub.registry c)
    ({ a with guards := a.guards.set guard (some (c, g)) }, some p)
  | none => (a, none)

def step (a : Audience) : HubStep → Audience × List HubAction
  | .acquire t =>
    let (h, g) := a.hub.acquire t
    (⟨h, a.guards ++ [g.map (t.topic, ·)]⟩, [])
  | .giveBack i => match a.guard? i with
    | some (c, g) =>
      let (h, done) := a.hub.giveBack c g
      (⟨h, a.guards.set i none⟩, done)
    | none => (a, [])
  | .release c key => let (h, _, done) := a.hub.release c key; ({ a with hub := h }, done)
  | .poll i => ((a.poll i).1, [])
  | .event c channel e => let (h, done) := a.hub.event c channel e; ({ a with hub := h }, done)
  | .clearAll => let (h, done) := a.hub.clearAll; ({ a with hub := h }, done)

def run (a : Audience) (steps : List HubStep) : Audience := steps.foldl (fun a s => (a.step s).1) a

end Audience

end FleetFeed.Feed
