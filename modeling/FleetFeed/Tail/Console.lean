import FleetFeed.Config.Tail
import FleetFeed.Decimal.Notation
import FleetFeed.Feed.Hub
import FleetFeed.Graphql.Operation
import FleetFeed.History.Series

/-! A console that follows one container: its log, and a picture of its load. It ends with the log; without the load it goes
on. -/
namespace FleetFeed.Tail

open Config Event Feed

/-! ### Lines -/

private def padTo (n : Nat) (s : String) : String := s ++ String.ofList (List.replicate (n - s.length) ' ')

private def padFromLeft (n : Nat) (s : String) : String := String.ofList (List.replicate (n - s.length) ' ') ++ s

/-- A line of the log, and where that is wanted the lines that belong to it. -/
def logLines (grouped : Bool) (e : LogEvent) : List String :=
  (e.timestamp ++ " " ++ padTo 5 e.level ++ " " ++ e.content) :: (if grouped then e.groupedLines.map ("    " ++ ·) else [])

private def percent (x : Binary64) : String := padFromLeft 5 (Decimal.writeTenths x) ++ "%"

def statsLine (e : StatsEvent) (s : History.Series) : String :=
  "cpu " ++ percent e.cpuPercent ++ " mem " ++ percent e.memoryPercent ++ " " ++ History.sparkline s.cpu

/-! ### Following -/

structure Console where
  config : TailConfig
  container : String
  hub : Hub
  logs : Binding Record
  stats : Binding Record
  series : History.Series
  running : Bool

/-- What came of an event: lines on the screen, and what the links did. -/
structure Effect where
  lines : List String
  actions : List HubAction
  deriving DecidableEq, Repr

namespace Effect

def none : Effect := ⟨[], []⟩

def append (a b : Effect) : Effect := ⟨a.lines ++ b.lines, a.actions ++ b.actions⟩

instance : Append Effect := ⟨append⟩

end Effect

/-- The container that is given, else the first of the fleet. -/
def containerOf (c : TailConfig) (fleet : List Graphql.ContainerSummary) : Option String :=
  c.containerId.or (fleet.head?.map (·.id))

namespace Console

/-- Begins to follow. A fleet that cannot be listed is taken to be empty, and without a container there is nothing to
follow. -/
def start (c : TailConfig) (fleet : Except ClassifiedError (List Graphql.ContainerSummary)) :
    Except ClassifiedError (Option Console) := do
  let hub ← Hub.ofConfig c.client
  return (containerOf c (fleet.toOption.getD [])).map fun container =>
    let (hub, logs, _) := hub.setKey .log (.new Board.quiet) (some container)
    let (hub, stats, _) := hub.setKey .stats (.new Board.quiet) (some container)
    ⟨c, container, hub, logs, stats, .new c.statsWindow, true⟩

/-- Points the log at a key. -/
def setLogs (t : Console) (key : Option String) : Console × Effect :=
  let (hub, logs, done) := t.hub.setKey .log t.logs key
  ({ t with hub, logs }, ⟨[], done⟩)

/-- Points the load at a key. -/
def setStats (t : Console) (key : Option String) : Console × Effect :=
  let (hub, stats, done) := t.hub.setKey .stats t.stats key
  ({ t with hub, stats }, ⟨[], done⟩)

/-- Gives everything back. -/
def stop (t : Console) : Console × Effect :=
  let (t, a) := t.setLogs none
  let (t, b) := t.setStats none
  let (hub, done) := t.hub.clearAll
  ({ t with hub, running := false }, a ++ b ++ ⟨[], done⟩)

/-- A channel does not come back by itself: it is given back and taken anew. -/
def againLogs (t : Console) : Console × Effect :=
  let (t, a) := t.setLogs none
  let (t, b) := t.setLogs (some t.container)
  (t, a ++ b)

def againStats (t : Console) : Console × Effect :=
  let (t, a) := t.setStats none
  let (t, b) := t.setStats (some t.container)
  (t, a ++ b)

/-- Looks at the log once. A failure that may pass starts it again, any other one ends the console. -/
def lookAtLogs (t : Console) : Console × Effect :=
  let (logs, p) := t.logs.poll (t.hub.registry .log)
  let t := { t with logs }
  match p with
  | .ready (.value (.log e)) => (t, ⟨logLines t.config.showGroupedLines e, []⟩)
  | .ready (.failed e) => if e.isRetryable then t.againLogs else t.stop
  | .ready .closed | .gone => t.stop
  | .ready (.value _) | .ready .pending | .notReady => (t, .none)

/-- Looks at the load once. A failure that may pass starts it again, any other one ends the picture. -/
def lookAtStats (t : Console) : Console × Effect :=
  let (stats, p) := t.stats.poll (t.hub.registry .stats)
  let t := { t with stats }
  match p with
  | .ready (.value (.stats e)) =>
    let t := { t with series := t.series.record e }
    (t, ⟨[statsLine e t.series], []⟩)
  | .ready (.failed e) => if e.isRetryable then t.againStats else t.setStats none
  | .ready .closed | .gone => t.setStats none
  | .ready (.value _) | .ready .pending | .notReady => (t, .none)

/-- An event at the socket of a channel, and what the console makes of it. -/
def step (t : Console) (c : Topic) (channel : Nat) (e : LinkEvent) : Console × Effect :=
  if !t.running then (t, .none)
  else
    let (hub, done) := t.hub.event c channel e
    let (t, a) := { t with hub }.lookAtLogs
    if !t.running then (t, ⟨[], done⟩ ++ a)
    else
      let (t, b) := t.lookAtStats
      (t, ⟨[], done⟩ ++ a ++ b)

end Console

end FleetFeed.Tail
