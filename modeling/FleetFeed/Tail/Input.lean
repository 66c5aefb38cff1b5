import FleetFeed.Tail.Console

/-! What a console is told, one line of text for each thing that happens: the list of the fleet, then events at the sockets
of its two channels. -/
namespace FleetFeed.Tail

open Event Feed Graphql

inductive Input where
  /-- The reply to the question for the containers of the fleet. -/
  | fleet (reply : Except ClassifiedError Reply)
  /-- An event at the socket of a channel. -/
  | event (c : Topic) (e : LinkEvent)
  deriving Repr

namespace Input

/-- The first word of a line, and what follows its blank. -/
def word (s : String) : String × String :=
  (String.ofList (s.toList.takeWhile (· != ' ')), String.ofList ((s.toList.dropWhile (· != ' ')).drop 1))

def eventOf? (s : String) : Option LinkEvent := match word s with
  | ("launched", _) => some .launched
  | ("opened", _) => some .opened
  | ("refused", _) => some .refused
  | ("text", t) => some (.text t)
  | ("binary", _) => some .binary
  | ("closed", reason) => some (.closed (some reason))
  | ("broken", _) => some .broken
  | ("exhausted", _) => some .exhausted
  | ("muted", _) => some .muted
  | _ => none

def replyOf? (s : String) : Option (Except ClassifiedError Reply) := match word s with
  | ("failed", message) => some (.error (.transport message))
  | (status, body) => (Config.number? 16 status).map fun n => .ok ⟨n, body⟩

/-- The meaning of a line, where it has one. -/
def ofLine? (s : String) : Option Input := match word s with
  | ("fleet", rest) => (replyOf? rest).map .fleet
  | ("logs", rest) => (eventOf? rest).map (.event .log)
  | ("stats", rest) => (eventOf? rest).map (.event .stats)
  | _ => none

end Input

/-- Where a program stands: it has not heard of the fleet, it follows a container, or it is over, with success or without. -/
inductive Progress where
  | asking (c : Config.TailConfig)
  | following (t : Console)
  | finished (success : Bool)

namespace Progress

/-- The channel that a topic is followed through at present. -/
def channel? (t : Console) : Topic → Option Nat
  | .log => t.logs.guard.map fun g => g.receiver.channel
  | .stats => t.stats.guard.map fun g => g.receiver.channel
  | _ => none

def step (p : Progress) (i : Input) : Progress × Effect := match p, i with
  | .asking c, .fleet reply => match Console.start c (Operation.containers.outcome reply) with
    | .ok (some t) => (.following t, .none)
    | .ok none => (.finished true, .none)
    | .error _ => (.finished false, .none)
  | .following t, .event c e => match channel? t c with
    | some channel =>
      let (t, effect) := t.step c channel e
      (if t.running then .following t else .finished true, effect)
    | none => (p, .none)
  | _, _ => (p, .none)

end Progress

end FleetFeed.Tail
