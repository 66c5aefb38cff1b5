import FleetFeed.Feed.Binding

/-! A registry and everything that consumers hold of it, and the steps that they take. Guards, receivers, streams and
bindings are numbered in the order in which they were made; one that was given back keeps its number. -/
namespace FleetFeed.Feed

structure Consumers (ρ : Type) where
  registry : Registry ρ
  guards : List (Option Guard)
  receivers : List Receiver
  streams : List Updates
  bindings : List (Option (Binding ρ))
  deriving DecidableEq, Repr

inductive Step (ρ : Type) where
  | acquire (key : String) (opening : Opening ρ)
  /-- A guard is released or dropped. -/
  | giveBack (guard : Nat)
  | release (key : String)
  | clearAll
  | push (channel : Nat) (p : Push ρ)
  | letGo (channel : Nat)
  | pollGuard (guard : Nat)
  /-- A receiver of its own is taken from a guard. -/
  | watch (guard : Nat)
  /-- A stream of states is taken from a guard. -/
  | follow (guard : Nat)
  | pollStream (stream : Nat)
  | bind (opening : Opening ρ)
  | setKey (binding : Nat) (key : Option String)
  | pollBinding (binding : Nat)
  /-- A binding is dropped. -/
  | unbind (binding : Nat)
  deriving DecidableEq, Repr

/-- What a step answers. -/
inductive Answer (ρ : Type) where
  | done
  | flag (b : Bool)
  | polled (p : Poll ρ)
  /-- No such guard, stream or binding. -/
  | unknown
  deriving DecidableEq, Repr

namespace Consumers

variable {ρ : Type}

def start : Consumers ρ := ⟨.empty, [], [], [], []⟩

def guard? (w : Consumers ρ) (guard : Nat) : Option Guard := (w.guards[guard]?).join

def binding? (w : Consumers ρ) (binding : Nat) : Option (Binding ρ) := (w.bindings[binding]?).join

/-- One step, and what it answers. -/
def step (w : Consumers ρ) : Step ρ → Consumers ρ × Answer ρ
  | .acquire key opening =>
    let (r, g) := w.registry.acquire key opening
    ({ w with registry := r, guards := w.guards ++ [some g] }, .done)
  | .giveBack i => match w.guard? i with
    | some g => ({ w with registry := w.registry.giveBack g, guards := w.guards.set i none }, .flag true)
    | none => (w, .unknown)
  | .release key =>
    let (r, b) := w.registry.release key
    ({ w with registry := r }, .flag b)
  | .clearAll => ({ w with registry := w.registry.clearAll }, .done)
  | .push channel p => ({ w with registry := w.registry.push channel p }, .done)
  | .letGo channel => ({ w with registry := w.registry.letGo channel }, .done)
  | .pollGuard i => match w.guard? i with
    | some g => let (g, p) := g.poll w.registry; ({ w with guards := w.guards.set i (some g) }, .polled p)
    | none => (w, .unknown)
  | .watch i => match w.guard? i with
    | some g => ({ w with receivers := w.receivers ++ [g.receiver] }, .done)
    | none => (w, .unknown)
  | .follow i => match w.guard? i with
    | some g => ({ w with streams := w.streams ++ [.of g] }, .done)
    | none => (w, .unknown)
  | .pollStream i => match w.streams[i]? with
    | some u => let (u, p) := u.poll w.registry; ({ w with streams := w.streams.set i u }, .polled p)
    | none => (w, .unknown)
  | .bind opening => ({ w with bindings := w.bindings ++ [some (.new opening)] }, .done)
  | .setKey i key => match w.binding? i with
    | some b =>
      let (b, r, changed) := b.setKey w.registry key
      ({ w with registry := r, bindings := w.bindings.set i (some b) }, .flag changed)
    | none => (w, .unknown)
  | .pollBinding i => match w.binding? i with
    | some b => let (b, p) := b.poll w.registry; ({ w with bindings := w.bindings.set i (some b) }, .polled p)
    | none => (w, .unknown)
  | .unbind i => match w.binding? i with
    | some b => ({ w with registry := b.letGo w.registry, bindings := w.bindings.set i none }, .flag true)
    | none => (w, .unknown)

/-- The consumers after some steps. -/
def run (w : Consumers ρ) (steps : List (Step ρ)) : Consumers ρ := steps.foldl (fun w s => (w.step s).1) w

end Consumers

end FleetFeed.Feed
