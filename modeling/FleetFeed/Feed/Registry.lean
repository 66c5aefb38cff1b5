import FleetFeed.Error.Classified
import FleetFeed.Json.Record

/-! A registry of live channels, one for each key. A channel is opened for the first reference to its key and shut down
with the last; between the two its cell holds what came last. Whatever was opened or cancelled stands in a journal, in
the order in which it happened. -/
namespace FleetFeed.Feed

/-- What a consumer sees of a channel. -/
inductive Status (ρ : Type) where
  /-- Opened, nothing received yet. -/
  | pending
  | value (record : ρ)
  /-- An error came last; the value before it is gone. -/
  | failed (e : ClassifiedError)
  /-- Shut down by the registry. -/
  | closed
  deriving DecidableEq, Repr

namespace Status

variable {ρ : Type}

def value? : Status ρ → Option ρ
  | .value record => some record
  | _ => none

def error? : Status ρ → Option ClassifiedError
  | .failed e => some e
  | _ => none

def isPending : Status ρ → Bool
  | .pending => true
  | _ => false

def isClosed : Status ρ → Bool
  | .closed => true
  | _ => false

end Status

/-- What a channel brings: a record, or an error. -/
inductive Push (ρ : Type) where
  | event (record : ρ)
  | error (e : ClassifiedError)
  deriving DecidableEq, Repr

def Push.status {ρ : Type} : Push ρ → Status ρ
  | .event record => .value record
  | .error e => .failed e

/-- What opening a channel does besides: what it brings while it is being opened, and while it is being cancelled. -/
structure Opening (ρ : Type) where
  early : List (Push ρ)
  late : List (Push ρ)
  deriving DecidableEq, Repr

structure Channel (ρ : Type) where
  key : String
  status : Status ρ
  /-- How often the cell was written. -/
  version : Nat
  live : Bool
  /-- Someone outside the registry can still write to the cell. -/
  held : Bool
  late : List (Push ρ)
  deriving DecidableEq, Repr

def Channel.write {ρ : Type} (ch : Channel ρ) (s : Status ρ) : Channel ρ := { ch with status := s, version := ch.version + 1 }

/-- The one entry of a key: its channel and how many share it. -/
structure Entry where
  key : String
  channel : Nat
  refs : Nat
  deriving DecidableEq, Repr

/-- What happened to a channel, by its number. -/
inductive Happening where
  | opened (channel : Nat)
  | cancelled (channel : Nat)
  deriving DecidableEq, Repr

structure Stats where
  active : Nat
  opened : Nat
  closed : Nat
  events : Nat
  errors : Nat
  dropped : Nat
  deriving DecidableEq, Repr

/-- Channels are numbered in the order of their opening; they are never forgotten, entries are. -/
structure Registry (ρ : Type) where
  channels : List (Channel ρ)
  entries : List Entry
  journal : List Happening
  opened : Nat
  closed : Nat
  events : Nat
  errors : Nat
  dropped : Nat
  deriving DecidableEq, Repr

/-- A view of one channel and the version that was seen last. -/
structure Receiver where
  channel : Nat
  seen : Nat
  deriving DecidableEq, Repr

/-- A reference to a key, held by one consumer. -/
structure Guard where
  key : String
  receiver : Receiver
  deriving DecidableEq, Repr

namespace Registry

variable {ρ : Type}

def empty : Registry ρ := ⟨[], [], [], 0, 0, 0, 0, 0⟩

def entry? (r : Registry ρ) (key : String) : Option Entry := r.entries.find? (·.key = key)

def contains (r : Registry ρ) (key : String) : Bool := (r.entry? key).isSome

def refCount (r : Registry ρ) (key : String) : Nat := ((r.entry? key).map Entry.refs).getD 0

/-- What a channel shows; one that was never opened shows that it is closed. -/
def statusOf (r : Registry ρ) (channel : Nat) : Status ρ := ((r.channels[channel]?).map Channel.status).getD .closed

def versionOf (r : Registry ρ) (channel : Nat) : Nat := ((r.channels[channel]?).map Channel.version).getD 0

def isLive (r : Registry ρ) (channel : Nat) : Bool := ((r.channels[channel]?).map Channel.live).getD false

def status? (r : Registry ρ) (key : String) : Option (Status ρ) := (r.entry? key).map fun e => r.statusOf e.channel

/-- The latest value of a key. -/
def peek (r : Registry ρ) (key : String) : Option ρ := (r.status? key).bind Status.value?

def stats (r : Registry ρ) : Stats := ⟨r.entries.length, r.opened, r.closed, r.events, r.errors, r.dropped⟩

/-- No one can write to the cell any more. -/
def isGone (r : Registry ρ) (channel : Nat) : Bool :=
  !(r.entries.any (·.channel = channel)) && !(((r.channels[channel]?).map Channel.held).getD false)

def onChannel (r : Registry ρ) (channel : Nat) (f : Channel ρ → Channel ρ) : Registry ρ :=
  { r with channels := r.channels.modify channel f }

/-- Writes to the cell of a channel; what comes after the channel was shut down is dropped. -/
def push (r : Registry ρ) (channel : Nat) (p : Push ρ) : Registry ρ :=
  if r.isLive channel && !(r.statusOf channel).isClosed then
    let r := r.onChannel channel (·.write p.status)
    match p with
    | .event _ => { r with events := r.events + 1 }
    | .error _ => { r with errors := r.errors + 1 }
  else { r with dropped := r.dropped + 1 }

/-- The last holder outside the registry lets go of the cell. -/
def letGo (r : Registry ρ) (channel : Nat) : Registry ρ := r.onChannel channel ({ · with held := false })

def pushAll (r : Registry ρ) (channel : Nat) (ps : List (Push ρ)) : Registry ρ := ps.foldl (fun r p => r.push channel p) r

/-- A new channel, which no entry names yet. -/
def addChannel (r : Registry ρ) (key : String) (late : List (Push ρ)) : Registry ρ :=
  { r with
    channels := r.channels ++ [⟨key, .pending, 0, true, true, late⟩]
    journal := r.journal ++ [.opened r.channels.length] }

/-- Joins the channel of a key, or opens it. Who joins has seen what is there; who opens has seen nothing. -/
def acquire (r : Registry ρ) (key : String) (o : Opening ρ) : Registry ρ × Guard :=
  match r.entry? key with
  | some e =>
    ({ r with entries := r.entries.map fun e => if e.key = key then { e with refs := e.refs + 1 } else e },
      ⟨key, e.channel, r.versionOf e.channel⟩)
  | none =>
    let channel := r.channels.length
    let r := (r.addChannel key o.late).pushAll channel o.early
    ({ r with entries := r.entries ++ [⟨key, channel, 1⟩], opened := r.opened + 1 }, ⟨key, channel, 0⟩)

/-- What the channel brings while it is being cancelled. -/
def lateOf (r : Registry ρ) (channel : Nat) : List (Push ρ) := ((r.channels[channel]?).map Channel.late).getD []

/-- Shuts a channel down: it is no longer live before it is cancelled, and closed after that. -/
def shutDown (r : Registry ρ) (channel : Nat) : Registry ρ :=
  let dead := r.onChannel channel ({ · with live := false })
  let cancelled : Registry ρ := { dead with journal := dead.journal ++ [.cancelled channel] }
  (cancelled.pushAll channel (r.lateOf channel)).onChannel channel (·.write .closed)

/-- Removes an entry and shuts its channel down. -/
def remove (r : Registry ρ) (e : Entry) : Registry ρ :=
  let r := { r with entries := r.entries.filter (·.key ≠ e.key) }.shutDown e.channel
  { r with closed := r.closed + 1 }

/-- Gives one reference to an entry back; the last one removes it. -/
def dropRef (r : Registry ρ) (e : Entry) : Registry ρ :=
  if e.refs ≤ 1 then r.remove e
  else { r with entries := r.entries.map fun f => if f.key = e.key then { f with refs := f.refs - 1 } else f }

/-- Gives a reference to a key back, whoever holds it; false without an entry. -/
def release (r : Registry ρ) (key : String) : Registry ρ × Bool := match r.entry? key with
  | some e => (r.dropRef e, true)
  | none => (r, false)

/-- Gives the reference of a guard back. One whose entry is gone changes nothing, whatever has taken its place. -/
def giveBack (r : Registry ρ) (g : Guard) : Registry ρ := match r.entry? g.key with
  | some e => if e.channel = g.receiver.channel then r.dropRef e else r
  | none => r

/-- Shuts every channel down. -/
def clearAll (r : Registry ρ) : Registry ρ := r.entries.foldl remove r

end Registry

/-! ### Watching a channel -/

/-- What a single look without waiting can find. -/
inductive Poll (ρ : Type) where
  | notReady
  | gone
  | ready (s : Status ρ)
  deriving DecidableEq, Repr

namespace Receiver

variable {ρ : Type}

def current (x : Receiver) (r : Registry ρ) : Status ρ := r.statusOf x.channel

/-- A version that was not seen yet is shown before the end. -/
def poll (x : Receiver) (r : Registry ρ) : Receiver × Poll ρ :=
  if x.seen ≠ r.versionOf x.channel then (⟨x.channel, r.versionOf x.channel⟩, .ready (x.current r))
  else if r.isGone x.channel then (x, .gone)
  else (x, .notReady)

end Receiver

namespace Guard

variable {ρ : Type}

def current (g : Guard) (r : Registry ρ) : Status ρ := g.receiver.current r

def latest (g : Guard) (r : Registry ρ) : Option ρ := (g.current r).value?

def poll (g : Guard) (r : Registry ρ) : Guard × Poll ρ :=
  let (x, p) := g.receiver.poll r
  ({ g with receiver := x }, p)

end Guard

/-- The states of a channel one after the other, from the current one on. -/
structure Updates where
  receiver : Receiver
  started : Bool
  deriving DecidableEq, Repr

namespace Updates

variable {ρ : Type}

def of (g : Guard) : Updates := ⟨g.receiver, false⟩

def poll (u : Updates) (r : Registry ρ) : Updates × Poll ρ :=
  if u.started then
    let (x, p) := u.receiver.poll r
    (⟨x, true⟩, p)
  else (⟨⟨u.receiver.channel, r.versionOf u.receiver.channel⟩, true⟩, .ready (u.receiver.current r))

end Updates

/-! ### Counters on the wire -/

namespace Stats

open Json

def decoder : Decoder Stats :=
  (Stats.mk <$> Fields.required "active_channels" (Decoder.word 64 "usize")
    <*> Fields.required "total_opened" (Decoder.word 64 "u64") <*> Fields.required "total_closed" (Decoder.word 64 "u64")
    <*> Fields.required "events_received" (Decoder.word 64 "u64") <*> Fields.required "errors_received" (Decoder.word 64 "u64")
    <*> Fields.required "dropped_after_release" (Decoder.word 64 "u64")).decoder "struct RegistryStats"

def toTree (s : Stats) : Tree :=
  .record [("active_channels", .ofNat s.active), ("total_opened", .ofNat s.opened), ("total_closed", .ofNat s.closed),
    ("events_received", .ofNat s.events), ("errors_received", .ofNat s.errors), ("dropped_after_release", .ofNat s.dropped)]

end Stats

end FleetFeed.Feed
