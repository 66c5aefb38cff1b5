import FleetFeed.Feed.Binding
import FleetFeed.Feed.Link

/-! The registry of one topic together with the links of its channels. The registry decides which channels are
opened and cancelled; the links follow its journal, and what they deliver goes into its cells. -/
namespace FleetFeed.Feed

open Event

/-- The links have the numbers of their channels. -/
structure Board where
  url : Url
  registry : Registry Record
  links : List Link
  deriving DecidableEq, Repr

namespace Board

def new (url : Url) : Board := ⟨url, .empty, []⟩

/-- A channel does nothing of its own while it is opened or cancelled. -/
def quiet : Opening Record := ⟨[], []⟩

def receive (r : Registry Record) (channel : Nat) : LinkAction → Registry Record
  | .deliver p => r.push channel p
  | .send _ | .close => r

/-- An event at the socket of a channel, and what its link does. A link that has ended lets go of the cell. -/
def event (b : Board) (channel : Nat) (e : LinkEvent) : Board × List LinkAction := match b.links[channel]? with
  | some l =>
    let (l, done) := l.step e
    let r := done.foldl (receive · channel) b.registry
    ({ b with registry := if l.stage = .ended then r.letGo channel else r, links := b.links.set channel l }, done)
  | none => (b, [])

/-- What the links do about one entry of the journal. `target` says what is subscribed for a key. -/
def happen (target : String → Target) (b : Board) : Happening → Board × List (Nat × LinkAction)
  | .opened channel =>
    let key := ((b.registry.channels[channel]?).map Channel.key).getD ""
    ({ b with links := b.links ++ [Link.start b.url (target key)] }, [])
  | .cancelled channel =>
    let (b, done) := b.event channel .cancelled
    (b, done.map (channel, ·))

/-- Takes over what became of the registry, and has the links follow. -/
def adopt (b : Board) (target : String → Target) (r : Registry Record) : Board × List (Nat × LinkAction) :=
  (r.journal.drop b.registry.journal.length).foldl
    (fun (b, done) h => let (b, more) := b.happen target h; (b, done ++ more)) ({ b with registry := r }, [])

/-- A reference to a key. It is opened for `t` if there is no channel yet. -/
def acquire (b : Board) (key : String) (t : Target) : Board × Guard :=
  let (r, g) := b.registry.acquire key quiet
  ((b.adopt (fun _ => t) r).1, g)

def giveBack (b : Board) (c : Topic) (g : Guard) : Board × List (Nat × LinkAction) :=
  b.adopt (.one c) (b.registry.giveBack g)

/-- Gives a reference to a key back, whoever holds it; false without an entry. -/
def release (b : Board) (c : Topic) (key : String) : Board × Bool × List (Nat × LinkAction) :=
  let (r, held) := b.registry.release key
  let (b, done) := b.adopt (.one c) r
  (b, held, done)

def clearAll (b : Board) (c : Topic) : Board × List (Nat × LinkAction) := b.adopt (.one c) b.registry.clearAll

/-- Points a binding of the topic at a key. -/
def setKey (b : Board) (c : Topic) (x : Binding Record) (key : Option String) :
    Board × Binding Record × List (Nat × LinkAction) :=
  let (x, r, _) := x.setKey b.registry key
  let (b, done) := b.adopt (.one c) r
  (b, x, done)

end Board

end FleetFeed.Feed
