import FleetFeed.Feed.Registry
import FleetFeed.Text.Blank

/-! A binding holds at most one reference and follows a key: a change of the key gives the old reference back before the
new one is taken, and a blank key holds nothing. -/
namespace FleetFeed.Feed

structure Binding (ρ : Type) where
  /-- How the binding opens a channel. -/
  opening : Opening ρ
  guard : Option Guard
  deriving DecidableEq, Repr

namespace Binding

variable {ρ : Type}

def new (opening : Opening ρ) : Binding ρ := ⟨opening, none⟩

def key (b : Binding ρ) : Option String := b.guard.map Guard.key

def isBound (b : Binding ρ) : Bool := b.guard.isSome

/-- A blank key is no key. -/
def usable (key : Option String) : Option String := key.filter fun k => !Text.allBlank k

def letGo (b : Binding ρ) (r : Registry ρ) : Registry ρ := match b.guard with
  | some g => r.giveBack g
  | none => r

/-- Points the binding at a key; false when it is there already. -/
def setKey (b : Binding ρ) (r : Registry ρ) (key : Option String) : Binding ρ × Registry ρ × Bool :=
  if b.key = usable key then (b, r, false)
  else
    let r := b.letGo r
    match usable key with
    | some k => let (r, g) := r.acquire k b.opening; ({ b with guard := some g }, r, true)
    | none => ({ b with guard := none }, r, true)

def clear (b : Binding ρ) (r : Registry ρ) : Binding ρ × Registry ρ × Bool := b.setKey r none

def current (b : Binding ρ) (r : Registry ρ) : Option (Status ρ) := b.guard.map (·.current r)

def latest (b : Binding ρ) (r : Registry ρ) : Option ρ := b.guard.bind (·.latest r)

/-- Without a key there is nothing to wait for, and nothing ever comes. -/
def poll (b : Binding ρ) (r : Registry ρ) : Binding ρ × Poll ρ := match b.guard with
  | some g => let (g, p) := g.poll r; ({ b with guard := some g }, p)
  | none => (b, .notReady)

end Binding

end FleetFeed.Feed
