/-! The last samples of a series, up to a fixed number. -/
namespace FleetFeed.History

/-- Oldest sample first. -/
structure Window (α : Type) where
  capacity : Nat
  samples : List α
  deriving DecidableEq, Repr

namespace Window

variable {α : Type}

def defaultCapacity : Nat := 60

/-- A window holds one sample at least. -/
def new (capacity : Nat) : Window α := ⟨max capacity 1, []⟩

/-- Appends a sample; a full window lets go of its oldest. -/
def push (w : Window α) (a : α) : Window α :=
  { w with samples := (if w.samples.length = w.capacity then w.samples.drop 1 else w.samples) ++ [a] }

def latest (w : Window α) : Option α := w.samples.getLast?

def clear (w : Window α) : Window α := { w with samples := [] }

def length (w : Window α) : Nat := w.samples.length

end Window

end FleetFeed.History
