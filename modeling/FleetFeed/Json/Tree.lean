import FleetFeed.Json.Value

/-! A JSON text as a tree: members in the order in which they are written, names that occur twice kept twice, and
a mark at the place where the text goes wrong. A reader that walks the tree in order meets what it reads and the
faults of the text in the order of the text. -/
namespace FleetFeed.Json

inductive Tree where
  | null
  | bool (b : Bool)
  | num (n : Number)
  | str (s : String)
  | arr (items : List Tree)
  /-- A name that is well formed but has no characters, such as half of a surrogate pair, is `none`. -/
  | obj (members : List (Option String × Tree))
  /-- A well formed token without a value: a string with half of a surrogate pair, a number out of range. -/
  | unreadable
  /-- The text goes wrong here; nothing after it is known. -/
  | broken
  deriving Repr, Inhabited

mutual

def Value.toTree : Value → Tree
  | .null => .null
  | .bool b => .bool b
  | .num n => .num n
  | .str s => .str s
  | .arr items => .arr (treesOfItems items)
  | .obj members => .obj (treesOfMembers members)

def treesOfItems : List Value → List Tree
  | [] => []
  | v :: rest => v.toTree :: treesOfItems rest

def treesOfMembers : List (String × Value) → List (Option String × Tree)
  | [] => []
  | (k, v) :: rest => (some k, v.toTree) :: treesOfMembers rest

end

namespace Tree

mutual

/-- The text of the tree goes wrong nowhere. -/
def isWhole : Tree → Bool
  | .arr items => wholeItems items
  | .obj members => wholeMembers members
  | .broken => false
  | _ => true

def wholeItems : List Tree → Bool
  | [] => true
  | t :: rest => t.isWhole && wholeItems rest

def wholeMembers : List (Option String × Tree) → Bool
  | [] => true
  | (_, t) :: rest => t.isWhole && wholeMembers rest

end

mutual

/-- How deep containers nest. -/
def height : Tree → Nat
  | .arr items => heightItems items + 1
  | .obj members => heightMembers members + 1
  | _ => 0

def heightItems : List Tree → Nat
  | [] => 0
  | t :: rest => max t.height (heightItems rest)

def heightMembers : List (Option String × Tree) → Nat
  | [] => 0
  | (_, t) :: rest => max t.height (heightMembers rest)

end

mutual

/-- The value of the tree where all of it can be read. -/
def value? : Tree → Option Value
  | .null => some .null
  | .bool b => some (.bool b)
  | .num n => some (.num n)
  | .str s => some (.str s)
  | .arr items => (values? items).map .arr
  | .obj members => (members? members).map Value.ofMembers
  | .unreadable | .broken => none

def values? : List Tree → Option (List Value)
  | [] => some []
  | t :: rest => do return (← t.value?) :: (← values? rest)

def members? : List (Option String × Tree) → Option (List (String × Value))
  | [] => some []
  | (none, _) :: _ => none
  | (some k, t) :: rest => do return (k, ← t.value?) :: (← members? rest)

end

end Tree

end FleetFeed.Json
