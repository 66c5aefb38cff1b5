import FleetFeed.Json.Decoder

/-! Records: objects whose members are read by name, or arrays whose items are read by position. A record is read in
two steps. First its members are checked in the order in which they are written; then the fields are taken from what
was found, in the order of their declaration, so that here only a missing field can fail. -/
namespace FleetFeed.Json

structure Field where
  name : String
  check : Source → Tree → Except DecodeError Unit

/-- What was found for the fields of a record. -/
structure Row where
  /-- The record as messages call it. -/
  record : String
  names : List String
  positional : Bool
  source : Source
  cells : List (String × Tree)

namespace Row

/-- `1 element`, `2 elements`, … -/
def counted (n : Nat) : String := if n = 1 then "1 element" else Nat.repr n ++ " elements"

def missing (r : Row) (name : String) : DecodeError :=
  if r.positional then .invalidLength (r.names.idxOf name) (r.record ++ " with " ++ counted r.names.length)
  else .missingField name

end Row

/-- The fields of a record and how a record is made of them. -/
structure Fields (α : Type) where
  fields : List Field
  build : Row → Except DecodeError α

namespace Fields

variable {α β : Type}

instance : Functor Fields where
  map f x := ⟨x.fields, fun r => (x.build r).map f⟩

instance : Applicative Fields where
  pure a := ⟨[], fun _ => .ok a⟩
  seq f x := ⟨f.fields ++ (x ()).fields, fun r => do
    let g ← f.build r
    let a ← (x ()).build r
    return g a⟩

def names (x : Fields α) : List String := x.fields.map (·.name)

def single (name : String) (d : Decoder α) (absent : Row → Except DecodeError α) : Fields α :=
  ⟨[⟨name, fun s t => (d s t).map fun _ => ()⟩], fun r => match r.cells.lookup name with
    | some t => d r.source t
    | none => absent r⟩

def required (name : String) (d : Decoder α) : Fields α := single name d fun r => .error (r.missing name)

/-- A field that takes a value of its own where it is left out. -/
def defaulted (name : String) (d : Decoder α) (value : α) : Fields α := single name d fun _ => .ok value

/-- A field that may be left out. -/
def optional (name : String) (d : Decoder α) : Fields (Option α) := defaulted name d.option none

/-- A field that may be left out of an object but not of an array. -/
def nullable (name : String) (d : Decoder α) : Fields (Option α) :=
  single name d.option fun r => if r.positional then .error (r.missing name) else .ok none

/-- Checks the members of an object in order and collects those that are fields. -/
def checkMembers (fields : List Field) (s : Source) (cells : List (String × Tree)) :
    List (Option String × Tree) → Except DecodeError (List (String × Tree))
  | [] => .ok cells
  | (none, _) :: _ => .error .notJson
  | (some k, t) :: rest => match fields.find? (·.name = k) with
    | none => if t.isWhole then checkMembers fields s cells rest else .error .notJson
    | some f => if (cells.lookup k).isSome then .error (.duplicateField k) else do
      f.check s t
      checkMembers fields s ((k, t) :: cells) rest

/-- Checks the items of an array against the fields in order. -/
def checkItems (s : Source) : List Field → List Tree → Except DecodeError (List (String × Tree))
  | f :: fields, t :: items => do
    f.check s t
    return (f.name, t) :: (← checkItems s fields items)
  | _, _ => .ok []

/-- Reads a record; `name` is what messages call it. -/
def decoder (x : Fields α) (name : String) : Decoder α
  | s, .obj members => do
    let inner ← s.enter
    let cells ← checkMembers x.fields inner [] members
    x.build ⟨name, x.names, false, inner, cells⟩
  | s, .arr items => do
    let inner ← s.enter
    let cells ← checkItems inner x.fields items
    let a ← x.build ⟨name, x.names, true, inner, cells⟩
    if items.length ≤ x.fields.length then return a else throw (s.surplus items.length x.fields.length)
  | _, t => .error (Decoder.mismatch name t)

end Fields

/-- The tree of a record, its fields in order. -/
def Tree.record (fields : List (String × Tree)) : Tree := .obj (fields.map fun f => (some f.1, f.2))

def Tree.ofOption {α : Type} (f : α → Tree) : Option α → Tree
  | some a => f a
  | none => .null

def Tree.ofNat (n : Nat) : Tree := .num (.int n)

/-- A field that is written only where it has a value. -/
def Tree.fieldOf {α : Type} (name : String) (f : α → Tree) : Option α → List (String × Tree)
  | some a => [(name, f a)]
  | none => []

end FleetFeed.Json
