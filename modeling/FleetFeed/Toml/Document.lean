import FleetFeed.Toml.Scalar
import FleetFeed.Toml.Text

/-! TOML documents: their values, and the tables that headers and dotted keys build up. -/
namespace FleetFeed.Toml

inductive Value where
  | str (s : String)
  | int (n : Int)
  | bool (b : Bool)
  | float
  | datetime
  | arr (items : List Value)
  | table (members : List (String × Value))
  deriving Repr, Inhabited

namespace Value

mutual

private def decEq (a b : Value) : Decidable (a = b) :=
  if h : a.ctorIdx = b.ctorIdx then match a, b, h with
    | .str a, .str b, _ => decidable_of_iff (a = b) (by simp)
    | .int a, .int b, _ => decidable_of_iff (a = b) (by simp)
    | .bool a, .bool b, _ => decidable_of_iff (a = b) (by simp)
    | .float, .float, _ | .datetime, .datetime, _ => isTrue rfl
    | .arr a, .arr b, _ => match decEqItems a b with
      | isTrue h => isTrue (by rw [h])
      | isFalse h => isFalse (by simpa using h)
    | .table a, .table b, _ => match decEqMembers a b with
      | isTrue h => isTrue (by rw [h])
      | isFalse h => isFalse (by simpa using h)
  else isFalse fun hab => h (by rw [hab])

private def decEqItems : (a b : List Value) → Decidable (a = b)
  | [], [] => isTrue rfl
  | [], _ :: _ | _ :: _, [] => isFalse (by simp)
  | x :: xs, y :: ys => match decEq x y, decEqItems xs ys with
    | isTrue h, isTrue k => isTrue (by rw [h, k])
    | isFalse h, _ => isFalse (by simp [h])
    | _, isFalse k => isFalse (by simp [k])

private def decEqMembers : (a b : List (String × Value)) → Decidable (a = b)
  | [], [] => isTrue rfl
  | [], _ :: _ | _ :: _, [] => isFalse (by simp)
  | (m, x) :: xs, (n, y) :: ys => match (inferInstance : Decidable (m = n)), decEq x y, decEqMembers xs ys with
    | isTrue g, isTrue h, isTrue k => isTrue (by rw [g, h, k])
    | isFalse g, _, _ => isFalse (by simp [g])
    | _, isFalse h, _ => isFalse (by simp [h])
    | _, _, isFalse k => isFalse (by simp [k])

end

instance : DecidableEq Value := decEq

end Value

/-- How a table came to be, which decides what may still be added to it. -/
inductive Origin where
  /-- By its own header, or in braces. -/
  | defined
  /-- On the way to a table with a header. -/
  | passed
  /-- By a dotted key. -/
  | dotted
  deriving DecidableEq, Repr

/-- A part of a document that is being built. -/
inductive Node where
  | leaf (v : Value)
  | table (origin : Origin) (members : List (String × Node))
  /-- The tables of headers in double brackets, the last one first. -/
  | tables (items : List (List (String × Node)))
  deriving Repr, Inhabited

abbrev Members := List (String × Node)

namespace Members

/-- Replaces or appends a member. -/
def put (ms : Members) (key : String) (n : Node) : Members :=
  if ms.any (·.1 == key) then ms.map fun m => if m.1 == key then (key, n) else m else ms ++ [(key, n)]

/-- Goes down a path and changes the table at its end, of which also the origin is told. Tables that are missing are made on
the way; in a list of tables the way leads through the last one. A dotted key does not lead through a defined table. -/
def at? (dotted : Bool) (change : Origin → Members → Option Members) (origin : Origin) : List String → Members → Option Members
  | [], ms => change origin ms
  | key :: path, ms =>
    let n : Option Node := match (ms.lookup key).getD (.table (if dotted then .dotted else .passed) []) with
      | .leaf _ => none
      | .table o inner =>
        if dotted && o = .defined then none
        else (at? dotted change o path inner).map (Node.table o)
      | .tables [] => none
      | .tables (t :: older) => (at? dotted change .defined path t).map fun t => Node.tables (t :: older)
    n.map (put ms key)

/-- Adds a value under a dotted key. Only tables made by dotted keys take values of dotted keys. -/
def assign? (origin : Origin) (path : List String) (key : String) (n : Node) : Members → Option Members :=
  at? true (fun o ms =>
    if (o = .dotted ↔ path = []) ∨ (ms.lookup key).isSome then none else some (ms ++ [(key, n)])) origin path

/-- The table of a header in single brackets. It may have been passed before, but not defined. -/
def define? (path : List String) (key : String) : Members → Option Members :=
  at? false (fun _ ms => match ms.lookup key with
    | none => some (ms ++ [(key, .table .defined [])])
    | some (.table .passed inner) => some (put ms key (.table .defined inner))
    | some _ => none) .defined path

/-- One more table of a header in double brackets. -/
def append? (path : List String) (key : String) : Members → Option Members :=
  at? false (fun _ ms => match ms.lookup key with
    | none => some (ms ++ [(key, .tables [[]])])
    | some (.tables items) => some (put ms key (.tables ([] :: items)))
    | some _ => none) .defined path

end Members

mutual

def Node.value : Node → Value
  | .leaf v => v
  | .table _ members => .table (valuesOfMembers members)
  | .tables items => .arr (valuesOfTables items).reverse

def valuesOfMembers : List (String × Node) → List (String × Value)
  | [] => []
  | (k, n) :: rest => (k, n.value) :: valuesOfMembers rest

def valuesOfTables : List (List (String × Node)) → List Value
  | [] => []
  | t :: rest => .table (valuesOfMembers t) :: valuesOfTables rest

end

namespace Reader

def word? (letters : List Char) (cs : List Char) : Option (List Char) :=
  if letters.isPrefixOf cs then some (cs.drop letters.length) else none

/-- A value that holds no others. -/
def scalar? (cs : List Char) : Option (Value × List Char) := match cs with
  | '"' :: _ | '\'' :: _ => (string? cs).map fun (s, rest) => (.str s, rest)
  | 't' :: rest => (word? ['r', 'u', 'e'] rest).map fun rest => (.bool true, rest)
  | 'f' :: rest => (word? ['a', 'l', 's', 'e'] rest).map fun rest => (.bool false, rest)
  | cs => ((datetime? cs).map fun (_, rest) => (Value.datetime, rest)).or
      (((float? cs).map fun (_, rest) => (Value.float, rest)).or ((integer? cs).map fun (n, rest) => (.int n, rest)))

mutual

/-- A value, whose containers may nest `depth` deep. Each call on the way to a character takes one unit of fuel. -/
def value? (fuel depth : Nat) (cs : List Char) : Option (Value × List Char) := match fuel with
  | 0 => none
  | fuel + 1 => match depth, cs with
    | depth + 1, '[' :: rest => do
      let (items, rest) ← items? fuel depth rest
      return (.arr items, rest)
    | depth + 1, '{' :: rest => do
      let (members, rest) ← match skipSpaces rest with
        | '}' :: rest => some ([], rest)
        | rest => members? fuel depth [] rest
      return (.table (valuesOfMembers members), rest)
    | 0, '[' :: _ | 0, '{' :: _ => none
    | _, cs => scalar? cs

/-- The items of an array up to its bracket. Lines may end between them, and a comma may follow the last. -/
def items? (fuel depth : Nat) (cs : List Char) : Option (List Value × List Char) := match fuel with
  | 0 => none
  | fuel + 1 => do
    match ← skipLines? cs.length cs with
    | ']' :: rest => return ([], rest)
    | cs =>
      let (v, rest) ← value? fuel depth cs
      match ← skipLines? rest.length rest with
      | ',' :: rest => do
        let (vs, rest) ← items? fuel depth rest
        return (v :: vs, rest)
      | ']' :: rest => return ([v], rest)
      | _ => none

/-- The members of a table in braces up to its brace, on one line. -/
def members? (fuel depth : Nat) (done : Members) (cs : List Char) : Option (Members × List Char) := match fuel with
  | 0 => none
  | fuel + 1 => do
    let (path, rest) ← key? cs
    match rest with
    | '=' :: rest =>
      let (v, rest) ← value? fuel depth (skipSpaces rest)
      let done ← done.assign? .defined path.dropLast (path.getLast?.getD "") (.leaf v)
      match skipSpaces rest with
      | ',' :: rest => members? fuel depth done rest
      | '}' :: rest => return (done, rest)
      | _ => none
    | _ => none

end

/-- A document that is being read: its tables, and where values go at present. -/
structure State where
  root : Members
  path : List String

/-- One header or value, at the start of a line. -/
def statement? (s : State) (cs : List Char) : Option (State × List Char) := match cs with
  | '[' :: '[' :: rest => do
    let (path, rest) ← key? rest
    let rest ← word? [']', ']'] rest
    let root ← s.root.append? path.dropLast (path.getLast?.getD "")
    return (⟨root, path⟩, rest)
  | '[' :: rest => do
    let (path, rest) ← key? rest
    let rest ← word? [']'] rest
    let root ← s.root.define? path.dropLast (path.getLast?.getD "")
    return (⟨root, path⟩, rest)
  | cs => do
    let (path, rest) ← key? cs
    let rest ← word? ['='] rest
    let rest := skipSpaces rest
    let (v, rest) ← value? (2 * rest.length + 2) maxDepth rest
    let root ← Members.at? false (fun o => Members.assign? o path.dropLast (path.getLast?.getD "") (.leaf v)) .defined s.path s.root
    return ({ s with root := root }, rest)

/-- All statements of a document; the fuel is the length of the text. -/
def statements? (fuel : Nat) (s : State) (cs : List Char) : Option State := do
  match ← skipLines? cs.length cs with
  | [] => return s
  | cs => match fuel with
    | 0 => none
    | fuel + 1 =>
      let (s, rest) ← statement? s cs
      statements? fuel s (← lineEnd? rest)

end Reader

/-- The table of a document; a byte order mark at its start counts for nothing. -/
def parse? (text : String) : Option (List (String × Value)) := do
  let cs := match text.toList with
    | '\ufeff' :: rest => rest
    | cs => cs
  let s ← Reader.statements? cs.length ⟨[], []⟩ cs
  return valuesOfMembers s.root

end FleetFeed.Toml
