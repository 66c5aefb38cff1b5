import FleetFeed.Json.DecodeError
import FleetFeed.Json.Reader

/-! Reading trees as typed values. A decoder walks its tree in order, so the first thing wrong, in the text or in the
data, is the one reported. -/
namespace FleetFeed.Json

/-- Where a tree comes from: a text in which containers may nest some levels deeper, a free value, or a part of a text
that was set aside until its kind was known. -/
inductive Source where
  | text (depth : Nat)
  | value
  | buffer
  deriving DecidableEq

namespace Source

/-- The source within a container. -/
def enter : Source → Except DecodeError Source
  | .text 0 => .error .notJson
  | .text (d + 1) => .ok (.text d)
  | s => .ok s

def admits (s : Source) (t : Tree) : Bool := match s with
  | .text d => decide (t.height ≤ d)
  | _ => true

/-- The error of an array of `length` items of which `taken` were wanted. -/
def surplus (s : Source) (length taken : Nat) : DecodeError := match s with
  | .text _ => .notJson
  | .value => .invalidLength length "fewer elements in array"
  | .buffer => .invalidLength length (if taken = 1 then "1 element in sequence" else Nat.repr taken ++ " elements in sequence")

end Source

abbrev Decoder (α : Type) := Source → Tree → Except DecodeError α

namespace Decoder

variable {α β : Type}

def mismatch (expected : String) (t : Tree) : DecodeError := match Found.of? t with
  | some found => .invalidType found expected
  | none => .notJson

def string : Decoder String
  | _, .str s => .ok s
  | _, t => .error (mismatch "a string" t)

/-- A natural number of at most `bits` bits; `type` is what messages call it. -/
def word (bits : Nat) (type : String) : Decoder Nat
  | _, .num (.int n) => if 0 ≤ n ∧ n < Nat.pow 2 bits then .ok n.toNat else .error (.invalidValue n type)
  | _, t => .error (mismatch type t)

def binary64 : Decoder Binary64
  | _, .num n => .ok n.toBinary64
  | _, t => .error (mismatch "f64" t)

def option (d : Decoder α) : Decoder (Option α)
  | _, .null => .ok none
  | s, t => (d s t).map some

def list (d : Decoder α) : Decoder (List α)
  | s, .arr items => do
    let inner ← s.enter
    items.mapM (d inner)
  | _, t => .error (mismatch "a sequence" t)

/-- Any value at all. -/
def free : Decoder Value := fun s t =>
  match t.value? with
  | some v => if s.admits t then .ok v else .error .notJson
  | none => .error .notJson

/-- A tree that is set aside to be decoded later. -/
def buffered : Decoder Tree := fun s t => if t.value?.isSome ∧ s.admits t then .ok t else .error .notJson

def map (f : α → β) (d : Decoder α) : Decoder β := fun s t => (d s t).map f

/-- How deep the containers of a text may nest. -/
def maxDepth : Nat := 127

def ofText (d : Decoder α) (text : String) : Except DecodeError α := do
  let doc := Document.ofText text
  let a ← d (.text maxDepth) doc.tree
  if doc.ends then return a else throw .notJson

def ofValue (d : Decoder α) (v : Value) : Except DecodeError α := d .value v.toTree

end Decoder

end FleetFeed.Json
