import FleetFeed.Json.Record

/-! Values of several kinds, told apart by the member `type` that stands among their fields, or by the first item of an
array. All other members are set aside until the kind is known. -/
namespace FleetFeed.Json

namespace Variant

/-- The name of the member that holds the kind. -/
def tagName : String := "type"

def tag {τ : Type} (kind : String → Except DecodeError τ) : Tree → Except DecodeError τ
  | .str s => kind s
  | t => .error (Decoder.mismatch "variant identifier" t)

/-- Reads the kind where it is met and sets the other members aside. -/
def splitMembers {τ : Type} (kind : String → Except DecodeError τ) (s : Source) :
    Option τ → List (Option String × Tree) → Except DecodeError (τ × List (Option String × Tree))
  | some k, [] => .ok (k, [])
  | none, [] => .error (.missingField tagName)
  | _, (none, _) :: _ => .error .notJson
  | k, (some name, t) :: rest =>
    if name = tagName then
      if k.isSome then .error (.duplicateField tagName) else do
        let k ← tag kind t
        splitMembers kind s (some k) rest
    else do
      let t ← Decoder.buffered s t
      let (k, others) ← splitMembers kind s k rest
      return (k, (some name, t) :: others)

/-- The kind of a tree, and the tree that is left for its fields. -/
def split {τ : Type} (type : String) (kind : String → Except DecodeError τ) : Decoder (τ × Tree)
  | s, .obj members => do
    let inner ← s.enter
    let (k, others) ← splitMembers kind inner none members
    return (k, .obj others)
  | s, .arr items => do
    let inner ← s.enter
    match items with
    | [] => throw (.missingField tagName)
    | t :: rest =>
      let k ← tag kind t
      let rest ← rest.mapM (Decoder.buffered inner)
      return (k, .arr rest)
  | _, t => .error (Decoder.mismatch ("internally tagged enum " ++ type) t)

/-- Reads the kind, then the fields as that kind asks. -/
def decoder {τ α : Type} (type : String) (kind : String → Except DecodeError τ) (fields : τ → Decoder α) : Decoder α :=
  fun s t => do
    let (k, rest) ← split type kind s t
    fields k .buffer rest

/-- A kind without fields. What stands in place of fields is passed over in an object, not in an array. -/
def unit {α : Type} (a : α) : Decoder α
  | s, .arr items => if items.isEmpty then .ok a else .error (s.surplus items.length 0)
  | _, _ => .ok a

end Variant

end FleetFeed.Json
