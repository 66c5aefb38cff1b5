import FleetFeed.Json.Number

/-! JSON values. The members of an object are kept in increasing order of their names, one for each name,
so that equal values are equal terms. -/
namespace FleetFeed.Json

inductive Value where
  | null
  | bool (b : Bool)
  | num (n : Number)
  | str (s : String)
  | arr (items : List Value)
  | obj (members : List (String × Value))
  deriving Repr, Inhabited

namespace Value

mutual

private def decEq : (a b : Value) → Decidable (a = b)
  | .null, .null => isTrue rfl
  | .bool a, .bool b => decidable_of_iff (a = b) (by simp)
  | .num a, .num b => decidable_of_iff (a = b) (by simp)
  | .str a, .str b => decidable_of_iff (a = b) (by simp)
  | .arr a, .arr b => match decEqItems a b with
    | isTrue h => isTrue (by rw [h])
    | isFalse h => isFalse (by simpa using h)
  | .obj a, .obj b => match decEqMembers a b with
    | isTrue h => isTrue (by rw [h])
    | isFalse h => isFalse (by simpa using h)
  | .null, .bool _ | .null, .num _ | .null, .str _ | .null, .arr _ | .null, .obj _
  | .bool _, .null | .bool _, .num _ | .bool _, .str _ | .bool _, .arr _ | .bool _, .obj _
  | .num _, .null | .num _, .bool _ | .num _, .str _ | .num _, .arr _ | .num _, .obj _
  | .str _, .null | .str _, .bool _ | .str _, .num _ | .str _, .arr _ | .str _, .obj _
  | .arr _, .null | .arr _, .bool _ | .arr _, .num _ | .arr _, .str _ | .arr _, .obj _
  | .obj _, .null | .obj _, .bool _ | .obj _, .num _ | .obj _, .str _ | .obj _, .arr _ => isFalse (by simp)

private def decEqItems : (a b : List Value) → Decidable (a = b)
  | [], [] => isTrue rfl
  | [], _ :: _ | _ :: _, [] => isFalse (by simp)
  | x :: xs, y :: ys => match decEq x y, decEqItems xs ys with
    | isTrue h, isTrue k => isTrue (by rw [h, k])
    | isFalse h, _ => isFalse (by simp [h])
    | _, isFalse k => isFalse (by simp [k])

private def decEqMembers : (a b : List (String × Value)) → Decidable (a = b)
  | [], [] => isTrue rfl
  | [], _ :: _ | _ :: _, [] => isFalse (by simp)
  | (m, x) :: xs, (n, y) :: ys => match (inferInstance : Decidable (m = n)), decEq x y, decEqMembers xs ys with
    | isTrue g, isTrue h, isTrue k => isTrue (by rw [g, h, k])
    | isFalse g, _, _ => isFalse (by simp [g])
    | _, isFalse h, _ => isFalse (by simp [h])
    | _, _, isFalse k => isFalse (by simp [k])

end

instance : DecidableEq Value := decEq

/-- Puts a member in its place; it takes the place of a member of the same name. -/
def insert (name : String) (v : Value) : List (String × Value) → List (String × Value)
  | [] => [(name, v)]
  | (n, w) :: rest =>
    if name < n then (name, v) :: (n, w) :: rest
    else if name = n then (name, v) :: rest
    else (n, w) :: insert name v rest

/-- The object of these members; of several with one name the last counts. -/
def ofMembers (members : List (String × Value)) : Value :=
  .obj (members.foldl (fun sorted m => insert m.1 m.2 sorted) [])

/-- The member of this name. -/
def get? (name : String) : Value → Option Value
  | .obj members => members.lookup name
  | _ => none

mutual

/-- Every object lists its members in increasing order of their names. -/
def Sorted : Value → Prop
  | .arr items => SortedItems items
  | .obj members => (members.map Prod.fst).Pairwise (· < ·) ∧ SortedMembers members
  | _ => True

def SortedItems : List Value → Prop
  | [] => True
  | v :: rest => v.Sorted ∧ SortedItems rest

def SortedMembers : List (String × Value) → Prop
  | [] => True
  | (_, v) :: rest => v.Sorted ∧ SortedMembers rest

end

end Value

end FleetFeed.Json
