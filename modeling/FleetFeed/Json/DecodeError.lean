import FleetFeed.Json.Tree
import FleetFeed.Text.Quoted

/-! Why a tree is not what a reader expects, and the wording of it. -/
namespace FleetFeed.Json

/-- What stands where something else was expected. -/
inductive Found where
  | null
  | bool (b : Bool)
  | int (n : Int)
  | float (x : Binary64)
  | str (s : String)
  | sequence
  | map
  deriving DecidableEq, Repr

/-- None where the text has a fault. -/
def Found.of? : Tree → Option Found
  | .null => some .null
  | .bool b => some (.bool b)
  | .num (.int n) => some (.int n)
  | .num (.float x) => some (.float x)
  | .str s => some (.str s)
  | .arr _ => some .sequence
  | .obj _ => some .map
  | .unreadable | .broken => none

inductive DecodeError where
  | notJson
  | missingField (name : String)
  | duplicateField (name : String)
  | invalidType (found : Found) (expected : String)
  | invalidValue (n : Int) (expected : String)
  | invalidLength (length : Nat) (expected : String)
  | unknownVariant (name : String) (known : List String)
  | noVariant (type : String)
  deriving DecidableEq, Repr

private def tick (s : String) : String := "\x60" ++ s ++ "\x60"

def Found.describe : Found → String
  | .null => "null"
  | .bool b => "boolean " ++ tick (if b then "true" else "false")
  | .int n => "integer " ++ tick (Number.int n).write
  | .float x => "floating point " ++ tick (Number.float x).write
  | .str s => "string " ++ Text.quoted s
  | .sequence => "sequence"
  | .map => "map"

def DecodeError.message : DecodeError → String
  | .notJson => "<invalid JSON>"
  | .missingField name => "missing field " ++ tick name
  | .duplicateField name => "duplicate field " ++ tick name
  | .invalidType found expected => "invalid type: " ++ found.describe ++ ", expected " ++ expected
  | .invalidValue n expected => "invalid value: integer " ++ tick (Number.int n).write ++ ", expected " ++ expected
  | .invalidLength length expected => "invalid length " ++ Nat.repr length ++ ", expected " ++ expected
  | .unknownVariant name known =>
    "unknown variant " ++ tick name ++ ", expected one of " ++ ", ".intercalate (known.map tick)
  | .noVariant type => "data did not match any variant of untagged enum " ++ type

end FleetFeed.Json
