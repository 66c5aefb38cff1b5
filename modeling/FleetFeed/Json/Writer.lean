import FleetFeed.Json.Tree

/-! Writing a tree as a text without blanks. -/
namespace FleetFeed.Json

namespace Writer

def hexDigit (n : Nat) : Char := if n < 10 then Char.ofNat (48 + n) else Char.ofNat (87 + n)

/-- A character inside a string: a quote, a backslash and control characters are escaped. -/
def escape (c : Char) : List Char :=
  match c with
  | '"' => ['\\', '"']
  | '\\' => ['\\', '\\']
  | '\n' => ['\\', 'n']
  | '\r' => ['\\', 'r']
  | '\t' => ['\\', 't']
  | c =>
    if c.toNat = 8 then ['\\', 'b']
    else if c.toNat = 12 then ['\\', 'f']
    else if c.toNat < 32 then ['\\', 'u', '0', '0', hexDigit (c.toNat / 16), hexDigit (c.toNat % 16)]
    else [c]

def quoted (s : String) : List Char := '"' :: s.toList.flatMap escape ++ ['"']

mutual

def write : Tree → List Char
  | .null => ['n', 'u', 'l', 'l']
  | .bool true => ['t', 'r', 'u', 'e']
  | .bool false => ['f', 'a', 'l', 's', 'e']
  | .num n => n.write.toList
  | .str s => quoted s
  | .arr [] => ['[', ']']
  | .arr (t :: rest) => '[' :: write t ++ writeItems rest
  | .obj [] => ['{', '}']
  | .obj ((k, t) :: rest) => '{' :: quoted (k.getD "") ++ ':' :: write t ++ writeMembers rest
  | .unreadable | .broken => []

/-- The items after the first. -/
def writeItems : List Tree → List Char
  | [] => [']']
  | t :: rest => ',' :: write t ++ writeItems rest

/-- The members after the first. -/
def writeMembers : List (Option String × Tree) → List Char
  | [] => ['}']
  | (k, t) :: rest => ',' :: quoted (k.getD "") ++ ':' :: write t ++ writeMembers rest

end

end Writer

def Tree.write (t : Tree) : String := String.ofList (Writer.write t)

def Value.write (v : Value) : String := v.toTree.write

end FleetFeed.Json
