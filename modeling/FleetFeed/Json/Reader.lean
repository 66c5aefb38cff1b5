import FleetFeed.Json.Tree

/-! Reading a text as a tree. Reading never fails as a whole: the tree holds everything up to the first fault,
and the fault itself as a mark. -/
namespace FleetFeed.Json

namespace Reader

def isBlank (c : Char) : Bool := c == ' ' || c == '\n' || c == '\t' || c == '\r'

def skipBlanks (cs : List Char) : List Char := cs.dropWhile isBlank

def hexDigit? (c : Char) : Option Nat :=
  if '0' ≤ c ∧ c ≤ '9' then some (c.toNat - 48)
  else if 'a' ≤ c ∧ c ≤ 'f' then some (c.toNat - 87)
  else if 'A' ≤ c ∧ c ≤ 'F' then some (c.toNat - 55)
  else none

def hexUnit? (a b c d : Char) : Option Nat := do
  return (((← hexDigit? a) * 16 + (← hexDigit? b)) * 16 + (← hexDigit? c)) * 16 + (← hexDigit? d)

def escape? : Char → Option Nat
  | '"' => some 34
  | '\\' => some 92
  | '/' => some 47
  | 'b' => some 8
  | 'f' => some 12
  | 'n' => some 10
  | 'r' => some 13
  | 't' => some 9
  | _ => none

/-- The characters of a string up to its closing quote, with halves of surrogate pairs still apart, and what
follows the string. -/
def units? : List Char → Option (List Nat × List Char)
  | [] => none
  | '"' :: rest => some ([], rest)
  | '\\' :: 'u' :: a :: b :: c :: d :: rest => do
    let u ← hexUnit? a b c d
    let (us, rest) ← units? rest
    return (u :: us, rest)
  | '\\' :: e :: rest => do
    let u ← escape? e
    let (us, rest) ← units? rest
    return (u :: us, rest)
  | c :: rest =>
    if c.toNat < 32 then none
    else do
      let (us, rest) ← units? rest
      return (c.toNat :: us, rest)

def isHigh (u : Nat) : Bool := 0xD800 ≤ u && u ≤ 0xDBFF

def isLow (u : Nat) : Bool := 0xDC00 ≤ u && u ≤ 0xDFFF

/-- Joins surrogate pairs; none where a half stands alone. -/
def join? : List Nat → Option (List Char)
  | [] => some []
  | u :: rest =>
    if isHigh u then
      match rest with
      | v :: rest =>
        if isLow v then (join? rest).map (Char.ofNat (0x10000 + (u - 0xD800) * 1024 + (v - 0xDC00)) :: ·) else none
      | [] => none
    else if isLow u then none
    else (join? rest).map (Char.ofNat u :: ·)

/-- A string after its opening quote: its characters, where it has any, and what follows it. -/
def string? (cs : List Char) : Option (Option String × List Char) := do
  let (us, rest) ← units? cs
  return ((join? us).map String.ofList, rest)

def word (letters : List Char) (t : Tree) (cs : List Char) : Tree × Option (List Char) :=
  if letters.isPrefixOf cs then (t, some (cs.drop letters.length)) else (.broken, none)

/-- A value that is no container. -/
def scalar : List Char → Tree × Option (List Char)
  | 'n' :: rest => word ['u', 'l', 'l'] .null rest
  | 't' :: rest => word ['r', 'u', 'e'] (.bool true) rest
  | 'f' :: rest => word ['a', 'l', 's', 'e'] (.bool false) rest
  | '"' :: rest => match string? rest with
    | some (some s, rest) => (.str s, some rest)
    | some (none, rest) => (.unreadable, some rest)
    | none => (.broken, none)
  | cs => match Numeral.read? cs with
    | some (x, rest) => ((x.value?.map Tree.num).getD .unreadable, some rest)
    | none => (.broken, none)

mutual

/-- A value at the start of a text without leading blanks, and what follows it where it is whole. Each call on the
way to a character takes one unit of fuel, and a character is reached by two calls at most. -/
def value (fuel : Nat) (cs : List Char) : Tree × Option (List Char) :=
  match fuel with
  | 0 => (.broken, none)
  | fuel + 1 => match cs with
    | '[' :: rest => match skipBlanks rest with
      | ']' :: rest => (.arr [], some rest)
      | cs => let (items, rest) := items fuel cs; (.arr items, rest)
    | '{' :: rest => match skipBlanks rest with
      | '}' :: rest => (.obj [], some rest)
      | cs => let (members, rest) := members fuel cs; (.obj members, rest)
    | cs => scalar cs

/-- The items of an array up to its closing bracket. -/
def items (fuel : Nat) (cs : List Char) : List Tree × Option (List Char) :=
  match fuel with
  | 0 => ([.broken], none)
  | fuel + 1 => match value fuel cs with
    | (t, none) => ([t], none)
    | (t, some rest) => match skipBlanks rest with
      | ']' :: rest => ([t], some rest)
      | ',' :: rest => let (ts, rest) := items fuel (skipBlanks rest); (t :: ts, rest)
      | _ => ([t, .broken], none)

/-- The members of an object up to its closing brace. -/
def members (fuel : Nat) (cs : List Char) : List (Option String × Tree) × Option (List Char) :=
  match fuel with
  | 0 => ([(none, .broken)], none)
  | fuel + 1 => match cs with
    | '"' :: rest => match string? rest with
      | none => ([(none, .broken)], none)
      | some (name, rest) => match skipBlanks rest with
        | ':' :: rest => match value fuel (skipBlanks rest) with
          | (t, none) => ([(name, t)], none)
          | (t, some rest) => match skipBlanks rest with
            | '}' :: rest => ([(name, t)], some rest)
            | ',' :: rest => let (ms, rest) := members fuel (skipBlanks rest); ((name, t) :: ms, rest)
            | _ => ([(name, t), (none, .broken)], none)
        | _ => ([(name, .broken)], none)
    | _ => ([(none, .broken)], none)

end

end Reader

/-- A text that was read: its tree, and whether nothing but blanks follows it. -/
structure Document where
  tree : Tree
  ends : Bool

def Document.ofText (text : String) : Document :=
  let cs := text.toList
  let (tree, rest) := Reader.value (2 * cs.length + 2) (Reader.skipBlanks cs)
  ⟨tree, rest.any fun r => (Reader.skipBlanks r).isEmpty⟩

end FleetFeed.Json
