/-! The syllables of Hangul, which are counted through by their first letter, their vowel and their last letter. -/
namespace FleetFeed.Text.Hangul

def firstSyllable : Nat := 0xAC00

def leadCount : Nat := 19

def vowelCount : Nat := 21

/-- Counts the syllables without a last letter too. -/
def tailCount : Nat := 28

/-- The place of a character among `count` ones. -/
def index? (first count : Nat) (c : Char) : Option Nat :=
  if first ≤ c.toNat ∧ c.toNat < first + count then some (c.toNat - first) else none

def lead? : Char → Option Nat := index? 0x1100 leadCount

def vowel? : Char → Option Nat := index? 0x1161 vowelCount

/-- Counted from 1. -/
def tail? (c : Char) : Option Nat := (index? 0x11A8 (tailCount - 1) c).map (· + 1)

def syllable (lead vowel tail : Nat) : Char := Char.ofNat (firstSyllable + (lead * vowelCount + vowel) * tailCount + tail)

/-- The syllable of these letters. -/
def syllable? : List Char → Option Char
  | [l, v] => do return syllable (← lead? l) (← vowel? v) 0
  | [l, v, t] => do return syllable (← lead? l) (← vowel? v) (← tail? t)
  | _ => none

/-- The letters of a syllable. -/
def letters? (c : Char) : Option (List Char) := do
  let n ← index? firstSyllable (leadCount * vowelCount * tailCount) c
  let tail := n % tailCount
  return [Char.ofNat (0x1100 + n / tailCount / vowelCount), Char.ofNat (0x1161 + n / tailCount % vowelCount)] ++
    (if tail = 0 then [] else [Char.ofNat (0x11A7 + tail)])

end FleetFeed.Text.Hangul
