import FleetFeed.Text.Composition
import FleetFeed.Text.Direction
import FleetFeed.Text.Joining
import FleetFeed.Url.Folding
import FleetFeed.Url.Percent
import FleetFeed.Url.Punycode

/-! Domain names in ASCII. -/
namespace FleetFeed.Url

/-- Splits a text at every occurrence of a mark. -/
def splitAt (mark : Char → Bool) : List Char → List (List Char)
  | [] => [[]]
  | c :: rest =>
    if mark c then [] :: splitAt mark rest
    else match splitAt mark rest with
      | [] => [[c]]
      | part :: parts => (c :: part) :: parts

namespace Domain

/-- The characters that no domain holds. -/
def forbidden (c : Char) : Bool :=
  c.toNat ≤ 32 || c.toNat == 127 || c ∈ ['%', '#', '/', ':', '<', '>', '?', '@', '[', '\\', ']', '^', '|']

def isAscii (cs : List Char) : Bool := cs.all fun c => decide (c.toNat < 128)

/-- Stands before a label that is encoded. -/
def codeMark : List Char := ['x', 'n', '-', '-']

/-- The most characters of a label that is not in ASCII. -/
def maxPlainLength : Nat := 1000

/-- The most characters of a label that is encoded, without the mark. -/
def maxCodeLength : Nat := 2000

/-- A part of a domain name, as it is read and as it is written. -/
structure Label where
  plain : List Char
  ascii : List Char

/-- Every character is in its usual form, and the text is in composed form. -/
def isSettled (text : List Char) : Bool := (text.all fun c => foldChar? c == some [c]) && Text.composed text == text

/-- A label in other letters is not too long, starts with no mark, and has joiners only where they have a meaning. -/
def isFit (plain : List Char) : Bool :=
  decide (plain.length ≤ maxPlainLength) && !plain.head?.any Text.isMark && Text.joinersFit [] plain

namespace Label

/-- A label that is encoded stands for a text that had to be. -/
def decode? (code : List Char) : Option Label := do
  let plain ← if code.length ≤ maxCodeLength then Punycode.decode? code else none
  if !isAscii plain && isSettled plain && isFit plain then some ⟨plain, codeMark ++ code⟩ else none

def encode? (plain : List Char) : Option Label :=
  if isFit plain then some ⟨plain, codeMark ++ Punycode.encode plain⟩ else none

/-- A label whose characters are in their usual form. -/
def ofText? (text : List Char) : Option Label :=
  if codeMark.isPrefixOf text then decode? (text.drop codeMark.length)
  else if isAscii text then some ⟨text, text⟩
  else encode? text

def directions (l : Label) : List Text.Direction := l.plain.map .ofChar

end Label

/-- A text whose characters are in their usual form. -/
def fold? (text : List Char) : Option (List Char) :=
  if isAscii text then some (text.map Char.toLower) else (text.mapM foldChar?).map fun forms => Text.composed forms.flatten

/-- Where one label has letters from right to left the order of all of them has to be plain. -/
def inOrder (labels : List Label) : Bool :=
  labels.all (isAscii ·.plain) || !(labels.any (·.directions.any Text.Direction.turns)) ||
    labels.all (Text.Direction.orderly ·.directions)

/-- A domain name in ASCII and lower case. -/
def toAscii? (name : List Char) : Option (List Char) := do
  let labels ← (splitAt (· == '.') (← fold? name)).mapM Label.ofText?
  let ascii := ['.'].intercalate (labels.map Label.ascii)
  if inOrder labels && !ascii.any forbidden then some ascii else none

end Domain

end FleetFeed.Url
