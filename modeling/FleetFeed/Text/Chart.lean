/-! Charts: for each of several characters a text that stands for it. They are written in hexadecimal, in rows for characters
that follow each other. -/
namespace FleetFeed.Text

structure ChartRow where
  first : Nat
  /-- The entry of the first character, of the one after it, and so on. -/
  entries : List (List Char)

abbrev Chart := List ChartRow

namespace Chart

def hexDigit (c : Char) : Nat := if c.toNat < 58 then c.toNat - 48 else c.toNat - 55

def readChar (word : String) : Char := Char.ofNat (word.toList.foldl (fun n c => n * 16 + hexDigit c) 0)

/-- Spaces stand between the entries of a row, and plus signs between the characters of an entry. -/
def readRow (first : Nat) (text : String) : ChartRow :=
  ⟨first, (text.splitOn " ").map fun entry => (entry.splitOn "+").map readChar⟩

def read (rows : List (Nat × String)) : Chart := rows.map fun (first, text) => readRow first text

end Chart

def ChartRow.find? (r : ChartRow) (c : Char) : Option (List Char) :=
  if r.first ≤ c.toNat then r.entries[c.toNat - r.first]? else none

/-- The entry of a character. -/
def Chart.find? (chart : Chart) (c : Char) : Option (List Char) := chart.findSome? (ChartRow.find? · c)

/-- The character that has an entry. -/
def Chart.charOf? (chart : Chart) (entry : List Char) : Option Char :=
  chart.findSome? fun r => (r.entries.findIdx? (· == entry)).map fun i => Char.ofNat (r.first + i)

end FleetFeed.Text
