/-! Code points beyond ASCII written with letters and digits. Each is stored as its distance from the one before, in a
number whose digit limits adapt to what was written. -/
namespace FleetFeed.Url.Punycode

def digitOf (n : Nat) : Char := if n < 26 then Char.ofNat (97 + n) else Char.ofNat (22 + n)

def valueOf? (c : Char) : Option Nat :=
  if 'a' ≤ c ∧ c ≤ 'z' then some (c.toNat - 97)
  else if 'A' ≤ c ∧ c ≤ 'Z' then some (c.toNat - 65)
  else if '0' ≤ c ∧ c ≤ '9' then some (c.toNat - 22)
  else none

/-- The limit of a digit, from 1 to 26. -/
def limit (position bias : Nat) : Nat := if position ≤ bias then 1 else min (position - bias) 26

private theorem limit_pos (position bias : Nat) : 0 < limit position bias := by unfold limit; split <;> omega

private def shrink (delta steps : Nat) : Nat × Nat := if 455 < delta then shrink (delta / 35) (steps + 36) else (delta, steps)
termination_by delta
decreasing_by omega

/-- The bias after a distance was written as the `count`th. -/
def adapt (delta count : Nat) (first : Bool) : Nat :=
  let delta := if first then delta / 700 else delta / 2
  let (delta, steps) := shrink (delta + delta / count) 0
  steps + 36 * delta / (delta + 38)

def writeNumber (bias position n : Nat) : List Char :=
  let t := limit position bias
  if n < t then [digitOf n]
  else digitOf (t + (n - t) % (36 - t)) :: writeNumber bias (position + 36) ((n - t) / (36 - t))
termination_by n
decreasing_by
  have h := limit_pos position bias
  exact Nat.lt_of_le_of_lt (Nat.div_le_self _ _) (by omega)

private structure Progress where
  out : List Char
  delta : Nat
  bias : Nat
  count : Nat

/-- Passes over the text once for the code point `n`. -/
private def pass (basic n : Nat) (p : Progress) (c : Char) : Progress :=
  if c.toNat < n then { p with delta := p.delta + 1 }
  else if c.toNat = n then
    ⟨p.out ++ writeNumber p.bias 36 p.delta, 0, adapt p.delta (p.count + 1) (p.count = basic), p.count + 1⟩
  else p

private def passes (text : List Char) (basic : Nat) : List Nat → Nat → Progress → Progress
  | [], _, p => p
  | n :: rest, next, p =>
    let p := text.foldl (pass basic n) { p with delta := p.delta + (n - next) * (p.count + 1) }
    passes text basic rest (n + 1) { p with delta := p.delta + 1 }

def encode (text : List Char) : List Char :=
  let basic := text.filter fun c => decide (c.toNat < 128)
  let others := ((text.map Char.toNat).filter fun n => decide (128 ≤ n)).mergeSort.eraseReps
  let b := basic.length
  (if b = 0 then [] else basic ++ ['-']) ++ (passes text b others 128 ⟨[], 0, 72, b⟩).out

/-- A distance at the start of a text, and what follows it. The weights of its digits have 32 bits. -/
private def readNumber (bias : Nat) : Nat → Nat → Nat → List Char → Option (Nat × List Char)
  | _, _, _, [] => none
  | position, weight, sum, c :: rest => do
    let d ← if weight < 4294967296 then valueOf? c else none
    let sum := sum + d * weight
    let t := limit position bias
    if d < t then some (sum, rest) else readNumber bias (position + 36) (weight * (36 - t)) sum rest

/-- Reads distances; the fuel is the length of the text. -/
private def insertAll : Nat → Nat → Nat → Nat → List Nat → List Char → Option (List Nat)
  | _, _, _, _, out, [] => some out
  | 0, _, _, _, _, _ :: _ => none
  | fuel + 1, n, i, bias, out, text => do
    let (delta, rest) ← readNumber bias 36 1 0 text
    let count := out.length + 1
    let j := i + delta
    let n := n + j / count
    let k := j % count
    if 0x10FFFF < n then none
    else insertAll fuel n (k + 1) (adapt delta count (i = 0)) (out.take k ++ n :: out.drop k) rest

def decode? (text : List Char) : Option (List Char) :=
  let rest := text.reverse.takeWhile (· ≠ '-')
  let basic := (text.reverse.drop (rest.length + 1)).reverse
  if text.head? = some '-' ∧ basic.isEmpty ∨ (basic.any fun c => decide (128 ≤ c.toNat)) then none
  else do
    let points ← insertAll text.length 128 0 72 (basic.map Char.toNat) rest.reverse
    if points.all fun n => (0xD800 > n || n > 0xDFFF) then some (points.map Char.ofNat) else none

end FleetFeed.Url.Punycode
