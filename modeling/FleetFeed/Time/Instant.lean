/-! Instants in universal time, and the date and time texts of RFC 3339 that name them. -/
namespace FleetFeed.Time

/-- Seconds since 1970 and nanoseconds within the second; a leap second is written as the second before it with a
billion nanoseconds or more. -/
structure Instant where
  seconds : Int
  nanos : Nat
  deriving DecidableEq, Repr

/-- The earlier instant, or the same. -/
def Instant.le (a b : Instant) : Bool := a.seconds < b.seconds || (a.seconds == b.seconds && a.nanos ≤ b.nanos)

def isLeapYear (year : Nat) : Bool := year % 4 == 0 && (year % 100 != 0 || year % 400 == 0)

def daysInMonth (year month : Nat) : Nat :=
  if month = 2 then (if isLeapYear year then 29 else 28)
  else if month = 4 ∨ month = 6 ∨ month = 9 ∨ month = 11 then 30
  else 31

/-- Days from 1970-01-01. Years are counted from March, so that the leap day is the last of its year. -/
def dayNumber (year month day : Nat) : Int :=
  let y : Int := if month ≤ 2 then (year : Int) - 1 else year
  let m : Int := (month + 9) % 12
  365 * y + y.fdiv 4 - y.fdiv 100 + y.fdiv 400 + (153 * m + 2) / 5 + day - 1 - 719468

namespace Rfc3339

def digit? (c : Char) : Option Nat := if '0' ≤ c ∧ c ≤ '9' then some (c.toNat - 48) else none

/-- A number of exactly `n` digits. -/
def number? : (n : Nat) → List Char → Option (Nat × List Char)
  | 0, cs => some (0, cs)
  | n + 1, c :: cs => do
    let d ← digit? c
    let (v, rest) ← number? n cs
    return (d * Nat.pow 10 n + v, rest)
  | _ + 1, [] => none

def mark? (allowed : List Char) : List Char → Option (List Char)
  | c :: cs => if c ∈ allowed then some cs else none
  | [] => none

def nanosPerSecond : Nat := 1000000000

/-- A fraction of a second in nanoseconds; digits after the ninth are passed over. -/
def fraction? : List Char → Option (Nat × List Char)
  | '.' :: cs =>
    let ds := (cs.takeWhile fun c => (digit? c).isSome).filterMap digit?
    if ds.isEmpty then none
    else some (((ds ++ List.replicate 9 0).take 9).foldl (fun n d => n * 10 + d) 0, cs.drop ds.length)
  | cs => some (0, cs)

/-- The distance from universal time in seconds. -/
def offset? : List Char → Option (Int × List Char)
  | [] => none
  | sign :: cs =>
    if sign = 'Z' ∨ sign = 'z' then some (0, cs)
    else if sign = '+' ∨ sign = '-' ∨ sign = '−' then do
      let (hours, cs) ← number? 2 cs
      let cs ← mark? [':'] cs
      let (minutes, cs) ← number? 2 cs
      if hours ≤ 23 ∧ minutes ≤ 59 then
        let seconds : Int := hours * 3600 + minutes * 60
        return (if sign = '+' then seconds else -seconds, cs)
      else none
    else none

/-- The instant that a text names. -/
def parse? (text : String) : Option Instant := do
  let (year, cs) ← number? 4 text.toList
  let cs ← mark? ['-'] cs
  let (month, cs) ← number? 2 cs
  let cs ← mark? ['-'] cs
  let (day, cs) ← number? 2 cs
  let cs ← mark? ['T', 't', ' '] cs
  let (hour, cs) ← number? 2 cs
  let cs ← mark? [':'] cs
  let (minute, cs) ← number? 2 cs
  let cs ← mark? [':'] cs
  let (second, cs) ← number? 2 cs
  let (nanos, cs) ← fraction? cs
  let (offset, cs) ← offset? cs
  if cs.isEmpty ∧ 1 ≤ month ∧ month ≤ 12 ∧ 1 ≤ day ∧ day ≤ daysInMonth year month ∧ hour ≤ 23 ∧ minute ≤ 59 ∧ second ≤ 60 then
    let whole := min second 59
    return ⟨dayNumber year month day * 86400 + hour * 3600 + minute * 60 + whole - offset,
      if second = 60 then nanosPerSecond + nanos else nanos⟩
  else none

end Rfc3339

end FleetFeed.Time
