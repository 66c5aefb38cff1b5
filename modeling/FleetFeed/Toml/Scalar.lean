import FleetFeed.Time.Instant

/-! Numbers, dates and times of a TOML document. Of floats, dates and times only the kind is kept. -/
namespace FleetFeed.Toml

def isDigit (c : Char) : Bool := '0' ≤ c && c ≤ '9'

def value (c : Char) : Nat :=
  if c ≤ '9' then c.toNat - 48 else if c ≤ 'F' then c.toNat - 55 else c.toNat - 87

/-- Digits with single underscores between them. -/
def digits? (isDigit : Char → Bool) : List Char → Option (List Char × List Char)
  | [] => none
  | c :: rest =>
    if !isDigit c then none
    else match rest with
      | '_' :: more => match digits? isDigit more with
        | some (ds, rest) => some (c :: ds, rest)
        | none => none
      | rest => match digits? isDigit rest with
        | some (ds, rest) => some (c :: ds, rest)
        | none => some ([c], rest)

def sign (cs : List Char) : Bool × List Char := match cs with
  | '-' :: rest => (true, rest)
  | '+' :: rest => (false, rest)
  | cs => (false, cs)

def number (base : Nat) (ds : List Char) : Nat := ds.foldl (fun n c => n * base + value c) 0

/-- Digits of which only a single one may be zero at the start. -/
def whole? (cs : List Char) : Option (List Char × List Char) := match cs with
  | '0' :: rest => some (['0'], rest)
  | cs => digits? isDigit cs

def inWord (n : Int) : Bool := -9223372036854775808 ≤ n && n ≤ 9223372036854775807

private def based? (base : Nat) (isDigit : Char → Bool) (cs : List Char) : Option (Int × List Char) := do
  let (ds, rest) ← digits? isDigit cs
  let n : Int := number base ds
  if inWord n then return (n, rest) else none

def integer? (cs : List Char) : Option (Int × List Char) := match cs with
  | '0' :: 'x' :: rest => based? 16 (fun c => isDigit c || ('a' ≤ c && c ≤ 'f') || ('A' ≤ c && c ≤ 'F')) rest
  | '0' :: 'o' :: rest => based? 8 (fun c => '0' ≤ c && c ≤ '7') rest
  | '0' :: 'b' :: rest => based? 2 (fun c => c == '0' || c == '1') rest
  | cs => do
    let (negative, cs) := sign cs
    let (ds, rest) ← whole? cs
    let n : Int := number 10 ds
    let n := if negative then -n else n
    if inWord n then return (n, rest) else none

def fraction? : List Char → Option (List Char × List Char)
  | '.' :: cs => digits? isDigit cs
  | _ => none

def exponent? : List Char → Option (Int × List Char)
  | c :: cs => if c == 'e' || c == 'E' then do
      let (negative, cs) := sign cs
      let (ds, rest) ← digits? isDigit cs
      let n : Int := number 10 ds
      return (if negative then -n else n, rest)
    else none
  | [] => none

/-- The decimal `digits * 10 ^ exponent` is rounded to infinity in 64 bits. -/
def overflows (digits : Nat) (exponent : Int) : Bool :=
  let length : Int := (Nat.repr digits).length
  digits != 0 && (if length + exponent > 310 then true else if length + exponent < 300 then false
    else digits * Nat.pow 10 exponent.toNat ≥ (Nat.pow 2 1024 - Nat.pow 2 970) * Nat.pow 10 (-exponent).toNat)

/-- A float; one above the range is none. -/
def float? (cs : List Char) : Option (Unit × List Char) :=
  let (negative, body) := sign cs
  match body with
  | 'i' :: 'n' :: 'f' :: rest | 'n' :: 'a' :: 'n' :: rest => some ((), rest)
  | body => do
    let (ds, rest) ← whole? body
    let fraction := fraction? rest
    let rest' := (fraction.map (·.2)).getD rest
    let exponent := exponent? rest'
    if fraction.isNone && exponent.isNone then none
    else
      let fs := (fraction.map (·.1)).getD []
      let e := (exponent.map (·.1)).getD 0
      if !negative && overflows (number 10 (ds ++ fs)) (e - fs.length) then none
      else return ((), (exponent.map (·.2)).getD rest')

/-! ### Dates and times -/

open Time (daysInMonth)
open Time.Rfc3339 (number? mark?)

def date? (cs : List Char) : Option (Unit × List Char) := do
  let (year, cs) ← number? 4 cs
  let cs ← mark? ['-'] cs
  let (month, cs) ← number? 2 cs
  let cs ← mark? ['-'] cs
  let (day, cs) ← number? 2 cs
  if 1 ≤ month ∧ month ≤ 12 ∧ 1 ≤ day ∧ day ≤ daysInMonth year month then return ((), cs) else none

def time? (cs : List Char) : Option (Unit × List Char) := do
  let (hour, cs) ← number? 2 cs
  let cs ← mark? [':'] cs
  let (minute, cs) ← number? 2 cs
  let cs ← mark? [':'] cs
  let (second, cs) ← number? 2 cs
  if hour ≤ 23 ∧ minute ≤ 59 ∧ second ≤ 60 then
    let ds := match cs with
      | '.' :: rest => rest.takeWhile isDigit
      | _ => []
    return ((), if ds.isEmpty then cs else cs.drop (ds.length + 1))
  else none

private def offset? (cs : List Char) : Option (Unit × List Char) := match cs with
  | 'Z' :: rest | 'z' :: rest => some ((), rest)
  | s :: rest => if s == '+' || s == '-' then do
      let (hour, rest) ← number? 2 rest
      let rest ← mark? [':'] rest
      let (minute, rest) ← number? 2 rest
      if hour ≤ 23 ∧ minute ≤ 59 then return ((), rest) else none
    else none
  | [] => none

/-- A date, a time, or both with or without a distance from universal time. -/
def datetime? (cs : List Char) : Option (Unit × List Char) := match date? cs with
  | some (_, rest) =>
    match (do let rest ← mark? ['T', 't', ' '] rest; time? rest) with
    | some (_, rest) => match offset? rest with
      | some (_, rest) => some ((), rest)
      | none => some ((), rest)
    | none => some ((), rest)
  | none => time? cs

end FleetFeed.Toml
