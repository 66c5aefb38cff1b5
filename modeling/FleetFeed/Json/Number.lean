import FleetFeed.Decimal.Notation

/-! JSON numbers. A numeral is a number as it is spelt; its value is an integer where it has neither
fraction nor exponent and fits 64 bits, and otherwise a binary floating point number. -/
namespace FleetFeed.Json

open Decimal

inductive Number where
  | int (n : Int)
  | float (x : Binary64)
  deriving DecidableEq, Repr

def Number.write : Number → String
  | .int n => if n < 0 then "-" ++ Nat.repr n.natAbs else Nat.repr n.natAbs
  | .float x => if x.isNaN || x.toFloat.isInf then "null" else writeShortest x

/-- The value in floating point; an integer is rounded to the nearest. -/
def Number.toBinary64 : Number → Binary64
  | .int n => Binary64.ofInt n
  | .float x => x

structure Numeral where
  negative : Bool
  whole : List Nat
  fraction : Option (List Nat)
  /-- Whether the exponent is negative, and its digits. -/
  exponent : Option (Bool × List Nat)

namespace Numeral

def digit? (c : Char) : Option Nat := if '0' ≤ c ∧ c ≤ '9' then some (c.toNat - 48) else none

def readDigits : List Char → List Nat × List Char
  | [] => ([], [])
  | c :: r => match digit? c with
    | some d => let (ds, rest) := readDigits r; (d :: ds, rest)
    | none => ([], c :: r)

def readFraction : List Char → Option (Option (List Nat) × List Char)
  | '.' :: r => match readDigits r with
    | ([], _) => none
    | (ds, rest) => some (some ds, rest)
  | cs => some (none, cs)

def readSign : List Char → Bool × List Char
  | '+' :: r => (false, r)
  | '-' :: r => (true, r)
  | cs => (false, cs)

def readExponent : List Char → Option (Option (Bool × List Nat) × List Char)
  | c :: r =>
    if c = 'e' ∨ c = 'E' then
      let (negative, r) := readSign r
      match readDigits r with
      | ([], _) => none
      | (ds, rest) => some (some (negative, ds), rest)
    else some (none, c :: r)
  | [] => some (none, [])

/-- A numeral at the start of a text, and what follows it. A leading zero stands alone. -/
def read? (cs : List Char) : Option (Numeral × List Char) :=
  let (negative, cs) := match cs with
    | '-' :: r => (true, r)
    | cs => (false, cs)
  match readDigits cs with
  | ([], _) => none
  | (0 :: _ :: _, _) => none
  | (whole, cs) => do
    let (fraction, cs) ← readFraction cs
    let (exponent, cs) ← readExponent cs
    return (⟨negative, whole, fraction, exponent⟩, cs)

def maxWord : Nat := 18446744073709551615

/-- Appends digits to a significand for as long as it stays within 64 bits; also the digits left over. -/
def accumulate (significand : Nat) : List Nat → Nat × List Nat
  | [] => (significand, [])
  | d :: ds => if significand * 10 + d ≤ maxWord then accumulate (significand * 10 + d) ds else (significand, d :: ds)

def ofDigits (ds : List Nat) : Nat := ds.foldl (fun n d => n * 10 + d) 0

def maxExponent : Nat := 2147483647

/-- The value, none where it is beyond the range of floating point. Digits of the whole part that do not fit the
significand count as powers of ten, digits of the fraction that do not fit are dropped. -/
def value? (x : Numeral) : Option Number :=
  let (s, surplus) := accumulate 0 x.whole
  if x.fraction.isNone ∧ x.exponent.isNone ∧ surplus.isEmpty then
    if !x.negative then some (.int s)
    else if 0 < s ∧ s ≤ 9223372036854775808 then some (.int (-(s : Int)))
    else some (.float (Binary64.ofNat s).neg)
  else
    let fraction := x.fraction.getD []
    let (t, dropped) := accumulate s fraction
    let scale : Int := (surplus.length : Int) - (fraction.length - dropped.length : Nat)
    let (below, exponent) := x.exponent.getD (false, [])
    let e := ofDigits exponent
    if maxExponent < e then
      if t = 0 ∨ below then some (.float (if x.negative then Binary64.zero.neg else Binary64.zero)) else none
    else
      (Binary64.ofDecimal? x.negative t (if below then scale - e else scale + e)).map .float

end Numeral

end FleetFeed.Json
