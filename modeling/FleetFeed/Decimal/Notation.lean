import FleetFeed.Decimal.Shortest

/-! How a selected decimal is laid out as text, and how a value is written to a fixed number of places. -/
namespace FleetFeed.Decimal

/-- The decisions of a layout. -/
structure Layout where
  /-- The leading digit's exponents that are written positionally. -/
  positional : Int → Bool
  /-- The sign of a positive exponent. -/
  plus : String
  /-- A number without a fraction is written with `.0`. -/
  pointZero : Bool

private def zeros (n : Nat) : String := String.ofList (List.replicate n '0')

def Layout.write (l : Layout) (d : Scaled) : String :=
  let ds := (Nat.repr d.digits).toList
  let n := ds.length
  let lead : Int := d.exp + n - 1
  if l.positional lead then
    if 0 ≤ d.exp then
      String.ofList ds ++ zeros d.exp.toNat ++ (if l.pointZero then ".0" else "")
    else if 0 ≤ lead then
      let k := (lead + 1).toNat
      String.ofList (ds.take k) ++ "." ++ String.ofList (ds.drop k)
    else "0." ++ zeros (-lead - 1).toNat ++ String.ofList ds
  else
    let mantissa := match ds with
      | [c] => String.ofList [c]
      | c :: cs => String.ofList [c] ++ "." ++ String.ofList cs
      | [] => "0"
    let sign := if lead < 0 then "-" else l.plus
    mantissa ++ "e" ++ sign ++ Nat.repr lead.natAbs

/-- Numbers in JSON: positional from `0.00001` up to sixteen digits before the point. -/
def wireLayout : Layout := ⟨fun e => decide (-5 ≤ e ∧ e < 16), "+", true⟩

private def signed (x : Binary64) (magnitude : String) : String :=
  if x.isNegative then "-" ++ magnitude else magnitude

/-- A finite value as JSON text. -/
def writeShortest (x : Binary64) : String := signed x (wireLayout.write (Magnitude.of x).shortest)

/-- Rounds a quotient to the nearest integer, a tie to the even neighbour. -/
def roundDiv (num den : Nat) : Nat :=
  let q := num / den
  match compare (2 * (num % den)) den with
  | .lt => q
  | .gt => q + 1
  | .eq => if q % 2 == 0 then q else q + 1

/-- The value rounded to one place after the point. -/
def writeTenths (x : Binary64) : String :=
  if x.isNaN then "NaN"
  else if x.toFloat.isInf then signed x "inf"
  else
    let v := Magnitude.of x
    let t := roundDiv (v.m * Nat.pow 2 v.q.toNat * 10) (Nat.pow 2 (-v.q).toNat)
    signed x (Nat.repr (t / 10) ++ "." ++ Nat.repr (t % 10))

end FleetFeed.Decimal
