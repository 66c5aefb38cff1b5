/-! Binary floating point numbers of 64 bits, kept as their bits so that equality is decidable. -/
namespace FleetFeed

structure Binary64 where
  bits : UInt64
  deriving DecidableEq, Repr

namespace Binary64

def zero : Binary64 := ⟨0⟩

instance : Inhabited Binary64 := ⟨zero⟩

def toFloat (x : Binary64) : Float := Float.ofBits x.bits

def ofFloat (x : Float) : Binary64 := ⟨x.toBits⟩

def isNaN (x : Binary64) : Bool := x.toFloat.isNaN

def isNegative (x : Binary64) : Bool := x.bits >>> 63 == 1

def neg (x : Binary64) : Binary64 := ⟨x.bits ^^^ 0x8000000000000000⟩

/-- The nearest value to a natural number, ties to even. -/
def ofNat (n : Nat) : Binary64 := ofFloat (Float.ofScientific n false 0)

/-- The nearest value to an integer. -/
def ofInt : Int → Binary64
  | .ofNat n => ofNat n
  | .negSucc n => (ofNat (n + 1)).neg

/-- The value nearest to `10 ^ k`. -/
def pow10 (k : Nat) : Float := Float.ofScientific 1 false k

/-- The largest power of ten below infinity. -/
def maxPow10 : Nat := 308

/-- Divides by `10 ^ k` in steps of at most `10 ^ 308`, each rounded; stops early at zero. -/
def divPow10 (x : Float) (k : Nat) : Float :=
  if k ≤ maxPow10 then x / pow10 k
  else if x == 0 then x
  else divPow10 (x / pow10 maxPow10) (k - maxPow10)
termination_by k
decreasing_by simp only [maxPow10] at *; omega

/-- The value of `significand * 10 ^ exponent`: the significand is rounded first, then the scaled
value is rounded again. None where the result would be infinite. -/
def ofDecimal? (negative : Bool) (significand : Nat) (exponent : Int) : Option Binary64 :=
  let f := (ofNat significand).toFloat
  let scaled : Option Float := match exponent with
    | .ofNat k =>
      if k ≤ maxPow10 then
        let g := f * pow10 k
        if g.isInf then none else some g
      else if f == 0 then some f else none
    | .negSucc k => some (divPow10 f (k + 1))
  scaled.map fun g => if negative then (ofFloat g).neg else ofFloat g

private def hexDigit (n : Nat) : Char := if n < 10 then Char.ofNat (48 + n) else Char.ofNat (87 + n)

/-- The bits as sixteen hexadecimal digits. -/
def hex (x : Binary64) : String :=
  String.ofList ((List.range 16).map fun i => hexDigit ((x.bits.toNat / Nat.pow 16 (15 - i)) % 16))

end Binary64

end FleetFeed
