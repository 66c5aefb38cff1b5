import FleetFeed.Decimal.Binary64

/-! The fewest decimal digits that read back to a binary value. The search runs over the decimal
grids of one to seventeen digits in exact integer arithmetic; on each grid only the two neighbours
of the value can lie in the interval of reals that round to it. -/
namespace FleetFeed.Decimal

/-- The magnitude of a finite value, `m * 2 ^ q`. -/
structure Magnitude where
  m : Nat
  q : Int
  /-- The gap to the value below is half the gap to the value above. -/
  narrowBelow : Bool

def Magnitude.of (x : Binary64) : Magnitude :=
  let e := ((x.bits >>> 52) &&& 0x7FF).toNat
  let f := (x.bits &&& 0xFFFFFFFFFFFFF).toNat
  if e == 0 then ⟨f, -1074, false⟩ else ⟨4503599627370496 + f, (e : Int) - 1075, f == 0 && e > 1⟩

/-- The number `digits * 10 ^ exp`. -/
structure Scaled where
  digits : Nat
  exp : Int
  deriving DecidableEq, Repr

/-- Compares `a * 10 ^ i` with `n * 2 ^ j`. -/
def cmpScaled (a : Nat) (i : Int) (n : Nat) (j : Int) : Ordering :=
  compare (a * Nat.pow 10 i.toNat * Nat.pow 2 (-j).toNat) (n * Nat.pow 2 j.toNat * Nat.pow 10 (-i).toNat)

/-- The decimal lies among the reals that round to `x`, to nearest with ties to even. -/
def Magnitude.readsBack (x : Magnitude) (d : Scaled) : Bool :=
  let low := if x.narrowBelow then 4 * x.m - 1 else 4 * x.m - 2
  let high := 4 * x.m + 2
  let closed := x.m % 2 == 0
  let cl := cmpScaled d.digits d.exp low (x.q - 2)
  let ch := cmpScaled d.digits d.exp high (x.q - 2)
  (cl == .gt || (closed && cl == .eq)) && (ch == .lt || (closed && ch == .eq))

/-- The least `k` with `m * 2 ^ q < 10 ^ k`, found from an estimate that is off by at most one or two. -/
def Magnitude.scale (x : Magnitude) : Int :=
  let estimate : Int := ((x.m.log2 : Int) + x.q) * 30103 / 100000
  let candidates : List Int := [estimate - 1, estimate, estimate + 1, estimate + 2]
  (candidates.find? fun k => cmpScaled 1 k x.m x.q == .gt).getD (estimate + 3)

/-- The grid point nearest to `x` from below, in units of `10 ^ g`. -/
def Magnitude.floorOn (x : Magnitude) (g : Int) : Nat :=
  (x.m * Nat.pow 2 x.q.toNat * Nat.pow 10 (-g).toNat) / (Nat.pow 2 (-x.q).toNat * Nat.pow 10 g.toNat)

/-- The neighbour of `x` on the grid of `10 ^ g` that reads back; of two the nearer, of a tie the even one. -/
def Magnitude.onGrid? (x : Magnitude) (g : Int) : Option Scaled :=
  let a := x.floorOn g
  let low : Scaled := ⟨a, g⟩
  let high : Scaled := ⟨a + 1, g⟩
  match x.readsBack low, x.readsBack high with
  | true, false => some low
  | false, true => some high
  | false, false => none
  | true, true =>
    match cmpScaled (2 * a + 1) g (2 * x.m) x.q with
    | .gt => some low
    | .lt => some high
    | .eq => some (if a % 2 == 0 then low else high)

/-- Moves trailing zeros of the digits into the exponent. -/
def Scaled.strip (d : Scaled) : Scaled :=
  if h : d.digits = 0 then ⟨0, 0⟩
  else if d.digits % 10 = 0 then Scaled.strip ⟨d.digits / 10, d.exp + 1⟩ else d
termination_by d.digits
decreasing_by exact Nat.div_lt_self (Nat.pos_of_ne_zero h) (by decide)

/-- The exact value as a decimal, which stands in where no grid would do. -/
def Magnitude.exact (x : Magnitude) : Scaled :=
  if 0 ≤ x.q then ⟨x.m * Nat.pow 2 x.q.toNat, 0⟩ else ⟨x.m * Nat.pow 5 (-x.q).toNat, x.q⟩

/-- The shortest decimal that reads back to the magnitude. -/
def Magnitude.shortest (x : Magnitude) : Scaled :=
  if x.m = 0 then ⟨0, 0⟩
  else
    let k := x.scale
    (((List.range 17).findSome? fun n => x.onGrid? (k - (n + 1 : Nat))).getD x.exact).strip

end FleetFeed.Decimal
