import ProxyBridge.Double.Basic

/-!
# The shortest decimal of a double

Every finite double has an interval of reals that round to it, with its ends if and only if its
significand is even. Its shortest decimal is the one with the fewest digits inside the interval,
and of those the nearest to the double, the greater one of two equally near. The search looks at
grids of 1, 2, … 17 digits; on each it needs to look only at the two neighbours of the double.

* `Double.shortest` — the digits and the place of the decimal point.
* `Double.text` — a double written with them.
-/

namespace ProxyBridge

/-- A positive decimal: `0.d₁d₂…` times a power of ten. -/
structure Decimal where
  /-- The digits as one number. -/
  digits : Nat
  /-- The place of the decimal point, counted from the left of the digits. -/
  point : Int
deriving DecidableEq, Repr

/-- The reals that round to a double, as numerators over one denominator. -/
structure RoundingInterval where
  low : Nat
  value : Nat
  high : Nat
  denominator : Nat
  /-- The ends round to the double too. -/
  closed : Bool
deriving Repr

namespace RoundingInterval

/-- The place of the decimal point of the value: the least `p` with `value < 10 ^ p`. -/
def point (r : RoundingInterval) : Int :=
  if r.denominator ≤ r.value then ((Nat.toDigits 10 (r.value / r.denominator)).length : Int)
  else
    let zeros := (List.range 400).find? fun k => r.denominator ≤ r.value * Nat.pow 10 k
    1 - ((zeros.getD 400 : Nat) : Int)

/-- The interval measured in steps of the grid that has `n` digits when the point is at `p`. -/
def onGrid (r : RoundingInterval) (p : Int) (n : Nat) : RoundingInterval :=
  let f := Nat.pow 10 ((n : Int) - p).toNat
  { r with
    low := r.low * f
    value := r.value * f
    high := r.high * f
    denominator := r.denominator * Nat.pow 10 (p - n).toNat }

/-- The grid point `g` lies in the interval. -/
def holds (r : RoundingInterval) (g : Nat) : Bool :=
  let at' := g * r.denominator
  if r.closed then r.low ≤ at' && at' ≤ r.high else r.low < at' && at' < r.high

/-- The nearer of the two neighbours of the value on the grid that lie in the interval; the upper
one if both are equally near. -/
def neighbour? (r : RoundingInterval) : Option Nat :=
  let g := r.value / r.denominator
  let lower := r.holds g
  let upper := r.holds (g + 1)
  if lower && upper then
    some (if 2 * (r.value - g * r.denominator) < r.denominator then g else g + 1)
  else if lower then some g
  else if upper then some (g + 1)
  else none

end RoundingInterval

namespace Double

/-- The interval of a positive finite double, in quarter units. The gap below a power of two is
half the gap above it. -/
def interval (x : Double) : RoundingInterval :=
  let scale := 1 <<< x.shift
  let below := if x.significand = 1 <<< 52 ∧ 1 < x.exponentField then scale else 2 * scale
  { low := 4 * x.units - below
    value := 4 * x.units
    high := 4 * x.units + 2 * scale
    denominator := 4 * unitsPerOne
    closed := x.significand % 2 = 0 }

/-- The shortest decimal that rounds to a positive finite double. Seventeen digits always suffice.
A neighbour that is a power of ten of one digit more than the grid moves the point. -/
def shortest (x : Double) : Decimal :=
  let r := x.interval
  let p := r.point
  let found := (List.range 17).findSome? fun i =>
    (r.onGrid p (i + 1)).neighbour?.map fun g => (i + 1, g)
  match found with
  | none => ⟨0, 0⟩
  | some (n, g) => if g = Nat.pow 10 n then ⟨1, p + 1⟩ else ⟨g, p⟩

/-! ## Text -/

/-- How doubles are written. -/
structure Style where
  /-- Decimals whose point lies after this place and up to `lastPoint` are written out. -/
  firstPoint : Int
  /-- From here on an exponent is written. -/
  lastPoint : Int

/-- Numbers from `0.0001` up to but not including `10 ^ 16` are written out. -/
def style : Style := ⟨-3, 16⟩

/-- A decimal written out, with at least one digit on each side of the point. -/
def positional (d : Decimal) : String :=
  let ds := Nat.toDigits 10 d.digits
  let zeros (n : Int) : List Char := List.replicate n.toNat '0'
  if d.point ≤ 0 then String.ofList (['0', '.'] ++ zeros (-d.point) ++ ds)
  else if d.point < (ds.length : Int) then
    String.ofList (ds.take d.point.toNat ++ ['.'] ++ ds.drop d.point.toNat)
  else String.ofList (ds ++ zeros (d.point - ds.length) ++ ['.', '0'])

/-- A decimal with one digit before the point and an exponent. -/
def scientific (d : Decimal) : String :=
  let ds := Nat.toDigits 10 d.digits
  let tail := if ds.length ≤ 1 then [] else '.' :: ds.drop 1
  String.ofList (ds.take 1 ++ tail) ++ "e" ++ toString (d.point - 1)

/-- A double as text: the shortest decimal that reads back as the same double. -/
def text (x : Double) : String :=
  if x.isNaN then "NaN"
  else
    let sign := if x.isNegative then "-" else ""
    let magnitude :=
      if !x.isFinite then "inf"
      else if x.units = 0 then "0.0"
      else
        let d := x.shortest
        if style.firstPoint ≤ d.point ∧ d.point ≤ style.lastPoint then positional d
        else scientific d
    sign ++ magnitude

end Double

end ProxyBridge
