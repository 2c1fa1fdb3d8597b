/-!
# Double-precision numbers

A foreign number is a 64-bit IEEE 754 pattern: a sign, an exponent field of 11 bits and a fraction
of 52. The bridge never computes with such numbers; it classifies them, counts with them and shows
them. All of that is exact arithmetic on the natural number of **units** (multiples of the smallest
positive double, `2 ^ -1074`) that a finite pattern stands for.

* `Double.units` — the magnitude of a finite double, in units.
* `Double.floor` — the integer part of the magnitude.
* `Double.toLength` — a double read as a length.
* `Double.ofNat` — the double of a count.
-/

namespace ProxyBridge

/-- A 64-bit IEEE 754 number, by its bits. -/
structure Double where
  bits : BitVec 64
deriving DecidableEq, Repr

namespace Double

/-- The sign bit. -/
def isNegative (x : Double) : Bool := x.bits.getLsbD 63

/-- The exponent field, `0` for zeros and subnormals and `2047` for infinities and NaNs. -/
def exponentField (x : Double) : Nat := (x.bits.extractLsb' 52 11).toNat

/-- The fraction field. -/
def fraction (x : Double) : Nat := (x.bits.extractLsb' 0 52).toNat

/-- Neither infinite nor a NaN. -/
def isFinite (x : Double) : Bool := x.exponentField != 2047

/-- Not a number. -/
def isNaN (x : Double) : Bool := x.exponentField == 2047 && x.fraction != 0

/-- The integer significand: the fraction, with the implied leading bit of a normal number. -/
def significand (x : Double) : Nat :=
  if x.exponentField = 0 then x.fraction else 1 <<< 52 + x.fraction

/-- How many places the significand is shifted to the left to give units. -/
def shift (x : Double) : Nat := x.exponentField - 1

/-- The magnitude of a finite double as a multiple of `2 ^ -1074`. -/
def units (x : Double) : Nat := x.significand <<< x.shift

/-- The number of units in one. -/
def unitsPerOne : Nat := 1 <<< 1074

/-- Positive or negative zero. -/
def isZero (x : Double) : Bool := x.isFinite && x.units == 0

/-- The magnitude of a finite double is an integer. -/
def isIntegral (x : Double) : Bool := x.isFinite && x.units % unitsPerOne == 0

/-- The integer part of the magnitude. -/
def floor (x : Double) : Nat := x.units / unitsPerOne

/-- The greatest length a host can report. -/
def maxLength : Nat := UInt64.size - 1

/-- A number read as a length: the integer part of a positive finite number, cut off at the
greatest length; anything else is no length and counts as zero. -/
def toLength (x : Double) : Nat :=
  if x.isFinite && !x.isNegative then min maxLength x.floor else 0

/-- The double of a natural number, exact below `2 ^ 53` and rounded toward zero from there. -/
def ofNat (n : Nat) : Double :=
  if n = 0 then ⟨0#64⟩
  else
    let e := n.log2
    let significand := if e ≤ 52 then n <<< (52 - e) else n >>> (e - 52)
    ⟨BitVec.ofNat 64 ((e + 1023) <<< 52 + (significand - 1 <<< 52))⟩

end Double

end ProxyBridge
