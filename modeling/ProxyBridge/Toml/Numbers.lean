import ProxyBridge.Text.CharClass
import ProxyBridge.Toml.Value

/-!
# Reading TOML numbers

Integers have 64 bits and a sign; after a mark they are written in base sixteen, eight or two
without one. Floats have a fraction or an exponent, and may not be so large that they round to
infinity. Single underscores may stand between digits, and a decimal number has no zeros in front.
-/

namespace ProxyBridge.Toml

/-- Digits after a first one: their characters without the underscores, and the text after them. An
underscore needs a digit behind it. -/
def moreDigits? (isDigit : Char → Bool) : List Char → Option (List Char × List Char)
  | [] => some ([], [])
  | '_' :: cs =>
    match cs with
    | [] => none
    | c :: cs =>
      if isDigit c then (moreDigits? isDigit cs).map fun p => (c :: p.1, p.2) else none
  | c :: cs =>
    if isDigit c then (moreDigits? isDigit cs).map fun p => (c :: p.1, p.2)
    else some ([], c :: cs)

/-- One digit or more. -/
def digits? (isDigit : Char → Bool) : List Char → Option (List Char × List Char)
  | [] => none
  | c :: cs =>
    if isDigit c then (moreDigits? isDigit cs).map fun p => (c :: p.1, p.2) else none

/-- The digits of a whole number. After a zero there are no more. -/
def whole? : List Char → Option (List Char × List Char)
  | '0' :: cs => some (['0'], cs)
  | cs => digits? (Digits.isDigit 10) cs

/-- The fraction of a float, which may be missing. -/
def fraction? : List Char → Option (List Char × List Char)
  | '.' :: cs => digits? (Digits.isDigit 10) cs
  | cs => some ([], cs)

/-- The exponent of a float, which may be missing. -/
def exponent? : List Char → Option (Int × List Char)
  | [] => some (0, [])
  | e :: cs =>
    if e = 'e' ∨ e = 'E' then
      match cs with
      | '-' :: cs =>
        (digits? (Digits.isDigit 10) cs).map fun p => (-(Digits.toNat 10 p.1 : Int), p.2)
      | '+' :: cs =>
        (digits? (Digits.isDigit 10) cs).map fun p => ((Digits.toNat 10 p.1 : Int), p.2)
      | cs => (digits? (Digits.isDigit 10) cs).map fun p => ((Digits.toNat 10 p.1 : Int), p.2)
    else some (0, e :: cs)

/-- The least number that is nearer to the next power of two than to the greatest double. -/
def infinityBound : Nat := 1 <<< 1024 - 1 <<< 970

/-- The number `m * 10 ^ e` rounds to infinity. The bound has 309 digits, so the exact comparison is
needed for numbers of that size only. -/
def roundsToInfinity (m : Nat) (e : Int) : Bool :=
  let size : Int := (Nat.toDigits 10 m).length + e
  if m = 0 then false
  else if size ≠ 309 then 309 < size
  else if 0 ≤ e then infinityBound ≤ m * Nat.pow 10 e.toNat
  else infinityBound * Nat.pow 10 (-e).toNat ≤ m

/-- A float has a fraction or an exponent. -/
def marksFloat : List Char → Bool
  | '.' :: _ | 'e' :: _ | 'E' :: _ => true
  | _ => false

/-- A decimal number after its sign. -/
def decimal? (negative : Bool) (cs : List Char) : Option (Value × List Char) := do
  let (whole, rest) ← whole? cs
  if marksFloat rest then
    let (fraction, rest) ← fraction? rest
    let (exponent, rest) ← exponent? rest
    if !negative && roundsToInfinity (Digits.toNat 10 (whole ++ fraction))
        (exponent - fraction.length) then none
    else return (.float, rest)
  else
    let n := Digits.toNat 10 whole
    if negative then
      if n ≤ maxInteger + 1 then return (.integer (-n), rest) else none
    else if n ≤ maxInteger then return (.integer n, rest)
    else none

/-- A number after its sign, be it a proper number or not. -/
def signed? (negative : Bool) : List Char → Option (Value × List Char)
  | 'i' :: 'n' :: 'f' :: cs => some (.float, cs)
  | 'n' :: 'a' :: 'n' :: cs => some (.float, cs)
  | cs => decimal? negative cs

/-- An integer in another base than ten, after its mark. -/
def marked? (base : Nat) (cs : List Char) : Option (Value × List Char) := do
  let (digits, rest) ← digits? (Digits.isDigit base) cs
  let n := Digits.toNat base digits
  if n ≤ maxInteger then return (.integer n, rest) else none

/-- A number. -/
def number? : List Char → Option (Value × List Char)
  | '0' :: 'x' :: cs => marked? 16 cs
  | '0' :: 'o' :: cs => marked? 8 cs
  | '0' :: 'b' :: cs => marked? 2 cs
  | '+' :: cs => signed? false cs
  | '-' :: cs => signed? true cs
  | cs => signed? false cs

end ProxyBridge.Toml
