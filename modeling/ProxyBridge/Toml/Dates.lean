import ProxyBridge.Text.CharClass
import ProxyBridge.Toml.Blank

/-!
# Reading TOML dates

A date, a time of day, or both, and then perhaps the distance from universal time. Dates have to
exist in the calendar; what they are is not kept.
-/

namespace ProxyBridge.Toml

/-- A number of two digits within bounds. -/
def two? (low high : Nat) : List Char → Option (Nat × List Char)
  | a :: b :: cs =>
    let n := Digits.toNat 10 [a, b]
    if Digits.isDigit 10 a && Digits.isDigit 10 b && decide (low ≤ n ∧ n ≤ high) then some (n, cs)
    else none
  | _ => none

/-- The number of days of a month. -/
def daysIn (year month : Nat) : Nat :=
  if month = 2 then
    if year % 4 = 0 ∧ (year % 100 ≠ 0 ∨ year % 400 = 0) then 29 else 28
  else if month = 4 ∨ month = 6 ∨ month = 9 ∨ month = 11 then 30
  else 31

/-- The text after a calendar date. -/
def afterDay? (cs : List Char) : Option (List Char) := do
  let (century, cs) ← two? 0 99 cs
  let (year, cs) ← two? 0 99 cs
  let cs ← after? '-' cs
  let (month, cs) ← two? 1 12 cs
  let cs ← after? '-' cs
  let (_, cs) ← two? 1 (daysIn (century * 100 + year) month) cs
  return cs

/-- The text without the fraction of a second it begins with, if it does. -/
def skipFraction : List Char → List Char
  | '.' :: c :: cs =>
    if Digits.isDigit 10 c then cs.dropWhile (Digits.isDigit 10) else '.' :: c :: cs
  | cs => cs

/-- The text after a time of day. A minute may have a leap second. -/
def afterClock? (cs : List Char) : Option (List Char) := do
  let (_, cs) ← two? 0 23 cs
  let cs ← after? ':' cs
  let (_, cs) ← two? 0 59 cs
  let cs ← after? ':' cs
  let (_, cs) ← two? 0 60 cs
  return skipFraction cs

/-- The text after hours and minutes. -/
def afterHours? (cs : List Char) : Option (List Char) := do
  let (_, cs) ← two? 0 23 cs
  let cs ← after? ':' cs
  let (_, cs) ← two? 0 59 cs
  return cs

/-- The text without the distance from universal time it begins with, if it does. -/
def skipOffset : List Char → List Char
  | [] => []
  | c :: cs =>
    if c = 'Z' ∨ c = 'z' then cs
    else if c = '+' ∨ c = '-' then (afterHours? cs).getD (c :: cs)
    else c :: cs

/-- The text after a date, a time of day, or both. -/
def afterDate? (cs : List Char) : Option (List Char) :=
  match afterDay? cs with
  | none => afterClock? cs
  | some [] => some []
  | some (c :: rest) =>
    if c = 'T' ∨ c = 't' ∨ c = ' ' then
      some (((afterClock? rest).map skipOffset).getD (c :: rest))
    else some (c :: rest)

end ProxyBridge.Toml
