import ProxyBridge.Text.CharClass
import ProxyBridge.Toml.Blank

/-!
# Reading TOML strings

A string has one of four forms: in single or double quotes, on one line or on several. Double
quotes have escapes. A string is read in two steps: the text between the quotes is cut out, and then
decoded.

Around a string on several lines stand three quotes. Up to two more quotes before the closing ones
belong to the string, a line break right after the opening ones does not, and with double quotes a
backslash at the end of a line joins the line with the next text.
-/

namespace ProxyBridge.Toml

/-- The form of a string. -/
inductive Form where
  | basic
  | literal
  | multiBasic
  | multiLiteral
deriving DecidableEq, Repr

namespace Form

/-- The quotes are double ones. -/
def escapes : Form → Bool
  | .basic | .multiBasic => true
  | .literal | .multiLiteral => false

/-- The string may extend over several lines. -/
def isMulti : Form → Bool
  | .multiBasic | .multiLiteral => true
  | .basic | .literal => false

/-- The character that the delimiters consist of. -/
def quote (f : Form) : Char := if f.escapes then '"' else '\x27'

end Form

/-- The character that a letter after a backslash stands for. -/
def escape? : Char → Option Char
  | 'b' => some '\x08'
  | 't' => some '\t'
  | 'n' => some '\n'
  | 'f' => some '\x0c'
  | 'r' => some '\r'
  | '"' => some '"'
  | '\\' => some '\\'
  | _ => none

/-- The character with a code point in hexadecimal digits. -/
def codePoint? (digits : List Char) : Option Char :=
  let n := Digits.toNat 16 digits
  if digits.all (Digits.isDigit 16) && decide n.isValidChar then some (Char.ofNat n) else none

/-- A string on one line, after the opening quote: the text up to the closing one, and the text
after that. -/
def cutLine? (f : Form) : List Char → Option (List Char × List Char)
  | [] => none
  | c :: cs =>
    if c = f.quote then some ([], cs)
    else if f.escapes && c == '\\' then
      match cs with
      | [] => none
      | d :: cs => (cutLine? f cs).map fun p => (c :: d :: p.1, p.2)
    else (cutLine? f cs).map fun p => (c :: p.1, p.2)

/-- A string on several lines, after the opening quotes: the text up to the closing ones, and the
text after those. -/
def cutLines? (f : Form) : List Char → Option (List Char × List Char)
  | [] => none
  | c :: cs =>
    let quotes := ((c :: cs).takeWhile (· == f.quote)).length
    if 3 ≤ quotes then
      let taken := min quotes 5
      some (List.replicate (taken - 3) f.quote, (c :: cs).drop taken)
    else if f.escapes && c == '\\' then
      match cs with
      | [] => none
      | d :: cs => (cutLines? f cs).map fun p => (c :: d :: p.1, p.2)
    else (cutLines? f cs).map fun p => (c :: p.1, p.2)

/-- Nothing but blanks stands before the end of the line. -/
def endsLine (cs : List Char) : Bool := (afterBreak? (skipBlanks cs)).isSome

/-- The string that the text between the quotes stands for. While `joining`, blanks and line breaks
are dropped. -/
def decode? (f : Form) (joining : Bool) : List Char → Option (List Char)
  | [] => some []
  | '\r' :: '\n' :: cs =>
    if !f.isMulti then none
    else if joining then decode? f true cs
    else (decode? f false cs).map ('\n' :: ·)
  | '\n' :: cs =>
    if !f.isMulti then none
    else if joining then decode? f true cs
    else (decode? f false cs).map ('\n' :: ·)
  | '\\' :: cs =>
    if !f.escapes then (decode? f false cs).map ('\\' :: ·)
    else
      match cs with
      | [] => none
      | 'u' :: a :: b :: c :: d :: cs =>
        (codePoint? [a, b, c, d]).bind fun x => (decode? f false cs).map (x :: ·)
      | 'U' :: a :: b :: c :: d :: e :: g :: h :: i :: cs =>
        (codePoint? [a, b, c, d, e, g, h, i]).bind fun x => (decode? f false cs).map (x :: ·)
      | c :: cs =>
        match escape? c with
        | some x => (decode? f false cs).map (x :: ·)
        | none => if f.isMulti && endsLine (c :: cs) then decode? f true (c :: cs) else none
  | c :: cs =>
    if joining && isBlank c then decode? f true cs
    else if isVisible c then (decode? f false cs).map (c :: ·)
    else none

/-- A string on one line, after the opening quote. -/
def line? (f : Form) (cs : List Char) : Option (String × List Char) := do
  let (raw, rest) ← cutLine? f cs
  let s ← decode? f false raw
  return (String.ofList s, rest)

/-- A string on several lines, after the opening quotes. -/
def lines? (f : Form) (cs : List Char) : Option (String × List Char) := do
  let (raw, rest) ← cutLines? f (skipBreak cs)
  let s ← decode? f false raw
  return (String.ofList s, rest)

/-- A string in any form. -/
def string? : List Char → Option (String × List Char)
  | '"' :: '"' :: '"' :: cs => lines? .multiBasic cs
  | '"' :: cs => line? .basic cs
  | '\x27' :: '\x27' :: '\x27' :: cs => lines? .multiLiteral cs
  | '\x27' :: cs => line? .literal cs
  | _ => none

end ProxyBridge.Toml
