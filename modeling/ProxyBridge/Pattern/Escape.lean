import ProxyBridge.Pattern.Mode
import ProxyBridge.Text.CharClass

/-!
# Escapes in patterns

What a backslash begins: a character, a class, or a place between characters. Every sign of ASCII
may be escaped; of the letters, only those with a meaning. Braces around hexadecimal digits do not
occur, since a closing brace ends the text of a pattern, and neither do classes of Unicode, since
there are no tables.
-/

namespace ProxyBridge.Pattern

/-- What an escape stands for. -/
inductive Escape where
  | letter (l : Letter)
  /-- Digits, blanks or word characters, or all others. -/
  | short (complement : Bool)
  /-- The beginning or end of the text. -/
  | edge
  /-- The beginning or end of a word, or anywhere else. -/
  | wordEdge
deriving DecidableEq, Repr

/-- So many hexadecimal digits, with what does not count between and after them, and the text after
that. -/
def hexDigits? (m : Mode) : (count : Nat) → List Char → Option (List Char × List Char)
  | 0, cs => some ([], cs)
  | n + 1, cs =>
    match cs with
    | [] => none
    | d :: cs =>
      if Digits.isDigit 16 d then (hexDigits? m n (m.skip cs)).map fun r => (d :: r.1, r.2)
      else none

/-- The character with a code point in so many hexadecimal digits, and the text after it. -/
def hexLetter? (m : Mode) (count : Nat) (cs : List Char) : Option (Escape × List Char) :=
  match hexDigits? m count (m.skip cs) with
  | none => none
  | some (ds, rest) =>
    let n := Digits.toNat 16 ds
    if n.isValidChar then some (.letter ⟨Char.ofNat n, count == 2⟩, rest) else none

/-- The character that a letter after a backslash stands for. -/
def special? : Char → Option Char
  | 'a' => some '\x07'
  | 't' => some '\t'
  | 'n' => some '\n'
  | 'v' => some '\x0b'
  | 'f' => some '\x0c'
  | 'r' => some '\r'
  | _ => none

/-- An escape, after its backslash, and the text after it. -/
def escape? (m : Mode) : List Char → Option (Escape × List Char)
  | [] => none
  | c :: cs =>
    match c with
    | 'x' => hexLetter? m 2 cs
    | 'u' => hexLetter? m 4 cs
    | 'U' => hexLetter? m 8 cs
    | 'd' | 's' | 'w' => some (.short false, cs)
    | 'D' | 'S' | 'W' => some (.short true, cs)
    | 'A' | 'z' => some (.edge, cs)
    | 'b' | 'B' | '<' | '>' => some (.wordEdge, cs)
    | _ =>
      match special? c with
      | some d => some (.letter ⟨d, false⟩, cs)
      | none =>
        if c.toNat < 0x80 && !c.isAlphanum then some (.letter ⟨c, false⟩, cs) else none

end ProxyBridge.Pattern
