import ProxyBridge.Text.CharClass

/-!
# Modes of patterns

A pattern is a regular expression. Its text is read in a **mode**, which flags in the text change.
Patterns are for text: a set of bytes must not go beyond ASCII. And no tables of Unicode are at
hand, neither for classes such as the digits nor for the case of letters, so where they would be
needed the text is no pattern.

* `Mode.set` — the mode after a flag.
* `Mode.skip` — passes over what does not count.
* `Mode.admits`, `Mode.admitsInClass`, `Mode.admitsClass` — what may stand in a mode.
-/

namespace ProxyBridge.Pattern

/-- How the text of a pattern is read. -/
structure Mode where
  /-- Characters are those of Unicode, and not bytes. -/
  unicode : Bool := true
  /-- Case makes no difference. -/
  ignoresCase : Bool := false
  /-- Blanks and comments do not count. -/
  ignoresBlanks : Bool := false
deriving DecidableEq, Repr

/-- A character of a pattern. -/
structure Letter where
  char : Char
  /-- Written with two hexadecimal digits, which may stand for a byte. -/
  isByte : Bool
deriving DecidableEq, Repr

namespace Mode

/-- The flags. Those without an effect on what may stand in a pattern are here too. -/
def flags : List Char := ['i', 'm', 's', 'U', 'u', 'R', 'x']

/-- The mode with a flag turned on or off. -/
def set (m : Mode) (flag : Char) (on : Bool) : Mode :=
  match flag with
  | 'u' => { m with unicode := on }
  | 'i' => { m with ignoresCase := on }
  | 'x' => { m with ignoresBlanks := on }
  | _ => m

/-! ## Blanks -/

/-- The text without the blanks and comments it begins with. -/
def skipFill (inComment : Bool) : List Char → List Char
  | [] => []
  | c :: cs =>
    if inComment then skipFill (c != '\n') cs
    else if CharClass.isBlank c then skipFill false cs
    else if c = '#' then skipFill true cs
    else c :: cs

/-- The text from where it counts. -/
def skip (m : Mode) (cs : List Char) : List Char :=
  if m.ignoresBlanks then skipFill false cs else cs

/-- The first character that may decide about what stands before. Blanks are passed over, and so is
the sign that begins a comment, but not the comment. -/
def glance (m : Mode) (cs : List Char) : Option Char :=
  if m.ignoresBlanks then
    match cs.dropWhile CharClass.isBlank with
    | '#' :: rest => (rest.dropWhile CharClass.isBlank).head?
    | rest => rest.head?
  else cs.head?

/-! ## What may stand in a pattern -/

/-- A character may stand outside classes. -/
def admits (m : Mode) (l : Letter) : Bool :=
  if m.unicode then !m.ignoresCase else !l.isByte || l.char.toNat < 0x80

/-- A character may stand in a class. -/
def admitsInClass (m : Mode) (l : Letter) : Bool :=
  if m.unicode then !m.ignoresCase else l.char.toNat < 0x80

/-- A class of digits, blanks or word characters may stand, or its complement. -/
def admitsShort (m : Mode) (complement : Bool) : Bool := !m.unicode && !complement

/-- A class with a name may stand in a class, or its complement. -/
def admitsNamed (m : Mode) (complement : Bool) : Bool :=
  if m.unicode then !m.ignoresCase else !complement

/-- A class in brackets may stand, or its complement. -/
def admitsClass (m : Mode) (complement : Bool) : Bool := m.unicode || !complement

/-- A point for any character may stand. -/
def admitsAny (m : Mode) : Bool := m.unicode

/-- A place where a word begins or ends may be asked for. Words of Unicode cannot be told one
character at a time. -/
def admitsWordEdge (m : Mode) : Bool := !m.unicode

end Mode

end ProxyBridge.Pattern
