/-!
# Blanks, comments and line ends

What stands between the parts of a TOML text. Readers in this library take the text from a point
on, as a list of characters, and give the text after what they read; without a result the text is
invalid there.
-/

namespace ProxyBridge.Toml

/-- A space or a tab. -/
def isBlank (c : Char) : Bool := c == ' ' || c == '\t'

/-- A character that may stand in comments and between quotes: a tab, or one that is no control
character of ASCII. -/
def isVisible (c : Char) : Bool := c == '\t' || (0x20 ≤ c.toNat && c.toNat != 0x7f)

/-- The text without the blanks it begins with. -/
def skipBlanks (cs : List Char) : List Char := cs.dropWhile isBlank

/-- The text after a line break. -/
def afterBreak? : List Char → Option (List Char)
  | '\n' :: cs => some cs
  | '\r' :: '\n' :: cs => some cs
  | _ => none

/-- The text without the line break it begins with, if it does. -/
def skipBreak (cs : List Char) : List Char := (afterBreak? cs).getD cs

/-- The text without the comment it begins with, if it does. -/
def skipComment : List Char → List Char
  | '#' :: cs => cs.dropWhile isVisible
  | cs => cs

/-- The text after the end of a line: nothing but blanks and a comment comes before it. -/
def endLine? (cs : List Char) : Option (List Char) :=
  match skipComment (skipBlanks cs) with
  | [] => some []
  | cs => afterBreak? cs

/-- The text without the blanks, line breaks and comments it begins with. -/
def skipFill? (inComment : Bool) : List Char → Option (List Char)
  | [] => if inComment then none else some []
  | '\n' :: cs => skipFill? false cs
  | '\r' :: '\n' :: cs => skipFill? false cs
  | c :: cs =>
    if inComment then if isVisible c then skipFill? true cs else none
    else if isBlank c then skipFill? false cs
    else if c = '#' then skipFill? true cs
    else some (c :: cs)

/-- The text after a given character. -/
def after? (c : Char) : List Char → Option (List Char)
  | d :: cs => if d = c then some cs else none
  | [] => none

end ProxyBridge.Toml
