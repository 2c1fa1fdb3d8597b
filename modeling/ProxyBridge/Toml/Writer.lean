import ProxyBridge.Toml.Reader

/-!
# Writing TOML

Settings are written in groups, each under its header, with an empty line between groups. A string
takes the plainest form that can hold it without escapes, if there is one.

* `Form.forText` — the form of a string.
* `Form.write` — a string in its form.
* `Codec.builtin` — this printer, and the parser that goes with it.
-/

namespace ProxyBridge.Toml

/-! ## Strings -/

/-- A control character that only an escape can stand for in a string on several lines. -/
def isControl (c : Char) : Bool := c != '\n' && !isVisible c

/-- The length of the longest run of a character. -/
def longestRun (x : Char) (cs : List Char) : Nat :=
  (cs.foldl
    (fun (longest, run) c =>
      if c = x then (max longest (run + 1), run + 1) else (longest, 0))
    ((0, 0) : Nat × Nat)).1

/-- The form of a string: the first one that holds it as it is, else the one that has escapes and
keeps its lines. -/
def Form.forText (cs : List Char) : Form :=
  let control := cs.any isControl
  let backslash := cs.contains '\\'
  let lines := cs.contains '\n'
  let double := longestRun '"' cs
  let single := longestRun '\x27' cs
  if !control && !backslash && !lines && double == 0 then .basic
  else if !control && !lines && single == 0 then .literal
  else if !control && !backslash && decide (double ≤ 2) then .multiBasic
  else if !control && decide (single ≤ 2) then .multiLiteral
  else if lines then .multiBasic
  else .basic

/-- Four hexadecimal digits. -/
def fourDigits (n : Nat) : List Char :=
  let digits := (Nat.toDigits 16 n).map Char.toUpper
  List.replicate (4 - digits.length) '0' ++ digits

/-- A character other than the quote inside double quotes. -/
def Form.encodeChar (f : Form) (c : Char) : List Char :=
  match c with
  | '\x08' => ['\\', 'b']
  | '\t' => ['\\', 't']
  | '\n' => if f.isMulti then ['\n'] else ['\\', 'n']
  | '\x0c' => ['\\', 'f']
  | '\r' => ['\\', 'r']
  | '\\' => ['\\', '\\']
  | c => if isVisible c then [c] else '\\' :: 'u' :: fourDigits c.toNat

/-- The text inside double quotes, after a number of quotes without a backslash. On several lines
two quotes in a row need none. -/
def Form.encode (f : Form) (quotes : Nat) : List Char → List Char
  | [] => []
  | '"' :: cs =>
    if f.isMulti && decide (quotes < 2) then '"' :: f.encode (quotes + 1) cs
    else '\\' :: '"' :: f.encode 0 cs
  | c :: cs => f.encodeChar c ++ f.encode 0 cs

/-- The quotes around a string. -/
def Form.delimiter (f : Form) : List Char := List.replicate (if f.isMulti then 3 else 1) f.quote

/-- A string in a form. The text begins on a line of its own if it has several. -/
def Form.write (f : Form) (cs : List Char) : List Char :=
  let start := if f.isMulti && cs.contains '\n' then ['\n'] else []
  let text := if f.escapes then f.encode 0 cs else cs
  f.delimiter ++ start ++ text ++ f.delimiter

/-! ## Settings -/

namespace Item

/-- Numbers, each on a line of its own. -/
def renderLines (ns : List Nat) : List Char :=
  ns.flatMap fun n => [' ', ' ', ' ', ' '] ++ Nat.toDigits 10 n ++ [',', '\n']

/-- An item as it is written. Two numbers or more stand on lines of their own. -/
def render : Item → List Char
  | .string s => (Form.forText s.toList).write s.toList
  | .number n => Nat.toDigits 10 n
  | .boolean b => (if b then "true" else "false").toList
  | .numbers [] => ['[', ']']
  | .numbers [n] => '[' :: Nat.toDigits 10 n ++ [']']
  | .numbers ns => '[' :: '\n' :: renderLines ns ++ [']']

end Item

/-- The lines of groups, with an empty line between any two of them. -/
def Group.spaced : List Group → List Line
  | [] => []
  | [g] => g.lines
  | g :: rest => g.lines ++ .empty g.name :: spaced rest

/-- A printer and a parser of TOML. -/
def Codec.builtin : Codec where
  print gs :=
    if ∀ g ∈ gs, g.Fits then
      some (String.ofList ((Group.spaced gs).flatMap (Line.render fun _ s => s.2.render)))
    else none
  parse := entriesOfText?

end ProxyBridge.Toml
