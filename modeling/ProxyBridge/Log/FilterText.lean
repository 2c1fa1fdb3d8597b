import ProxyBridge.Log.Filter
import ProxyBridge.Pattern.Reader

/-!
# Filters as text

A filter as a text is a list of directives between commas. A directive is a level alone, or a
target, brackets and an equals sign with a level; the parts may be missing. The brackets hold the
name of a span or, in braces, a field that can have a pattern for its value.

A program takes the reader of its filters from outside; this is the one that it is run with.

* `Directive.ofText?` — a directive from its text.
* `Filter.parse?` — a filter from its text.
-/

namespace ProxyBridge

namespace Directive

/-! ## Levels as text -/

/-- A whole number, which can have a plus sign. -/
def wholeOfText? (cs : List Char) : Option Nat :=
  let digits := match cs with
    | '+' :: ds => ds
    | ds => ds
  if digits ≠ [] ∧ digits.all (Digits.isDigit 10) then some (Digits.toNat 10 digits) else none

/-- A level in a directive: a name in any mixture of cases, `off`, or a number from nothing (0) to
everything (5). -/
def maxOfText? (cs : List Char) : Option (Option Level) :=
  let name := (String.ofList cs).toLower
  if name = "off" ∨ wholeOfText? cs = some 0 then some none
  else
    (Level.all.find? fun l => l.lowerName = name ∨ wholeOfText? cs = some l.verbosity).map some

/-! ## Brackets -/

/-- The text after its decimal digits is empty, or it is an exponent. -/
def endsNumeral (cs : List Char) : Bool :=
  match cs.dropWhile (Digits.isDigit 10) with
  | [] => true
  | e :: exponent =>
    let digits := match exponent with
      | '+' :: ds | '-' :: ds => ds
      | ds => ds
    (e == 'e' || e == 'E') && !digits.isEmpty && digits.all (Digits.isDigit 10)

/-- The text is a number without a sign: digits with at most one point among them and maybe an
exponent, infinity, or not a number at all. -/
def isNumeral (cs : List Char) : Bool :=
  let whole := cs.takeWhile (Digits.isDigit 10)
  ["inf", "infinity", "nan"].contains (String.ofList cs).toLower ||
    match cs.drop whole.length with
    | '.' :: rest =>
      (whole != [] || (rest.head?.any (Digits.isDigit 10))) && endsNumeral rest
    | rest => whole != [] && endsNumeral rest

/-- The text can be tested for as the value of a field: a number or a pattern. Numbers without a
plus sign are patterns as well. -/
def isValue : List Char → Bool
  | '+' :: cs => isNumeral cs
  | cs => Pattern.isPattern cs

/-- A field in braces: a name, or a name with a value behind an equals sign. What comes behind a
second equals sign is passed over. -/
def fieldScope? (cs : List Char) : Option Scope :=
  let name := cs.takeWhile (· != '=')
  if cs = [] then none
  else
    match cs.drop name.length with
    | [] => some (.field (String.ofList name))
    | _ :: value => if isValue (value.takeWhile (· != '=')) then some .inSpan else none

/-! ## Places in a text -/

/-- The number of bytes of a text. -/
def byteSize (cs : List Char) : Nat := cs.foldl (fun n c => n + c.utf8Size) 0

/-- The text without so many bytes at its beginning. -/
def dropBytes : Nat → List Char → List Char
  | 0, cs => cs
  | _ + 1, [] => []
  | n + 1, c :: cs => dropBytes (n + 1 - c.utf8Size) cs

/-- So many bytes at the beginning of the text. -/
def takeBytes : Nat → List Char → List Char
  | 0, _ => []
  | _ + 1, [] => []
  | n + 1, c :: cs => c :: takeBytes (n + 1 - c.utf8Size) cs

/-- A text without the blanks at both of its ends. -/
def trim (cs : List Char) : List Char :=
  ((cs.dropWhile CharClass.isBlank).reverse.dropWhile CharClass.isBlank).reverse

/-! ## Directives as text -/

/-- The places of the parts of a directive, counted in bytes. -/
structure Layout where
  /-- The number of bytes of the target, which comes first. -/
  target : Nat
  /-- The brackets hold the name of a span. -/
  hasSpan : Bool
  /-- Where a field begins, and its number of bytes. -/
  field : Option (Nat × Nat)
  /-- Where the level begins, behind an equals sign. -/
  level : Option Nat
deriving DecidableEq, Repr

namespace Layout

/-- The places after the brackets: nothing, or an equals sign and a level. -/
def close? (target at' : Nat) (hasSpan : Bool) (field : Option (Nat × Nat)) :
    List Char → Option Layout
  | [] => some ⟨target, hasSpan, field, none⟩
  | '=' :: _ => some ⟨target, hasSpan, field, some (at' + 1)⟩
  | _ => none

/-- The places in brackets and after them; the text is that behind the opening bracket, which comes
right after the target. -/
def bracketed? (target : Nat) (cs : List Char) : Option Layout :=
  let span := cs.takeWhile fun c => c != ']' && c != '\x7b'
  let spanEnd := target + 1 + byteSize span
  match cs.drop span.length with
  | ']' :: rest => close? target (spanEnd + 1) true none rest
  | '\x7b' :: rest =>
    let field := rest.takeWhile (· != '\x7d')
    match rest.drop field.length with
    | _ :: ']' :: after =>
      close? target (spanEnd + 1 + byteSize field + 2) (span != [])
        (some (spanEnd + 1, byteSize field)) after
    | _ => none
  | _ => none

/-- The character may be the first one of a directive without brackets in front. -/
def isInitial (c : Char) : Bool := "-:_".toList.contains c || CharClass.isAlphanumeric c

/-- The places of the parts of a directive that has no blanks at its ends. -/
def ofText? (cs : List Char) : Option Layout :=
  let target := cs.takeWhile fun c => c != '=' && c != '['
  if cs.head?.any fun c => c == '[' || isInitial c then
    match cs.drop target.length with
    | '[' :: rest => bracketed? (byteSize target) rest
    | _ :: _ => some ⟨byteSize target, false, none, some (byteSize target + 1)⟩
    | [] => some ⟨byteSize target, false, none, none⟩
  else none

/-- What the brackets of a directive say. -/
def scope? (l : Layout) (cs : List Char) : Option Scope :=
  match l.field with
  | none => some (if l.hasSpan then .inSpan else .all)
  | some (start, size) =>
    (fieldScope? (takeBytes size (dropBytes start cs))).map fun s =>
      if l.hasSpan then .inSpan else s

end Layout

/-- A directive from its text. Without a level everything passes; a text that is no more than a
level is for every target. The places of the parts are found without the blanks at the ends, but
the parts are taken from the text with them: after a blank in front they are not what they seem. -/
def ofText? (s : String) : Option Directive :=
  let cs := s.toList
  match Layout.ofText? (trim cs) with
  | none => none
  | some l =>
    match l.scope? cs with
    | none => none
    | some scope =>
      let target := String.ofList (takeBytes l.target cs)
      match l.level with
      | some start =>
        let level := dropBytes start cs
        if level = [] then some ⟨target, scope, some .trace⟩
        else (maxOfText? level).map fun max => ⟨target, scope, max⟩
      | none =>
        if l.hasSpan ∨ l.field.isSome then some ⟨target, scope, some .trace⟩
        else
          match maxOfText? cs with
          | some max => some ⟨"", .all, max⟩
          | none => some ⟨s, .all, some .trace⟩

end Directive

namespace Filter

/-- The filter without directives of its own: errors only. -/
def errorsOnly : Filter := [⟨"", .all, some .error⟩]

/-- A filter from its text; one directive that is invalid makes the whole text invalid. -/
def parse? (s : String) : Option Filter :=
  match (s.splitOn ",").filter (· ≠ "") with
  | [] => some errorsOnly
  | parts => parts.mapM Directive.ofText?

end Filter

end ProxyBridge
