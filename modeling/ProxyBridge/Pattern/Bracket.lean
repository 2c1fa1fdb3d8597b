import ProxyBridge.Pattern.Escape

/-!
# Classes in brackets

A class lists characters, ranges of them and other classes. Two signs of a kind combine what stands
before them with what stands after them. Of a class that is read the depth is kept: how many
classes, lists and combinations lie one in another.

* `classItem?` — a character or a range.
* `bracket?` — a class.
-/

namespace ProxyBridge.Pattern

/-- The depth of parts side by side. A part alone is no list. -/
def beside : List Nat → Nat
  | [] => 0
  | [d] => d
  | ds => ds.foldl max 0 + 1

/-- The names of classes. -/
def classNames : List String :=
  ["alnum", "alpha", "ascii", "blank", "cntrl", "digit", "graph", "lower", "print", "punct",
   "space", "upper", "word", "xdigit"]

/-- A class by its name, after its opening bracket: whether it is a complement, and the text after
it. -/
def namedClass? : List Char → Option (Bool × List Char)
  | ':' :: cs =>
    let complement := cs.head? == some '^'
    let cs := if complement then cs.drop 1 else cs
    let name := cs.takeWhile (· != ':')
    match cs.drop name.length with
    | ':' :: ']' :: rest =>
      if classNames.contains (String.ofList name) then some (complement, rest) else none
    | _ => none
  | _ => none

/-- One end of a range, or an item that is none, and the text after it. -/
def classLetter? (m : Mode) : List Char → Option (Escape × List Char)
  | [] => none
  | '\\' :: cs => escape? m cs
  | c :: cs => some (.letter ⟨c, false⟩, cs)

/-- The text after a character, a range or a short class. A hyphen before a closing bracket or
before another hyphen makes no range. -/
def classItem? (m : Mode) (cs : List Char) : Option (List Char) :=
  match classLetter? m cs with
  | none => none
  | some (low, rest) =>
    let alone := match low with
      | .letter l => if m.admitsInClass l then some (m.skip rest) else none
      | .short complement => if m.admitsShort complement then some (m.skip rest) else none
      | _ => none
    match m.skip rest with
    | [] => none
    | '-' :: rest =>
      if m.glance rest = some ']' ∨ m.glance rest = some '-' then alone
      else
        match low, classLetter? m (m.skip rest) with
        | .letter l, some (.letter h, rest) =>
          if l.char ≤ h.char ∧ m.admitsInClass l ∧ m.admitsInClass h then some rest else none
        | _, _ => none
    | _ => alone

/-- How many hyphens the text begins with, whatever does not count between them, and the text from
where it counts after them. -/
def hyphens (m : Mode) (inComment : Bool) : List Char → Nat × List Char
  | [] => (0, [])
  | c :: cs =>
    if inComment then hyphens m (c != '\n') cs
    else if m.ignoresBlanks && CharClass.isBlank c then hyphens m false cs
    else if m.ignoresBlanks && c == '#' then hyphens m true cs
    else if c = '-' then
      let (n, rest) := hyphens m false cs
      (n + 1, rest)
    else (0, c :: cs)

/-- What stands at the beginning of a class, after its bracket: whether it is a complement, the
hyphens or the one closing bracket that are characters of the class, and the text after that. -/
def opening? (m : Mode) (cs : List Char) : Option (Bool × List Nat × List Char) :=
  let cs := m.skip cs
  let complement := cs.head? == some '^'
  let (n, rest) := hyphens m false (if complement then cs.drop 1 else cs)
  let (items, rest) := match n, rest with
    | 0, ']' :: rest => ([0], m.skip rest)
    | n, rest => (List.replicate n 0, rest)
  if m.admitsClass complement && (items.isEmpty || m.admitsInClass ⟨'-', false⟩) then
    some (complement, items, rest)
  else none

/-- The depth of what is combined so far with one more part. -/
def combine (before : Option Nat) (d : Nat) : Nat :=
  match before with
  | none => d
  | some b => max b d + 1

/-- The depth of the rest of a class, and the text after it. What stands before the last sign of
combination has a depth, and so has each item since. -/
def classRest? : (fuel : Nat) → Mode → (before : Option Nat) → (items : List Nat) → List Char →
    Option (Nat × List Char)
  | 0, _, _, _, _ => none
  | fuel + 1, m, before, items, cs =>
    match m.skip cs with
    | [] => none
    | ']' :: rest => some (combine before (beside items), rest)
    | '[' :: rest =>
      match namedClass? rest with
      | some (complement, rest) =>
        if m.admitsNamed complement then classRest? fuel m before (0 :: items) rest else none
      | none =>
        match opening? m rest with
        | none => none
        | some (_, first, rest) =>
          match classRest? fuel m none first rest with
          | none => none
          | some (d, rest) => classRest? fuel m before ((d + 1) :: items) rest
    | '&' :: '&' :: rest | '-' :: '-' :: rest | '~' :: '~' :: rest =>
      classRest? fuel m (some (combine before (beside items))) [] rest
    | cs =>
      match classItem? m cs with
      | none => none
      | some rest => classRest? fuel m before (0 :: items) rest

/-- The depth of a class, after its opening bracket, and the text after it. -/
def bracket? (m : Mode) (cs : List Char) : Option (Nat × List Char) :=
  match opening? m cs with
  | none => none
  | some (_, first, rest) =>
    (classRest? (rest.length + 1) m none first rest).map fun r => (r.1 + 1, r.2)

end ProxyBridge.Pattern
