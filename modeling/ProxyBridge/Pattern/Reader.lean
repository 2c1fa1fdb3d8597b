import ProxyBridge.Pattern.Bracket

/-!
# Reading patterns

Whether a text is a pattern. The text has no comma and no equals sign, and a closing brace in it
closes nothing; so no count of repetitions is ever complete, and an opening brace that is neither
escaped nor in a class makes the text no pattern.

* `groupOpening?` — the beginning of a group.
* `body?` — what stands in a group.
* `isPattern` — the text is a pattern.
-/

namespace ProxyBridge.Pattern

/-! ## Groups -/

/-- The beginning of a group. -/
inductive GroupOpening where
  /-- A group, the mode inside it, and its name. -/
  | group (m : Mode) (name : Option String)
  /-- No group: the mode from here on in the group around it. -/
  | setting (m : Mode)
deriving DecidableEq, Repr

/-- The flags of a group, and the text after them. None occurs twice, and neither does the minus
sign, which turns off the flags behind it and is not the last. Flags without a group are not
empty. -/
def groupFlags? (m : Mode) (on : Bool) (seen : List Char) :
    List Char → Option (GroupOpening × List Char)
  | [] => none
  | ':' :: cs => if seen.head? = some '-' then none else some (.group m none, cs)
  | ')' :: cs => if seen.head? = some '-' ∨ seen = [] then none else some (.setting m, cs)
  | c :: cs =>
    if seen.contains c then none
    else if c = '-' then groupFlags? m false (c :: seen) cs
    else if Mode.flags.contains c then groupFlags? (m.set c on) on (c :: seen) cs
    else none

/-- A character may stand in the name of a group, though not as the first. -/
def isNameChar (c : Char) : Bool :=
  c == '_' || c == '.' || c == '[' || c == ']' || CharClass.isAlphanumeric c

/-- The name of a group, and the text after its angle bracket. -/
def groupName? (cs : List Char) : Option (String × List Char) :=
  let name := cs.takeWhile (· != '>')
  match name, cs.drop name.length with
  | first :: others, _ :: rest =>
    if (first == '_' || CharClass.isAlphabetic first) && others.all isNameChar then
      some (String.ofList name, rest)
    else none
  | _, _ => none

/-- The beginning of a group, after its parenthesis, and the text after it. -/
def groupOpening? (m : Mode) (cs : List Char) : Option (GroupOpening × List Char) :=
  match m.skip cs with
  | '?' :: 'P' :: '<' :: cs | '?' :: '<' :: cs =>
    (groupName? cs).map fun r => (.group m (some r.1), r.2)
  | '?' :: cs => groupFlags? m true [] cs
  | cs => some (.group m none, cs)

/-! ## Bodies -/

/-- A part of a pattern that was read. -/
structure Piece where
  /-- How many groups, repetitions, classes and lists lie one in another. -/
  depth : Nat
  /-- The part can be repeated; flags cannot. -/
  repeatable : Bool
deriving DecidableEq, Repr

/-- The depth of branches with parts; the last branch and the last part come first. -/
def depthOf (branches : List Nat) (pieces : List Piece) : Nat :=
  beside (beside (pieces.map Piece.depth) :: branches)

/-- What is known in the middle of a body. -/
structure Progress where
  mode : Mode
  /-- The names of all groups so far. -/
  names : List String
  /-- The depths of the branches that are complete. -/
  branches : List Nat
  /-- The parts of the branch that is not, the last one first. -/
  pieces : List Piece

namespace Progress

/-- A body at its beginning. -/
def start (m : Mode) (names : List String) : Progress := ⟨m, names, [], []⟩

/-- One more part. -/
def add (p : Progress) (depth : Nat) : Progress :=
  { p with pieces := ⟨depth, true⟩ :: p.pieces }

end Progress

/-- The name is free, or there is none. -/
def isFree (names : List String) (name : Option String) : Bool := !name.any names.contains

/-- The rest of a body: its depth, the names of all groups, and the text from its end on, which is a
closing parenthesis or nothing. -/
def body? : (fuel : Nat) → Progress → List Char → Option (Nat × List String × List Char)
  | 0, _, _ => none
  | fuel + 1, p, cs =>
    match p.mode.skip cs with
    | [] => some (depthOf p.branches p.pieces, p.names, [])
    | ')' :: rest => some (depthOf p.branches p.pieces, p.names, ')' :: rest)
    | '|' :: rest =>
      body? fuel
        { p with branches := beside (p.pieces.map Piece.depth) :: p.branches, pieces := [] } rest
    | '(' :: rest =>
      match groupOpening? p.mode rest with
      | none => none
      | some (.setting mode, rest) =>
        body? fuel { p with mode, pieces := ⟨0, false⟩ :: p.pieces } rest
      | some (.group mode name, rest) =>
        if isFree p.names name then
          match body? fuel (.start mode (name.toList ++ p.names)) rest with
          | some (depth, names, ')' :: rest) => body? fuel ({ p with names }.add (depth + 1)) rest
          | _ => none
        else none
    | '[' :: rest =>
      match bracket? p.mode rest with
      | none => none
      | some (depth, rest) => body? fuel (p.add depth) rest
    | '\\' :: rest =>
      match escape? p.mode rest with
      | none => none
      | some (e, rest) =>
        let admitted := match e with
          | .letter l => p.mode.admits l
          | .short complement => p.mode.admitsShort complement
          | .edge => true
          | .wordEdge => p.mode.admitsWordEdge
        if admitted then body? fuel (p.add 0) rest else none
    | c :: rest =>
      if c = '*' ∨ c = '+' ∨ c = '?' then
        match p.pieces with
        | ⟨depth, true⟩ :: pieces =>
          let rest := if rest.head? = some '?' then rest.drop 1 else rest
          body? fuel ({ p with pieces }.add (depth + 1)) rest
        | _ => none
      else if c = '\x7b' then none
      else
        let admitted :=
          if c = '.' then p.mode.admitsAny
          else c == '^' || c == '$' || p.mode.admits ⟨c, false⟩
        if admitted then body? fuel (p.add 0) rest else none

/-- The depth that a pattern may have. -/
def maxNesting : Nat := 250

/-- The text is a pattern. -/
def isPattern (cs : List Char) : Bool :=
  match body? (cs.length + 1) (.start {} []) cs with
  | some (depth, _, []) => depth ≤ maxNesting
  | _ => false

end ProxyBridge.Pattern
