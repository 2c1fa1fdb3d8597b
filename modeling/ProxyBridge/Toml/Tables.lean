import ProxyBridge.Toml.Value

/-!
# Tables

How assignments and headers build the table that a document stands for. A name gets one value only,
and a table is begun once: what its own text has completed, no other part of the text may extend.

* An assignment through a dotted key makes the tables on its way, and passes only through such.
* A header makes the tables above its own, and passes through every table and, in an array of
  tables, through the last one.
* A header names a table that did not exist, or that a header below it implied.

`Document.entries?` is the table of a document that keeps these rules.
-/

namespace ProxyBridge.Toml

/-- Changes the table at the end of a path. Tables that are missing on the way are made, with the
given origin. -/
def extend (made : Origin) (change : Origin → Entries → Option Entries) :
    List String → Origin → Entries → Option Entries
  | [], origin, es => change origin es
  | name :: path, _, es =>
    match Dict.find? name es with
    | none => do
      let sub ← extend made change path made []
      return Dict.insert name (.table made sub) es
    | some (.table origin sub) =>
      if made = .dotted ∧ origin = .header then none
      else do
        let sub ← extend made change path origin sub
        return Dict.insert name (.table origin sub) es
    | some (.tables earlier last) => do
      let last ← extend made change path .header last
      return Dict.insert name (.tables earlier last) es
    | some _ => none

/-- The path and the name that a key consists of. -/
def splitKey (key : List String) : List String × String := (key.dropLast, key.getLastD "")

/-- Places a value in a table. -/
def assign (es : Entries) (a : Assignment) : Option Entries :=
  let (path, name) := splitKey a.path
  extend .dotted
    (fun origin es =>
      if (path ≠ [] ∧ origin ≠ .dotted) ∨ Dict.contains es name then none
      else some (Dict.insert name a.value es))
    path .header es

/-- Places values in a table one after another. -/
def assignAll (es : Entries) (body : List Assignment) : Option Entries := body.foldlM assign es

/-- The table in braces with the given content. -/
def inlineTable? (body : List Assignment) : Option Value := (assignAll [] body).map .inline

/-- Places the table of a section. -/
def addSection (es : Entries) (s : Section) : Option Entries :=
  let (path, name) := splitKey s.path
  extend .implied
    (fun _ es =>
      match s.heading, Dict.find? name es with
      | .table, none => do
        return Dict.insert name (.table .header (← assignAll [] s.body)) es
      | .table, some (.table .implied sub) => do
        return Dict.insert name (.table .header (← assignAll sub s.body)) es
      | .element, none => do
        return Dict.insert name (.tables [] (← assignAll [] s.body)) es
      | .element, some (.tables earlier last) => do
        return Dict.insert name (.tables (earlier ++ [last]) (← assignAll [] s.body)) es
      | _, _ => none)
    path .header es

/-- The table that a document stands for. -/
def Document.entries? (d : Document) : Option Entries := do
  d.sections.foldlM addSection (← assignAll [] d.preamble)

end ProxyBridge.Toml
