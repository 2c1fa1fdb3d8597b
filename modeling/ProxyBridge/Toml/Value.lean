import ProxyBridge.Dict

/-!
# TOML values

What a TOML text can say. Settings are strings, whole numbers, truth values, and arrays and tables
of them; of the floats and dates, which no setting is, only the kind is kept.

A table that is not in braces may grow after it was begun. How it may depends on where it came
from, so tables remember their `Origin`.
-/

namespace ProxyBridge.Toml

/-- Where a table came from. -/
inductive Origin where
  /-- A header names the table. -/
  | header
  /-- A header names a table below it. -/
  | implied
  /-- A dotted key passes through it. -/
  | dotted
deriving DecidableEq, Repr

/-- A value, or a table under construction. -/
inductive Value where
  | string (s : String)
  | integer (n : Int)
  | boolean (b : Bool)
  | float
  | date
  | array (items : List Value)
  /-- A table in braces, which is complete. -/
  | inline (entries : List (String × Value))
  | table (origin : Origin) (entries : List (String × Value))
  /-- Tables under headers in double brackets; the last one may grow. -/
  | tables (earlier : List (List (String × Value))) (last : List (String × Value))

/-- The content of a table. Its keys are in order, whatever order the text has them in. -/
abbrev Entries := Dict String Value

/-- A value that is placed by a key, which is a path of names. -/
structure Assignment where
  path : List String
  value : Value

/-- What a header begins. -/
inductive Heading where
  /-- A table. -/
  | table
  /-- One more table of an array. -/
  | element
deriving DecidableEq, Repr

/-- A header with the assignments up to the next one. -/
structure Section where
  heading : Heading
  path : List String
  body : List Assignment

/-- A text as it stands: the assignments before the first header, and the sections. -/
structure Document where
  preamble : List Assignment
  sections : List Section

/-- The most names in a key, and the deepest nesting of arrays and tables in one value. -/
def depthLimit : Nat := 79

/-- The greatest integer. -/
def maxInteger : Nat := 1 <<< 63 - 1

end ProxyBridge.Toml
