import ProxyBridge.Toml.Value

/-!
# Settings as TOML

Settings are written in groups, each under its header, one setting to a line. This is what is said
of TOML as a format; who prints the texts and who parses them is left open. A `Codec` is a printer
and a parser, and a lawful one keeps to the format, with integers of 64 bits.

* `Layout` — how a text with the settings of groups is put together.
* `Group.tables` — the table that such a text stands for.
* `Codec.Lawful` — a printer and a parser that keep to the format.
-/

namespace ProxyBridge.Toml

/-! ## Settings -/

/-- The value of a setting. -/
inductive Item where
  | string (s : String)
  | number (n : Nat)
  | boolean (b : Bool)
  | numbers (ns : List Nat)
deriving DecidableEq, Repr

namespace Item

/-- The value that an item is. -/
def value : Item → Value
  | .string s => .string s
  | .number n => .integer n
  | .boolean b => .boolean b
  | .numbers ns => .array (ns.map fun n => .integer (Int.ofNat n))

/-- All numbers of an item are integers of the format, which have 64 bits with their sign. -/
def Fits : Item → Prop
  | .number n => n ≤ maxInteger
  | .numbers ns => ∀ n ∈ ns, n ≤ maxInteger
  | .string _ | .boolean _ => True

instance : DecidablePred Fits
  | .number n => inferInstanceAs (Decidable (n ≤ maxInteger))
  | .numbers ns => inferInstanceAs (Decidable (∀ n ∈ ns, n ≤ maxInteger))
  | .string _ | .boolean _ => inferInstanceAs (Decidable True)

end Item

/-- A character of a name without quotes. -/
def isBare (c : Char) : Bool := c.isAlphanum || c == '-' || c == '_'

/-- The name can do without quotes. -/
structure Bare (name : String) : Prop where
  nonempty : name.toList ≠ []
  bare : ∀ c ∈ name.toList, isBare c = true

instance (name : String) : Decidable (Bare name) :=
  decidable_of_iff ((!name.toList.isEmpty && name.toList.all isBare) = true) <| by
    rw [Bool.and_eq_true, Bool.not_eq_true', List.isEmpty_eq_false_iff, List.all_eq_true]
    exact ⟨fun ⟨h₁, h₂⟩ => ⟨h₁, h₂⟩, fun ⟨h₁, h₂⟩ => ⟨h₁, h₂⟩⟩

/-- Settings under one header. -/
structure Group where
  name : String
  settings : List (String × Item)
deriving DecidableEq, Repr

namespace Group

/-- The names can do without quotes, and no setting occurs twice. -/
structure Plain (g : Group) : Prop where
  name : Bare g.name
  settings : ∀ s ∈ g.settings, Bare s.1
  distinct : (g.settings.map (·.1)).Nodup

/-- Groups of their own, each of them plain. -/
structure Proper (gs : List Group) : Prop where
  plain : ∀ g ∈ gs, g.Plain
  distinct : (gs.map (·.name)).Nodup

/-- All numbers of the settings are integers of the format. -/
def Fits (g : Group) : Prop := ∀ s ∈ g.settings, s.2.Fits

instance : DecidablePred Fits := fun g => inferInstanceAs (Decidable (∀ s ∈ g.settings, s.2.Fits))

/-- The table of the settings. -/
def table (g : Group) : Entries := Dict.insertAll [] (g.settings.map fun s => (s.1, s.2.value))

/-- The table of the groups. -/
def tables (gs : List Group) : Entries :=
  Dict.insertAll [] (gs.map fun g => (g.name, .table .header g.table))

end Group

/-! ## Texts -/

/-- A line of a text, with the name of the group that it belongs to. The value of a setting may go
on over further lines; they count as one. -/
inductive Line where
  | header (group : String)
  | setting (group : String) (s : String × Item)
  | empty (group : String)

namespace Line

/-- Nothing is on the line. -/
def isEmpty : Line → Bool
  | empty _ => true
  | _ => false

/-- The line as it is written, if the values of settings are written in some way. -/
def render (write : String → String × Item → List Char) : Line → List Char
  | header group => '[' :: group.toList ++ [']', '\n']
  | setting group s => s.1.toList ++ [' ', '=', ' '] ++ write group s ++ ['\n']
  | empty _ => ['\n']

end Line

/-- The lines of a group. -/
def Group.lines (g : Group) : List Line := .header g.name :: g.settings.map (.setting g.name)

variable {Denotes : List Char → Value → Prop} {gs : List Group}

/-- How a text is put together that has the settings of groups: it has the lines of one group after
the other, with empty lines wherever it likes, and what it writes for a value denotes the value. -/
structure Layout (Denotes : List Char → Value → Prop) (gs : List Group) where
  lines : List Line
  write : String → String × Item → List Char
  content : lines.filter (!·.isEmpty) = gs.flatMap Group.lines
  denotes : ∀ g ∈ gs, ∀ s ∈ g.settings, Denotes (write g.name s) s.2.value

/-- The text of a layout. -/
def Layout.text (l : Layout Denotes gs) : String :=
  String.ofList (l.lines.flatMap (Line.render l.write))

/-! ## Printers and parsers -/

/-- A printer and a parser of texts. -/
structure Codec where
  /-- The text of groups of settings, if they have one. -/
  print : List Group → Option String
  /-- The table that a text stands for, if it is a text of the format. -/
  parse : String → Option Entries

/-- The printer and the parser keep to a format, which says what the texts of values denote. -/
structure Codec.Lawful (toml : Codec) (Denotes : List Char → Value → Prop) : Prop where
  /-- What is printed is laid out with a line for each header and for each setting. -/
  prints : ∀ gs, Group.Proper gs → (∀ g ∈ gs, g.Fits) →
    ∃ l : Layout Denotes gs, toml.print gs = some l.text
  /-- A number that is no integer of the format cannot be printed. -/
  refuses : ∀ gs, Group.Proper gs → (¬ ∀ g ∈ gs, g.Fits) → toml.print gs = none
  /-- A text that is laid out so is read as the table of its groups. -/
  parses : ∀ gs, Group.Proper gs → ∀ l : Layout Denotes gs,
    toml.parse l.text = some (Group.tables gs)

end ProxyBridge.Toml
