import ProxyBridge.Dict
import ProxyBridge.Double.Shortest
import ProxyBridge.Error

/-!
# Foreign values

What a table of foreign values stores. A value has a tag, members, perhaps a body that runs when
it is called, and perhaps a number. A member is data, or foreign code that runs on every read.
Foreign code is an abstract type here: objects carry it about, and only an interpreter runs it.

* `Value` — what foreign code returns and a read of a member yields.
* `Object.owned` — the references that an object holds.
-/

namespace ProxyBridge

/-- The result of foreign code or of a read. A handle carries a reference to whoever gets it. -/
inductive Value where
  | undefined
  | number (x : Double)
  | handle (h : Handle)
deriving DecidableEq, Repr

namespace Value

/-- The outline of a value. -/
def outline : Value → String
  | .undefined => "Undefined"
  | .number x => Outline.tuple "Number" [x.text]
  | .handle h => Outline.tuple "Handle" [h.outline]

end Value

/-- A member of a foreign value. -/
inductive Member (Code : Type) where
  /-- Stored data. A handle in it is a reference that the object owns. -/
  | data (v : Value)
  /-- Foreign code that computes the member on every read. -/
  | accessor (getter : Code)
deriving DecidableEq

namespace Member

variable {Code : Type}

/-- The reference that a member holds. -/
def owned? : Member Code → Option Handle
  | .data (.handle h) => some h
  | _ => none

/-- The outline of a member; code is not shown. -/
def outline : Member Code → String
  | .data v => Outline.tuple "Data" [v.outline]
  | .accessor _ => "Accessor(..)"

end Member

/-- A foreign value as the table stores it. -/
structure Object (Code : Type) where
  tag : Tag
  members : Dict Key (Member Code)
  /-- The code that runs when the value is called. -/
  body : Option Code
  number : Option Double
deriving DecidableEq

namespace Object

variable {Code : Type}

/-- A value with a tag and nothing else. -/
def ofTag (tag : Tag) : Object Code := { tag, members := [], body := none, number := none }

/-- An ordinary object without members. -/
def plain : Object Code := ofTag .object

/-- A function. -/
def function (body : Code) : Object Code := { ofTag .function with body := some body }

/-- A number as a value of its own. -/
def ofNumber (x : Double) : Object Code := { ofTag .number with number := some x }

/-- The object with a member stored; no reference is taken or given back. -/
def withMember (o : Object Code) (k : Key) (m : Member Code) : Object Code :=
  { o with members := o.members.insert k m }

/-- The object may be used as a method: it has a body, or is a function by its tag. -/
def isMethod (o : Object Code) : Bool := o.body.isSome || o.tag == .function

/-- The references the object holds, in the order of its keys. -/
def owned (o : Object Code) : List Handle := o.members.values.filterMap Member.owned?

/-- The names of the named members, in order. -/
def memberNames (o : Object Code) : List String := o.members.keys.filterMap Key.name?

/-- The outline of an object. -/
def outline (o : Object Code) : String :=
  Outline.record "ForeignObject"
    [("tag", o.tag.name),
     ("properties", Outline.map (o.members.map fun m => (m.1.outline, m.2.outline))),
     ("callable", Outline.bool o.body.isSome),
     ("number", Outline.option (o.number.map Double.text))]

end Object

end ProxyBridge
