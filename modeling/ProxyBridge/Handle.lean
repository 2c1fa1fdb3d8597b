import ProxyBridge.Text.Outline

/-!
# Names of foreign values and of their members

A **handle** names a foreign value, a **tag** says which kind of value it is, and a **key** names a
member of it: by a string, or by one of two protocol symbols. Named keys come before symbols, and
among themselves in the order of their code points; that is the order in which members are listed
and released.
-/

namespace ProxyBridge

/-- The name of a foreign value. Copying a handle takes no reference. -/
structure Handle where
  id : Nat
deriving DecidableEq, Repr

namespace Handle

instance : Ord Handle where
  compare a b := compare a.id b.id

/-- The value `undefined`, present in every table. -/
def undefined : Handle := ⟨1⟩

/-- Handles are written with a number sign. -/
def text (h : Handle) : String := "#" ++ toString h.id

/-- The outline of a handle. -/
def outline (h : Handle) : String := Outline.tuple "RawHandle" [toString h.id]

end Handle

/-- The structural kind of a foreign value. -/
inductive Tag where
  | undefined | null | boolean | number | bigInt | string | symbol | function | object
  | array | typedArray | arrayBuffer | dataView | error | generator | asyncGenerator | nodeList
  /-- A foreign wrapper around a host object on its way back to the host. -/
  | hostProxy
deriving DecidableEq, Repr

namespace Tag

/-- Every tag with its written name. -/
def table : List (Tag × String) :=
  [(.undefined, "Undefined"), (.null, "Null"), (.boolean, "Boolean"), (.number, "Number"),
   (.bigInt, "BigInt"), (.string, "String"), (.symbol, "Symbol"), (.function, "Function"),
   (.object, "Object"), (.array, "Array"), (.typedArray, "TypedArray"),
   (.arrayBuffer, "ArrayBuffer"), (.dataView, "DataView"), (.error, "Error"),
   (.generator, "Generator"), (.asyncGenerator, "AsyncGenerator"), (.nodeList, "NodeList"),
   (.hostProxy, "HostProxy")]

/-- The written name of a tag. -/
def name (t : Tag) : String := ((table.find? fun entry => entry.1 = t).map (·.2)).getD ""

/-- The tag with a given name. -/
def ofName? (s : String) : Option Tag := (table.find? fun entry => entry.2 = s).map (·.1)

end Tag

/-- The protocol symbols. -/
inductive Symbol where
  | iterator
  | asyncIterator
deriving DecidableEq, Repr

namespace Symbol

/-- The name of a symbol. -/
def name : Symbol → String
  | .iterator => "Iterator"
  | .asyncIterator => "AsyncIterator"

/-- The position of a symbol among the symbols. -/
def rank : Symbol → Nat
  | .iterator => 0
  | .asyncIterator => 1

end Symbol

/-- The name of a member. -/
inductive Key where
  | named (name : String)
  | symbol (s : Symbol)
deriving DecidableEq, Repr

namespace Key

/-- Named keys by code points, then the symbols. -/
def order : Key → Key → Ordering
  | .named a, .named b => compare a b
  | .named _, .symbol _ => .lt
  | .symbol _, .named _ => .gt
  | .symbol a, .symbol b => compare a.rank b.rank

instance : Ord Key := ⟨order⟩

/-- The string of a named key. -/
def name? : Key → Option String
  | .named name => some name
  | .symbol _ => none

/-- A key as messages show it. -/
def text : Key → String
  | .named name => name
  | .symbol .iterator => "[Symbol.iterator]"
  | .symbol .asyncIterator => "[Symbol.asyncIterator]"

/-- The outline of a key. -/
def outline : Key → String
  | .named name => Outline.tuple "Named" [Outline.text name]
  | .symbol s => Outline.tuple "Symbol" [s.name]

end Key

end ProxyBridge
