import ProxyBridge.Error
import ProxyBridge.Slots

/-!
# Capabilities

A capability is a protocol that a foreign value can support, and has one bit of a mask. Twenty bits
have names; the other twelve are free for capabilities that a client registers. A `Capability` also
says how the protocol is detected, which earlier findings its probe depends on, and which host
slots it brings.

* `Probe` — the ways to detect a capability.
* `Capability.applicable` — whether earlier findings let a probe run.
-/

namespace ProxyBridge

/-- A set of capabilities. -/
abbrev Capabilities := Mask

namespace Capabilities

def callable : Capabilities := Mask.bit 0
def hasLength : Capabilities := Mask.bit 1
def hasGet : Capabilities := Mask.bit 2
def hasSet : Capabilities := Mask.bit 3
def hasHas : Capabilities := Mask.bit 4
def hasIncludes : Capabilities := Mask.bit 5
def iterable : Capabilities := Mask.bit 6
def asyncIterable : Capabilities := Mask.bit 7
def iterator : Capabilities := Mask.bit 8
def asyncIterator : Capabilities := Mask.bit 9
def awaitable : Capabilities := Mask.bit 10
def buffer : Capabilities := Mask.bit 11
def array : Capabilities := Mask.bit 12
def typedArray : Capabilities := Mask.bit 13
def nodeList : Capabilities := Mask.bit 14
def generator : Capabilities := Mask.bit 15
def asyncGenerator : Capabilities := Mask.bit 16
def error : Capabilities := Mask.bit 17
def doubleProxy : Capabilities := Mask.bit 18
/-- Never detected; asked for when a value is wrapped as a map of its own members. -/
def objectMap : Capabilities := Mask.bit 19

/-- The names of the capabilities. -/
def naming : Mask.Naming :=
  [(callable, "CALLABLE"), (hasLength, "HAS_LENGTH"), (hasGet, "HAS_GET"), (hasSet, "HAS_SET"),
   (hasHas, "HAS_HAS"), (hasIncludes, "HAS_INCLUDES"), (iterable, "ITERABLE"),
   (asyncIterable, "ASYNC_ITERABLE"), (iterator, "ITERATOR"), (asyncIterator, "ASYNC_ITERATOR"),
   (awaitable, "AWAITABLE"), (buffer, "BUFFER"), (array, "ARRAY"), (typedArray, "TYPED_ARRAY"),
   (nodeList, "NODE_LIST"), (generator, "GENERATOR"), (asyncGenerator, "ASYNC_GENERATOR"),
   (error, "ERROR"), (doubleProxy, "DOUBLE_PROXY"), (objectMap, "OBJECT_MAP")]

/-- The outline of a set of capabilities. -/
def outline (c : Capabilities) : String := "CapabilityFlags(" ++ Mask.render naming c ++ ")"

end Capabilities

/-- Probes that weigh what was detected before they ask about the value. -/
inductive Rule where
  /-- Either `size` is a number, or `length` is one and the value is not callable: the `length` of a
  function counts its parameters. -/
  | measured
  /-- There is a `next`, and iteration is synchronous or of no declared kind. -/
  | syncStep
  /-- There is a `next`, and iteration is asynchronous or of no declared kind. -/
  | asyncStep
deriving DecidableEq, Repr

/-- How a capability is detected. -/
inductive Probe (Code : Type) where
  /-- The tag of the value is one of these. -/
  | tag (tags : List Tag)
  /-- The member is a method. -/
  | method (key : Key)
  /-- One of the named members is a number. -/
  | numeric (names : List String)
  /-- A rule of the standard catalog. -/
  | rule (r : Rule)
  /-- Code of the client answers. -/
  | custom (code : Code)
  /-- Not detected at all. -/
  | explicit
deriving DecidableEq

namespace Probe

variable {Code : Type}

/-- The probe never runs. -/
def isExplicit : Probe Code → Bool
  | .explicit => true
  | _ => false

/-- The outline of a probe; rules and code are not shown. -/
def outline : Probe Code → String
  | .tag tags => Outline.tuple "Tag" [Outline.list (tags.map Tag.name)]
  | .method key => Outline.tuple "Method" [key.outline]
  | .numeric names => Outline.tuple "NumericProperty" [Outline.list (names.map Outline.text)]
  | .rule _ | .custom _ => "Custom(..)"
  | .explicit => "Explicit"

end Probe

/-- One capability of a catalog. -/
structure Capability (Code : Type) where
  /-- The bit of the capability. -/
  flag : Capabilities
  name : String
  probe : Probe Code
  /-- The host slots that a proxy with the capability installs. -/
  slots : Slots
  /-- The name that the capability gives to shapes, if it gives one. -/
  typeName : Option String := none
  /-- The probe runs only after all of these were detected. -/
  requires : Capabilities := 0#32
  /-- The probe does not run after any of these was detected. -/
  excludes : Capabilities := 0#32

namespace Capability

variable {Code : Type}

/-- What was detected so far lets the probe run. -/
def applicable (c : Capability Code) (detected : Capabilities) : Bool :=
  detected.includes c.requires && !detected.meets c.excludes

/-- The outline of a capability. -/
def outline (c : Capability Code) : String :=
  Outline.record "CapabilityDef"
    [("flag", Capabilities.outline c.flag), ("name", Outline.text c.name),
     ("probe", c.probe.outline), ("requires", Capabilities.outline c.requires),
     ("excludes", Capabilities.outline c.excludes), ("slots", Slots.outline c.slots),
     ("type_name", Outline.option (c.typeName.map Outline.text))]

end Capability

end ProxyBridge
