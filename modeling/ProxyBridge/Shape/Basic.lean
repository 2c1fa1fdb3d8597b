import ProxyBridge.Capability.Catalog

/-!
# Shapes

A shape is the host-side type of a proxy: the slots of the base and of every capability of a mask,
composed once and never changed. Shapes do not inherit from one another; what a proxy can do is
said by its shape's slots alone.

* `Shape.nameFor` — the name of the shape for a mask.
* `Shape.compose` — the shape for a mask.
* `Shape.require` — the check before a behaviour.
-/

namespace ProxyBridge

/-- The host-side type of a proxy. -/
structure Shape where
  /-- The registry that made the shape. -/
  registry : Nat
  /-- The number of the shape in its registry; zero is the plain shape. -/
  id : Nat
  flags : Capabilities
  slots : Slots
  name : String
deriving DecidableEq, Repr

namespace Shape

/-- The capabilities whose names come first, the strongest first. -/
def precedence : List Capabilities :=
  [Capabilities.error, Capabilities.doubleProxy, Capabilities.generator,
   Capabilities.asyncGenerator, Capabilities.awaitable, Capabilities.callable,
   Capabilities.array, Capabilities.typedArray, Capabilities.buffer, Capabilities.nodeList,
   Capabilities.objectMap, Capabilities.hasGet, Capabilities.iterator,
   Capabilities.asyncIterator, Capabilities.iterable]

/-- The name of a shape to which no capability gives one. -/
def plainName : String := "ForeignProxy"

variable {Code : Type}

/-- The name that the capabilities of fixed precedence give to a mask. -/
def precedentName? (catalog : Catalog Code) (flags : Capabilities) : Option String :=
  (precedence.filter fun flag => flags.includes flag).findSome? fun flag =>
    (catalog.get? flag).bind (·.typeName)

/-- The name of the shape for a mask: by precedence, else the first name in catalog order, else
the plain one. -/
def nameFor (catalog : Catalog Code) (flags : Capabilities) : String :=
  ((precedentName? catalog flags).or ((catalog.forMask flags).findSome? (·.typeName))).getD
    plainName

/-- The shape for a mask. -/
def compose (catalog : Catalog Code) (registry id : Nat) (flags : Capabilities) : Shape :=
  { registry, id, flags, slots := catalog.slotsFor flags, name := nameFor catalog flags }

/-- The installed slots one by one, in bit order. -/
def slotTable (s : Shape) : List Slots := (Mask.bits s.slots).map Mask.bit

/-- Every slot of the set is installed. -/
def hasSlot (s : Shape) (slot : Slots) : Bool := s.slots.includes slot

/-- Fails unless every slot of the set is installed. -/
def require (s : Shape) (slot : Slots) : Except ProxyError Unit :=
  if s.hasSlot slot then .ok () else .error (.missingSlot (Slots.protocolName slot) s.name)

/-- The two are one shape: the same number in the same registry. -/
def same (s t : Shape) : Bool := s.registry == t.registry && s.id == t.id

/-- The outline of a shape. -/
def outline (s : Shape) : String :=
  Outline.record "Shape"
    [("id", toString s.id), ("name", Outline.text s.name), ("flags", Mask.hex s.flags.toNat),
     ("slots", toString s.slotTable.length)]

end Shape

end ProxyBridge
