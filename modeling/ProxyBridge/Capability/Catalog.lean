import ProxyBridge.Capability.Basic

/-!
# Catalogs

A catalog is the ordered list of capabilities that a bridge knows; probes run in its order. A
capability joins at the end, with a bit that no other has, so joining never changes what masks
without that bit mean.

* `Catalog.register` — adds a capability.
* `Catalog.forMask`, `Catalog.slotsFor` — the capabilities of a mask and their slots.
* `Catalog.standard` — the twenty capabilities with named bits.
-/

namespace ProxyBridge

/-- The capabilities that a bridge knows, in probe order. -/
structure Catalog (Code : Type) where
  capabilities : List (Capability Code)

namespace Catalog

variable {Code : Type}

/-- The catalog without capabilities. -/
def empty : Catalog Code := ⟨[]⟩

/-- The union of all registered bits. -/
def registered (c : Catalog Code) : Capabilities := Mask.unionAll (c.capabilities.map (·.flag))

/-- Adds a capability at the end. Its flag has to be a single bit that is not taken. -/
def register (c : Catalog Code) (d : Capability Code) : Except ProxyError (Catalog Code) :=
  if !Mask.isSingle d.flag || c.registered.meets d.flag then
    .error (.duplicateCapability d.flag)
  else .ok ⟨c.capabilities ++ [d]⟩

/-- Registers capabilities one after another: the catalog after all of them, and for each the error
that kept it out, if any. -/
def registerEach (c : Catalog Code) :
    List (Capability Code) → List (Option ProxyError) × Catalog Code
  | [] => ([], c)
  | d :: rest =>
    match c.register d with
    | .ok c =>
      let (errors, c) := registerEach c rest
      (none :: errors, c)
    | .error e =>
      let (errors, c) := registerEach c rest
      (some e :: errors, c)

/-- The capability with exactly this flag. -/
def get? (c : Catalog Code) (flag : Capabilities) : Option (Capability Code) :=
  c.capabilities.find? fun d => d.flag = flag

/-- The capabilities of a mask, in catalog order. -/
def forMask (c : Catalog Code) (mask : Capabilities) : List (Capability Code) :=
  c.capabilities.filter fun d => mask.includes d.flag

/-- The capabilities whose probes may run after the given ones were detected. -/
def applicable (c : Catalog Code) (detected : Capabilities) : List (Capability Code) :=
  c.capabilities.filter (·.applicable detected)

/-- The slots of a mask: the base slots and those of every capability in it. -/
def slotsFor (c : Catalog Code) (mask : Capabilities) : Slots :=
  (c.forMask mask).foldl (fun acc d => acc ||| d.slots) Slots.base

/-! ## The standard catalog -/

/-- The member name that makes an iterator step. -/
def stepName : String := "next"

/-- The capabilities with named bits, in probe order. -/
def standard : Catalog Code where
  capabilities :=
    let method (name : String) : Probe Code := .method (.named name)
    [{ flag := Capabilities.callable, name := "callable", probe := .tag [.function]
       slots := Slots.call ||| Slots.bind, typeName := some "ForeignCallable" },
     { flag := Capabilities.hasLength, name := "has_length", probe := .rule .measured
       slots := Slots.length },
     { flag := Capabilities.hasGet, name := "has_get", probe := method "get"
       slots := Slots.getItem, typeName := some "ForeignMap" },
     { flag := Capabilities.hasSet, name := "has_set", probe := method "set"
       slots := Slots.setItem ||| Slots.delItem },
     { flag := Capabilities.hasHas, name := "has_has", probe := method "has"
       slots := Slots.contains },
     { flag := Capabilities.hasIncludes, name := "has_includes", probe := method "includes"
       slots := Slots.contains },
     { flag := Capabilities.iterable, name := "iterable", probe := .method (.symbol .iterator)
       slots := Slots.iter, typeName := some "ForeignIterable" },
     { flag := Capabilities.asyncIterable, name := "async_iterable"
       probe := .method (.symbol .asyncIterator), slots := Slots.asyncIter },
     { flag := Capabilities.iterator, name := "iterator", probe := .rule .syncStep
       slots := Slots.iter ||| Slots.next, typeName := some "ForeignIterator" },
     { flag := Capabilities.asyncIterator, name := "async_iterator", probe := .rule .asyncStep
       slots := Slots.asyncIter ||| Slots.asyncNext, typeName := some "ForeignAsyncIterator" },
     { flag := Capabilities.awaitable, name := "awaitable", probe := method "then"
       slots := Slots.await, typeName := some "ForeignPromise" },
     { flag := Capabilities.buffer, name := "buffer", probe := .tag [.arrayBuffer, .typedArray]
       slots := Slots.buffer, typeName := some "ForeignBuffer" },
     { flag := Capabilities.array, name := "array", probe := .tag [.array]
       slots := Slots.getItem ||| Slots.setItem ||| Slots.delItem ||| Slots.contains
       typeName := some "ForeignArray" },
     { flag := Capabilities.typedArray, name := "typed_array", probe := .tag [.typedArray]
       slots := Slots.getItem ||| Slots.setItem, typeName := some "ForeignTypedArray" },
     { flag := Capabilities.nodeList, name := "node_list", probe := .tag [.nodeList]
       slots := Slots.getItem, typeName := some "ForeignNodeList" },
     { flag := Capabilities.generator, name := "generator", probe := .tag [.generator]
       slots := Slots.send ||| Slots.throw, typeName := some "ForeignGenerator" },
     { flag := Capabilities.asyncGenerator, name := "async_generator"
       probe := .tag [.asyncGenerator]
       slots := Slots.send ||| Slots.throw ||| Slots.asyncNext
       typeName := some "ForeignAsyncGenerator" },
     { flag := Capabilities.error, name := "error", probe := .tag [.error]
       slots := Slots.exception, typeName := some "ForeignException" },
     { flag := Capabilities.doubleProxy, name := "double_proxy", probe := .tag [.hostProxy]
       slots := Slots.unwrap, typeName := some "ForeignDoubleProxy" },
     { flag := Capabilities.objectMap, name := "object_map", probe := .explicit
       slots := Slots.mapping ||| Slots.getItem ||| Slots.setItem ||| Slots.delItem |||
         Slots.contains ||| Slots.iter ||| Slots.length
       typeName := some "ForeignObjectMap" }]

end Catalog

end ProxyBridge
