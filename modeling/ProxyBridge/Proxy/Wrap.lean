import ProxyBridge.Bridge.Inspection
import ProxyBridge.Bridge.Opening

/-!
# Wrapping and destroying

A wrap makes a proxy for a foreign value: find the capabilities, resolve the shape, take a reference
to the value and one to the receiver, reserve a heap cell. If a stage fails, what earlier stages
took is given back in reverse order, and no proxy exists. Foreign code runs in the first stage
only.

* `Environment.create`, `Environment.createBound`, `Act.createTyped`, `Environment.createMap` — the
  ways to wrap.
* `Session.destroy` — the end of a proxy.
-/

namespace ProxyBridge

variable {Code Client α : Type}

namespace Act

/-- Reserves a heap cell of a bridge. -/
def reserve (i : Nat) : Act Code Client ProxyError Unit := fun s =>
  match s.bridges[i]? with
  | none => .error .notInitialized s
  | some b =>
    match b.heap.reserve with
    | .ok heap => .ok () (s.setBridge i { b with heap })
    | .error e => .error e s

/-- Takes a reference to the receiver, if there is one. -/
def ownReceiver (receiver : Option Handle) : Act Code Client ForeignError Unit :=
  match receiver with
  | some r => own r
  | none => pure ()

/-- The stages after the shape: references, heap cell, proxy. -/
def build (i : Nat) (shape : Shape) (value : Handle) (receiver : Option Handle) :
    Act Code Client ProxyError Nat := do
  foreign (own value)
  (foreign (ownReceiver receiver)).onError fun _ s => s.letGo value
  (reserve i).onError fun _ s => (s.letGo? receiver).letGo value
  modify (·.emit (.proxyCreated shape.name value receiver.isSome))
  let id := (← get).nextProxy
  modify fun s =>
    { s with
      proxies := s.proxies.insert id { bridge := i, shape, value, receiver }
      nextProxy := id + 1 }
  return id

/-- Reports a wrap that fails. -/
def reporting (value : Handle) (act : Act Code Client ProxyError α) :
    Act Code Client ProxyError α :=
  act.onError fun e s => s.emit (.wrapFailed value e.message)

/-- The stages after the capabilities. -/
def shapeAndBuild (i : Nat) (flags : Capabilities) (value : Handle) (receiver : Option Handle)
    (hint : Option Shape) : Act Code Client ProxyError Nat := do
  let shape ← resolveShape i flags hint
  build i shape value receiver

/-- Wraps a value with chosen capabilities, without looking at it. -/
def createTyped (i : Nat) (flags : Capabilities) (value : Handle) (receiver : Option Handle) :
    Act Code Client ProxyError Nat :=
  reporting value (shapeAndBuild i flags value receiver none)

/-- Wraps a value with the capabilities of a shape, which is used again if it fits. -/
def createLike (i : Nat) (hint : Shape) (value : Handle) (receiver : Option Handle) :
    Act Code Client ProxyError Nat :=
  reporting value (shapeAndBuild i hint.flags value receiver (some hint))

end Act

namespace Environment

variable (env : Environment Code Client)

/-- Wraps a value with the capabilities it has. -/
def createWith (i : Nat) (value : Handle) (receiver : Option Handle) :
    Act Code Client ProxyError Nat :=
  Act.reporting value do
    let flags ← env.capabilities i value
    Act.shapeAndBuild i flags value receiver none

/-- Wraps a value. -/
def create (i : Nat) (value : Handle) : Act Code Client ProxyError Nat :=
  env.createWith i value none

/-- Wraps a value and binds its calls to a receiver. -/
def createBound (i : Nat) (value receiver : Handle) : Act Code Client ProxyError Nat :=
  env.createWith i value (some receiver)

/-- Wraps a value; if asked to, as a map of its own members on top of the capabilities it has. -/
def createMap (i : Nat) (value : Handle) (asMap : Bool) : Act Code Client ProxyError Nat := do
  let flags ← Act.reporting value (env.capabilities i value)
  let flags := if asMap then flags ||| Capabilities.objectMap else flags
  Act.createTyped i flags value none

end Environment

namespace Session

/-- Gives a heap cell of a bridge back. -/
def freeCell (s : Session Code Client) (i : Nat) : Session Code Client :=
  match s.bridges[i]? with
  | none => s
  | some b => s.setBridge i { b with heap := b.heap.free }

/-- Destroys a proxy: its references are given back, the value first, and then its cell. -/
def destroy (s : Session Code Client) (id : Nat) : Session Code Client :=
  match s.proxies.find? id with
  | none => s
  | some p =>
    let s := { s with proxies := s.proxies.erase id }
    ((s.letGo p.value).letGo? p.receiver).freeCell p.bridge

end Session

end ProxyBridge
