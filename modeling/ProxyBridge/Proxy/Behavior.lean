import ProxyBridge.Proxy.Wrap

/-!
# What proxies do

The behaviours of a proxy. Each needs a slot, and fails if the shape of the proxy does not install
it. Foreign results come back as host values: `undefined` and `null` as the host's nothing, and all
else wrapped in a new proxy.

* `Environment.call`, `Act.rebind` — calls, and proxies with another receiver.
* `Environment.len`, `Environment.isEmpty` — length.
* `Environment.getAttr`, `Act.setAttr` — attributes.
* `Environment.getItem`, `Act.setItem`, `Act.deleteItem`, `Act.hasItem`, `Act.keys` — proxies that
  are maps.
-/

namespace ProxyBridge

variable {Code Client : Type}

namespace Act

/-- Fails unless the proxy has the slot. -/
def require (p : Proxy) (slot : Slots) : Act Code Client ProxyError Unit :=
  ofExcept (p.shape.require slot)

/-- A proxy for the same value with another receiver. -/
def rebind (p : Proxy) (receiver : Handle) : Act Code Client ProxyError Nat := do
  require p Slots.bind
  createLike p.bridge p.shape p.value (some receiver)

/-- Stores a value as an attribute. -/
def setAttr (p : Proxy) (name : String) (v : Handle) : Act Code Client ProxyError Unit := do
  require p Slots.setAttr
  foreign (setMember p.value (.named name) v)

/-- Stores a value under a key. -/
def setItem (p : Proxy) (name : String) (v : Handle) : Act Code Client ProxyError Unit := do
  require p (Slots.mapping ||| Slots.setItem)
  foreign (setMember p.value (.named name) v)

/-- Removes a key. -/
def deleteItem (p : Proxy) (name : String) : Act Code Client ProxyError Unit := do
  require p (Slots.mapping ||| Slots.delItem)
  if ← foreign (deleteMember p.value (.named name)) then return ()
  else throw (.noSuchProperty name)

/-- The keys, in order. -/
def keys (p : Proxy) : Act Code Client ProxyError (List String) := do
  require p Slots.mapping
  foreign (memberNames p.value)

/-- Whether a key is there. -/
def hasItem (p : Proxy) (name : String) : Act Code Client ProxyError Bool := do
  require p (Slots.mapping ||| Slots.contains)
  return (← keys p).contains name

end Act

namespace Environment

variable (env : Environment Code Client)

/-- The host value for a foreign value. -/
def toHost (i : Nat) (h : Handle) : Act Code Client ProxyError HostValue := do
  match ← Act.foreign (Act.tagOf h) with
  | .undefined | .null => return .none
  | _ => return .proxy (← env.create i h)

/-- Calls the value of a proxy, with the receiver that the proxy is bound to. -/
def call (p : Proxy) (args : List Handle) : Act Code Client ProxyError HostValue := do
  Act.require p Slots.call
  let result ← Act.foreign (env.invoke p.value p.receiver args)
  Act.holding result (env.toHost p.bridge result)

/-- The members that can hold the length of a value. The `length` of a callable value counts its
parameters. -/
def lengthNames (flags : Capabilities) : List String :=
  if flags.includes Capabilities.callable then ["size"] else ["length", "size"]

/-- The length of a value: of a map without a length of its own the number of its keys, else the
number in its first length member. -/
def len (p : Proxy) : Act Code Client ProxyError Nat := do
  Act.require p Slots.length
  if !p.flags.includes Capabilities.hasLength && p.flags.includes Capabilities.objectMap then
    return (← Act.foreign (Act.memberNames p.value)).length
  else
    match ← Act.foreign (env.firstNumber p.value (lengthNames p.flags)) with
    | some x => return x.toLength
    | none => throw (.noSuchProperty "length")

/-- The length is zero. -/
def isEmpty (p : Proxy) : Act Code Client ProxyError Bool := do
  return (← env.len p) == 0

/-- Reads an attribute. A function comes back bound to the value of the proxy. -/
def getAttr (p : Proxy) (name : String) : Act Code Client ProxyError HostValue := do
  Act.require p Slots.getAttr
  match ← Act.foreign (env.member p.value (.named name)) with
  | none => throw (.noSuchProperty name)
  | some member => Act.holding member do
    if (← Act.foreign (Act.tagOf member)) == .function then
      return .proxy (← env.createBound p.bridge member p.value)
    else env.toHost p.bridge member

/-- Reads a key. -/
def getItem (p : Proxy) (name : String) : Act Code Client ProxyError HostValue := do
  Act.require p Slots.mapping
  match ← Act.foreign (env.member p.value (.named name)) with
  | none => throw (.noSuchProperty name)
  | some item => Act.holding item (env.toHost p.bridge item)

end Environment

end ProxyBridge
