import ProxyBridge.Double.Shortest
import ProxyBridge.Shape.Basic

/-!
# Proxies and host values

A proxy is a host object that stands for a foreign value. It owns one reference to the value, and
one to the receiver of its calls if it is bound to one. A host value is anything that the host can
hold; proxies occur in it by number, since a proxy has an identity and a lifetime.
-/

namespace ProxyBridge

/-- A host object that stands for a foreign value. It never changes. -/
structure Proxy where
  /-- The bridge that made the proxy. -/
  bridge : Nat
  shape : Shape
  /-- The foreign value. -/
  value : Handle
  /-- The receiver of every call through the proxy. -/
  receiver : Option Handle
deriving DecidableEq, Repr

namespace Proxy

/-- The capabilities of the proxy's shape. -/
def flags (p : Proxy) : Capabilities := p.shape.flags

/-- The outline of a proxy. -/
def outline (p : Proxy) : String :=
  Outline.record "ForeignProxy"
    [("shape", Outline.text p.shape.name), ("handle", p.value.outline),
     ("this", Outline.option (p.receiver.map Handle.outline))]

end Proxy

/-- A host object of another kind, known by what the host says about it. -/
structure HostObject where
  typeName : String
  outline : String
deriving DecidableEq, Repr

/-- A value of the host. -/
inductive HostValue where
  | none
  | bool (b : Bool)
  | int (n : Int)
  | float (x : Double)
  | string (s : String)
  | object (o : HostObject)
  /-- The proxy with this number. -/
  | proxy (id : Nat)
deriving DecidableEq, Repr

namespace HostValue

/-- The value is the host's nothing. -/
def isNone : HostValue → Bool
  | .none => true
  | _ => false

/-- The number of the proxy that the value is, if it is one. -/
def proxy? : HostValue → Option Nat
  | .proxy id => some id
  | _ => Option.none

end HostValue

end ProxyBridge
