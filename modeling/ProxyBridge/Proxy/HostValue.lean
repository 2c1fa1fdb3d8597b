import ProxyBridge.Session.Basic

/-!
# Looking at host values

What the host and the bridge can say about a host value: its type, whether it is a proxy, and if so
of what. Nothing here changes a session.
-/

namespace ProxyBridge

variable {Code Client : Type}

namespace Session

/-- The proxy that a host value is, if it is one that is alive. -/
def proxyOf (s : Session Code Client) (v : HostValue) : Option Proxy :=
  v.proxy?.bind fun id => s.proxies.find? id

/-- The type of a host value as the host reports it; a proxy's type is its shape. -/
def typeName (s : Session Code Client) (v : HostValue) : String :=
  match v with
  | .none => "NoneType"
  | .bool _ => "bool"
  | .int _ => "int"
  | .float _ => "float"
  | .string _ => "str"
  | .object o => o.typeName
  | .proxy _ => ((s.proxyOf v).map (·.shape.name)).getD ""

/-- The outline of a host value. -/
def outlineOf (s : Session Code Client) (v : HostValue) : String :=
  match v with
  | .none => "None"
  | .bool b => Outline.tuple "Bool" [Outline.bool b]
  | .int n => Outline.tuple "Int" [toString n]
  | .float x => Outline.tuple "Float" [x.text]
  | .string t => Outline.tuple "Str" [Outline.text t]
  | .object o => Outline.tuple "Object" [o.outline]
  | .proxy _ => Outline.tuple "Object" [((s.proxyOf v).map Proxy.outline).getD ""]

end Session

/-- What there is to say about a host value. -/
structure HostView where
  typeName : String
  isNone : Bool
  proxy : Option Proxy
deriving DecidableEq, Repr

/-- Looks at a host value. -/
def Session.view (s : Session Code Client) (v : HostValue) : HostView :=
  { typeName := s.typeName v, isNone := v.isNone, proxy := s.proxyOf v }

end ProxyBridge
