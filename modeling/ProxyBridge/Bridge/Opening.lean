import ProxyBridge.Session.Basic

/-!
# Opening bridges and resolving shapes

A bridge is opened with a catalog and a configuration. Its registry starts with the plain shape,
and the shapes of the masks to prewarm are composed before the bridge is ready. If one of them is
refused, so is the bridge.
-/

namespace ProxyBridge

variable {Code Client : Type}

namespace Act

/-- The shape of a mask in the registry of a bridge, with a shape that may already be it. -/
def resolveShape (i : Nat) (flags : Capabilities) (hint : Option Shape) :
    Act Code Client ProxyError Shape := fun s =>
  match s.bridges[i]? with
  | none => .error .notInitialized s
  | some b =>
    let (answer, registry, events) :=
      match hint with
      | none => b.registry.resolve b.catalog s.timing flags
      | some hint => b.registry.resolveWithHint b.catalog s.timing flags hint
    let s := (s.setBridge i { b with registry }).emitAll events
    match answer with
    | .ok shape => .ok shape s
    | .error e => .error e s

/-- Composes the shapes of masks, until one is refused. -/
def prewarm (i : Nat) : List Capabilities → Act Code Client ProxyError Unit
  | [] => pure ()
  | mask :: rest => do
    let _ ← resolveShape i mask none
    prewarm i rest

/-- Opens a bridge; its number is the result. -/
def openBridge (catalog : Catalog Code) (config : Config) : Act Code Client ProxyError Nat := do
  let i := (← get).bridges.length
  match Registry.new catalog i config.registry.maxShapes with
  | .error e =>
    modify (·.emit (.registryExhausted 0#32 0))
    throw e
  | .ok registry =>
    let b : Bridge Code := { config, catalog, registry, heap := .new config.heap.maxLive }
    modify fun s => { s with bridges := s.bridges ++ [b] }
    prewarm i config.registry.prewarm
    return i

end Act

end ProxyBridge
