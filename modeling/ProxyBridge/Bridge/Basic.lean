import ProxyBridge.Config.Basic
import ProxyBridge.Heap
import ProxyBridge.Shape.Registry

/-!
# Bridges

A bridge is one instance of the machinery that turns foreign values into host proxies: a catalog of
capabilities, a registry of shapes and a host heap. Several bridges can work on one table of
foreign values; they share nothing else.
-/

namespace ProxyBridge

/-- One bridge between a table of foreign values and a host. -/
structure Bridge (Code : Type) where
  config : Config
  catalog : Catalog Code
  registry : Registry
  heap : Heap

/-- The counters of a bridge at one moment. -/
structure Stats where
  shapes : Nat
  hits : Nat
  misses : Nat
  hintHits : Nat
  syntheses : Nat
  discarded : Nat
  /-- Proxies alive. -/
  live : Nat
  /-- Proxies ever made. -/
  total : Nat
deriving DecidableEq, Repr

namespace Bridge

variable {Code : Type}

/-- The counters of a bridge. -/
def stats (b : Bridge Code) : Stats :=
  { shapes := b.registry.size, hits := b.registry.hits, misses := b.registry.misses
    hintHits := b.registry.hintHits, syntheses := b.registry.syntheses
    discarded := b.registry.discarded, live := b.heap.live, total := b.heap.total }

/-- The outline of the part of a bridge that makes proxies. -/
def factoryOutline (b : Bridge Code) (shownId : String) : String :=
  Outline.record "ProxyFactory"
    [("registry", b.registry.outline shownId), ("live_proxies", toString b.heap.live)]

/-- The outline of a bridge. -/
def outline (b : Bridge Code) (shownId : String) : String :=
  Outline.record "ProxyRuntime"
    [("config", b.config.outline), ("factory", b.factoryOutline shownId)]

end Bridge

end ProxyBridge
