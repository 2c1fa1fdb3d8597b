import ProxyBridge.Capability.Basic
import ProxyBridge.Log.Settings

/-!
# Configuration

A bridge is configured in three sections: its shape registry, its host heap, and its log. Every
value has a default, so any part of a configuration may be left out.
-/

namespace ProxyBridge

/-- The section about the shape registry. -/
structure RegistryConfig where
  /-- The number of places that a program allocates for the registry at first. Registries here are
  lists, which allocate nothing: that there may be no memory for so many places is left aside, and
  nothing but texts and outlines of configurations reads the number. -/
  initialCapacity : Nat := 64
  /-- The greatest number of shapes, the plain one included. -/
  maxShapes : Option Nat := none
  /-- Masks whose shapes are composed when the bridge is opened. -/
  prewarm : List Capabilities := []
deriving DecidableEq, Repr

/-- The section about the host heap. -/
structure HeapConfig where
  /-- The greatest number of proxies alive at once. -/
  maxLive : Option Nat := none
deriving DecidableEq, Repr

/-- The section about the log. -/
structure LogConfig where
  /-- The name of a level. -/
  level : String := "info"
  json : Bool := false
  /-- The file to log to; without one the log goes to the console. -/
  file : Option String := none
  spans : Bool := false
deriving DecidableEq, Repr

/-- The configuration of a bridge. -/
structure Config where
  registry : RegistryConfig := {}
  heap : HeapConfig := {}
  logging : LogConfig := {}
deriving DecidableEq, Repr

namespace LogConfig

/-- The settings that the section asks for. -/
def settings (c : LogConfig) : LogSettings :=
  { LogSettings.default with
    level := Level.parse c.level
    toFile := c.file.isSome
    path := c.file
    json := c.json
    spans := c.spans }

/-- The outline of the section. -/
def outline (c : LogConfig) : String :=
  Outline.record "LoggingSection"
    [("level", Outline.text c.level), ("json", Outline.bool c.json),
     ("file", Outline.option (c.file.map Outline.text)), ("spans", Outline.bool c.spans)]

end LogConfig

/-- The outline of the section about the registry. -/
def RegistryConfig.outline (c : RegistryConfig) : String :=
  Outline.record "RegistryConfig"
    [("initial_capacity", toString c.initialCapacity),
     ("max_shapes", Outline.option (c.maxShapes.map toString)),
     ("prewarm", Outline.list (c.prewarm.map fun m => toString m.toNat))]

/-- The outline of the section about the heap. -/
def HeapConfig.outline (c : HeapConfig) : String :=
  Outline.record "HeapConfig" [("max_live_proxies", Outline.option (c.maxLive.map toString))]

/-- The outline of a configuration. -/
def Config.outline (c : Config) : String :=
  Outline.record "BridgeConfig"
    [("registry", c.registry.outline), ("heap", c.heap.outline), ("logging", c.logging.outline)]

end ProxyBridge
