import ProxyBridge.Handle
import ProxyBridge.Mask
import ProxyBridge.Log.Level

/-!
# Events

What the bridge tells the log. Each event is a constructor with its data; level, target, message
and fields are functions of it. Targets are paths, and all targets of the bridge lie under one
root, so one filter directive covers them.
-/

namespace ProxyBridge

/-- Something the bridge reports to the log. -/
inductive Event where
  /-- A shape was composed and registered. -/
  | shapeSynthesized (flags : Mask) (shape : String) (slotCount : Nat)
  /-- A composed shape was dropped, since the mask had got one meanwhile. -/
  | synthesisDiscarded (flags : Mask)
  /-- The registry refused a new shape. -/
  | registryExhausted (flags : Mask) (maxShapes : Nat)
  /-- A proxy was made. -/
  | proxyCreated (shape : String) (handle : Handle) (bound : Bool)
  /-- A wrap failed. -/
  | wrapFailed (handle : Handle) (error : String)
  /-- A probe raised an error. -/
  | probeRaised (capability : String) (handle : Handle) (error : String)
  /-- An owner gave its reference back. -/
  | referenceReleased (handle : Handle)
  /-- A release of a handle that nobody holds. -/
  | unknownRelease (handle : Handle)
  /-- A value entered the table. -/
  | valueInserted (handle : Handle)
  /-- A value left the table. -/
  | valueFreed (handle : Handle)
  /-- The bridge of the embedding program is ready. -/
  | bridgeReady (prewarmed : Nat)
  /-- A timed operation ended. -/
  | operationCompleted (operation : String)
deriving DecidableEq, Repr

/-- The value of a field of an event. -/
inductive FieldValue where
  | text (s : String)
  | number (n : Nat)
  | flag (b : Bool)
deriving DecidableEq, Repr

namespace Event

/-- The common root of all targets. -/
def root : String := "foreign_proxy"

/-- The target for events of shape registries. -/
def registryTarget : String := root ++ "::registry"

/-- The target for events of wraps. -/
def factoryTarget : String := root ++ "::factory"

/-- The target for events of inspections. -/
def inspectorTarget : String := root ++ "::inspector"

/-- The target for events of handles and values. -/
def handlesTarget : String := root ++ "::handles"

/-- The target for events of the bridge of the embedding program. -/
def runtimeTarget : String := root ++ "::runtime"

/-- The target for timings. -/
def timingTarget : String := root ++ "::logging::perf"

/-- The level of an event. -/
def level : Event → Level
  | .shapeSynthesized .. | .synthesisDiscarded .. | .wrapFailed .. | .probeRaised ..
  | .operationCompleted .. => .debug
  | .registryExhausted .. | .unknownRelease .. => .warn
  | .proxyCreated .. | .referenceReleased .. | .valueInserted .. | .valueFreed .. => .trace
  | .bridgeReady .. => .info

/-- The target of an event. -/
def target : Event → String
  | .shapeSynthesized .. | .synthesisDiscarded .. | .registryExhausted .. => registryTarget
  | .proxyCreated .. | .wrapFailed .. => factoryTarget
  | .probeRaised .. => inspectorTarget
  | .referenceReleased .. | .unknownRelease .. | .valueInserted .. | .valueFreed .. =>
    handlesTarget
  | .bridgeReady .. => runtimeTarget
  | .operationCompleted .. => timingTarget

/-- The message of an event. -/
def message : Event → String
  | .shapeSynthesized .. => "shape synthesized"
  | .synthesisDiscarded .. => "concurrent synthesis discarded, reusing registered shape"
  | .registryExhausted .. => "shape registry exhausted"
  | .proxyCreated .. => "proxy created"
  | .wrapFailed .. => "wrap failed"
  | .probeRaised .. => "capability probe raised"
  | .referenceReleased .. => "foreign reference released"
  | .unknownRelease .. => "release of unknown foreign handle"
  | .valueInserted .. => "foreign value inserted"
  | .valueFreed .. => "foreign value freed"
  | .bridgeReady .. => "proxy runtime initialized"
  | .operationCompleted .. => "operation completed"

/-- The named data of an event. -/
def fields : Event → List (String × FieldValue)
  | .shapeSynthesized flags shape slotCount =>
    [("flags", .number flags.toNat), ("shape", .text shape), ("slot_count", .number slotCount)]
  | .synthesisDiscarded flags => [("flags", .number flags.toNat)]
  | .registryExhausted flags maxShapes =>
    [("flags", .number flags.toNat), ("max_shapes", .number maxShapes)]
  | .proxyCreated shape handle bound =>
    [("shape", .text shape), ("handle", .text handle.text), ("bound", .flag bound)]
  | .wrapFailed handle error => [("handle", .text handle.text), ("error", .text error)]
  | .probeRaised capability handle error =>
    [("capability", .text capability), ("handle", .text handle.text), ("error", .text error)]
  | .referenceReleased handle | .unknownRelease handle | .valueInserted handle
  | .valueFreed handle => [("handle", .text handle.text)]
  | .bridgeReady prewarmed => [("prewarmed", .number prewarmed)]
  | .operationCompleted operation => [("operation", .text operation)]

/-- The names of all fields of an event. The message is a field too, and so is the duration of a
timed operation, whose value is not part of the event. -/
def fieldNames (e : Event) : List String :=
  let unfixed := match e with
    | .operationCompleted _ => ["duration_us"]
    | _ => []
  e.fields.map (·.1) ++ unfixed ++ ["message"]

end Event

end ProxyBridge
