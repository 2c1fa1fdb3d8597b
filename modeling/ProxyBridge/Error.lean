import ProxyBridge.Mask
import ProxyBridge.Handle

/-!
# Errors

There are two kinds. A `ForeignError` is raised on the foreign side, by foreign code or by the
table of foreign values; it has a name and a message of its own. A `ProxyError` is what the bridge
reports; it carries a foreign error unchanged, or says which condition of the bridge failed.
-/

namespace ProxyBridge

/-- An error raised by the foreign environment. -/
structure ForeignError where
  /-- The class name of the foreign exception. -/
  name : String
  message : String
deriving DecidableEq, Repr

namespace ForeignError

/-- A handle names no value. -/
def stale (h : Handle) : ForeignError := ⟨"ReferenceError", "stale handle " ++ h.text⟩

/-- The reference limit of the table is reached. -/
def exhausted : ForeignError := ⟨"RangeError", "handle table exhausted"⟩

/-- A value without a body was called. -/
def notFunction (h : Handle) : ForeignError := ⟨"TypeError", h.text ++ " is not a function"⟩

/-- The error as one line. -/
def text (e : ForeignError) : String := e.name ++ ": " ++ e.message

/-- The outline of the error. -/
def outline (e : ForeignError) : String :=
  Outline.record "ForeignError"
    [("name", Outline.text e.name), ("message", Outline.text e.message)]

end ForeignError

/-- Why a wrap, a proxy behaviour or a registration failed. -/
inductive ProxyError where
  /-- The host could not allocate a resource. -/
  | outOfMemory (resource : String)
  /-- The foreign side raised an error. -/
  | foreign (e : ForeignError)
  /-- The shape of the proxy does not install the slot. -/
  | missingSlot (slot shape : String)
  /-- The foreign value has no such member. -/
  | noSuchProperty (name : String)
  /-- The flag of a new capability is taken, or is not a single bit. -/
  | duplicateCapability (flag : Mask)
  /-- There is no bridge. -/
  | notInitialized
deriving DecidableEq, Repr

namespace ProxyError

/-- The registry holds as many shapes as it may. -/
def registryFull : ProxyError := .outOfMemory "shape registry"

/-- The heap holds as many proxies as it may. -/
def heapFull : ProxyError := .outOfMemory "proxy object"

/-- The error as one line. -/
def message : ProxyError → String
  | .outOfMemory resource => "Out of memory allocating " ++ resource
  | .foreign e => "Foreign error: " ++ e.text
  | .missingSlot slot shape => "'" ++ shape ++ "' object does not support " ++ slot
  | .noSuchProperty name => "Foreign value has no attribute '" ++ name ++ "'"
  | .duplicateCapability flag =>
    "Capability bit " ++ Mask.hex flag.toNat ++ " is already registered"
  | .notInitialized => "Proxy runtime is not initialized"

/-- The outline of the error. -/
def outline : ProxyError → String
  | .outOfMemory resource => Outline.record "OutOfMemory" [("resource", Outline.text resource)]
  | .foreign e => Outline.tuple "Foreign" [e.outline]
  | .missingSlot slot shape =>
    Outline.record "MissingSlot" [("slot", Outline.text slot), ("shape", Outline.text shape)]
  | .noSuchProperty name => Outline.record "NoSuchProperty" [("name", Outline.text name)]
  | .duplicateCapability flag =>
    Outline.record "DuplicateCapability" [("flag", toString flag.toNat)]
  | .notInitialized => "NotInitialized"

/-- An allocation failed. -/
def isOutOfMemory : ProxyError → Bool
  | .outOfMemory _ => true
  | _ => false

/-- The foreign error behind the error, if there is one. -/
def source : ProxyError → Option ForeignError
  | .foreign e => some e
  | _ => none

end ProxyError

end ProxyBridge
