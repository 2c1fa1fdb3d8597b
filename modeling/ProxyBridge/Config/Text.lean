import ProxyBridge.Config.Basic
import ProxyBridge.Toml.Format

/-!
# Configurations as text

A configuration is a TOML text with one table per section. What the text leaves out has its default,
and what a configuration has no place for is passed over. A section may also be an array of its
values in their order. The printer and the parser of TOML are given from outside.

* `Config.parse` — the configuration of a text.
* `Config.text` — the text of a configuration.
-/

namespace ProxyBridge

/-- Why a configuration could not be read or written. -/
inductive ConfigError where
  /-- The text is no TOML, or a value is not of its kind. -/
  | parse
  /-- There is no such file, or it holds no text. -/
  | read
  /-- A number is too large for the text. -/
  | serialize
  /-- The file cannot be written. -/
  | write
deriving DecidableEq, Repr

/-- What kind of step failed. -/
def ConfigError.message : ConfigError → String
  | .parse => "Failed to parse config"
  | .read => "Failed to read config"
  | .serialize => "Failed to serialize config"
  | .write => "Failed to write config"

/-! ## Reading -/

namespace Toml.Value

/-- The fields of a record. A table has them by name, an array by position; a date counts as a
record without any of them. -/
def fields? (names : List String) : Value → Option (List (String × Value))
  | .table _ es | .inline es => some es
  | .array vs => some (names.zip vs)
  | .tables earlier last => some (names.zip ((earlier ++ [last]).map (.table .header)))
  | .date => some []
  | _ => none

/-- A number that is not negative. -/
def natural? : Value → Option Nat
  | .integer n => if 0 ≤ n then some n.toNat else none
  | _ => none

/-- A mask. -/
def mask? (v : Value) : Option Mask :=
  v.natural?.bind fun n => if n < UInt32.size then some (BitVec.ofNat 32 n) else none

/-- A list of masks. -/
def masks? : Value → Option (List Mask)
  | .array vs => vs.mapM mask?
  | _ => none

/-- A string. -/
def text? : Value → Option String
  | .string s => some s
  | _ => none

/-- A truth value. -/
def boolean? : Value → Option Bool
  | .boolean b => some b
  | _ => none

end Toml.Value

/-- The value of a field, read in one way, or the default if the field is missing. -/
def fieldOr {α : Type} (fields : List (String × Toml.Value)) (name : String)
    (read : Toml.Value → Option α) (default : α) : Option α :=
  match Dict.find? name fields with
  | none => some default
  | some v => read v

namespace RegistryConfig

/-- The names of the values of the section. -/
def names : List String := ["initial_capacity", "max_shapes", "prewarm"]

/-- The section that a value is. -/
def ofToml? (v : Toml.Value) : Option RegistryConfig := do
  let fields ← v.fields? names
  let d : RegistryConfig := {}
  let initialCapacity ← fieldOr fields "initial_capacity" (·.natural?) d.initialCapacity
  let maxShapes ← fieldOr fields "max_shapes" (fun v => v.natural?.map some) d.maxShapes
  let prewarm ← fieldOr fields "prewarm" (·.masks?) d.prewarm
  return { initialCapacity, maxShapes, prewarm }

end RegistryConfig

namespace HeapConfig

/-- The names of the values of the section. -/
def names : List String := ["max_live_proxies"]

/-- The section that a value is. -/
def ofToml? (v : Toml.Value) : Option HeapConfig := do
  let fields ← v.fields? names
  let d : HeapConfig := {}
  let maxLive ← fieldOr fields "max_live_proxies" (fun v => v.natural?.map some) d.maxLive
  return { maxLive }

end HeapConfig

namespace LogConfig

/-- The names of the values of the section. -/
def names : List String := ["level", "json", "file", "spans"]

/-- The section that a value is. -/
def ofToml? (v : Toml.Value) : Option LogConfig := do
  let fields ← v.fields? names
  let d : LogConfig := {}
  let level ← fieldOr fields "level" (·.text?) d.level
  let json ← fieldOr fields "json" (·.boolean?) d.json
  let file ← fieldOr fields "file" (fun v => v.text?.map some) d.file
  let spans ← fieldOr fields "spans" (·.boolean?) d.spans
  return { level, json, file, spans }

end LogConfig

namespace Config

/-- The configuration that a table is. -/
def ofToml? (es : Toml.Entries) : Option Config := do
  let d : Config := {}
  let registry ← fieldOr es "registry" RegistryConfig.ofToml? d.registry
  let heap ← fieldOr es "heap" HeapConfig.ofToml? d.heap
  let logging ← fieldOr es "logging" LogConfig.ofToml? d.logging
  return { registry, heap, logging }

/-- The configuration of a text. -/
def parse (toml : Toml.Codec) (text : String) : Except ConfigError Config :=
  match (toml.parse text).bind ofToml? with
  | some config => .ok config
  | none => .error .parse

/-! ## Writing -/

/-- A setting that may be missing. -/
def setting? (name : String) (value : Option Toml.Item) : List (String × Toml.Item) :=
  (value.map fun item => (name, item)).toList

/-- The groups of settings that a configuration consists of. -/
def groups (c : Config) : List Toml.Group :=
  [{ name := "registry"
     settings := [("initial_capacity", .number c.registry.initialCapacity)]
       ++ setting? "max_shapes" (c.registry.maxShapes.map .number)
       ++ [("prewarm", .numbers (c.registry.prewarm.map BitVec.toNat))] },
   { name := "heap"
     settings := setting? "max_live_proxies" (c.heap.maxLive.map .number) },
   { name := "logging"
     settings := [("level", .string c.logging.level), ("json", .boolean c.logging.json)]
       ++ setting? "file" (c.logging.file.map .string)
       ++ [("spans", .boolean c.logging.spans)] }]

/-- The text of a configuration. -/
def text (toml : Toml.Codec) (c : Config) : Except ConfigError String :=
  match toml.print c.groups with
  | some text => .ok text
  | none => .error .serialize

/-- The text of the default configuration. -/
def defaultText (toml : Toml.Codec) : String :=
  (toml.print (groups {})).getD "# Failed to generate config"

end Config

end ProxyBridge
