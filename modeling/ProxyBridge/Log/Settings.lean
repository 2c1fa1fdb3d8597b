import ProxyBridge.Log.Level

/-!
# Log settings

Where the log goes, in which form, and how much of it. Settings come from a preset, from the
environment, or from a configuration.
-/

namespace ProxyBridge

/-- How logging is set up. -/
structure LogSettings where
  level : Level
  /-- Write to a file, if there is a path. -/
  toFile : Bool
  path : Option String
  /-- One structured record per event instead of readable lines. -/
  json : Bool
  /-- Report the beginning and end of spans. -/
  spans : Bool
  /-- Time the operations that can be timed. -/
  timing : Bool
deriving DecidableEq, Repr

namespace LogSettings

/-- Readable lines on the console, from `info` up, with timings. A program times its operations by
default if it was built with debug assertions; that it was is taken for granted here, and in a
release build `timing` is off. -/
def default : LogSettings :=
  { level := .info, toFile := false, path := none, json := false, spans := false, timing := true }

/-- As little as possible. -/
def performance : LogSettings :=
  { level := .error, toFile := false, path := none, json := false, spans := false,
    timing := false }

/-- The file a log goes to when it names no other. -/
def fallbackFile : String := "foreign_proxy.log"

/-- Everything, into a file. -/
def debug : LogSettings :=
  { level := .trace, toFile := true, path := some fallbackFile, json := false, spans := true,
    timing := true }

/-- The name of an environment variable for log settings. -/
def variableName (name : String) : String := "FOREIGN_PROXY_LOG_" ++ name

/-- The settings that the environment asks for: a level by name, a file by its path, structured
records and spans by being set at all, timings by `1` or `true`. -/
def ofEnvironment (env : List (String × String)) : LogSettings :=
  let get (name : String) : Option String := env.lookup (variableName name)
  { level := ((get "LEVEL").map Level.parse).getD default.level
    toFile := (get "FILE").isSome
    path := get "FILE"
    json := (get "JSON").isSome
    spans := (get "SPANS").isSome
    timing := ((get "PERF").map fun v => v == "1" || v.toLower == "true").getD default.timing }

end LogSettings

end ProxyBridge
