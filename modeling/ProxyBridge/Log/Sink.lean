import ProxyBridge.Log.Filter
import ProxyBridge.Log.Settings

/-!
# Sinks

A sink is an installed log: the events that pass its filter become lines, on the console or in a
file. A line for people shows at least the level and the target; a record shows all of the event.

The environment can give a filter as a text, whose syntax is that of the log's library. Who reads it
is left open.
-/

namespace ProxyBridge

/-- An event as the log shows it. -/
inductive LogLine where
  /-- A line for people, of which only level and target are fixed. -/
  | plain (level : Level) (target : String)
  /-- A structured record of the whole event. -/
  | record (e : Event)
deriving DecidableEq, Repr

/-- An installed log. -/
structure Sink where
  filter : Filter
  /-- Lines are structured records. -/
  json : Bool
  /-- Lines go to the console. -/
  onConsole : Bool
deriving DecidableEq, Repr

namespace Sink

/-- The line of an event. -/
def line (s : Sink) (e : Event) : LogLine := if s.json then .record e else .plain e.level e.target

/-- The console lines of events. -/
def console (s : Sink) (events : List Event) : List LogLine :=
  if s.onConsole then (events.filter s.filter.passes).map s.line else []

/-- The variable that can give a filter. -/
def filterVariable : String := "RUST_LOG"

/-- The filter in force: the one in the environment if it can be read, else that of the settings. -/
def filterFor (readFilter : String → Option Filter) (env : List (String × String))
    (settings : LogSettings) : Filter :=
  ((env.lookup filterVariable).bind readFilter).getD (Filter.default settings.level)

/-- The file that settings send the log to. -/
def fileOf (settings : LogSettings) : Option String :=
  if settings.toFile then settings.path else none

/-- The sink that settings ask for in an environment. -/
def ofSettings (readFilter : String → Option Filter) (env : List (String × String))
    (settings : LogSettings) : Sink :=
  { filter := filterFor readFilter env settings
    json := settings.json
    onConsole := (fileOf settings).isNone }

end Sink

end ProxyBridge
