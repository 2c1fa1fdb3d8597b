/-!
# Log levels

Five levels, from errors, which are always worth a line, to traces, which hardly ever are.
-/

namespace ProxyBridge

/-- The level of an event, or the most verbose level that is let through. -/
inductive Level where
  | error | warn | info | debug | trace
deriving DecidableEq, Repr

namespace Level

/-- All levels, the least verbose first. -/
def all : List Level := [.error, .warn, .info, .debug, .trace]

/-- How verbose a level is. -/
def verbosity : Level → Nat
  | .error => 1
  | .warn => 2
  | .info => 3
  | .debug => 4
  | .trace => 5

/-- The name of a level. -/
def name : Level → String
  | .error => "ERROR"
  | .warn => "WARN"
  | .info => "INFO"
  | .debug => "DEBUG"
  | .trace => "TRACE"

/-- The name of a level as directives spell it. -/
def lowerName (l : Level) : String := l.name.toLower

/-- The level with a given name, in any mixture of cases. No letter outside ASCII has a lower-case
form that occurs in a name. -/
def ofName? (s : String) : Option Level := all.find? fun l => l.lowerName = s.toLower

/-- The level with a given name; any other text means `info`. -/
def parse (s : String) : Level := (ofName? s).getD .info

end Level

end ProxyBridge
