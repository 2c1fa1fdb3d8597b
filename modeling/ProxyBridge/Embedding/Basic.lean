import ProxyBridge.FileTree
import ProxyBridge.Log.Sink
import ProxyBridge.Proxy.Wrap

/-!
# Embeddings

What one program has once: an environment, a log, and at most one bridge for all of its parts. Both
the log and the bridge are installed on demand and then stay. The log is installed before the bridge
is opened, so that it reports the opening; it also stays if the opening fails.

* `Embedding.installLog` — installs the log, unless there is one.
* `Embedding.install` — installs the bridge, unless there is one.
* `Embedding.installed` — the bridge.
-/

namespace ProxyBridge

/-- The bridge of a program, with everything it works on. It has number zero in its session. -/
structure Installed (Code : Type) where
  /-- Tells this installation from any other attempt. -/
  serial : Nat
  session : Session Code Unit

/-- The state that a program has once. -/
structure Embedding (Code : Type) where
  /-- Reads the filter that the environment can give. -/
  readFilter : String → Option Filter
  /-- The environment variables. -/
  environment : List (String × String)
  /-- The log, once it is installed. -/
  sink : Option Sink
  /-- Operations that can be timed are timed. -/
  timing : Bool
  /-- The lines on the console so far. -/
  console : List LogLine
  files : FileTree
  /-- The bridge, once it is installed. -/
  bridge : Option (Installed Code)
  /-- The number of attempts to install a bridge. -/
  attempts : Nat

namespace Embedding

variable {Code α : Type}

/-- A program at its start, in an empty directory. -/
def start (readFilter : String → Option Filter) (environment : List (String × String)) :
    Embedding Code :=
  { readFilter, environment, sink := none, timing := false, console := [], files := .empty
    bridge := none, attempts := 0 }

/-! ## The log -/

/-- The log is installed. -/
def hasLog (p : Embedding Code) : Bool := p.sink.isSome

/-- The place of a log file, if it is below the directory of the program. A path without a name for
the file stands for a directory; a path without any name stands for that of the program. -/
def logPlace? (path : String) : Option Place :=
  let names := (Place.names path).filter fun name => name ≠ "" ∧ name ≠ "."
  let (directory, name) :=
    match names.getLast? with
    | none => ([], LogSettings.fallbackFile)
    | some name => (names.dropLast, if name = ".." then LogSettings.fallbackFile else name)
  if path.toList.head? = some '/' ∧ names ≠ [] then none
  else Place.follow? [] (directory ++ [name])

/-- Makes the file that the log goes to, with the directories above it. -/
def openLogFile (p : Embedding Code) (settings : LogSettings) : Embedding Code :=
  match (Sink.fileOf settings).bind logPlace? with
  | none => p
  | some place => { p with files := p.files.withFile place (some "") }

/-- Installs the log, unless there is one. -/
def installLog (p : Embedding Code) (settings : LogSettings) : Embedding Code :=
  if p.hasLog then p
  else
    { p.openLogFile settings with
      sink := some (.ofSettings p.readFilter p.environment settings)
      timing := settings.timing }

/-- Installs the log that the environment asks for, unless there is one. -/
def installLogFromEnvironment (p : Embedding Code) : Embedding Code :=
  p.installLog (.ofEnvironment p.environment)

/-- Reports events to the log. Without a log they are lost. -/
def report (p : Embedding Code) (events : List Event) : Embedding Code :=
  match p.sink with
  | none => p
  | some sink => { p with console := p.console ++ sink.console events }

/-! ## Sessions in a program -/

/-- Runs an action on a session; what it reports goes to the log of the program. -/
def run (p : Embedding Code) (s : Session Code Unit) (act : Act Code Unit ProxyError α) :
    Except ProxyError α × Session Code Unit × Embedding Code :=
  let s := { s with log := [], timing := p.timing }
  let (answer, s) := match act s with
    | .ok a s => (Except.ok a, s)
    | .error e s => (Except.error e, s)
  (answer, s, p.report s.log.reverse)

/-- Opens the bridge of a session over the standard catalog, and reports that it is ready. -/
def openStandard (config : Config) : Act Code Unit ProxyError Unit := do
  let _ ← Act.openBridge Catalog.standard config
  modify (·.emit (.bridgeReady config.registry.prewarm.length))

/-- The bridge of the program. -/
def installed (p : Embedding Code) : Except ProxyError (Installed Code) :=
  match p.bridge with
  | some b => .ok b
  | none => .error .notInitialized

/-- Installs a bridge over a table, unless there is one. -/
def install (p : Embedding Code) (table : Table Code) (config : Config) :
    Except ProxyError (Installed Code) × Embedding Code :=
  match p.bridge with
  | some b => (.ok b, p)
  | none =>
    let p := p.installLog config.logging.settings
    let (answer, session, p) := p.run (Session.new table p.timing ()) (openStandard config)
    let b := { serial := p.attempts, session }
    let p := { p with attempts := p.attempts + 1 }
    match answer with
    | .ok () => (.ok b, { p with bridge := some b })
    | .error e => (.error e, p)

/-- Runs an action on the session of the program's bridge. -/
def withBridge (p : Embedding Code) (act : Act Code Unit ProxyError α) :
    Except ProxyError α × Embedding Code :=
  match p.bridge with
  | none => (.error .notInitialized, p)
  | some b =>
    let (answer, session, p) := p.run b.session act
    (answer, { p with bridge := some { b with session } })

end Embedding

end ProxyBridge
