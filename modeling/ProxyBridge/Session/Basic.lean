import ProxyBridge.Bridge.Basic
import ProxyBridge.Proxy.Basic
import ProxyBridge.Table.Release

/-!
# Sessions

A session is everything that exists while a host and a foreign environment work together: the table
of foreign values, the bridges over it, the proxies that are alive, the references that somebody
owns, and the log. Client code keeps state of its own in it, so that foreign code that runs in the
middle of an operation can change what the client knows.

An `Act` changes a session and has a result or an error; an error keeps the changes made before it.
An `Environment` says what foreign code does when it runs. Operations take it as a parameter, so
what is true of them for every environment is true whatever foreign code does.
-/

namespace ProxyBridge

/-- The state of a host and a foreign environment at work. -/
structure Session (Code Client : Type) where
  table : Table Code
  /-- The references that are owned: by proxies, by the client, and by operations under way. Each
  owned reference occurs once. -/
  owned : List Handle
  /-- Every bridge whose registry was made, by number. -/
  bridges : List (Bridge Code)
  /-- The proxies that are alive, by number. -/
  proxies : Dict Nat Proxy
  /-- The number of the next proxy. -/
  nextProxy : Nat
  /-- The events so far, the newest first. -/
  log : List Event
  /-- Operations that can be timed are timed. -/
  timing : Bool
  client : Client

/-- A change of a session with a result, or with an error that keeps the changes before it. -/
abbrev Act (Code Client ε α : Type) := EStateM ε (Session Code Client) α

/-- What foreign code does. -/
structure Environment (Code Client : Type) where
  /-- Runs code with a receiver and arguments; a getter has neither. -/
  run : Code → Option Handle → List Handle → Act Code Client ForeignError Value
  /-- Asks the code of a probe about a value, given the capabilities detected so far. -/
  decide : Code → Handle → Capabilities → Act Code Client ForeignError Bool

variable {Code Client ε α : Type}

namespace Session

/-- A session with a table, and nothing else yet. -/
def new (table : Table Code) (timing : Bool) (client : Client) : Session Code Client :=
  { table, owned := [], bridges := [], proxies := [], nextProxy := 0, log := [], timing, client }

/-- Adds an event to the log. -/
def emit (s : Session Code Client) (e : Event) : Session Code Client :=
  { s with log := e :: s.log }

/-- Adds events to the log, the first one first. -/
def emitAll (s : Session Code Client) (es : List Event) : Session Code Client :=
  { s with log := es.reverse ++ s.log }

/-- Replaces a bridge. -/
def setBridge (s : Session Code Client) (i : Nat) (b : Bridge Code) : Session Code Client :=
  { s with bridges := s.bridges.set i b }

end Session

namespace Act

/-- The result of a computation that does not touch the session. -/
def ofExcept (r : Except ε α) : Act Code Client ε α := fun s =>
  match r with
  | .ok a => .ok a s
  | .error e => .error e s

/-- Restates the error of an action. -/
def mapError {ε' : Type} (f : ε → ε') (act : Act Code Client ε α) : Act Code Client ε' α :=
  fun s =>
    match act s with
    | .ok a s => .ok a s
    | .error e s => .error (f e) s

/-- An error of the foreign side becomes an error of the bridge. -/
def foreign (act : Act Code Client ForeignError α) : Act Code Client ProxyError α :=
  act.mapError .foreign

/-- Changes the session once more if the action fails. -/
def onError (act : Act Code Client ε α)
    (f : ε → Session Code Client → Session Code Client) : Act Code Client ε α := fun s =>
  match act s with
  | .ok a s => .ok a s
  | .error e s => .error e (f e s)

/-- Replaces the table by the result of a computation on it. -/
def onTable (f : Table Code → Except ε (Table Code)) : Act Code Client ε Unit := fun s =>
  match f s.table with
  | .ok table => .ok () { s with table }
  | .error e => .error e s

/-- The bridge with a number. -/
def bridge (i : Nat) : Act Code Client ProxyError (Bridge Code) := fun s =>
  match s.bridges[i]? with
  | some b => .ok b s
  | none => .error .notInitialized s

end Act

end ProxyBridge
