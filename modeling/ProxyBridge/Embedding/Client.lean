import ProxyBridge.Embedding.Basic

/-!
# Clients of a program

What a client can do with the state of a program, one request after another. All tables start empty,
so nothing in them has code to run.
-/

namespace ProxyBridge.Embedding

/-- A request to a program. -/
inductive Request where
  /-- Asks for the bridge. -/
  | bridge
  /-- Installs the bridge, over an empty table. -/
  | install (config : Config)
  /-- Wraps a value of the bridge's table, and destroys the proxy. -/
  | wrap (value : Handle)
  | installLogFromEnvironment
  | installLog (settings : LogSettings)
  /-- Asks for the state of the log. -/
  | log
  /-- Wraps a new value with a bridge of its own. -/
  | isolated (tag : Tag) (config : Config)

/-- The answer to a request. -/
inductive Answer where
  | error (e : ProxyError)
  /-- The bridge: whether it is the first one that an answer showed, the number of its shapes, and
  its configuration. -/
  | bridge (same : Bool) (shapes : Nat) (config : Config)
  /-- The name of a proxy's shape, and the number of proxies while it was there. -/
  | wrapped (shape : String) (live : Nat)
  | hasLog (installed : Bool)
  | log (installed timing : Bool)
  | shape (name : String)

/-- Foreign code where there is none. -/
def noCode : Environment Empty Unit := { run := nofun, decide := nofun }

/-- The program, and the serial number of the first bridge that an answer showed. -/
structure State where
  program : Embedding Empty
  seen : Option Nat

/-- Makes a proxy, looks at it, and destroys it. -/
def wrapOnce (value : Handle) : Act Empty Unit ProxyError (String × Nat) := do
  let id ← noCode.create 0 value
  let shape := (((← get).proxies.find? id).map (·.shape.name)).getD ""
  let live := (← Act.bridge 0).heap.live
  modify (·.destroy id)
  return (shape, live)

/-- Stores a value of a tag, and wraps it with a bridge that is opened for it. -/
def wrapIsolated (tag : Tag) (config : Config) : Act Empty Unit ProxyError String := do
  let value ← Act.insert (.ofTag tag)
  let _ ← Act.openBridge Catalog.standard config
  return (← wrapOnce value).1

/-- The answer that shows a bridge. -/
def State.show (s : State) (b : Except ProxyError (Installed Empty)) : Answer × State :=
  match b with
  | .error e => (.error e, s)
  | .ok b =>
    match b.session.bridges.head? with
    | none => (.error .notInitialized, s)
    | some bridge =>
      (.bridge (s.seen.getD b.serial == b.serial) bridge.registry.size bridge.config,
        { s with seen := some (s.seen.getD b.serial) })

/-- Answers a request. -/
def Request.answer (r : Request) (s : State) : Answer × State :=
  match r with
  | .bridge => s.show s.program.installed
  | .install config =>
    let (b, program) := s.program.install (.empty none) config
    State.show { s with program } b
  | .wrap value =>
    match s.program.withBridge (wrapOnce value) with
    | (.ok (shape, live), program) => (.wrapped shape live, { s with program })
    | (.error e, program) => (.error e, { s with program })
  | .installLogFromEnvironment =>
    let program := s.program.installLogFromEnvironment
    (.hasLog program.hasLog, { s with program })
  | .installLog settings =>
    let program := s.program.installLog settings
    (.hasLog program.hasLog, { s with program })
  | .log => (.log s.program.hasLog s.program.timing, s)
  | .isolated tag config =>
    let (answer, _, program) :=
      s.program.run (Session.new (.empty none) s.program.timing ()) (wrapIsolated tag config)
    (match answer with
      | .ok name => .shape name
      | .error e => .error e, { s with program })

/-- Answers requests one after another. -/
def answerAll : List Request → State → List Answer × State
  | [], s => ([], s)
  | r :: rest, s =>
    let (answer, s) := r.answer s
    let (answers, s) := answerAll rest s
    (answer :: answers, s)

end ProxyBridge.Embedding
