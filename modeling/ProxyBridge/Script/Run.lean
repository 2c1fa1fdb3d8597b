import ProxyBridge.Script.Perform

/-!
# Running scripts

Foreign code in a script is script again, so the environment of a script runs the steps of bodies
in an environment in which one body fewer can run inside. Where none is left, foreign code fails at
once.

* `environment` — what foreign code does, by the number of bodies that can still be nested.
* `Scenario.run` — a whole script, with the state in which it ends.
-/

namespace ProxyBridge.Script

/-- The error of foreign code that is nested too deep. -/
def tooMuchRecursion : ForeignError := ⟨"InternalError", "too much recursion"⟩

/-- The bodies that can be nested. -/
def maxDepth : Nat := 8

/-- Runs steps inside the step under way. -/
def runInside (env : Environment Code Client) (steps : List Step) : Action ForeignError Unit :=
  fun s => .ok () (steps.foldl (fun s step =>
    let (record, s) := step.run env s
    State.addInner s record) s)

/-- The number of completed runs of the body at a site, which is one more afterwards. -/
def completeRun (site : Nat) : Action ForeignError Nat := do
  let n := ((← get).client.runs[site]?).getD 0
  modify fun s => State.onClient s fun c => { c with runs := c.runs.set site (n + 1) }
  return n

/-- The result of the run after `n` completed ones. -/
def Results.pick (rs : Results) (n : Nat) : Result :=
  match rs with
  | .always r => r
  | .each rs => (rs[n]?.or rs.getLast?).getD .undefined

/-- The value of a result. -/
def Result.eval (r : Result) (receiver : Option Handle) (args : List Handle) :
    Action ForeignError Value := do
  match r with
  | .undefined => return .undefined
  | .number x => return .number x
  | .raises e => throw e
  | .handle h => return .handle h
  | .duplicate h => return .handle (← Act.duplicate h)
  | .receiver =>
    match receiver with
    | some h => return .handle (← Act.duplicate h)
    | none => return .undefined
  | .receiverId =>
    match receiver with
    | some h => return .number (.ofNat h.id)
    | none => return .undefined
  | .argCount => return .number (.ofNat args.length)
  | .arg i =>
    match args[i]? with
    | some h => return .handle (← Act.duplicate h)
    | none => return .undefined
  | .new spec => return .handle (← Act.insert (← spec.make))

/-- Runs a body. The code of a probe is no body and has no result. -/
def runBody (env : Environment Code Client) (code : Code) (receiver : Option Handle)
    (args : List Handle) : Action ForeignError Value := do
  match code with
  | .body site (.mk steps results) =>
    runInside env steps
    let n ← completeRun site
    (results.pick n).eval receiver args
  | .probe .. => return .undefined

/-- Asks the code of a probe: its steps run, and then its verdict is found. A body is no probe and
answers no. -/
def runProbe (env : Environment Code Client) (code : Code) (h : Handle)
    (detected : Capabilities) : Action ForeignError Bool := do
  match code with
  | .probe steps condition verdict =>
    runInside env steps
    if !detected.includes condition then return false
    else
      match verdict with
      | .always answer => return answer
      | .raises e => throw e
      | .hasMethod k => env.hasMethod h k
      | .isNumber name => return (← env.number h name).isSome
  | .body .. => return false

/-- What foreign code does if `depth` bodies can still be nested. A probe counts as a body until its
verdict is found. -/
def environment : Nat → Environment Code Client
  | 0 =>
    { run := fun _ _ _ => throw tooMuchRecursion
      decide := fun _ _ _ => throw tooMuchRecursion }
  | depth + 1 =>
    { run := runBody (environment depth)
      decide := runProbe (environment depth) }

/-- A script with the setting in which it runs. -/
structure Scenario where
  steps : List Step
  /-- The reference limit of the table. -/
  limit : Option Nat := none
  /-- The level up to which records show events; none shows no events. -/
  logLevel : Option Level := none
  /-- Operations that can be timed are timed. -/
  timing : Bool := false

namespace Scenario

/-- The session in which a script begins. -/
def start (scenario : Scenario) : State :=
  let filter := (scenario.logLevel.map Filter.default).getD []
  Session.new (.empty scenario.limit) scenario.timing (.new filter)

/-- Runs steps one after another. -/
def runSteps (env : Environment Code Client) : List Step → State → List Record × State
  | [], s => ([], s)
  | step :: rest, s =>
    let (record, s) := step.run env s
    let (records, s) := runSteps env rest s
    (record :: records, s)

/-- Gives up the host values in all slots, in order. -/
def dropValues (s : State) : State :=
  (List.range s.client.values.length).foldl (fun s p =>
    let held := (s.client.values[p]?).join
    let s := State.onClient s fun c => { c with values := c.values.set p none }
    match held.bind HostValue.proxy? with
    | some id => State.settle s id
    | none => s) s

/-- Gives up the owned references in all slots, in order. -/
def dropOwned (s : State) : State :=
  (s.client.owned.filterMap id).foldl (fun s h => s.letGo h) s

/-- What is left of a session when the script gives up everything. -/
def ending (s : State) : Ending :=
  let s := dropOwned (dropValues s)
  { outstanding := s.table.outstanding
    next := s.table.nextId
    references := s.table.entries.map fun e => (e.1, e.2.refcount)
    stats := s.client.bridges.filterMap fun i => (s.bridges[i]?).map Bridge.stats }

/-- Runs a script. -/
def run (scenario : Scenario) : List Record × Ending :=
  let (records, s) := runSteps (environment maxDepth) scenario.steps scenario.start
  (records, ending s)

end Scenario

end ProxyBridge.Script
