import ProxyBridge.Proxy.Behavior
import ProxyBridge.Script.Client

/-!
# What steps do

Each group of steps as actions of the session. Foreign code runs through the environment, which
is a parameter here.

* `ObjectSpec.make` — makes a value; its bodies get sites of their own.
* `Step.perform` — the action of a step, with its answer.
* `Step.run` — a step from beginning to end, with its record.
-/

namespace ProxyBridge.Script

/-! ## Making values -/

/-- A body as code, at a site of its own. -/
def Body.place {ε : Type} (b : Body) : Action ε Code := do
  let site := (← get).client.runs.length
  modify fun s => State.onClient s fun c => { c with runs := c.runs ++ [0] }
  return .body site b

mutual

/-- Makes a value. The new values among its members are stored first. -/
def ObjectSpec.make {ε : Type} (spec : ObjectSpec) : Action ε (Object Code) := do
  match spec with
  | .function body members => MemberSpec.addAll members (.function (← body.place))
  | .number x members => MemberSpec.addAll members (.ofNumber x)
  | .tag t members => MemberSpec.addAll members (.ofTag t)

/-- Adds members to a value, in order. -/
def MemberSpec.addAll {ε : Type} (specs : List MemberSpec) (o : Object Code) :
    Action ε (Object Code) := do
  match specs with
  | [] => return o
  | spec :: rest => MemberSpec.addAll rest (← spec.add o)

/-- Adds a member to a value. -/
def MemberSpec.add {ε : Type} (spec : MemberSpec) (o : Object Code) : Action ε (Object Code) := do
  match spec with
  | .number k x => return o.withMember k (.data (.number x))
  | .handle k h => return o.withMember k (.data (.handle h))
  | .new k child =>
    let h ← Act.insert (← child.make)
    return o.withMember k (.data (.handle h))
  | .getter k body => return o.withMember k (.accessor (← body.place))

end

/-! ## Steps by group -/

variable (env : Environment Code Client)

/-- Steps on the table. -/
def TableStep.perform : TableStep → Action Answer Answer
  | .duplicate h => do return .handle (← Action.foreign (Act.duplicate h))
  | .release h => do
    Act.release h
    return .done
  | .equals a b => return .flag (a == b)
  | .tag h => do return .text (← Action.foreign (Act.tagOf h)).name
  | .hasMethod h k => do return .flag (← Action.foreign (env.hasMethod h k))
  | .number h name => do return .number (← Action.foreign (env.number h name))
  | .member h k => do
    match ← Action.foreign (env.member h k) with
    | some m => return .handle m
    | none => return .nothing
  | .setMember h k v => do
    Action.foreign (Act.setMember h k v)
    return .done
  | .deleteMember h k => do return .flag (← Action.foreign (Act.deleteMember h k))
  | .memberNames h => do return .names (← Action.foreign (Act.memberNames h))
  | .invoke f receiver args => do
    return .handle (← Action.foreign (env.invoke f receiver args))
  | .info h => do
    let t := (← get).table
    return .info (t.refcount h) (t.isLive h) (t.number? h)
  | .outline => do return .text (← get).table.outline

/-- Steps on owned references. -/
def OwnerStep.perform : OwnerStep → Action Answer Answer
  | .duplicate h => do
    Action.foreign (Act.own h)
    Action.pushOwned h
  | .adopt h => do
    modify (·.adopt h)
    Action.pushOwned h
  | .clone o => do
    let h ← Action.ownedAt o
    Action.foreign (Act.own h)
    Action.pushOwned h
  | .outline o => do
    return .text (Outline.tuple "ForeignHandle" [(← Action.ownedAt o).outline])
  | .drop o => do
    let h ← Action.ownedAt o
    modify fun s => State.onClient s fun c => { c with owned := c.owned.set o none }
    modify (·.letGo h)
    return .done
  | .same o h => do return .flag ((← Action.ownedAt o) == h)
  | .equal o q => do return .flag ((← Action.ownedAt o) == (← Action.ownedAt q))
  | .ofProxy p => do
    let proxy ← Action.asProxy (← Action.valueAt p)
    Action.foreign (Act.own proxy.value)
    Action.pushOwned proxy.value

/-- Steps on the bridge with number `i`. -/
def BridgeStep.perform (i : Nat) : BridgeStep → Action Answer Answer
  | .stats => do return .stats (← Action.proxied (Act.bridge i)).stats
  | .config => do return .config (← Action.proxied (Act.bridge i)).config
  | .heap => do
    let b ← Action.proxied (Act.bridge i)
    return .heap b.heap b.catalog.capabilities.length true true
  | .outlines => do
    let b ← Action.proxied (Act.bridge i)
    return .texts (b.factoryOutline "?") (b.outline "?")
  | .capabilities h => do return .capabilities (← Action.proxied (env.capabilities i h))
  | .create h => do Action.answerHost (.proxy (← Action.proxied (env.create i h)))
  | .createBound h receiver => do
    Action.answerHost (.proxy (← Action.proxied (env.createBound i h receiver)))
  | .createTyped flags h receiver => do
    Action.answerHost (.proxy (← Action.proxied (Act.createTyped i flags h receiver)))
  | .createMap h asMap => do
    Action.answerHost (.proxy (← Action.proxied (env.createMap i h asMap)))
  | .resolve flags => do
    Action.pushShape (← Action.proxied (Act.resolveShape i flags none))
  | .resolveWithHint flags s => do
    let hint ← Action.shapeAt s
    Action.pushShape (← Action.proxied (Act.resolveShape i flags (some hint)))
  | .shapeOf flags => do
    let b ← Action.proxied (Act.bridge i)
    match b.registry.get? flags with
    | some shape => Action.pushShape shape
    | none => return .nothing
  | .plainShape => do
    let b ← Action.proxied (Act.bridge i)
    match b.registry.get? 0#32 with
    | some shape => Action.pushShape shape
    | none => return .nothing
  | .registry flags => do
    let r := (← Action.proxied (Act.bridge i)).registry
    return .registry r.size (r.contains flags) (r.outline "?")
  | .owns s => do
    let shape ← Action.shapeAt s
    return .flag ((← Action.proxied (Act.bridge i)).registry.owns shape)

/-- Steps on shapes. -/
def ShapeStep.perform : ShapeStep → Action Answer Answer
  | .ofProxy p => do
    let v ← Action.valueAt p
    match (← get).proxyOf v with
    | some proxy => Action.pushShape proxy.shape
    | none => return .nothing
  | .same s q => do return .flag ((← Action.shapeAt s).same (← Action.shapeAt q))
  | .require s slots => do
    let shape ← Action.shapeAt s
    match shape.require slots with
    | .ok () => return .requirement (shape.hasSlot slots) none
    | .error e => return .requirement (shape.hasSlot slots) (some e)
  | .outline s => do return .text (← Action.shapeAt s).outline

/-- Steps on host values. -/
def HostStep.perform : HostStep → Action Answer Answer
  | .make v => do
    let n ← Action.pushValue v
    let s ← get
    return .host (s.view v) (some n) (some (s.outlineOf v))
  | .view p => do
    let v ← Action.valueAt p
    return .host ((← get).view v) none none
  | .outline p => do
    let v ← Action.valueAt p
    return .text ((← get).outlineOf v)
  | .bridge p => do
    let v ← Action.valueAt p
    let s ← get
    match (s.proxyOf v).bind fun proxy => s.client.bridges.findIdx? (· == proxy.bridge) with
    | some rt => return .count rt
    | none => return .nothing
  | .clone p => do
    let v ← Action.valueAt p
    return .count (← Action.pushValue v)
  | .drop p => do
    let _ ← Action.valueAt p
    modify fun s => State.onClient s fun c => { c with values := c.values.set p none }
    return .done

/-- Behaviours of the proxy in a slot. -/
def ProxyStep.perform (p : Nat) (step : ProxyStep) : Action Answer Answer := do
  let v ← Action.valueAt p
  match step with
  | .call args =>
    let proxy ← Action.asProxy v
    Action.answerResult (← Action.proxied (env.call proxy args))
  | .rebind receiver =>
    let proxy ← Action.asProxy v
    Action.answerHost (.proxy (← Action.proxied (Act.rebind proxy receiver)))
  | .len => return .length (← Action.proxied (env.len (← Action.asProxy v)))
  | .isEmpty => return .flag (← Action.proxied (env.isEmpty (← Action.asProxy v)))
  | .keys => return .names (← Action.proxied (Act.keys (← Action.asProxy v)))
  | .getAttr name =>
    let proxy ← Action.asProxy v
    Action.answerResult (← Action.proxied (env.getAttr proxy name))
  | .setAttr name value =>
    let proxy ← Action.asProxy v
    Action.proxied (Act.setAttr proxy name value)
    return .done
  | .getItem name =>
    let proxy ← Action.asProxy v
    Action.answerResult (← Action.proxied (env.getItem proxy name))
  | .setItem name value =>
    let proxy ← Action.asProxy v
    Action.proxied (Act.setItem proxy name value)
    return .done
  | .deleteItem name =>
    let proxy ← Action.asProxy v
    Action.proxied (Act.deleteItem proxy name)
    return .done
  | .hasItem name => return .flag (← Action.proxied (Act.hasItem (← Action.asProxy v) name))
  | .sameValue q =>
    let w ← Action.valueAt q
    let a ← Action.asProxy v
    let b ← Action.asProxy w
    return .flags (a.value == b.value) (a.value == b.value)

/-- Registers capabilities one after another, up to the first that is refused. -/
def registerAll (catalog : Catalog Code) :
    List (Capability Code) → Except ProxyError (Catalog Code)
  | [] => .ok catalog
  | d :: rest => do registerAll (← catalog.register d) rest

/-! ## All steps -/

/-- The action of a step. -/
def Step.perform (step : Step) : Action Answer Answer := do
  match step with
  | .mark label => return .mark label
  | .insert spec => return .handle (← Act.insert (← spec.make))
  | .describe spec =>
    let o ← spec.make
    return .object o.tag o.outline
  | .openBridge config standard register =>
    let base := if standard then Catalog.standard else Catalog.empty
    let catalog ← Action.proxied (Act.ofExcept (registerAll base register))
    let i ← Action.proxied (Act.openBridge catalog config)
    let slot := (← get).client.bridges.length
    modify fun s => State.onClient s fun c => { c with bridges := c.bridges ++ [i] }
    return .opened slot (← Action.proxied (Act.bridge i)).stats
  | .table step => step.perform env
  | .owner step => step.perform
  | .bridge rt step => step.perform env (← Action.bridgeAt rt)
  | .shape step => step.perform
  | .host step => step.perform
  | .proxy p step => step.perform env p
  | .emit e =>
    modify (·.emit e)
    return .done
  | .timed operation =>
    let active := (← get).timing
    if active then modify (·.emit (.operationCompleted operation))
    return .flag active
  | .timing on =>
    match on with
    | some on => modify fun s => { s with timing := on }
    | none => pure ()
    return .flag (← get).timing

/-- A step from beginning to end. -/
def Step.run (step : Step) (s : State) : Record × State :=
  match step.perform env (State.begin s) with
  | .ok answer s => State.finish s answer
  | .error answer s => State.finish s answer

end ProxyBridge.Script
