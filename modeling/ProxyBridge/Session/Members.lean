import ProxyBridge.Session.References

/-!
# Reading, writing and calling foreign values

The operations that the bridge needs of foreign values. A read of a data member yields what is
stored, with a reference of its own; a read of an accessor runs foreign code, and so does a call.
Foreign code runs while nothing is half done, so it may use every operation itself.

* `Environment.read`, `Environment.member` — read a member.
* `Environment.hasMethod`, `Environment.number` — look at a member without keeping it.
* `Environment.invoke` — calls a value.
* `Act.setMember`, `Act.deleteMember`, `Act.memberNames`, `Act.tagOf` — run no foreign code.
-/

namespace ProxyBridge

variable {Code Client ε : Type}

namespace Act

/-- The object stored under a handle. -/
def object (h : Handle) : Act Code Client ForeignError (Object Code) := fun s =>
  ofExcept (s.table.object h) s

/-- The tag of a value. -/
def tagOf (h : Handle) : Act Code Client ForeignError Tag := do
  return (← object h).tag

/-- The names of the named members of a value, in order. -/
def memberNames (h : Handle) : Act Code Client ForeignError (List String) := do
  return (← object h).memberNames

/-- Turns a result into a handle with a reference: a number becomes a new value, and `undefined`
the pinned one. -/
def materialize (v : Value) : Act Code Client ForeignError Handle :=
  match v with
  | .handle h => pure h
  | .number x => insert (.ofNumber x)
  | .undefined => do
    onTable (·.retain Handle.undefined)
    return Handle.undefined

/-- Stores a value as a member, with a reference of its own. The reference that the member held
before is given back last. -/
def setMember (h : Handle) (k : Key) (v : Handle) : Act Code Client ForeignError Unit := do
  let o ← object h
  onTable (·.retain v)
  modify fun s => { s with table := s.table.putMember h k (.data (.handle v)) }
  match (o.members.find? k).bind Member.owned? with
  | some old => release old
  | none => pure ()

/-- Removes a member, gives back the reference it held, and says whether there was one. -/
def deleteMember (h : Handle) (k : Key) : Act Code Client ForeignError Bool := do
  let o ← object h
  modify fun s => { s with table := s.table.dropMember h k }
  match o.members.find? k with
  | none => return false
  | some m =>
    match m.owned? with
    | some old => release old
    | none => pure ()
    return true

end Act

namespace Environment

variable (env : Environment Code Client)

/-- Reads a member. What is read carries a reference; a missing member reads as `undefined`. -/
def read (h : Handle) (k : Key) : Act Code Client ForeignError Value := do
  let o ← Act.object h
  match o.members.find? k with
  | none => return .undefined
  | some (.data (.handle target)) =>
    Act.onTable (·.retain target)
    return .handle target
  | some (.data v) => return v
  | some (.accessor getter) => env.run getter none []

/-- The member is a method. -/
def hasMethod (h : Handle) (k : Key) : Act Code Client ForeignError Bool := do
  match ← env.read h k with
  | .handle m =>
    let found := (← get).table.isMethod m
    Act.release m
    return found
  | .number _ | .undefined => return false

/-- The number that a named member is, directly or as a value of its own. -/
def number (h : Handle) (name : String) : Act Code Client ForeignError (Option Double) := do
  match ← env.read h (.named name) with
  | .number x => return some x
  | .handle m =>
    let found := (← get).table.number? m
    Act.release m
    return found
  | .undefined => return none

/-- The first number among named members. -/
def firstNumber (h : Handle) : List String → Act Code Client ForeignError (Option Double)
  | [] => return none
  | name :: rest => do
    match ← env.number h name with
    | some x => return some x
    | none => firstNumber h rest

/-- Reads a member as a value with a reference; nothing if it is missing or `undefined`. -/
def member (h : Handle) (k : Key) : Act Code Client ForeignError (Option Handle) := do
  match ← env.read h k with
  | .undefined => return none
  | v => return some (← Act.materialize v)

/-- Calls a value. Its result is a value with a reference for the caller. -/
def invoke (f : Handle) (receiver : Option Handle) (args : List Handle) :
    Act Code Client ForeignError Handle := do
  match (← Act.object f).body with
  | none => throw (.notFunction f)
  | some body => Act.materialize (← env.run body receiver args)

end Environment

end ProxyBridge
