import ProxyBridge.Bridge.Basic
import ProxyBridge.Proxy.Basic

/-!
# Scripts

A script is a list of steps with which a client drives a session. Steps name what they made before
by slots: bridges, host values, owned references and shapes, each kind numbered from zero. The
foreign code of a script is made of scripts again: a body is a list of steps with a result, so a
step that runs foreign code runs steps inside.

* `TableStep`, `OwnerStep`, `BridgeStep`, `ShapeStep`, `HostStep`, `ProxyStep` — steps by what they
  act on.
* `Step` — all steps; those here carry foreign code.
* `Body`, `Result`, `ObjectSpec` — foreign code, and the values that it makes.
* `Code` — foreign code where it runs: in a value, or in a probe.
-/

namespace ProxyBridge.Script

/-- Steps on the table of foreign values. -/
inductive TableStep where
  | duplicate (h : Handle)
  | release (h : Handle)
  | equals (a b : Handle)
  | tag (h : Handle)
  | hasMethod (h : Handle) (k : Key)
  | number (h : Handle) (name : String)
  | member (h : Handle) (k : Key)
  | setMember (h : Handle) (k : Key) (v : Handle)
  | deleteMember (h : Handle) (k : Key)
  | memberNames (h : Handle)
  | invoke (f : Handle) (receiver : Option Handle) (args : List Handle)
  | info (h : Handle)
  | outline

/-- Steps on references that the client owns. -/
inductive OwnerStep where
  /-- Takes a reference. -/
  | duplicate (h : Handle)
  /-- Takes over a reference that is there already. -/
  | adopt (h : Handle)
  | clone (o : Nat)
  | outline (o : Nat)
  | drop (o : Nat)
  | same (o : Nat) (h : Handle)
  | equal (o q : Nat)
  /-- Takes a reference to the value of a proxy. -/
  | ofProxy (p : Nat)

/-- Steps on a bridge. -/
inductive BridgeStep where
  | stats
  | config
  | heap
  | outlines
  | capabilities (h : Handle)
  | create (h : Handle)
  | createBound (h receiver : Handle)
  | createTyped (flags : Capabilities) (h : Handle) (receiver : Option Handle)
  | createMap (h : Handle) (asMap : Bool)
  | resolve (flags : Capabilities)
  | resolveWithHint (flags : Capabilities) (s : Nat)
  | shapeOf (flags : Capabilities)
  | plainShape
  | registry (flags : Capabilities)
  | owns (s : Nat)

/-- Steps on shapes. -/
inductive ShapeStep where
  | ofProxy (p : Nat)
  | same (s q : Nat)
  | require (s : Nat) (slots : Slots)
  | outline (s : Nat)

/-- Steps on host values. -/
inductive HostStep where
  | make (v : HostValue)
  | view (p : Nat)
  | outline (p : Nat)
  /-- Which bridge made the proxy. -/
  | bridge (p : Nat)
  | clone (p : Nat)
  | drop (p : Nat)

/-- Behaviours of a proxy. -/
inductive ProxyStep where
  | call (args : List Handle)
  | rebind (receiver : Handle)
  | len
  | isEmpty
  | keys
  | getAttr (name : String)
  | setAttr (name : String) (v : Handle)
  | getItem (name : String)
  | setItem (name : String) (v : Handle)
  | deleteItem (name : String)
  | hasItem (name : String)
  | sameValue (q : Nat)

/-- What the code of a probe answers once its steps have run. -/
inductive Verdict where
  | always (answer : Bool)
  | raises (e : ForeignError)
  | hasMethod (k : Key)
  | isNumber (name : String)

mutual

/-- One step of a script. -/
inductive Step where
  /-- Leaves a mark in the record, under a label of the client's. -/
  | mark (label : String)
  /-- Stores a value in the table. -/
  | insert (spec : ObjectSpec)
  /-- Makes a value without storing it. -/
  | describe (spec : ObjectSpec)
  /-- Opens a bridge over a catalog, with further capabilities registered in it. -/
  | openBridge (config : Config) (standard : Bool) (register : List (Capability Code))
  | table (step : TableStep)
  | owner (step : OwnerStep)
  | bridge (rt : Nat) (step : BridgeStep)
  | shape (step : ShapeStep)
  | host (step : HostStep)
  | proxy (p : Nat) (step : ProxyStep)
  /-- Reports an event. -/
  | emit (e : Event)
  /-- Times an operation that ends at once. -/
  | timed (operation : String)
  /-- Turns timing on or off, or leaves it. -/
  | timing (on : Option Bool)

/-- The body of a function or a getter: steps, and a result. -/
inductive Body where
  | mk (steps : List Step) (results : Results)

/-- The results of the runs of a body. -/
inductive Results where
  | always (r : Result)
  /-- One for each completed run, and the last one from then on. -/
  | each (rs : List Result)

/-- The result of a run. -/
inductive Result where
  | undefined
  | number (x : Double)
  | raises (e : ForeignError)
  /-- A handle without a reference. -/
  | handle (h : Handle)
  | duplicate (h : Handle)
  | receiver
  | receiverId
  | argCount
  | arg (i : Nat)
  /-- A new value. -/
  | new (spec : ObjectSpec)

/-- A value to be made. -/
inductive ObjectSpec where
  | function (body : Body) (members : List MemberSpec)
  | number (x : Double) (members : List MemberSpec)
  | tag (t : Tag) (members : List MemberSpec)

/-- A member of a value to be made. -/
inductive MemberSpec where
  | number (k : Key) (x : Double)
  /-- Takes over a reference, which need not be there. -/
  | handle (k : Key) (h : Handle)
  | new (k : Key) (spec : ObjectSpec)
  | getter (k : Key) (body : Body)

/-- Foreign code where it runs. -/
inductive Code where
  /-- A body in a value. The site tells it from every other body. -/
  | body (site : Nat) (b : Body)
  /-- The code of a probe: steps, then a verdict if these capabilities were detected. -/
  | probe (steps : List Step) (condition : Capabilities) (verdict : Verdict)

end

end ProxyBridge.Script
