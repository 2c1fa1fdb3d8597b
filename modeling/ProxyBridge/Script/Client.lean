import ProxyBridge.Log.Filter
import ProxyBridge.Proxy.Wrap
import ProxyBridge.Script.Record
import ProxyBridge.Script.Step

/-!
# The client of a script

What a script knows while it runs: the slots it filled, how often each body has completed, and the
steps under way. A host value lives as long as a slot holds it, or a step under way that was given
it; with its last holder a proxy is destroyed.

* `Frame` — a step under way.
* `State.begin`, `State.finish` — the two ends of a step.
-/

namespace ProxyBridge.Script

/-- A step under way. -/
structure Frame where
  /-- The proxies that the step was given. -/
  uses : List Nat
  /-- The records of steps inside, the latest first. -/
  inner : List Record
  /-- The events of the step itself before the current stretch of the log. -/
  events : List Event
  /-- The length of the log where the current stretch begins. -/
  mark : Nat

/-- What a script knows. -/
structure Client where
  /-- The number of the bridge in each slot. -/
  bridges : List Nat
  values : List (Option HostValue)
  owned : List (Option Handle)
  shapes : List Shape
  /-- How often each body has completed, by site. -/
  runs : List Nat
  /-- The steps under way, the innermost first. -/
  frames : List Frame
  /-- The events that records show. -/
  filter : Filter

namespace Client

/-- A client that has done nothing. -/
def new (filter : Filter) : Client :=
  { bridges := [], values := [], owned := [], shapes := [], runs := [], frames := [], filter }

end Client

/-- A session that a script drives. -/
abbrev State := Session Code Client

/-- An action of a script. -/
abbrev Action (ε α : Type) := Act Code Client ε α

namespace State

/-- Changes what the script knows. -/
def onClient (s : State) (f : Client → Client) : State := { s with client := f s.client }

/-- Changes the innermost step under way. -/
def onFrame (s : State) (f : Frame → Frame) : State :=
  s.onClient fun c =>
    match c.frames with
    | [] => c
    | frame :: outer => { c with frames := f frame :: outer }

/-- The events since the log had a length, the first one first. -/
def eventsSince (s : State) (mark : Nat) : List Event :=
  (s.log.take (s.log.length - mark)).reverse

/-- The innermost step has seen the log up to here. -/
def collect (s : State) : State :=
  s.onFrame fun f => { f with events := f.events ++ s.eventsSince f.mark, mark := s.log.length }

/-- A slot or a step under way holds the proxy. -/
def isHeld (s : State) (id : Nat) : Bool :=
  s.client.values.contains (some (.proxy id)) ||
    s.client.frames.any fun f => f.uses.contains id

/-- Destroys the proxy unless somebody holds it. -/
def settle (s : State) (id : Nat) : State := if s.isHeld id then s else s.destroy id

/-- A step begins. -/
def begin (s : State) : State :=
  let s := s.collect
  s.onClient fun c =>
    { c with frames := { uses := [], inner := [], events := [], mark := s.log.length } :: c.frames }

/-- A step ends with an answer. The proxies that it was given and that nobody else holds are
destroyed before its record is made. -/
def finish (s : State) (answer : Answer) : Record × State :=
  let uses := (s.client.frames.head?.map (·.uses)).getD []
  let s := s.onFrame fun f => { f with uses := [] }
  let s := (uses.foldl settle s).collect
  let frame := s.client.frames.head?
  let record := Record.mk answer s.table.outstanding s.table.liveCount
    ((frame.map (·.inner.reverse)).getD [])
    (((frame.map (·.events)).getD []).filter s.client.filter.passes)
  let s := s.onClient fun c => { c with frames := c.frames.tail }
  (record, s.onFrame fun f => { f with mark := s.log.length })

/-- The record of a step inside goes to the step around it. -/
def addInner (s : State) (r : Record) : State :=
  s.onFrame fun f => { f with inner := r :: f.inner }

end State

/-! ## Slots -/

namespace Action

/-- What a slot holds; an empty or missing slot makes the step a bad one. -/
def slot {α : Type} (found : Client → Option α) : Action Answer α := do
  match found (← get).client with
  | some a => return a
  | none => throw .badStep

/-- The bridge in a slot. -/
def bridgeAt (rt : Nat) : Action Answer Nat := slot fun c => c.bridges[rt]?

/-- The host value in a slot. The step holds it from now on. -/
def valueAt (p : Nat) : Action Answer HostValue := do
  let v ← slot fun c => (c.values[p]?).join
  match v.proxy? with
  | some id => modify fun s => State.onFrame s fun f => { f with uses := id :: f.uses }
  | none => pure ()
  return v

/-- The proxy that a host value is. -/
def asProxy (v : HostValue) : Action Answer Proxy := do
  match (← get).proxyOf v with
  | some p => return p
  | none => throw .notAProxy

/-- The owned reference in a slot. -/
def ownedAt (o : Nat) : Action Answer Handle := slot fun c => (c.owned[o]?).join

/-- The shape in a slot. -/
def shapeAt (s : Nat) : Action Answer Shape := slot fun c => c.shapes[s]?

/-- Puts a host value into the next slot. -/
def pushValue (v : HostValue) : Action Answer Nat := do
  let n := (← get).client.values.length
  modify fun s => State.onClient s fun c => { c with values := c.values ++ [some v] }
  return n

/-- Puts an owned reference into the next slot, and answers so. -/
def pushOwned (h : Handle) : Action Answer Answer := do
  let n := (← get).client.owned.length
  modify fun s => State.onClient s fun c => { c with owned := c.owned ++ [some h] }
  return .owned n h

/-- Puts a shape into the next slot, and answers so. -/
def pushShape (shape : Shape) : Action Answer Answer := do
  let n := (← get).client.shapes.length
  modify fun s => State.onClient s fun c => { c with shapes := c.shapes ++ [shape] }
  return .shape shape n

/-- Puts a host value into the next slot and describes it. -/
def answerHost (v : HostValue) : Action Answer Answer := do
  let n ← pushValue v
  return .host ((← get).view v) (some n) none

/-- Answers a result of foreign code: nothing takes no slot. -/
def answerResult (v : HostValue) : Action Answer Answer :=
  if v.isNone then return .nothing else answerHost v

/-- An error of the foreign side is the answer. -/
def foreign {α : Type} (act : Action ForeignError α) : Action Answer α :=
  Act.mapError Answer.foreignError act

/-- An error of the bridge is the answer. -/
def proxied {α : Type} (act : Action ProxyError α) : Action Answer α :=
  Act.mapError Answer.proxyError act

end Action

end ProxyBridge.Script
