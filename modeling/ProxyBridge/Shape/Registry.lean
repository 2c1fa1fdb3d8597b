import ProxyBridge.Shape.Basic
import ProxyBridge.Log.Event

/-!
# The shape registry

A registry binds each mask that was asked for to one shape. It may hold at most `maxShapes` shapes,
the plain shape of the empty mask included, and it counts what it does.

A request runs in four atomic steps, between which other requests may run:

1. look the mask up, and count a hit or a miss;
2. after a miss, refuse if the registry is full;
3. take a number and compose a shape;
4. with the mask locked, adopt the shape that the mask has got meanwhile, or reserve a place and
   bind the new one.

`Registry.step` is one step of one request; `Registry.resolve` is a request that runs without
interruption. Requests that interrupt one another are in `ProxyBridge.Shape.Contest`.
-/

namespace ProxyBridge

/-- The shapes of a bridge, with the counters. -/
structure Registry where
  /-- Tells this registry from all others. -/
  id : Nat
  /-- The shape of each mask, in the order of registration. -/
  shapes : List (Capabilities × Shape)
  maxShapes : Option Nat
  /-- The number of places taken. -/
  registered : Nat
  /-- The number of the next composed shape. It has 32 bits in a program; that it wraps around,
  after `2 ^ 32` compositions, is left aside. -/
  nextShape : Nat
  /-- Requests answered from the map. -/
  hits : Nat
  /-- Requests that the map could not answer. -/
  misses : Nat
  /-- Requests answered by the hint that came with them. -/
  hintHits : Nat
  /-- Shapes composed and bound. -/
  syntheses : Nat
  /-- Shapes composed and dropped, since the mask had one. -/
  discarded : Nat
deriving DecidableEq, Repr

/-- How far a request has come. -/
inductive Request.Phase where
  | lookup
  | admission
  | synthesis
  /-- A shape is composed; `timed` says that the composition is timed. -/
  | insertion (shape : Shape) (timed : Bool)
  | done (answer : Except ProxyError Shape)

/-- A request for the shape of a mask, under way. -/
structure Request where
  flags : Capabilities
  phase : Request.Phase

namespace Request

/-- A request that has not begun. -/
def start (flags : Capabilities) : Request := { flags, phase := .lookup }

/-- The answer of a finished request. -/
def answer? (r : Request) : Option (Except ProxyError Shape) :=
  match r.phase with
  | .done answer => some answer
  | _ => none

/-- The request with its answer. -/
def finish (r : Request) (answer : Except ProxyError Shape) : Request :=
  { r with phase := .done answer }

end Request

namespace Registry

variable {Code : Type}

/-- A registry with the plain shape only. No registry has room for less. -/
def new (catalog : Catalog Code) (id : Nat) (maxShapes : Option Nat) :
    Except ProxyError Registry :=
  if maxShapes = some 0 then .error .registryFull
  else .ok
    { id, shapes := [(0#32, Shape.compose catalog id 0 0#32)], maxShapes, registered := 1
      nextShape := 1, hits := 0, misses := 0, hintHits := 0, syntheses := 0, discarded := 0 }

/-! ## Queries -/

/-- The shape bound to a mask. -/
def get? (r : Registry) (flags : Capabilities) : Option Shape := r.shapes.lookup flags

/-- The mask has a shape. -/
def contains (r : Registry) (flags : Capabilities) : Bool := (r.get? flags).isSome

/-- The number of bound masks. -/
def size (r : Registry) : Nat := r.shapes.length

/-- The shape was made by this registry. -/
def owns (r : Registry) (s : Shape) : Bool := s.registry == r.id

/-- All places are taken. -/
def isFull (r : Registry) : Bool :=
  match r.maxShapes with
  | none => false
  | some max => max ≤ r.registered

/-- The outline of a registry. Its own number is shown as `shownId`. -/
def outline (r : Registry) (shownId : String) : String :=
  Outline.record "ShapeRegistry"
    [("id", shownId), ("shapes", toString r.size),
     ("max_shapes", Outline.option (r.maxShapes.map toString))]

/-! ## The steps of a request -/

/-- The name under which compositions are timed. -/
def synthesisName : String := "shape_synthesis"

/-- The events at the end of a composition. -/
def timing (timed : Bool) : List Event :=
  if timed then [.operationCompleted synthesisName] else []

/-- The refusal of a request. -/
def refusal (r : Registry) (flags : Capabilities) : Event :=
  .registryExhausted flags (r.maxShapes.getD 0)

/-- Step 1: looks the mask up. -/
def lookupStep (r : Registry) (q : Request) : Registry × Request × List Event :=
  match r.get? q.flags with
  | some shape => ({ r with hits := r.hits + 1 }, q.finish (.ok shape), [])
  | none => ({ r with misses := r.misses + 1 }, { q with phase := .admission }, [])

/-- Step 2: refuses if the registry is full. -/
def admissionStep (r : Registry) (q : Request) : Registry × Request × List Event :=
  if r.isFull then (r, q.finish (.error .registryFull), [r.refusal q.flags])
  else (r, { q with phase := .synthesis }, [])

/-- Step 3: takes a number and composes a shape. -/
def synthesisStep (catalog : Catalog Code) (timed : Bool) (r : Registry) (q : Request) :
    Registry × Request × List Event :=
  let shape := Shape.compose catalog r.id r.nextShape q.flags
  ({ r with nextShape := r.nextShape + 1 }, { q with phase := .insertion shape timed }, [])

/-- Step 4: binds the shape, unless the mask has one by now or the last place is gone. -/
def insertionStep (r : Registry) (q : Request) (shape : Shape) (timed : Bool) :
    Registry × Request × List Event :=
  match r.get? q.flags with
  | some existing =>
    ({ r with discarded := r.discarded + 1 }, q.finish (.ok existing),
      .synthesisDiscarded q.flags :: timing timed)
  | none =>
    if r.isFull then
      (r, q.finish (.error .registryFull), r.refusal q.flags :: timing timed)
    else
      ({ r with
          shapes := r.shapes ++ [(q.flags, shape)]
          registered := r.registered + 1
          syntheses := r.syntheses + 1 },
        q.finish (.ok shape),
        .shapeSynthesized q.flags shape.name shape.slotTable.length :: timing timed)

/-- One step of a request. A finished request stays as it is. -/
def step (catalog : Catalog Code) (timed : Bool) (r : Registry) (q : Request) :
    Registry × Request × List Event :=
  match q.phase with
  | .lookup => r.lookupStep q
  | .admission => r.admissionStep q
  | .synthesis => r.synthesisStep catalog timed q
  | .insertion shape timed => r.insertionStep q shape timed
  | .done _ => (r, q, [])

/-- A number of steps of one request, with nothing in between. -/
def steps (catalog : Catalog Code) (timed : Bool) :
    Nat → Registry → Request → Registry × Request × List Event
  | 0, r, q => (r, q, [])
  | n + 1, r, q =>
    let (r, q, events) := r.step catalog timed q
    let (r, q, more) := steps catalog timed n r q
    (r, q, events ++ more)

/-! ## Requests without interruption -/

/-- A whole request: the shape of the mask, composed and bound if there was none. Four steps
finish every request. -/
def resolve (catalog : Catalog Code) (timed : Bool) (r : Registry) (flags : Capabilities) :
    Except ProxyError Shape × Registry × List Event :=
  let (r, q, events) := steps catalog timed 4 r (.start flags)
  (q.answer?.getD (.error .registryFull), r, events)

/-- A request that comes with a shape: the shape is the answer if it is this registry's shape for
exactly this mask. -/
def resolveWithHint (catalog : Catalog Code) (timed : Bool) (r : Registry)
    (flags : Capabilities) (hint : Shape) : Except ProxyError Shape × Registry × List Event :=
  if hint.flags = flags ∧ r.owns hint then
    (.ok hint, { r with hintHits := r.hintHits + 1 }, [])
  else r.resolve catalog timed flags

end Registry

end ProxyBridge
