import ProxyBridge.Config.Basic
import ProxyBridge.Shape.Registry

/-!
# Concurrent requests

A contest is a registry with any number of requests on it. The requests take their steps in the
order of a schedule, so that every interleaving is a schedule, and what holds for every schedule
holds however requests run at the same time.

* `Contest.run` — the contest after a schedule.
* `Contest.summary` — what the requests got, told without the order in which they ran.
-/

namespace ProxyBridge

/-- A registry with the requests that run on it. -/
structure Contest where
  registry : Registry
  requests : List Request

/-- What can be said of a finished contest whatever the schedule was. -/
structure Contest.Summary where
  /-- The requests that got a shape. -/
  successes : Nat
  /-- The errors of the other requests. -/
  refusals : List ProxyError
  /-- The masks that have a shape. -/
  shapes : Nat
  syntheses : Nat
  /-- Hits and misses together. -/
  lookups : Nat
  /-- Every shape that a request got is the one bound to its mask. -/
  canonical : Bool
  /-- Every miss ended in a synthesis, in a discarded one, or in a refusal. -/
  accounted : Bool

namespace Contest

variable {Code : Type}

/-- Requests for masks, none of them begun. -/
def start (registry : Registry) (masks : List Capabilities) : Contest :=
  { registry, requests := masks.map Request.start }

/-- The request at a position takes one step. -/
def step (catalog : Catalog Code) (timed : Bool) (c : Contest) (i : Nat) : Contest :=
  match c.requests[i]? with
  | none => c
  | some q =>
    let (registry, q, _) := c.registry.step catalog timed q
    { registry, requests := c.requests.set i q }

/-- Requests take steps in the order of a schedule. -/
def run (catalog : Catalog Code) (timed : Bool) (c : Contest) (schedule : List Nat) : Contest :=
  schedule.foldl (fun c i => c.step catalog timed i) c

/-- The schedule that lets every request run to its end before the next one begins. -/
def oneByOne (requests : Nat) : List Nat := (List.range requests).flatMap (List.replicate 4)

/-- The answers of the finished requests, in the order of the requests. -/
def answers (c : Contest) : List (Except ProxyError Shape) := c.requests.filterMap (·.answer?)

/-- The shapes that finished requests got, each with the mask that was asked for. -/
def granted (c : Contest) : List (Capabilities × Shape) :=
  c.requests.filterMap fun q =>
    match q.answer? with
    | some (.ok shape) => some (q.flags, shape)
    | _ => none

/-- The errors that finished requests got. -/
def refused (c : Contest) : List ProxyError :=
  c.requests.filterMap fun q =>
    match q.answer? with
    | some (.error e) => some e
    | _ => none

/-- What can be said of the contest. -/
def summary (c : Contest) : Summary :=
  { successes := c.granted.length
    refusals := c.refused
    shapes := c.registry.size
    syntheses := c.registry.syntheses
    lookups := c.registry.hits + c.registry.misses
    canonical := c.granted.all fun g => c.registry.get? g.1 == some g.2
    accounted :=
      c.registry.misses == c.registry.syntheses + c.registry.discarded + c.refused.length }

end Contest

/-- The contest of requests for the given masks on a new registry over the standard catalog, each
request running to its end before the next one begins. -/
def Contest.standard (Code : Type) (config : RegistryConfig) (masks : List Capabilities) :
    Except ProxyError Contest := do
  let catalog : Catalog Code := Catalog.standard
  let registry ← Registry.new catalog 0 config.maxShapes
  return (Contest.start registry masks).run catalog false (Contest.oneByOne masks.length)

end ProxyBridge
