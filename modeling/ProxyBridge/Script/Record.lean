import ProxyBridge.Proxy.HostValue

/-!
# Records

What a script reports. Every step has an answer; a record of a step holds the answer together with
what happened during the step: the records of steps that foreign code ran inside it, the events it
caused itself, and the state of the table at its end.
-/

namespace ProxyBridge.Script

/-- The answer of a step. -/
inductive Answer where
  | done
  | nothing
  | mark (label : String)
  | text (s : String)
  | flag (b : Bool)
  | count (n : Nat)
  /-- A length, which can exceed what counts can. -/
  | length (n : Nat)
  | number (x : Option Double)
  | handle (h : Handle)
  | names (names : List String)
  | texts (a b : String)
  | flags (a b : Bool)
  | proxyError (e : ProxyError)
  | foreignError (e : ForeignError)
  /-- The step names a slot that is empty or not there. -/
  | badStep
  /-- A behaviour of proxies was asked of another host value. -/
  | notAProxy
  | object (tag : Tag) (outline : String)
  | info (refcount : Nat) (live : Bool) (number : Option Double)
  | owned (slot : Nat) (h : Handle)
  | opened (slot : Nat) (stats : Stats)
  | stats (stats : Stats)
  | config (c : Config)
  /-- Heap, number of capabilities, whether inspection and registry use one catalog, and whether
  the bridge works on the table. -/
  | heap (h : Heap) (capabilities : Nat) (sharedCatalog onTable : Bool)
  | shape (s : Shape) (slot : Nat)
  | registry (size : Nat) (contains : Bool) (outline : String)
  | requirement (has : Bool) (error : Option ProxyError)
  | capabilities (c : Capabilities)
  | host (view : HostView) (slot : Option Nat) (outline : Option String)

/-- What happened in one step. -/
inductive Record where
  | mk (answer : Answer) (outstanding live : Nat) (inner : List Record) (log : List Event)

/-- The state after a script, when everything it held is given up. -/
structure Ending where
  outstanding : Nat
  /-- The handle that a new value would get. -/
  next : Nat
  /-- The handles of stored values with the number of references to each. -/
  references : List (Handle × Nat)
  /-- The counters of every bridge the script opened. -/
  stats : List Stats

end ProxyBridge.Script
