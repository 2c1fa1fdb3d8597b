import ProxyBridge.Session.Members

/-!
# Inspection

An inspection finds the capabilities of a value: it walks the catalog in order and runs the probe
of each capability that earlier findings let run. A probe that raises an error ends the inspection
with that error. The tag of the value is asked for when the first probe needs it, and remembered.
-/

namespace ProxyBridge

variable {Code Client : Type}

/-- What an inspection knows so far. -/
structure Findings where
  detected : Capabilities
  /-- The tag of the value, once a probe has needed it. -/
  tag : Option Tag
deriving DecidableEq, Repr

namespace Findings

/-- What an inspection knows at first. -/
def start : Findings := { detected := 0#32, tag := none }

/-- One more capability, if its probe said yes. -/
def note (f : Findings) (flag : Capabilities) (found : Bool) : Findings :=
  if found then { f with detected := f.detected ||| flag } else f

end Findings

namespace Environment

variable (env : Environment Code Client)

/-- Answers a rule of the standard catalog. -/
def judge (r : Rule) (h : Handle) (detected : Capabilities) :
    Act Code Client ForeignError Bool := do
  match r with
  | .measured =>
    if (← env.number h "size").isSome then return true
    else if detected.includes Capabilities.callable then return false
    else return (← env.number h "length").isSome
  | .syncStep =>
    if detected.includes Capabilities.iterable ||
        !detected.includes Capabilities.asyncIterable then
      env.hasMethod h (.named Catalog.stepName)
    else return false
  | .asyncStep =>
    if detected.includes Capabilities.asyncIterable ||
        !detected.includes Capabilities.iterable then
      env.hasMethod h (.named Catalog.stepName)
    else return false

/-- Runs a probe on a value: its answer, and the tag if it is known by then. -/
def probe (p : Probe Code) (h : Handle) (f : Findings) :
    Act Code Client ForeignError (Bool × Option Tag) := do
  match p with
  | .tag tags =>
    let tag ← match f.tag with
      | some tag => pure tag
      | none => Act.tagOf h
    return (tags.contains tag, some tag)
  | .method key => return (← env.hasMethod h key, f.tag)
  | .numeric names => return ((← env.firstNumber h names).isSome, f.tag)
  | .rule r => return (← env.judge r h f.detected, f.tag)
  | .custom code => return (← env.decide code h f.detected, f.tag)
  | .explicit => return (false, f.tag)

/-- One capability of the catalog: its probe runs if it may, and an error is reported. -/
def examine (h : Handle) (f : Findings) (c : Capability Code) :
    Act Code Client ForeignError Findings := do
  if c.probe.isExplicit || !c.applicable f.detected then return f
  else
    let (found, tag) ← (env.probe c.probe h f).onError fun e s =>
      s.emit (.probeRaised c.name h e.text)
    return { f with tag }.note c.flag found

/-- The capabilities of a value under a catalog. -/
def inspect (catalog : Catalog Code) (h : Handle) :
    Act Code Client ForeignError Capabilities := do
  return (← catalog.capabilities.foldlM (env.examine h) Findings.start).detected

/-- The capabilities of a value as a bridge sees them. -/
def capabilities (bridge : Nat) (h : Handle) : Act Code Client ProxyError Capabilities := do
  let b ← Act.bridge bridge
  Act.foreign (env.inspect b.catalog h)

end Environment

end ProxyBridge
