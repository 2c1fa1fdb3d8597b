import ProxyBridge.Log.Event

/-!
# Filters

A **directive** sets the most verbose level, or none at all, for every target that begins with its
own, and maybe only for events with a field of a given name. A **filter** is a list of directives.
Of those that speak of an event the most special one decides, and where none does the event is
dropped.

* `Directive.covers` — the directive speaks of an event.
* `Directive.yieldsTo` — which one of two directives is the more special.
* `Filter.passes` — whether an event passes.
* `Filter.default` — the filter in force when no other is given.
-/

namespace ProxyBridge

/-! ## Directives -/

/-- Which events of its targets a directive speaks of. -/
inductive Scope where
  /-- All of them. -/
  | all
  /-- Those with a field of this name. -/
  | field (name : String)
  /-- Those in a span with some name, or with some value in a field. The bridge opens no spans. -/
  | inSpan
deriving DecidableEq, Repr

/-- The most verbose level for the targets that begin with `target`. -/
structure Directive where
  target : String
  scope : Scope
  /-- No level means that nothing passes. -/
  max : Option Level
deriving DecidableEq, Repr

namespace Directive

/-- The directive speaks of events with the target and the fields. -/
def covers (d : Directive) (target : String) (fields : List String) : Bool :=
  d.target.toList.isPrefixOf target.toList &&
    match d.scope with
    | .all => true
    | .field name => fields.contains name
    | .inSpan => false

/-- The directive lets a level through. -/
def allows (d : Directive) (l : Level) : Bool :=
  match d.max with
  | none => false
  | some max => l.verbosity ≤ max.verbosity

/-- Of two directives that speak of an event, the first one gives way if the second one comes later
and is not less special: a longer target is more special, then a field, then the later name. -/
def yieldsTo (a b : Directive) : Bool :=
  if a.target.length ≠ b.target.length then a.target.length < b.target.length
  else
    match a.scope, b.scope with
    | .field m, .field n => m ≤ n
    | .field _, _ => false
    | _, _ => true

end Directive

/-! ## Lists of directives -/

/-- Which events pass. -/
abbrev Filter := List Directive

namespace Filter

/-- The directive that decides about events with the target and the fields: the most special one
of those that speak of them, the last one of equals. -/
def decisive? (f : Filter) (target : String) (fields : List String) : Option Directive :=
  (f.filter (·.covers target fields)).foldl
    (fun best d => match best with
      | none => some d
      | some b => if b.yieldsTo d then some d else some b)
    none

/-- Events with the target, the fields and the level pass. -/
def admits (f : Filter) (target : String) (fields : List String) (l : Level) : Bool :=
  match f.decisive? target fields with
  | none => false
  | some d => d.allows l

/-- Events of the target and level pass if they have no fields. -/
def enabled (f : Filter) (target : String) (l : Level) : Bool := f.admits target [] l

/-- The event passes. -/
def passes (f : Filter) (e : Event) : Bool := f.admits e.target e.fieldNames e.level

/-- Everything of the bridge up to a level, nothing else. -/
def default (l : Level) : Filter := [⟨Event.root, .all, some l⟩]

/-- The text of the default filter. -/
def defaultText (l : Level) : String := Event.root ++ "=" ++ l.lowerName

end Filter

end ProxyBridge
