import ProxyBridge.Session.Basic

/-!
# Owning references

Whoever needs a foreign value beyond one operation owns a reference to it: it is taken with `own`
or taken over with `adopt`, and given back with `letGo`, which releases it. `holding` does both
around an action, whether the action succeeds or fails.
-/

namespace ProxyBridge

variable {Code Client ε α : Type}

namespace Session

/-- Gives back one reference to a value; what is freed by it is reported. -/
def release (s : Session Code Client) (h : Handle) : Session Code Client :=
  let (table, events) := s.table.release h
  ({ s with table }).emitAll events

/-- Takes over a reference that nobody owns yet. -/
def adopt (s : Session Code Client) (h : Handle) : Session Code Client :=
  { s with owned := h :: s.owned }

/-- An owner gives its reference back. -/
def letGo (s : Session Code Client) (h : Handle) : Session Code Client :=
  (({ s with owned := s.owned.erase h }).release h).emit (.referenceReleased h)

/-- Gives back a reference that may not be there. -/
def letGo? (s : Session Code Client) : Option Handle → Session Code Client
  | some h => s.letGo h
  | none => s

end Session

namespace Act

/-- Stores a new value; the caller gets the reference to it. -/
def insert (o : Object Code) : Act Code Client ε Handle := fun s =>
  let (h, table) := s.table.insert o
  .ok h (({ s with table }).emit (.valueInserted h))

/-- Takes one more reference within the limit. -/
def duplicate (h : Handle) : Act Code Client ForeignError Handle := do
  onTable (·.duplicate h)
  return h

/-- Gives back one reference. -/
def release (h : Handle) : Act Code Client ε Unit := modify (·.release h)

/-- Takes one more reference within the limit, as an owner. -/
def own (h : Handle) : Act Code Client ForeignError Unit := do
  onTable (·.duplicate h)
  modify (·.adopt h)

/-- Runs an action while owning a reference that the caller got, and gives the reference back
whether the action succeeds or fails. -/
def holding (h : Handle) (act : Act Code Client ε α) : Act Code Client ε α := fun s =>
  match act (s.adopt h) with
  | .ok a s => .ok a (s.letGo h)
  | .error e s => .error e (s.letGo h)

end Act

end ProxyBridge
