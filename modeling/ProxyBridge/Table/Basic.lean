import ProxyBridge.Table.Object

/-!
# The table of foreign values

The table stores foreign values under handles and counts the references to each. Handles are given
out in increasing order and never again. One value, `undefined`, is there from the start and is
pinned: its first reference belongs to the table itself and is never given back.

* `Table.insert` — stores a value under a fresh handle, with one reference for the caller.
* `Table.retain` — takes a reference, `Table.duplicate` does so within the reference limit.
* `Table.putMember`, `Table.dropMember` — change the members of a stored value.

Giving references back is in `ProxyBridge.Table.Release`.
-/

namespace ProxyBridge

/-- A stored value with the number of references to it. -/
structure Entry (Code : Type) where
  object : Object Code
  /-- The counter has 32 bits in a program. Here it is a natural number: that it overflows, with
  `2 ^ 32` references to one value, is left aside. -/
  refcount : Nat
deriving DecidableEq

/-- The stored values and the references to them. -/
structure Table (Code : Type) where
  entries : Dict Handle (Entry Code)
  /-- The handle of the next new value. It has 32 bits in a program; that they run out, after
  `2 ^ 32` values, is left aside. -/
  nextId : Nat
  /-- References handed out and not yet given back. -/
  outstanding : Nat
  /-- The number of outstanding references from which on none is duplicated. -/
  limit : Option Nat
deriving DecidableEq

namespace Table

variable {Code : Type}

/-- A table that holds only the pinned `undefined`. -/
def empty (limit : Option Nat) : Table Code :=
  { entries := [(Handle.undefined, { object := .ofTag .undefined, refcount := 1 })]
    nextId := Handle.undefined.id + 1
    outstanding := 0
    limit }

/-! ## Queries -/

/-- The entry of a handle. -/
def entry? (t : Table Code) (h : Handle) : Option (Entry Code) := t.entries.find? h

/-- The handle names a stored value. -/
def isLive (t : Table Code) (h : Handle) : Bool := (t.entry? h).isSome

/-- The number of references to a value, zero for a handle that names none. -/
def refcount (t : Table Code) (h : Handle) : Nat := ((t.entry? h).map (·.refcount)).getD 0

/-- The object stored under a handle; a handle that names none is stale. -/
def object (t : Table Code) (h : Handle) : Except ForeignError (Object Code) :=
  match t.entry? h with
  | none => .error (.stale h)
  | some e => .ok e.object

/-- The number that a value is, if it is one. -/
def number? (t : Table Code) (h : Handle) : Option Double := (t.entry? h).bind (·.object.number)

/-- The value may be used as a method. -/
def isMethod (t : Table Code) (h : Handle) : Bool :=
  ((t.entry? h).map (·.object.isMethod)).getD false

/-- The handle is the pinned one. -/
def isPinned (h : Handle) : Bool := h == Handle.undefined

/-- The number of stored values, without the pinned one. -/
def liveCount (t : Table Code) : Nat := (t.entries.keys.filter fun h => !isPinned h).length

/-- The outline of a table. -/
def outline (t : Table Code) : String :=
  Outline.record "HandleTable"
    [("entries", toString t.entries.length), ("outstanding", toString t.outstanding),
     ("reference_limit", Outline.option (t.limit.map toString))]

/-! ## Updates -/

/-- Stores a value under a fresh handle. The caller owns the one reference to it. -/
def insert (t : Table Code) (o : Object Code) : Handle × Table Code :=
  let h : Handle := ⟨t.nextId⟩
  (h, { t with
    entries := t.entries.insert h { object := o, refcount := 1 }
    nextId := t.nextId + 1
    outstanding := t.outstanding + 1 })

/-- Takes one more reference to a stored value, whatever the limit. -/
def retain (t : Table Code) (h : Handle) : Except ForeignError (Table Code) :=
  if t.isLive h then
    .ok { t with
      entries := t.entries.modify h fun e => { e with refcount := e.refcount + 1 }
      outstanding := t.outstanding + 1 }
  else .error (.stale h)

/-- As many references are outstanding as may be duplicated. -/
def isFull (t : Table Code) : Bool :=
  match t.limit with
  | none => false
  | some limit => limit ≤ t.outstanding

/-- Takes one more reference within the limit. The limit is looked at before the handle. -/
def duplicate (t : Table Code) (h : Handle) : Except ForeignError (Table Code) :=
  if t.isFull then .error .exhausted else t.retain h

/-- Changes the members of a stored value. -/
def modifyMembers (t : Table Code) (h : Handle)
    (f : Dict Key (Member Code) → Dict Key (Member Code)) : Table Code :=
  { t with
    entries := t.entries.modify h fun e =>
      { e with object := { e.object with members := f e.object.members } } }

/-- Stores a member; no reference is taken or given back. -/
def putMember (t : Table Code) (h : Handle) (k : Key) (m : Member Code) : Table Code :=
  t.modifyMembers h (·.insert k m)

/-- Drops a member; no reference is given back. -/
def dropMember (t : Table Code) (h : Handle) (k : Key) : Table Code :=
  t.modifyMembers h (·.erase k)

end Table

end ProxyBridge
