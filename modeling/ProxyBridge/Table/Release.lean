import ProxyBridge.Table.Basic
import ProxyBridge.Log.Event

/-!
# Giving references back

Giving back the last reference to a value frees it, and a freed value gives back the references
that its members hold. The cascade is a list of handles that still have to be released: a freed
value puts the handles of its members in front of the list, so the cascade goes depth first, in
the order of the keys. Every step either shortens the list or removes an entry together with the
members that it moves into the list; hence the measure `pending + memberCount` falls.

* `Table.releaseOne` — one step: what becomes of the table, and which handles follow.
* `Table.releaseAll` — the cascade, with the events that it reports.
* `Table.release` — gives back one reference.
-/

namespace ProxyBridge.Table

variable {Code : Type}

/-- What a release of one handle comes to. -/
inductive Released (Code : Type) where
  /-- Nobody holds the handle. -/
  | stale
  /-- References remain. -/
  | alive (t : Table Code)
  /-- The value is gone; these references were its own. -/
  | freed (t : Table Code) (owned : List Handle)

/-- The table with one reference less to a value that stays. -/
def dropReference (t : Table Code) (h : Handle) : Table Code :=
  { t with
    entries := t.entries.modify h fun e => { e with refcount := e.refcount - 1 }
    outstanding := t.outstanding - 1 }

/-- The table without a value that lost its last reference. -/
def dropEntry (t : Table Code) (h : Handle) : Table Code :=
  { t with entries := t.entries.erase h, outstanding := t.outstanding - 1 }

/-- Gives back one reference without following the members of a freed value. The pinned value
keeps its last reference. -/
def releaseOne (t : Table Code) (h : Handle) : Released Code :=
  match t.entry? h with
  | none => .stale
  | some e =>
    if isPinned h && e.refcount ≤ 1 then .stale
    else if e.refcount ≤ 1 then .freed (t.dropEntry h) e.object.owned
    else .alive (t.dropReference h)

/-- The number of references that stored values hold. -/
def memberCount (t : Table Code) : Nat :=
  t.entries.total fun e => e.object.owned.length

end ProxyBridge.Table

namespace ProxyBridge.Dict

variable {K V : Type} [DecidableEq K]

/-- What a value weighs leaves the sum when its key is erased. -/
theorem total_erase (w : V → Nat) {d : Dict K V} {k : K} {v : V} (h : d.find? k = some v) :
    (d.erase k).total w + w v = d.total w := by
  induction d with
  | nil => simp [find?] at h
  | cons e rest ih =>
    obtain ⟨k', v'⟩ := e
    by_cases hk : k' = k
    · simp only [find?, hk, ↓reduceIte, Option.some.injEq] at h
      simp [erase, total, hk, h, Nat.add_comm]
    · simp only [find?, hk, ↓reduceIte] at h
      have := ih h
      simp only [erase, hk, ↓reduceIte, total]
      omega

/-- A change that keeps the weight of every value keeps the sum. -/
theorem total_modify_of_eq (w : V → Nat) (f : V → V) (hf : ∀ v, w (f v) = w v) (d : Dict K V)
    (k : K) : (d.modify k f).total w = d.total w := by
  induction d with
  | nil => rfl
  | cons e rest ih =>
    obtain ⟨k', v'⟩ := e
    by_cases hk : k' = k
    · simp [modify, total, hk, hf]
    · simp only [modify, hk, ↓reduceIte, total, ih]

end ProxyBridge.Dict

namespace ProxyBridge.Table

variable {Code : Type}

/-- The references of a freed value leave the count of held references. -/
theorem memberCount_freed {t u : Table Code} {h : Handle} {owned : List Handle}
    (hr : t.releaseOne h = .freed u owned) : u.memberCount + owned.length = t.memberCount := by
  unfold releaseOne at hr
  split at hr
  · cases hr
  · next e he =>
    split at hr
    · cases hr
    · split at hr
      · cases hr
        exact Dict.total_erase (fun e : Entry Code => e.object.owned.length) he
      · cases hr

/-- A release that frees nothing keeps the count of held references. -/
theorem memberCount_alive {t u : Table Code} {h : Handle}
    (hr : t.releaseOne h = .alive u) : u.memberCount = t.memberCount := by
  unfold releaseOne at hr
  split at hr
  · cases hr
  · split at hr
    · cases hr
    · split at hr
      · cases hr
      · cases hr
        exact Dict.total_modify_of_eq (fun e : Entry Code => e.object.owned.length)
          (fun e => { e with refcount := e.refcount - 1 }) (fun _ => rfl) t.entries h

/-- Releases every pending handle, the first one first, and what freed values held right after
the value. -/
def releaseAll (t : Table Code) (pending : List Handle) : Table Code × List Event :=
  match pending with
  | [] => (t, [])
  | h :: rest =>
    match _hr : t.releaseOne h with
    | .stale =>
      let (u, events) := t.releaseAll rest
      (u, .unknownRelease h :: events)
    | .alive t' => t'.releaseAll rest
    | .freed t' owned =>
      let (u, events) := t'.releaseAll (owned ++ rest)
      (u, .valueFreed h :: events)
termination_by pending.length + t.memberCount
decreasing_by
  · simp
  · simp [memberCount_alive _hr]
  · have := memberCount_freed _hr
    simp only [List.length_append, List.length_cons]
    omega

/-- Gives back one reference, with everything that follows from it. -/
def release (t : Table Code) (h : Handle) : Table Code × List Event := t.releaseAll [h]

end ProxyBridge.Table
