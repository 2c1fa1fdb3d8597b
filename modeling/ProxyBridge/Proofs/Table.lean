import Mathlib.Algebra.Group.Pi.Basic
import ProxyBridge.Proofs.Dict

/-!
# Well-formed tables

What holds of every table that the operations can make: handles in order and below the next one,
a positive count for each stored value, the pinned value present, members in order. Each update
keeps it, whatever handles it is given.

* `Table.WellFormed` — the invariant; `WellFormed.insert`, `WellFormed.retain`,
  `WellFormed.releaseAll`, `WellFormed.modifyMembers` — every update keeps it.
* `Table.releaseOne_cases` — all that a release of one handle can do.
* `Table.release_retain` — a reference that was taken can be given back without a trace.
-/

namespace ProxyBridge

/-! ## Orders -/

instance : Std.LawfulEqOrd Handle where
  compare_self {a} := Std.ReflOrd.compare_self (a := a.id)
  eq_of_compare {a b} h := by
    have hid : a.id = b.id := Std.LawfulEqOrd.eq_of_compare h
    cases a
    cases b
    cases hid
    rfl

instance : Std.TransOrd Handle where
  eq_swap {a b} := Std.OrientedOrd.eq_swap (a := a.id) (b := b.id)
  isLE_trans {a b c} := Std.TransOrd.isLE_trans (a := a.id) (b := b.id) (c := c.id)

namespace Key

theorem compare_eq (a b : Key) : compare a b = order a b := rfl

instance : Std.LawfulEqOrd Key where
  compare_self {a} := by
    cases a <;> rw [compare_eq] <;> exact Std.ReflOrd.compare_self
  eq_of_compare {a b} h := by
    rw [compare_eq] at h
    cases a with
    | named x =>
      cases b with
      | named y => rw [Std.LawfulEqOrd.eq_of_compare h]
      | symbol y => cases h
    | symbol x =>
      cases b with
      | named y => cases h
      | symbol y => cases x <;> cases y <;> first | rfl | cases h

instance : Std.TransOrd Key where
  eq_swap {a b} := by
    rw [compare_eq, compare_eq]
    cases a <;> cases b <;> first | rfl | exact Std.OrientedOrd.eq_swap
  isLE_trans {a b c} hab hbc := by
    rw [compare_eq] at hab hbc ⊢
    cases a <;> cases b <;> cases c <;>
      first
      | rfl
      | exact absurd hab Bool.false_ne_true
      | exact absurd hbc Bool.false_ne_true
      | exact Std.TransOrd.isLE_trans hab hbc

end Key

/-! ## The invariant -/

variable {Code : Type}

/-- What holds of every stored value. -/
structure Entry.WellFormed (e : Entry Code) (nextId : Nat) (h : Handle) : Prop where
  counted : 1 ≤ e.refcount
  issued  : h.id < nextId
  members : e.object.members.Ordered

/-- What holds of every table that the operations can make. -/
structure Table.WellFormed (t : Table Code) : Prop where
  ordered : t.entries.Ordered
  entries : ∀ p ∈ t.entries, p.2.WellFormed t.nextId p.1
  pinned  : t.isLive Handle.undefined

namespace Table

instance (e : Entry Code) (nextId : Nat) (h : Handle) : Decidable (e.WellFormed nextId h) :=
  decidable_of_iff (1 ≤ e.refcount ∧ h.id < nextId ∧ e.object.members.Ordered)
    ⟨fun ⟨h1, h2, h3⟩ => ⟨h1, h2, h3⟩, fun ⟨h1, h2, h3⟩ => ⟨h1, h2, h3⟩⟩

instance (t : Table Code) : Decidable t.WellFormed :=
  decidable_of_iff (t.entries.Ordered ∧ (∀ p ∈ t.entries, p.2.WellFormed t.nextId p.1) ∧
      t.isLive Handle.undefined)
    ⟨fun ⟨h1, h2, h3⟩ => ⟨h1, h2, h3⟩, fun ⟨h1, h2, h3⟩ => ⟨h1, h2, h3⟩⟩

theorem wellFormed_empty (limit : Option Nat) : (empty limit : Table Code).WellFormed where
  ordered := List.pairwise_singleton ..
  entries p hp := by
    rw [List.mem_singleton.mp hp]
    exact ⟨Nat.le_refl _, Nat.lt_succ_self _, List.Pairwise.nil⟩
  pinned := rfl

variable {t u : Table Code} {h : Handle} {e : Entry Code}

theorem WellFormed.entry (ht : t.WellFormed) (he : t.entry? h = some e) :
    e.WellFormed t.nextId h :=
  ht.entries _ (Dict.mem_of_find? he)

/-- The invariant, with stored values told by lookups. -/
theorem WellFormed.of_lookup (ho : t.entries.Ordered)
    (he : ∀ h e, t.entry? h = some e → e.WellFormed t.nextId h)
    (hp : t.isLive Handle.undefined) : t.WellFormed :=
  ⟨ho, fun _ hmem => he _ _ (Dict.find?_of_mem ho hmem), hp⟩

/-- Well-formed tables that agree on all lookups and counters are equal. -/
theorem WellFormed.ext (ht : t.WellFormed) (hu : u.WellFormed)
    (he : ∀ h, t.entry? h = u.entry? h) (hn : t.nextId = u.nextId)
    (ho : t.outstanding = u.outstanding) (hl : t.limit = u.limit) : t = u := by
  have := Dict.ext ht.ordered hu.ordered he
  cases t
  cases u
  simp_all

theorem isLive_iff : t.isLive h ↔ ∃ e, t.entry? h = some e := by
  rw [isLive, Option.isSome_iff_exists]

theorem refcount_eq (he : t.entry? h = some e) : t.refcount h = e.refcount := by
  rw [refcount, he]
  rfl

theorem refcount_eq_zero (he : t.entry? h = none) : t.refcount h = 0 := by
  rw [refcount, he]
  rfl

/-- In a well-formed table exactly the stored values have references. -/
theorem WellFormed.isLive_iff_refcount (ht : t.WellFormed) : t.isLive h ↔ 1 ≤ t.refcount h := by
  rw [isLive]
  cases he : t.entry? h with
  | none => simp [refcount_eq_zero he]
  | some e => simp [refcount_eq he, (ht.entry he).counted]

/-- The next handle names nothing yet. -/
theorem WellFormed.entry?_next (ht : t.WellFormed) : t.entry? ⟨t.nextId⟩ = none := by
  cases he : t.entry? ⟨t.nextId⟩ with
  | none => rfl
  | some e => exact absurd (ht.entry he).issued (Nat.lt_irrefl _)

theorem object_eq_ok_iff {o : Object Code} :
    t.object h = .ok o ↔ ∃ e, t.entry? h = some e ∧ e.object = o := by
  rw [object]
  cases t.entry? h <;> simp

/-! ## Updates -/

theorem entry?_insert (t : Table Code) (o : Object Code) (h : Handle) :
    Table.entry? (t.insert o).2 h =
      if ⟨t.nextId⟩ = h then some { object := o, refcount := 1 } else t.entry? h :=
  Dict.find?_insert ..

theorem WellFormed.insert (ht : t.WellFormed) {o : Object Code} (ho : o.members.Ordered) :
    (t.insert o).2.WellFormed := by
  refine .of_lookup (Dict.ordered_insert ht.ordered ..) (fun h e he => ?_) ?_
  · rw [entry?_insert] at he
    split at he
    · next hh =>
      cases he
      subst hh
      exact ⟨Nat.le_refl _, Nat.lt_succ_self _, ho⟩
    · have hw := ht.entry he
      exact ⟨hw.counted, Nat.lt_succ_of_lt hw.issued, hw.members⟩
  · rw [isLive_iff]
    obtain ⟨e, he⟩ := isLive_iff.mp ht.pinned
    rw [entry?_insert]
    split
    · exact ⟨_, rfl⟩
    · exact ⟨e, he⟩

/-- A table whose entries differ by a change of one entry. -/
def modifyEntry (t : Table Code) (h : Handle) (f : Entry Code → Entry Code)
    (outstanding : Nat) : Table Code :=
  { t with entries := t.entries.modify h f, outstanding }

theorem entry?_modifyEntry (t : Table Code) (h h' : Handle) (f : Entry Code → Entry Code)
    (n : Nat) : Table.entry? (t.modifyEntry h f n) h' =
      if h = h' then (t.entry? h').map f else t.entry? h' :=
  Dict.find?_modify ..

theorem WellFormed.modifyEntry (ht : t.WellFormed) {f : Entry Code → Entry Code} {n : Nat}
    (hf : ∀ e, t.entry? h = some e → (f e).WellFormed t.nextId h) :
    (t.modifyEntry h f n).WellFormed := by
  refine .of_lookup (Dict.ordered_modify ht.ordered ..) (fun h' e he => ?_) ?_
  · rw [entry?_modifyEntry] at he
    split at he
    · next hh =>
      subst hh
      obtain ⟨e', he', rfl⟩ := Option.map_eq_some_iff.mp he
      exact hf e' he'
    · exact ht.entry he
  · rw [isLive_iff]
    obtain ⟨e, he⟩ := isLive_iff.mp ht.pinned
    rw [entry?_modifyEntry, he]
    split <;> exact ⟨_, rfl⟩

/-! ## Taking references -/

/-- A table whose entries differ by the count of one entry. -/
def recount (t : Table Code) (h : Handle) (g : Nat → Nat) (outstanding : Nat) : Table Code :=
  t.modifyEntry h (fun e => { e with refcount := g e.refcount }) outstanding

theorem refcount_recount (he : t.entry? h = some e) (g : Nat → Nat) (n : Nat) (x : Handle) :
    (t.recount h g n).refcount x = if h = x then g e.refcount else t.refcount x := by
  rw [refcount, recount, entry?_modifyEntry]
  split
  · next hh =>
    subst hh
    rw [he]
    rfl
  · rfl

theorem retain_eq_ok_iff : t.retain h = .ok u ↔
    t.isLive h ∧ u = t.recount h (· + 1) (t.outstanding + 1) := by
  rw [retain]
  split
  · next hl => simp only [hl, true_and, Except.ok.injEq]; exact eq_comm
  · next hl => simp [hl]

theorem WellFormed.retain (ht : t.WellFormed) (hr : t.retain h = .ok u) : u.WellFormed := by
  obtain ⟨-, rfl⟩ := retain_eq_ok_iff.mp hr
  refine ht.modifyEntry fun e he => ?_
  have hw := ht.entry he
  exact ⟨Nat.le_add_left .., hw.issued, hw.members⟩

/-- The objects are the same after one more reference is taken. -/
theorem object_retain (hr : t.retain h = .ok u) (h' : Handle) : u.object h' = t.object h' := by
  obtain ⟨-, rfl⟩ := retain_eq_ok_iff.mp hr
  rw [object, object, recount, entry?_modifyEntry]
  by_cases hh : h = h'
  · rw [if_pos hh]
    cases t.entry? h' <;> rfl
  · rw [if_neg hh]

/-- A reference within the limit is a reference. -/
theorem retain_of_duplicate (hd : t.duplicate h = .ok u) : t.retain h = .ok u := by
  rw [duplicate] at hd
  split at hd
  · cases hd
  · exact hd

/-! ## Giving references back -/

/-- All that a release of one handle can do: nothing if nobody holds it, or take one reference of
several, or free the value with its last reference. -/
theorem releaseOne_cases (t : Table Code) (h : Handle) :
    (t.releaseOne h = .stale ∧
      ∀ e, t.entry? h = some e → isPinned h = true ∧ e.refcount ≤ 1) ∨
    (∃ e, t.entry? h = some e ∧ 2 ≤ e.refcount ∧
      t.releaseOne h = .alive (t.dropReference h)) ∨
    (∃ e, t.entry? h = some e ∧ e.refcount ≤ 1 ∧ isPinned h = false ∧
      t.releaseOne h = .freed (t.dropEntry h) e.object.owned) := by
  rw [releaseOne]
  cases he : t.entry? h with
  | none => exact Or.inl ⟨rfl, fun e h => nomatch h⟩
  | some e =>
    by_cases hr : e.refcount ≤ 1
    · cases hp : isPinned h with
      | true =>
        refine Or.inl ⟨by simp [hr], fun e' h' => ?_⟩
        cases h'
        exact ⟨rfl, hr⟩
      | false => exact Or.inr (Or.inr ⟨e, rfl, hr, rfl, by simp [hr]⟩)
    · exact Or.inr (Or.inl ⟨e, rfl, by omega, by simp [hr]⟩)

theorem stale_of_releaseOne (hr : t.releaseOne h = .stale) (he : t.entry? h = some e) :
    isPinned h = true ∧ e.refcount ≤ 1 := by
  rcases releaseOne_cases t h with ⟨-, hc⟩ | ⟨e', -, -, hc⟩ | ⟨e', -, -, -, hc⟩
  · exact hc e he
  · cases hc.symm.trans hr
  · cases hc.symm.trans hr

theorem alive_of_releaseOne (hr : t.releaseOne h = .alive u) :
    ∃ e, t.entry? h = some e ∧ 2 ≤ e.refcount ∧ u = t.dropReference h := by
  rcases releaseOne_cases t h with ⟨hc, -⟩ | ⟨e, he, h2, hc⟩ | ⟨e, -, -, -, hc⟩
  · cases hc.symm.trans hr
  · cases hc.symm.trans hr
    exact ⟨e, he, h2, rfl⟩
  · cases hc.symm.trans hr

theorem freed_of_releaseOne {owned : List Handle} (hr : t.releaseOne h = .freed u owned) :
    ∃ e, t.entry? h = some e ∧ e.refcount ≤ 1 ∧ isPinned h = false ∧ u = t.dropEntry h ∧
      owned = e.object.owned := by
  rcases releaseOne_cases t h with ⟨hc, -⟩ | ⟨e, -, -, hc⟩ | ⟨e, he, h1, hp, hc⟩
  · cases hc.symm.trans hr
  · cases hc.symm.trans hr
  · cases hc.symm.trans hr
    exact ⟨e, he, h1, hp, rfl, rfl⟩

theorem dropReference_eq_recount (t : Table Code) (h : Handle) :
    t.dropReference h = t.recount h (· - 1) (t.outstanding - 1) := rfl

theorem WellFormed.dropReference (ht : t.WellFormed) (he : t.entry? h = some e)
    (hr : 2 ≤ e.refcount) : (t.dropReference h).WellFormed := by
  refine ht.modifyEntry fun e' he' => ?_
  cases he.symm.trans he'
  have hw := ht.entry he
  exact ⟨Nat.le_sub_one_of_lt hr, hw.issued, hw.members⟩

theorem entry?_dropEntry (ht : t.WellFormed) (h h' : Handle) :
    Table.entry? (t.dropEntry h) h' = if h = h' then none else t.entry? h' :=
  Dict.find?_erase ht.ordered ..

theorem WellFormed.dropEntry (ht : t.WellFormed) (hp : isPinned h = false) :
    (t.dropEntry h).WellFormed := by
  refine ⟨Dict.ordered_erase ht.ordered _,
    fun p hm => ht.entries p ((Dict.erase_sublist ..).subset hm), ?_⟩
  have hne : h ≠ Handle.undefined := by
    rintro rfl
    cases hp
  rw [isLive, entry?_dropEntry ht, if_neg hne]
  exact ht.pinned

/-! ## The cascade, step by step -/

theorem releaseAll_nil (t : Table Code) : t.releaseAll [] = (t, []) := by
  rw [releaseAll]

theorem releaseAll_cons (t : Table Code) (h : Handle) (rest : List Handle) :
    t.releaseAll (h :: rest) =
      match t.releaseOne h with
      | .stale => ((t.releaseAll rest).1, .unknownRelease h :: (t.releaseAll rest).2)
      | .alive u => u.releaseAll rest
      | .freed u owned =>
        ((u.releaseAll (owned ++ rest)).1, .valueFreed h :: (u.releaseAll (owned ++ rest)).2) := by
  rw [releaseAll]
  split
  · next hr => rw [hr]
  · next hr => rw [hr]
  · next hr => rw [hr]

theorem releaseAll_alive {rest : List Handle} (hr : t.releaseOne h = .alive u) :
    t.releaseAll (h :: rest) = u.releaseAll rest := by
  rw [releaseAll_cons, hr]

theorem releaseAll_stale {rest : List Handle} (hr : t.releaseOne h = .stale) :
    (t.releaseAll (h :: rest)).1 = (t.releaseAll rest).1 := by
  rw [releaseAll_cons, hr]

theorem releaseAll_freed {rest owned : List Handle} (hr : t.releaseOne h = .freed u owned) :
    (t.releaseAll (h :: rest)).1 = (u.releaseAll (owned ++ rest)).1 := by
  rw [releaseAll_cons, hr]

/-- What every step of a cascade passes on from a table and its pending handles holds at the end,
when nothing is pending. -/
theorem releaseAll_induction {P : Table Code → List Handle → Prop}
    (stale : ∀ t h rest, t.releaseOne h = .stale → P t (h :: rest) → P t rest)
    (alive : ∀ t h rest u, t.releaseOne h = .alive u → P t (h :: rest) → P u rest)
    (freed : ∀ t h rest u owned, t.releaseOne h = .freed u owned → P t (h :: rest) →
      P u (owned ++ rest))
    {t : Table Code} {pending : List Handle} (hp : P t pending) :
    P (t.releaseAll pending).1 [] := by
  -- the recursion of the cascade: one case for the end, one for each outcome of a step
  fun_induction Table.releaseAll t pending with
  | case1 t => exact hp
  | case2 t h rest hr u events hu ih =>
    rw [hu] at ih
    exact ih (stale t h rest hr hp)
  | case3 t h rest u hr ih => exact ih (alive t h rest u hr hp)
  | case4 t h rest t' owned hr u events hu ih =>
    rw [hu] at ih
    exact ih (freed t h rest t' owned hr hp)

/-- What is pending first is released to the end, with all that follows, before the rest. -/
theorem releaseAll_append (t : Table Code) (l rest : List Handle) :
    (t.releaseAll (l ++ rest)).1 = ((t.releaseAll l).1.releaseAll rest).1 := by
  fun_induction Table.releaseAll t l with
  | case1 t => rfl
  | case2 t h l hr u events hu ih =>
    rw [hu] at ih
    rw [List.cons_append, releaseAll_stale hr, ih]
  | case3 t h l u hr ih => rw [List.cons_append, releaseAll_alive hr, ih]
  | case4 t h l t' owned hr u events hu ih =>
    rw [hu] at ih
    rw [List.cons_append, releaseAll_freed hr, ← List.append_assoc, ih]

/-- Releasing handles one after another, each to the end. -/
theorem foldl_release (t : Table Code) (l : List Handle) :
    l.foldl (fun t h => (t.release h).1) t = (t.releaseAll l).1 := by
  induction l generalizing t with
  | nil => rw [List.foldl_nil, releaseAll_nil]
  | cons h rest ih =>
    rw [List.foldl_cons, ih, release, ← releaseAll_append, List.singleton_append]

theorem WellFormed.releaseOne_alive (ht : t.WellFormed) (hr : t.releaseOne h = .alive u) :
    u.WellFormed := by
  obtain ⟨e, he, h2, rfl⟩ := alive_of_releaseOne hr
  exact ht.dropReference he h2

theorem WellFormed.releaseOne_freed {owned : List Handle} (ht : t.WellFormed)
    (hr : t.releaseOne h = .freed u owned) : u.WellFormed := by
  obtain ⟨e, -, -, hp, rfl, -⟩ := freed_of_releaseOne hr
  exact ht.dropEntry hp

theorem WellFormed.releaseAll (ht : t.WellFormed) (pending : List Handle) :
    (t.releaseAll pending).1.WellFormed :=
  releaseAll_induction (P := fun t _ => t.WellFormed) (fun _ _ _ _ ht => ht)
    (fun _ _ _ _ hr ht => ht.releaseOne_alive hr) (fun _ _ _ _ _ hr ht => ht.releaseOne_freed hr)
    ht

/-- A reference that was taken can be given back without a trace. -/
theorem release_retain (ht : t.WellFormed) (hr : t.retain h = .ok u) : u.release h = (t, []) := by
  obtain ⟨hl, rfl⟩ := retain_eq_ok_iff.mp hr
  obtain ⟨e, he⟩ := isLive_iff.mp hl
  have hc := (ht.entry he).counted
  generalize hu : t.recount h (· + 1) (t.outstanding + 1) = u
  have he' : u.entry? h = some { e with refcount := e.refcount + 1 } := by
    rw [← hu, recount, entry?_modifyEntry, if_pos rfl, he, Option.map_some]
  -- the count is at least two, so the release takes one reference and frees nothing
  rcases releaseOne_cases u h with ⟨-, hc'⟩ | ⟨-, -, -, hc'⟩ | ⟨e2, he2, hc', -⟩
  · have hle : e.refcount + 1 ≤ 1 := (hc' _ he').2
    omega
  · have hback : u.dropReference h = t := by
      -- one more and one less is the count it was
      rw [← hu, Table.dropReference, recount, modifyEntry]
      simp only [Dict.modify_modify, Nat.add_sub_cancel]
      rw [Dict.modify_eq_self fun _ _ => rfl]
    rw [release, releaseAll_alive hc', releaseAll_nil, hback]
  · cases he'.symm.trans he2
    have hle : e.refcount + 1 ≤ 1 := hc'
    omega

/-! ## Changing members -/

theorem WellFormed.modifyMembers (ht : t.WellFormed)
    {f : Dict Key (Member Code) → Dict Key (Member Code)}
    (hf : ∀ d : Dict Key (Member Code), d.Ordered → (f d).Ordered) :
    (t.modifyMembers h f).WellFormed := by
  refine ht.modifyEntry (n := t.outstanding) fun e he => ?_
  have hw := ht.entry he
  exact ⟨hw.counted, hw.issued, hf _ hw.members⟩

theorem WellFormed.putMember (ht : t.WellFormed) (k : Key) (m : Member Code) :
    (t.putMember h k m).WellFormed :=
  ht.modifyMembers fun _ hd => Dict.ordered_insert hd k m

theorem WellFormed.dropMember (ht : t.WellFormed) (k : Key) : (t.dropMember h k).WellFormed :=
  ht.modifyMembers fun _ hd => Dict.ordered_erase hd k

/-! ## Tables that come about -/

/-- The tables that the operations make, starting from an empty one. -/
inductive Reachable : Table Code → Prop where
  | empty (limit : Option Nat) : Reachable (empty limit)
  | insert {t : Table Code} {o : Object Code} (ht : Reachable t) (ho : o.members.Ordered) :
    Reachable (t.insert o).2
  | retain {t u : Table Code} {h : Handle} (ht : Reachable t) (hr : t.retain h = .ok u) :
    Reachable u
  | release {t : Table Code} (ht : Reachable t) (h : Handle) : Reachable (t.release h).1
  | putMember {t : Table Code} (ht : Reachable t) (h : Handle) (k : Key) (m : Member Code) :
    Reachable (t.putMember h k m)
  | dropMember {t : Table Code} (ht : Reachable t) (h : Handle) (k : Key) :
    Reachable (t.dropMember h k)

theorem Reachable.wellFormed (ht : t.Reachable) : t.WellFormed := by
  induction ht with
  | empty limit => exact wellFormed_empty limit
  | insert _ ho ih => exact ih.insert ho
  | retain _ hr ih => exact ih.retain hr
  | release _ h ih => exact ih.releaseAll [h]
  | putMember _ h k m ih => exact ih.putMember k m
  | dropMember _ h k ih => exact ih.dropMember k

end Table

end ProxyBridge
