import ProxyBridge.Proofs.Cascade
import ProxyBridge.Proofs.Clients

/-!
# The counters of a table

A table counts references twice: those to each value, and those that it has handed out in all. The
two are kept by several operations, some of which take references without asking for the limit, and
the pinned value is counted differently. They agree all the same, whatever a client does, and they
agree in the middle of a cascade as well. So a release never takes a reference from a counter that
has none.

That no counter overflows is taken for granted: counters are natural numbers.

## Results

* `Table.Counted` — the invariant of every small step, and of every step of a cascade.
* `Table.Tallied` — what the counters say of the entries.
* `counters_agree` — a table is tallied whatever its clients do.
-/

namespace ProxyBridge

variable {Code Client Mind : Type}

namespace Table

/-- The counters of a table agree, and the pinned value is what it was. -/
structure Counted (t : Table Code) : Prop where
  wellFormed : t.WellFormed
  /-- The one reference that is counted and not handed out is the table's own to `undefined`. -/
  handedOut  : t.outstanding + 1 = t.references
  undefined  : ∃ e, t.entry? Handle.undefined = some e ∧ e.object.tag = .undefined
  positive   : ∀ h e, t.entry? h = some e → 1 ≤ h.id

theorem counted_empty (limit : Option Nat) : (empty limit : Table Code).Counted where
  wellFormed := wellFormed_empty limit
  handedOut := rfl
  undefined := ⟨_, rfl, rfl⟩
  positive h e he := by
    have hMem := Dict.mem_of_find? he
    rw [empty, List.mem_singleton] at hMem
    cases hMem
    exact Nat.le_refl 1

variable {t u : Table Code} {h : Handle} {e : Entry Code}

/-- A release that takes a reference finds one, at the value and among those handed out. -/
theorem Counted.covers (ht : t.Counted) (hr : t.releaseOne h ≠ .stale) :
    1 ≤ t.refcount h ∧ 1 ≤ t.outstanding := by
  obtain ⟨e₀, hUndefined, -⟩ := ht.undefined
  have hPin := (ht.wellFormed.entry hUndefined).counted
  have hOut := ht.handedOut
  rcases releaseOne_cases t h with ⟨hStale, -⟩ | ⟨e, he, h2, -⟩ | ⟨e, he, -, hFree, -⟩
  · exact absurd hStale hr
  · -- two references to one value are more than the table's own
    have hLe : e.refcount ≤ t.references := Dict.le_total Entry.refcount he
    rw [refcount_eq he]
    omega
  · -- a value that can be freed is not the pinned one, so each of them has a reference
    have hCount := (ht.wellFormed.entry he).counted
    have hErase : (t.dropEntry h).references + e.refcount = t.references :=
      Dict.total_erase Entry.refcount he
    have hStays : Table.entry? (t.dropEntry h) Handle.undefined = some e₀ := by
      rw [entry?_dropEntry ht.wellFormed, if_neg, hUndefined]
      rintro rfl
      cases hFree
    have hLe : e₀.refcount ≤ (t.dropEntry h).references := Dict.le_total Entry.refcount hStays
    rw [refcount_eq he]
    omega

/-! ## What keeps the counters -/

/-- A change of one entry that the counter of all references follows. -/
theorem Counted.modifyEntry (ht : t.Counted) (he : t.entry? h = some e)
    {f : Entry Code → Entry Code} {n : Nat} (hEntry : (f e).WellFormed t.nextId h)
    (hTag : (f e).object.tag = e.object.tag)
    (hCount : n + e.refcount = t.outstanding + (f e).refcount) : (t.modifyEntry h f n).Counted := by
  have hTotal : (t.modifyEntry h f n).references + e.refcount = t.references + (f e).refcount :=
    Dict.total_modify Entry.refcount f he
  have hOut := ht.handedOut
  refine ⟨ht.wellFormed.modifyEntry ?_, ?_, ?_, ?_⟩
  · intro e' he'
    cases he.symm.trans he'
    exact hEntry
  · show n + 1 = _
    omega
  · -- the entry that changes may be that of `undefined` itself
    obtain ⟨e₀, hUndefined, hTag₀⟩ := ht.undefined
    rw [entry?_modifyEntry, hUndefined]
    split
    · next hh =>
      subst hh
      cases he.symm.trans hUndefined
      exact ⟨_, rfl, hTag.trans hTag₀⟩
    · exact ⟨e₀, rfl, hTag₀⟩
  · intro h' e' he'
    rw [entry?_modifyEntry] at he'
    split at he'
    · obtain ⟨e₁, he₁, -⟩ := Option.map_eq_some_iff.mp he'
      exact ht.positive h' e₁ he₁
    · exact ht.positive h' e' he'

theorem Counted.insert (ht : t.Counted) {o : Object Code} (ho : o.members.Ordered) :
    (t.insert o).2.Counted := by
  have hNext := ht.wellFormed.entry?_next
  have hTotal : (t.insert o).2.references + ((t.entry? ⟨t.nextId⟩).map Entry.refcount).getD 0 =
      t.references + 1 :=
    Dict.total_insert Entry.refcount ht.wellFormed.ordered ⟨t.nextId⟩ { object := o, refcount := 1 }
  have hOut := ht.handedOut
  obtain ⟨e₀, hUndefined, hTag⟩ := ht.undefined
  refine ⟨ht.wellFormed.insert ho, ?_, ⟨e₀, ?_, hTag⟩, ?_⟩
  · rw [hNext, Option.map_none, Option.getD_none] at hTotal
    show t.outstanding + 1 + 1 = _
    omega
  · rw [entry?_insert, if_neg, hUndefined]
    intro hh
    rw [hh] at hNext
    cases hNext.symm.trans hUndefined
  · intro h e he
    rw [entry?_insert] at he
    split at he
    · next hh =>
      subst hh
      -- handles go up, and that of `undefined` is below the next one
      exact Nat.zero_lt_of_lt (ht.wellFormed.entry hUndefined).issued
    · exact ht.positive h e he

theorem Counted.retain (ht : t.Counted) (hr : t.retain h = .ok u) : u.Counted := by
  obtain ⟨hLive, rfl⟩ := retain_eq_ok_iff.mp hr
  obtain ⟨e, he⟩ := isLive_iff.mp hLive
  have hEntry := ht.wellFormed.entry he
  refine ht.modifyEntry he ⟨Nat.le_add_left .., hEntry.issued, hEntry.members⟩ rfl ?_
  show t.outstanding + 1 + e.refcount = t.outstanding + (e.refcount + 1)
  omega

/-- Members are not counted. -/
theorem Counted.modifyMembers (ht : t.Counted)
    {f : Dict Key (Member Code) → Dict Key (Member Code)}
    (hf : ∀ d : Dict Key (Member Code), d.Ordered → (f d).Ordered) :
    (t.modifyMembers h f).Counted := by
  cases he : t.entry? h with
  | none =>
    -- a handle that names nothing has no members to change
    have hSame : t.modifyMembers h f = t := by
      rw [Table.modifyMembers, Dict.modify_eq_self]
      intro e' he'
      cases he.symm.trans he'
    rwa [hSame]
  | some e =>
    have hEntry := ht.wellFormed.entry he
    exact ht.modifyEntry he (n := t.outstanding)
      ⟨hEntry.counted, hEntry.issued, hf _ hEntry.members⟩ rfl rfl

theorem Counted.dropReference (ht : t.Counted) (he : t.entry? h = some e) (h2 : 2 ≤ e.refcount) :
    (t.dropReference h).Counted := by
  have hEntry := ht.wellFormed.entry he
  have hOut := ht.handedOut
  have hLe : e.refcount ≤ t.references := Dict.le_total Entry.refcount he
  refine ht.modifyEntry he ⟨Nat.le_sub_one_of_lt h2, hEntry.issued, hEntry.members⟩ rfl ?_
  show t.outstanding - 1 + e.refcount = t.outstanding + (e.refcount - 1)
  omega

theorem Counted.dropEntry (ht : t.Counted) (he : t.entry? h = some e) (h1 : e.refcount ≤ 1)
    (hFree : isPinned h = false) : (t.dropEntry h).Counted := by
  have hNe : h ≠ Handle.undefined := by
    rintro rfl
    cases hFree
  have hFreed : t.releaseOne h ≠ .stale := by
    intro hr
    cases (stale_of_releaseOne hr he).1.symm.trans hFree
  -- both counters have a reference to lose, so the truncated differences are exact
  obtain ⟨hCount, hOut⟩ := ht.covers hFreed
  rw [refcount_eq he] at hCount
  have hErase : (t.dropEntry h).references + e.refcount = t.references :=
    Dict.total_erase Entry.refcount he
  have hAll := ht.handedOut
  obtain ⟨e₀, hUndefined, hTag⟩ := ht.undefined
  refine ⟨ht.wellFormed.dropEntry hFree, ?_, ⟨e₀, ?_, hTag⟩, ?_⟩
  · show t.outstanding - 1 + 1 = _
    omega
  · rw [entry?_dropEntry ht.wellFormed, if_neg hNe, hUndefined]
  · intro h' e' he'
    rw [entry?_dropEntry ht.wellFormed] at he'
    split at he'
    · cases he'
    · exact ht.positive h' e' he'

/-- The counters agree at every moment of a cascade. -/
theorem Counted.reaches {pending rest : Multiset Handle} (ht : t.Counted)
    (hr : Reaches (t, pending) (u, rest)) : u.Counted := by
  -- the induction is on the steps of the run, and what is pending does not matter
  have hAll : ∀ c, Reaches (t, pending) c → c.1.Counted := by
    intro c hc
    induction hc with
    | refl => exact ht
    | tail _ hLast ih =>
      obtain ⟨v, h, pending⟩ := hLast
      -- a release does nothing, takes one reference of several, or frees the value
      rcases process_cases v h with ⟨hp, -⟩ | ⟨e, he, h2, hp⟩ | ⟨e, he, h1, hFree, hp⟩
      · rwa [hp]
      · rw [hp]
        exact Counted.dropReference ih he h2
      · rw [hp]
        exact Counted.dropEntry ih he h1 hFree
  exact hAll _ hr

theorem Counted.release (ht : t.Counted) (h : Handle) : (t.release h).1.Counted :=
  ht.reaches (reaches_releaseAll t [h])

/-! ## What the counters say -/

/-- The counters of a table, told by its entries. -/
structure Tallied (t : Table Code) : Prop where
  /-- The references that are out: all to values that are not pinned, and those to `undefined` but
  the table's own. -/
  outstanding : t.outstanding + 1 =
    Dict.total Entry.refcount (t.entries.filter fun p => !isPinned p.1) +
      t.refcount Handle.undefined
  counted     : ∀ p ∈ t.entries, 1 ≤ p.2.refcount
  undefined   : ∃ p ∈ t.entries, p.1 = Handle.undefined ∧ isPinned p.1 = true ∧
    p.2.object.tag = .undefined
  issued      : ∀ p ∈ t.entries, 1 ≤ p.1.id ∧ p.1.id < t.nextId
  live        : t.liveCount + 1 = t.entries.length

/-- The entries that are not pinned are all but that of `undefined`. -/
theorem Counted.filter_entries (ht : t.Counted) :
    t.entries.filter (fun p => !isPinned p.1) = t.entries.erase Handle.undefined := by
  rw [← Dict.filter_ne_eq_erase ht.wellFormed.ordered]
  refine List.filter_congr ?_
  intro p hp
  by_cases hh : p.1 = Handle.undefined <;> simp [isPinned, hh]

theorem Counted.tallied (ht : t.Counted) : t.Tallied := by
  obtain ⟨e₀, hUndefined, hTag⟩ := ht.undefined
  refine ⟨?_, ?_, ⟨_, Dict.mem_of_find? hUndefined, rfl, rfl, hTag⟩, ?_, ?_⟩
  · -- all references are those to `undefined` and those to the rest
    have hErase : (t.dropEntry Handle.undefined).references + e₀.refcount = t.references :=
      Dict.total_erase Entry.refcount hUndefined
    rw [ht.filter_entries, refcount_eq hUndefined, ht.handedOut]
    exact hErase.symm
  · intro p hp
    exact (ht.wellFormed.entries p hp).counted
  · intro p hp
    have hEntry := Dict.find?_of_mem ht.wellFormed.ordered hp
    exact ⟨ht.positive p.1 p.2 hEntry, (ht.wellFormed.entries p hp).issued⟩
  · have hLength : (t.entries.erase Handle.undefined).length + 1 = t.entries.length :=
      Dict.length_erase hUndefined
    rw [← hLength, ← ht.filter_entries, liveCount, Dict.keys, List.filter_map, List.length_map]
    rfl

end Table

/-! ## Whatever clients do -/

open Session

variable {known : Client → List Shape} {s s' : Session Code Client}

theorem Session.Step.counted (h : Step known s s') (hs : s.table.Counted) : s'.table.Counted := by
  cases h with
  | insert o ho => exact hs.insert ho
  | retain ht => exact hs.retain ht
  | release h => exact hs.release h
  | putMember h k v => exact hs.modifyMembers fun _ hd => Dict.ordered_insert hd k _
  | dropMember h k => exact hs.modifyMembers fun _ hd => Dict.ordered_erase hd k
  | _ => exact hs

theorem World.counted_of_path {s : World Code Mind} {limit : Option Nat} {timing : Bool}
    {mind : Mind} (hPath : Path Memory.shapes (World.new (.empty limit) timing mind) s) :
    s.table.Counted :=
  hPath.induct (Table.counted_empty limit) fun _ _ hStep hs => hStep.counted hs

/--
Clients may do what they like: release what they do not hold, name handles that were never given
out, return a handle without a reference, and all that again in the middle of an operation that runs
their code. A run of their calls is a path of small steps. At every moment of it, and of every
cascade that starts there, the table is tallied, and a release that takes a reference finds one in
both counters.
-/
theorem counters_agree (l : Library Code Mind) (depth : Nat) (calls : List (Call Code Mind))
    (limit : Option Nat) (timing : Bool) (mind : Mind) :
    let start := World.new (Table.empty limit) timing mind
    Path Memory.shapes start (Call.performAll (l.environment depth) calls start) ∧
      ∀ s, Path Memory.shapes start s → ∀ pending u rest,
        Table.Reaches (s.table, pending) (u, rest) → u.Tallied ∧
          ∀ h, u.releaseOne h = .stale ∨ 1 ≤ u.refcount h ∧ 1 ≤ u.outstanding := by
  refine ⟨Call.path_performAll (l.walks_environment depth) calls _, ?_⟩
  intro s hPath pending u rest hReaches
  have hu : u.Counted := (World.counted_of_path hPath).reaches hReaches
  refine ⟨hu.tallied, ?_⟩
  intro h
  by_cases hr : u.releaseOne h = .stale
  · exact Or.inl hr
  · exact Or.inr (hu.covers hr)

/-- A getter that gives away references that it does not hold, and returns one to a value that is
gone. -/
def exampleMisuse : Library Unit Unit where
  body _ _ _ :=
    { calls := fun _ => [⟨2⟩, ⟨2⟩, ⟨7⟩, Handle.undefined].map fun h => .command (.release h)
      result := fun _ => .ok (.handle ⟨2⟩) }
  probe _ _ _ := { calls := fun _ => [], result := fun _ => .ok true }

/-- The getter frees the value whose member is read. -/
theorem counters_agree_misuse :
    let calls : List (Call Unit Unit) :=
      [.command (.insert (Object.plain.withMember (.named "size") (.accessor ()))),
        .command (.member ⟨2⟩ (.named "size")), .command (.release ⟨2⟩)]
    let s := Call.performAll (exampleMisuse.environment 1) calls (World.new (.empty none) false ())
    s.table.Tallied ∧ s.table.liveCount = 0 ∧ s.log.length = 6 := by
  intro calls s
  obtain ⟨hPath, hTallied⟩ := counters_agree exampleMisuse 1 calls none false ()
  exact ⟨(hTallied s hPath 0 s.table 0 .refl).1, by decide +kernel, by decide +kernel⟩

end ProxyBridge
