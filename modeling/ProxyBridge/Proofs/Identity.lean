import ProxyBridge.Proofs.Counting

/-!
# Handles and the values they name

Equality of values is equality of their handles, a proxy keeps its handle for good, and an
inspection asks for the tag of a value once. All of that rests on one thing: a handle names one
value, from the moment when it is given out until the value is freed, and nothing after that. The
members of a value may change; its tag, the code that runs when it is called, and its number stay.

It is a statement about two moments of a session. `Table.Precedes t u` says what the later table
`u` owes to the earlier one, every small step keeps to it, and it is transitive.

## Results

* `Session.Step.precedes`, `Session.Path.precedes` — one step, and a whole run.
* `Session.refuses_of_dead` — a handle that names nothing is refused by every operation.
* `handle_identity` — handles are never given out twice, and never come back.
-/

namespace ProxyBridge

variable {Code Client Mind ε α : Type}

/-- What stays of a value while its members change. -/
def Object.identity (o : Object Code) : Tag × Option Code × Option Double :=
  (o.tag, o.body, o.number)

namespace Table

/-- What a table owes to an earlier one. -/
structure Precedes (t u : Table Code) : Prop where
  nextId : t.nextId ≤ u.nextId
  /-- A handle that was given out names what it named, or nothing. -/
  same   : ∀ h e, u.entry? h = some e → h.id < t.nextId →
    ∃ e₀, t.entry? h = some e₀ ∧ e.object.identity = e₀.object.identity

/-- The handle was given out, and what it named is gone. -/
def Freed (t : Table Code) (h : Handle) : Prop := h.id < t.nextId ∧ t.isLive h = false

variable {t u v : Table Code} {h : Handle}

namespace Precedes

theorem refl (t : Table Code) : t.Precedes t := ⟨Nat.le_refl _, fun _ e he _ => ⟨e, he, rfl⟩⟩

theorem trans (htu : t.Precedes u) (huv : u.Precedes v) : t.Precedes v := by
  have hNext₁ := htu.nextId
  have hNext₂ := huv.nextId
  refine ⟨by omega, ?_⟩
  intro h e he hIssued
  obtain ⟨e₁, he₁, hSame₁⟩ := huv.same h e he (by omega)
  obtain ⟨e₀, he₀, hSame₀⟩ := htu.same h e₁ he₁ hIssued
  exact ⟨e₀, he₀, hSame₁.trans hSame₀⟩

/-! ## One update -/

theorem insert (t : Table Code) (o : Object Code) : t.Precedes (t.insert o).2 := by
  refine ⟨Nat.le_succ _, ?_⟩
  intro h e he hIssued
  rw [entry?_insert] at he
  split at he
  · -- the new handle was not given out before
    next hNew =>
    subst hNew
    exact absurd hIssued (Nat.lt_irrefl _)
  · exact ⟨e, he, rfl⟩

theorem modifyEntry (t : Table Code) (h : Handle) {f : Entry Code → Entry Code} (n : Nat)
    (hf : ∀ e, (f e).object.identity = e.object.identity) : t.Precedes (t.modifyEntry h f n) := by
  refine ⟨Nat.le_refl _, ?_⟩
  intro h' e he _
  rw [entry?_modifyEntry] at he
  split at he
  · obtain ⟨e₀, he₀, rfl⟩ := Option.map_eq_some_iff.mp he
    exact ⟨e₀, he₀, hf e₀⟩
  · exact ⟨e, he, rfl⟩

theorem retain (hr : t.retain h = .ok u) : t.Precedes u := by
  obtain ⟨-, rfl⟩ := retain_eq_ok_iff.mp hr
  exact modifyEntry t h _ fun _ => rfl

theorem modifyMembers (t : Table Code) (h : Handle)
    (f : Dict Key (Member Code) → Dict Key (Member Code)) : t.Precedes (t.modifyMembers h f) :=
  modifyEntry t h t.outstanding fun _ => rfl

theorem dropEntry (ht : t.WellFormed) (h : Handle) : t.Precedes (t.dropEntry h) := by
  refine ⟨Nat.le_refl _, ?_⟩
  intro h' e he _
  rw [entry?_dropEntry ht] at he
  split at he
  · cases he
  · exact ⟨e, he, rfl⟩

/-- A cascade frees values and changes none. -/
theorem releaseAll (ht : t.WellFormed) (pending : List Handle) :
    t.Precedes (t.releaseAll pending).1 := by
  -- the tables in between are well-formed, so that what is dropped is gone
  have hAll : (t.releaseAll pending).1.WellFormed ∧ t.Precedes (t.releaseAll pending).1 := by
    refine releaseAll_induction (P := fun u _ => u.WellFormed ∧ t.Precedes u) ?_ ?_ ?_
      ⟨ht, refl t⟩
    · intro u h rest _ hu
      exact hu
    · intro u h rest v hr hu
      obtain ⟨e, -, -, hv⟩ := alive_of_releaseOne hr
      have hStep : u.Precedes v := by
        rw [hv]
        exact modifyEntry u h _ fun _ => rfl
      exact ⟨hu.1.releaseOne_alive hr, hu.2.trans hStep⟩
    · intro u h rest v owned hr hu
      obtain ⟨e, -, -, -, hv, -⟩ := freed_of_releaseOne hr
      have hStep : u.Precedes v := by
        rw [hv]
        exact dropEntry hu.1 h
      exact ⟨hu.1.releaseOne_freed hr, hu.2.trans hStep⟩
  exact hAll.2

/-! ## What an earlier table says -/

/-- While a value is there its identity is the same. -/
theorem identity {e₁ e₂ : Entry Code} (htu : t.Precedes u) (ht : t.WellFormed)
    (he₁ : t.entry? h = some e₁) (he₂ : u.entry? h = some e₂) :
    e₂.object.identity = e₁.object.identity := by
  have hIssued := (ht.entry he₁).issued
  obtain ⟨e₀, he₀, hSame⟩ := htu.same h e₂ he₂ hIssued
  cases he₁.symm.trans he₀
  exact hSame

/-- What was given out and is gone stays away. -/
theorem freed (htu : t.Precedes u) (hFreed : t.Freed h) : u.Freed h := by
  obtain ⟨hIssued, hDead⟩ := hFreed
  have hNext := htu.nextId
  refine ⟨by omega, ?_⟩
  cases hLive : u.isLive h with
  | false => rfl
  | true =>
    obtain ⟨e, he⟩ := isLive_iff.mp hLive
    obtain ⟨e₀, he₀, -⟩ := htu.same h e he hIssued
    have hBefore : t.isLive h = true := isLive_iff.mpr ⟨e₀, he₀⟩
    rw [hDead] at hBefore
    cases hBefore

end Precedes

end Table

/-! ## Whole runs -/

section Runs

open Session

variable {known : Client → List Shape} {s s' : Session Code Client}

theorem Session.Step.wellFormed (h : Step known s s') (hs : s.table.WellFormed) :
    s'.table.WellFormed := by
  cases h with
  | insert o ho => exact hs.insert ho
  | retain ht => exact hs.retain ht
  | release h => exact hs.releaseAll [h]
  | putMember h k v => exact hs.putMember k _
  | dropMember h k => exact hs.dropMember k
  | _ => exact hs

theorem Session.Path.wellFormed (hPath : Path known s s') (hs : s.table.WellFormed) :
    s'.table.WellFormed :=
  hPath.induct hs fun _ _ hStep hs => hStep.wellFormed hs

theorem Session.Step.precedes (h : Step known s s') (hs : s.table.WellFormed) :
    s.table.Precedes s'.table := by
  cases h with
  | insert o ho => exact .insert s.table o
  | retain ht => exact .retain ht
  | release h => exact .releaseAll hs [h]
  | putMember h k v => exact .modifyMembers s.table h _
  | dropMember h k => exact .modifyMembers s.table h _
  | _ => exact .refl s.table

theorem Session.Path.precedes (hPath : Path known s s') (hs : s.table.WellFormed) :
    s.table.Precedes s'.table := by
  -- the tables in between are well-formed, which a release needs
  have hAll : s'.table.WellFormed ∧ s.table.Precedes s'.table :=
    hPath.induct (P := fun s' => s'.table.WellFormed ∧ s.table.Precedes s'.table) ⟨hs, .refl _⟩
      fun _ _ hStep h => ⟨hStep.wellFormed h.1, h.2.trans (hStep.precedes h.1)⟩
  exact hAll.2

end Runs

/-! ## Handles that name nothing -/

/-- Every operation that can fail on a handle fails, naming the handle, and leaves all as it is.
A copy is refused by the limit first. A release is reported and does nothing. -/
structure Session.Refuses (s : Session Code Client) (h : Handle) : Prop where
  duplicate    : Act.duplicate h s =
    .error (if s.table.isFull then .exhausted else .stale h) s
  own          : Act.own h s = .error (if s.table.isFull then .exhausted else .stale h) s
  tagOf        : Act.tagOf h s = .error (.stale h) s
  memberNames  : Act.memberNames h s = .error (.stale h) s
  member       : ∀ (env : Environment Code Client) k, env.member h k s = .error (.stale h) s
  hasMethod    : ∀ (env : Environment Code Client) k, env.hasMethod h k s = .error (.stale h) s
  number       : ∀ (env : Environment Code Client) name,
    env.number h name s = .error (.stale h) s
  invoke       : ∀ (env : Environment Code Client) receiver args,
    env.invoke h receiver args s = .error (.stale h) s
  setMember    : ∀ k v, Act.setMember h k v s = .error (.stale h) s
  /-- It cannot be stored in a value that is there. -/
  store        : ∀ h' k, s.table.isLive h' = true → Act.setMember h' k h s = .error (.stale h) s
  deleteMember : ∀ k, Act.deleteMember h k s = .error (.stale h) s
  release      : s.release h = s.emit (.unknownRelease h)

section Dead

variable {s : Session Code Client} {h : Handle}

theorem Act.object_of_dead (hDead : s.table.isLive h = false) :
    Act.object h s = .error (.stale h) s := by
  have hEntry : s.table.entry? h = none := by simpa [Table.isLive] using hDead
  exact Act.object_error (by rw [Table.object, hEntry])

theorem Table.retain_of_dead {t : Table Code} (hDead : t.isLive h = false) :
    t.retain h = .error (.stale h) := by
  rw [Table.retain, hDead]
  rfl

theorem Table.duplicate_of_dead {t : Table Code} (hDead : t.isLive h = false) :
    t.duplicate h = .error (if t.isFull then .exhausted else .stale h) := by
  rw [Table.duplicate, Table.retain_of_dead hDead]
  split <;> rfl

theorem Environment.read_of_dead (env : Environment Code Client) (k : Key)
    (hDead : s.table.isLive h = false) : env.read h k s = .error (.stale h) s :=
  Act.bind_error (Act.object_of_dead hDead)

theorem Session.release_of_dead (hDead : s.table.isLive h = false) :
    s.release h = s.emit (.unknownRelease h) := by
  have hOne : s.table.releaseOne h = .stale := by
    rcases Table.releaseOne_cases s.table h with ⟨hStale, -⟩ | ⟨e, he, -, -⟩ | ⟨e, he, -, -, -⟩
    · exact hStale
    all_goals
      rw [Table.isLive_iff.mpr ⟨e, he⟩] at hDead
      cases hDead
  have hAll : s.table.releaseAll [h] = (s.table, [.unknownRelease h]) := by
    rw [Table.releaseAll_cons, hOne, Table.releaseAll_nil]
  rw [Session.release, Table.release, hAll]
  rfl

theorem Session.refuses_of_dead (hDead : s.table.isLive h = false) : s.Refuses h where
  duplicate := Act.bind_error (Act.onTable_error (Table.duplicate_of_dead hDead))
  own := Act.bind_error (Act.onTable_error (Table.duplicate_of_dead hDead))
  tagOf := Act.bind_error (Act.object_of_dead hDead)
  memberNames := Act.bind_error (Act.object_of_dead hDead)
  member env k := Act.bind_error (env.read_of_dead k hDead)
  hasMethod env k := Act.bind_error (env.read_of_dead k hDead)
  number env name := Act.bind_error (env.read_of_dead (.named name) hDead)
  invoke env receiver args := Act.bind_error (Act.object_of_dead hDead)
  setMember k v := Act.bind_error (Act.object_of_dead hDead)
  store h' k hLive := by
    -- the value is found, and the reference that it should hold is not
    obtain ⟨e, he⟩ := Table.isLive_iff.mp hLive
    have hObject : Act.object h' s = .ok e.object s := Act.object_ok (by rw [Table.object, he])
    rw [Act.setMember, Act.bind_ok hObject]
    exact Act.bind_error (Act.onTable_error (Table.retain_of_dead hDead))
  deleteMember k := Act.bind_error (Act.object_of_dead hDead)
  release := Session.release_of_dead hDead

end Dead

open Session

/--
**A handle names one value forever.** Whatever clients and foreign code do, at any depth, a run is
a path of small steps. Between any two moments of it, handles are given out in increasing order, so
none is given out twice; a handle that names a value at both names the same one, with the same tag,
body and number; and a handle that has lost its value never gets one again, and is refused.
-/
theorem handle_identity (l : Library Code Mind) (depth : Nat) (limit : Option Nat) (timing : Bool)
    (mind : Mind) :
    let start : World Code Mind := World.new (Table.empty limit) timing mind
    (l.environment depth).Walks Memory.shapes ∧
    (∀ s calls, Path Memory.shapes s (Call.performAll (l.environment depth) calls s)) ∧
    ∀ s₁, Path Memory.shapes start s₁ →
      (∀ o₁ h₁ s₁' s₂ o₂ h₂ s₂', o₁.members.Ordered →
        (Act.insert o₁ : Act _ _ ForeignError _) s₁ = .ok h₁ s₁' → Path Memory.shapes s₁' s₂ →
        (Act.insert o₂ : Act _ _ ForeignError _) s₂ = .ok h₂ s₂' → h₁.id < h₂.id) ∧
      ∀ s₂, Path Memory.shapes s₁ s₂ →
        (∀ h e₁ e₂, s₁.table.entry? h = some e₁ → s₂.table.entry? h = some e₂ →
          e₂.object.identity = e₁.object.identity) ∧
        (∀ h, s₁.table.isLive h = true → s₂.table.isLive h = false → s₂.table.Freed h) ∧
        ∀ h, s₁.table.Freed h → s₂.table.Freed h ∧ s₂.Refuses h := by
  intro start
  have hWalks := l.walks_environment depth
  refine ⟨hWalks, fun s calls => Call.path_performAll hWalks calls s, ?_⟩
  intro s₁ hStart
  have hWellFormed := Session.Path.wellFormed hStart (Table.wellFormed_empty limit)
  constructor
  · -- an insertion gives out the next number and raises it, and it never falls
    intro o₁ h₁ s₁' s₂ o₂ h₂ s₂' ho hInsert₁ hPath hInsert₂
    cases hInsert₁
    cases hInsert₂
    have hLater := Session.Path.precedes hPath (hWellFormed.insert ho)
    have hNext : s₁.table.nextId + 1 ≤ s₂.table.nextId := hLater.nextId
    show s₁.table.nextId < s₂.table.nextId
    omega
  · intro s₂ hPath
    have hPrecedes := Session.Path.precedes hPath hWellFormed
    refine ⟨?_, ?_, ?_⟩
    · intro h e₁ e₂ he₁ he₂
      exact hPrecedes.identity hWellFormed he₁ he₂
    · intro h hLive hDead
      obtain ⟨e, he⟩ := Table.isLive_iff.mp hLive
      have hIssued := (hWellFormed.entry he).issued
      have hNext := hPrecedes.nextId
      exact ⟨by omega, hDead⟩
    · intro h hFreed
      have hLater := hPrecedes.freed hFreed
      exact ⟨hLater, refuses_of_dead hLater.2⟩

/-- A getter frees the value whose member is read. The next value gets another handle, and the old
handle is refused. -/
theorem handle_identity_misuse :
    let env := exampleMisuse.environment 1
    let s₁ : World Unit Unit := Call.performAll env
      [.command (.insert (Object.plain.withMember (.named "size") (.accessor ())))]
      (World.new (.empty none) false ())
    let s₂ := Call.performAll env [.command (.member ⟨2⟩ (.named "size"))] s₁
    let s₃ := Call.performAll env [.command (.insert .plain)] s₂
    s₁.table.isLive ⟨2⟩ = true ∧ s₂.table.Freed ⟨2⟩ ∧ s₃.table.Freed ⟨2⟩ ∧ s₃.Refuses ⟨2⟩ ∧
      s₃.table.isLive ⟨3⟩ = true := by
  intro env s₁ s₂ s₃
  obtain ⟨-, hRun, hAgree⟩ := handle_identity exampleMisuse 1 none false ()
  have hLive : s₁.table.isLive ⟨2⟩ = true := by decide +kernel
  have hDead : s₂.table.isLive ⟨2⟩ = false := by decide +kernel
  have hPath₁ := hRun (World.new (.empty none) false ())
    [.command (.insert (Object.plain.withMember (.named "size") (.accessor ())))]
  have hPath₂ := hRun s₁ [.command (.member ⟨2⟩ (.named "size"))]
  have hPath₃ := hRun s₂ [.command (.insert .plain)]
  obtain ⟨-, hFreed, -⟩ := (hAgree s₁ hPath₁).2 s₂ hPath₂
  have hGone := hFreed ⟨2⟩ hLive hDead
  obtain ⟨-, -, hStays⟩ := (hAgree s₂ (hPath₁.trans hPath₂)).2 s₃ hPath₃
  obtain ⟨hLater, hRefused⟩ := hStays ⟨2⟩ hGone
  exact ⟨hLive, hGone, hLater, hRefused, by decide +kernel⟩

end ProxyBridge
