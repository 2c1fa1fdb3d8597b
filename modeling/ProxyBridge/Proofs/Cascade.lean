import Mathlib.Algebra.BigOperators.Group.Finset.Basic
import Mathlib.Algebra.Order.BigOperators.Group.Finset
import Mathlib.Logic.Relation
import Mathlib.Order.Bounds.Basic
import ProxyBridge.Proofs.Table

/-!
# The order of releases does not matter

Pending releases may be processed in any order, and every value that is freed adds the releases of
what it held. Whatever the order, the process ends, and it always ends in the same table. The end is
told without an order: the values that are freed are the least set that contains every value with as
many arrivals as references, where the arrivals at a value are the pending releases of it at the
start and the members of freed values that hold it.

The argument is an invariant of every run, `Progress`. It counts how many of the arrivals at each
handle have been used up. Freed values are forced: each is in every closed set, since those freed
before it are. When nothing is pending, all arrivals are used up, so the freed values are closed.

* `Reaches` — runs, in any order.
* `cascade_terminates` — no run goes on forever.
* `Progress.step`, `Progress.run` — what a step and a run keep.
* `cascade_confluent` — every order ends in one table, which the least closed set tells.
-/

namespace ProxyBridge.Table

variable {Code : Type}

/-! ## Runs -/

/-- What a release of one handle makes of the table, and which releases follow. -/
def process (t : Table Code) (h : Handle) : Table Code × List Handle :=
  match t.releaseOne h with
  | .stale => (t, [])
  | .alive u => (u, [])
  | .freed u owned => (u, owned)

/-- One pending release, whichever it is, is processed. -/
inductive CascadeStep : Table Code × Multiset Handle → Table Code × Multiset Handle → Prop where
  | release (t : Table Code) (h : Handle) (pending : Multiset Handle) :
    CascadeStep (t, h ::ₘ pending) ((t.process h).1, ↑(t.process h).2 + pending)

/-- A run, in any order. -/
abbrev Reaches : Table Code × Multiset Handle → Table Code × Multiset Handle → Prop :=
  Relation.ReflTransGen CascadeStep

/-- All that the processing of one release can do. -/
theorem process_cases (t : Table Code) (h : Handle) :
    (t.process h = (t, []) ∧ ∀ e, t.entry? h = some e → isPinned h = true ∧ e.refcount ≤ 1) ∨
    (∃ e, t.entry? h = some e ∧ 2 ≤ e.refcount ∧ t.process h = (t.dropReference h, [])) ∨
    (∃ e, t.entry? h = some e ∧ e.refcount ≤ 1 ∧ isPinned h = false ∧
      t.process h = (t.dropEntry h, e.object.owned)) := by
  rw [process]
  rcases releaseOne_cases t h with ⟨hr, hStale⟩ | ⟨e, he, h2, hr⟩ | ⟨e, he, h1, hp, hr⟩
  · exact Or.inl ⟨by rw [hr], hStale⟩
  · exact Or.inr (Or.inl ⟨e, he, h2, by rw [hr]⟩)
  · exact Or.inr (Or.inr ⟨e, he, h1, hp, by rw [hr]⟩)

/-- The releases that can still come: those pending, and one for each reference that a stored value
holds. -/
def workload (c : Table Code × Multiset Handle) : Nat := c.2.card + c.1.memberCount

/-- A step shortens what is pending, or frees a value with the members that it makes pending. -/
theorem CascadeStep.workload_lt {a b : Table Code × Multiset Handle} (hs : CascadeStep a b) :
    workload b < workload a := by
  obtain ⟨t, h, pending⟩ := hs
  have hCount : (t.process h).2.length + (t.process h).1.memberCount = t.memberCount := by
    rw [Table.process]
    cases hr : t.releaseOne h with
    | stale => exact Nat.zero_add _
    | alive u => exact (Nat.zero_add _).trans (memberCount_alive hr)
    | freed u owned => exact (Nat.add_comm ..).trans (memberCount_freed hr)
  rw [workload, workload, Multiset.card_add, Multiset.coe_card, Multiset.card_cons]
  dsimp only
  omega

/-- No run goes on forever. -/
theorem cascade_terminates :
    WellFounded fun b a : Table Code × Multiset Handle => CascadeStep a b :=
  Subrelation.wf CascadeStep.workload_lt (measure workload).wf

/-- Releasing handles one after another, depth first, is one of the runs. -/
theorem reaches_releaseAll (t : Table Code) (l : List Handle) :
    Reaches (t, l) ((t.releaseAll l).1, 0) := by
  have step_eq (t : Table Code) (h : Handle) (rest : List Handle) :
      CascadeStep (t, ((h :: rest : List Handle) : Multiset Handle))
        ((t.process h).1, ↑((t.process h).2 ++ rest)) := by
    rw [← Multiset.cons_coe, ← Multiset.coe_add]
    exact .release t h rest
  refine releaseAll_induction (P := fun v pending => Reaches (t, l) (v, pending))
    (fun v h rest hr hv => ?_) (fun v h rest u hr hv => ?_) (fun v h rest u owned hr hv => ?_) .refl
  · have hs := step_eq v h rest
    rw [process, hr] at hs
    exact hv.tail hs
  · have hs := step_eq v h rest
    rw [process, hr] at hs
    exact hv.tail hs
  · have hs := step_eq v h rest
    rw [process, hr] at hs
    exact hv.tail hs

/-! ## Arrivals -/

/-- How many members of one stored value hold another handle. -/
def heldBy (t : Table Code) (d c : Handle) : Nat :=
  ((t.entry? d).map fun e => e.object.owned.count c).getD 0

/-- The releases of a handle that come up if exactly the given values are freed. -/
def arrivals (t : Table Code) (pending : Multiset Handle) (freed : Finset Handle) (c : Handle) :
    Nat :=
  pending.count c + ∑ d ∈ freed, t.heldBy d c

theorem arrivals_mono (t : Table Code) (pending : Multiset Handle) {F G : Finset Handle}
    (hFG : F ⊆ G) (c : Handle) : t.arrivals pending F c ≤ t.arrivals pending G c :=
  Nat.add_le_add_left (Finset.sum_le_sum_of_subset hFG) _

theorem arrivals_insert (t : Table Code) (pending : Multiset Handle) {F : Finset Handle}
    {d : Handle} (hd : d ∉ F) (c : Handle) :
    t.arrivals pending (Insert.insert d F) c = t.arrivals pending F c + t.heldBy d c := by
  rw [arrivals, arrivals, Finset.sum_insert hd]
  omega

/-- Stored values that can be freed, and with them every value that has as many arrivals as
references. -/
structure Closed (t : Table Code) (pending : Multiset Handle) (F : Finset Handle) : Prop where
  candidates : ∀ c ∈ F, t.isLive c ∧ isPinned c = false
  closed : ∀ c, t.isLive c → isPinned c = false → t.refcount c ≤ t.arrivals pending F c → c ∈ F

/-! ## Counters -/

/-- All references that are counted. -/
def references (t : Table Code) : Nat := t.entries.total Entry.refcount

/-- A later table of a run: references are given back one by one, and nothing is handed out. -/
structure Spent (t v : Table Code) : Prop where
  nextId : v.nextId = t.nextId
  limit : v.limit = t.limit
  references : v.references ≤ t.references
  outstanding : v.outstanding = t.outstanding - (t.references - v.references)

theorem Spent.refl (t : Table Code) : Spent t t :=
  ⟨rfl, rfl, Nat.le_refl _, by rw [Nat.sub_self, Nat.sub_zero]⟩

variable {t u v : Table Code} {h : Handle} {e : Entry Code}

theorem Spent.dropReference (hv : Spent t v) (he : v.entry? h = some e) (h2 : 2 ≤ e.refcount) :
    Spent t (v.dropReference h) := by
  have hTotal := Dict.total_modify Entry.refcount
    (fun e : Entry Code => { e with refcount := e.refcount - 1 }) he
  have hRefs : (v.dropReference h).references + e.refcount = v.references + (e.refcount - 1) :=
    hTotal
  have hLe := hv.references
  have hOut := hv.outstanding
  refine ⟨hv.nextId, hv.limit, by omega, ?_⟩
  change v.outstanding - 1 = _
  omega

theorem Spent.dropEntry (hv : Spent t v) (he : v.entry? h = some e) (h1 : e.refcount = 1) :
    Spent t (v.dropEntry h) := by
  have hRefs : (v.dropEntry h).references + e.refcount = v.references :=
    Dict.total_erase Entry.refcount he
  have hLe := hv.references
  have hOut := hv.outstanding
  refine ⟨hv.nextId, hv.limit, by omega, ?_⟩
  change v.outstanding - 1 = _
  omega

/-! ## The invariant of a run -/

/-- The references that remain of `r` after `n` releases, if they do not free the value. The pinned
value keeps one. -/
def remaining (c : Handle) (r n : Nat) : Nat := if isPinned c then max 1 (r - n) else r - n

theorem remaining_pinned {c : Handle} (hPin : isPinned c = true) (r n : Nat) :
    remaining c r n = max 1 (r - n) := by rw [remaining, if_pos hPin]

theorem remaining_free {c : Handle} (hPin : isPinned c = false) (r n : Nat) :
    remaining c r n = r - n := by
  rw [remaining, hPin]
  rfl

/-- While several references remain, one more release takes one of them. -/
theorem remaining_succ {c : Handle} {r n : Nat} (h2 : 2 ≤ remaining c r n) :
    remaining c r n - 1 = remaining c r (n + 1) := by
  cases hPin : isPinned c with
  | true =>
    rw [remaining_pinned hPin] at h2 ⊢
    rw [remaining_pinned hPin]
    omega
  | false =>
    rw [remaining_free hPin, remaining_free hPin]
    omega

/--
What holds at every point of a run that started in `t` with the releases `start` and has come to
`v` with `pending`. The values of `freed` are gone, and of the arrivals at a handle, `used` have
been processed.
-/
structure Progress (t : Table Code) (start : Multiset Handle) (freed : Finset Handle)
    (used : Handle → Nat) (v : Table Code) (pending : Multiset Handle) : Prop where
  wellFormed : v.WellFormed
  /-- Every arrival has been processed or is pending. -/
  balance : ∀ c, used c + pending.count c = t.arrivals start freed c
  candidates : ∀ c ∈ freed, t.isLive c ∧ isPinned c = false
  /-- Freed values are in every closed set. -/
  forced : ∀ F, t.Closed start F → freed ⊆ F
  gone : ∀ c ∈ freed, v.entry? c = none
  kept : ∀ c ∉ freed, v.entry? c = (t.entry? c).map fun e =>
    { e with refcount := remaining c e.refcount (used c) }
  /-- A value that is still there has references left. -/
  alive : ∀ c ∉ freed, ∀ e, t.entry? c = some e → isPinned c = false → used c < e.refcount
  spent : Spent t v

theorem Progress.start (ht : t.WellFormed) (start : Multiset Handle) :
    Progress t start ∅ (fun _ => 0) t start where
  wellFormed := ht
  balance c := by rw [arrivals, Finset.sum_empty, Nat.zero_add, Nat.add_zero]
  candidates c hc := absurd hc (Finset.notMem_empty c)
  forced F _ := Finset.empty_subset F
  gone c hc := absurd hc (Finset.notMem_empty c)
  kept c _ := by
    cases he : t.entry? c with
    | none => rfl
    | some e =>
      have hCounted := (ht.entry he).counted
      rw [Option.map_some, remaining, Nat.sub_zero, Nat.max_eq_right hCounted, ite_self]
  alive c _ e he _ := (ht.entry he).counted
  spent := .refl t

section Step

variable {start pending : Multiset Handle} {freed : Finset Handle} {used : Handle → Nat}
  {c : Handle}

/-- One more arrival at a handle has been processed. -/
def tick (used : Handle → Nat) (h c : Handle) : Nat := used c + if c = h then 1 else 0

theorem tick_self (used : Handle → Nat) (h : Handle) : tick used h h = used h + 1 := by
  rw [tick, if_pos rfl]

theorem tick_of_ne (used : Handle → Nat) (hch : c ≠ h) : tick used h c = used c := by
  rw [tick, if_neg hch, Nat.add_zero]

theorem Progress.balance_tick (hp : Progress t start freed used v (h ::ₘ pending)) (c : Handle) :
    tick used h c + pending.count c = t.arrivals start freed c := by
  have := hp.balance c
  rw [Multiset.count_cons] at this
  rw [tick]
  omega

/-- A value that is still there is the one of the start, with the references that remain. -/
theorem Progress.origin (hp : Progress t start freed used v pending) (he : v.entry? c = some e) :
    c ∉ freed ∧ ∃ e₀, t.entry? c = some e₀ ∧
      e = { e₀ with refcount := remaining c e₀.refcount (used c) } := by
  have hc : c ∉ freed := by
    intro hc
    rw [hp.gone c hc] at he
    cases he
  rw [hp.kept c hc, Option.map_eq_some_iff] at he
  obtain ⟨e₀, he₀, rfl⟩ := he
  exact ⟨hc, e₀, he₀, rfl⟩

/-- A release of a handle that nobody holds changes nothing. -/
theorem Progress.stale (hp : Progress t start freed used v (h ::ₘ pending))
    (hStale : ∀ e, v.entry? h = some e → isPinned h = true ∧ e.refcount ≤ 1) :
    Progress t start freed (tick used h) v pending := by
  have hAt : ∀ e, h ∉ freed → t.entry? h = some e →
      isPinned h = true ∧ remaining h e.refcount (used h) ≤ 1 := by
    intro e hh he
    refine hStale { e with refcount := remaining h e.refcount (used h) } ?_
    rw [hp.kept h hh, he, Option.map_some]
  refine ⟨hp.wellFormed, hp.balance_tick, hp.candidates, hp.forced, hp.gone,
    fun c hc => ?_, fun c hc e he hPin => ?_, hp.spent⟩
  · rw [hp.kept c hc]
    by_cases hch : c = h
    · subst hch
      cases he : t.entry? c with
      | none => rfl
      | some e =>
        -- only the pinned value is stored and stale, and it keeps its last reference
        obtain ⟨hPin, hLast⟩ := hAt e hc he
        rw [remaining_pinned hPin] at hLast
        rw [Option.map_some, Option.map_some, tick_self, remaining_pinned hPin,
          remaining_pinned hPin, Nat.max_eq_left (by omega), Nat.max_eq_left (by omega)]
    · rw [tick_of_ne used hch]
  · have hLt := hp.alive c hc e he hPin
    by_cases hch : c = h
    · subst hch
      rw [(hAt e hc he).1] at hPin
      cases hPin
    · rw [tick_of_ne used hch]
      exact hLt

/-- A release that leaves references takes one. -/
theorem Progress.dropReference (hp : Progress t start freed used v (h ::ₘ pending))
    (he : v.entry? h = some e) (h2 : 2 ≤ e.refcount) :
    Progress t start freed (tick used h) (v.dropReference h) pending := by
  obtain ⟨hh, e₀, he₀, rfl⟩ := hp.origin he
  have hEntry : ∀ c, Table.entry? (v.dropReference h) c =
      if h = c then (v.entry? c).map fun e => { e with refcount := e.refcount - 1 }
      else v.entry? c := fun c => entry?_modifyEntry ..
  refine ⟨hp.wellFormed.dropReference he h2, hp.balance_tick, hp.candidates, hp.forced,
    fun c hc => ?_, fun c hc => ?_, fun c hc e hce hPin => ?_, hp.spent.dropReference he h2⟩
  · rw [hEntry, hp.gone c hc]
    exact ite_self _
  · rw [hEntry, hp.kept c hc]
    by_cases hch : h = c
    · subst hch
      rw [if_pos rfl, tick_self, he₀, Option.map_some, Option.map_some, Option.map_some]
      exact congrArg (fun n => some { e₀ with refcount := n }) (remaining_succ h2)
    · rw [if_neg hch, tick_of_ne used (Ne.symm hch)]
  · have hLt := hp.alive c hc e hce hPin
    by_cases hch : c = h
    · subst hch
      cases he₀.symm.trans hce
      -- two references remain, so one more arrival does not use all of them up
      have h2' : 2 ≤ remaining c e₀.refcount (used c) := h2
      rw [remaining_free hPin] at h2'
      rw [tick_self]
      omega
    · rw [tick_of_ne used hch]
      exact hLt

/-- A release of the last reference frees the value, and what it held comes up. -/
theorem Progress.dropEntry (hp : Progress t start freed used v (h ::ₘ pending))
    (he : v.entry? h = some e) (h1 : e.refcount ≤ 1) (hPin : isPinned h = false) :
    Progress t start (Insert.insert h freed) (tick used h) (v.dropEntry h)
      (↑e.object.owned + pending) := by
  obtain ⟨hh, e₀, he₀, rfl⟩ := hp.origin he
  have hHeld : ∀ c, t.heldBy h c = e₀.object.owned.count c := by
    intro c
    rw [heldBy, he₀]
    rfl
  have hEntry := entry?_dropEntry hp.wellFormed h
  have hLt := hp.alive h hh e₀ he₀ hPin
  have hLast : remaining h e₀.refcount (used h) = 1 := by
    have := (hp.wellFormed.entry he).counted
    exact Nat.le_antisymm h1 this
  -- the arrival that frees the value is the last one that it can take
  have hArrived : e₀.refcount ≤ t.arrivals start freed h := by
    have := hp.balance_tick h
    rw [remaining_free hPin] at hLast
    rw [tick_self] at this
    omega
  have hLive : t.isLive h := isLive_iff.mpr ⟨e₀, he₀⟩
  refine ⟨hp.wellFormed.dropEntry hPin, fun c => ?_, fun c hc => ?_, fun F hF => ?_, fun c hc => ?_,
    fun c hc => ?_, fun c hc e hce hPin => ?_, hp.spent.dropEntry he hLast⟩
  · -- what the value held has arrived, and is pending
    have := hp.balance_tick c
    rw [arrivals_insert t start hh, hHeld, Multiset.count_add, Multiset.coe_count]
    dsimp only
    omega
  · rcases Finset.mem_insert.mp hc with rfl | hc
    · exact ⟨hLive, hPin⟩
    · exact hp.candidates c hc
  · -- a closed set has all that was freed before, so it counts at least as many arrivals at `h`
    have hSub := hp.forced F hF
    have hMem : h ∈ F := by
      refine hF.closed h hLive hPin ?_
      rw [refcount_eq he₀]
      exact hArrived.trans (t.arrivals_mono start hSub h)
    exact Finset.insert_subset hMem hSub
  · rw [hEntry]
    rcases Finset.mem_insert.mp hc with rfl | hc
    · exact if_pos rfl
    · rw [hp.gone c hc]
      exact ite_self _
  · obtain ⟨hch, hc⟩ := not_or.mp (mt Finset.mem_insert.mpr hc)
    rw [hEntry, if_neg (Ne.symm hch), hp.kept c hc, tick_of_ne used hch]
  · obtain ⟨hch, hc⟩ := not_or.mp (mt Finset.mem_insert.mpr hc)
    rw [tick_of_ne used hch]
    exact hp.alive c hc e hce hPin

/-- Every step keeps the invariant. -/
theorem Progress.step (hp : Progress t start freed used v (h ::ₘ pending)) :
    ∃ freed', Progress t start freed' (tick used h) (v.process h).1
      (↑(v.process h).2 + pending) := by
  rcases process_cases v h with ⟨hr, hStale⟩ | ⟨e, he, h2, hr⟩ | ⟨e, he, h1, hPin, hr⟩
  · rw [hr, Multiset.coe_nil, zero_add]
    exact ⟨freed, hp.stale hStale⟩
  · rw [hr, Multiset.coe_nil, zero_add]
    exact ⟨freed, hp.dropReference he h2⟩
  · rw [hr]
    exact ⟨_, hp.dropEntry he h1 hPin⟩

/-- Every run keeps the invariant. -/
theorem Progress.run (ht : t.WellFormed) (hRun : Reaches (t, start) (v, pending)) :
    ∃ freed used, Progress t start freed used v pending := by
  generalize hc : (v, pending) = c at hRun
  induction hRun generalizing v pending with
  | refl =>
    cases hc
    exact ⟨∅, _, .start ht start⟩
  | tail _ hs ih =>
    obtain ⟨v₀, h, pending₀⟩ := hs
    cases hc
    obtain ⟨freed, used, hp⟩ := ih rfl
    obtain ⟨freed', hp'⟩ := hp.step
    exact ⟨freed', _, hp'⟩

end Step

/-! ## The end of a run -/

/-- What becomes of a table whose values `F` are freed, told without an order. Members, tags and
everything else about the surviving values stay. -/
structure Settled (t : Table Code) (start : Multiset Handle) (F : Finset Handle) (u : Table Code) :
    Prop where
  gone : ∀ c ∈ F, u.entry? c = none
  /-- A surviving value has lost a reference with each arrival. -/
  survivors : ∀ c ∉ F, isPinned c = false → ∀ e, t.entry? c = some e →
    t.arrivals start F c < e.refcount ∧
      u.entry? c = some { e with refcount := e.refcount - t.arrivals start F c }
  pinned : ∀ e, t.entry? Handle.undefined = some e →
    u.entry? Handle.undefined =
      some { e with refcount := max 1 (e.refcount - t.arrivals start F Handle.undefined) }
  /-- No handle comes to name a value. -/
  unknown : ∀ c, t.entry? c = none → u.entry? c = none
  spent : Spent t u

theorem isPinned_iff {c : Handle} : isPinned c = true ↔ c = Handle.undefined := beq_iff_eq

variable {start : Multiset Handle} {F : Finset Handle}

theorem Progress.settled {used : Handle → Nat} (hp : Progress t start F used u 0) :
    IsLeast {F | t.Closed start F} F ∧ t.Settled start F u := by
  -- nothing is pending, so all arrivals have been used up
  have hUsed : ∀ c, used c = t.arrivals start F c := by
    intro c
    have := hp.balance c
    rwa [Multiset.count_zero, Nat.add_zero] at this
  have hClosed : t.Closed start F := by
    refine ⟨hp.candidates, fun c hLive hPin hArrived => ?_⟩
    by_contra hc
    obtain ⟨e, he⟩ := isLive_iff.mp hLive
    have hLt := hp.alive c hc e he hPin
    rw [refcount_eq he] at hArrived
    rw [hUsed] at hLt
    omega
  refine ⟨⟨hClosed, fun G hG => hp.forced G hG⟩, hp.gone, fun c hc hPin e he => ⟨?_, ?_⟩,
    fun e he => ?_, fun c he => ?_, hp.spent⟩
  · rw [← hUsed]
    exact hp.alive c hc e he hPin
  · rw [hp.kept c hc, he, Option.map_some, hUsed, remaining_free hPin]
  · have hc : Handle.undefined ∉ F := by
      intro hc
      cases (hp.candidates _ hc).2
    rw [hp.kept _ hc, he, Option.map_some, hUsed, remaining_pinned (isPinned_iff.mpr rfl)]
  · by_cases hc : c ∈ F
    · exact hp.gone c hc
    · rw [hp.kept c hc, he, Option.map_none]

/-- The freed values tell the table. -/
theorem Settled.unique {u' : Table Code} (hu : t.Settled start F u) (hu' : t.Settled start F u')
    (hw : u.WellFormed) (hw' : u'.WellFormed) : u = u' := by
  have hEntry : ∀ c, u.entry? c = u'.entry? c := by
    intro c
    by_cases hc : c ∈ F
    · rw [hu.gone c hc, hu'.gone c hc]
    cases he : t.entry? c with
    | none => rw [hu.unknown c he, hu'.unknown c he]
    | some e =>
      cases hPin : isPinned c with
      | false => rw [(hu.survivors c hc hPin e he).2, (hu'.survivors c hc hPin e he).2]
      | true =>
        cases isPinned_iff.mp hPin
        rw [hu.pinned e he, hu'.pinned e he]
  have hEntries : u.entries = u'.entries := Dict.ext hw.ordered hw'.ordered hEntry
  have hRefs : u.references = u'.references := by rw [references, references, hEntries]
  refine hw.ext hw' hEntry (hu.spent.nextId.trans hu'.spent.nextId.symm) ?_
    (hu.spent.limit.trans hu'.spent.limit.symm)
  rw [hu.spent.outstanding, hu'.spent.outstanding, hRefs]

/--
**Every order of releases ends in the same table.** No order goes on forever. Whatever the order,
when no release is pending any more the table is `u`, and releasing the handles one after another,
depth first, is one such order. The freed values are the least closed set, and with it `u` is told.
-/
theorem cascade_confluent (ht : t.WellFormed) (start : Multiset Handle) :
    Acc (fun b a => CascadeStep a b) (t, start) ∧
    ∃ (u : Table Code) (F : Finset Handle),
      IsLeast {F | t.Closed start F} F ∧ t.Settled start F u ∧
      (∀ v pending, Reaches (t, start) (v, pending) → (∀ c, ¬ CascadeStep (v, pending) c) →
        pending = 0 ∧ v = u) ∧
      ∀ l : List Handle, (l : Multiset Handle) = start →
        Reaches (t, start) (l.foldl (fun v h => (v.release h).1) t, 0) := by
  obtain ⟨l, rfl⟩ := Quotient.exists_rep start
  obtain ⟨F, used, hp⟩ := Progress.run ht (reaches_releaseAll t l)
  obtain ⟨hLeast, hSettled⟩ := hp.settled
  refine ⟨cascade_terminates.apply _, (t.releaseAll l).1, F, hLeast, hSettled,
    fun v pending hRun hEnd => ?_, fun l' hl' => ?_⟩
  · have hDone : pending = 0 := by
      by_contra hPending
      obtain ⟨h, hh⟩ := Multiset.exists_mem_of_ne_zero hPending
      obtain ⟨rest, rfl⟩ := Multiset.exists_cons_of_mem hh
      exact hEnd _ (.release v h rest)
    subst hDone
    obtain ⟨F', used', hp'⟩ := Progress.run ht hRun
    obtain ⟨hLeast', hSettled'⟩ := hp'.settled
    -- both runs freed the one least closed set
    cases hLeast.unique hLeast'
    exact ⟨rfl, hSettled'.unique hSettled hp'.wellFormed hp.wellFormed⟩
  · rw [foldl_release, ← hl']
    exact reaches_releaseAll t l'

/-- Two values that hold each other, the second one twice, and a handle that was never given out. -/
def exampleCycle : Table Empty where
  entries :=
    [(⟨1⟩, { object := .ofTag .undefined, refcount := 2 }),
     (⟨2⟩, { object := { Object.plain with
        members := [(.symbol .iterator, .data (.handle ⟨3⟩)),
          (.symbol .asyncIterator, .data (.handle ⟨3⟩))] }, refcount := 2 }),
     (⟨3⟩, { object := { Object.plain with
        members := [(.symbol .iterator, .data (.handle ⟨2⟩)),
          (.symbol .asyncIterator, .data (.handle ⟨7⟩))] }, refcount := 3 })]
  nextId := 4
  outstanding := 6
  limit := none

/-- Whatever the order, the cycle ends in one table, although it is released more often than it is
counted. -/
theorem cascade_confluent_cycle :
    exampleCycle.WellFormed ∧ ∃ u, ∀ v pending,
      Reaches (exampleCycle, {⟨2⟩, ⟨1⟩, ⟨3⟩, ⟨1⟩, ⟨2⟩, ⟨7⟩, ⟨1⟩}) (v, pending) →
      (∀ c, ¬ CascadeStep (v, pending) c) → pending = 0 ∧ v = u := by
  refine ⟨by decide, ?_⟩
  obtain ⟨u, -, -, -, hEnd, -⟩ := (cascade_confluent (t := exampleCycle) (by decide) _).2
  exact ⟨u, hEnd⟩

end ProxyBridge.Table
