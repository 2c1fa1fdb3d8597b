import ProxyBridge.Log.Filter
import ProxyBridge.Proofs.Contest
import ProxyBridge.Proofs.Counting
import ProxyBridge.Proofs.WrapReports

/-!
# The log accounts for the state

A log that lets traces through shows everything, and what there is can be read off it: a value is
stored if it has entered the table and has not left it, there are as many proxies as were reported,
and as many shapes. The events come from the table, from registries and from wraps, and each of them
is written after the change that it is about, outside of it. Foreign code runs in between, wraps
fail, and one release can free any number of values. But whoever changes what is counted reports it
before foreign code can run again, so the log is right whenever no operation is under way, and for
every call that foreign code makes in between.

## Results

* `Session.trace` — the log at the level of traces; `Session.trace_eq` — it leaves nothing out.
* `Table.Logged`, `Bridge.AllLogged` — the invariant; `Logged.insert`, `Logged.releaseAll` — it is
  kept by the changes that are reported.
* `Session.enduring_logged` — every operation keeps it.
* `trace_accounts` — what can be read off the log of a run, and what wraps add to it.
-/

namespace ProxyBridge

variable {Code Client Mind : Type}

/-! ## Traces -/

/-- All targets are under one root. -/
theorem Event.root_isPrefixOf_target (e : Event) :
    Event.root.toList.isPrefixOf e.target.toList = true := by
  have hUnder : ∃ rest, e.target = Event.root ++ rest := by
    cases e <;> exact ⟨_, rfl⟩
  obtain ⟨rest, hRest⟩ := hUnder
  rw [hRest, String.toList_append, List.isPrefixOf_iff_prefix]
  exact List.prefix_append ..

/-- So the default filter looks at the level only. -/
theorem Filter.passes_default (l : Level) (e : Event) :
    (Filter.default l).passes e = decide (e.level.verbosity ≤ l.verbosity) := by
  have hCovers : (⟨Event.root, .all, some l⟩ : Directive).covers e.target e.fieldNames = true := by
    rw [Directive.covers, e.root_isPrefixOf_target]
    rfl
  rw [passes, admits, decisive?, default, List.filter_singleton, hCovers]
  rfl

/-- The events as a log at the level of traces shows them, the first one first. -/
def Session.trace (s : Session Code Client) : List Event :=
  s.log.reverse.filter (Filter.default .trace).passes

theorem Session.trace_eq (s : Session Code Client) : s.trace = s.log.reverse := by
  rw [trace, List.filter_eq_self]
  intro e _
  rw [Filter.passes_default]
  cases e <;> rfl

namespace Event

/-- A value entered the table, or left it. -/
def isPassage : Event → Bool
  | .valueInserted _ | .valueFreed _ => true
  | _ => false

/-- The event speaks of nothing that is counted here. -/
def isAside (e : Event) : Bool := !e.isPassage && !e.isCreation && !e.isSynthesis

theorem isAside_iff {e : Event} :
    e.isAside = true ↔ e.isPassage = false ∧ e.isCreation = false ∧ e.isSynthesis = false := by
  simp [isAside, and_assoc]

end Event

/-! ## Values -/

namespace Table

/-- The handle was given out for a value that was stored. -/
def hasIssued (t : Table Code) (h : Handle) : Bool :=
  Handle.undefined.id < h.id && h.id < t.nextId

/-- The log speaks of every value that was stored, and of every one that is gone. -/
structure Logged (t : Table Code) (log : List Event) : Prop where
  counted  : t.Counted
  inserted : ∀ h, log.count (.valueInserted h) = if t.hasIssued h then 1 else 0
  freed    : ∀ h, log.count (.valueFreed h) = if t.hasIssued h && !t.isLive h then 1 else 0
  /-- In a log the newest event comes first. -/
  order    : log.Pairwise fun later earlier => ∀ h, earlier = .valueFreed h →
    later ≠ .valueInserted h

theorem logged_empty (limit : Option Nat) : (empty limit : Table Code).Logged [] := by
  have hNone (h : Handle) : (empty limit : Table Code).hasIssued h = false := by
    have hId : ¬(1 < h.id ∧ h.id < 2) := by omega
    rw [← Bool.not_eq_true, hasIssued, Bool.and_eq_true, decide_eq_true_eq, decide_eq_true_eq]
    exact hId
  refine ⟨counted_empty limit, fun h => ?_, fun h => ?_, .nil⟩
  · rw [hNone]
    rfl
  · rw [hNone]
    rfl

variable {t u : Table Code} {h : Handle} {e : Entry Code} {log : List Event}

/-- A value other than the pinned one is there if its handle was given out. -/
theorem Counted.hasIssued_of_entry (ht : t.Counted) (he : t.entry? h = some e)
    (hFree : isPinned h = false) : t.hasIssued h = true := by
  have hNe : h.id ≠ Handle.undefined.id := by
    intro hId
    have hSame : h = Handle.undefined := by
      cases h
      exact congrArg Handle.mk hId
    rw [hSame] at hFree
    cases hFree
  have hPositive := ht.positive h e he
  have hIssued := (ht.wellFormed.entry he).issued
  simp only [hasIssued, Bool.and_eq_true, decide_eq_true_eq]
  exact ⟨Nat.lt_of_le_of_ne hPositive (Ne.symm hNe), hIssued⟩

/-- Events that do not speak of values change nothing. -/
theorem Logged.append {more : List Event} (ht : t.Logged log)
    (hMore : ∀ e ∈ more, e.isPassage = false) : t.Logged (more ++ log) := by
  induction more with
  | nil => exact ht
  | cons event more ih =>
    obtain ⟨hEvent, hMore⟩ := List.forall_mem_cons.mp hMore
    have hIn (h : Handle) : event ≠ .valueInserted h := by
      rintro rfl
      cases hEvent
    have hOut (h : Handle) : event ≠ .valueFreed h := by
      rintro rfl
      cases hEvent
    obtain ⟨hCounted, hInserted, hFreed, hOrder⟩ := ih hMore
    refine ⟨hCounted, fun h => ?_, fun h => ?_, ?_⟩
    · rw [List.cons_append, List.count_cons_of_ne (hIn h), hInserted]
    · rw [List.cons_append, List.count_cons_of_ne (hOut h), hFreed]
    · exact List.pairwise_cons.mpr ⟨fun _ _ h _ => hIn h, hOrder⟩

/-- So does a change that neither stores a value nor frees one. -/
theorem Logged.congr (ht : t.Logged log) (hu : u.Counted) (hNext : u.nextId = t.nextId)
    (hLive : ∀ h, u.isLive h = t.isLive h) : u.Logged log where
  counted := hu
  inserted h := by rw [ht.inserted, hasIssued, hasIssued, hNext]
  freed h := by rw [ht.freed, hasIssued, hasIssued, hNext, hLive]
  order := ht.order

theorem isLive_modifyEntry (t : Table Code) (h h' : Handle) (f : Entry Code → Entry Code)
    (n : Nat) : (t.modifyEntry h f n).isLive h' = t.isLive h' := by
  rw [isLive, entry?_modifyEntry, isLive]
  split
  · exact Option.isSome_map
  · rfl

theorem Logged.retain (ht : t.Logged log) (hr : t.retain h = .ok u) : u.Logged log := by
  have hCounted := ht.counted.retain hr
  obtain ⟨-, rfl⟩ := retain_eq_ok_iff.mp hr
  exact ht.congr hCounted rfl fun _ => isLive_modifyEntry ..

theorem Logged.modifyMembers (ht : t.Logged log)
    {f : Dict Key (Member Code) → Dict Key (Member Code)}
    (hf : ∀ d : Dict Key (Member Code), d.Ordered → (f d).Ordered) :
    (t.modifyMembers h f).Logged log :=
  ht.congr (ht.counted.modifyMembers hf) rfl fun _ => isLive_modifyEntry ..

/-- The new handle is given out, and it names a value. -/
theorem Counted.insert_self (ht : t.Counted) (o : Object Code) :
    (t.insert o).2.hasIssued ⟨t.nextId⟩ = true ∧ (t.insert o).2.isLive ⟨t.nextId⟩ = true := by
  obtain ⟨e, he⟩ := isLive_iff.mp ht.wellFormed.pinned
  have hFirst : Handle.undefined.id < t.nextId := (ht.wellFormed.entry he).issued
  constructor
  · rw [hasIssued, Bool.and_eq_true, decide_eq_true_eq, decide_eq_true_eq]
    exact ⟨hFirst, Nat.lt_succ_self _⟩
  · rw [isLive, entry?_insert, if_pos rfl]
    rfl

/-- Nothing changes about the other handles. -/
theorem insert_of_ne (t : Table Code) (o : Object Code) (hNe : h ≠ ⟨t.nextId⟩) :
    (t.insert o).2.hasIssued h = t.hasIssued h ∧ (t.insert o).2.isLive h = t.isLive h := by
  have hId : h.id ≠ t.nextId := by
    intro hId
    exact hNe (congrArg Handle.mk hId)
  constructor
  · have hNext : h.id < t.nextId + 1 ↔ h.id < t.nextId := by omega
    rw [hasIssued, hasIssued]
    exact congrArg _ (decide_eq_decide.mpr hNext)
  · rw [isLive, entry?_insert, if_neg (Ne.symm hNe), isLive]

theorem Logged.insert (ht : t.Logged log) {o : Object Code} (ho : o.members.Ordered) :
    (t.insert o).2.Logged (.valueInserted ⟨t.nextId⟩ :: log) := by
  have hNew : t.hasIssued ⟨t.nextId⟩ = false := by simp [hasIssued]
  have hNotFreed : log.count (.valueFreed ⟨t.nextId⟩) = 0 := by
    rw [ht.freed, hNew]
    rfl
  obtain ⟨hIssued, hLive⟩ := ht.counted.insert_self o
  refine ⟨ht.counted.insert ho, fun h => ?_, fun h => ?_, ?_⟩
  · by_cases hh : h = ⟨t.nextId⟩
    · rw [hh, List.count_cons_self, ht.inserted, hNew, hIssued]
      rfl
    · have hEvent : Event.valueInserted ⟨t.nextId⟩ ≠ .valueInserted h := by
        intro hSame
        cases hSame
        exact hh rfl
      rw [List.count_cons_of_ne hEvent, ht.inserted, (insert_of_ne t o hh).1]
  · have hEvent : Event.valueInserted ⟨t.nextId⟩ ≠ .valueFreed h := nofun
    rw [List.count_cons_of_ne hEvent]
    by_cases hh : h = ⟨t.nextId⟩
    · rw [hh, hNotFreed, hLive, Bool.not_true, Bool.and_false]
      rfl
    · rw [ht.freed, (insert_of_ne t o hh).1, (insert_of_ne t o hh).2]
  · -- a handle that was not given out has not been freed either
    refine List.pairwise_cons.mpr ⟨?_, ht.order⟩
    rintro _ hMem h rfl hSame
    cases hSame
    exact List.count_eq_zero.mp hNotFreed hMem

/-! ## Values that are freed -/

theorem Logged.dropReference (ht : t.Logged log) (he : t.entry? h = some e)
    (h2 : 2 ≤ e.refcount) : (t.dropReference h).Logged log :=
  ht.congr (ht.counted.dropReference he h2) rfl fun _ => isLive_modifyEntry ..

theorem Logged.dropEntry (ht : t.Logged log) (he : t.entry? h = some e) (h1 : e.refcount ≤ 1)
    (hFree : isPinned h = false) : (t.dropEntry h).Logged (.valueFreed h :: log) := by
  have hIssued := ht.counted.hasIssued_of_entry he hFree
  have hLive : t.isLive h = true := isLive_iff.mpr ⟨e, he⟩
  have hLater (h' : Handle) : (t.dropEntry h).isLive h' = (t.isLive h' && decide (h ≠ h')) := by
    rw [isLive, entry?_dropEntry ht.counted.wellFormed, isLive]
    by_cases hh : h = h' <;> simp [hh]
  have hOther (h' : Handle) : Event.valueFreed h ≠ .valueInserted h' := by
    intro hSame
    cases hSame
  refine ⟨ht.counted.dropEntry he h1 hFree, fun h' => ?_, fun h' => ?_, ?_⟩
  · rw [List.count_cons_of_ne (hOther h'), ht.inserted]
    rfl
  · have hSame : (t.dropEntry h).hasIssued h' = t.hasIssued h' := rfl
    rw [hSame, hLater]
    by_cases hh : h = h'
    · subst hh
      rw [List.count_cons_self, ht.freed, hIssued, hLive]
      simp
    · have hEvent : Event.valueFreed h ≠ .valueFreed h' := by
        intro hSame
        cases hSame
        exact hh rfl
      rw [List.count_cons_of_ne hEvent, ht.freed, decide_eq_true hh, Bool.and_true]
  · exact List.pairwise_cons.mpr ⟨fun _ _ h' _ => hOther h', ht.order⟩

/-- A cascade reports every value that it frees, whatever it is asked to release. -/
theorem Logged.releaseAll (ht : t.Logged log) (pending : List Handle) :
    (t.releaseAll pending).1.Logged ((t.releaseAll pending).2.reverse ++ log) := by
  -- the log grows by one event at a step, so the rest of the cascade starts from a longer one
  fun_induction Table.releaseAll t pending generalizing log with
  | case1 t => exact ht
  | case2 t h rest hr u events hu ih =>
    rw [hu] at ih
    rw [List.reverse_cons, List.append_assoc]
    have hUnknown : t.Logged ([.unknownRelease h] ++ log) :=
      ht.append (List.forall_mem_singleton.mpr rfl)
    exact ih hUnknown
  | case3 t h rest u hr ih =>
    obtain ⟨e, he, h2, rfl⟩ := alive_of_releaseOne hr
    exact ih (ht.dropReference he h2)
  | case4 t h rest t' owned hr u events hu ih =>
    obtain ⟨e, he, h1, hFree, rfl, rfl⟩ := freed_of_releaseOne hr
    rw [hu] at ih
    rw [List.reverse_cons, List.append_assoc]
    exact ih (ht.dropEntry he h1 hFree)

end Table

/-! ## Proxies and shapes -/

namespace Bridge

/-- The log speaks of every proxy that the bridges have made, and of every shape that their
registries have composed and bound. -/
structure AllLogged (bridges : List (Bridge Code)) (log : List Event) : Prop where
  created     : log.countP Event.isCreation = (bridges.map (·.heap.total)).sum
  synthesized : log.countP Event.isSynthesis = (bridges.map (·.registry.syntheses)).sum

variable {bridges : List (Bridge Code)} {log more : List Event} {i : Nat} {b b' : Bridge Code}

/-- What one bridge does is added to the log and to its own counters. -/
theorem AllLogged.set (h : AllLogged bridges log) (hb : bridges[i]? = some b)
    (hCreated : b'.heap.total = b.heap.total + more.countP Event.isCreation)
    (hSynthesized :
      b'.registry.syntheses = b.registry.syntheses + more.countP Event.isSynthesis) :
    AllLogged (bridges.set i b') (more ++ log) where
  created := by
    have hSum := sum_set (fun b : Bridge Code => b.heap.total) hb b'
    rw [List.countP_append, h.created]
    omega
  synthesized := by
    have hSum := sum_set (fun b : Bridge Code => b.registry.syntheses) hb b'
    rw [List.countP_append, h.synthesized]
    omega

/-- Other events change nothing. -/
theorem AllLogged.append (h : AllLogged bridges log)
    (hMore : ∀ e ∈ more, e.isCreation = false ∧ e.isSynthesis = false) :
    AllLogged bridges (more ++ log) where
  created := by
    have hNone : more.countP Event.isCreation = 0 :=
      List.countP_eq_zero.mpr fun e he => ne_true_of_eq_false (hMore e he).1
    rw [List.countP_append, hNone, Nat.zero_add, h.created]
  synthesized := by
    have hNone : more.countP Event.isSynthesis = 0 :=
      List.countP_eq_zero.mpr fun e he => ne_true_of_eq_false (hMore e he).2
    rw [List.countP_append, hNone, Nat.zero_add, h.synthesized]

/-- A new bridge has done nothing yet. -/
theorem AllLogged.concat (h : AllLogged bridges log) (hTotal : b.heap.total = 0)
    (hSyntheses : b.registry.syntheses = 0) : AllLogged (bridges ++ [b]) log where
  created := by
    rw [h.created, List.map_append, List.sum_append, List.map_singleton, List.sum_singleton,
      hTotal, Nat.add_zero]
  synthesized := by
    rw [h.synthesized, List.map_append, List.sum_append, List.map_singleton, List.sum_singleton,
      hSyntheses, Nat.add_zero]

end Bridge

/-! ## Sessions -/

namespace Session

/-- The log speaks of all values, proxies and shapes. -/
structure Logged (s : Session Code Client) : Prop where
  values : s.table.Logged s.log
  work   : Bridge.AllLogged s.bridges s.log

variable {s : Session Code Client}

theorem Logged.emitAll (hs : s.Logged) {events : List Event}
    (h : ∀ e ∈ events, e.isAside = true) : (s.emitAll events).Logged := by
  have hAside (e : Event) (he : e ∈ events.reverse) :=
    Event.isAside_iff.mp (h e (List.mem_reverse.mp he))
  exact ⟨hs.values.append fun e he => (hAside e he).1, hs.work.append fun e he => (hAside e he).2⟩

theorem Logged.emit (hs : s.Logged) {e : Event} (h : e.isAside = true) :
    (s.emit e).Logged := by
  have hAll : (s.emitAll [e]).Logged := hs.emitAll (List.forall_mem_singleton.mpr h)
  exact hAll

theorem Logged.release (hs : s.Logged) (h : Handle) : (s.release h).Logged where
  values := hs.values.releaseAll [h]
  work := by
    refine hs.work.append fun e he => ?_
    have hLoss := s.table.releaseAll_events [h] e (List.mem_reverse.mp he)
    cases e <;> first | exact ⟨rfl, rfl⟩ | cases hLoss

/-- What happens to references, values and members is reported if it has to be. -/
theorem stable_logged : Stable fun s : Session Code Client => s.Logged where
  retain hs ht := ⟨hs.values.retain ht, hs.work⟩
  release h hs := hs.release h
  insert {s o} ho hs :=
    have hInserted : ∀ e ∈ [Event.valueInserted (s.table.insert o).1],
        e.isCreation = false ∧ e.isSynthesis = false := List.forall_mem_singleton.mpr ⟨rfl, rfl⟩
    ⟨hs.values.insert ho, hs.work.append hInserted⟩
  owners _ hs := ⟨hs.values, hs.work⟩
  putMember _ k v hs :=
    ⟨hs.values.modifyMembers fun _ hd => Dict.ordered_insert hd k _, hs.work⟩
  dropMember _ k hs := ⟨hs.values.modifyMembers fun _ hd => Dict.ordered_erase hd k, hs.work⟩
  report {_ e} he hs := hs.emit (by cases e <;> first | rfl | cases he)

end Session

open Session

namespace Act

/-- A registry reports the shapes that it binds. -/
theorem logged_resolveShape (i : Nat) (flags : Capabilities) (hint : Option Shape) :
    (resolveShape i flags hint : Act Code Client ProxyError Shape).Maintains Session.Logged := by
  refine Maintains.resolveShape (fun s b registry events hb hTells hs => ?_) flags hint
  have hOrigin (e : Event) (he : e ∈ events.reverse) :
      e.isPassage = false ∧ e.isCreation = false := by
    have hOf := hTells.origin e (List.mem_reverse.mp he)
    cases e <;> first | exact ⟨rfl, rfl⟩ | cases hOf
  refine ⟨hs.values.append fun e he => (hOrigin e he).1, hs.work.set hb ?_ ?_⟩
  · have hNone : events.reverse.countP Event.isCreation = 0 :=
      List.countP_eq_zero.mpr fun e he => ne_true_of_eq_false (hOrigin e he).2
    rw [hNone]
    rfl
  · rw [List.countP_reverse]
    exact hTells.syntheses

theorem logged_finishBuild (i : Nat) (shape : Shape) (value : Handle)
    (receiver : Option Handle) :
    (finishBuild i shape value receiver : Act Code Client ProxyError Nat).Maintains
      Session.Logged := by
  have hStable : Stable fun s : Session Code Client => s.Logged := stable_logged
  intro s hs
  rcases finishBuild_cases i shape value receiver s with ⟨b, hb, hHeap⟩ | ⟨e, hFail⟩
  · rw [finishBuild_ok hb hHeap]
    let created : Event := .proxyCreated shape.name value receiver.isSome
    have hCreated : ∀ e ∈ [created], e.isPassage = false := List.forall_mem_singleton.mpr rfl
    have hWork : Bridge.AllLogged (s.bridges.set i
        { b with heap := { b.heap with live := b.heap.live + 1, total := b.heap.total + 1 } })
        ([created] ++ s.log) := hs.work.set hb rfl rfl
    exact ⟨hs.values.append hCreated, hWork⟩
  · rw [hFail]
    exact hStable.letGo value (hStable.letGo? receiver hs)

theorem logged_shapeAndBuild (i : Nat) (flags : Capabilities) (value : Handle)
    (receiver : Option Handle) (hint : Option Shape) :
    (shapeAndBuild i flags value receiver hint : Act Code Client ProxyError Nat).Maintains
      Session.Logged :=
  stable_logged.ensures_shapeAndBuild (logged_resolveShape i flags hint) fun shape =>
    logged_finishBuild i shape value receiver

theorem logged_rebind (p : Proxy) (receiver : Handle) :
    (rebind p receiver : Act Code Client ProxyError Nat).Maintains Session.Logged := by
  refine (maintains_require p _).bind fun _ => Maintains.reporting ?_ fun s error hs => hs.emit rfl
  exact logged_shapeAndBuild p.bridge p.shape.flags p.value (some receiver) (some p.shape)

end Act

/-- A registry that was just made has its plain shape, which it did not have to compose. -/
theorem Registry.syntheses_new {catalog : Catalog Code} {id : Nat} {max : Option Nat}
    {r : Registry} (h : Registry.new catalog id max = .ok r) : r.syntheses = 0 := by
  rw [Registry.new] at h
  split at h
  · cases h
  · cases h
    rfl

/-- Whatever is done in a session, the log goes on to account for it. -/
theorem Session.enduring_logged : Enduring fun s : Session Code Client => s.Logged where
  toStable := stable_logged
  wrap i flags value receiver := Act.logged_shapeAndBuild i flags value receiver none
  failed _ _ hs := hs.emit rfl
  resolve i flags := Act.logged_resolveShape i flags none
  refuse hs := hs.emit rfl
  openBridge hs hr hh :=
    ⟨hs.values, hs.work.concat (by rw [hh]; rfl) (Registry.syntheses_new hr)⟩
  leave _ hs := ⟨hs.values, hs.work⟩
  freeCell {s} i hs := by
    rw [Session.freeCell]
    cases hb : s.bridges[i]? with
    | none => exact hs
    | some b =>
      have hWork : Bridge.AllLogged (s.bridges.set i { b with heap := b.heap.free })
          ([] ++ s.log) := hs.work.set hb rfl rfl
      exact ⟨hs.values, hWork⟩

/-! ## Runs -/

/-- The log does not depend on what clients bring or remember. -/
theorem World.enduring_logged : World.Enduring fun s : World Code Mind => s.Logged where
  toEnduring := Session.enduring_logged
  rebind {_ p} receiver _ hs := (Act.logged_rebind p receiver).after hs
  reuse {_ hint} i flags _ hs := (Act.logged_resolveShape i flags (some hint)).after hs
  learn _ hs := ⟨hs.values, hs.work⟩
  think _ hs := ⟨hs.values, hs.work⟩

theorem World.logged_new (limit : Option Nat) (timing : Bool) (mind : Mind) :
    (World.new (.empty limit) timing mind : World Code Mind).Logged where
  values := Table.logged_empty limit
  work := ⟨rfl, rfl⟩

/-- The log is right after every run of calls, however deep foreign code runs in it. -/
theorem World.logged_performAll (l : Library Code Mind) (depth : Nat)
    (calls : List (Call Code Mind)) (limit : Option Nat) (timing : Bool) (mind : Mind) :
    (Call.performAll (l.environment depth) calls (.new (.empty limit) timing mind)).Logged := by
  exact Call.maintains_performAll World.enduring_logged
    (l.maintains_environment World.enduring_logged depth) calls (World.logged_new limit timing mind)

/-! ## What can be read off the log -/

/-- The trace of a session accounts for its state. -/
structure Session.Accountable (s : Session Code Client) : Prop where
  /-- Every handle that was given out has entered the table once, and no other one has. -/
  inserted    : ∀ h, s.trace.count (.valueInserted h) = if s.table.hasIssued h then 1 else 0
  freedOnce   : ∀ h, s.trace.count (.valueFreed h) ≤ 1
  /-- What is freed was stored before. -/
  freedLater  : ∀ h before after, s.trace = before ++ .valueFreed h :: after →
    .valueInserted h ∈ before
  live        : ∀ h, s.table.isLive h = true ∧ Table.isPinned h = false ↔
    .valueInserted h ∈ s.trace ∧ .valueFreed h ∉ s.trace
  created     : s.trace.countP Event.isCreation = (s.bridges.map (·.heap.total)).sum
  synthesized : s.trace.countP Event.isSynthesis = (s.bridges.map (·.registry.syntheses)).sum

namespace Table

variable {t : Table Code} {log : List Event}

theorem Logged.inserted_mem (ht : t.Logged log) (h : Handle) :
    .valueInserted h ∈ log ↔ t.hasIssued h = true := by
  rw [← List.count_pos_iff, ht.inserted]
  cases t.hasIssued h <;> simp

theorem Logged.freed_mem (ht : t.Logged log) (h : Handle) :
    .valueFreed h ∈ log ↔ t.hasIssued h = true ∧ t.isLive h = false := by
  rw [← List.count_pos_iff, ht.freed]
  cases t.hasIssued h <;> cases t.isLive h <;> simp

theorem not_isPinned_of_hasIssued {h : Handle} (hIssued : t.hasIssued h = true) :
    isPinned h = false := by
  rw [hasIssued, Bool.and_eq_true, decide_eq_true_eq] at hIssued
  rw [isPinned, beq_eq_false_iff_ne]
  rintro rfl
  exact Nat.lt_irrefl _ hIssued.1

/-- A value that is freed was stored before, in the order in which things happened. -/
theorem Logged.inserted_before (ht : t.Logged log) {h : Handle} {before after : List Event}
    (hTrace : log.reverse = before ++ .valueFreed h :: after) : .valueInserted h ∈ before := by
  have hFreed : .valueFreed h ∈ log := by
    rw [← List.mem_reverse, hTrace]
    exact List.mem_append_right _ (List.mem_cons_self ..)
  have hInserted : .valueInserted h ∈ before ++ .valueFreed h :: after := by
    rw [← hTrace, List.mem_reverse, ht.inserted_mem]
    exact ((ht.freed_mem h).mp hFreed).1
  -- it is somewhere, and what comes after the value is freed is something else
  have hOrder := List.pairwise_reverse.mpr ht.order
  rw [hTrace] at hOrder
  have hAfter := (List.pairwise_cons.mp (List.pairwise_append.mp hOrder).2.1).1
  rcases List.mem_append.mp hInserted with hBefore | hRest
  · exact hBefore
  · rcases List.mem_cons.mp hRest with hSame | hLater
    · cases hSame
    · exact absurd rfl (hAfter _ hLater h rfl)

/-- The values that are there, the pinned one apart, are those that came and did not go. -/
theorem Logged.isLive_iff (ht : t.Logged log) (h : Handle) :
    t.isLive h = true ∧ isPinned h = false ↔ .valueInserted h ∈ log ∧ .valueFreed h ∉ log := by
  rw [ht.inserted_mem, ht.freed_mem]
  constructor
  · rintro ⟨hLive, hFree⟩
    obtain ⟨e, he⟩ := Table.isLive_iff.mp hLive
    have hIssued := ht.counted.hasIssued_of_entry he hFree
    exact ⟨hIssued, fun hGone => Bool.false_ne_true (hGone.2.symm.trans hLive)⟩
  · rintro ⟨hIssued, hNotGone⟩
    refine ⟨?_, not_isPinned_of_hasIssued hIssued⟩
    rw [← Bool.not_eq_false]
    exact fun hDead => hNotGone ⟨hIssued, hDead⟩

end Table

theorem Session.Logged.accountable {s : Session Code Client} (hs : s.Logged) : s.Accountable where
  inserted h := by rw [s.trace_eq, List.count_reverse, hs.values.inserted]
  freedOnce h := by
    rw [s.trace_eq, List.count_reverse, hs.values.freed]
    split
    · exact Nat.le_refl 1
    · exact Nat.zero_le 1
  freedLater h before after hTrace := by
    rw [s.trace_eq] at hTrace
    exact hs.values.inserted_before hTrace
  live h := by
    rw [s.trace_eq, List.mem_reverse, List.mem_reverse]
    exact hs.values.isLive_iff h
  created := by rw [s.trace_eq, List.countP_reverse, hs.work.created]
  synthesized := by rw [s.trace_eq, List.countP_reverse, hs.work.synthesized]

/--
A run begins with an empty table, and consists of calls that may run foreign code, which makes calls
of its own. Afterwards the log tells which values are stored, how many proxies all heaps have had,
and how many shapes all registries have composed, those of bridges that were opened in vain among
them. And whenever a value is wrapped, by anybody and at any moment, the log grows by one proxy if
that succeeds and by one failure if it does not. What is added inside the probes of the wrap is left
out, since that is told by the wraps in there.
-/
theorem trace_accounts (l : Library Code Mind) (depth : Nat) (calls : List (Call Code Mind))
    (limit : Option Nat) (timing : Bool) (mind : Mind) :
    (Call.performAll (l.environment depth) calls
      (World.new (.empty limit) timing mind)).Accountable ∧
      ∀ (env : Environment Code Client) (w : Wrap) (s : Session Code Client),
        w.ReportsOnce env s :=
  ⟨(World.logged_performAll l depth calls limit timing mind).accountable,
    fun env w s => w.reports_once env s⟩

/-- A probe that wraps the value which is looked at, as something without capabilities. -/
def exampleNesting : Library Unit Unit where
  body _ _ _ := { calls := fun _ => [], result := fun _ => .ok .undefined }
  probe _ h _ :=
    { calls := fun _ => [.command (.createTyped 0 0#32 h none)], result := fun _ => .ok true }

/-- The two proxies are both in the log, and one of them is from the wrap itself. -/
example :
    let catalog : Catalog Unit :=
      ⟨[{ flag := 1#32, name := "client", probe := .custom (), slots := 0#32 }]⟩
    let env := exampleNesting.environment 1
    let s := Call.performAll env [.command (.openBridge catalog {}), .command (.insert .plain)]
      (World.new (.empty none) false ())
    let w : Wrap := .create 0 ⟨2⟩
    gained Event.isCreation (s, (w.act env).after s) = 2 ∧ w.adds env s Event.isCreation = 1 := by
  decide +kernel

end ProxyBridge
