import ProxyBridge.Proofs.Contest
import ProxyBridge.Proofs.Counting

/-!
# Hints are as good as lookups

A hint is taken for the answer by its mask and by the number of its registry alone; nobody looks
whether the registry knows it. That is sound because of what happens in whole runs: a shape leaves a
registry only after it was bound, and a bound shape is never replaced. So every shape that
circulates is the one that its registry has bound to its mask, and a lookup would find it.

Several bridges work on one table, and a shape of one may come to another as a hint. The number of a
registry is that of its bridge, so no two have the same.

## Results

* `Session.Canonical` — the invariant: what circulates is bound.
* `Offers.binds` — what a registry can answer with is bound.
* `Act.Commutes` — actions to which some change of the session does not matter.
* `hints_agree` — a hint changes nothing but which counter counts the request.
-/

namespace ProxyBridge

variable {Code Client Mind ε α β : Type} {known : Client → List Shape}

/-! ## Registries know their shapes -/

namespace Registry

/-- All shapes of a registry have its number, and the mask that they are bound to. -/
structure Own (i : Nat) (r : Registry) : Prop where
  id : r.id = i
  made : ∀ p ∈ r.shapes, p.2.flags = p.1 ∧ p.2.registry = i

variable {i : Nat} {r r' : Registry} {flags : Capabilities} {shape : Shape}
  {catalog : Catalog Code}

theorem own_new {max : Option Nat} (h : new catalog i max = .ok r) : r.Own i := by
  unfold new at h
  split at h
  · cases h
  · cases h
    refine ⟨rfl, ?_⟩
    intro p hp
    rw [List.mem_singleton.mp hp]
    exact ⟨rfl, rfl⟩

theorem Own.flags_eq (h : r.Own i) (hBound : r.get? flags = some shape) :
    shape.flags = flags ∧ shape.registry = i :=
  h.made _ (mem_of_get? hBound)

/-- A new shape gets the number of its registry. -/
theorem Own.extends (h : r.Own i) (hExt : r.Extends catalog flags r') : r'.Own i := by
  refine ⟨hExt.id.trans h.id, ?_⟩
  rcases hExt.shapes with ⟨hSame, -⟩ | ⟨-, -, -, hNew⟩
  · rw [hSame]
    exact h.made
  · intro p hp
    rw [hNew] at hp
    rcases List.mem_append.mp hp with hOld | hLast
    · exact h.made p hOld
    · rw [List.mem_singleton.mp hLast]
      exact ⟨rfl, h.id⟩

/-- A bound shape is never replaced. -/
theorem Extends.bound (hExt : r.Extends catalog flags r') {other : Capabilities}
    (hBound : r.get? other = some shape) : r'.get? other = some shape := by
  unfold get? at hBound ⊢
  rcases hExt.shapes with ⟨hSame, -⟩ | ⟨-, -, -, hNew⟩
  · rwa [hSame]
  · rw [hNew, List.lookup_append, hBound]
    rfl

theorem resolve_hit (catalog : Catalog Code) (timed : Bool) (hBound : r.get? flags = some shape) :
    r.resolve catalog timed flags = (.ok shape, { r with hits := r.hits + 1 }, []) := by
  simp [resolve, steps, step, lookupStep, Request.start, Request.finish, Request.answer?, hBound]

end Registry

/-! ## What circulates is bound -/

namespace Session

/-- The registry that a shape names has bound it. -/
def Binds (s : Session Code Client) (shape : Shape) : Prop :=
  ∃ b, s.bridges[shape.registry]? = some b ∧ b.registry.get? shape.flags = some shape

/-- Every shape that somebody has at hand is the bound one, and a proxy has a shape of its own
bridge. -/
structure Canonical (known : Client → List Shape) (s : Session Code Client) : Prop where
  own : ∀ i (b : Bridge Code), s.bridges[i]? = some b → b.registry.Own i
  bound : ∀ shape, s.Circulates known shape → s.Binds shape
  home : ∀ q ∈ s.proxies, q.2.shape.registry = q.2.bridge

variable {s s' : Session Code Client} {i : Nat} {b b' : Bridge Code} {shape : Shape}

theorem canonical_new {client : Client} (table : Table Code) (timing : Bool)
    (hClient : known client = []) : (new table timing client).Canonical known := by
  refine ⟨nofun, ?_, nofun⟩
  rintro shape (hKnown | ⟨q, hq, -⟩)
  · change shape ∈ known client at hKnown
    rw [hClient] at hKnown
    cases hKnown
  · cases hq

/-- What a registry can answer with is bound, and bound there. -/
theorem Offers.binds (hs : s.Canonical known) (h : s.Offers known i shape) :
    s.Binds shape ∧ shape.registry = i := by
  -- a registry has bound the shape, or it takes a hint that has its number
  obtain ⟨b, hb, ⟨flags, hBound⟩ | ⟨hOwn, hCirculates⟩⟩ := h
  · obtain ⟨rfl, rfl⟩ := (hs.own i b hb).flags_eq hBound
    exact ⟨⟨b, hb, hBound⟩, rfl⟩
  · refine ⟨hs.bound shape hCirculates, ?_⟩
    rw [← (hs.own i b hb).id]
    exact beq_iff_eq.mp hOwn

theorem getElem?_setBridge (hb : s.bridges[i]? = some b) (j : Nat) :
    (s.setBridge i b').bridges[j]? = if i = j then some b' else s.bridges[j]? := by
  have hLt := (List.getElem?_eq_some_iff.mp hb).1
  rw [Session.setBridge, List.getElem?_set, if_pos hLt]

/-- A new state of one bridge, in which all bindings are kept. -/
theorem Canonical.setBridge (hs : s.Canonical known) (hb : s.bridges[i]? = some b)
    (hOwn : b'.registry.Own i)
    (hKeep : ∀ flags shape, b.registry.get? flags = some shape →
      b'.registry.get? flags = some shape) : (s.setBridge i b').Canonical known := by
  refine ⟨?_, ?_, hs.home⟩
  · intro j c hc
    rw [getElem?_setBridge hb] at hc
    split at hc
    · next hij =>
      cases hc
      exact hij ▸ hOwn
    · exact hs.own j c hc
  · intro shape hCirculates
    obtain ⟨c, hc, hBound⟩ := hs.bound shape hCirculates
    unfold Binds
    rw [getElem?_setBridge hb]
    split
    · -- the registry that has bound the shape is the one that changes
      next hij =>
      rw [← hij, hb] at hc
      cases hc
      exact ⟨b', rfl, hKeep _ _ hBound⟩
    · exact ⟨c, hc, hBound⟩

/-- What every step keeps. A shape comes into circulation from a registry that has bound it. -/
theorem Step.canonical (h : Step known s s') (hs : s.Canonical known) : s'.Canonical known := by
  cases h with
  | client c hc =>
    refine ⟨hs.own, ?_, hs.home⟩
    rintro shape (hKnown | hProxy)
    · -- the client had the shape before, or a registry has just answered with it
      rcases hc shape hKnown with hCirculates | ⟨i, hOffers⟩
      · exact hs.bound shape hCirculates
      · exact (hOffers.binds hs).1
    · exact hs.bound shape (Or.inr hProxy)
  | @openBridge b hr hh =>
    refine ⟨?_, ?_, hs.home⟩
    · intro j c hc
      rcases getElem?_concat_cases hc with hOld | ⟨rfl, rfl⟩
      · exact hs.own j c hOld
      · -- the number of the new registry is the place of its bridge
        exact Registry.own_new hr
    · intro shape hCirculates
      obtain ⟨c, hc, hBound⟩ := hs.bound shape hCirculates
      have hLt := (List.getElem?_eq_some_iff.mp hc).1
      exact ⟨c, (List.getElem?_append_left hLt).trans hc, hBound⟩
  | @resolve i b hb flags =>
    have hExt := (Registry.resolve_spec b.catalog s.timing b.registry flags).1
    exact hs.setBridge hb ((hs.own i b hb).extends hExt) fun _ _ hBound => hExt.bound hBound
  | @reuse i b hint hb hOwn hc =>
    exact hs.setBridge hb ⟨(hs.own i b hb).id, (hs.own i b hb).made⟩ fun _ _ hBound => hBound
  | @reserve i b heap hb hh => exact hs.setBridge hb (hs.own i b hb) fun _ _ hBound => hBound
  | @freeCell i b hb => exact hs.setBridge hb (hs.own i b hb) fun _ _ hBound => hBound
  | @join p hp =>
    obtain ⟨hBinds, hHome⟩ := hp.binds hs
    refine ⟨hs.own, ?_, ?_⟩
    · rintro shape (hKnown | ⟨q, hq, rfl⟩)
      · exact hs.bound shape (Or.inl hKnown)
      · -- the new proxy has a shape that its registry offers, the others have what they had
        rcases Dict.mem_insert hq with rfl | hOld
        · exact hBinds
        · exact hs.bound _ (Or.inr ⟨q, hOld, rfl⟩)
    · intro q hq
      rcases Dict.mem_insert hq with rfl | hOld
      · exact hHome
      · exact hs.home q hOld
  | leave id =>
    refine ⟨hs.own, ?_, ?_⟩
    · rintro shape (hKnown | ⟨q, hq, rfl⟩)
      · exact hs.bound shape (Or.inl hKnown)
      · exact hs.bound _ (Or.inr ⟨q, (Dict.erase_sublist ..).subset hq, rfl⟩)
    · exact fun q hq => hs.home q ((Dict.erase_sublist ..).subset hq)
  | _ => exact ⟨hs.own, hs.bound, hs.home⟩

theorem Path.canonical (h : Path known s s') (hs : s.Canonical known) : s'.Canonical known :=
  h.induct hs fun _ _ hStep hs => hStep.canonical hs

end Session

/-! ## A hint in place of a lookup -/

open Session

namespace Registry

/-- A request with a hint and the same request without it: one answer, and one registry but for
the counter that counts the request. -/
def Agrees (catalog : Catalog Code) (timed : Bool) (r : Registry) (flags : Capabilities)
    (hint : Shape) : Prop :=
  let plain := r.resolve catalog timed flags
  let hinted := r.resolveWithHint catalog timed flags hint
  hinted.1 = plain.1 ∧ hinted.2.2 = plain.2.2 ∧
    (hinted.2.1 = plain.2.1 ∨
      hinted.2.1 = { r with hintHits := r.hintHits + 1 } ∧
        plain.2.1 = { r with hits := r.hits + 1 })

variable {r : Registry} {hint : Shape}

theorem agrees_of_bound (catalog : Catalog Code) (timed : Bool) (flags : Capabilities)
    (h : r.owns hint = true → r.get? hint.flags = some hint) :
    r.Agrees catalog timed flags hint := by
  unfold Agrees
  rw [resolveWithHint]
  by_cases hFits : hint.flags = flags ∧ r.owns hint = true
  · -- a lookup finds the hint itself
    obtain ⟨rfl, hOwn⟩ := hFits
    rw [if_pos ⟨rfl, hOwn⟩, resolve_hit catalog timed (h hOwn)]
    exact ⟨rfl, rfl, Or.inr ⟨rfl, rfl⟩⟩
  · rw [if_neg hFits]
    exact ⟨rfl, rfl, Or.inl rfl⟩

end Registry

/-! ## Changes that do not matter -/

namespace Act

/-- The same end, in another session. -/
def mapState (f : Session Code Client → Session Code Client) :
    EStateM.Result ε (Session Code Client) α → EStateM.Result ε (Session Code Client) α
  | .ok a s => .ok a (f s)
  | .error e s => .error e (f s)

/-- It does not matter to the action whether the session is changed before it or after it. -/
def Commutes (f : Session Code Client → Session Code Client) (act : Act Code Client ε α) : Prop :=
  ∀ s, act (f s) = mapState f (act s)

variable {f : Session Code Client → Session Code Client} {act : Act Code Client ε α}

theorem Commutes.bind {next : α → Act Code Client ε β} (h : act.Commutes f)
    (hNext : ∀ a, (next a).Commutes f) : (act >>= next).Commutes f := by
  -- the change moves past the first action, and then past the second one if it runs
  intro s
  have hFirst := h s
  cases hr : act s with
  | ok a s' =>
    rw [hr] at hFirst
    rw [bind_ok hFirst, bind_ok hr]
    exact hNext a s'
  | error e s' =>
    rw [hr] at hFirst
    rw [bind_error hFirst, bind_error hr]
    rfl

theorem Commutes.foreign {act : Act Code Client ForeignError α} (h : act.Commutes f) :
    act.foreign.Commutes f := by
  intro s
  rw [Act.foreign, Act.mapError, h s, Act.mapError]
  cases act s <;> rfl

theorem Commutes.onError {g : ε → Session Code Client → Session Code Client} (h : act.Commutes f)
    (hg : ∀ e s, g e (f s) = f (g e s)) : (act.onError g).Commutes f := by
  intro s
  rw [Act.onError, h s, Act.onError]
  cases act s with
  | ok a s' => rfl
  | error e s' => exact congrArg (EStateM.Result.error e) (hg e s')

end Act

/-- The registry of a bridge is changed. -/
def Session.onRegistry (f : Registry → Registry) (i : Nat) (s : Session Code Client) :
    Session Code Client :=
  { s with bridges := s.bridges.modify i fun b => { b with registry := f b.registry } }

section Build

variable {s : Session Code Client} {f : Registry → Registry} {i : Nat} {b : Bridge Code}

theorem Session.setBridge_eq_onRegistry (hb : s.bridges[i]? = some b) :
    s.setBridge i { b with registry := f b.registry } = s.onRegistry f i := by
  obtain ⟨hLt, rfl⟩ := List.getElem?_eq_some_iff.mp hb
  rw [Session.setBridge, Session.onRegistry, List.modify_eq_set_getElem?, hb]
  rfl

/-- The cell of a bridge and its registry can be changed in any order. -/
theorem Session.setBridge_onRegistry (hb : s.bridges[i]? = some b) (heap : Heap) :
    (s.onRegistry f i).setBridge i { b with registry := f b.registry, heap } =
      (s.setBridge i { b with heap }).onRegistry f i := by
  have hLt := (List.getElem?_eq_some_iff.mp hb).1
  have hCell : (s.setBridge i { b with heap }).bridges[i]? = some { b with heap } :=
    List.getElem?_set_self hLt
  -- both sides put one bridge in place of the old one, in one or two writes
  rw [← setBridge_eq_onRegistry hb, ← setBridge_eq_onRegistry hCell]
  unfold Session.setBridge
  rw [List.set_set, List.set_set]

theorem Act.commutes_own (h : Handle) :
    (Act.own h : Act Code Client ForeignError Unit).Commutes (Session.onRegistry f i) := by
  intro s
  cases hd : s.table.duplicate h with
  | ok u =>
    rw [own_ok hd, own_ok (s := s.onRegistry f i) hd]
    rfl
  | error e =>
    rw [own_error hd, own_error (s := s.onRegistry f i) hd]
    rfl

/-- Cells are no matter of registries. -/
theorem Act.commutes_reserve (i : Nat) :
    (Act.reserve i : Act Code Client ProxyError Unit).Commutes (Session.onRegistry f i) := by
  intro s
  -- the bridge after the change has the same heap
  have hModify : (s.onRegistry f i).bridges[i]? =
      (s.bridges[i]?).map fun b => { b with registry := f b.registry } := by
    simp [Session.onRegistry]
  cases hb : s.bridges[i]? with
  | none =>
    rw [hb] at hModify
    rw [Act.reserve, hModify, Act.reserve, hb]
    rfl
  | some b =>
    rw [hb] at hModify
    cases hHeap : b.heap.hasRoom with
    | true =>
      rw [reserve_ok hModify hHeap, reserve_ok hb hHeap]
      exact congrArg (EStateM.Result.ok ()) (Session.setBridge_onRegistry hb _)
    | false =>
      rw [reserve_error hModify hHeap, reserve_error hb hHeap]
      rfl

theorem Act.commutes_build (i : Nat) (shape : Shape) (value : Handle) (receiver : Option Handle) :
    (Act.build i shape value receiver : Act Code Client ProxyError Nat).Commutes
      (Session.onRegistry f i) := by
  have hReceiver : (Act.ownReceiver receiver : Act Code Client ForeignError Unit).Commutes
      (Session.onRegistry f i) := by
    cases receiver with
    | none => exact fun _ => rfl
    | some r => exact commutes_own r
  have hBack : ∀ (e : ProxyError) (s : Session Code Client),
      ((s.onRegistry f i).letGo? receiver).letGo value =
        ((s.letGo? receiver).letGo value).onRegistry f i := by
    intro e s
    cases receiver <;> rfl
  -- references, cell and proxy, each of them elsewhere in the session
  refine (commutes_own value).foreign.bind fun _ => ?_
  refine (hReceiver.foreign.onError (g := fun _ s => s.letGo value) fun _ _ => rfl).bind fun _ => ?_
  refine ((commutes_reserve i).onError hBack).bind fun _ => ?_
  exact fun _ => rfl

end Build

/-! ## Another receiver -/

/-- Counts a request that the map of a bridge has answered. -/
def Session.countHit (i : Nat) : Session Code Client → Session Code Client :=
  Session.onRegistry (fun r => { r with hits := r.hits + 1 }) i

/-- Counts a request that its hint has answered. -/
def Session.countHintHit (i : Nat) : Session Code Client → Session Code Client :=
  Session.onRegistry (fun r => { r with hintHits := r.hintHits + 1 }) i

section Rebind

variable {s : Session Code Client} {i : Nat} {b : Bridge Code} {p : Proxy} {shape : Shape}

theorem Act.resolveShape_hit (hb : s.bridges[i]? = some b) {flags : Capabilities}
    (hBound : b.registry.get? flags = some shape) :
    (Act.resolveShape i flags none : Act Code Client ProxyError Shape) s =
      .ok shape (s.countHit i) := by
  rw [Session.countHit, ← Session.setBridge_eq_onRegistry hb, Act.resolveShape, hb]
  dsimp only
  rw [Registry.resolve_hit _ _ hBound]
  rfl

theorem Act.resolveShape_hintHit (hb : s.bridges[i]? = some b)
    (hOwn : b.registry.owns shape = true) :
    (Act.resolveShape i shape.flags (some shape) : Act Code Client ProxyError Shape) s =
      .ok shape (s.countHintHit i) := by
  rw [Session.countHintHit, ← Session.setBridge_eq_onRegistry hb, Act.resolveShape, hb]
  dsimp only
  rw [Registry.resolveWithHint, if_pos ⟨rfl, hOwn⟩]
  rfl

/-- What a wrap with a known shape comes to, apart from the request for the shape. -/
theorem Act.reporting_shapeAndBuild {flags : Capabilities} {hint : Option Shape}
    (value : Handle) (receiver : Option Handle) (f : Registry → Registry)
    (hShape : (Act.resolveShape i flags hint : Act Code Client ProxyError Shape) s =
      .ok shape (s.onRegistry f i)) :
    Act.reporting value (Act.shapeAndBuild i flags value receiver hint) s =
      Act.mapState (Session.onRegistry f i)
        (Act.reporting value (Act.build i shape value receiver) s) := by
  have hReport : Act.Commutes (Session.onRegistry f i)
      (Act.reporting value (Act.build i shape value receiver) :
        Act Code Client ProxyError Nat) :=
    (Act.commutes_build i shape value receiver).onError fun _ _ => rfl
  have hRun : (Act.shapeAndBuild i flags value receiver hint : Act Code Client ProxyError Nat) s =
      Act.build i shape value receiver (s.onRegistry f i) := Act.bind_ok hShape
  rw [← hReport s, Act.reporting, Act.onError, hRun, Act.reporting, Act.onError]

/-- The stages after the shape fail with errors of their own. -/
theorem ne_registryFull_of_buildStages {t : Table Code} {heap : Heap} {value : Handle}
    {receiver : Option Handle} {e : ProxyError}
    (h : firstFailure (buildStages t heap value receiver) = some e) : e ≠ .registryFull := by
  obtain ⟨stage, hFind, rfl⟩ := Option.map_eq_some_iff.mp h
  have hMem := List.mem_of_find?_eq_some hFind
  unfold buildStages at hMem
  cases receiver with
  | none =>
    simp only [receiverStages, List.nil_append, List.mem_cons, List.not_mem_nil, or_false] at hMem
    rcases hMem with rfl | rfl | rfl <;> simp [ProxyError.registryFull, ProxyError.heapFull]
  | some r =>
    simp only [receiverStages, List.cons_append, List.nil_append, List.mem_cons, List.not_mem_nil,
      or_false] at hMem
    rcases hMem with rfl | rfl | rfl | rfl | rfl <;>
      simp [ProxyError.registryFull, ProxyError.heapFull]

/-- A proxy with another receiver and a new wrap of its value with its capabilities: one end, but
for the counter that counts the request for the shape. The end is a proxy that differs in its
receiver alone, or an error that is not about shapes. -/
def Session.Rebinds (s : Session Code Client) (p : Proxy) (receiver : Handle) : Prop :=
  ∃ outcome,
    Act.rebind p receiver s = Act.mapState (Session.countHintHit p.bridge) outcome ∧
      Act.createTyped p.bridge p.flags p.value (some receiver) s =
        Act.mapState (Session.countHit p.bridge) outcome ∧
      match outcome with
      | .ok id s' => s'.proxies.find? id = some { p with receiver := some receiver }
      | .error e _ => e ≠ .registryFull

theorem Session.rebinds_of_bound (hTable : s.table.WellFormed) (hb : s.bridges[p.bridge]? = some b)
    (hOwn : b.registry.owns p.shape = true)
    (hBound : b.registry.get? p.shape.flags = some p.shape)
    (hSlot : p.shape.hasSlot Slots.bind = true) (receiver : Handle) : s.Rebinds p receiver := by
  refine ⟨Act.reporting p.value (Act.build p.bridge p.shape p.value (some receiver)) s, ?_, ?_, ?_⟩
  · have hShape : p.shape.require Slots.bind = .ok () := by rw [Shape.require, if_pos hSlot]
    have hRequire : (Act.require p Slots.bind : Act Code Client ProxyError Unit) s = .ok () s := by
      unfold Act.require
      rw [hShape]
      rfl
    rw [Act.rebind, Act.bind_ok hRequire]
    exact Act.reporting_shapeAndBuild p.value (some receiver) _ (Act.resolveShape_hintHit hb hOwn)
  · exact Act.reporting_shapeAndBuild p.value (some receiver) _ (Act.resolveShape_hit hb hBound)
  · -- after the shape, the wrap is all or nothing
    have hBuild := build_spec hTable hb p.shape p.value (some receiver)
    rw [Act.reporting, Act.onError]
    cases hr : (Act.build p.bridge p.shape p.value (some receiver) :
        Act Code Client ProxyError Nat) s with
    | ok id s' =>
      rw [hr] at hBuild
      obtain ⟨-, rfl, hBuilt⟩ := hBuild
      dsimp only
      rw [hBuilt.rest, Dict.find?_insert, if_pos rfl]
    | error e s' =>
      rw [hr] at hBuild
      exact ne_registryFull_of_buildStages hBuild.1

end Rebind

/-! ## Whole runs -/

/-- What hints are worth in a session. -/
structure Session.HintsAgree (known : Client → List Shape) (s : Session Code Client) : Prop where
  numbers : ∀ i (b : Bridge Code), s.bridges[i]? = some b → b.registry.id = i
  circulating : ∀ shape, s.Circulates known shape → ∀ b ∈ s.bridges,
    b.registry.owns shape = true → b.registry.get? shape.flags = some shape
  proxies : ∀ q ∈ s.proxies, ∃ b, s.bridges[q.2.bridge]? = some b ∧
    b.registry.owns q.2.shape = true
  /-- Any hint will do: one that circulates, one that any registry can answer with, and one that
  the registry has not made. -/
  hints : ∀ b ∈ s.bridges, ∀ timed flags hint,
    (s.Circulates known hint ∨ (∃ i, s.Offers known i hint) ∨ b.registry.owns hint = false) →
      b.registry.Agrees b.catalog timed flags hint
  rebind : ∀ q ∈ s.proxies, q.2.shape.hasSlot Slots.bind = true → ∀ receiver,
    s.Rebinds q.2 receiver

variable {s : Session Code Client}

/-- A registry that owns a bound shape is the one that has bound it. -/
theorem Session.Canonical.get?_of_owns (hs : s.Canonical known) {b : Bridge Code} {shape : Shape}
    (hb : b ∈ s.bridges) (hOwn : b.registry.owns shape = true) (hBinds : s.Binds shape) :
    b.registry.get? shape.flags = some shape := by
  obtain ⟨i, hi⟩ := List.mem_iff_getElem?.mp hb
  obtain ⟨c, hc, hBound⟩ := hBinds
  have hNumber : shape.registry = i := (beq_iff_eq.mp hOwn).trans (hs.own i b hi).id
  rw [hNumber, hi] at hc
  cases hc
  exact hBound

theorem Session.Canonical.hintsAgree (hs : s.Canonical known) (hTable : s.table.WellFormed) :
    s.HintsAgree known := by
  have hProxy : ∀ q ∈ s.proxies, ∃ b, s.bridges[q.2.bridge]? = some b ∧
      b.registry.owns q.2.shape = true ∧ b.registry.get? q.2.shape.flags = some q.2.shape := by
    intro q hq
    -- the shape of a proxy is bound where it was made, and that is the bridge of the proxy
    obtain ⟨b, hb, hBound⟩ := hs.bound _ (Or.inr ⟨q, hq, rfl⟩)
    rw [hs.home q hq] at hb
    refine ⟨b, hb, ?_, hBound⟩
    rw [Registry.owns, hs.home q hq, (hs.own _ b hb).id]
    exact beq_self_eq_true _
  refine ⟨fun i b hb => (hs.own i b hb).id, ?_, ?_, ?_, ?_⟩
  · intro shape hCirculates b hb hOwn
    exact hs.get?_of_owns hb hOwn (hs.bound shape hCirculates)
  · intro q hq
    obtain ⟨b, hb, hOwn, -⟩ := hProxy q hq
    exact ⟨b, hb, hOwn⟩
  · intro b hb timed flags hint hHint
    refine Registry.agrees_of_bound b.catalog timed flags fun hOwn => ?_
    -- only a hint that has the number of the registry has to be looked at
    rcases hHint with hCirculates | ⟨i, hOffers⟩ | hOther
    · exact hs.get?_of_owns hb hOwn (hs.bound hint hCirculates)
    · exact hs.get?_of_owns hb hOwn (hOffers.binds hs).1
    · rw [hOther] at hOwn
      cases hOwn
  · intro q hq hSlot receiver
    obtain ⟨b, hb, hOwn, hBound⟩ := hProxy q hq
    exact Session.rebinds_of_bound hTable hb hOwn hBound hSlot receiver

theorem World.canonical_of_path {s : World Code Mind} {table : Table Code} {timing : Bool}
    {mind : Mind} (hPath : Path Memory.shapes (World.new table timing mind) s) :
    s.Canonical Memory.shapes :=
  Path.canonical hPath (canonical_new table timing rfl)

/--
Whatever clients do, a run of their calls is a path of small steps, and at every moment of it hints
agree with lookups: the shape that a registry has made is the one that it has bound, for all shapes
that calls have returned or that live proxies have. A proxy gets another receiver as it would get it
from a new wrap, whatever foreign code there is.
-/
theorem hints_agree (l : Library Code Mind) (depth : Nat) (calls : List (Call Code Mind))
    (limit : Option Nat) (timing : Bool) (mind : Mind) :
    let start := World.new (Table.empty limit) timing mind
    Path Memory.shapes start (Call.performAll (l.environment depth) calls start) ∧
      ∀ s, Path Memory.shapes start s → s.HintsAgree Memory.shapes ∧
        ∀ p receiver (env env' : Environment Code (Memory Mind)),
          (Command.rebind p receiver).perform env s =
            (Command.rebind p receiver).perform env' s := by
  refine ⟨Call.path_performAll (l.walks_environment depth) calls _, ?_⟩
  intro s hPath
  have hCanonical := World.canonical_of_path hPath
  have hCounted := World.counted_of_path hPath
  exact ⟨hCanonical.hintsAgree hCounted.wellFormed, fun _ _ _ _ => rfl⟩

/-- Two bridges over one table, a function that is wrapped by the first, and the shape of the
wrapper, which comes to the second as a hint. -/
def exampleCalls : List (Call Unit Unit) :=
  [.command (.openBridge .standard {}), .command (.openBridge .standard {}),
    .command (.insert (.function ())),
    .command (.createTyped 0 Capabilities.callable ⟨2⟩ none), .shapeOf 0,
    .resolveLike 1 Capabilities.callable 0]

/-- The second bridge makes a shape of its own, and the proxy can get another receiver. -/
theorem hints_agree_bridges :
    let s := Call.performAll (exampleMisuse.environment 1) exampleCalls
      (World.new (.empty none) false ())
    s.client.shapes.map (·.registry) = [0, 1] ∧
      ∃ q ∈ s.proxies, q.2.shape.hasSlot Slots.bind = true ∧ s.Rebinds q.2 ⟨2⟩ := by
  intro s
  obtain ⟨hPath, hAgree⟩ := hints_agree exampleMisuse 1 exampleCalls none false ()
  have hSlots : ∃ q ∈ s.proxies, q.2.shape.hasSlot Slots.bind = true := by decide +kernel
  obtain ⟨q, hq, hSlot⟩ := hSlots
  exact ⟨by decide +kernel, q, hq, hSlot, (hAgree s hPath).1.rebind q hq hSlot ⟨2⟩⟩

end ProxyBridge
