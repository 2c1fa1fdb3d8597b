import Mathlib.Data.Finset.Card
import Mathlib.Data.List.Dedup
import ProxyBridge.Proofs.CappedMap
import ProxyBridge.Proofs.Limits

/-!
# Opening a bridge

A bridge is opened with a list of masks whose shapes it composes at once. The list may name a mask
twice, and it may name the empty one, which has its shape before the list is looked at. So what
counts against the limit of the registry is how many masks there are in the list and the empty one,
taken as a set; a mask that came up before is found, and that is all that happens.

Everything is told by the masks asked for so far: the registry has their shapes, in the order in
which they first came up, and its counters tell first requests from repeated ones.

## Results

* `Mask.firsts` — the masks of a list, each where it comes up first.
* `Registry.Prewarmed` — a registry that was asked for some masks and has refused none.
* `Registry.Prewarmed.resolve` — one more request.
* `Act.prewarm_spec` — a list of requests; `Act.openBridge_spec` — the bridge that makes them.
* `openBridge_exact` — when a bridge is opened, and what it has then.
-/

namespace ProxyBridge

variable {Code Client : Type}

/-! ## First occurrences -/

namespace Mask

/-- The masks of a list without repetitions, each where it comes up first. -/
def firsts (masks : List Mask) : List Mask := masks.reverse.dedup.reverse

variable {masks : List Mask} {mask : Mask}

@[simp] theorem mem_firsts : mask ∈ firsts masks ↔ mask ∈ masks := by simp [firsts]

theorem length_firsts (masks : List Mask) : (firsts masks).length = masks.toFinset.card := by
  rw [firsts, List.length_reverse, ← List.card_toFinset, List.toFinset_reverse]

theorem firsts_concat_of_mem (h : mask ∈ masks) : firsts (masks ++ [mask]) = firsts masks := by
  rw [firsts, List.reverse_concat, List.dedup_cons_of_mem (List.mem_reverse.mpr h), firsts]

theorem firsts_concat_of_notMem (h : mask ∉ masks) :
    firsts (masks ++ [mask]) = firsts masks ++ [mask] := by
  rw [firsts, List.reverse_concat, List.dedup_cons_of_notMem (mt List.mem_reverse.mp h),
    List.reverse_cons, firsts]

theorem card_concat_of_notMem (h : mask ∉ masks) :
    (masks ++ [mask]).toFinset.card = masks.toFinset.card + 1 := by
  rw [← length_firsts, firsts_concat_of_notMem h, List.length_append, length_firsts,
    List.length_singleton]

/-- The place of a mask is the number of masks that came up before it. -/
theorem idxOf_firsts (h : mask ∈ masks) :
    (firsts masks).idxOf mask = (masks.take (masks.idxOf mask)).toFinset.card := by
  induction masks using List.reverseRecOn with
  | nil => cases h
  | append_singleton masks last ih =>
    by_cases hOld : mask ∈ masks
    · have hFirsts : (firsts (masks ++ [last])).idxOf mask = (firsts masks).idxOf mask := by
        by_cases hLast : last ∈ masks
        · rw [firsts_concat_of_mem hLast]
        · rw [firsts_concat_of_notMem hLast, List.idxOf_append_of_mem (mem_firsts.mpr hOld)]
      rw [hFirsts, ih hOld, List.idxOf_append_of_mem hOld,
        List.take_append_of_le_length List.idxOf_le_length]
    · -- the mask is the last one, and all before it come first
      obtain rfl : mask = last := by simpa [hOld] using h
      rw [firsts_concat_of_notMem hOld, List.idxOf_append_of_notMem (mt mem_firsts.mp hOld),
        List.idxOf_append_of_notMem hOld]
      simp [length_firsts]

end Mask

open Mask

/-! ## Requests for masks of a list -/

namespace Registry

variable {catalog : Catalog Code} {asked : List Capabilities} {r : Registry} {mask : Capabilities}

/-- The registry may have shapes for all of these masks. -/
def Fits (r : Registry) (masks : List Capabilities) : Prop :=
  ∀ max, r.maxShapes = some max → masks.toFinset.card ≤ max

/-- A registry that was asked for these masks, in this order, and has refused none. It had the first
one from the beginning. -/
structure Prewarmed (catalog : Catalog Code) (asked : List Capabilities) (r : Registry) :
    Prop where
  holds : r.Holds catalog { masks := firsts asked, cap := r.maxShapes }
  syntheses : r.syntheses + 1 = asked.toFinset.card
  misses : r.misses = r.syntheses
  requests : r.hits + r.misses + 1 = asked.length
  hintHits : r.hintHits = 0
  discarded : r.discarded = 0

/-- A new registry has the plain shape, and nobody has asked for it. -/
theorem prewarmed_new {id : Nat} {cap : Option Nat} (h : Registry.new catalog id cap = .ok r) :
    r.Prewarmed catalog [0#32] ∧ r.Fits [0#32] ∧ r.id = id ∧ r.maxShapes = cap := by
  have hHolds := (Dialogue.faithful_start h).holds
  have hCap := maxShapes_new h
  rw [← hCap] at hHolds
  unfold Registry.new at h
  split at h
  · cases h
  · next hZero =>
    cases h
    refine ⟨⟨hHolds, rfl, rfl, rfl, rfl, rfl⟩, ?_, rfl, rfl⟩
    rintro max rfl
    exact Nat.one_le_iff_ne_zero.mpr fun h => hZero (congrArg some h)

theorem Fits.of_append {more : List Capabilities} (h : r.Fits (asked ++ more)) : r.Fits asked := by
  intro max hMax
  refine (Finset.card_le_card ?_).trans (h max hMax)
  rw [List.toFinset_append]
  exact Finset.subset_union_left

/-- A registry that had room for all masks so far is full when the next one is one too many. -/
theorem Prewarmed.isFull_eq_false_iff (h : r.Prewarmed catalog asked) (hNew : mask ∉ asked) :
    r.isFull = false ↔ r.Fits (asked ++ [mask]) := by
  rw [Registry.isFull_eq_false_iff, h.holds.registered, length_firsts, Fits,
    card_concat_of_notMem hNew]
  rfl

/-- A mask that came up before is found. -/
theorem Prewarmed.hit (h : r.Prewarmed catalog asked) (hOld : mask ∈ asked) :
    ({ r with hits := r.hits + 1 } : Registry).Prewarmed catalog (asked ++ [mask]) := by
  have hSame : (asked ++ [mask]).toFinset = asked.toFinset := by
    rw [List.toFinset_append]
    exact Finset.union_eq_left.mpr (by simpa using hOld)
  have hHolds := h.holds
  rw [← firsts_concat_of_mem hOld] at hHolds
  refine ⟨⟨hHolds.shapes, rfl, hHolds.registered, hHolds.nextShape⟩, ?_, h.misses, ?_, h.hintHits,
    h.discarded⟩
  · rw [hSame]
    exact h.syntheses
  · have hRequests := h.requests
    rw [List.length_append, List.length_singleton]
    dsimp only
    omega

/-- A mask that is new gets a shape if there is room. -/
theorem Prewarmed.synthesis (h : r.Prewarmed catalog asked) (hNew : mask ∉ asked)
    (hGet : r.get? mask = none) (hRoom : r.isFull = false) (timed : Bool) :
    (r.resolve catalog timed mask).2.1.Prewarmed catalog (asked ++ [mask]) := by
  have hAfter := (resolve_new catalog timed hGet hRoom).2
  -- the map takes the mask as well
  obtain ⟨hHolds, -⟩ := h.holds.resolve timed mask
  have hInsert : CappedMap.insert { masks := firsts asked, cap := r.maxShapes } mask =
      { masks := firsts (asked ++ [mask]), cap := r.maxShapes } := by
    rw [firsts_concat_of_notMem hNew]
    refine if_pos ⟨mt mem_firsts.mp hNew, ?_⟩
    have hFull := h.holds.isFull_eq
    rwa [hRoom, eq_comm, Bool.not_eq_false'] at hFull
  rw [hInsert] at hHolds
  rw [hAfter] at hHolds ⊢
  refine ⟨hHolds, ?_, congrArg (· + 1) h.misses, ?_, h.hintHits, h.discarded⟩
  · rw [card_concat_of_notMem hNew, ← h.syntheses]
  · have hRequests := h.requests
    rw [List.length_append, List.length_singleton]
    dsimp only
    omega

/-- One more request is answered if its mask fits, and refused if it does not. -/
theorem Prewarmed.resolve (h : r.Prewarmed catalog asked) (hFits : r.Fits asked) (timed : Bool)
    (mask : Capabilities) :
    (r.resolve catalog timed mask).2.1.id = r.id ∧
      (r.resolve catalog timed mask).2.1.maxShapes = r.maxShapes ∧
      (r.Fits (asked ++ [mask]) ∧
          (∃ shape, (r.resolve catalog timed mask).1 = .ok shape) ∧
          (r.resolve catalog timed mask).2.1.Prewarmed catalog (asked ++ [mask]) ∨
        ¬r.Fits (asked ++ [mask]) ∧
          (r.resolve catalog timed mask).1 = .error .registryFull) := by
  have hExtends := (resolve_spec catalog timed r mask).1
  refine ⟨hExtends.id, hExtends.maxShapes, ?_⟩
  have hGet := h.holds.get?_eq mask
  unfold CappedMap.shape? at hGet
  by_cases hOld : mask ∈ asked
  · rw [if_pos (mem_firsts.mpr hOld)] at hGet
    obtain ⟨hAnswer, hAfter⟩ := resolve_bound catalog timed hGet
    have hLater := h.hit hOld
    rw [hAnswer, hAfter]
    refine Or.inl ⟨fun max hMax => ?_, ⟨_, rfl⟩, hLater⟩
    rw [← hLater.syntheses, h.syntheses]
    exact hFits max hMax
  · rw [if_neg (mt mem_firsts.mp hOld)] at hGet
    rw [← h.isFull_eq_false_iff hOld, Bool.not_eq_false]
    cases hFull : r.isFull with
    | true => exact Or.inr ⟨rfl, (resolve_full catalog timed hGet hFull).1⟩
    | false =>
      exact Or.inl ⟨rfl, ⟨_, (resolve_new catalog timed hGet hFull).1⟩,
        h.synthesis hOld hGet hFull timed⟩

end Registry

/-! ## Opening a bridge -/

namespace Session

theorem setBridge_self {s : Session Code Client} {i : Nat} {b : Bridge Code}
    (hb : s.bridges[i]? = some b) : s.setBridge i b = s := by
  obtain ⟨hi, rfl⟩ := List.getElem?_eq_some_iff.mp hb
  rw [setBridge, List.set_getElem_self]

/-- Of two changes of one bridge the second one counts. -/
theorem setBridge_setBridge (s : Session Code Client) (i : Nat) (b b' : Bridge Code)
    (events log : List Event) :
    ({ ((s.setBridge i b).emitAll events).setBridge i b' with log } : Session Code Client) =
      { s.setBridge i b' with log } := by
  simp [setBridge, emitAll]

end Session

namespace Act

variable {i : Nat} {s : Session Code Client} {b : Bridge Code}

/-- Prewarming changes the registry of its bridge and the log. It succeeds if the masks fit besides
those that were asked for before, and is refused if they do not. -/
theorem prewarm_spec (masks : List Capabilities) {asked : List Capabilities}
    (hb : s.bridges[i]? = some b) (hr : b.registry.Prewarmed b.catalog asked)
    (hFits : b.registry.Fits asked) :
    ∃ registry log, registry.id = b.registry.id ∧
      registry.maxShapes = b.registry.maxShapes ∧
      (b.registry.Fits (asked ++ masks) ∧ registry.Prewarmed b.catalog (asked ++ masks) ∧
          (prewarm i masks : Act Code Client ProxyError Unit) s =
            .ok () { s.setBridge i { b with registry } with log } ∨
        ¬b.registry.Fits (asked ++ masks) ∧
          (prewarm i masks : Act Code Client ProxyError Unit) s =
            .error .registryFull { s.setBridge i { b with registry } with log }) := by
  -- with each request the registry changes, and one mask goes over to those that were asked for
  induction masks generalizing s b asked with
  | nil =>
    rw [List.append_nil]
    refine ⟨b.registry, s.log, rfl, rfl, Or.inl ⟨hFits, hr, ?_⟩⟩
    rw [Session.setBridge_self hb]
    rfl
  | cons mask rest ih =>
    obtain ⟨⟨answer, registry, events⟩, hAnswer⟩ :
        ∃ r, b.registry.resolve b.catalog s.timing mask = r := ⟨_, rfl⟩
    have hOne := hr.resolve hFits s.timing mask
    rw [hAnswer] at hOne
    obtain ⟨hId, hMax, hOne⟩ := hOne
    dsimp only at hId hMax hOne
    have hFirst : (resolveShape i mask none : Act Code Client ProxyError Shape) s =
        ofExcept answer ((s.setBridge i { b with registry }).emitAll events) :=
      resolveShape_some hb hAnswer
    have hFitsIff (masks : List Capabilities) : registry.Fits masks ↔ b.registry.Fits masks := by
      rw [Registry.Fits, Registry.Fits, hMax]
    rcases hOne with ⟨hFit, ⟨shape, rfl⟩, hAfter⟩ | ⟨hUnfit, rfl⟩
    · have hNext : ((s.setBridge i { b with registry }).emitAll events).bridges[i]? =
          some { b with registry } :=
        List.getElem?_set_self (List.getElem?_eq_some_iff.mp hb).1
      obtain ⟨last, log, hId', hMax', hEnd⟩ := ih hNext hAfter ((hFitsIff _).mpr hFit)
      rw [Session.setBridge_setBridge] at hEnd
      refine ⟨last, log, hId'.trans hId, hMax'.trans hMax, ?_⟩
      rw [prewarm, bind_ok hFirst, List.append_cons, ← hFitsIff]
      exact hEnd
    · refine ⟨registry, events.reverse ++ s.log, hId, hMax,
        Or.inr ⟨fun hAll => hUnfit ?_, ?_⟩⟩
      · rw [List.append_cons] at hAll
        exact hAll.of_append
      · rw [prewarm, bind_error hFirst]
        rfl

end Act

/-- The masks that a configuration asks for: the empty one, and those to prewarm. -/
def Config.masks (c : Config) : List Capabilities := 0#32 :: c.registry.prewarm

/-- A bridge as its configuration has opened it. -/
structure Bridge.Opened (catalog : Catalog Code) (config : Config) (i : Nat) (b : Bridge Code) :
    Prop where
  config_eq : b.config = config
  catalog_eq : b.catalog = catalog
  /-- The masks with a shape are the empty one and those to prewarm. -/
  contains : ∀ mask, b.registry.contains mask = true ↔ mask ∈ config.masks
  size : b.registry.size = config.masks.toFinset.card
  /-- The shape of a mask is numbered by the masks that came up before it. -/
  shapes : ∀ mask ∈ config.masks, b.registry.get? mask = some
    (.compose catalog i (config.masks.take (config.masks.idxOf mask)).toFinset.card mask)
  syntheses : b.registry.syntheses = (config.registry.prewarm.toFinset.erase 0#32).card
  misses : b.registry.misses = (config.registry.prewarm.toFinset.erase 0#32).card
  /-- Every other entry of the list is a hit. -/
  hits : b.registry.hits + (config.registry.prewarm.toFinset.erase 0#32).card =
    config.registry.prewarm.length
  hintHits : b.registry.hintHits = 0
  discarded : b.registry.discarded = 0
  heap : b.heap = { live := 0, total := 0, limit := config.heap.maxLive }

theorem Registry.Prewarmed.opened {catalog : Catalog Code} {config : Config} {r : Registry}
    (h : r.Prewarmed catalog config.masks) :
    ({ config, catalog, registry := r, heap := .new config.heap.maxLive } : Bridge Code).Opened
      catalog config r.id := by
  have hGet := h.holds.get?_eq
  have hCard : (config.registry.prewarm.toFinset.erase 0#32).card + 1 =
      config.masks.toFinset.card := by
    rw [Config.masks, List.toFinset_cons, ← Finset.erase_insert_eq_erase,
      Finset.card_erase_add_one (Finset.mem_insert_self ..)]
  have hSyntheses := h.syntheses
  have hMisses := h.misses
  have hRequests := h.requests
  rw [← hCard] at hSyntheses
  rw [Config.masks, List.length_cons] at hRequests
  refine ⟨rfl, rfl, ?_, ?_, ?_, by dsimp only; omega, by dsimp only; omega, by dsimp only; omega,
    h.hintHits, h.discarded, rfl⟩
  · intro mask
    rw [Registry.contains, hGet, Option.isSome_iff_exists]
    simp only [CappedMap.shape?_eq_some_iff, mem_firsts, exists_and_left, exists_eq, and_true]
  · show r.shapes.length = _
    rw [h.holds.shapes, List.length_map, List.length_zipIdx, length_firsts]
  · intro mask hMask
    rw [hGet, CappedMap.shape?, if_pos (mem_firsts.mpr hMask), idxOf_firsts hMask]

/-- Opening a bridge, told by its registry. -/
theorem Act.openBridge_spec (catalog : Catalog Code) (config : Config) (s : Session Code Client) :
    ∃ bridges log, s.bridges <+: bridges ∧
      ((∀ max, config.registry.maxShapes = some max → config.masks.toFinset.card ≤ max) ∧
          Act.openBridge catalog config s =
            .ok s.bridges.length { s with bridges, log } ∧
          (∃ registry, registry.id = s.bridges.length ∧
            registry.Prewarmed catalog config.masks ∧
            bridges = s.bridges ++
              [{ config, catalog, registry, heap := .new config.heap.maxLive }]) ∨
        (¬∀ max, config.registry.maxShapes = some max → config.masks.toFinset.card ≤ max) ∧
          Act.openBridge catalog config s = .error .registryFull { s with bridges, log }) := by
  by_cases hZero : config.registry.maxShapes = some 0
  · -- not even the plain shape has room
    have hr : Registry.new catalog s.bridges.length config.registry.maxShapes =
        .error .registryFull := if_pos hZero
    refine ⟨s.bridges, .registryExhausted 0#32 0 :: s.log, List.prefix_rfl,
      Or.inr ⟨fun hAll => ?_, Act.openBridge_error hr⟩⟩
    have hNone := hAll 0 hZero
    simp [Config.masks] at hNone
  · obtain ⟨registry, hr⟩ : ∃ registry, Registry.new catalog s.bridges.length
        config.registry.maxShapes = .ok registry := ⟨_, if_neg hZero⟩
    obtain ⟨hNew, hFits, hId, hMax⟩ := Registry.prewarmed_new hr
    let b : Bridge Code := { config, catalog, registry, heap := .new config.heap.maxLive }
    have hOpen := Act.openBridge_ok (s := s) hr
    have hBridge : ({ s with bridges := s.bridges ++ [b] } : Session Code Client).bridges[
        s.bridges.length]? = some b := List.getElem?_concat_length
    obtain ⟨last, log, hSame, -, hEnd⟩ :=
      Act.prewarm_spec config.registry.prewarm hBridge hNew hFits
    have hLimit : registry.Fits config.masks ↔
        ∀ max, config.registry.maxShapes = some max → config.masks.toFinset.card ≤ max := by
      rw [Registry.Fits, hMax]
    rw [← hLimit]
    refine ⟨s.bridges ++ [{ b with registry := last }], log, List.prefix_append .., ?_⟩
    have hSet : (s.bridges ++ [b]).set s.bridges.length { b with registry := last } =
        s.bridges ++ [{ b with registry := last }] := by simp
    rcases hEnd with ⟨hFit, hLast, hOk⟩ | ⟨hUnfit, hError⟩
    · refine Or.inl ⟨hFit, ?_, last, hSame.trans hId, hLast, rfl⟩
      rw [Act.bind_ok hOk] at hOpen
      rw [hOpen, ← hSet]
      rfl
    · refine Or.inr ⟨hUnfit, ?_⟩
      rw [Act.bind_error hError] at hOpen
      rw [hOpen, ← hSet]
      rfl

/-- **A bridge is opened if its shapes fit.** Over any catalog and in any session, a bridge is
opened exactly if the limit of its registry admits the empty mask and the masks to prewarm, each
counted once; otherwise the registry refuses. Either way nothing changes but the list of bridges,
which grows at its end if at all, and the log. -/
theorem openBridge_exact (catalog : Catalog Code) (config : Config) (s : Session Code Client) :
    ∃ bridges log, s.bridges <+: bridges ∧
      ((∀ max, config.registry.maxShapes = some max → config.masks.toFinset.card ≤ max) ∧
          Act.openBridge catalog config s =
            .ok s.bridges.length { s with bridges, log } ∧
          (∃ b, bridges = s.bridges ++ [b] ∧ b.Opened catalog config s.bridges.length) ∨
        (¬∀ max, config.registry.maxShapes = some max → config.masks.toFinset.card ≤ max) ∧
          Act.openBridge catalog config s = .error .registryFull { s with bridges, log }) := by
  obtain ⟨bridges, log, hPrefix, hEnd⟩ := Act.openBridge_spec catalog config s
  refine ⟨bridges, log, hPrefix, hEnd.imp_left fun ⟨hFit, hOk, registry, hId, hr, hBridges⟩ => ?_⟩
  exact ⟨hFit, hOk, _, hBridges, hId ▸ hr.opened⟩

end ProxyBridge
