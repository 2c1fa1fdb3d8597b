import ProxyBridge.Proofs.Tracking

/-!
# Where limits are consulted

A table limits its references, a registry its shapes, and a heap its proxies. Each of the limits is
consulted in one operation: when a reference is duplicated, when a shape is asked for, and when a
cell is reserved. Besides, there is no registry without room for its first shape. In each of these
places there are two ways to go on, and one of them is to refuse. On the other one the limit is
forgotten.

## Results

* `Registry.answer_relimit` — a registry with a raised limit answers as before, with the same
  numbers, counters and events.
* `tracks_duplicate`, `tracks_own`, `tracks_resolveShape`, `tracks_reserve`, `tracks_openBridge` —
  the operations that consult limits.
-/

namespace ProxyBridge

variable {Code Client ε α : Type} {x y : Limits}

/-! ## Sessions with raised limits -/

/-- A bridge has given limits in its configuration, its registry and its heap. -/
theorem Bridge.relimit_eq_iff {i : Nat} {b : Bridge Code} :
    b.relimit x i = b ↔
      x.configure i b.config = b.config ∧ b.registry.maxShapes = x.shapes i ∧
        b.heap.limit = x.proxies i := by
  constructor
  · intro h
    refine ⟨congrArg (·.config) h, ?_, ?_⟩
    · rw [← h]
      rfl
    · rw [← h]
      rfl
  · rintro ⟨hConfig, hShapes, hProxies⟩
    unfold Bridge.relimit Registry.relimit
    rw [hConfig, ← hShapes, ← hProxies]

namespace Session

variable {s : Recorded Code} {i : Nat} {b : Bridge Code}

theorem getElem?_relimit (y : Limits) (s : Session Code Client) (i : Nat) :
    (s.relimit y).bridges[i]? = (s.bridges[i]?).map (·.relimit y i) :=
  List.getElem?_mapIdx

theorem setBridge_relimit (y : Limits) (s : Session Code Client) (i : Nat) (b : Bridge Code) :
    (s.relimit y).setBridge i (b.relimit y i) = (s.setBridge i b).relimit y := by
  unfold Session.relimit Session.setBridge
  rw [List.mapIdx_set]

/-- The last of the bridges has the number of those before it. -/
theorem relimit_concat (y : Limits) (s : Session Code Client) (b : Bridge Code) :
    ({ s with bridges := s.bridges ++ [b] } : Session Code Client).relimit y =
      { s.relimit y with
        bridges := (s.relimit y).bridges ++ [b.relimit y s.bridges.length] } := by
  unfold Session.relimit
  rw [List.mapIdx_concat]

theorem Ready.table (hs : s.Ready x) : s.table.limit = x.references := by
  rw [← hs.limits]
  rfl

theorem Ready.bridge (hs : s.Ready x) (hb : s.bridges[i]? = some b) : b.relimit x i = b := by
  have hBridge := getElem?_relimit x s i
  rw [hs.limits, hb] at hBridge
  exact (Option.some.inj hBridge).symm

/-- A new state of a bridge that has the limits. -/
theorem Ready.setBridge (hs : s.Ready x) (hb : b.relimit x i = b) : (s.setBridge i b).Ready x := by
  refine ⟨?_, hs.calm⟩
  rw [← setBridge_relimit, hs.limits, hb]

theorem Neutral.freeCell (i : Nat) : Neutral fun s : Recorded Code => s.freeCell i := by
  refine ⟨fun s => ?_, ?_⟩
  · unfold Session.freeCell
    cases s.bridges[i]? <;> rfl
  · intro z s
    have hBridges := getElem?_relimit z s i
    unfold Session.freeCell
    cases hb : s.bridges[i]? with
    | none =>
      rw [hb] at hBridges
      rw [hBridges]
      rfl
    | some b =>
      rw [hb] at hBridges
      rw [hBridges]
      exact setBridge_relimit z s i { b with heap := b.heap.free }

theorem Neutral.destroy (id : Nat) : Neutral fun s : Recorded Code => s.destroy id := by
  -- what is given back depends on the proxy, and proxies know no limits
  have hEnd (p : Proxy) : Neutral fun s : Recorded Code =>
      ((s.letGo p.value).letGo? p.receiver).freeCell p.bridge :=
    (Neutral.freeCell p.bridge).comp ((Neutral.letGo? p.receiver).comp (Neutral.letGo p.value))
  refine ⟨fun s => ?_, ?_⟩
  · unfold Session.destroy
    cases s.proxies.find? id with
    | none => rfl
    | some p => exact (hEnd p).client _
  · intro z s
    have hProxies : (s.relimit z).proxies = s.proxies := rfl
    unfold Session.destroy
    rw [hProxies]
    cases s.proxies.find? id with
    | none => rfl
    | some p => exact (hEnd p).limits z { s with proxies := s.proxies.erase id }

end Session

theorem Limits.Raised.bound {n? m? : Option Nat} (h : Raised n? m?) {m : Nat} (hm : m? = some m) :
    ∃ n, n? = some n ∧ n ≤ m := by
  subst hm
  cases n? with
  | none => exact h.elim
  | some n => exact ⟨n, rfl, h⟩

theorem Table.isFull_relimit {t : Table Code} {limit : Option Nat}
    (h : Limits.Raised t.limit limit) (hRoom : t.isFull = false) :
    (t.relimit limit).isFull = false := by
  unfold Table.isFull at hRoom ⊢
  cases limit with
  | none => rfl
  | some m =>
    obtain ⟨n, hn, hLe⟩ := h.bound rfl
    rw [hn] at hRoom
    have hBelow : ¬ n ≤ t.outstanding := of_decide_eq_false hRoom
    exact decide_eq_false (by show ¬ m ≤ t.outstanding; omega)

namespace Registry

variable {r : Registry} {max : Option Nat}

theorem isFull_relimit (h : Limits.Raised r.maxShapes max) (hRoom : r.isFull = false) :
    (r.relimit max).isFull = false := by
  rw [isFull_eq_false_iff] at hRoom ⊢
  intro m hm
  obtain ⟨n, hn, hLe⟩ := h.bound hm
  have hBelow := hRoom n hn
  show r.registered < m
  omega

/-- There is no registry without room for the plain shape. -/
theorem new_relimit (catalog : Catalog Code) (i : Nat) {a b : Option Nat}
    (h : Limits.Raised a b) :
    new catalog i a = .error .registryFull ∨
      ∃ r, new catalog i a = .ok r ∧ r.maxShapes = a ∧ new catalog i b = .ok (r.relimit b) := by
  unfold new
  by_cases hZero : a = some 0
  · exact Or.inl (if_pos hZero)
  · right
    have hRaised : b ≠ some 0 := by
      intro hb
      obtain ⟨n, hn, hLe⟩ := h.bound hb
      exact hZero (by rw [hn, Nat.le_zero.mp hLe])
    rw [if_neg hZero, if_neg hRaised]
    exact ⟨_, rfl, rfl, rfl⟩

/-- The answer to a request, with a shape that may already be it. -/
def answer (catalog : Catalog Code) (timed : Bool) (flags : Capabilities) (hint : Option Shape)
    (r : Registry) : Except ProxyError Shape × Registry × List Event :=
  match hint with
  | none => r.resolve catalog timed flags
  | some hint => r.resolveWithHint catalog timed flags hint

/-- All that comes of a request for a new shape. -/
theorem resolve_synthesis (catalog : Catalog Code) (timed : Bool) {flags : Capabilities}
    (hNew : r.get? flags = none) (hRoom : r.isFull = false) :
    (r.resolve catalog timed flags).2.2 =
      .shapeSynthesized flags (Shape.compose catalog r.id r.nextShape flags).name
        (Shape.compose catalog r.id r.nextShape flags).slotTable.length :: timing timed := by
  have hRoom' : ({ r with misses := r.misses + 1 } : Registry).isFull = false := hRoom
  have hNew' : ({ r with misses := r.misses + 1, nextShape := r.nextShape + 1 } : Registry).get?
      flags = none := hNew
  have hRoom'' : ({ r with misses := r.misses + 1, nextShape := r.nextShape + 1 } :
      Registry).isFull = false := hRoom
  simp [resolve, steps, step, lookupStep, admissionStep, synthesisStep, insertionStep,
    Request.start, Request.finish, hNew, hRoom', hNew', hRoom'']

theorem resolve_relimit (catalog : Catalog Code) (timed : Bool) (flags : Capabilities)
    (h : Limits.Raised r.maxShapes max) :
    (r.resolve catalog timed flags).1 = .error .registryFull ∨
      (r.relimit max).resolve catalog timed flags =
        ((r.resolve catalog timed flags).1, (r.resolve catalog timed flags).2.1.relimit max,
          (r.resolve catalog timed flags).2.2) := by
  cases hBound : r.get? flags with
  | some shape =>
    -- a bound mask is answered with no look at the limit
    have hBound' : (r.relimit max).get? flags = some shape := hBound
    rw [resolve_hit catalog timed hBound, resolve_hit catalog timed hBound']
    exact Or.inr rfl
  | none =>
    cases hFull : r.isFull with
    | true => exact Or.inl (resolve_full catalog timed hBound hFull).1
    | false =>
      have hBound' : (r.relimit max).get? flags = none := hBound
      have hFull' := isFull_relimit h hFull
      obtain ⟨hAnswer, hAfter⟩ := resolve_new catalog timed hBound hFull
      obtain ⟨hAnswer', hAfter'⟩ := resolve_new catalog timed hBound' hFull'
      right
      refine Prod.ext ?_ (Prod.ext ?_ ?_)
      · exact hAnswer'.trans hAnswer.symm
      · rw [hAfter', hAfter]
        rfl
      · rw [resolve_synthesis catalog timed hBound' hFull',
          resolve_synthesis catalog timed hBound hFull]
        rfl

theorem answer_maxShapes (catalog : Catalog Code) (timed : Bool) (flags : Capabilities)
    (hint : Option Shape) (r : Registry) :
    (r.answer catalog timed flags hint).2.1.maxShapes = r.maxShapes := by
  have hPlain := (resolve_spec catalog timed r flags).1.maxShapes
  cases hint with
  | none => exact hPlain
  | some hint =>
    unfold answer
    dsimp only
    unfold resolveWithHint
    split
    · rfl
    · exact hPlain

/-- A registry with raised limits answers as before, unless it has refused. -/
theorem answer_relimit (catalog : Catalog Code) (timed : Bool) (flags : Capabilities)
    (hint : Option Shape) (h : Limits.Raised r.maxShapes max) :
    (r.answer catalog timed flags hint).1 = .error .registryFull ∨
      (r.relimit max).answer catalog timed flags hint =
        ((r.answer catalog timed flags hint).1, (r.answer catalog timed flags hint).2.1.relimit max,
          (r.answer catalog timed flags hint).2.2) := by
  cases hint with
  | none => exact resolve_relimit catalog timed flags h
  | some hint =>
    unfold answer
    dsimp only
    unfold resolveWithHint
    have hOwns : (r.relimit max).owns hint = r.owns hint := rfl
    rw [hOwns]
    split
    · exact Or.inr rfl
    · exact resolve_relimit catalog timed flags h

end Registry

/-! ## Where limits are consulted -/

namespace Act

/-- What was refused stays on record if the client is left alone. -/
theorem keeps_of_client {act : Act Code (Journal Code) ε α}
    (h : ∀ s, (act.after s).client = s.client) :
    Ensures (fun s => s.client.refused = true) act (fun _ s => s.client.refused = true)
      fun _ s => s.client.refused = true := by
  intro s hs
  have hClient := h s
  unfold after at hClient
  cases hr : act s with
  | ok a s' =>
    rw [hr] at hClient
    dsimp only at hClient ⊢
    rw [hClient]
    exact hs
  | error e s' =>
    rw [hr] at hClient
    dsimp only at hClient ⊢
    rw [hClient]
    exact hs

/-- The limit refuses before the handle is looked at. -/
theorem duplicate_full {s : Session Code Client} (hFull : s.table.isFull = true) (h : Handle) :
    (onTable (·.duplicate h) : Act Code Client ForeignError Unit) s = .error .exhausted s := by
  have hTable : s.table.duplicate h = .error .exhausted := if_pos hFull
  exact onTable_error hTable

theorem duplicate_room {s : Session Code Client} (hRoom : s.table.isFull = false) (h : Handle) :
    (onTable (·.duplicate h) : Act Code Client ForeignError Unit) s =
      (onTable (·.retain h) : Act Code Client ForeignError Unit) s := by
  have hTable : s.table.duplicate h = s.table.retain h := by
    rw [Table.duplicate, hRoom]
    rfl
  unfold onTable
  dsimp only
  rw [hTable]

theorem tracks_duplicate_table (hxy : x.Within y) (h : Handle) :
    (onTable (·.duplicate h) : Act Code (Journal Code) ForeignError Unit).Tracks x y
      (onTable (·.duplicate h)) := by
  refine ⟨keeps_of_client fun s => ?_, ?_⟩
  · unfold after onTable
    dsimp only
    cases s.table.duplicate h <;> rfl
  · intro s hs
    cases hFull : s.table.isFull with
    | true =>
      -- the table refuses, live handle or not
      rw [duplicate_full hFull]
      exact Or.inl (Or.inr ⟨rfl, hs.calm⟩)
    | false =>
      have hRaised : Limits.Raised s.table.limit y.references := by
        rw [hs.table]
        exact hxy.references
      have hFull' : (s.relimit y).table.isFull = false := Table.isFull_relimit hRaised hFull
      -- with room on both sides what is left to do does not look at limits
      rw [duplicate_room hFull, duplicate_room hFull']
      exact (Tracks.of_blind (blind_retain h)).agrees s hs

theorem tracks_duplicate (hxy : x.Within y) (h : Handle) :
    (duplicate h : Act Code (Journal Code) ForeignError Handle).Tracks x y (duplicate h) :=
  (tracks_duplicate_table hxy h).bind fun _ => Tracks.pure h

theorem tracks_own (hxy : x.Within y) (h : Handle) :
    (own h : Act Code (Journal Code) ForeignError Unit).Tracks x y (own h) :=
  (tracks_duplicate_table hxy h).bind fun _ => Tracks.modify (Session.Neutral.adopt h)

section Resolve

variable {s : Session Code Client} {i : Nat} {b : Bridge Code}

theorem resolveShape_some (hb : s.bridges[i]? = some b) {flags : Capabilities}
    {hint : Option Shape} {answer : Except ProxyError Shape} {registry : Registry}
    {events : List Event}
    (h : b.registry.answer b.catalog s.timing flags hint = (answer, registry, events)) :
    (resolveShape i flags hint : Act Code Client ProxyError Shape) s =
      ofExcept answer ((s.setBridge i { b with registry }).emitAll events) := by
  rw [resolveShape, hb]
  cases hint with
  | none =>
    have hPlain : b.registry.resolve b.catalog s.timing flags = (answer, registry, events) := h
    dsimp only
    rw [hPlain]
    cases answer <;> rfl
  | some hint =>
    have hHinted : b.registry.resolveWithHint b.catalog s.timing flags hint =
        (answer, registry, events) := h
    dsimp only
    rw [hHinted]
    cases answer <;> rfl

end Resolve

theorem tracks_resolveShape (hxy : x.Within y) (i : Nat) (flags : Capabilities)
    (hint : Option Shape) :
    (resolveShape i flags hint : Act Code (Journal Code) ProxyError Shape).Tracks x y
      (resolveShape i flags hint) := by
  refine ⟨keeps_of_client fun s => ?_, ?_⟩
  · unfold after
    cases hb : s.bridges[i]? with
    | none => rw [resolveShape_none hb]
    | some b =>
      obtain ⟨r, hr⟩ : ∃ r, b.registry.answer b.catalog s.timing flags hint = r := ⟨_, rfl⟩
      rw [resolveShape_some hb hr]
      cases r.1 <;> rfl
  · intro s hs
    have hBridges := Session.getElem?_relimit y s i
    cases hb : s.bridges[i]? with
    | none =>
      rw [hb] at hBridges
      rw [resolveShape_none hb, resolveShape_none hBridges]
      exact Or.inr ⟨hs.limits, rfl⟩
    | some b =>
      rw [hb] at hBridges
      obtain ⟨hConfig, hLimit, hHeap⟩ := Bridge.relimit_eq_iff.mp (hs.bridge hb)
      have hRaised : Limits.Raised b.registry.maxShapes (y.shapes i) := by
        rw [hLimit]
        exact hxy.shapes i
      have hAnswer := Registry.answer_relimit b.catalog s.timing flags hint hRaised
      have hKeep := Registry.answer_maxShapes b.catalog s.timing flags hint b.registry
      obtain ⟨⟨answer, registry, events⟩, hr⟩ :
          ∃ r, b.registry.answer b.catalog s.timing flags hint = r := ⟨_, rfl⟩
      rw [hr] at hAnswer hKeep
      have hBridge : ({ b with registry } : Bridge Code).relimit x i = { b with registry } :=
        Bridge.relimit_eq_iff.mpr ⟨hConfig, hKeep.trans hLimit, hHeap⟩
      have hReady := (Session.Neutral.emitAll events).ready (hs.setBridge hBridge)
      rw [resolveShape_some hb hr]
      rcases hAnswer with hRefused | hSame
      · -- the registry is the one that refuses
        dsimp only at hRefused
        rw [hRefused]
        exact Or.inl (Or.inr ⟨rfl, hReady.calm⟩)
      · right
        rw [resolveShape_some hBridges hSame]
        have hAfter : ((s.relimit y).setBridge i { b.relimit y i with
            registry := registry.relimit (y.shapes i) }).emitAll events =
              ((s.setBridge i { b with registry }).emitAll events).relimit y :=
          congrArg (Session.emitAll · events) (Session.setBridge_relimit y s i { b with registry })
        dsimp only
        rw [hAfter]
        cases answer with
        | ok shape => exact ⟨hReady, rfl⟩
        | error e => exact ⟨hReady.limits, rfl⟩

theorem tracks_reserve (hxy : x.Within y) (i : Nat) :
    (reserve i : Act Code (Journal Code) ProxyError Unit).Tracks x y (reserve i) := by
  refine ⟨keeps_of_client fun s => ?_, ?_⟩
  · unfold after reserve
    cases s.bridges[i]? with
    | none => rfl
    | some b =>
      dsimp only
      cases b.heap.reserve <;> rfl
  · intro s hs
    have hBridges := Session.getElem?_relimit y s i
    cases hb : s.bridges[i]? with
    | none =>
      have hb' : (s.relimit y).bridges[i]? = none := by rw [hBridges, hb]; rfl
      unfold reserve
      rw [hb, hb']
      exact Or.inr ⟨hs.limits, rfl⟩
    | some b =>
      have hb' : (s.relimit y).bridges[i]? = some (b.relimit y i) := by rw [hBridges, hb]; rfl
      cases hRoom : b.heap.hasRoom with
      | false =>
        -- the heap refuses
        rw [reserve_error hb hRoom]
        exact Or.inl (Or.inr ⟨rfl, hs.calm⟩)
      | true =>
        obtain ⟨hConfig, hShapes, hLimit⟩ := Bridge.relimit_eq_iff.mp (hs.bridge hb)
        have hRoom' : (b.relimit y i).heap.hasRoom = true := by
          have hBelow : b.heap.live < b.heap.limit.getD Heap.capacity := of_decide_eq_true hRoom
          have hRaised := hxy.proxies i
          rw [hLimit] at hBelow
          exact decide_eq_true (by show b.heap.live < (y.proxies i).getD Heap.capacity; omega)
        rw [reserve_ok hb hRoom, reserve_ok hb' hRoom']
        let b' : Bridge Code :=
          { b with heap := { b.heap with live := b.heap.live + 1, total := b.heap.total + 1 } }
        have hBridge : b'.relimit x i = b' :=
          Bridge.relimit_eq_iff.mpr ⟨hConfig, hShapes, hLimit⟩
        exact Or.inr ⟨hs.setBridge hBridge,
          congrArg (EStateM.Result.ok ()) (Session.setBridge_relimit y s i b')⟩

theorem tracks_prewarm (hxy : x.Within y) (i : Nat) (masks : List Capabilities) :
    (prewarm i masks : Act Code (Journal Code) ProxyError Unit).Tracks x y (prewarm i masks) := by
  induction masks with
  | nil => exact Tracks.pure ()
  | cons mask rest ih => exact (tracks_resolveShape hxy i mask none).bind fun _ => ih

section Open

variable {s : Session Code Client} {catalog : Catalog Code} {config : Config}

theorem openBridge_error {e : ProxyError}
    (hr : Registry.new catalog s.bridges.length config.registry.maxShapes = .error e) :
    (openBridge catalog config : Act Code Client ProxyError Nat) s =
      .error e (s.emit (.registryExhausted 0#32 0)) := by
  have hGet : (get : Act Code Client ProxyError (Session Code Client)) s = .ok s s := rfl
  rw [openBridge, bind_ok hGet]
  dsimp only
  rw [hr]
  rfl

theorem openBridge_ok {registry : Registry}
    (hr : Registry.new catalog s.bridges.length config.registry.maxShapes = .ok registry) :
    (openBridge catalog config : Act Code Client ProxyError Nat) s =
      (prewarm s.bridges.length config.registry.prewarm >>= fun _ => pure s.bridges.length :
        Act Code Client ProxyError Nat)
        { s with bridges := s.bridges ++
          [{ config, catalog, registry, heap := .new config.heap.maxLive }] } := by
  have hGet : (get : Act Code Client ProxyError (Session Code Client)) s = .ok s s := rfl
  rw [openBridge, bind_ok hGet]
  dsimp only
  rw [hr]
  rfl

end Open

theorem tracks_openBridge (hxy : x.Within y) (catalog : Catalog Code) (config : Config) :
    (x.openBridge catalog config : Act Code (Journal Code) ProxyError Nat).Tracks x y
      (y.openBridge catalog config) := by
  let rest (i : Nat) : Act Code (Journal Code) ProxyError Nat :=
    prewarm i config.registry.prewarm >>= fun _ => pure i
  have hRest (i : Nat) : (rest i).Tracks x y (rest i) :=
    (tracks_prewarm hxy i config.registry.prewarm).bind fun _ => Tracks.pure i
  refine ⟨?_, ?_⟩
  · intro s hs
    unfold Limits.openBridge
    cases hr : Registry.new catalog s.bridges.length
        (x.configure s.bridges.length config).registry.maxShapes with
    | error e =>
      rw [openBridge_error hr]
      exact hs
    | ok registry =>
      rw [openBridge_ok hr]
      exact (hRest s.bridges.length).keeps _ hs
  · intro s hs
    have hLength : (s.relimit y).bridges.length = s.bridges.length := List.length_mapIdx
    unfold Limits.openBridge
    rw [hLength]
    rcases Registry.new_relimit catalog s.bridges.length (hxy.shapes s.bridges.length) with
      hr | ⟨r, hr, hMax, hr'⟩
    · -- no registry at all is a refusal as well
      rw [openBridge_error hr]
      exact Or.inl (Or.inr ⟨rfl, hs.calm⟩)
    · -- the new bridge has the limits of its number, and its shapes are asked for under them
      let b : Bridge Code :=
        { config := x.configure s.bridges.length config, catalog, registry := r
          heap := .new (x.proxies s.bridges.length) }
      have hBridge : b.relimit x s.bridges.length = b :=
        Bridge.relimit_eq_iff.mpr ⟨rfl, hMax, rfl⟩
      have hReady : Session.Ready x { s with bridges := s.bridges ++ [b] } := by
        refine ⟨?_, hs.calm⟩
        rw [Session.relimit_concat, hs.limits, hBridge]
      rw [openBridge_ok hr, openBridge_ok (s := s.relimit y) (by rw [hLength]; exact hr'), hLength]
      have hAgrees := (hRest s.bridges.length).agrees _ hReady
      rw [Session.relimit_concat] at hAgrees
      exact hAgrees

end Act

end ProxyBridge
