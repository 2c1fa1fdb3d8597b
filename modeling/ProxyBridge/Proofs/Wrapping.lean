import Mathlib.Tactic.Tauto
import ProxyBridge.Proofs.Action
import ProxyBridge.Proofs.Registry
import ProxyBridge.Proofs.Table

/-!
# Wrapping is all or nothing

A wrap with chosen capabilities passes through stages: the shape, a reference to the value, one to
the receiver, a heap cell. Each stage has a condition on the state at the start, and the wrap
succeeds if and only if all of them are met. If one is not, the wrap fails with the error of the
first such stage. What earlier stages took has been given back then, so that only the registry
and the log can tell that there was a wrap.

* `wrapStages`, `firstFailure` — the conditions of the stages in their order.
* `Table.Granted` — a table with some references more.
* `build_spec` — the stages after the shape.
* `createTyped_atomic` — the whole wrap.
-/

namespace ProxyBridge

variable {Code Client : Type}

/-! ## References -/

namespace Table

/-- A number of references can be taken within the limit. -/
def hasRoom (t : Table Code) (n : Nat) : Bool :=
  match t.limit with
  | none => true
  | some limit => t.outstanding + n ≤ limit

/-- The same table with one reference more for each handle of a list. -/
structure Granted (t : Table Code) (l : List Handle) (u : Table Code) : Prop where
  entries : ∀ h, u.entry? h = (t.entry? h).map fun e =>
    { e with refcount := e.refcount + l.count h }
  outstanding : u.outstanding = t.outstanding + l.length
  nextId : u.nextId = t.nextId
  limit : u.limit = t.limit

variable {t u w : Table Code} {l : List Handle} {h : Handle}

theorem Granted.refl (t : Table Code) : t.Granted [] t :=
  ⟨fun h => by cases t.entry? h <;> rfl, rfl, rfl, rfl⟩

theorem Granted.retain (hu : t.Granted l u) (hr : u.retain h = .ok w) : t.Granted (h :: l) w := by
  obtain ⟨-, rfl⟩ := retain_eq_ok_iff.mp hr
  refine ⟨fun x => ?_, ?_, hu.nextId, hu.limit⟩
  · rw [recount, entry?_modifyEntry, hu.entries, List.count_cons]
    by_cases hx : h = x
    · subst hx
      rw [if_pos rfl]
      cases t.entry? h with
      | none => rfl
      | some e => simp [Nat.add_assoc]
    · rw [if_neg hx]
      simp [hx]
  · change u.outstanding + 1 = _
    rw [hu.outstanding, List.length_cons, Nat.add_assoc]

theorem Granted.isLive (hu : t.Granted l u) (h : Handle) : u.isLive h = t.isLive h := by
  rw [Table.isLive, Table.isLive, hu.entries, Option.isSome_map]

theorem Granted.hasRoom (hu : t.Granted l u) (n : Nat) :
    u.hasRoom n = t.hasRoom (l.length + n) := by
  rw [Table.hasRoom, Table.hasRoom, hu.limit, hu.outstanding, Nat.add_assoc]

theorem isFull_eq (t : Table Code) : t.isFull = !t.hasRoom 1 := by
  rw [isFull, hasRoom]
  cases t.limit with
  | none => rfl
  | some limit =>
    dsimp only
    rw [← decide_not]
    exact decide_eq_decide.mpr (by omega)

theorem hasRoom_of_le {m n : Nat} (hmn : m ≤ n) (hn : t.hasRoom n = true) : t.hasRoom m = true := by
  rw [hasRoom] at hn ⊢
  cases hl : t.limit with
  | none => rfl
  | some limit =>
    rw [hl] at hn
    have := of_decide_eq_true hn
    exact decide_eq_true (by omega)

/-- What a duplication comes to: the limit is looked at before the handle. -/
theorem duplicate_cases (t : Table Code) (h : Handle) :
    (t.hasRoom 1 = false ∧ t.duplicate h = .error .exhausted) ∨
    (t.hasRoom 1 = true ∧ t.isLive h = false ∧ t.duplicate h = .error (.stale h)) ∨
    (t.hasRoom 1 = true ∧ t.isLive h = true ∧
      ∃ u, t.duplicate h = .ok u ∧ t.retain h = .ok u) := by
  rw [duplicate, isFull_eq]
  cases t.hasRoom 1 with
  | false => exact Or.inl ⟨rfl, rfl⟩
  | true =>
    cases hl : t.isLive h with
    | false => exact Or.inr (Or.inl ⟨rfl, rfl, by simp [retain, hl]⟩)
    | true => exact Or.inr (Or.inr ⟨rfl, rfl, _, by simp [retain, hl]; rfl, by simp [retain, hl]⟩)

end Table

/-! ## Owners -/

section Owners

variable {s s' : Session Code Client} {t u : Table Code} {h : Handle} {owned : List Handle}

theorem Act.own_ok (hd : s.table.duplicate h = .ok u) :
    (Act.own h : Act Code Client ForeignError Unit) s =
      .ok () { s with table := u, owned := h :: s.owned } := by
  have hTable : (Act.onTable (·.duplicate h) : Act Code Client ForeignError Unit) s =
      .ok () { s with table := u } := by
    rw [Act.onTable, hd]
  exact (Act.bind_ok hTable).trans rfl

theorem Act.own_error {e : ForeignError} (hd : s.table.duplicate h = .error e) :
    (Act.own h : Act Code Client ForeignError Unit) s = .error e s := by
  refine Act.bind_error ?_
  rw [Act.onTable, hd]

/-- An owner that gives back the last reference that was taken undoes it. -/
theorem Session.letGo_undo (ht : t.WellFormed) (hr : t.retain h = .ok s.table)
    (hOwned : s.owned = h :: owned) :
    s.letGo h = ({ s with table := t, owned }).emit (.referenceReleased h) := by
  rw [Session.letGo, hOwned, List.erase_cons_head, Session.release, Table.release_retain ht hr]
  rfl

end Owners

/-! ## Stages -/

/-- The heap has a cell left. -/
def Heap.hasRoom (h : Heap) : Bool := h.live < h.limit.getD Heap.capacity

/-- The error of the first stage whose condition is not met. -/
def firstFailure (stages : List (Bool × ProxyError)) : Option ProxyError :=
  (stages.find? fun stage => !stage.1).map (·.2)

theorem firstFailure_met {e : ProxyError} (rest : List (Bool × ProxyError)) :
    firstFailure ((true, e) :: rest) = firstFailure rest := rfl

theorem firstFailure_append (stages rest : List (Bool × ProxyError)) :
    firstFailure (stages ++ rest) = (firstFailure stages).or (firstFailure rest) := by
  rw [firstFailure, List.find?_append, Option.map_or]
  rfl

/-- The stages of a wrap that are about the receiver. -/
def receiverStages (t : Table Code) : Option Handle → List (Bool × ProxyError)
  | some r => [(t.hasRoom 2, .foreign .exhausted), (t.isLive r, .foreign (.stale r))]
  | none => []

/-- The stages of a wrap after the shape. -/
def buildStages (t : Table Code) (heap : Heap) (value : Handle) (receiver : Option Handle) :
    List (Bool × ProxyError) :=
  (t.hasRoom 1, .foreign .exhausted) :: (t.isLive value, .foreign (.stale value)) ::
    (receiverStages t receiver ++ [(heap.hasRoom, .heapFull)])

/-- The stages of a wrap with chosen capabilities. -/
def wrapStages (b : Bridge Code) (t : Table Code) (flags : Capabilities) (value : Handle)
    (receiver : Option Handle) : List (Bool × ProxyError) :=
  (b.registry.contains flags || !b.registry.isFull, .registryFull) ::
    buildStages t b.heap value receiver

/-- The session after the stages that follow the shape. -/
structure Built (s : Session Code Client) (i : Nat) (b : Bridge Code) (shape : Shape)
    (value : Handle) (receiver : Option Handle) (s' : Session Code Client) : Prop where
  table : s.table.Granted (receiver.toList ++ [value]) s'.table
  rest : s' =
    { s with
      table := s'.table
      owned := receiver.toList ++ value :: s.owned
      bridges := s.bridges.set i
        { b with heap := { b.heap with live := b.heap.live + 1, total := b.heap.total + 1 } }
      proxies := s.proxies.insert s.nextProxy { bridge := i, shape, value, receiver }
      nextProxy := s.nextProxy + 1
      log := s'.log }

section Build

variable {s : Session Code Client} {i : Nat} {b : Bridge Code} {u : Table Code} {value : Handle}
  {receiver : Option Handle} {shape : Shape} {owned : List Handle}

theorem Act.reserve_ok (hb : s.bridges[i]? = some b) (hHeap : b.heap.hasRoom = true) :
    (Act.reserve i : Act Code Client ProxyError Unit) s = .ok () (s.setBridge i
      { b with heap := { b.heap with live := b.heap.live + 1, total := b.heap.total + 1 } }) := by
  rw [Act.reserve, hb]
  dsimp only
  rw [Heap.reserve, if_pos (of_decide_eq_true hHeap)]

theorem Act.reserve_error (hb : s.bridges[i]? = some b) (hHeap : b.heap.hasRoom = false) :
    (Act.reserve i : Act Code Client ProxyError Unit) s = .error .heapFull s := by
  rw [Act.reserve, hb]
  dsimp only
  rw [Heap.reserve, if_neg (of_decide_eq_false hHeap)]

/-- The last stages of a wrap: the heap cell, and the proxy. -/
def finishBuild (i : Nat) (shape : Shape) (value : Handle) (receiver : Option Handle) :
    Act Code Client ProxyError Nat := do
  (Act.reserve i).onError fun _ s => (s.letGo? receiver).letGo value
  modify (·.emit (.proxyCreated shape.name value receiver.isSome))
  let id := (← get).nextProxy
  modify fun s =>
    { s with
      proxies := s.proxies.insert id { bridge := i, shape, value, receiver }
      nextProxy := id + 1 }
  return id

/-- A wrap that owns what it needs succeeds if there is a heap cell left. -/
theorem finishBuild_ok (hb : s.bridges[i]? = some b) (hHeap : b.heap.hasRoom = true) :
    finishBuild i shape value receiver s = .ok s.nextProxy
      { s with
        bridges := s.bridges.set i
          { b with heap := { b.heap with live := b.heap.live + 1, total := b.heap.total + 1 } }
        proxies := s.proxies.insert s.nextProxy { bridge := i, shape, value, receiver }
        nextProxy := s.nextProxy + 1
        log := .proxyCreated shape.name value receiver.isSome :: s.log } :=
  (Act.bind_ok (Act.onError_ok (Act.reserve_ok hb hHeap))).trans rfl

theorem finishBuild_error (hb : s.bridges[i]? = some b) (hHeap : b.heap.hasRoom = false) :
    finishBuild i shape value receiver s =
      .error .heapFull ((s.letGo? receiver).letGo value) :=
  Act.bind_error (Act.onError_error (Act.reserve_error hb hHeap))

theorem build_eq (i : Nat) (shape : Shape) (value : Handle) (receiver : Option Handle) :
    (Act.build i shape value receiver : Act Code Client ProxyError Nat) = (do
      Act.foreign (Act.own value)
      (Act.foreign (Act.ownReceiver receiver)).onError fun _ s => s.letGo value
      finishBuild i shape value receiver) := rfl

/-- The stage of the receiver, in a session that owns the value on top of a table `t`. If it fails,
or if a later stage fails, everything but the log is as it was before the value was owned. -/
theorem ownReceiver_spec {t : Table Code} (ht : t.WellFormed) (hr : t.retain value = .ok s.table)
    (hOwned : s.owned = value :: owned) (receiver : Option Handle) :
    match ((Act.foreign (Act.ownReceiver receiver)).onError fun _ s => s.letGo value :
        Act Code Client ProxyError Unit) s with
    | .ok _ s' => firstFailure (receiverStages t receiver) = none ∧
        t.Granted (receiver.toList ++ [value]) s'.table ∧
        s' = { s with table := s'.table, owned := receiver.toList ++ value :: owned } ∧
        ∃ log, (s'.letGo? receiver).letGo value = { s with table := t, owned, log }
    | .error e s' => firstFailure (receiverStages t receiver) = some e ∧
        s' = { s with table := t, owned, log := s'.log } := by
  -- the value has its reference already, so the room for the receiver is the room for two
  have hGranted := (Table.Granted.refl t).retain hr
  cases receiver with
  | none =>
    refine ⟨rfl, hGranted, ?_, _, Session.letGo_undo ht hr hOwned⟩
    change s = { s with owned := value :: owned }
    rw [← hOwned]
  | some r =>
    rw [receiverStages, ← hGranted.isLive r,
      show t.hasRoom 2 = s.table.hasRoom 1 from (hGranted.hasRoom 1).symm]
    rcases Table.duplicate_cases s.table r with ⟨hRoom, hd⟩ | ⟨hRoom, hLive, hd⟩ |
      ⟨hRoom, hLive, u, hd, hr'⟩
    · have hRun := Act.onError_error (g := fun _ s => s.letGo value)
        (Act.foreign_error (Act.own_error (s := s) hd))
      rw [Act.ownReceiver, hRun, hRoom, Session.letGo_undo ht hr hOwned]
      exact ⟨rfl, rfl⟩
    · have hRun := Act.onError_error (g := fun _ s => s.letGo value)
        (Act.foreign_error (Act.own_error (s := s) hd))
      rw [Act.ownReceiver, hRun, hRoom, hLive, Session.letGo_undo ht hr hOwned]
      exact ⟨rfl, rfl⟩
    · have hRun := Act.onError_ok (g := fun _ s => s.letGo value)
        (Act.foreign_ok (Act.own_ok (s := s) hd))
      rw [Act.ownReceiver, hRun, hRoom, hLive]
      refine ⟨rfl, hGranted.retain hr', by rw [hOwned]; rfl, ?_⟩
      -- given back in the reverse order, each reference is the last one that was taken
      have hBack := Session.letGo_undo (s := { s with table := u, owned := r :: s.owned })
        (ht.retain hr) hr' rfl
      rw [Session.letGo?, hBack]
      exact ⟨_, Session.letGo_undo
        (s := ({ s with table := s.table, owned := s.owned } : Session Code Client).emit
          (.referenceReleased r)) ht hr hOwned⟩

/--
What the stages after the shape come to. Either all conditions are met, and the wrap takes exactly
its references and one cell; or the first unmet condition tells the error, and everything but the
log is as it was.
-/
theorem build_spec (hs : s.table.WellFormed) (hb : s.bridges[i]? = some b) (shape : Shape)
    (value : Handle) (receiver : Option Handle) :
    match (Act.build i shape value receiver : Act Code Client ProxyError Nat) s with
    | .ok id s' => firstFailure (buildStages s.table b.heap value receiver) = none ∧
        id = s.nextProxy ∧ Built s i b shape value receiver s'
    | .error e s' => firstFailure (buildStages s.table b.heap value receiver) = some e ∧
        s' = { s with log := s'.log } := by
  rw [build_eq]
  rcases Table.duplicate_cases s.table value with ⟨hRoom, hd⟩ | ⟨hRoom, hLive, hd⟩ |
    ⟨hRoom, hLive, u, hd, hr⟩
  · rw [Act.bind_error (Act.foreign_error (Act.own_error hd)), buildStages, hRoom]
    exact ⟨rfl, rfl⟩
  · rw [Act.bind_error (Act.foreign_error (Act.own_error hd)), buildStages, hRoom, hLive]
    exact ⟨rfl, rfl⟩
  -- from here on the value is owned, and a failure has to undo that too
  rw [Act.bind_ok (Act.foreign_ok (Act.own_ok hd)), buildStages, hRoom, hLive, firstFailure_met,
    firstFailure_met, firstFailure_append]
  have hReceiver := ownReceiver_spec
    (s := { s with table := u, owned := value :: s.owned }) hs hr rfl receiver
  cases hOwn : ((Act.foreign (Act.ownReceiver receiver)).onError fun _ s => s.letGo value :
      Act Code Client ProxyError Unit) { s with table := u, owned := value :: s.owned } with
  | error e s' =>
    rw [hOwn] at hReceiver
    rw [Act.bind_error hOwn, hReceiver.1]
    exact ⟨rfl, hReceiver.2⟩
  | ok a s' =>
    rw [hOwn] at hReceiver
    obtain ⟨hStages, hGranted, hState, log, hUndo⟩ := hReceiver
    have hb' : s'.bridges[i]? = some b := by
      rw [hState]
      exact hb
    rw [Act.bind_ok hOwn, hStages, Option.none_or]
    cases hHeap : b.heap.hasRoom with
    | true =>
      rw [finishBuild_ok hb' hHeap]
      refine ⟨rfl, ?_, hGranted, ?_⟩
      · rw [hState]
      · rw [hState]
    | false =>
      rw [finishBuild_error hb' hHeap, hUndo]
      exact ⟨rfl, rfl⟩

end Build

/-! ## The whole wrap -/

section Wrap

variable {s : Session Code Client} {i : Nat} {b : Bridge Code}

theorem Table.hasRoom_iff {t : Table Code} {n : Nat} :
    t.hasRoom n = true ↔ ∀ limit, t.limit = some limit → t.outstanding + n ≤ limit := by
  rw [Table.hasRoom]
  cases t.limit with
  | none => simp
  | some limit => simp

/-- All conditions of a wrap are met if the mask has or can have a shape, the value and the receiver
are there, the references fit under the limit, and a cell is left. -/
theorem firstFailure_eq_none_iff (b : Bridge Code) (t : Table Code) (flags : Capabilities)
    (value : Handle) (receiver : Option Handle) :
    firstFailure (wrapStages b t flags value receiver) = none ↔
      (b.registry.contains flags = true ∨ b.registry.isFull = false) ∧
        t.isLive value = true ∧ (∀ r ∈ receiver, t.isLive r = true) ∧
        t.hasRoom (1 + receiver.toList.length) = true ∧ b.heap.hasRoom = true := by
  rw [firstFailure, Option.map_eq_none_iff, List.find?_eq_none, wrapStages, buildStages]
  cases receiver with
  | none =>
    simp [receiverStages]
    tauto
  | some r =>
    -- room for both references is room for the first
    have hLess : t.hasRoom 2 = true → t.hasRoom 1 = true := Table.hasRoom_of_le (by omega)
    simp [receiverStages]
    tauto

theorem Act.resolveShape_none (hb : s.bridges[i]? = none) (flags : Capabilities)
    (hint : Option Shape) :
    (Act.resolveShape i flags hint : Act Code Client ProxyError Shape) s =
      .error .notInitialized s := by
  rw [Act.resolveShape, hb]

/-- The shape of a wrap: only the registry and the log can change. -/
theorem Act.resolveShape_spec (hb : s.bridges[i]? = some b) (flags : Capabilities) :
    ∃ registry events, b.registry.Extends b.catalog flags registry ∧
      match (Act.resolveShape i flags none : Act Code Client ProxyError Shape) s with
      | .ok shape s' => (b.registry.contains flags || !b.registry.isFull) = true ∧
          registry.get? flags = some shape ∧
          s' = (s.setBridge i { b with registry }).emitAll events
      | .error e s' => (b.registry.contains flags || !b.registry.isFull) = false ∧
          e = .registryFull ∧ s' = (s.setBridge i { b with registry }).emitAll events := by
  obtain ⟨hExtends, hAnswer⟩ := Registry.resolve_spec b.catalog s.timing b.registry flags
  refine ⟨_, (b.registry.resolve b.catalog s.timing flags).2.2, hExtends, ?_⟩
  rw [Act.resolveShape, hb]
  dsimp only
  cases hr : (b.registry.resolve b.catalog s.timing flags).1 with
  | ok shape =>
    rw [hr] at hAnswer
    exact ⟨hAnswer.1, hAnswer.2, rfl⟩
  | error e =>
    rw [hr] at hAnswer
    exact ⟨hAnswer.1, hAnswer.2, rfl⟩

theorem createTyped_spec (hs : s.table.WellFormed) (hb : s.bridges[i]? = some b)
    (flags : Capabilities) (value : Handle) (receiver : Option Handle) :
    match (Act.createTyped i flags value receiver : Act Code Client ProxyError Nat) s with
    | .ok id s' => firstFailure (wrapStages b s.table flags value receiver) = none ∧
        id = s.nextProxy ∧ ∃ registry shape, b.registry.Extends b.catalog flags registry ∧
          registry.get? flags = some shape ∧ Built s i { b with registry } shape value receiver s'
    | .error e s' => firstFailure (wrapStages b s.table flags value receiver) = some e ∧
        ∃ registry, b.registry.Extends b.catalog flags registry ∧
          s' = { s with bridges := s.bridges.set i { b with registry }, log := s'.log } := by
  obtain ⟨registry, events, hExtends, hShape⟩ :=
    Act.resolveShape_spec hb flags
  rw [Act.createTyped, Act.reporting, Act.shapeAndBuild, wrapStages]
  cases hr : (Act.resolveShape i flags none : Act Code Client ProxyError Shape) s with
  | error e s₁ =>
    rw [hr] at hShape
    obtain ⟨hUnmet, rfl, rfl⟩ := hShape
    rw [Act.onError_error (Act.bind_error hr), hUnmet]
    exact ⟨rfl, registry, hExtends, rfl⟩
  | ok shape s₁ =>
    rw [hr] at hShape
    obtain ⟨hMet, hGet, hs₁⟩ := hShape
    rw [hMet, firstFailure_met]
    have hb₁ : s₁.bridges[i]? = some { b with registry } := by
      have hLt := (List.getElem?_eq_some_iff.mp hb).1
      rw [hs₁]
      exact List.getElem?_set_self hLt
    -- the shape leaves the table alone, so the later stages have their conditions on the start
    have hTable : s₁.table = s.table := by rw [hs₁]; rfl
    have hBuild := build_spec (hTable ▸ hs) hb₁ shape value receiver
    cases hRun : (Act.build i shape value receiver : Act Code Client ProxyError Nat) s₁ with
    | error e s' =>
      rw [hRun, hTable] at hBuild
      rw [Act.onError_error ((Act.bind_ok hr).trans hRun)]
      refine ⟨hBuild.1, registry, hExtends, ?_⟩
      rw [hBuild.2, hs₁]
      rfl
    | ok id s' =>
      rw [hRun, hTable] at hBuild
      obtain ⟨hStages, hId, hGranted, hRest⟩ := hBuild
      rw [Act.onError_ok ((Act.bind_ok hr).trans hRun)]
      refine ⟨hStages, ?_, registry, shape, hExtends, hGet, hTable ▸ hGranted, ?_⟩
      · rw [hId, hs₁]
        rfl
      · rw [hRest, hs₁]
        simp [Session.setBridge, Session.emitAll, List.set_set]

/--
**A wrap with chosen capabilities is all or nothing.** It is given no foreign code to run, so the
state at the start decides. It succeeds if and only if the mask has a shape or can have one, value
and receiver are there, the references fit under the limit, and a heap cell is left. If it succeeds,
it takes one reference to the value and one to the receiver, and one cell, and makes one proxy. If
it fails, it fails with the error of the first stage whose condition is not met, and everything but
the registry and the log is as it was. In the registry there can be a new shape for the mask, unless
it was the shape that failed.
-/
theorem createTyped_atomic (hs : s.table.WellFormed) (hb : s.bridges[i]? = some b)
    (flags : Capabilities) (value : Handle) (receiver : Option Handle) :
    ((∃ id s', (Act.createTyped i flags value receiver : Act Code Client ProxyError Nat) s =
        .ok id s') ↔
      (b.registry.contains flags = true ∨
          ∀ max, b.registry.maxShapes = some max → b.registry.registered < max) ∧
        s.table.isLive value = true ∧ (∀ r ∈ receiver, s.table.isLive r = true) ∧
        (∀ limit, s.table.limit = some limit →
          s.table.outstanding + (1 + receiver.toList.length) ≤ limit) ∧
        b.heap.live < b.heap.limit.getD Heap.capacity) ∧
    match (Act.createTyped i flags value receiver : Act Code Client ProxyError Nat) s with
    | .ok id s' => id = s.nextProxy ∧
        ∃ registry shape, b.registry.Extends b.catalog flags registry ∧
          registry.get? flags = some shape ∧
          Built s i { b with registry } shape value receiver s'
    | .error e s' => firstFailure (wrapStages b s.table flags value receiver) = some e ∧
        ∃ registry, b.registry.Extends b.catalog flags registry ∧
          s' = { s with bridges := s.bridges.set i { b with registry }, log := s'.log } := by
  have hSpec := createTyped_spec hs hb flags value receiver
  rw [← Registry.isFull_eq_false_iff, ← Table.hasRoom_iff]
  have hMet := firstFailure_eq_none_iff b s.table flags value receiver
  rw [Heap.hasRoom, decide_eq_true_iff] at hMet
  rw [← hMet]
  cases hr : (Act.createTyped i flags value receiver : Act Code Client ProxyError Nat) s with
  | ok id s' =>
    rw [hr] at hSpec
    exact ⟨⟨fun _ => hSpec.1, fun _ => ⟨id, s', rfl⟩⟩, hSpec.2⟩
  | error e s' =>
    rw [hr] at hSpec
    refine ⟨⟨?_, fun h => ?_⟩, hSpec⟩
    · rintro ⟨id, s', h⟩
      cases h
    · rw [hSpec.1] at h
      cases h

/-- A bridge with room for one more shape and for many proxies. -/
def exampleBridge : Bridge Empty where
  config := {}
  catalog := .empty
  registry :=
    { id := 0, shapes := [(0#32, .compose (.empty : Catalog Empty) 0 0 0#32)], maxShapes := some 2
      registered := 1, nextShape := 1, hits := 0, misses := 0, hintHits := 0, syntheses := 0
      discarded := 0 }
  heap := .new none

/-- A session over a table with one value and with room for one more reference. -/
def exampleFull : Session Empty Unit :=
  { Session.new ((Table.empty (some 2)).insert .plain).2 false () with bridges := [exampleBridge] }

/-- A wrap of a value bound to itself fails when the limit is reached between its references, and
leaves the table as it was. -/
theorem createTyped_atomic_between :
    exampleFull.table.WellFormed ∧ exampleFull.bridges[0]? = some exampleBridge ∧
      ∃ e s', (Act.createTyped 0 Capabilities.callable ⟨2⟩ (some ⟨2⟩) :
          Act Empty Unit ProxyError Nat) exampleFull = .error e s' ∧
        e = .foreign .exhausted ∧ s'.table = exampleFull.table := by
  have hs : exampleFull.table.WellFormed := by decide
  refine ⟨hs, rfl, ?_⟩
  obtain ⟨hIff, hRun⟩ := createTyped_atomic (s := exampleFull) (i := 0) (b := exampleBridge) hs
    rfl Capabilities.callable ⟨2⟩ (some ⟨2⟩)
  cases hr : (Act.createTyped 0 Capabilities.callable ⟨2⟩ (some ⟨2⟩) :
      Act Empty Unit ProxyError Nat) exampleFull with
  | ok id s' =>
    -- two references do not fit, as one is counted already
    have hFit := (hIff.mp ⟨id, s', hr⟩).2.2.2.1 2 rfl
    exact absurd hFit (by decide)
  | error e s' =>
    rw [hr] at hRun
    obtain ⟨hFailure, registry, -, hState⟩ := hRun
    refine ⟨e, s', rfl, ?_, ?_⟩
    · have hStages : firstFailure (wrapStages exampleBridge exampleFull.table
          Capabilities.callable ⟨2⟩ (some ⟨2⟩)) = some (.foreign .exhausted) := by decide
      exact Option.some.inj (hFailure.symm.trans hStages)
    · rw [hState]

end Wrap

end ProxyBridge
