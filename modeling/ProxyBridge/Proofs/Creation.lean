import ProxyBridge.Proofs.Hints
import ProxyBridge.Proofs.Identity

/-!
# What wraps make

A proxy is made in one of four ways: of what an inspection finds, of a chosen mask, as a map, or of
another proxy with a new receiver. Each of them ends where a wrap with a chosen mask ends, so what
is made is known from the mask, the value and the receiver. The number of a proxy is given out once
and a proxy is never changed, so what is found under a number later is what was made.

## Results

* `Session.Made` — a proxy and what it was made of.
* `Act.made_of_createTyped`, `Act.find?_of_rebind` — what is made without a look at the value.
* `Environment.made_of_createWith`, `Environment.made_of_createMap` — what is made after an
  inspection.
* `Session.Path.proxy_eq` — a number names one proxy for good.
-/

namespace ProxyBridge

variable {Code Client Mind : Type} {known : Client → List Shape} {s s' : Session Code Client}

namespace Session

/-- The proxy with a number was made on a bridge for a mask, a value and a receiver. -/
def Made (s : Session Code Client) (id i : Nat) (flags : Capabilities) (value : Handle)
    (receiver : Option Handle) : Prop :=
  ∃ shape : Shape, shape.flags = flags ∧
    s.proxies.find? id = some { bridge := i, shape, value, receiver }

theorem Made.letGo {id i : Nat} {flags : Capabilities} {value : Handle} {receiver : Option Handle}
    (h : s.Made id i flags value receiver) (x : Handle) :
    (s.letGo x).Made id i flags value receiver := h

end Session

open Session

/-! ## The four ways -/

section Ways

variable {env : Environment Code Client} {id i : Nat} {flags : Capabilities} {value : Handle}
  {receiver : Option Handle}

/-- Without the bridge there is no wrap, and this is reported. -/
theorem Act.createTyped_none (hb : s.bridges[i]? = none) :
    (Act.createTyped i flags value receiver : Act Code Client ProxyError Nat) s =
      .error .notInitialized (s.emit (.wrapFailed value ProxyError.notInitialized.message)) := by
  rw [Act.createTyped, Act.reporting, Act.shapeAndBuild,
    Act.onError_error (Act.bind_error (Act.resolveShape_none hb flags none))]

theorem Act.made_of_createTyped (hs : s.Canonical known) (hTable : s.table.WellFormed)
    (hRun : (Act.createTyped i flags value receiver : Act Code Client ProxyError Nat) s =
      .ok id s') : s'.Made id i flags value receiver := by
  cases hb : s.bridges[i]? with
  | none =>
    rw [Act.createTyped_none hb] at hRun
    cases hRun
  | some b =>
    have hSpec := createTyped_spec hTable hb flags value receiver
    rw [hRun] at hSpec
    obtain ⟨-, rfl, registry, shape, hExtends, hBound, hBuilt⟩ := hSpec
    -- the registry has the shape for exactly the mask that was asked for
    have hFlags := (((hs.own i b hb).extends hExtends).flags_eq hBound).1
    refine ⟨shape, hFlags, ?_⟩
    rw [hBuilt.rest, Dict.find?_insert, if_pos rfl]

/-- A wrap of a value that is looked at first is one with the mask that was found. -/
theorem Environment.createWith_eq (env : Environment Code Client) (i : Nat) (value : Handle)
    (receiver : Option Handle) :
    env.createWith i value receiver = Act.reporting value (env.capabilities i value) >>=
      fun flags => Act.createTyped i flags value receiver :=
  Act.onError_bind _ _ _

/-- What comes after a look at the value comes after the mask that was found. -/
theorem Environment.reporting_capabilities_ok {f : Capabilities → Act Code Client ProxyError Nat}
    (hRun : (Act.reporting value (env.capabilities i value) >>= f) s = .ok id s') :
    ∃ found s₁, env.capabilities i value s = .ok found s₁ ∧ f found s₁ = .ok id s' := by
  obtain ⟨found, s₁, hFound, hRest⟩ := Act.bind_eq_ok hRun
  exact ⟨found, s₁, Act.onError_eq_ok hFound, hRest⟩

theorem Environment.made_of_createWith (hEnv : env.Walks known) (hs : s.Canonical known)
    (hTable : s.table.WellFormed) (hRun : env.createWith i value receiver s = .ok id s') :
    ∃ found s₁, env.capabilities i value s = .ok found s₁ ∧ s'.Made id i found value receiver := by
  rw [createWith_eq] at hRun
  obtain ⟨found, s₁, hFound, hTyped⟩ := reporting_capabilities_ok hRun
  have hPath := (hEnv.capabilities i value).path_ok hFound
  exact ⟨found, s₁, hFound, Act.made_of_createTyped (Path.canonical hPath hs)
    (Path.wellFormed hPath hTable) hTyped⟩

theorem Environment.made_of_createMap {asMap : Bool} (hEnv : env.Walks known)
    (hs : s.Canonical known) (hTable : s.table.WellFormed)
    (hRun : env.createMap i value asMap s = .ok id s') :
    ∃ found s₁, env.capabilities i value s = .ok found s₁ ∧
      s'.Made id i (if asMap then found ||| Capabilities.objectMap else found) value none := by
  obtain ⟨found, s₁, hFound, hTyped⟩ := reporting_capabilities_ok hRun
  have hPath := (hEnv.capabilities i value).path_ok hFound
  exact ⟨found, s₁, hFound, Act.made_of_createTyped (Path.canonical hPath hs)
    (Path.wellFormed hPath hTable) hTyped⟩

/-- A live proxy gets another receiver, and nothing else changes. -/
theorem Act.find?_of_rebind (hs : s.HintsAgree known) {p : Proxy} (hp : p ∈ s.proxies.values)
    {r : Handle} (hRun : Act.rebind p r s = .ok id s') :
    s'.proxies.find? id = some { p with receiver := some r } := by
  obtain ⟨e, he, rfl⟩ := List.mem_map.mp hp
  have hSlot : e.2.shape.hasSlot Slots.bind = true := by
    obtain ⟨_, _, hRequire, -⟩ := Act.bind_eq_ok hRun
    rw [Act.require, Shape.require] at hRequire
    split at hRequire
    · assumption
    · cases hRequire
  obtain ⟨outcome, hRebind, -, hOutcome⟩ := hs.rebind e he hSlot r
  rw [hRun] at hRebind
  cases outcome with
  | error e s₁ => cases hRebind
  | ok id₁ s₁ =>
    -- the count of the hint is on the bridge, not among the proxies
    cases hRebind
    exact hOutcome

end Ways

/-! ## One number, one proxy -/

namespace Session

/-- The numbers of proxies are in order, and the next one is new. -/
structure Numbered (s : Session Code Client) : Prop where
  ordered : s.proxies.Ordered
  fresh : ∀ e ∈ s.proxies, e.1 < s.nextProxy

theorem Step.numbered (h : Step known s s') (hs : s.Numbered) : s'.Numbered := by
  cases h with
  | @join p hp =>
    refine ⟨Dict.ordered_insert hs.ordered _ _, ?_⟩
    intro e he
    rcases Dict.mem_insert he with rfl | hOld
    · exact Nat.lt_succ_self _
    · exact Nat.lt_succ_of_lt (hs.fresh e hOld)
  | leave id =>
    exact ⟨Dict.ordered_erase hs.ordered id, fun e he =>
      hs.fresh e ((Dict.erase_sublist ..).subset he)⟩
  | _ => exact ⟨hs.ordered, hs.fresh⟩

/-- What a session owes to the proxies of an earlier one. -/
structure Follows (s s' : Session Code Client) : Prop where
  nextProxy : s.nextProxy ≤ s'.nextProxy
  /-- A number that was given out names the proxy that it named, or none. -/
  same : ∀ id p, s'.proxies.find? id = some p → id < s.nextProxy → s.proxies.find? id = some p

theorem Follows.refl (s : Session Code Client) : s.Follows s :=
  ⟨Nat.le_refl _, fun _ _ hp _ => hp⟩

theorem Follows.trans {s'' : Session Code Client} (h : s.Follows s') (h' : s'.Follows s'') :
    s.Follows s'' :=
  ⟨h.nextProxy.trans h'.nextProxy, fun id p hp hLt =>
    h.same id p (h'.same id p hp (Nat.lt_of_lt_of_le hLt h.nextProxy)) hLt⟩

theorem Step.follows (h : Step known s s') (hs : s.Numbered) : s.Follows s' := by
  cases h with
  | @join p hp =>
    refine ⟨Nat.le_succ _, ?_⟩
    intro id q hq hLt
    rw [Dict.find?_insert, if_neg (by omega)] at hq
    exact hq
  | leave id =>
    refine ⟨Nat.le_refl _, ?_⟩
    intro other q hq _
    rw [Dict.find?_erase hs.ordered] at hq
    split at hq
    · cases hq
    · exact hq
  | _ => exact ⟨Nat.le_refl _, fun _ _ hp _ => hp⟩

theorem Path.numbered (h : Path known s s') (hs : s.Numbered) : s'.Numbered :=
  h.induct hs fun _ _ hStep hs => hStep.numbered hs

theorem Path.follows (h : Path known s s') (hs : s.Numbered) : s.Follows s' := by
  -- the numbers in between are in order, which a leave needs
  have hAll : s'.Numbered ∧ s.Follows s' :=
    h.induct (P := fun s' => s'.Numbered ∧ s.Follows s') ⟨hs, .refl s⟩
      fun _ _ hStep h => ⟨hStep.numbered h.1, h.2.trans (hStep.follows h.1)⟩
  exact hAll.2

/-- A proxy is found as it was, as long as it is found. -/
theorem Path.proxy_eq (h : Path known s s') (hs : s.Numbered) {id : Nat} {p q : Proxy}
    (hp : s.proxies.find? id = some p) (hq : s'.proxies.find? id = some q) : q = p := by
  have hIssued : id < s.nextProxy := hs.fresh _ (Dict.mem_of_find? hp)
  have hSame := (Path.follows h hs).same id q hq hIssued
  exact Option.some.inj (hSame.symm.trans hp)

end Session

theorem World.numbered_of_path {s : World Code Mind} {table : Table Code} {timing : Bool}
    {mind : Mind} (hPath : Path Memory.shapes (World.new table timing mind) s) : s.Numbered :=
  Path.numbered hPath ⟨.nil, nofun⟩

end ProxyBridge
