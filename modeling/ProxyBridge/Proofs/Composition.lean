import ProxyBridge.Proofs.Catalog
import ProxyBridge.Proofs.Hints

/-!
# Shapes are composed from catalogs

A registry composes a shape from the catalog of its bridge, and the catalog of a bridge never
changes. So the slots of a bound shape are those that the catalog gives to its mask, and the same
goes for every live proxy, whose shape is bound in the registry of its bridge.

## Results

* `Bridge.Composed`, `Session.Path.composed` — the slots of bound shapes, and a whole run.
* `Session.Path.catalog` — a bridge keeps its catalog.
* `Session.Canonical.slots` — the slots of live proxies.
-/

namespace ProxyBridge

variable {Code Client : Type}

/-- Every shape that the registry has bound has the slots of its mask. -/
def Bridge.Composed (b : Bridge Code) : Prop :=
  ∀ e ∈ b.registry.shapes, e.2.slots = b.catalog.slotsFor e.1

theorem Bridge.composed_of_extends {b : Bridge Code} {flags : Capabilities} {r : Registry}
    (hb : b.Composed) (hExt : b.registry.Extends b.catalog flags r) :
    Bridge.Composed { b with registry := r } := by
  unfold Bridge.Composed at hb ⊢
  rcases hExt.shapes with ⟨hSame, -⟩ | ⟨-, -, -, hNew⟩
  · rwa [hSame]
  · intro e he
    rw [hNew] at he
    rcases List.mem_append.mp he with hOld | hLast
    · exact hb e hOld
    · rw [List.mem_singleton.mp hLast]
      rfl

namespace Session

variable {known : Client → List Shape} {s s' : Session Code Client} {i : Nat} {b b' : Bridge Code}

theorem composed_setBridge (hs : ∀ b ∈ s.bridges, b.Composed) (hb : b'.Composed) :
    ∀ c ∈ (s.setBridge i b').bridges, c.Composed := by
  intro c hc
  rcases List.mem_or_eq_of_mem_set hc with hOld | rfl
  · exact hs c hOld
  · exact hb

theorem Step.composed (h : Step known s s') (hs : ∀ b ∈ s.bridges, b.Composed) :
    ∀ b ∈ s'.bridges, b.Composed := by
  cases h with
  | @openBridge b hr hh =>
    intro c hc
    rcases List.mem_append.mp hc with hOld | hLast
    · exact hs c hOld
    · -- a new registry has the plain shape only
      rw [List.mem_singleton.mp hLast]
      unfold Registry.new at hr
      split at hr
      · cases hr
      · unfold Bridge.Composed
        rw [← Except.ok.inj hr]
        intro e he
        rw [List.mem_singleton.mp he]
        rfl
  | @resolve i b hb flags =>
    have hExt := (Registry.resolve_spec b.catalog s.timing b.registry flags).1
    exact composed_setBridge hs (Bridge.composed_of_extends (hs b (List.mem_of_getElem? hb)) hExt)
  | @reuse i b hint hb hOwn hc => exact composed_setBridge hs (hs b (List.mem_of_getElem? hb))
  | @reserve i b heap hb hh => exact composed_setBridge hs (hs b (List.mem_of_getElem? hb))
  | @freeCell i b hb => exact composed_setBridge hs (hs b (List.mem_of_getElem? hb))
  | _ => exact hs

theorem Path.composed (h : Path known s s') (hs : ∀ b ∈ s.bridges, b.Composed) :
    ∀ b ∈ s'.bridges, b.Composed :=
  h.induct hs fun _ _ hStep hs => hStep.composed hs

/-- A bridge keeps its number and its catalog. -/
theorem Step.catalog (h : Step known s s') (hb : s.bridges[i]? = some b) :
    ∃ b', s'.bridges[i]? = some b' ∧ b'.catalog = b.catalog := by
  -- the steps that touch a bridge change its registry or its heap
  have hSet {j : Nat} {c c' : Bridge Code} (hc : s.bridges[j]? = some c)
      (hCatalog : c'.catalog = c.catalog) :
      ∃ b', (s.setBridge j c').bridges[i]? = some b' ∧ b'.catalog = b.catalog := by
    rw [getElem?_setBridge hc]
    split
    · next hij =>
      rw [hij, hb] at hc
      cases hc
      exact ⟨c', rfl, hCatalog⟩
    · exact ⟨b, hb, rfl⟩
  cases h with
  | openBridge hr hh =>
    have hLt := (List.getElem?_eq_some_iff.mp hb).1
    exact ⟨b, (List.getElem?_append_left hLt).trans hb, rfl⟩
  | resolve hc flags => exact hSet hc rfl
  | reuse hc hOwn hCirculates => exact hSet hc rfl
  | reserve hc hh => exact hSet hc rfl
  | freeCell hc => exact hSet hc rfl
  | _ => exact ⟨b, hb, rfl⟩

theorem Path.catalog (h : Path known s s') (hb : s.bridges[i]? = some b) :
    ∃ b', s'.bridges[i]? = some b' ∧ b'.catalog = b.catalog := by
  refine h.induct (P := fun s' => ∃ b', s'.bridges[i]? = some b' ∧ b'.catalog = b.catalog)
    ⟨b, hb, rfl⟩ ?_
  rintro s₁ s₂ hStep ⟨b₁, hb₁, hSame₁⟩
  obtain ⟨b₂, hb₂, hSame₂⟩ := hStep.catalog hb₁
  exact ⟨b₂, hb₂, hSame₂.trans hSame₁⟩

/-- A live proxy has the slots of its capabilities. -/
theorem Canonical.slots (hs : s.Canonical known) (hComposed : ∀ b ∈ s.bridges, b.Composed)
    {q : Proxy} (hq : q ∈ s.proxies.values) :
    ∃ b, s.bridges[q.bridge]? = some b ∧ q.shape.slots = b.catalog.slotsFor q.flags := by
  obtain ⟨e, he, rfl⟩ := List.mem_map.mp hq
  obtain ⟨b, hb, hBound⟩ := hs.bound _ (Or.inr ⟨e, he, rfl⟩)
  refine ⟨b, hs.home e he ▸ hb, ?_⟩
  exact hComposed b (List.mem_of_getElem? hb) _ (Registry.mem_of_get? hBound)

end Session

end ProxyBridge
