import ProxyBridge.Shape.Registry

/-!
# Requests that nothing interrupts

A whole request for the shape of a mask has three outcomes: the mask has a shape, the registry is
full, or a new shape is bound.

* `Registry.resolve_bound`, `Registry.resolve_full`, `Registry.resolve_new` — the outcomes.
* `Registry.Extends` — what any of them can change.
-/

namespace ProxyBridge.Registry

variable {Code : Type}

/-- The registry has room for one more shape. -/
theorem isFull_eq_false_iff {r : Registry} :
    r.isFull = false ↔ ∀ max, r.maxShapes = some max → r.registered < max := by
  rw [isFull]
  cases r.maxShapes with
  | none => simp
  | some max => simp

variable (catalog : Catalog Code) (timed : Bool) {r : Registry} {flags : Capabilities}

theorem resolve_bound {shape : Shape} (hBound : r.get? flags = some shape) :
    (r.resolve catalog timed flags).1 = .ok shape ∧
      (r.resolve catalog timed flags).2.1 = { r with hits := r.hits + 1 } := by
  simp [resolve, steps, step, lookupStep, Request.start, Request.finish, Request.answer?, hBound]

theorem resolve_full (hNew : r.get? flags = none) (hFull : r.isFull = true) :
    (r.resolve catalog timed flags).1 = .error .registryFull ∧
      (r.resolve catalog timed flags).2.1 = { r with misses := r.misses + 1 } := by
  have hFull' : ({ r with misses := r.misses + 1 } : Registry).isFull = true := hFull
  simp [resolve, steps, step, lookupStep, admissionStep, Request.start, Request.finish,
    Request.answer?, hNew, hFull']

theorem resolve_new (hNew : r.get? flags = none) (hRoom : r.isFull = false) :
    (r.resolve catalog timed flags).1 = .ok (.compose catalog r.id r.nextShape flags) ∧
      (r.resolve catalog timed flags).2.1 =
        { r with
          shapes := r.shapes ++ [(flags, .compose catalog r.id r.nextShape flags)]
          registered := r.registered + 1
          nextShape := r.nextShape + 1
          misses := r.misses + 1
          syntheses := r.syntheses + 1 } := by
  have hRoom' : ({ r with misses := r.misses + 1 } : Registry).isFull = false := hRoom
  have hNew' : ({ r with misses := r.misses + 1, nextShape := r.nextShape + 1 } : Registry).get?
      flags = none := hNew
  have hRoom'' : ({ r with misses := r.misses + 1, nextShape := r.nextShape + 1 } :
      Registry).isFull = false := hRoom
  simp [resolve, steps, step, lookupStep, admissionStep, synthesisStep, insertionStep,
    Request.start, Request.finish, Request.answer?, hNew, hRoom', hNew', hRoom'']

/-- What a request for a mask can leave behind: other counters, and a shape for the mask if it had
none and there was room. -/
structure Extends (catalog : Catalog Code) (flags : Capabilities) (r r' : Registry) : Prop where
  id : r'.id = r.id
  maxShapes : r'.maxShapes = r.maxShapes
  shapes : r'.shapes = r.shapes ∧ r'.registered = r.registered ∨
    r.get? flags = none ∧ r.isFull = false ∧ r'.registered = r.registered + 1 ∧
      r'.shapes = r.shapes ++ [(flags, .compose catalog r.id r.nextShape flags)]
  /-- The mask has a shape afterwards if it had one or if there was room. -/
  contains : r'.contains flags = (r.contains flags || !r.isFull)

theorem get?_append_self (hNew : r.get? flags = none)
    (shape : Shape) : (r.shapes ++ [(flags, shape)]).lookup flags = some shape := by
  rw [List.lookup_append, show r.shapes.lookup flags = none from hNew]
  simp

/-- A request answers with the shape that is bound afterwards, or refuses if there is none. -/
theorem resolve_spec (r : Registry) (flags : Capabilities) :
    r.Extends catalog flags (r.resolve catalog timed flags).2.1 ∧
      match (r.resolve catalog timed flags).1 with
      | .ok shape =>
        (r.contains flags || !r.isFull) = true ∧
          (r.resolve catalog timed flags).2.1.get? flags = some shape
      | .error e => (r.contains flags || !r.isFull) = false ∧ e = .registryFull := by
  cases hBound : r.get? flags with
  | some shape =>
    obtain ⟨hAnswer, hAfter⟩ := resolve_bound catalog timed hBound
    have hContains : r.contains flags = true := by rw [contains, hBound]; rfl
    rw [hAnswer, hAfter, hContains]
    exact ⟨⟨rfl, rfl, Or.inl ⟨rfl, rfl⟩, by rw [hContains]; exact hContains⟩, rfl, hBound⟩
  | none =>
    have hContains : r.contains flags = false := by rw [contains, hBound]; rfl
    cases hFull : r.isFull with
    | true =>
      obtain ⟨hAnswer, hAfter⟩ := resolve_full catalog timed hBound hFull
      rw [hAnswer, hAfter, hContains]
      refine ⟨⟨rfl, rfl, Or.inl ⟨rfl, rfl⟩, ?_⟩, rfl, rfl⟩
      rw [hContains, hFull]
      exact hContains
    | false =>
      obtain ⟨hAnswer, hAfter⟩ := resolve_new catalog timed hBound hFull
      have hGet := get?_append_self hBound (.compose catalog r.id r.nextShape flags)
      rw [hAnswer, hAfter, hContains]
      refine ⟨⟨rfl, rfl, Or.inr ⟨hBound, hFull, rfl, rfl⟩, ?_⟩, rfl, hGet⟩
      rw [contains, get?, hGet, hContains, hFull]
      rfl

end ProxyBridge.Registry
