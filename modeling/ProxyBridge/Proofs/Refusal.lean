import Mathlib.Data.List.Induction
import ProxyBridge.Proofs.Contest

/-!
# When a call is refused

A call looks its mask up first and asks for room later, and other calls run in between. So a call
can be refused for a mask that has a shape by then: another call has bound the mask since, and has
taken the last place. What does hold is that a mask is never refused where it is looked up. A
refused call has found its mask without a shape before, the registry is full when the call is
refused, and if it is refused under the lock then the mask has no shape at that moment either.

## Results

* `missed_of_underWay` — a call that is under way has found its mask without a shape.
* `refusal_cases` — the two steps that refuse.
* `refusal_after_miss` — what a refusal says, and which steps never refuse a known mask.
* `known_mask_refused` — two calls for one mask and one free place: one of them is refused.
-/

namespace ProxyBridge.Contest

variable {Code : Type} {catalog : Catalog Code} {timed : Bool} {r : Registry} {i : Nat}

/-! ## Looking back -/

/-- At an earlier moment of a play the call at a position looked a mask up and found no shape. -/
def Missed (catalog : Catalog Code) (timed : Bool) (r : Registry) (moves : List Move) (i : Nat)
    (flags : Capabilities) : Prop :=
  ∃ before after q, moves = before ++ .step i :: after ∧
    (play catalog timed ⟨r, []⟩ before).requests[i]? = some q ∧ q.phase = .lookup ∧
    q.flags = flags ∧ (play catalog timed ⟨r, []⟩ before).registry.get? flags = none

theorem Missed.snoc {moves : List Move} {flags : Capabilities}
    (h : Missed catalog timed r moves i flags) (m : Move) :
    Missed catalog timed r (moves ++ [m]) i flags := by
  obtain ⟨before, after, q, hMoves, hq⟩ := h
  refine ⟨before, after ++ [m], q, ?_, hq⟩
  rw [hMoves, List.append_assoc, List.cons_append]

theorem play_snoc (catalog : Catalog Code) (timed : Bool) (c : Contest) (moves : List Move)
    (m : Move) :
    play catalog timed c (moves ++ [m]) = (play catalog timed c moves).move catalog timed m := by
  rw [play_append]
  rfl

/-- A call that is under way was as it is before the last move, or the move was its own step. -/
theorem underWay_move {c : Contest} {m : Move} {q : Request}
    (hi : (c.move catalog timed m).requests[i]? = some q) (hBegun : q.phase ≠ .lookup)
    (hOpen : q.answer? = none) :
    c.requests[i]? = some q ∨
      m = .step i ∧ ∃ o, c.requests[i]? = some o ∧ q = (c.registry.step catalog timed o).2.1 := by
  -- a call that has just begun has not looked its mask up
  have hStart (flags : Capabilities) (h : (c.join (.start flags)).requests[i]? = some q) :
      c.requests[i]? = some q := by
    rcases getElem?_concat_cases h with h | ⟨-, rfl⟩
    · exact h
    · exact absurd rfl hBegun
  cases m with
  | call flags => exact Or.inl (hStart flags hi)
  | hinted flags j =>
    left
    rw [move] at hi
    cases hShape : c.shapeOf? j with
    | none =>
      rw [hShape] at hi
      exact hStart flags hi
    | some hint =>
      rw [hShape] at hi
      dsimp only at hi
      split at hi
      · -- a call that the hint answers ends at once
        rcases getElem?_concat_cases hi with h | ⟨-, rfl⟩
        · exact h
        · cases hOpen
      · exact hStart flags hi
  | step j =>
    rw [move, step] at hi
    cases hj : c.requests[j]? with
    | none =>
      rw [hj] at hi
      exact Or.inl hi
    | some o =>
      rw [hj] at hi
      rcases getElem?_set_cases hi with ⟨rfl, hq⟩ | ⟨-, h⟩
      · exact Or.inr ⟨rfl, o, hj, hq⟩
      · exact Or.inl h

/-- A call between its lookup and its answer has found its mask without a shape. -/
theorem missed_of_underWay {moves : List Move} {q : Request}
    (hi : (play catalog timed ⟨r, []⟩ moves).requests[i]? = some q) (hBegun : q.phase ≠ .lookup)
    (hOpen : q.answer? = none) : Missed catalog timed r moves i q.flags := by
  -- the induction is on the last move, since a play is looked back at from its end
  induction moves using List.reverseRecOn generalizing q with
  | nil => cases hi
  | append_singleton moves m ih =>
    rw [play_snoc] at hi
    rcases underWay_move hi hBegun hOpen with hOld | ⟨rfl, o, ho, hq⟩
    · exact (ih hOld hBegun hOpen).snoc m
    · -- a call that was under way before the step has missed then, and a lookup misses now
      have hEarlier (h : o.phase = .admission ∨ o.phase = .synthesis) :
          Missed catalog timed r (moves ++ [.step i]) i o.flags := by
        have hBefore : o.answer? = none := by
          unfold Request.answer?
          rcases h with h | h <;> rw [h]
        have hLater : o.phase ≠ .lookup := by
          rcases h with h | h <;> rw [h] <;> simp
        exact (ih ho hLater hBefore).snoc _
      have hStep :=
        Registry.step_outcome catalog timed (play catalog timed ⟨r, []⟩ moves).registry o
      rw [← hq] at hStep
      generalize ((play catalog timed ⟨r, []⟩ moves).registry.step catalog timed o).1 = r' at hStep
      cases hStep with
      | miss hPhase hNew => exact ⟨moves, [], o, rfl, ho, hPhase, rfl, hNew⟩
      | pass hPhase => exact hEarlier (Or.inl hPhase)
      | compose t hPhase => exact hEarlier (Or.inr hPhase)
      | idle hPhase => exact (ih ho hBegun hOpen).snoc _
      | _ => cases hOpen

/-! ## Steps that refuse -/

/-- A step refuses on admission, whatever the mask has by then, or under the lock, where the mask
has no shape. The registry is full in both cases. -/
theorem refusal_cases {q : Request} {e : ProxyError} (hOpen : q.answer? = none)
    (hRefused : (r.step catalog timed q).2.1.answer? = some (.error e)) :
    e = .registryFull ∧ r.isFull = true ∧ (q.phase = .admission ∨ r.get? q.flags = none) ∧
      q.phase ≠ .lookup := by
  -- of the phases of an open call, only admission and insertion can end in an error
  unfold Registry.step at hRefused
  cases hPhase : q.phase with
  | lookup =>
    rw [hPhase] at hRefused
    unfold Registry.lookupStep at hRefused
    cases hBound : r.get? q.flags <;> simp [hBound, Request.answer?, Request.finish] at hRefused
  | admission =>
    rw [hPhase] at hRefused
    unfold Registry.admissionStep at hRefused
    cases hFull : r.isFull with
    | true =>
      simp [hFull, Request.answer?, Request.finish] at hRefused
      exact ⟨hRefused.symm, rfl, Or.inl rfl, by simp⟩
    | false => simp [hFull, Request.answer?] at hRefused
  | synthesis =>
    rw [hPhase] at hRefused
    simp [Registry.synthesisStep, Request.answer?] at hRefused
  | insertion shape t =>
    rw [hPhase] at hRefused
    unfold Registry.insertionStep at hRefused
    cases hBound : r.get? q.flags with
    | some existing => simp [hBound, Request.answer?, Request.finish] at hRefused
    | none =>
      cases hFull : r.isFull with
      | true =>
        simp [hBound, hFull, Request.answer?, Request.finish] at hRefused
        exact ⟨hRefused.symm, rfl, Or.inr rfl, by simp⟩
      | false => simp [hBound, hFull, Request.answer?, Request.finish] at hRefused
  | done answer => simp [Request.answer?, hPhase] at hOpen

/-- The two steps that consult the map answer with the shape that they find. -/
theorem step_of_bound {q : Request} {shape : Shape} (hBound : r.get? q.flags = some shape)
    (hConsults : q.phase = .lookup ∨ ∃ own t, q.phase = .insertion own t) :
    (r.step catalog timed q).2.1 = q.finish (.ok shape) := by
  unfold Registry.step
  rcases hConsults with hPhase | ⟨own, t, hPhase⟩
  · rw [hPhase]
    simp [Registry.lookupStep, hBound]
  · rw [hPhase]
    simp [Registry.insertionStep, hBound]

/-! ## The law -/

/--
**A known mask is never refused where it is looked up.** Let calls begin and take their steps in
any order. If a call is refused, then the registry holds as many shapes as it may, the call has
looked its mask up before and found no shape, and unless the call is refused on admission the mask
still has none. A call that looks its mask up, or asks for it under the lock, when the mask has a
shape, is answered with that shape, full as the registry may be.
-/
theorem refusal_after_miss (catalog : Catalog Code) (id : Nat) {max : Option Nat}
    (hMax : max ≠ some 0) (timed : Bool) :
    ∃ r, Registry.new catalog id max = .ok r ∧ ∀ (moves : List Move) (c : Contest) (i : Nat)
      (q q' : Request), c = play catalog timed ⟨r, []⟩ moves → c.requests[i]? = some q →
      q.answer? = none → (c.step catalog timed i).requests[i]? = some q' →
      (∀ e, q'.answer? = some (.error e) →
        e = .registryFull ∧ max = some c.registry.size ∧
          Missed catalog timed r moves i q.flags ∧
          (q.phase = .admission ∨ c.registry.get? q.flags = none)) ∧
      (∀ shape, c.registry.get? q.flags = some shape →
        (q.phase = .lookup ∨ ∃ own t, q.phase = .insertion own t) →
          q'.answer? = some (.ok shape)) := by
  obtain ⟨r, hr⟩ : ∃ r, Registry.new catalog id max = .ok r := by
    unfold Registry.new
    rw [if_neg hMax]
    exact ⟨_, rfl⟩
  refine ⟨r, hr, ?_⟩
  intro moves c i q q' hPlay hi hOpen hStep
  obtain ⟨hNew, hCap⟩ := safe_new hr
  have hSafe : c.Safe := hPlay ▸ hNew.play catalog timed moves
  have hAfter : q' = (c.registry.step catalog timed q).2.1 := by
    unfold step at hStep
    rw [hi] at hStep
    rcases getElem?_set_cases hStep with ⟨-, hq⟩ | ⟨hne, -⟩
    · exact hq
    · exact absurd rfl hne
  subst hAfter
  constructor
  · intro e hRefused
    obtain ⟨hError, hFull, hFound, hBegun⟩ := refusal_cases hOpen hRefused
    refine ⟨hError, ?_, missed_of_underWay (hPlay ▸ hi) hBegun hOpen, hFound⟩
    -- a full registry has a limit, and never holds more than that
    have hLimit : c.registry.maxShapes = max := by
      rw [hPlay, (later_play catalog timed ⟨r, []⟩ moves).maxShapes, hCap]
    unfold Registry.isFull at hFull
    rw [hLimit] at hFull
    cases hm : max with
    | none =>
      rw [hm] at hFull
      cases hFull
    | some m =>
      rw [hm] at hFull hLimit
      have hGe : m ≤ c.registry.registered := of_decide_eq_true hFull
      have hLe := hSafe.sound.cap m hLimit
      have hSize : c.registry.size = c.registry.registered := hSafe.sound.registered.symm
      rw [hSize, Nat.le_antisymm hGe hLe]
  · intro shape hBound hConsults
    rw [step_of_bound hBound hConsults]
    rfl

/-- A call is refused after another one has taken the last place. It has missed before. -/
theorem refusal_after_miss_last_place :
    (some 2 : Option Nat) ≠ some 0 ∧
      ∃ r, Registry.new (.empty : Catalog Empty) 0 (some 2) = .ok r ∧
        Missed (.empty : Catalog Empty) false r
          [.call 1#32, .call 2#32, .step 0, .step 1, .step 1, .step 1, .step 1] 0 1#32 := by
  refine ⟨by decide, ?_⟩
  obtain ⟨r, hr, hAll⟩ := refusal_after_miss (.empty : Catalog Empty) 0
    (show (some 2 : Option Nat) ≠ some 0 by decide) false
  refine ⟨r, hr, ?_⟩
  cases hr
  have hRefused := (hAll
    [.call 1#32, .call 2#32, .step 0, .step 1, .step 1, .step 1, .step 1] _ 0
    { flags := 1#32, phase := .admission }
    { flags := 1#32, phase := .done (.error .registryFull) } rfl rfl rfl rfl).1 _ rfl
  exact hRefused.2.2.1

/-- Two calls for one mask, and room for one more shape. Both look the mask up, one binds it, and
the other is refused on admission although the mask has its shape. -/
theorem known_mask_refused :
    ∃ r shape, Registry.new (.empty : Catalog Empty) 0 (some 2) = .ok r ∧
      let c := (start r [Capabilities.callable, Capabilities.callable]).run
        (.empty : Catalog Empty) false [0, 1, 1, 1, 1]
      c.registry.get? Capabilities.callable = some shape ∧ c.answers = [.ok shape] ∧
        (c.step (.empty : Catalog Empty) false 0).answers = [.error .registryFull, .ok shape] :=
  ⟨_, _, rfl, rfl, rfl, rfl⟩

end ProxyBridge.Contest
