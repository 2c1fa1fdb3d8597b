import ProxyBridge.Proxy.Behavior

/-!
# Reasoning about actions

An action ends with a result or with an error, and both ends have a state to speak about.
`Act.Ensures P act Q E` says that from every state of `P` the action ends in a state of `Q` with its
result, or in one of `E` with its error. There is one rule for each way in which actions are put
together, so that a proof about an operation follows the text of the operation.
-/

namespace ProxyBridge.Act

variable {Code Client ε ε' α β : Type}

/-! ## Single runs -/

section Run

variable {act : Act Code Client ε α} {f : α → Act Code Client ε β} {s s' : Session Code Client}
  {a : α} {e : ε}

theorem bind_ok (h : act s = .ok a s') : (act >>= f) s = f a s' := by
  simp only [Bind.bind, EStateM.bind, h]

theorem bind_error (h : act s = .error e s') : (act >>= f) s = .error e s' := by
  simp only [Bind.bind, EStateM.bind, h]

/-- An action that goes through has gone through at every step. -/
theorem bind_eq_ok {b : β} (h : (act >>= f) s = .ok b s') :
    ∃ a s₁, act s = .ok a s₁ ∧ f a s₁ = .ok b s' := by
  simp only [Bind.bind, EStateM.bind] at h
  cases hact : act s with
  | ok a s₁ =>
    rw [hact] at h
    exact ⟨a, s₁, rfl, h⟩
  | error e s₁ =>
    rw [hact] at h
    cases h

/-- An action whose result is restated. -/
theorem map_eq_ok {g : α → β} {b : β} (h : (act >>= fun a => pure (g a)) s = .ok b s') :
    ∃ a, act s = .ok a s' ∧ g a = b := by
  obtain ⟨a, s₁, hAct, hPure⟩ := bind_eq_ok h
  cases hPure
  exact ⟨a, hAct, rfl⟩

/-- What follows an action depends on what the action comes to. -/
theorem bind_congr {act' : Act Code Client ε α} (h : act s = act' s)
    (f : α → Act Code Client ε β) : (act >>= f) s = (act' >>= f) s := by
  show EStateM.bind act f s = EStateM.bind act' f s
  rw [EStateM.bind, EStateM.bind, h]

theorem onError_ok {g : ε → Session Code Client → Session Code Client} (h : act s = .ok a s') :
    act.onError g s = .ok a s' := by
  rw [Act.onError, h]

theorem onError_eq_ok {g : ε → Session Code Client → Session Code Client}
    (h : act.onError g s = .ok a s') : act s = .ok a s' := by
  rw [Act.onError] at h
  cases hact : act s with
  | ok b s₁ =>
    rw [hact] at h
    exact h
  | error e s₁ =>
    rw [hact] at h
    cases h

theorem onError_error {g : ε → Session Code Client → Session Code Client}
    (h : act s = .error e s') : act.onError g s = .error e (g e s') := by
  rw [Act.onError, h]

/-- What is done about an error is done once, wherever the error comes from. -/
theorem onError_bind (act : Act Code Client ε α) (f : α → Act Code Client ε β)
    (g : ε → Session Code Client → Session Code Client) :
    (act >>= f).onError g = act.onError g >>= fun a => (f a).onError g := by
  funext s
  cases hact : act s with
  | ok a s₁ => rw [Act.onError, bind_ok hact, bind_ok (onError_ok hact), Act.onError]
  | error e s₁ => rw [bind_error (onError_error hact), onError_error (bind_error hact)]

theorem foreign_ok {act : Act Code Client ForeignError α} (h : act s = .ok a s') :
    act.foreign s = .ok a s' := by
  rw [Act.foreign, Act.mapError, h]

theorem foreign_error {act : Act Code Client ForeignError α} {e : ForeignError}
    (h : act s = .error e s') : act.foreign s = .error (.foreign e) s' := by
  rw [Act.foreign, Act.mapError, h]

theorem foreign_eq_ok {act : Act Code Client ForeignError α} (h : act.foreign s = .ok a s') :
    act s = .ok a s' := by
  cases hact : act s with
  | ok b s₁ =>
    cases (foreign_ok hact).symm.trans h
    rfl
  | error e s₁ => cases (foreign_error hact).symm.trans h

theorem foreign_congr {act act' : Act Code Client ForeignError α} (h : act s = act' s) :
    act.foreign s = act'.foreign s := by
  rw [foreign, foreign, mapError, mapError, h]

theorem onTable_ok {f : Table Code → Except ε (Table Code)} {t : Table Code}
    (h : f s.table = .ok t) :
    (onTable f : Act Code Client ε Unit) s = .ok () { s with table := t } := by
  rw [onTable, h]

theorem onTable_error {f : Table Code → Except ε (Table Code)} (h : f s.table = .error e) :
    (onTable f : Act Code Client ε Unit) s = .error e s := by
  rw [onTable, h]

/-- Only the table is replaced, and by what the computation yields. -/
theorem onTable_eq_ok {f : Table Code → Except ε (Table Code)}
    (hRun : (onTable f : Act Code Client ε Unit) s = .ok () s') :
    ∃ t, f s.table = .ok t ∧ s' = { s with table := t } := by
  cases ht : f s.table with
  | ok t =>
    cases (onTable_ok ht).symm.trans hRun
    exact ⟨t, rfl, rfl⟩
  | error e => cases (onTable_error ht).symm.trans hRun

theorem object_ok {h : Handle} {o : Object Code} (ho : s.table.object h = .ok o) :
    object h s = .ok o s := by
  rw [object, ho, ofExcept]

theorem object_error {h : Handle} {e : ForeignError} (he : s.table.object h = .error e) :
    object h s = .error e s := by
  rw [object, he, ofExcept]

theorem object_eq_ok {h : Handle} {o : Object Code} (hRun : object h s = .ok o s') :
    s.table.object h = .ok o ∧ s' = s := by
  cases ho : s.table.object h with
  | ok o' =>
    cases (object_ok ho).symm.trans hRun
    exact ⟨rfl, rfl⟩
  | error e => cases (object_error ho).symm.trans hRun

/-- Whoever holds a reference has it back when the action is over. -/
theorem holding_eq_ok {h : Handle} (hRun : holding h act s = .ok a s') :
    ∃ s₁, act (s.adopt h) = .ok a s₁ ∧ s' = s₁.letGo h := by
  rw [holding] at hRun
  cases hAct : act (s.adopt h) with
  | ok b s₁ =>
    rw [hAct] at hRun
    cases hRun
    exact ⟨s₁, rfl, rfl⟩
  | error e s₁ =>
    rw [hAct] at hRun
    cases hRun

end Run

/-! ## What is left of a run -/

/-- The session after an action, whether the action succeeds or fails. -/
def after (act : Act Code Client ε α) (s : Session Code Client) : Session Code Client :=
  match act s with
  | .ok _ s' => s'
  | .error _ s' => s'

/-- The result of an action, or its error. -/
def outcome (act : Act Code Client ε α) (s : Session Code Client) : Except ε α :=
  match act s with
  | .ok a _ => .ok a
  | .error e _ => .error e

/-- The result of an action, if it goes through. -/
def result? (act : Act Code Client ε α) (s : Session Code Client) : Option α :=
  match act s with
  | .ok a _ => some a
  | .error _ _ => none

theorem eq_ok_after {act : Act Code Client ε α} {s : Session Code Client} {a : α}
    (h : act.result? s = some a) : act s = .ok a (act.after s) := by
  rw [Act.result?] at h
  rw [Act.after]
  cases hRun : act s with
  | ok b s' =>
    rw [hRun] at h
    cases h
    rfl
  | error e s' =>
    rw [hRun] at h
    cases h

/-- To restate the result of an action changes nothing. -/
theorem after_map (act : Act Code Client ε α) (f : α → β) (s : Session Code Client) :
    (act >>= fun a => pure (f a)).after s = act.after s := by
  cases hAct : act s with
  | ok a s' => rw [after, after, bind_ok hAct, hAct]; rfl
  | error e s' => rw [after, after, bind_error hAct, hAct]

/-! ## Actions that only look -/

/-- If the action goes through, it leaves the session as it was. -/
def Still (act : Act Code Client ε α) (s : Session Code Client) : Prop :=
  ∀ a s', act s = .ok a s' → s' = s

namespace Still

variable {act : Act Code Client ε α} {s s' : Session Code Client}

theorem pure (a : α) : Still (Pure.pure a : Act Code Client ε α) s := by
  intro b s' h
  cases h
  rfl

theorem of_ok {a : α} (h : act s = .ok a s) : act.Still s := by
  intro b s' h'
  cases h.symm.trans h'
  rfl

theorem of_error {e : ε} (h : act s = .error e s') : act.Still s := by
  intro b s'' h'
  cases h.symm.trans h'

theorem bind {f : α → Act Code Client ε β} (h : act.Still s) (hf : ∀ a, (f a).Still s) :
    (act >>= f).Still s := by
  intro b s' hRun
  obtain ⟨a, s₁, hFirst, hRest⟩ := bind_eq_ok hRun
  cases h a s₁ hFirst
  exact hf a b s' hRest

theorem ofExcept (r : Except ε α) : (Act.ofExcept r : Act Code Client ε α).Still s := by
  cases r with
  | ok a => exact of_ok rfl
  | error e => exact of_error rfl

end Still

/-! ## All runs -/

/-- From states of `P` the action ends in `Q` with its result, or in `E` with its error. -/
def Ensures (P : Session Code Client → Prop) (act : Act Code Client ε α)
    (Q : α → Session Code Client → Prop) (E : ε → Session Code Client → Prop) : Prop :=
  ∀ s, P s →
    match act s with
    | .ok a s' => Q a s'
    | .error e s' => E e s'

namespace Ensures

variable {P P' : Session Code Client → Prop} {act : Act Code Client ε α}
  {Q Q' : α → Session Code Client → Prop} {E E' : ε → Session Code Client → Prop}

/-- A weaker promise under a stronger assumption. -/
theorem mono (h : Ensures P act Q E) (hP : ∀ s, P' s → P s) (hQ : ∀ a s, Q a s → Q' a s)
    (hE : ∀ e s, E e s → E' e s) : Ensures P' act Q' E' := by
  intro s hs
  have := h s (hP s hs)
  cases hact : act s with
  | ok a s' =>
    rw [hact] at this
    exact hQ a s' this
  | error e s' =>
    rw [hact] at this
    exact hE e s' this

theorem pure (a : α) : Ensures (Q a) (Pure.pure a : Act Code Client ε α) Q E :=
  fun _ hs => hs

theorem throw (e : ε) : Ensures (E e) (MonadExcept.throw e : Act Code Client ε α) Q E :=
  fun _ hs => hs

/-- The second action starts where the first one ends. -/
theorem bind {f : α → Act Code Client ε β} {R : β → Session Code Client → Prop}
    (h : Ensures P act Q E) (hf : ∀ a, Ensures (Q a) (f a) R E) : Ensures P (act >>= f) R E := by
  intro s hs
  have := h s hs
  simp only [Bind.bind, EStateM.bind]
  cases hact : act s with
  | ok a s' =>
    rw [hact] at this
    exact hf a s' this
  | error e s' =>
    rw [hact] at this
    exact this

/-- Looking at the state first. -/
theorem get_bind {f : Session Code Client → Act Code Client ε β}
    {R : β → Session Code Client → Prop} (h : ∀ s, Ensures (fun s' => s' = s ∧ P s') (f s) R E) :
    Ensures P (MonadState.get >>= f) R E :=
  fun s hs => h s s ⟨rfl, hs⟩

theorem mapError {f : ε → ε'} {E : ε' → Session Code Client → Prop}
    (h : Ensures P act Q fun e => E (f e)) : Ensures P (act.mapError f) Q E := by
  intro s hs
  have := h s hs
  rw [Act.mapError]
  cases hact : act s with
  | ok a s' =>
    rw [hact] at this
    exact this
  | error e s' =>
    rw [hact] at this
    exact this

theorem foreign {act : Act Code Client ForeignError α} {E : ProxyError → Session Code Client → Prop}
    (h : Ensures P act Q fun e => E (.foreign e)) : Ensures P act.foreign Q E :=
  h.mapError

theorem onError {f : ε → Session Code Client → Session Code Client}
    (h : Ensures P act Q fun e s => E e (f e s)) : Ensures P (act.onError f) Q E := by
  intro s hs
  have := h s hs
  rw [Act.onError]
  cases hact : act s with
  | ok a s' =>
    rw [hact] at this
    exact this
  | error e s' =>
    rw [hact] at this
    exact this

theorem ofExcept {r : Except ε α} {Q : α → Session Code Client → Prop}
    (hok : ∀ a, r = .ok a → ∀ s, P s → Q a s) (herror : ∀ e, r = .error e → ∀ s, P s → E e s) :
    Ensures P (Act.ofExcept r) Q E := by
  intro s hs
  cases r with
  | ok a => exact hok a rfl s hs
  | error e => exact herror e rfl s hs

/-- A fold over a list keeps what each step keeps. -/
theorem foldlM {γ : Type} {f : β → γ → Act Code Client ε β} (l : List γ) (b : β)
    (h : ∀ b, ∀ c ∈ l, Ensures P (f b c) (fun _ => P) E) :
    Ensures P (l.foldlM f b) (fun _ => P) E := by
  induction l generalizing b with
  | nil => exact fun s hs => hs
  | cons c rest ih =>
    rw [List.foldlM_cons]
    exact (h b c (List.mem_cons_self ..)).bind fun b' =>
      ih b' fun b c hc => h b c (List.mem_cons_of_mem _ hc)

end Ensures

end ProxyBridge.Act
