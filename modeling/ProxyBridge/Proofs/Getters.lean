import ProxyBridge.Proofs.Covering
import ProxyBridge.Proofs.Creation

/-!
# The code that a wrap runs

A value can have code in two places: its body runs when it is called, and the getters among its
members run when they are read. A wrap reads members and asks probes. So if all getters that are
stored are of one kind, then a wrap runs code of this kind and code of probes, and nothing changes
for it if other code is replaced by something else.

The state after each step has to be looked at too, since code that runs can store values with
getters of their own. Two actions are compared step by step, along the text of the operations.

## Results

* `Table.Gets` — the getters that are stored are of a kind; `Act.Stores` — an action keeps it so.
* `Act.Same` — two actions that cannot be told apart where getters are of a kind.
* `Environment.SameReads` — two environments that differ in other code only.
* `Environment.SameReads.createWith` — wraps are the same in both.
-/

namespace ProxyBridge

variable {Code Client ε α β : Type} {getters : Code → Prop}

/-! ## Stored getters -/

/-- A well-formed table, in which the getters among the members of values are of a kind. -/
structure Table.Gets (getters : Code → Prop) (t : Table Code) : Prop where
  wellFormed : t.WellFormed
  kind : ∀ h o, t.object h = .ok o → ∀ k g, o.members.find? k = some (.accessor g) → getters g

namespace Table

variable {t u : Table Code} {h : Handle} {o : Object Code}

theorem Gets.of_objects (ht : t.Gets getters) (hu : u.WellFormed)
    (hObjects : ∀ h o, u.object h = .ok o → t.object h = .ok o) : u.Gets getters :=
  ⟨hu, fun h o ho => ht.kind h o (hObjects h o ho)⟩

theorem Gets.retain (ht : t.Gets getters) (hr : t.retain h = .ok u) : u.Gets getters :=
  ht.of_objects (ht.wellFormed.retain hr) fun h' _ ho => (object_retain hr h').symm.trans ho

/-- What is there after a cascade was there before, as it is. -/
theorem object_of_releaseAll (ht : t.WellFormed) {pending : List Handle}
    (ho : (t.releaseAll pending).1.object h = .ok o) : t.object h = .ok o := by
  have hAll : (t.releaseAll pending).1.WellFormed ∧
      ∀ h o, (t.releaseAll pending).1.object h = .ok o → t.object h = .ok o := by
    refine releaseAll_induction
      (P := fun u _ => u.WellFormed ∧ ∀ h o, u.object h = .ok o → t.object h = .ok o) ?_ ?_ ?_
      ⟨ht, fun _ _ ho => ho⟩
    · intro u x rest _ hu
      exact hu
    · intro u x rest v hr hu
      obtain ⟨e, -, -, hv⟩ := alive_of_releaseOne hr
      refine ⟨hu.1.releaseOne_alive hr, fun h o ho => hu.2 h o ?_⟩
      rw [hv, dropReference_eq_recount, object_recount] at ho
      exact ho
    · intro u x rest v owned hr hu
      obtain ⟨e, -, -, -, hv, -⟩ := freed_of_releaseOne hr
      refine ⟨hu.1.releaseOne_freed hr, fun h o ho => hu.2 h o ?_⟩
      obtain ⟨e', he', rfl⟩ := object_eq_ok_iff.mp ho
      rw [hv, entry?_dropEntry hu.1] at he'
      split at he'
      · cases he'
      · exact object_eq_ok_iff.mpr ⟨e', he', rfl⟩
  exact hAll.2 h o ho

theorem Gets.release (ht : t.Gets getters) (h : Handle) : (t.release h).1.Gets getters :=
  ht.of_objects (ht.wellFormed.releaseAll [h]) fun _ _ => object_of_releaseAll ht.wellFormed

theorem Granted.object {l : List Handle} (hu : t.Granted l u) (h : Handle) :
    u.object h = t.object h := by
  rw [Table.object, Table.object, hu.entries h]
  cases t.entry? h <;> rfl

end Table

/-! ## Actions that cannot be told apart -/

namespace Act

/-- What an action stores are values with getters of a kind. -/
def Stores (getters : Code → Prop) (act : Act Code Client ε α) : Prop :=
  Ensures (fun s => s.table.Gets getters) act (fun _ s => s.table.Gets getters)
    fun _ s => s.table.Gets getters

/-- Where the getters are of a kind, two actions do the same, and the getters stay of the kind. -/
def Same (getters : Code → Prop) (act act' : Act Code Client ε α) : Prop :=
  ∀ s, s.table.Gets getters → act s = act' s ∧ (act.after s).table.Gets getters

namespace Same

variable {act act' : Act Code Client ε α} {f f' : α → Act Code Client ε β}

theorem of_stores (h : act.Stores getters) : act.Same getters act :=
  fun _ hs => ⟨rfl, h.after hs⟩

/-- An action that leaves the table alone. -/
theorem of_table (h : ∀ s, (act.after s).table = s.table) : act.Same getters act := by
  intro s hs
  refine ⟨rfl, ?_⟩
  rw [h s]
  exact hs

theorem pure (a : α) : Same getters (Pure.pure a : Act Code Client ε α) (Pure.pure a) :=
  of_table fun _ => rfl

theorem bind (h : act.Same getters act') (hf : ∀ a, (f a).Same getters (f' a)) :
    (act >>= f).Same getters (act' >>= f') := by
  intro s hs
  obtain ⟨hEq, hAfter⟩ := h s hs
  rw [Act.after] at hAfter ⊢
  cases hr : act s with
  | ok a s₁ =>
    rw [hr] at hEq hAfter
    rw [bind_ok hr, bind_ok hEq.symm]
    exact hf a s₁ hAfter
  | error e s₁ =>
    rw [hr] at hEq hAfter
    rw [bind_error hr, bind_error hEq.symm]
    exact ⟨rfl, hAfter⟩

theorem get_bind {f f' : Session Code Client → Act Code Client ε β}
    (h : ∀ s, (f s).Same getters (f' s)) :
    Act.Same getters (MonadState.get >>= f) (MonadState.get >>= f') :=
  fun s hs => h s s hs

theorem foreign {act act' : Act Code Client ForeignError α} (h : act.Same getters act') :
    act.foreign.Same getters act'.foreign := by
  intro s hs
  obtain ⟨hEq, hAfter⟩ := h s hs
  rw [Act.after] at hAfter ⊢
  cases hr : act s with
  | ok a s₁ =>
    rw [hr] at hEq hAfter
    rw [foreign_ok hr, foreign_ok hEq.symm]
    exact ⟨rfl, hAfter⟩
  | error e s₁ =>
    rw [hr] at hEq hAfter
    rw [foreign_error hr, foreign_error hEq.symm]
    exact ⟨rfl, hAfter⟩

theorem onError {g : ε → Session Code Client → Session Code Client}
    (h : act.Same getters act') (hg : ∀ e s, (g e s).table = s.table) :
    (act.onError g).Same getters (act'.onError g) := by
  intro s hs
  obtain ⟨hEq, hAfter⟩ := h s hs
  rw [Act.after] at hAfter ⊢
  cases hr : act s with
  | ok a s₁ =>
    rw [hr] at hEq hAfter
    rw [onError_ok hr, onError_ok hEq.symm]
    exact ⟨rfl, hAfter⟩
  | error e s₁ =>
    rw [hr] at hEq hAfter
    rw [onError_error hr, onError_error hEq.symm]
    refine ⟨rfl, ?_⟩
    show (g e s₁).table.Gets getters
    rw [hg]
    exact hAfter

theorem foldlM {γ : Type} {f f' : β → γ → Act Code Client ε β}
    (h : ∀ b c, (f b c).Same getters (f' b c)) (l : List γ) (b : β) :
    Act.Same getters (l.foldlM f b) (l.foldlM f' b) := by
  induction l generalizing b with
  | nil => exact pure b
  | cons c rest ih =>
    rw [List.foldlM_cons, List.foldlM_cons]
    exact (h b c).bind ih

end Same

theorem same_tagOf (h : Handle) :
    Same getters (tagOf h : Act Code Client ForeignError Tag) (tagOf h) := by
  refine .of_table fun s => ?_
  cases ho : s.table.object h with
  | ok o => rw [after, tagOf, bind_ok (object_ok ho)]; rfl
  | error e => rw [after, tagOf, bind_error (object_error ho)]

theorem same_release (h : Handle) :
    Same getters (release h : Act Code Client ε Unit) (release h) :=
  fun _ hs => ⟨rfl, hs.release h⟩

theorem same_bridge (i : Nat) :
    Same getters (bridge i : Act Code Client ProxyError (Bridge Code)) (bridge i) := by
  refine .of_table fun s => ?_
  rw [after, bridge]
  cases s.bridges[i]? <;> rfl

/-- A wrap with a chosen mask counts values and stores none. -/
theorem same_createTyped (i : Nat) (flags : Capabilities) (value : Handle)
    (receiver : Option Handle) :
    Same getters (createTyped i flags value receiver : Act Code Client ProxyError Nat)
      (createTyped i flags value receiver) := by
  intro s hs
  refine ⟨rfl, ?_⟩
  have hWalk : Session.Path (fun _ : Client => []) s ((createTyped i flags value receiver :
      Act Code Client ProxyError Nat).after s) := (walks_createTyped i flags value receiver).after s
  refine hs.of_objects (Session.Path.wellFormed hWalk hs.wellFormed) fun h o ho => ?_
  rw [after] at ho
  cases hb : s.bridges[i]? with
  | none =>
    rw [createTyped_none hb] at ho
    exact ho
  | some b =>
    have hSpec := createTyped_spec hs.wellFormed hb flags value receiver
    cases hr : (createTyped i flags value receiver : Act Code Client ProxyError Nat) s with
    | ok id s' =>
      rw [hr] at hSpec ho
      obtain ⟨-, -, registry, shape, -, -, hBuilt⟩ := hSpec
      exact (hBuilt.table.object h).symm.trans ho
    | error e s' =>
      rw [hr] at hSpec ho
      obtain ⟨-, registry, -, hRest⟩ := hSpec
      rw [hRest] at ho
      exact ho

end Act

/-! ## Reading and looking -/

/-- Two environments with the same probes and the same getters of a kind, which store no values with
other getters. -/
structure Environment.SameReads (getters : Code → Prop) (env env' : Environment Code Client) :
    Prop where
  run : ∀ g, getters g → env.run g none [] = env'.run g none []
  decide : env.decide = env'.decide
  run_stores : ∀ g, getters g → (env.run g none []).Stores getters
  decide_stores : ∀ code h detected, (env.decide code h detected).Stores getters

namespace Environment.SameReads

open Act

variable {env env' : Environment Code Client}

theorem read (hEnv : env.SameReads getters env') (h : Handle) (k : Key) :
    (env.read h k).Same getters (env'.read h k) := by
  intro s hs
  cases ho : s.table.object h with
  | error e =>
    have hError (env : Environment Code Client) : env.read h k s = .error e s :=
      bind_error (object_error ho)
    rw [after, hError, hError]
    exact ⟨rfl, hs⟩
  | ok o =>
    rw [after, Environment.read, Environment.read, bind_ok (object_ok ho), bind_ok (object_ok ho)]
    -- the member says what is run, and only a getter is
    cases hm : o.members.find? k with
    | none => exact ⟨rfl, hs⟩
    | some m =>
      cases m with
      | accessor g =>
        have hg := hs.kind h o ho k g hm
        exact ⟨congrFun (hEnv.run g hg) s, (hEnv.run_stores g hg).after hs⟩
      | data v =>
        cases v with
        | undefined | number => exact ⟨rfl, hs⟩
        | handle target =>
          refine ⟨rfl, ?_⟩
          dsimp only
          cases hr : s.table.retain target with
          | ok u =>
            rw [bind_ok (onTable_ok hr)]
            exact hs.retain hr
          | error e =>
            rw [bind_error (onTable_error hr)]
            exact hs

theorem hasMethod (hEnv : env.SameReads getters env') (h : Handle) (k : Key) :
    (env.hasMethod h k).Same getters (env'.hasMethod h k) := by
  refine (hEnv.read h k).bind fun v => ?_
  cases v with
  | handle m => exact .get_bind fun s => (same_release m).bind fun _ => .pure _
  | number x => exact .pure false
  | undefined => exact .pure false

theorem number (hEnv : env.SameReads getters env') (h : Handle) (name : String) :
    (env.number h name).Same getters (env'.number h name) := by
  refine (hEnv.read h (.named name)).bind fun v => ?_
  cases v with
  | handle m => exact .get_bind fun s => (same_release m).bind fun _ => .pure _
  | number x => exact .pure (some x)
  | undefined => exact .pure none

theorem firstNumber (hEnv : env.SameReads getters env') (h : Handle) (names : List String) :
    (env.firstNumber h names).Same getters (env'.firstNumber h names) := by
  induction names with
  | nil => exact .pure none
  | cons name rest ih =>
    refine (hEnv.number h name).bind fun found => ?_
    cases found with
    | some x => exact .pure (some x)
    | none => exact ih

theorem judge (hEnv : env.SameReads getters env') (r : Rule) (h : Handle)
    (detected : Capabilities) :
    (env.judge r h detected).Same getters (env'.judge r h detected) := by
  unfold Environment.judge
  cases r with
  | measured =>
    refine (hEnv.number h "size").bind fun size => ?_
    split
    · exact .pure true
    · split
      · exact .pure false
      · exact (hEnv.number h "length").bind fun _ => .pure _
  | syncStep | asyncStep =>
    dsimp only
    split
    · exact hEnv.hasMethod h _
    · exact .pure false

theorem probe (hEnv : env.SameReads getters env') (p : Probe Code) (h : Handle) (f : Findings) :
    (env.probe p h f).Same getters (env'.probe p h f) := by
  unfold Environment.probe
  cases p with
  | tag tags =>
    dsimp only
    cases f.tag with
    | some tag => exact .pure _
    | none => exact (same_tagOf h).bind fun _ => .pure _
  | method key => exact (hEnv.hasMethod h key).bind fun _ => .pure _
  | numeric names => exact (hEnv.firstNumber h names).bind fun _ => .pure _
  | rule r => exact (hEnv.judge r h f.detected).bind fun _ => .pure _
  | custom code =>
    dsimp only
    rw [← hEnv.decide]
    exact (Act.Same.of_stores (hEnv.decide_stores code h f.detected)).bind fun _ => .pure _
  | explicit => exact .pure _

theorem examine (hEnv : env.SameReads getters env') (h : Handle) (f : Findings)
    (c : Capability Code) : (env.examine h f c).Same getters (env'.examine h f c) := by
  unfold Environment.examine
  split
  · exact .pure f
  · -- a probe that fails is reported
    refine (Act.Same.onError (hEnv.probe c.probe h f) ?_).bind fun _ => .pure _
    exact fun _ _ => rfl

theorem inspect (hEnv : env.SameReads getters env') (c : Catalog Code) (h : Handle) :
    (env.inspect c h).Same getters (env'.inspect c h) :=
  (Act.Same.foldlM (hEnv.examine h) _ _).bind fun _ => .pure _

theorem capabilities (hEnv : env.SameReads getters env') (i : Nat) (h : Handle) :
    (env.capabilities i h).Same getters (env'.capabilities i h) :=
  (same_bridge i).bind fun b => (hEnv.inspect b.catalog h).foreign

/-- A wrap runs getters and probes, and nothing else. -/
theorem createWith (hEnv : env.SameReads getters env') (i : Nat) (value : Handle)
    (receiver : Option Handle) :
    (env.createWith i value receiver).Same getters (env'.createWith i value receiver) := by
  rw [createWith_eq, createWith_eq]
  refine (Act.Same.onError (hEnv.capabilities i value) ?_).bind fun flags =>
    same_createTyped i flags value receiver
  exact fun _ _ => rfl

end Environment.SameReads

end ProxyBridge
