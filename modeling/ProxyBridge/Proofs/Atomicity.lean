import ProxyBridge.Proofs.Detection
import ProxyBridge.Proofs.Getters
import ProxyBridge.Proofs.Identity

/-!
# Operations that fail without a trace

Storing a member checks two handles, counts a reference, replaces a member and gives a reference
back, and what is given back last can start a cascade that frees even the value that was written.
All that can fail comes before the first change that stays: both handles are looked at first, and a
cascade never fails. So an operation that fails has changed nothing, and this for any handles,
whether they are stale, are equal, or hold one another. Foreign code is left out, since it may do
what it likes before it fails.

## Results

* `Act.AllOrNothing` — an action that fails has changed nothing; `Act.Total` — it never fails.
* `Environment.Quiet` — no foreign code takes part, and a failure changes nothing.
* `Session.Fallible` — the operations that are all or nothing, with the code that each may run.
* `Act.StoreOutcome` — what a store of a member comes to.
* `operations_all_or_nothing` — both, for every table that the operations can make.
-/

namespace ProxyBridge

variable {Code Client ε α β : Type}

/-! ## Failure without a trace -/

namespace Act

/-- If the action fails, it leaves the session as it was. -/
def AllOrNothing (act : Act Code Client ε α) (s : Session Code Client) : Prop :=
  ∀ e s', act s = .error e s' → s' = s

/-- The action never fails. -/
def Total (act : Act Code Client ε α) : Prop := ∀ s, ∃ a s', act s = .ok a s'

namespace Total

variable {act : Act Code Client ε α} {f : α → Act Code Client ε β}

theorem pure (a : α) : Total (Pure.pure a : Act Code Client ε α) := fun s => ⟨a, s, rfl⟩

theorem modify (g : Session Code Client → Session Code Client) :
    Total (modifyGet fun s => (PUnit.unit, g s) : Act Code Client ε PUnit) :=
  fun s => ⟨.unit, g s, rfl⟩

theorem get_bind {f : Session Code Client → Act Code Client ε β} (hf : ∀ s, (f s).Total) :
    Total (MonadState.get >>= f) :=
  fun s => hf s s

theorem bind (hAct : act.Total) (hf : ∀ a, (f a).Total) : (act >>= f).Total := by
  intro s
  obtain ⟨a, s₁, hFirst⟩ := hAct s
  rw [bind_ok hFirst]
  exact hf a s₁

end Total

/-- A cascade ends, and it does not fail. -/
theorem total_release (h : Handle) : Total (release h : Act Code Client ε Unit) :=
  Total.modify _

theorem total_release? (r : Option Handle) :
    Total (match r with
      | some h => release h
      | none => Pure.pure () : Act Code Client ε Unit) := by
  cases r with
  | none => exact .pure ()
  | some h => exact total_release h

/-- A result that is a value becomes a handle in any case. -/
theorem total_materialize {v : Value} (hv : v ≠ .undefined) :
    Total (materialize v : Act Code Client ForeignError Handle) := by
  intro s
  cases v with
  | undefined => exact absurd rfl hv
  | number x => exact ⟨_, _, rfl⟩
  | handle h => exact ⟨_, _, rfl⟩

namespace AllOrNothing

variable {act : Act Code Client ε α} {f : α → Act Code Client ε β} {s : Session Code Client}

theorem of_total (h : act.Total) : act.AllOrNothing s := by
  intro e s' hRun
  obtain ⟨a, s₁, hOk⟩ := h s
  cases hOk.symm.trans hRun

theorem throw (e : ε) : AllOrNothing (MonadExcept.throw e : Act Code Client ε α) s := by
  intro e' s' hRun
  cases hRun
  rfl

/-- After a first part that only looks, the rest may fail as well. -/
theorem bind_still (hAct : act.AllOrNothing s) (hStill : act.Still s)
    (hf : ∀ a, act s = .ok a s → (f a).AllOrNothing s) : (act >>= f).AllOrNothing s := by
  intro e s' hRun
  cases hFirst : act s with
  | error e₁ s₁ =>
    rw [bind_error hFirst] at hRun
    cases hRun
    exact hAct e s' hFirst
  | ok a s₁ =>
    obtain rfl := hStill a s₁ hFirst
    rw [bind_ok hFirst] at hRun
    exact hf a hFirst e s' hRun

/-- After a first part that changes something, the rest must not fail. -/
theorem bind_total (hAct : act.AllOrNothing s) (hf : ∀ a, (f a).Total) :
    (act >>= f).AllOrNothing s := by
  intro e s' hRun
  cases hFirst : act s with
  | error e₁ s₁ =>
    rw [bind_error hFirst] at hRun
    cases hRun
    exact hAct e s' hFirst
  | ok a s₁ =>
    obtain ⟨b, s₂, hRest⟩ := hf a s₁
    rw [bind_ok hFirst, hRest] at hRun
    cases hRun

end AllOrNothing

variable (s : Session Code Client)

/-- A change of the table is made as a whole or not at all. -/
theorem allOrNothing_onTable (f : Table Code → Except ε (Table Code)) :
    (onTable f : Act Code Client ε Unit).AllOrNothing s := by
  intro e s' hRun
  rw [onTable] at hRun
  split at hRun
  · cases hRun
  · cases hRun
    rfl

theorem allOrNothing_object (h : Handle) :
    (object h : Act Code Client ForeignError (Object Code)).AllOrNothing s := by
  intro e s' hRun
  cases ho : s.table.object h with
  | ok o => cases (object_ok ho).symm.trans hRun
  | error e₁ =>
    cases (object_error ho).symm.trans hRun
    rfl

theorem allOrNothing_duplicate (h : Handle) :
    (duplicate h : Act Code Client ForeignError Handle).AllOrNothing s :=
  (allOrNothing_onTable s _).bind_total fun _ => .pure h

theorem allOrNothing_tagOf (h : Handle) :
    (tagOf h : Act Code Client ForeignError Tag).AllOrNothing s :=
  (allOrNothing_object s h).bind_total fun o => .pure o.tag

theorem allOrNothing_memberNames (h : Handle) :
    (memberNames h : Act Code Client ForeignError (List String)).AllOrNothing s :=
  (allOrNothing_object s h).bind_total fun o => .pure o.memberNames

/-- Both handles are looked at before anything is changed. -/
theorem allOrNothing_setMember (h : Handle) (k : Key) (v : Handle) :
    (setMember h k v : Act Code Client ForeignError Unit).AllOrNothing s := by
  refine (allOrNothing_object s h).bind_still (Still.ofExcept (s := s) _) ?_
  intro o _
  -- counting the new value is the last step that can fail
  refine (allOrNothing_onTable s _).bind_total ?_
  intro _
  exact (Total.modify _).bind fun _ => total_release? _

theorem allOrNothing_deleteMember (h : Handle) (k : Key) :
    (deleteMember h k : Act Code Client ForeignError Bool).AllOrNothing s := by
  refine (allOrNothing_object s h).bind_total ?_
  intro o
  -- the value was found, so from here on nothing fails, whether there was such a member or not
  refine (Total.modify _).bind ?_
  intro _
  split
  · exact .pure false
  · split
    · exact (total_release _).bind fun _ => .pure true
    · exact .pure true

end Act

/-! ## Without foreign code -/

namespace Table

/-- The code that a read of a member runs, if it runs any. -/
def getter? (t : Table Code) (h : Handle) (k : Key) : Option Code :=
  match (t.entry? h).bind (·.object.members.find? k) with
  | some (.accessor g) => some g
  | _ => none

/-- The code that a call of a value runs, if it runs any. -/
def body? (t : Table Code) (h : Handle) : Option Code := (t.entry? h).bind (·.object.body)

end Table

namespace Environment

/-- No foreign code takes part: the operation goes the same way in every environment. And if it
fails, it has changed nothing. -/
structure Quiet (op : Environment Code Client → Act Code Client ε α) (s : Session Code Client) :
    Prop where
  alike : ∀ env env', op env s = op env' s
  allOrNothing : ∀ env, (op env).AllOrNothing s

variable {s : Session Code Client} {h : Handle} {k : Key}

/-- What an operation comes to, told without the environment. -/
theorem Quiet.of_eq {op : Environment Code Client → Act Code Client ε α} (act : Act Code Client ε α)
    (hOp : ∀ env, op env s = act s) (hAct : act.AllOrNothing s) : Quiet op s where
  alike env env' := (hOp env).trans (hOp env').symm
  allOrNothing env := by
    intro e s' hRun
    rw [hOp env] at hRun
    exact hAct e s' hRun

theorem Quiet.bind_total {op : Environment Code Client → Act Code Client ε α}
    {f : α → Act Code Client ε β} (hOp : Quiet op s) (hf : ∀ a, (f a).Total) :
    Quiet (fun env => op env >>= f) s where
  alike env env' := Act.bind_congr (hOp.alike env env') f
  allOrNothing env := (hOp.allOrNothing env).bind_total hf

/-- A read of a member that is not computed. -/
theorem quiet_read (hGetter : s.table.getter? h k = none) :
    Quiet (fun env : Environment Code Client => env.read h k) s := by
  cases ho : s.table.object h with
  | error e => exact .of_eq _ (fun env => Act.bind_error (Act.object_error ho)) (.throw e)
  | ok o =>
    obtain ⟨entry, hEntry, rfl⟩ := Table.object_eq_ok_iff.mp ho
    rw [Table.getter?, hEntry, Option.bind_some] at hGetter
    have hPure (w : Value) (hEq : ∀ env : Environment Code Client, env.read h k s = .ok w s) :
        Quiet (fun env : Environment Code Client => env.read h k) s :=
      .of_eq (pure w) hEq (.of_total (.pure w))
    -- the environment is asked for accessors only, and there is none
    cases hMember : entry.object.members.find? k with
    | none =>
      refine hPure .undefined fun env => ?_
      rw [read, Act.bind_ok (Act.object_ok ho), hMember]
      rfl
    | some m =>
      cases m with
      | accessor g =>
        rw [hMember] at hGetter
        cases hGetter
      | data v =>
        cases v with
        | undefined =>
          refine hPure .undefined fun env => ?_
          rw [read, Act.bind_ok (Act.object_ok ho), hMember]
          rfl
        | number x =>
          refine hPure (.number x) fun env => ?_
          rw [read, Act.bind_ok (Act.object_ok ho), hMember]
          rfl
        | handle target =>
          -- a handle is counted before it is handed out, which fails if it is stale
          refine .of_eq _ (fun env => ?_) ((Act.allOrNothing_onTable s (·.retain target)).bind_total
            fun _ => .pure (Value.handle target))
          rw [read, Act.bind_ok (Act.object_ok ho), hMember]

theorem quiet_hasMethod (hGetter : s.table.getter? h k = none) :
    Quiet (fun env : Environment Code Client => env.hasMethod h k) s := by
  refine (quiet_read hGetter).bind_total ?_
  -- what was read is looked at and given back, and neither fails
  intro v
  cases v with
  | undefined | number => exact .pure false
  | handle m => exact .get_bind fun s => (Act.total_release m).bind fun _ => .pure _

theorem quiet_number {name : String} (hGetter : s.table.getter? h (.named name) = none) :
    Quiet (fun env : Environment Code Client => env.number h name) s := by
  refine (quiet_read hGetter).bind_total ?_
  intro v
  cases v with
  | undefined => exact .pure none
  | number x => exact .pure (some x)
  | handle m => exact .get_bind fun s => (Act.total_release m).bind fun _ => .pure _

theorem quiet_member (hGetter : s.table.getter? h k = none) :
    Quiet (fun env : Environment Code Client => env.member h k) s := by
  refine (quiet_read hGetter).bind_total ?_
  intro v
  cases v with
  | undefined => exact .pure none
  | number x => exact (Act.total_materialize (v := .number x) nofun).bind fun _ => .pure _
  | handle m => exact (Act.total_materialize (v := .handle m) nofun).bind fun _ => .pure _

/-- A value without a body is refused before anything happens. -/
theorem quiet_invoke {f : Handle} (hBody : s.table.body? f = none) (receiver : Option Handle)
    (args : List Handle) :
    Quiet (fun env : Environment Code Client => env.invoke f receiver args) s := by
  cases ho : s.table.object f with
  | error e => exact .of_eq _ (fun env => Act.bind_error (Act.object_error ho)) (.throw e)
  | ok o =>
    -- the value is there, and has no body to run
    obtain ⟨entry, hEntry, rfl⟩ := Table.object_eq_ok_iff.mp ho
    rw [Table.body?, hEntry, Option.bind_some] at hBody
    refine .of_eq _ ?_ (.throw (.notFunction f))
    intro env
    rw [invoke, Act.bind_ok (Act.object_ok ho), hBody]

end Environment

/-- The operations of a table that can fail. Those in the second half run foreign code, if the
member that is read is computed or the value that is called has a body. -/
structure Session.Fallible (s : Session Code Client) : Prop where
  duplicate : ∀ h, (Act.duplicate h).AllOrNothing s
  tagOf : ∀ h, (Act.tagOf h).AllOrNothing s
  memberNames : ∀ h, (Act.memberNames h).AllOrNothing s
  setMember : ∀ h k v, (Act.setMember h k v).AllOrNothing s
  deleteMember : ∀ h k, (Act.deleteMember h k).AllOrNothing s
  hasMethod : ∀ h k, s.table.getter? h k = none →
    Environment.Quiet (fun env : Environment Code Client => env.hasMethod h k) s
  number : ∀ h name, s.table.getter? h (.named name) = none →
    Environment.Quiet (fun env : Environment Code Client => env.number h name) s
  member : ∀ h k, s.table.getter? h k = none →
    Environment.Quiet (fun env : Environment Code Client => env.member h k) s
  invoke : ∀ f receiver args, s.table.body? f = none →
    Environment.Quiet (fun env : Environment Code Client => env.invoke f receiver args) s

theorem Session.fallible (s : Session Code Client) : s.Fallible where
  duplicate := Act.allOrNothing_duplicate s
  tagOf := Act.allOrNothing_tagOf s
  memberNames := Act.allOrNothing_memberNames s
  setMember := Act.allOrNothing_setMember s
  deleteMember := Act.allOrNothing_deleteMember s
  hasMethod _ _ := Environment.quiet_hasMethod
  number _ _ := Environment.quiet_number
  member _ _ := Environment.quiet_member
  invoke _ receiver args hBody := Environment.quiet_invoke hBody receiver args

/-! ## Storing a member -/

namespace Table

variable {t u : Table Code} {h v x : Handle} {k : Key} {o : Object Code}

/-- A member is stored in one value only. -/
theorem object_modifyMembers_ne (f : Dict Key (Member Code) → Dict Key (Member Code))
    (hx : x ≠ h) : (t.modifyMembers h f).object x = t.object x := by
  rw [object, entry?_modifyMembers, if_neg (Ne.symm hx), object]

/-- Storing what a member holds already changes nothing. -/
theorem putMember_same (ht : t.WellFormed) {m : Member Code} (ho : t.object h = .ok o)
    (hMember : o.members.find? k = some m) : t.putMember h k m = t := by
  obtain ⟨e, he, rfl⟩ := object_eq_ok_iff.mp ho
  have hOrdered := (ht.entry he).members
  -- both dictionaries are ordered and answer every lookup alike
  have hInsert : e.object.members.insert k m = e.object.members := by
    refine Dict.ext (Dict.ordered_insert hOrdered k m) hOrdered ?_
    intro k'
    rw [Dict.find?_insert]
    split
    · next hk => rw [← hk, hMember]
    · rfl
  rw [putMember, modifyMembers, Dict.modify_eq_self]
  intro e' he'
  cases he.symm.trans he'
  rw [hInsert]

end Table

namespace Act

variable {s s' : Session Code Client} {h v x : Handle} {k : Key} {o : Object Code}

/-- What a store of a member comes to. -/
structure StoreOutcome (s : Session Code Client) (h : Handle) (k : Key) (v : Handle) : Prop where
  /-- The value to be changed is looked at first. -/
  noTarget : s.table.isLive h = false →
    (setMember h k v : Act Code Client ForeignError Unit) s = .error (.stale h) s
  noValue : s.table.isLive h = true → s.table.isLive v = false →
    (setMember h k v : Act Code Client ForeignError Unit) s = .error (.stale v) s
  /-- Nothing else makes it fail. -/
  succeeds : s.table.isLive h = true → s.table.isLive v = true →
    ∃ s', (setMember h k v : Act Code Client ForeignError Unit) s = .ok () s'
  /-- If the value is still there, the member is what was stored, and the rest is as it was. -/
  target : ∀ s', (setMember h k v : Act Code Client ForeignError Unit) s = .ok () s' →
    ∀ o', s'.table.object h = .ok o' →
      ∃ o, s.table.object h = .ok o ∧ o' = { o with members := o'.members } ∧
        o'.members.find? k = some (.data (.handle v)) ∧
        ∀ k', k' ≠ k → o'.members.find? k' = o.members.find? k'
  /-- What is there of the other values is as it was. -/
  others : ∀ s', (setMember h k v : Act Code Client ForeignError Unit) s = .ok () s' →
    ∀ x, x ≠ h → ∀ o', s'.table.object x = .ok o' → s.table.object x = .ok o'
  /-- Storing what is stored already is no change. -/
  same : ∀ o, s.table.object h = .ok o → o.members.find? k = some (.data (.handle v)) →
    ∀ s', (setMember h k v : Act Code Client ForeignError Unit) s = .ok () s' → s' = s

/-- The run of a store whose two handles name something: take, replace, give back. -/
theorem setMember_run {t : Table Code} (ho : s.table.object h = .ok o)
    (hTaken : s.table.retain v = .ok t) :
    (setMember h k v : Act Code Client ForeignError Unit) s =
      (match (o.members.find? k).bind Member.owned? with
        | some old => release old
        | none => Pure.pure () : Act Code Client ForeignError Unit)
        { s with table := t.putMember h k (.data (.handle v)) } := by
  rw [setMember, bind_ok (object_ok ho), bind_ok (onTable_ok hTaken)]
  rfl

/-- A store that goes through has found both handles, and in the end its values are those with the
member stored, less what a cascade has freed. -/
theorem setMember_eq_ok (hs : s.table.WellFormed)
    (hRun : (setMember h k v : Act Code Client ForeignError Unit) s = .ok () s') :
    ∃ o t, s.table.object h = .ok o ∧ s.table.retain v = .ok t ∧
      ∀ x o', s'.table.object x = .ok o' →
        (t.putMember h k (.data (.handle v))).object x = .ok o' := by
  obtain ⟨o, s₁, hObject, hRest⟩ := bind_eq_ok hRun
  obtain ⟨ho, rfl⟩ := object_eq_ok hObject
  obtain ⟨_, s₂, hTake, -⟩ := bind_eq_ok hRest
  obtain ⟨t, hTaken, -⟩ := onTable_eq_ok hTake
  refine ⟨o, t, ho, hTaken, ?_⟩
  have hStored : (t.putMember h k (.data (.handle v))).WellFormed :=
    (hs.retain hTaken).putMember k _
  rw [setMember_run ho hTaken] at hRun
  intro x o' ho'
  -- what is given back last may free values, and makes none
  cases hOld : (o.members.find? k).bind Member.owned? with
  | none =>
    rw [hOld] at hRun
    cases hRun
    exact ho'
  | some old =>
    rw [hOld] at hRun
    cases hRun
    exact Table.object_of_releaseAll hStored ho'

/-- A store comes to what it should, whatever handles it is given. -/
theorem storeOutcome (hs : s.table.WellFormed) (h : Handle) (k : Key) (v : Handle) :
    StoreOutcome s h k v where
  noTarget hDead := (Session.refuses_of_dead hDead).setMember k v
  noValue hLive hDead := (Session.refuses_of_dead hDead).store h k hLive
  succeeds hLive hValue := by
    obtain ⟨e, he⟩ := Table.isLive_iff.mp hLive
    have ho : s.table.object h = .ok e.object := Table.object_eq_ok_iff.mpr ⟨e, he, rfl⟩
    have hTaken := Table.retain_eq_ok_iff.mpr ⟨hValue, rfl⟩
    rw [setMember_run ho hTaken]
    obtain ⟨⟨⟩, s', hDone⟩ := total_release? (ε := ForeignError)
      ((e.object.members.find? k).bind Member.owned?)
      { s with table := Table.putMember _ h k (.data (.handle v)) }
    exact ⟨s', hDone⟩
  target s' hRun o' ho' := by
    obtain ⟨o, t, ho, hTaken, hAfter⟩ := setMember_eq_ok hs hRun
    -- the value that is there in the end is the one before the cascade, with the member stored
    have hMember := Table.object_modifyMembers ((Table.object_retain hTaken h).trans ho)
      (·.insert k (.data (.handle v)))
    cases hMember.symm.trans (hAfter h o' ho')
    refine ⟨o, ho, rfl, ?_, ?_⟩
    · rw [Dict.find?_insert, if_pos rfl]
    · intro k' hk
      rw [Dict.find?_insert, if_neg (Ne.symm hk)]
  others s' hRun x hx o' ho' := by
    obtain ⟨o, t, -, hTaken, hAfter⟩ := setMember_eq_ok hs hRun
    have hStored := hAfter x o' ho'
    rwa [Table.putMember, Table.object_modifyMembers_ne _ hx, Table.object_retain hTaken]
      at hStored
  same o ho hMember s' hRun := by
    obtain ⟨o₁, t, ho₁, hTaken, -⟩ := setMember_eq_ok hs hRun
    obtain rfl : o₁ = o := Except.ok.inj (ho₁.symm.trans ho)
    -- the reference that is taken and the one that is given back are to the same value
    have hBack : (setMember h k v : Act Code Client ForeignError Unit) s =
        .ok () (({ s with table := t } : Session Code Client).release v) := by
      rw [setMember_run ho hTaken, hMember,
        Table.putMember_same (hs.retain hTaken) ((Table.object_retain hTaken h).trans ho) hMember]
      rfl
    rw [Session.release_taken hs hTaken] at hBack
    cases hBack.symm.trans hRun
    rfl

end Act

/-- **All or nothing.** In every table that the operations can make, an operation that fails without
foreign code has changed nothing. A store of a member fails for a stale handle only, and the value
that would be changed is named first; otherwise it changes the one member, if the value is still
there in the end, and no other member of any value. -/
theorem operations_all_or_nothing {s : Session Code Client} (hs : s.table.Reachable) :
    s.Fallible ∧ ∀ h k v, Act.StoreOutcome s h k v :=
  ⟨s.fallible, Act.storeOutcome hs.wellFormed⟩

/-- Two values that hold each other, and nobody else holds either. -/
def exampleMutual : Table Unit :=
  let inner := (Table.insert (.empty none) .plain).2
  let outer := (inner.insert (Object.plain.withMember (.named "b") (.data (.handle ⟨2⟩)))).2
  outer.putMember ⟨2⟩ (.named "a") (.data (.handle ⟨3⟩))

/-- The member of the first value that holds the second is replaced: by the value itself, which then
stays, by another value, with which all is freed, and by what it is. -/
theorem operations_all_or_nothing_cycle :
    let s : Session Unit Unit := .new exampleMutual false ()
    let store (v : Handle) : Act Unit Unit ForeignError Unit := Act.setMember ⟨2⟩ (.named "a") v
    s.table.Reachable ∧ s.Fallible ∧
      (∃ s', store ⟨2⟩ s = .ok () s' ∧
        s'.table.object ⟨2⟩ = .ok (Object.plain.withMember (.named "a") (.data (.handle ⟨2⟩)))) ∧
      (∃ s', store ⟨1⟩ s = .ok () s' ∧ s'.table.isLive ⟨2⟩ = false) ∧
      store ⟨3⟩ s = .ok () s ∧ store ⟨9⟩ s = .error (.stale ⟨9⟩) s := by
  intro s store
  have hs : s.table.Reachable :=
    .putMember (.insert (.insert (.empty none) (by decide)) (by decide)) ⟨2⟩ _ _
  obtain ⟨hFallible, hStore⟩ := operations_all_or_nothing hs
  -- the last store runs into some state, and the law says which
  have hLast : store ⟨3⟩ s = .ok () ((store ⟨3⟩).after s) := Act.eq_ok_after (by decide +kernel)
  have hSame := (hStore ⟨2⟩ (.named "a") ⟨3⟩).same _ rfl (by decide) _ hLast
  rw [hSame] at hLast
  exact ⟨hs, hFallible, ⟨_, Act.eq_ok_after (by decide +kernel), by decide +kernel⟩,
    ⟨_, Act.eq_ok_after (by decide +kernel), by decide +kernel⟩, hLast,
    (hStore ⟨2⟩ (.named "a") ⟨9⟩).noValue (by decide) (by decide)⟩

end ProxyBridge
