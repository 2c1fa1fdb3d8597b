import ProxyBridge.Proofs.Balance

/-!
# Actions that keep the accounts

An action that keeps the accounts uses up loose references, `come`, and leaves others behind,
`gone`, which depend on its result. An action that fails uses up the same and leaves nothing. What
else is held or loose stays as it is, and so do the references of all owners: this is the frame
that lets a proof about an operation follow the text of the operation.

* `Act.Balanced` — in terms of the surplus: an action adds what comes with its result, and no more.
* `Act.Keeps` — in terms of the accounts; `Act.balanced_iff_keeps` relates the two.
* `Keeps.bind`, `Keeps.onError`, `Keeps.foldlM` — a rule for each way of putting actions together.
* `keeps_setMember`, `keeps_deleteMember` — what a member held is given back.
-/

namespace ProxyBridge

variable {Code Client ε α β : Type} {owns : Client → List Handle}

namespace Act

/--
From every sound and solvent session, the action adds to every surplus what its result brings, or
nothing if it fails. Operations under way keep what they hold.
-/
def Balanced (owns : Client → List Handle) (act : Act Code Client ε α) (gain : α → List Handle) :
    Prop :=
  ∀ (held : List Handle) (s : Session Code Client), s.Sound owns held → s.Solvent →
    match act s with
    | .ok a s' => s'.Sound owns held ∧ ∀ h, s'.surplus h = s.surplus h + tally (gain a) h
    | .error _ s' => s'.Sound owns held ∧ ∀ h, s'.surplus h = s.surplus h

/-- The action uses up loose references, and leaves others if it succeeds. -/
def Keeps (owns : Client → List Handle) (act : Act Code Client ε α) (come : List Handle)
    (gone : α → List Handle) : Prop :=
  ∀ (held : List Handle) (loose : Handle → Nat),
    Ensures (Session.Accounted owns held (loose + tally come)) act
      (fun a => Session.Accounted owns held (loose + tally (gone a)))
      (fun _ => Session.Accounted owns held loose)

theorem balanced_iff_keeps {act : Act Code Client ε α} {gain : α → List Handle} :
    act.Balanced owns gain ↔ act.Keeps owns [] gain := by
  constructor
  · intro hAct held loose s hs
    obtain ⟨hSound, hLoose⟩ := Session.accounted_iff.mp hs
    have hRun := hAct held s hSound hs.solvent
    cases h : act s with
    | ok a s' =>
      rw [h] at hRun
      refine Session.accounted_iff.mpr ⟨hRun.1, fun x => ?_⟩
      rw [hRun.2, hLoose, Pi.add_apply, Pi.add_apply, tally_nil]
      push_cast
      omega
    | error e s' =>
      rw [h] at hRun
      refine Session.accounted_iff.mpr ⟨hRun.1, fun x => ?_⟩
      rw [hRun.2, hLoose, Pi.add_apply, tally_nil, Nat.add_zero]
  · intro hAct held s hs hn
    obtain ⟨loose, hStart⟩ := hn.exists_loose
    have hRun := hAct held loose s (Session.accounted_iff.mpr ⟨hs, hStart⟩)
    cases h : act s with
    | ok a s' =>
      rw [h] at hRun
      obtain ⟨hSound, hLoose⟩ := Session.accounted_iff.mp hRun
      refine ⟨hSound, fun x => ?_⟩
      rw [hLoose, hStart, Pi.add_apply]
      push_cast
      rfl
    | error e s' =>
      rw [h] at hRun
      obtain ⟨hSound, hLoose⟩ := Session.accounted_iff.mp hRun
      refine ⟨hSound, fun x => ?_⟩
      rw [hLoose, hStart]

namespace Keeps

variable {act : Act Code Client ε α} {come : List Handle} {gone : α → List Handle}

/-! ## How actions are put together -/

theorem pure (a : α) (gone : α → List Handle) :
    Keeps owns (Pure.pure a : Act Code Client ε α) (gone a) gone :=
  fun held loose =>
    Ensures.pure (Q := fun a => Session.Accounted owns held (loose + tally (gone a))) a

theorem throw (e : ε) (gone : α → List Handle) :
    Keeps owns (MonadExcept.throw e : Act Code Client ε α) [] gone :=
  fun held loose => Ensures.throw (E := fun _ => Session.Accounted owns held loose) e

theorem bind {f : α → Act Code Client ε β} {gone' : β → List Handle}
    (h : act.Keeps owns come gone) (hf : ∀ a, (f a).Keeps owns (gone a) gone') :
    (act >>= f).Keeps owns come gone' :=
  fun held loose => (h held loose).bind fun a => hf a held loose

theorem get_bind {f : Session Code Client → Act Code Client ε α}
    (h : ∀ s, (f s).Keeps owns come gone) : Keeps owns (MonadState.get >>= f) come gone :=
  fun held loose => Ensures.get_bind fun s =>
    (h s held loose).mono (fun _ hs => hs.2) (fun _ _ hs => hs) fun _ _ hs => hs

theorem modify {f : Session Code Client → Session Code Client}
    (h : ∀ held loose s, Session.Accounted owns held (loose + tally come) s →
      (f s).Accounted owns held loose) :
    Keeps owns (modifyGet fun s => (PUnit.unit, f s) : Act Code Client ε PUnit) come fun _ => [] :=
  fun held loose s hs => h held loose s hs

theorem mapError {ε' : Type} (h : act.Keeps owns come gone) (f : ε → ε') :
    (act.mapError f).Keeps owns come gone :=
  fun held loose =>
    Ensures.mapError (E := fun _ => Session.Accounted owns held loose) (h held loose)

theorem foreign {act : Act Code Client ForeignError α} (h : act.Keeps owns come gone) :
    act.foreign.Keeps owns come gone :=
  h.mapError _

theorem onError {f : ε → Session Code Client → Session Code Client}
    (h : act.Keeps owns come gone)
    (hf : ∀ held loose e s, Session.Accounted owns held loose s →
      (f e s).Accounted owns held loose) : (act.onError f).Keeps owns come gone :=
  fun held loose => Ensures.onError <|
    (h held loose).mono (fun _ hs => hs) (fun _ _ hs => hs) (hf held loose)

theorem ofExcept (r : Except ε α) :
    (Act.ofExcept r : Act Code Client ε α).Keeps owns [] fun _ => [] :=
  fun _ _ => Ensures.ofExcept (fun _ _ _ hs => hs) fun _ _ _ hs => hs

theorem foldlM {γ : Type} {f : β → γ → Act Code Client ε β}
    (h : ∀ b c, (f b c).Keeps owns [] fun _ => []) (l : List γ) (b : β) :
    (l.foldlM f b).Keeps owns [] fun _ => [] :=
  fun held loose => Ensures.foldlM l b fun b c _ => h b c held loose

/-! ## The table -/

/-- A change of the table alone, which leaves references to whoever asked for it. -/
theorem onTable {f : Table Code → Except ε (Table Code)} {gone : List Handle}
    (h : ∀ t u claims, t.Accounted claims → f t = .ok u → u.Accounted (claims + tally gone)) :
    Keeps owns (Act.onTable f : Act Code Client ε Unit) [] fun _ => gone := by
  intro held loose s hs
  rw [Act.onTable]
  cases hu : f s.table with
  | error e => exact hs
  | ok u =>
    have ht := h s.table u (tally s.owned + loose) hs.table hu
    rw [add_assoc] at ht
    exact hs.setTable ht

end Keeps

/-! ## References -/

theorem keeps_retain (h : Handle) :
    Keeps owns (onTable (·.retain h) : Act Code Client ForeignError Unit) [] fun _ => [h] :=
  Keeps.onTable fun _ _ _ ht hu => ht.retain hu

theorem keeps_duplicate (h : Handle) :
    Keeps owns (onTable (·.duplicate h) : Act Code Client ForeignError Unit) [] fun _ => [h] :=
  Keeps.onTable fun _ _ _ ht hu => ht.retain (Table.retain_of_duplicate hu)

theorem keeps_release (h : Handle) :
    Keeps owns (release h : Act Code Client ε Unit) [h] fun _ => [] :=
  Keeps.modify fun _ _ _ hs => hs.release

/-- A value that holds nothing is stored, and the caller has a reference to it. -/
theorem keeps_insert {o : Object Code} (ho : o.members = []) :
    Keeps owns (insert o : Act Code Client ε Handle) [] fun h => [h] := by
  intro held loose s hs
  have ht := hs.table.insert_free (by rw [ho]; exact .nil) (by rw [Object.owned, ho]; rfl)
  rw [add_assoc] at ht
  exact (hs.setTable ht).emit _

/-- A reference that the caller got is owned while the action runs, and then given back. -/
theorem Keeps.holding {act : Act Code Client ε α} {gone : α → List Handle} (h : Handle)
    (hAct : act.Keeps owns [] gone) : (Act.holding h act).Keeps owns [h] gone := by
  intro held loose s hs
  have hRun := hAct (h :: held) loose (s.adopt h) hs.adopt
  rw [Act.holding]
  cases hr : act (s.adopt h) with
  | ok a s' =>
    rw [hr] at hRun
    exact Session.Accounted.letGo hRun
  | error e s' =>
    rw [hr] at hRun
    exact Session.Accounted.letGo hRun

/-- A reference is taken and owned, or nothing happens. -/
theorem ensures_own (h : Handle) (held : List Handle) (loose : Handle → Nat) :
    Ensures (Session.Accounted owns held loose) (own h : Act Code Client ForeignError Unit)
      (fun _ => Session.Accounted owns (h :: held) loose)
      fun _ => Session.Accounted owns held loose :=
  (keeps_duplicate h held loose).bind fun _ _ hs => Session.Accounted.adopt hs

theorem ensures_ownReceiver (r : Option Handle) (held : List Handle) (loose : Handle → Nat) :
    Ensures (Session.Accounted owns held loose)
      (ownReceiver r : Act Code Client ForeignError Unit)
      (fun _ => Session.Accounted owns (r.toList ++ held) loose)
      fun _ => Session.Accounted owns held loose := by
  cases r with
  | none => exact fun _ hs => hs
  | some h => exact ensures_own h held loose

/-! ## Members -/

theorem keeps_object (h : Handle) :
    Keeps owns (object h : Act Code Client ForeignError (Object Code)) [] fun _ => [] :=
  fun held loose s hs => Keeps.ofExcept (s.table.object h) held loose s hs

theorem keeps_tagOf (h : Handle) :
    Keeps owns (tagOf h : Act Code Client ForeignError Tag) [] fun _ => [] :=
  (keeps_object h).bind fun _ => Keeps.pure _ fun _ => []

theorem keeps_memberNames (h : Handle) :
    Keeps owns (memberNames h : Act Code Client ForeignError (List String)) [] fun _ => [] :=
  (keeps_object h).bind fun _ => Keeps.pure _ fun _ => []

/-- The reference that comes with a value becomes one to the handle that stands for it. -/
theorem keeps_materialize (v : Value) :
    Keeps owns (materialize v : Act Code Client ForeignError Handle) v.held fun h => [h] := by
  cases v with
  | handle h => exact Keeps.pure h fun h => [h]
  | number x => exact keeps_insert rfl
  -- the handle of `undefined` is shared, so a result that is undefined takes a reference to it
  | undefined => exact (keeps_retain _).bind fun _ => Keeps.pure _ fun h => [h]

/-- What a member held is given back, if it held anything. -/
theorem keeps_release? (r : Option Handle) :
    Keeps owns (match r with
      | some h => release h
      | none => Pure.pure () : Act Code Client ForeignError Unit) r.toList fun _ => [] := by
  cases r with
  | none => exact Keeps.pure () fun _ => []
  | some h => exact keeps_release h

theorem ensures_object (h : Handle) (P : Session Code Client → Prop) :
    Ensures P (object h) (fun o s => P s ∧ s.table.object h = .ok o) fun _ => P := by
  intro s hs
  simp only [object, ofExcept]
  cases ho : s.table.object h with
  | error e => exact hs
  | ok o => exact ⟨hs, ho⟩

/-- A member takes over a reference to what is stored in it. -/
theorem keeps_setMember (h : Handle) (k : Key) (v : Handle) :
    Keeps owns (setMember h k v : Act Code Client ForeignError Unit) [] fun _ => [] := by
  intro held loose
  refine (ensures_object h _).bind fun o => ?_
  -- the object is still the one that was looked up when the reference to the value is taken
  have hRetain : Ensures
      (fun s : Session Code Client =>
        s.Accounted owns held loose ∧ s.table.object h = .ok o)
      (onTable (·.retain v))
      (fun _ s => s.Accounted owns held (loose + tally [v]) ∧ s.table.object h = .ok o)
      (fun _ => Session.Accounted owns held loose) := by
    rintro s ⟨hs, ho⟩
    have hRun := keeps_retain v held loose s hs
    rw [onTable] at hRun ⊢
    cases hu : s.table.retain v with
    | error e => exact hs
    | ok u =>
      rw [hu] at hRun
      exact ⟨hRun, (Table.object_retain hu h).trans ho⟩
  -- the new member takes the reference to the value over, and sets free what the old one held
  refine hRetain.bind fun _ => Ensures.bind (Q := fun _ =>
    Session.Accounted owns held (loose + tally (o.heldAt k))) ?_ fun _ => ?_
  · rintro s ⟨hs, ho⟩
    obtain ⟨e, he, rfl⟩ := Table.object_eq_ok_iff.mp ho
    have ht : s.table.Accounted (tally s.owned + loose + tally
        (.data (.handle v) : Member Code).held) := by
      rw [add_assoc]
      exact hs.table
    have hu := ht.putMember he k
    rw [add_assoc] at hu
    exact hs.setTable hu
  · exact keeps_release? _ held loose

/-- What a member held is given back when the member is removed. -/
theorem keeps_deleteMember (h : Handle) (k : Key) :
    Keeps owns (deleteMember h k : Act Code Client ForeignError Bool) [] fun _ => [] := by
  intro held loose
  refine (ensures_object h _).bind fun o => Ensures.bind (Q := fun _ =>
    Session.Accounted owns held (loose + tally (o.heldAt k))) ?_ fun _ => ?_
  · rintro s ⟨hs, ho⟩
    obtain ⟨e, he, rfl⟩ := Table.object_eq_ok_iff.mp ho
    have hu := hs.table.dropMember he k
    rw [add_assoc] at hu
    exact hs.setTable hu
  · rw [Object.heldAt]
    cases o.members.find? k with
    | none => exact Keeps.pure false (fun _ => []) held loose
    | some m =>
      dsimp only [Option.bind_some]
      cases m.owned? with
      | none => exact Keeps.pure true (fun _ => []) held loose
      | some old =>
        exact (keeps_release old).bind (fun _ => Keeps.pure true fun _ => []) held loose

end Act

end ProxyBridge
