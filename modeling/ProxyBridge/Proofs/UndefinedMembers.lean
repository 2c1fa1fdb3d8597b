import ProxyBridge.Proofs.Atomicity
import ProxyBridge.Proofs.CallBinding

/-!
# Members that are undefined

Foreign code can return `undefined`, and whoever needs a handle for it gets that of the pinned
value. So a member can be undefined in two forms. It is *bare* if it is missing, is stored as
`undefined`, or has a getter that returns it; it is *pinned* if it is stored as a handle of the
pinned value, or has a getter that returns one. A result of a call is in the second form as soon as
there is a handle for it, and so is a member that it was stored as.

Only the first form counts as missing. A member in the second form is found: a host that asks for it
gets its own nothing, where for the first form it is told that there is no such member.

## Results

* `Environment.Bare`, `Environment.Pinned` — the two forms, with the ways in which each comes about.
* `Environment.member_eq_none_iff` — a member is missing if it is bare, and only then.
* `Environment.getAttr_pinned`, `Environment.getItem_pinned` — what the host gets for the other.
* `undefined_by_form` — both forms, on every route that a value can take.
* `undefined_result_found` — a result that was stored, and is found again.
-/

namespace ProxyBridge

variable {Code Client Mind : Type}

open Session

namespace Environment

/-! ## The two forms -/

section Forms

variable (env : Environment Code Client) (h : Handle) (k : Key) (s : Session Code Client)

/-- A member is undefined, and there is nothing to count. -/
inductive Bare : Session Code Client → Prop where
  | missing {o : Object Code} (ho : s.table.object h = .ok o) (hMember : o.members.find? k = none) :
    Bare s
  | stored {o : Object Code} (ho : s.table.object h = .ok o)
    (hMember : o.members.find? k = some (.data .undefined)) : Bare s
  | computed {o : Object Code} {getter : Code} {s' : Session Code Client}
    (ho : s.table.object h = .ok o) (hMember : o.members.find? k = some (.accessor getter))
    (hRun : env.run getter none [] s = .ok .undefined s') : Bare s'

/-- A member is a handle of the pinned value, which comes with a reference. -/
inductive Pinned : Session Code Client → Prop where
  | stored {o : Object Code} {t : Table Code} (ho : s.table.object h = .ok o)
    (hMember : o.members.find? k = some (.data (.handle Handle.undefined)))
    (hTaken : s.table.retain Handle.undefined = .ok t) : Pinned { s with table := t }
  | computed {o : Object Code} {getter : Code} {s' : Session Code Client}
    (ho : s.table.object h = .ok o) (hMember : o.members.find? k = some (.accessor getter))
    (hRun : env.run getter none [] s = .ok (.handle Handle.undefined) s') : Pinned s'

end Forms

section Reads

variable {env : Environment Code Client} {h : Handle} {k : Key} {s s' : Session Code Client}

theorem Bare.read (hBare : env.Bare h k s s') : env.read h k s = .ok .undefined s' := by
  unfold Environment.read
  cases hBare with
  | missing ho hMember =>
    rw [Act.bind_ok (Act.object_ok ho), hMember]
    rfl
  | stored ho hMember =>
    rw [Act.bind_ok (Act.object_ok ho), hMember]
    rfl
  | computed ho hMember hRun =>
    rw [Act.bind_ok (Act.object_ok ho), hMember]
    exact hRun

theorem Pinned.read (hPinned : env.Pinned h k s s') :
    env.read h k s = .ok (.handle Handle.undefined) s' := by
  unfold Environment.read
  cases hPinned with
  | stored ho hMember hTaken =>
    rw [Act.bind_ok (Act.object_ok ho), hMember]
    exact Act.bind_ok (Act.onTable_ok hTaken)
  | computed ho hMember hRun =>
    rw [Act.bind_ok (Act.object_ok ho), hMember]
    exact hRun

/-- A read yields a bare `undefined` in no other way. -/
theorem bare_of_read (hRead : env.read h k s = .ok .undefined s') : env.Bare h k s s' := by
  unfold Environment.read at hRead
  cases ho : s.table.object h with
  | error e =>
    rw [Act.bind_error (Act.object_error ho)] at hRead
    cases hRead
  | ok o =>
    rw [Act.bind_ok (Act.object_ok ho)] at hRead
    cases hMember : o.members.find? k with
    | none =>
      rw [hMember] at hRead
      cases hRead
      exact .missing ho hMember
    | some m =>
      rw [hMember] at hRead
      cases m with
      | accessor getter => exact .computed ho hMember hRead
      | data v =>
        cases v with
        | undefined =>
          cases hRead
          exact .stored ho hMember
        | number x => cases hRead
        | handle m =>
          -- whatever the handle names, it is not a bare value
          obtain ⟨_, _, -, hEnd⟩ := Act.bind_eq_ok hRead
          cases hEnd

/-- A member counts as missing if it is undefined in the first form, and only then. -/
theorem member_eq_none_iff : env.member h k s = .ok none s' ↔ env.Bare h k s s' := by
  constructor
  · intro hRun
    obtain ⟨v, s₁, hRead, hRest⟩ := Act.bind_eq_ok hRun
    cases v with
    | undefined =>
      cases hRest
      exact bare_of_read hRead
    -- whatever else was read becomes a handle, and is found
    | number x =>
      obtain ⟨_, _, -, hEnd⟩ := Act.bind_eq_ok hRest
      cases hEnd
    | handle m =>
      obtain ⟨_, _, -, hEnd⟩ := Act.bind_eq_ok hRest
      cases hEnd
  · intro hBare
    rw [member, Act.bind_ok hBare.read]
    rfl

/-- In the second form it is found. -/
theorem member_of_pinned (hPinned : env.Pinned h k s s') :
    env.member h k s = .ok (some Handle.undefined) s' := by
  rw [member, Act.bind_ok hPinned.read]
  rfl

end Reads

/-! ## What the host gets -/

section Host

variable {env : Environment Code Client} {p : Proxy} {name : String} {o : Object Code}
  {s s' : Session Code Client}

theorem getAttr_bare (hSlot : p.shape.hasSlot Slots.getAttr = true)
    (hBare : env.Bare p.value (.named name) s s') :
    env.getAttr p name s = .error (.noSuchProperty name) s' := by
  rw [getAttr, Act.bind_ok (Act.require_ok hSlot),
    Act.bind_ok (Act.foreign_ok (member_eq_none_iff.mpr hBare))]
  rfl

theorem getItem_bare (hSlot : p.shape.hasSlot Slots.mapping = true)
    (hBare : env.Bare p.value (.named name) s s') :
    env.getItem p name s = .error (.noSuchProperty name) s' := by
  rw [getItem, Act.bind_ok (Act.require_ok hSlot),
    Act.bind_ok (Act.foreign_ok (member_eq_none_iff.mpr hBare))]
  rfl

/-- The host gets nothing, and the reference of the read is given back. -/
theorem getItem_pinned (hSlot : p.shape.hasSlot Slots.mapping = true)
    (hPinned : env.Pinned p.value (.named name) s s')
    (ho : s'.table.object Handle.undefined = .ok o) (hTag : o.tag = .undefined) :
    env.getItem p name s =
      .ok .none ((s'.adopt Handle.undefined).letGo Handle.undefined) := by
  rw [getItem, Act.bind_ok (Act.require_ok hSlot),
    Act.bind_ok (Act.foreign_ok (member_of_pinned hPinned))]
  exact (env.holding_toHost p.bridge Handle.undefined s').trans
    (env.settle_nothing ho (Or.inl hTag) p.bridge)

/-- The pinned value is no function, so an attribute is handed on like an item. -/
theorem getAttr_pinned (hSlot : p.shape.hasSlot Slots.getAttr = true)
    (hPinned : env.Pinned p.value (.named name) s s')
    (ho : s'.table.object Handle.undefined = .ok o) (hTag : o.tag = .undefined) :
    env.getAttr p name s =
      .ok .none ((s'.adopt Handle.undefined).letGo Handle.undefined) := by
  rw [getAttr, Act.bind_ok (Act.require_ok hSlot),
    Act.bind_ok (Act.foreign_ok (member_of_pinned hPinned)),
    ← env.settle_nothing ho (Or.inl hTag) p.bridge, ← env.holding_toHost]
  have hAsk : Act.foreign (Act.tagOf Handle.undefined) (s'.adopt Handle.undefined) =
      .ok o.tag (s'.adopt Handle.undefined) := Act.foreign_ok (Act.bind_ok (Act.object_ok ho))
  -- only a function would be bound to the value that it was read from
  dsimp only
  rw [Act.holding, Act.holding, Act.bind_ok hAsk, hTag]
  rfl

end Host

end Environment

/-! ## Every route -/

/-- What becomes of members that are undefined, by their form. -/
structure Environment.ByForm (env : Environment Code Client) (s : Session Code Client) : Prop where
  /-- Only a bare one is missing. -/
  missing : ∀ h k s', env.member h k s = .ok none s' ↔ env.Bare h k s s'
  found : ∀ h k s', env.Pinned h k s s' → env.member h k s = .ok (some Handle.undefined) s'
  attributeMissing : ∀ p name s', p.shape.hasSlot Slots.getAttr = true →
    env.Bare p.value (.named name) s s' → env.getAttr p name s = .error (.noSuchProperty name) s'
  attributeFound : ∀ p name s', p.shape.hasSlot Slots.getAttr = true →
    env.Pinned p.value (.named name) s s' →
      env.getAttr p name s = .ok .none ((s'.adopt Handle.undefined).letGo Handle.undefined)
  itemMissing : ∀ p name s', p.shape.hasSlot Slots.mapping = true →
    env.Bare p.value (.named name) s s' → env.getItem p name s = .error (.noSuchProperty name) s'
  itemFound : ∀ p name s', p.shape.hasSlot Slots.mapping = true →
    env.Pinned p.value (.named name) s s' →
      env.getItem p name s = .ok .none ((s'.adopt Handle.undefined).letGo Handle.undefined)
  /-- A bare result of a call has a handle from then on, and a member that it is stored as is
  pinned. -/
  result : ∀ f o body receiver args s₁, s.table.object f = .ok o → o.body = some body →
    env.run body receiver args s = .ok .undefined s₁ →
      ∃ s₂, env.invoke f receiver args s = .ok Handle.undefined s₂ ∧
        ∀ h k s₃, (Act.setMember h k Handle.undefined : Act Code Client ForeignError Unit) s₂ =
          .ok () s₃ → s₃.table.isLive h = true → ∃ s₄, env.Pinned h k s₃ s₄

/-- A member that was stored as the pinned value is read as it. -/
theorem Environment.pinned_of_setMember (env : Environment Code Client)
    {s s' : Session Code Client} {h : Handle} {k : Key} (hs : s.table.WellFormed)
    (hs' : s'.table.WellFormed)
    (hRun : (Act.setMember h k Handle.undefined : Act Code Client ForeignError Unit) s = .ok () s')
    (hLive : s'.table.isLive h = true) : ∃ s'', env.Pinned h k s' s'' := by
  obtain ⟨e, he⟩ := Table.isLive_iff.mp hLive
  have ho : s'.table.object h = .ok e.object := Table.object_eq_ok_iff.mpr ⟨e, he, rfl⟩
  obtain ⟨-, -, -, hMember, -⟩ :=
    (Act.storeOutcome hs h k Handle.undefined).target s' hRun e.object ho
  have hTaken := Table.retain_eq_ok_iff.mpr ⟨hs'.pinned, rfl⟩
  exact ⟨_, .stored ho hMember hTaken⟩

/--
**A member that is undefined is missing only if it is bare.** At every moment of a run, whatever
foreign code does in between: a read finds no member if it is not there, is stored as `undefined`,
or has a getter that returns this; and the host is told so. If the member is a handle of the pinned
value instead, stored or returned by a getter, then it is found, and the host gets its own nothing.
A call that returns `undefined` hands out such a handle, so its result is found again once it is
stored.
-/
theorem undefined_by_form {limit : Option Nat} {timing : Bool} {mind : Mind} {s : World Code Mind}
    (hStart : Path Memory.shapes (World.new (Table.empty limit) timing mind) s)
    {env : Environment Code (Memory Mind)} (hEnv : env.Walks Memory.shapes) : env.ByForm s := by
  have hTable : (Table.empty limit : Table Code).WellFormed := Table.wellFormed_empty limit
  -- no run takes the pinned value away, foreign code included
  have hObject {h : Handle} {k : Key} {s' : World Code Mind} (hPinned : env.Pinned h k s s') :
      ∃ o, s'.table.object Handle.undefined = .ok o ∧ o.tag = .undefined := by
    have hLater := hStart.trans ((hEnv.read h k).path_ok hPinned.read)
    obtain ⟨e, he, hTag⟩ := (World.counted_of_path hLater).undefined
    exact ⟨e.object, Table.object_eq_ok_iff.mpr ⟨e, he, rfl⟩, hTag⟩
  constructor
  case missing => exact fun h k s' => Environment.member_eq_none_iff
  case found => exact fun h k s' => Environment.member_of_pinned
  case attributeMissing => exact fun p name s' => Environment.getAttr_bare
  case itemMissing => exact fun p name s' => Environment.getItem_bare
  case attributeFound =>
    intro p name s' hSlot hPinned
    obtain ⟨o, ho, hTag⟩ := hObject hPinned
    exact Environment.getAttr_pinned hSlot hPinned ho hTag
  case itemFound =>
    intro p name s' hSlot hPinned
    obtain ⟨o, ho, hTag⟩ := hObject hPinned
    exact Environment.getItem_pinned hSlot hPinned ho hTag
  case result =>
    intro f o body receiver args s₁ ho hBody hRun
    -- the body has run, and its result gets a handle in a table that still has the pinned value
    have hBetween := hStart.trans ((hEnv.run body receiver args).path_ok hRun)
    obtain ⟨s₂, -, hResult, -⟩ :=
      Environment.materialize_undefined (World.counted_of_path hBetween)
    have hInvoke : env.invoke f receiver args s = .ok Handle.undefined s₂ := by
      rw [Environment.invoke, Act.bind_ok (Act.object_ok ho), hBody]
      exact (Act.bind_ok hRun).trans hResult
    refine ⟨s₂, hInvoke, ?_⟩
    -- the store may free the value that was written, and then there is nothing to read
    intro h k s₃ hStore hLive
    have hAfter := hStart.trans ((hEnv.invoke f receiver args).path_ok hInvoke)
    have hLater := hAfter.trans ((Act.walks_setMember h k Handle.undefined).path_ok hStore)
    exact env.pinned_of_setMember (Path.wellFormed hAfter hTable) (Path.wellFormed hLater hTable)
      hStore hLive

/-- Foreign code that returns `undefined`. -/
def exampleVoid : Library Unit Unit where
  body _ _ _ := { calls := fun _ => [], result := fun _ => .ok .undefined }
  probe _ _ _ := { calls := fun _ => [], result := fun _ => .ok true }

/-- A bridge over the standard catalog, a function, and a value with a proxy. -/
def exampleVoidCalls : List (Call Unit Unit) :=
  [.command (.openBridge .standard {}), .command (.insert (.function ())),
    .command (.insert .plain), .command (.create 0 ⟨3⟩ none)]

/-- Calls the function, and stores its result as a member of the value. -/
def exampleStoring : Act Unit (Memory Unit) ForeignError Unit := do
  let result ← (exampleVoid.environment 1).invoke ⟨2⟩ none []
  Act.setMember ⟨3⟩ (.named "a") result

/-- The member that the result was stored as is pinned. -/
theorem undefined_by_form_void :
    let env := exampleVoid.environment 1
    let s := Call.performAll env exampleVoidCalls (World.new (.empty none) false ())
    let s' := exampleStoring.after s
    env.ByForm s ∧ exampleStoring s = .ok () s' ∧ ∃ s'', env.Pinned ⟨3⟩ (.named "a") s' s'' := by
  intro env s s'
  have hWalks := exampleVoid.walks_environment 1
  have hStart := Call.path_performAll hWalks exampleVoidCalls (World.new (.empty none) false ())
  have hForm := undefined_by_form hStart hWalks
  have hRun : exampleStoring s = .ok () s' := Act.eq_ok_after (by decide +kernel)
  obtain ⟨s₂, hInvoke, hStored⟩ := hForm.result ⟨2⟩ _ () none [] s rfl rfl rfl
  -- the store is what is left of the run when the call is taken off
  refine ⟨hForm, hRun, hStored ⟨3⟩ (.named "a") s' ?_ (by decide +kernel)⟩
  rw [exampleStoring, Act.bind_ok hInvoke] at hRun
  exact hRun

/-- The proxy of the value, whose shape is the plain one. -/
def examplePlainProxy : Proxy where
  bridge := 0
  shape := .compose (Catalog.standard : Catalog Unit) 0 0 0#32
  value := ⟨3⟩
  receiver := none

/-- A result that is undefined, stored as a member: the member is found, and the host gets nothing
for it. Of a member that is not there it is told so. -/
theorem undefined_result_found :
    let env := exampleVoid.environment 1
    let s := Call.performAll env exampleVoidCalls (World.new (.empty none) false ())
    let s' := exampleStoring.after s
    exampleStoring s = .ok () s' ∧ s'.proxies.find? 0 = some examplePlainProxy ∧
      (∃ s'', env.member ⟨3⟩ (.named "a") s' = .ok (some Handle.undefined) s'') ∧
      (∃ s'', env.getAttr examplePlainProxy "a" s' = .ok .none s'') ∧
      env.getAttr examplePlainProxy "b" s' = .error (.noSuchProperty "b") s' := by
  intro env s s'
  have ho : s'.table.object ⟨3⟩ =
      .ok (Object.plain.withMember (.named "a") (.data (.handle Handle.undefined))) := by
    decide +kernel
  have hLive : s'.table.isLive Handle.undefined = true := by decide +kernel
  have hTaken := Table.retain_eq_ok_iff.mpr ⟨hLive, rfl⟩
  have hPinned : env.Pinned examplePlainProxy.value (.named "a") s' _ := .stored ho rfl hTaken
  have hMissing : env.Bare ⟨3⟩ (.named "b") s' s' := .missing ho rfl
  have hUndefined : s'.table.object Handle.undefined = .ok (.ofTag .undefined) := by
    decide +kernel
  have hAttribute := Environment.getAttr_pinned (by decide) hPinned
    ((Table.object_retain hTaken _).trans hUndefined) rfl
  exact ⟨Act.eq_ok_after (by decide +kernel), by decide +kernel,
    ⟨_, Environment.member_of_pinned hPinned⟩, ⟨_, hAttribute⟩,
    Environment.getAttr_bare (by decide) hMissing⟩

end ProxyBridge
