import Mathlib.Logic.Function.Basic
import ProxyBridge.Proofs.Composition
import ProxyBridge.Proofs.Covering
import ProxyBridge.Proofs.Creation

/-!
# Maps over the members of a value

Several proxies can stand for one value, and those that are maps edit its members and look at them,
each in its own way: `keys` and `hasItem` list the names, `getItem` reads a member and wraps it,
`deleteItem` asks whether there was something to remove. All of them see one finite map from names
to values, that of the members of the object. What could go wrong is that an edit gives back a
reference, and that the cascade which follows reaches the very object that is edited. It does not,
as long as references are covered: a live proxy owns its value, so the value stays.

## Results

* `Object.memberMap` — the map, as a function of names.
* `Session.MapProxy` — the proxies that are maps; `mapProxy_of_createMap` — where they come from.
* `getItem_spec` — what reading a key comes to, whatever foreign code runs in the wrap.
* `Session.Stores.edit`, `MapRun.stores` — one edit, and a run of edits.
* `objectMap_dictionary` — all proxies that are maps of a value see one map.
-/

namespace ProxyBridge

variable {Code Client Mind ε α : Type}

/-! ## The map of an object -/

theorem Key.lt_of_compare_named {x y : String}
    (h : compare (Key.named x) (Key.named y) = .lt) : x < y := by
  change compareOfLessAndEq x y = .lt at h
  unfold compareOfLessAndEq at h
  split at h
  · assumption
  · split at h <;> cases h

namespace Object

/-- What an object stores under its named keys. -/
def memberMap (o : Object Code) (name : String) : Option Value :=
  match o.members.find? (.named name) with
  | some (.data x) => some x
  | _ => none

/-- All members are stored handles and numbers, as they are unless an accessor was put among them:
`undefined` is stored as a reference to the value of that name. -/
def IsData (o : Object Code) : Prop :=
  ∀ e ∈ o.members, (∃ h, e.2 = .data (.handle h)) ∨ ∃ x, e.2 = .data (.number x)

variable {o : Object Code} {name : String} {m : Member Code}

theorem IsData.find? (ho : o.IsData) (hm : o.members.find? (.named name) = some m) :
    (∃ h, m = .data (.handle h)) ∨ ∃ x, m = .data (.number x) :=
  ho _ (Dict.mem_of_find? hm)

theorem IsData.withMember (ho : o.IsData) (k : Key) (h : Handle) :
    (o.withMember k (.data (.handle h))).IsData := by
  intro e he
  rcases Dict.mem_insert he with rfl | hOld
  · exact Or.inl ⟨h, rfl⟩
  · exact ho e hOld

theorem IsData.erase (ho : o.IsData) (k : Key) :
    IsData { o with members := o.members.erase k } :=
  fun e he => ho e ((Dict.erase_sublist o.members k).subset he)

theorem memberMap_withMember (o : Object Code) (name : String) (x : Value) :
    (o.withMember (.named name) (.data x)).memberMap =
      Function.update o.memberMap name (some x) := by
  funext other
  unfold memberMap withMember
  rw [Dict.find?_insert]
  by_cases hName : other = name
  · subst hName
    simp
  · have hKey : Key.named name ≠ Key.named other := by
      intro hk
      cases hk
      exact hName rfl
    rw [if_neg hKey, Function.update_of_ne hName]

theorem memberMap_erase (ho : o.members.Ordered) (name : String) :
    memberMap { o with members := o.members.erase (.named name) } =
      Function.update o.memberMap name none := by
  funext other
  unfold memberMap
  rw [Dict.find?_erase ho]
  by_cases hName : other = name
  · subst hName
    simp
  · have hKey : Key.named name ≠ Key.named other := by
      intro hk
      cases hk
      exact hName rfl
    rw [if_neg hKey, Function.update_of_ne hName]

/-- Without accessors the keys of the map are those of the object. -/
theorem isSome_memberMap (ho : o.IsData) (name : String) :
    (o.memberMap name).isSome = o.members.contains (.named name) := by
  unfold memberMap Dict.contains
  cases hm : o.members.find? (.named name) with
  | none => rfl
  | some m => rcases ho.find? hm with ⟨h, rfl⟩ | ⟨x, rfl⟩ <;> rfl

theorem mem_memberNames (hOrdered : o.members.Ordered) (ho : o.IsData) :
    name ∈ o.memberNames ↔ (o.memberMap name).isSome = true := by
  rw [isSome_memberMap ho, Dict.contains, Option.isSome_iff_exists, memberNames, List.mem_filterMap]
  constructor
  · rintro ⟨k, hk, hName⟩
    cases k with
    | symbol s => cases hName
    | named other =>
      cases hName
      obtain ⟨e, he, hKey⟩ := List.mem_map.mp hk
      exact ⟨e.2, Dict.find?_of_mem hOrdered (hKey ▸ he)⟩
  · rintro ⟨m, hm⟩
    exact ⟨.named name, List.mem_map.mpr ⟨_, Dict.mem_of_find? hm, rfl⟩, rfl⟩

/-- The names come in the order of their code points. -/
theorem sorted_memberNames (hOrdered : o.members.Ordered) : o.memberNames.Pairwise (· < ·) := by
  rw [Dict.ordered_iff_keys] at hOrdered
  refine List.Pairwise.filterMap _ ?_ hOrdered
  intro a a' hLt b hb b' hb'
  cases a with
  | symbol s => cases hb
  | named x =>
    cases a' with
    | symbol s => cases hb'
    | named y =>
      cases hb
      cases hb'
      exact Key.lt_of_compare_named hLt

end Object

/-! ## Proxies that are maps -/

namespace Session

variable {known : Client → List Shape} {s : Session Code Client}

/-- The proxy is alive, and is a map of the value. -/
structure MapProxy (s : Session Code Client) (v : Handle) (p : Proxy) : Prop where
  live    : p ∈ s.proxies.values
  value   : p.value = v
  asMap   : p.flags.includes Capabilities.objectMap = true
  catalog : ∃ b, s.bridges[p.bridge]? = some b ∧ Catalog.standard.Extends b.catalog

/-- The slots that the standard catalog gives to maps. -/
theorem slots_objectMap : ∃ x : Capability Code,
    Catalog.standard.get? Capabilities.objectMap = some x ∧
      x.slots = Slots.mapping ||| Slots.getItem ||| Slots.setItem ||| Slots.delItem |||
        Slots.contains ||| Slots.iter ||| Slots.length := by
  have hSome : (Catalog.standard : Catalog Code).get? Capabilities.objectMap ≠ none := nofun
  obtain ⟨x, hx⟩ := Option.ne_none_iff_exists'.mp hSome
  refine ⟨x, hx, ?_⟩
  cases hx
  rfl

theorem MapProxy.hasSlot {v : Handle} {p : Proxy} {slot : Slots} (hp : s.MapProxy v p)
    (hs : s.Canonical known) (hComposed : ∀ b ∈ s.bridges, b.Composed)
    (hSlot : Mask.includes (Slots.mapping ||| Slots.getItem ||| Slots.setItem ||| Slots.delItem |||
      Slots.contains ||| Slots.iter ||| Slots.length) slot = true) :
    p.shape.hasSlot slot = true := by
  obtain ⟨b, hb, hSlots⟩ := hs.slots hComposed hp.live
  obtain ⟨c, hc, hExtends⟩ := hp.catalog
  cases hb.symm.trans hc
  obtain ⟨x, hx, hxSlots⟩ := @slots_objectMap Code
  have hMem := Catalog.mem_forMask_of_get? (hExtends.get? hx) hp.asMap
  rw [Shape.hasSlot, hSlots]
  refine Mask.includes_trans ((Catalog.slotsFor_includes _ _).2 x hMem) ?_
  rw [hxSlots]
  exact hSlot

end Session

/-! ## Wraps, from the outside -/

/-- The host value is a live proxy of a foreign value. -/
def Session.Stands (s : Session Code Client) (h : Handle) (x : HostValue) : Prop :=
  ∃ id q, x = .proxy id ∧ s.proxies.find? id = some q ∧ q.value = h

/-- The error is not that a key is missing. -/
def ProxyError.IsOther (e : ProxyError) : Prop := ∀ name, e ≠ .noSuchProperty name

/-- The values that come to the host as nothing. -/
def Tag.IsNothing (t : Tag) : Prop := t = .undefined ∨ t = .null

instance (t : Tag) : Decidable t.IsNothing := inferInstanceAs (Decidable (_ ∨ _))

section Wraps

open Session

variable {known : Client → List Shape} {env : Environment Code Client} {s s' : Session Code Client}
  {i : Nat} {b : Bridge Code}

theorem Act.Walks.ensures_wellFormed {act : Act Code Client ε α} (h : act.Walks known) :
    Act.Ensures (fun s => s.table.WellFormed) act (fun _ s => s.table.WellFormed)
      fun _ s => s.table.WellFormed := by
  intro s hs
  have hRun := h s s .refl
  cases hr : act s with
  | ok a s' =>
    rw [hr] at hRun
    exact Path.wellFormed hRun hs
  | error e s' =>
    rw [hr] at hRun
    exact Path.wellFormed hRun hs

/-- A stage after the shape fails for a foreign reason, or for want of a cell. -/
theorem isOther_of_buildStages {t : Table Code} {heap : Heap} {value : Handle}
    {receiver : Option Handle} {e : ProxyError}
    (h : firstFailure (buildStages t heap value receiver) = some e) : e.IsOther := by
  obtain ⟨stage, hFind, rfl⟩ := Option.map_eq_some_iff.mp h
  have hMem := List.mem_of_find?_eq_some hFind
  have hAll : ∀ stage ∈ buildStages t heap value receiver, stage.2.IsOther := by
    unfold buildStages receiverStages
    cases receiver <;> simp [ProxyError.IsOther, ProxyError.heapFull]
  exact hAll stage hMem

theorem isLive_of_buildStages {t : Table Code} {heap : Heap} {value : Handle}
    {receiver : Option Handle} (h : firstFailure (buildStages t heap value receiver) = none) :
    t.isLive value = true := by
  rw [firstFailure, Option.map_eq_none_iff, List.find?_eq_none] at h
  have hStage := h (t.isLive value, .foreign (.stale value)) (by simp [buildStages])
  simpa using hStage

/-- What is granted is counted on top of what there was. -/
theorem two_le_refcount_of_granted {t u : Table Code} {l : List Handle} {h : Handle}
    (ht : t.WellFormed) (hu : t.Granted l u) (hLive : t.isLive h = true) (hMem : h ∈ l) :
    2 ≤ u.refcount h := by
  obtain ⟨e, he⟩ := Table.isLive_iff.mp hLive
  have hCounted := (ht.entry he).counted
  have hCount : 0 < l.count h := List.count_pos_iff.mpr hMem
  have hEntry := hu.entries h
  rw [he, Option.map_some] at hEntry
  rw [Table.refcount_eq hEntry]
  dsimp only
  omega

/-- A wrap that succeeds makes a proxy of the value, which owns a reference that is not the last. -/
theorem ensures_shapeAndBuild_stands (i : Nat) (flags : Capabilities) (value : Handle)
    (receiver : Option Handle) :
    Act.Ensures (fun s => s.table.WellFormed)
      (Act.shapeAndBuild i flags value receiver none : Act Code Client ProxyError Nat)
      (fun id s => 2 ≤ s.table.refcount value ∧ s.Stands value (.proxy id))
      fun e _ => e.IsOther := by
  intro s hs
  cases hb : s.bridges[i]? with
  | none =>
    rw [Act.shapeAndBuild, Act.bind_error (Act.resolveShape_none hb flags none)]
    intro name h
    cases h
  | some b =>
    obtain ⟨registry, events, -, hShape⟩ := Act.resolveShape_spec hb flags
    rw [Act.shapeAndBuild]
    cases hr : (Act.resolveShape i flags none : Act Code Client ProxyError Shape) s with
    | error e s₁ =>
      rw [hr] at hShape
      obtain ⟨-, rfl, -⟩ := hShape
      rw [Act.bind_error hr]
      intro name h
      cases h
    | ok shape s₁ =>
      rw [hr] at hShape
      obtain ⟨-, -, hs₁⟩ := hShape
      rw [Act.bind_ok hr]
      have hb₁ : s₁.bridges[i]? = some { b with registry } := by
        have hLt := (List.getElem?_eq_some_iff.mp hb).1
        rw [hs₁]
        exact List.getElem?_set_self hLt
      have hTable : s₁.table = s.table := by rw [hs₁]; rfl
      have hBuild := build_spec (hTable ▸ hs) hb₁ shape value receiver
      cases hRun : (Act.build i shape value receiver : Act Code Client ProxyError Nat) s₁ with
      | error e s₂ =>
        rw [hRun] at hBuild
        exact isOther_of_buildStages hBuild.1
      | ok id s₂ =>
        rw [hRun] at hBuild
        obtain ⟨hStages, rfl, hGranted, hRest⟩ := hBuild
        constructor
        · exact two_le_refcount_of_granted (hTable ▸ hs) hGranted (isLive_of_buildStages hStages)
            (by simp)
        · refine ⟨_, { bridge := i, shape, value, receiver }, rfl, ?_, rfl⟩
          rw [hRest, Dict.find?_insert, if_pos rfl]

theorem ensures_createWith_stands (hEnv : env.Walks known) (i : Nat) (value : Handle)
    (receiver : Option Handle) :
    Act.Ensures (fun s => s.table.WellFormed) (env.createWith i value receiver)
      (fun id s => 2 ≤ s.table.refcount value ∧ s.Stands value (.proxy id))
      fun e _ => e.IsOther := by
  have hBridge : Act.Ensures (fun s : Session Code Client => s.table.WellFormed) (Act.bridge i)
      (fun _ s => s.table.WellFormed) fun e _ => e.IsOther := by
    intro s hs
    rw [Act.bridge]
    cases s.bridges[i]? with
    | none =>
      intro name h
      cases h
    | some b => exact hs
  have hForeign (e : ForeignError) : (ProxyError.foreign e).IsOther := by
    intro name h
    cases h
  have hInspect (b : Bridge Code) : Act.Ensures (fun s => s.table.WellFormed)
      (Act.foreign (env.inspect b.catalog value)) (fun _ s => s.table.WellFormed)
      fun e _ => e.IsOther :=
    Act.Ensures.foreign <| (hEnv.inspect b.catalog value).ensures_wellFormed.mono
      (fun _ hs => hs) (fun _ _ hs => hs) fun e _ _ => hForeign e
  exact Act.Ensures.onError <| (hBridge.bind hInspect).bind fun flags =>
    ensures_shapeAndBuild_stands i flags value receiver

/-- A foreign value comes to the host as nothing, or as a proxy of it. -/
theorem toHost_spec (hEnv : env.Walks known) (hs : s.table.WellFormed) {h : Handle}
    {o : Object Code} (ho : s.table.object h = .ok o) (i : Nat) :
    if o.tag.IsNothing then env.toHost i h s = .ok .none s
    else
      match env.toHost i h s with
      | .ok x s' => 2 ≤ s'.table.refcount h ∧ s'.Stands h x
      | .error e _ => e.IsOther := by
  have hTag : Act.foreign (Act.tagOf h) s = .ok o.tag s :=
    Act.foreign_ok (Act.bind_ok (Act.object_ok ho))
  have hCreate := ensures_createWith_stands hEnv i h none s hs
  rw [Environment.toHost, Act.bind_ok hTag]
  -- only the tags of `undefined` and `null` are not wrapped
  have hWrap : match (do return HostValue.proxy (← env.create i h) :
        Act Code Client ProxyError HostValue) s with
      | .ok x s' => 2 ≤ s'.table.refcount h ∧ s'.Stands h x
      | .error e _ => e.IsOther := by
    unfold Environment.create
    cases hr : env.createWith i h none s with
    | ok id s' =>
      rw [hr] at hCreate
      rw [Act.bind_ok hr]
      exact hCreate
    | error e s' =>
      rw [hr] at hCreate
      rw [Act.bind_error hr]
      exact hCreate
  cases o.tag with
  | undefined => exact rfl
  | null => exact rfl
  | _ => exact hWrap

theorem Table.isLive_release {t : Table Code} {h : Handle} (h2 : 2 ≤ t.refcount h) :
    (t.release h).1.isLive h = true := by
  rcases Table.releaseOne_cases t h with ⟨-, hLast⟩ | ⟨e, he, -, hr⟩ | ⟨e, he, h1, -, -⟩
  · -- a handle that is counted twice names a value, and not with its last reference
    cases he : t.entry? h with
    | none =>
      rw [Table.refcount_eq_zero he] at h2
      omega
    | some e =>
      have hOne := (hLast e he).2
      rw [Table.refcount_eq he] at h2
      omega
  · rw [Table.release, Table.releaseAll_alive hr, Table.releaseAll_nil, Table.isLive,
      Table.dropReference_eq_recount, Table.recount, Table.entry?_modifyEntry, if_pos rfl, he]
    rfl
  · rw [Table.refcount_eq he] at h2
    omega

/-- A value that was read comes to the host, and the reference of the read is given back. A proxy of
it keeps it, as the value that it was. -/
theorem holding_toHost_spec (hEnv : env.Walks known) (hs : s.table.WellFormed) {h : Handle}
    {o : Object Code} (ho : s.table.object h = .ok o) (i : Nat) :
    if o.tag.IsNothing then ∃ s', Act.holding h (env.toHost i h) s = .ok .none s'
    else
      match Act.holding h (env.toHost i h) s with
      | .ok x s' => s'.Stands h x ∧
          ∃ o', s'.table.object h = .ok o' ∧ o'.identity = o.identity
      | .error e _ => e.IsOther := by
  have hSpec := toHost_spec (s := s.adopt h) hEnv hs ho i
  have hPath := Act.Walks.holding h (hEnv.toHost i h) s s .refl
  obtain ⟨e₀, he₀, rfl⟩ := Table.object_eq_ok_iff.mp ho
  unfold Act.holding at hPath ⊢
  split at hSpec
  · next hTag =>
    rw [if_pos hTag, hSpec]
    exact ⟨_, rfl⟩
  · next hTag =>
    rw [if_neg hTag]
    cases hr : env.toHost i h (s.adopt h) with
    | error e s' =>
      rw [hr] at hSpec
      exact hSpec
    | ok x s' =>
      rw [hr] at hSpec hPath
      obtain ⟨hCount, hStands⟩ := hSpec
      obtain ⟨e, he⟩ := Table.isLive_iff.mp (Table.isLive_release hCount)
      have hSame := (Path.precedes hPath hs).identity hs he₀ he
      exact ⟨hStands, e.object, Table.object_eq_ok_iff.mpr ⟨e, he, rfl⟩, hSame⟩

end Wraps

/-! ## Reading keys -/

/-- What comes of reading a key under which a value is stored, or none: an error that says so if
there is none; nothing, for `undefined` and `null`; and else a proxy, of the stored value or of a
new number, unless the wrap fails. -/
def Session.Yields (s : Session Code Client) (name : String) :
    Option Value → EStateM.Result ProxyError (Session Code Client) HostValue → Prop
  | some (.handle h), r => ∃ o, s.table.object h = .ok o ∧
      if o.tag.IsNothing then ∃ s', r = .ok .none s'
      else
        match r with
        | .ok x s' => s'.Stands h x
        | .error e _ => e.IsOther
  | some (.number y), .ok x s' => s'.Stands ⟨s.table.nextId⟩ x ∧
      s'.table.number? ⟨s.table.nextId⟩ = some y
  | some (.number _), .error e _ => e.IsOther
  | some .undefined, _ => False
  | none, r => r = .error (.noSuchProperty name) s

section Reading

open Session

variable {known : Client → List Shape} {env : Environment Code Client} {s : Session Code Client}
  {p : Proxy} {name : String} {o : Object Code}

theorem Act.require_ok {slot : Slots} (h : p.shape.hasSlot slot = true) :
    (Act.require p slot : Act Code Client ProxyError Unit) s = .ok () s := by
  unfold Act.require Shape.require
  rw [if_pos h]
  rfl

theorem getItem_spec (hEnv : env.Walks known) (hSlot : p.shape.hasSlot Slots.mapping = true)
    (hs : s.table.Covers (tally s.owned)) (ho : s.table.object p.value = .ok o) (hData : o.IsData)
    (name : String) : s.Yields name (o.memberMap name) (env.getItem p name s) := by
  have hObject := Act.object_ok ho
  have hRequire : (Act.require p Slots.mapping : Act Code Client ProxyError Unit) s = .ok () s :=
    Act.require_ok hSlot
  rw [Environment.getItem, Act.bind_ok hRequire]
  unfold Object.memberMap
  cases hm : o.members.find? (.named name) with
  | none =>
    have hMember : env.member p.value (.named name) s = .ok none s := by
      have hRead : env.read p.value (.named name) s = .ok .undefined s := by
        rw [Environment.read, Act.bind_ok hObject, hm]
        rfl
      rw [Environment.member, Act.bind_ok hRead]
      rfl
    rw [Act.bind_ok (Act.foreign_ok hMember)]
    exact rfl
  | some m =>
    rcases hData.find? hm with ⟨h, rfl⟩ | ⟨y, rfl⟩
    · -- a stored handle is held by the value, so there is something to refer to
      obtain ⟨e, he, rfl⟩ := Table.object_eq_ok_iff.mp ho
      have hHeld : h ∈ e.object.owned :=
        List.mem_filterMap.mpr ⟨_, List.mem_map.mpr ⟨_, Dict.mem_of_find? hm, rfl⟩, rfl⟩
      have hLive := hs.isLive_of_held he hHeld
      have hRetain := Table.retain_eq_ok_iff.mpr ⟨hLive, rfl⟩
      generalize s.table.recount h (· + 1) (s.table.outstanding + 1) = u at hRetain
      have hMember : env.member p.value (.named name) s = .ok (some h) { s with table := u } := by
        have hRead : env.read p.value (.named name) s = .ok (.handle h) { s with table := u } := by
          have hTake : (Act.onTable (·.retain h) : Act Code Client ForeignError Unit) s =
              .ok () { s with table := u } := Act.onTable_ok hRetain
          rw [Environment.read, Act.bind_ok hObject, hm]
          exact Act.bind_ok hTake
        rw [Environment.member, Act.bind_ok hRead]
        rfl
      rw [Act.bind_ok (Act.foreign_ok hMember)]
      obtain ⟨e', he'⟩ := Table.isLive_iff.mp hLive
      have hTarget : s.table.object h = .ok e'.object := Table.object_eq_ok_iff.mpr ⟨e', he', rfl⟩
      refine ⟨e'.object, hTarget, ?_⟩
      have hSpec := holding_toHost_spec (s := { s with table := u }) hEnv
        (hs.wellFormed.retain hRetain) ((Table.object_retain hRetain h).trans hTarget) p.bridge
      split
      · next hTag =>
        rw [if_pos hTag] at hSpec
        exact hSpec
      · next hTag =>
        rw [if_neg hTag] at hSpec
        show match Act.holding h (env.toHost p.bridge h) { s with table := u } with
          | .ok x s' => s'.Stands h x
          | .error e _ => e.IsOther
        cases hr : Act.holding h (env.toHost p.bridge h) { s with table := u } with
        | error e s' =>
          rw [hr] at hSpec
          exact hSpec
        | ok x s' =>
          rw [hr] at hSpec
          exact hSpec.1
    · -- a stored number becomes a new value
      have hMember : env.member p.value (.named name) s = .ok (some ⟨s.table.nextId⟩)
          (({ s with table := (s.table.insert (.ofNumber y)).2 }).emit
            (.valueInserted ⟨s.table.nextId⟩)) := by
        have hRead : env.read p.value (.named name) s = .ok (.number y) s := by
          rw [Environment.read, Act.bind_ok hObject, hm]
          rfl
        rw [Environment.member, Act.bind_ok hRead]
        rfl
      rw [Act.bind_ok (Act.foreign_ok hMember)]
      have hNew : (s.table.insert (.ofNumber y)).2.object ⟨s.table.nextId⟩ =
          .ok (.ofNumber y) := by
        rw [Table.object, Table.entry?_insert, if_pos rfl]
      have hSpec := holding_toHost_spec (s := ({ s with
          table := (s.table.insert (.ofNumber y)).2 }).emit (.valueInserted ⟨s.table.nextId⟩))
        hEnv (hs.wellFormed.insert (o := .ofNumber y) List.Pairwise.nil) hNew p.bridge
      have hNumber : ¬ (Object.ofNumber y : Object Code).tag.IsNothing := by
        rintro (h | h) <;> cases h
      rw [if_neg hNumber] at hSpec
      show s.Yields name (some (.number y))
        (Act.holding ⟨s.table.nextId⟩ (env.toHost p.bridge ⟨s.table.nextId⟩)
          (({ s with table := (s.table.insert (.ofNumber y)).2 }).emit
            (.valueInserted ⟨s.table.nextId⟩)))
      generalize Act.holding (⟨s.table.nextId⟩ : Handle) _ _ = r at hSpec ⊢
      cases r with
      | error e s' => exact hSpec
      | ok x s' =>
        obtain ⟨hStands, o', ho', hSame⟩ := hSpec
        obtain ⟨e', he', rfl⟩ := Table.object_eq_ok_iff.mp ho'
        refine ⟨hStands, ?_⟩
        rw [Table.number?, he']
        exact congrArg (·.2.2) hSame

end Reading

/-! ## One map -/

/-- Each handle is counted as often as it is owned and held by members, and every live proxy owns
what it stands for. -/
structure Session.Covered (s : Session Code Client) : Prop where
  refs    : ∀ h, s.table.holders h + tally s.owned h ≤ s.table.refcount h
  proxies : ∀ q ∈ s.proxies, q.2.value ∈ s.owned

/-- An edit of a value through one of its proxies. -/
inductive MapEdit where
  | setItem (p : Proxy) (name : String) (x : Handle)
  | deleteItem (p : Proxy) (name : String)
  | setAttr (p : Proxy) (name : String) (x : Handle)

namespace MapEdit

/-- Makes the edit. -/
def perform : MapEdit → Act Code Client ProxyError Unit
  | setItem p name x => Act.setItem p name x
  | deleteItem p name => Act.deleteItem p name
  | setAttr p name x => Act.setAttr p name x

/-- What the edit does to the map. -/
def apply (m : String → Option Value) : MapEdit → String → Option Value
  | setItem _ name x | setAttr _ name x => Function.update m name (some (.handle x))
  | deleteItem _ name => Function.update m name none

/-- Items are for proxies that are maps, attributes for all; what is stored has to be live. -/
def Allowed (v : Handle) (s : Session Code Client) : MapEdit → Prop
  | setItem p _ x => s.MapProxy v p ∧ s.table.isLive x = true
  | deleteItem p _ => s.MapProxy v p
  | setAttr p _ x => (p ∈ s.proxies.values ∧ p.value = v) ∧ s.table.isLive x = true

/-- The error with which the edit ends, if it does not succeed: only the removal of a key can fail,
for want of the key. -/
def refusal? (m : String → Option Value) : MapEdit → Option ProxyError
  | setItem .. | setAttr .. => none
  | deleteItem _ name => if (m name).isSome then none else some (.noSuchProperty name)

theorem walks_perform {known : Client → List Shape} (e : MapEdit) :
    (e.perform : Act Code Client ProxyError Unit).Walks known := by
  cases e with
  | setItem p name x => exact Act.walks_setItem p name x
  | deleteItem p name => exact Act.walks_deleteItem p name
  | setAttr p name x => exact Act.walks_setAttr p name x

end MapEdit

/-- Edits of a value, one after another. In between anything can happen that leaves the object of
the value and the counts of references in order. -/
inductive MapRun (known : Client → List Shape) (v : Handle) (s₀ : Session Code Client) :
    List MapEdit → Session Code Client → Prop where
  | start : MapRun known v s₀ [] s₀
  | edit {edits : List MapEdit} {s : Session Code Client} {e : MapEdit}
    (hRun : MapRun known v s₀ edits s) (he : e.Allowed v s) :
    MapRun known v s₀ (edits ++ [e]) (e.perform.after s)
  | meanwhile {edits : List MapEdit} {s s' : Session Code Client}
    (hRun : MapRun known v s₀ edits s) (hPath : Session.Path known s s') (hs : s'.Covered)
    (hSame : s'.table.object v = s.table.object v) : MapRun known v s₀ edits s'

/-- All proxies that are maps of the value see one map. -/
structure Session.SeesMap (known : Client → List Shape) (s : Session Code Client) (v : Handle)
    (m : String → Option Value) : Prop where
  keys    : ∀ p, s.MapProxy v p → ∃ names, Act.keys p s = .ok names s ∧
    names.Pairwise (· < ·) ∧ ∀ name, name ∈ names ↔ (m name).isSome = true
  hasItem : ∀ p, s.MapProxy v p → ∀ name, Act.hasItem p name s = .ok (m name).isSome s
  getItem : ∀ p, s.MapProxy v p → ∀ env : Environment Code Client, env.Walks known →
    ∀ name, s.Yields name (m name) (env.getItem p name s)
  edits   : ∀ e : MapEdit, e.Allowed v s →
    match e.refusal? m with
    | none => ∃ s', e.perform s = .ok () s'
    | some error => e.perform s = .error error s

/-- What the proofs need of a session: the value is there, with an object of data, and its proxies
have the slots and the references that they should. -/
structure Session.Stores (known : Client → List Shape) (s : Session Code Client) (v : Handle)
    (o : Object Code) : Prop where
  canonical : s.Canonical known
  composed  : ∀ b ∈ s.bridges, b.Composed
  covers    : s.table.Covers (tally s.owned)
  owners    : ∀ q ∈ s.proxies, q.2.value ∈ s.owned
  object    : s.table.object v = .ok o
  data      : o.IsData

namespace Session.Stores

variable {known : Client → List Shape} {s s' : Session Code Client} {v : Handle}
  {o o' : Object Code} {p : Proxy}

/-- Only the table and the log have changed. -/
theorem setTable (hs : s.Stores known v o)
    (hRest : s' = { s with table := s'.table, log := s'.log })
    (hCovers : s'.table.Covers (tally s.owned)) (ho : s'.table.object v = .ok o')
    (hData : o'.IsData) : s'.Stores known v o' := by
  rw [hRest]
  exact ⟨⟨hs.canonical.own, hs.canonical.bound, hs.canonical.home⟩, hs.composed, hCovers,
    hs.owners, ho, hData⟩

theorem mem_owned (hs : s.Stores known v o) (hp : p ∈ s.proxies.values) : p.value ∈ s.owned := by
  obtain ⟨e, he, rfl⟩ := List.mem_map.mp hp
  exact hs.owners e he

theorem ordered (hs : s.Stores known v o) : o.members.Ordered := by
  obtain ⟨e, he, rfl⟩ := Table.object_eq_ok_iff.mp hs.object
  exact (hs.covers.wellFormed.entry he).members

theorem hasSlot_setAttr (hs : s.Stores known v o) (hp : p ∈ s.proxies.values) :
    p.shape.hasSlot Slots.setAttr = true := by
  obtain ⟨b, -, hSlots⟩ := hs.canonical.slots hs.composed hp
  rw [Shape.hasSlot, hSlots]
  exact Mask.includes_trans (Catalog.slotsFor_includes _ _).1 (by decide)

/-- A live value is stored under a name. -/
theorem setNamed (hs : s.Stores known v o) (hp : p ∈ s.proxies.values) (hv : p.value = v)
    {x : Handle} (hx : s.table.isLive x = true) (name : String) :
    ∃ s', Act.foreign (Act.setMember p.value (.named name) x) s = .ok () s' ∧
      ∃ o', s'.Stores known v o' ∧
        o'.memberMap = Function.update o.memberMap name (some (.handle x)) := by
  obtain ⟨o₁, s', ho₁, hRun, hRest, hCovers, hAfter⟩ :=
    Act.setMember_spec hs.covers (hs.mem_owned hp) hx (.named name)
  rw [hv] at ho₁ hAfter
  cases hs.object.symm.trans ho₁
  refine ⟨s', Act.foreign_ok hRun, o.withMember (.named name) (.data (.handle x)), ?_, ?_⟩
  · exact hs.setTable hRest hCovers hAfter (hs.data.withMember _ x)
  · exact o.memberMap_withMember name _

/-- A name is removed, or it was not there. -/
theorem deleteNamed (hs : s.Stores known v o) (hp : p ∈ s.proxies.values) (hv : p.value = v)
    (name : String) :
    ∃ s', Act.foreign (Act.deleteMember p.value (.named name)) s =
        .ok (o.memberMap name).isSome s' ∧ ((o.memberMap name).isSome = false → s' = s) ∧
      ∃ o', s'.Stores known v o' ∧ o'.memberMap = Function.update o.memberMap name none := by
  obtain ⟨o₁, s', ho₁, hRun, hRest, hCovers, hAfter, hSame⟩ :=
    Act.deleteMember_spec hs.covers (hs.mem_owned hp) (.named name)
  rw [hv] at ho₁ hAfter
  cases hs.object.symm.trans ho₁
  rw [← Object.isSome_memberMap hs.data] at hRun hSame
  refine ⟨s', Act.foreign_ok hRun, hSame, { o with members := o.members.erase (.named name) }, ?_,
    Object.memberMap_erase hs.ordered name⟩
  exact hs.setTable hRest hCovers hAfter (hs.data.erase _)

/-- What an edit comes to. -/
theorem edit (hs : s.Stores known v o) {e : MapEdit} (he : e.Allowed v s) :
    (match e.refusal? o.memberMap with
      | none => ∃ s', e.perform s = .ok () s'
      | some error => e.perform s = .error error s) ∧
      ∃ o', (e.perform.after s).Stores known v o' ∧ o'.memberMap = e.apply o.memberMap := by
  cases e with
  | setItem p name x =>
    obtain ⟨hp, hx⟩ := he
    obtain ⟨s', hRun, o', hStores, hMap⟩ := hs.setNamed hp.live hp.value hx name
    have hPerform : Act.setItem p name x s = .ok () s' := by
      rw [Act.setItem, Act.bind_ok (Act.require_ok (hp.hasSlot hs.canonical hs.composed
        (by decide)))]
      exact hRun
    refine ⟨⟨s', hPerform⟩, o', ?_, hMap⟩
    rw [Act.after, MapEdit.perform, hPerform]
    exact hStores
  | setAttr p name x =>
    obtain ⟨⟨hp, hv⟩, hx⟩ := he
    obtain ⟨s', hRun, o', hStores, hMap⟩ := hs.setNamed hp hv hx name
    have hPerform : Act.setAttr p name x s = .ok () s' := by
      rw [Act.setAttr, Act.bind_ok (Act.require_ok (hs.hasSlot_setAttr hp))]
      exact hRun
    refine ⟨⟨s', hPerform⟩, o', ?_, hMap⟩
    rw [Act.after, MapEdit.perform, hPerform]
    exact hStores
  | deleteItem p name =>
    have hp : s.MapProxy v p := he
    obtain ⟨s', hRun, hSame, o', hStores, hMap⟩ := hs.deleteNamed hp.live hp.value name
    have hRequire : (Act.require p (Slots.mapping ||| Slots.delItem) :
        Act Code Client ProxyError Unit) s = .ok () s :=
      Act.require_ok (hp.hasSlot hs.canonical hs.composed (by decide))
    cases hSome : (o.memberMap name).isSome with
    | true =>
      rw [hSome] at hRun
      have hPerform : Act.deleteItem p name s = .ok () s' := by
        rw [Act.deleteItem, Act.bind_ok hRequire, Act.bind_ok hRun]
        rfl
      refine ⟨?_, o', ?_, hMap⟩
      · rw [MapEdit.refusal?, hSome]
        exact ⟨s', hPerform⟩
      · rw [Act.after, MapEdit.perform, hPerform]
        exact hStores
    | false =>
      -- without the key the map and the session are as before
      cases hSame hSome
      rw [hSome] at hRun
      have hPerform : Act.deleteItem p name s = .error (.noSuchProperty name) s := by
        rw [Act.deleteItem, Act.bind_ok hRequire, Act.bind_ok hRun]
        rfl
      refine ⟨?_, o', ?_, hMap⟩
      · rw [MapEdit.refusal?, hSome]
        exact hPerform
      · rw [Act.after, MapEdit.perform, hPerform]
        exact hStores

theorem seesMap (hs : s.Stores known v o) : s.SeesMap known v o.memberMap := by
  have hNames (p : Proxy) (hp : s.MapProxy v p) : Act.keys p s = .ok o.memberNames s := by
    have hRequire : (Act.require p Slots.mapping : Act Code Client ProxyError Unit) s = .ok () s :=
      Act.require_ok (hp.hasSlot hs.canonical hs.composed (by decide))
    have hObject : Act.object p.value s = .ok o s := Act.object_ok (hp.value.symm ▸ hs.object)
    rw [Act.keys, Act.bind_ok hRequire]
    exact Act.foreign_ok (Act.bind_ok hObject)
  refine ⟨?_, ?_, ?_, fun e he => (hs.edit he).1⟩
  · intro p hp
    exact ⟨o.memberNames, hNames p hp, Object.sorted_memberNames hs.ordered,
      fun name => Object.mem_memberNames hs.ordered hs.data⟩
  · intro p hp name
    have hRequire : (Act.require p (Slots.mapping ||| Slots.contains) :
        Act Code Client ProxyError Unit) s = .ok () s :=
      Act.require_ok (hp.hasSlot hs.canonical hs.composed (by decide))
    have hContains : o.memberNames.contains name = (o.memberMap name).isSome := by
      rw [Bool.eq_iff_iff, List.contains_iff_mem, Object.mem_memberNames hs.ordered hs.data]
    rw [Act.hasItem, Act.bind_ok hRequire, Act.bind_ok (hNames p hp), ← hContains]
    rfl
  · intro p hp env hEnv name
    exact getItem_spec hEnv (hp.hasSlot hs.canonical hs.composed (by decide)) hs.covers
      (hp.value.symm ▸ hs.object) hs.data name

end Session.Stores

open Session

variable {known : Client → List Shape} {s₀ s : Session Code Client} {v : Handle} {o : Object Code}

/-- Every edit of a run does to the map what it does alone. -/
theorem MapRun.stores {edits : List MapEdit} (hRun : MapRun known v s₀ edits s)
    (hs : s₀.Stores known v o) :
    ∃ o', s.Stores known v o' ∧ o'.memberMap = edits.foldl MapEdit.apply o.memberMap := by
  induction hRun with
  | start => exact ⟨o, hs, rfl⟩
  | edit hRun he ih =>
    obtain ⟨o₁, hStores, hMap⟩ := ih
    obtain ⟨-, o₂, hAfter, hEdit⟩ := hStores.edit he
    refine ⟨o₂, hAfter, ?_⟩
    rw [List.foldl_append, ← hMap]
    exact hEdit
  | meanwhile hRun hPath hCovered hSame ih =>
    -- the value is as it was, and what else there is has been reached by small steps
    obtain ⟨o₁, hStores, hMap⟩ := ih
    refine ⟨o₁, ⟨?_, ?_, ?_, hCovered.proxies, hSame.trans hStores.object, hStores.data⟩, hMap⟩
    · exact Path.canonical hPath hStores.canonical
    · exact Path.composed hPath hStores.composed
    · exact ⟨Path.wellFormed hPath hStores.covers.wellFormed, hCovered.refs⟩

/-- A value that is wrapped as a map gets a proxy that is one. -/
theorem mapProxy_of_createMap {env : Environment Code Client} {s' : Session Code Client}
    {i id : Nat} {b : Bridge Code} (hEnv : env.Walks known) (hs : s.Canonical known)
    (hTable : s.table.WellFormed) (hb : s.bridges[i]? = some b)
    (hStandard : Catalog.standard.Extends b.catalog)
    (hRun : env.createMap i v true s = .ok id s') :
    ∃ p, s'.proxies.find? id = some p ∧ s'.MapProxy v p := by
  obtain ⟨_, _, -, shape, hFlags, hProxy⟩ := Environment.made_of_createMap hEnv hs hTable hRun
  refine ⟨_, hProxy, List.mem_map.mpr ⟨_, Dict.mem_of_find? hProxy, rfl⟩, rfl, ?_, ?_⟩
  · show shape.flags.includes Capabilities.objectMap = true
    rw [hFlags]
    exact Mask.includes_union_right _ _
  · obtain ⟨b', hb', hCatalog⟩ := Path.catalog ((hEnv.createMap i v true).path_ok hRun) hb
    exact ⟨b', hb', hCatalog.symm ▸ hStandard⟩

/--
**Map proxies are dictionaries over the members of their value.** Whatever has happened before, take
a value without accessors in a state where each handle is counted as often as it is owned and held.
After any edits through proxies of the value, all proxies that are maps of it see one map: that of
the members at the start, with the edits made to it one after another. Its keys come in order, a key
is in it or not, reading a key fails for want of it exactly if it is not there, and yields what is
stored otherwise. Wrapping the value as a map makes one more such proxy.
-/
theorem objectMap_dictionary {limit : Option Nat} {timing : Bool} {mind : Mind}
    {s₀ s : World Code Mind} {v : Handle} {o : Object Code} {edits : List MapEdit}
    (hStart : Path Memory.shapes (World.new (Table.empty limit) timing mind) s₀)
    (hCovered : s₀.Covered) (ho : s₀.table.object v = .ok o) (hData : o.IsData)
    (hRun : MapRun Memory.shapes v s₀ edits s) :
    s.SeesMap Memory.shapes v (edits.foldl MapEdit.apply o.memberMap) ∧
      ∀ (env : Environment Code (Memory Mind)) i b id s', env.Walks Memory.shapes →
        s.bridges[i]? = some b → Catalog.standard.Extends b.catalog →
        env.createMap i v true s = .ok id s' →
          ∃ p, s'.proxies.find? id = some p ∧ s'.MapProxy v p := by
  have hTable := Path.wellFormed hStart (Table.wellFormed_empty limit)
  have hStores : s₀.Stores Memory.shapes v o :=
    { canonical := World.canonical_of_path hStart
      composed := Path.composed hStart nofun
      covers := ⟨hTable, hCovered.refs⟩
      owners := hCovered.proxies
      object := ho
      data := hData }
  obtain ⟨o', hEnd, hMap⟩ := hRun.stores hStores
  constructor
  · rw [← hMap]
    exact hEnd.seesMap
  · intro env i b id s' hEnv hb hStandard hCreate
    exact mapProxy_of_createMap hEnv hEnd.canonical hEnd.covers.wellFormed hb hStandard hCreate

/-- A plain object that is wrapped as a map, and a number to store in it. -/
def exampleMapCalls : List (Call Unit Unit) :=
  [.command (.openBridge .standard {}), .command (.insert .plain),
    .command (.createMap 0 ⟨2⟩ true), .command (.insert (.ofNumber (.ofNat 7)))]

/-- The proxy of the object. -/
def exampleMapProxy : Proxy where
  bridge := 0
  shape := .compose (Catalog.standard : Catalog Unit) 0 1 Capabilities.objectMap
  value := ⟨2⟩
  receiver := none

/-- The keys that a proxy shows. -/
def exampleKeys (s : World Unit Unit) : List String :=
  match Act.keys exampleMapProxy s with
  | .ok names _ => names
  | .error _ _ => []

/-- Two values are stored, one of them as an attribute, and one key is removed again. -/
theorem objectMap_dictionary_edits :
    let s₀ := Call.performAll (exampleMisuse.environment 1) exampleMapCalls
      (World.new (.empty none) false ())
    let edits : List MapEdit := [.setItem exampleMapProxy "b" ⟨3⟩,
      .setAttr exampleMapProxy "a" Handle.undefined, .deleteItem exampleMapProxy "b"]
    let s := edits.foldl (fun s e => e.perform.after s) s₀
    exampleKeys s = ["a"] ∧ s.SeesMap Memory.shapes ⟨2⟩
      (Function.update (Function.update (Function.update (fun _ => none)
        "b" (some (.handle ⟨3⟩))) "a" (some (.handle Handle.undefined))) "b" none) := by
  intro s₀ edits s
  have hWalks := exampleMisuse.walks_environment 1
  have hPath : Path Memory.shapes (World.new (.empty none) false ()) s₀ :=
    Call.path_performAll hWalks exampleMapCalls _
  have hProxies : s₀.proxies = [(0, exampleMapProxy)] := by decide +kernel
  have hOwned : s₀.owned = [⟨2⟩] := by decide +kernel
  have hTable : s₀.table =
      { entries := [(⟨1⟩, ⟨.ofTag .undefined, 1⟩), (⟨2⟩, ⟨.plain, 2⟩),
          (⟨3⟩, ⟨.ofNumber (.ofNat 7), 1⟩)]
        nextId := 4, outstanding := 3, limit := none } := by
    decide +kernel
  have hCovered : s₀.Covered := by
    constructor
    · intro h
      rw [hTable, hOwned, tally_cons, tally_nil]
      split
      · next hh =>
        subst hh
        decide
      · exact Nat.zero_le _
    · rw [hProxies, hOwned]
      decide
  -- the bridge has the standard catalog from the start, so it has it later
  have hMap (s' : World Unit Unit) (hLater : Path Memory.shapes s₀ s')
      (hSame : s'.proxies = s₀.proxies) : s'.MapProxy ⟨2⟩ exampleMapProxy := by
    have hOpen : Path Memory.shapes (Call.performAll (exampleMisuse.environment 1)
        [.command (.openBridge .standard {})] (World.new (.empty none) false ())) s' :=
      (Call.path_performAll hWalks (exampleMapCalls.drop 1) _).trans hLater
    obtain ⟨b, hb, hCatalog⟩ := Path.catalog (i := 0) hOpen rfl
    refine ⟨?_, rfl, by decide, b, hb, ?_⟩
    · rw [hSame, hProxies]
      exact List.mem_singleton_self _
    · rw [hCatalog]
      exact List.prefix_rfl
  have hEdit (s' : World Unit Unit) (e : MapEdit) : Path Memory.shapes s' (e.perform.after s') :=
    e.walks_perform.after s'
  have hFirst : MapEdit.Allowed ⟨2⟩ s₀ (.setItem exampleMapProxy "b" ⟨3⟩) :=
    ⟨hMap s₀ .refl rfl, by decide +kernel⟩
  have hRun₁ := MapRun.edit (@MapRun.start _ _ Memory.shapes _ _) hFirst
  let s₁ : World Unit Unit := (MapEdit.setItem exampleMapProxy "b" ⟨3⟩).perform.after s₀
  have hSecond : MapEdit.Allowed ⟨2⟩ s₁ (.setAttr exampleMapProxy "a" Handle.undefined) :=
    ⟨⟨by decide +kernel, rfl⟩, by decide +kernel⟩
  have hRun₂ := MapRun.edit hRun₁ hSecond
  let s₂ : World Unit Unit :=
    (MapEdit.setAttr exampleMapProxy "a" Handle.undefined).perform.after s₁
  have hThird : MapEdit.Allowed ⟨2⟩ s₂ (.deleteItem exampleMapProxy "b") :=
    hMap _ ((hEdit _ _).trans (hEdit _ _)) (by decide +kernel)
  have hRun : MapRun Memory.shapes ⟨2⟩ s₀ edits s := MapRun.edit hRun₂ hThird
  have hObject : s₀.table.object ⟨2⟩ = .ok .plain := by
    rw [hTable]
    rfl
  obtain ⟨hSees, -⟩ := objectMap_dictionary hPath hCovered hObject nofun hRun
  exact ⟨by decide +kernel, hSees⟩

end ProxyBridge
