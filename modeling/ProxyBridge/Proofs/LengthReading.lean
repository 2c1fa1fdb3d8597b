import ProxyBridge.Proofs.Inspection
import ProxyBridge.Proofs.MapLength

/-!
# A length that was found can be read

Whether a value has a length is decided once, when it is wrapped; the length is read later, whenever
it is asked for. The two go by rules of their own. The rule of the catalog asks for `size` first,
and for `length` unless the value is callable; the reader asks for `length` first unless the value
is callable, and then for `size`; and a map has a length in any case. What makes them agree is that
the rule sees the same bit for callable values as the reader does, since that bit is decided before
it. So what the rule has found is among what the reader asks for, in whatever order.

In between, the number that a member names can become another value's business only if the member
changes: a handle names one value forever, and the number of a value stays.

## Results

* `Catalog.slotsFor_standard_length` — the two capabilities that install the slot.
* `Environment.number_of_measured` — what the rule has found is among the names that are read.
* `Session.Path.numberAt_eq` — a member that stays has the number that it had.
* `detected_length_readable` — the length of a proxy, at every later moment.
-/

namespace ProxyBridge

variable {Code Client Mind : Type} {known : Client → List Shape}

open Session Environment

/-! ## The slot -/

namespace Catalog

/-- A slot of a mask is one of the base, or of a capability in the mask. -/
theorem slotsFor_meets (c : Catalog Code) (mask : Capabilities) (slot : Slots) :
    (c.slotsFor mask).meets slot =
      (Slots.base.meets slot || (c.forMask mask).any (·.slots.meets slot)) := by
  have hFold (l : List (Capability Code)) (acc : Slots) :
      (l.foldl (fun acc d => acc ||| d.slots) acc).meets slot =
        (acc.meets slot || l.any (·.slots.meets slot)) := by
    induction l generalizing acc with
    | nil => simp
    | cons d rest ih => rw [List.foldl_cons, ih, Mask.union_meets, List.any_cons, Bool.or_assoc]
  exact hFold (c.forMask mask) Slots.base

/-- Two capabilities of the standard catalog bring the slot for lengths. -/
theorem brings_length_iff : ∀ d ∈ (standard : Catalog Code).capabilities,
    d.slots.meets Slots.length = true ↔
      d.flag = Capabilities.hasLength ∨ d.flag = Capabilities.objectMap := by
  -- bits and slots are the same whatever code there is, so a catalog without code has them all
  have hClosed : (standard : Catalog Code).capabilities.map (fun d => (d.flag, d.slots)) =
      (standard : Catalog Empty).capabilities.map (fun d => (d.flag, d.slots)) := rfl
  have hAll : ((standard : Catalog Empty).capabilities.map fun d => (d.flag, d.slots)).all
      (fun e => e.2.meets Slots.length ==
        (e.1 == Capabilities.hasLength || e.1 == Capabilities.objectMap)) = true := by decide
  rw [← hClosed, List.all_eq_true] at hAll
  intro d hd
  have hEntry := hAll _ (List.mem_map_of_mem hd)
  rw [beq_iff_eq] at hEntry
  rw [hEntry, Bool.or_eq_true, beq_iff_eq, beq_iff_eq]

/-- Lengths are installed for values that have one, and for maps. -/
theorem slotsFor_standard_length (mask : Capabilities) :
    ((standard : Catalog Code).slotsFor mask).includes Slots.length =
      (mask.includes Capabilities.hasLength || mask.includes Capabilities.objectMap) := by
  have hBase : Mask.meets Slots.base Slots.length = false := by decide
  rw [← Mask.meets_eq_includes (by decide), slotsFor_meets, hBase, Bool.false_or, Bool.eq_iff_iff,
    List.any_eq_true, Bool.or_eq_true]
  constructor
  · rintro ⟨d, hd, hSlot⟩
    obtain ⟨hMem, hIn⟩ := List.mem_filter.mp hd
    rcases (brings_length_iff d hMem).mp hSlot with hFlag | hFlag
    · exact Or.inl (hFlag ▸ hIn)
    · exact Or.inr (hFlag ▸ hIn)
  · -- conversely, a bit of the mask brings the capability, and this the slot
    have hOf {i : Nat} {d : Capability Code} (hd : standard.capabilities[i]? = some d)
        (hFlag : d.flag = Capabilities.hasLength ∨ d.flag = Capabilities.objectMap)
        (hIn : mask.includes d.flag = true) :
        ∃ d ∈ (standard : Catalog Code).forMask mask, d.slots.meets Slots.length = true := by
      have hMem := List.mem_of_getElem? hd
      exact ⟨d, List.mem_filter.mpr ⟨hMem, hIn⟩, (brings_length_iff d hMem).mpr hFlag⟩
    rintro (hOwn | hMap)
    · exact hOf (i := 1) rfl (Or.inl rfl) hOwn
    · exact hOf (i := 19) rfl (Or.inr rfl) hMap

end Catalog

/-! ## What the rule has found -/

namespace Environment

variable (env : Environment Code Client) {s s' : Session Code Client} {v : Handle} {o : Object Code}

/-- If the rule says yes, then one of the members that a reader asks for is a number. -/
theorem number_of_measured (hs : s.table.WellFormed) (ho : s.table.object v = .ok o)
    (hData : o.Stored) {detected : Capabilities}
    (hYes : env.judge .measured v detected s = .ok true s') :
    ∃ name ∈ lengthNames detected, (s.table.numberAt o name).isSome = true := by
  -- a stale handle makes the rule fail, so what it has read was a number or was none
  have hNumber (name : String) (hNone : ∀ e, env.number v name s ≠ .error e s) :
      env.number v name s = .ok (s.table.numberAt o name) s := by
    rcases env.plain_or_error ho hData (.named name) with hPlain | ⟨e, hError⟩
    · exact env.number_eq hs ho hPlain
    · exact absurd (Act.bind_error hError) (hNone e)
  unfold judge at hYes
  dsimp only at hYes
  have hSize := hNumber "size" fun e hError => by
    rw [Act.bind_error hError] at hYes
    cases hYes
  rw [Act.bind_ok hSize] at hYes
  cases hFound : (s.table.numberAt o "size").isSome with
  | true =>
    -- a reader asks for `size` of any value, be it last
    refine ⟨"size", ?_, hFound⟩
    unfold lengthNames
    split <;> simp
  | false =>
    rw [hFound, if_neg Bool.false_ne_true] at hYes
    cases hCall : detected.includes Capabilities.callable with
    | true =>
      -- the `length` of a callable value is not asked for
      rw [hCall] at hYes
      cases hYes
    | false =>
      rw [hCall, if_neg Bool.false_ne_true] at hYes
      have hLength := hNumber "length" fun e hError => by
        rw [Act.bind_error hError] at hYes
        cases hYes
      rw [Act.bind_ok hLength] at hYes
      refine ⟨"length", ?_, (EStateM.Result.ok.inj hYes).1⟩
      simp [lengthNames, hCall]

/-- The bit for callable values is decided first, so it is seen at the second place. -/
theorem lengthNames_upTo (m : Capabilities) :
    lengthNames ((Catalog.standard : Catalog Code).upTo m 1) = lengthNames m := by
  have hFirst : (Catalog.standard : Catalog Code).capabilities[0]?.map (·.flag) =
      some Capabilities.callable := rfl
  obtain ⟨d, hd, hFlag⟩ := Option.map_eq_some_iff.mp hFirst
  have hSingle : Mask.isSingle d.flag = true := by
    rw [hFlag]
    decide
  have hNone : (Catalog.standard : Catalog Code).upTo m 0 = 0#32 := by
    simp [Catalog.upTo, Catalog.registered, Mask.unionAll]
  -- the names depend on the mask by this bit only
  rw [Catalog.upTo_succ hd hSingle, hFlag, hNone]
  unfold lengthNames
  cases m.includes Capabilities.callable <;> rfl

theorem looks_standard (s : Session Code Client) : env.Looks Catalog.standard s := by
  intro d hd code hProbe
  have hCode := (Traits.probes_standard d hd).1
  rw [hProbe] at hCode
  cases hCode

/-- A value whose members are data is looked at without a trace, and if it is found to have a
length, then one of the members that a reader asks for is a number. -/
theorem capabilities_stored (hs : s.table.WellFormed) (ho : s.table.object v = .ok o)
    (hData : o.Stored) {i : Nat} {b : Bridge Code} (hb : s.bridges[i]? = some b)
    (hCatalog : b.catalog = Catalog.standard) {found : Capabilities}
    (hFound : env.capabilities i v s = .ok found s') :
    s' = s ∧ (found.includes Capabilities.hasLength = true →
      ∃ name ∈ lengthNames found, (s.table.numberAt o name).isSome = true) := by
  have hInspect := env.inspect_of_capabilities v hb hFound
  rw [hCatalog] at hInspect
  obtain ⟨runs, tag, hSurveys⟩ := env.surveys_inspect v Catalog.Reachable.standard.distinct hInspect
  obtain ⟨hSame, hAnswers⟩ := hSurveys.still hs ho hData (env.looks_standard s)
  refine ⟨hSame, ?_⟩
  -- the bit is there because the rule was asked at its place and has said yes
  intro hLength
  have hRule : (Catalog.standard : Catalog Code).capabilities[1]?.map
      (fun d => (d.flag, d.probe)) = some (Capabilities.hasLength, .rule .measured) := rfl
  obtain ⟨d, hd, hPair⟩ := Option.map_eq_some_iff.mp hRule
  obtain ⟨hFlag, hProbe⟩ := Prod.mk.inj hPair
  rw [← hFlag] at hLength
  obtain ⟨r, hr, hPlace, hYes⟩ := (hSurveys.believed 1 d hd).mp hLength
  obtain ⟨d', hd', hAsk⟩ := hAnswers r hr
  rw [hPlace] at hd'
  cases hd.symm.trans hd'
  -- it saw what was decided before its place, of which the bit for callable values matters
  rw [hProbe, hYes, hSurveys.seen r hr, hPlace] at hAsk
  have hNumber := env.number_of_measured hs ho hData hAsk
  rwa [lengthNames_upTo] at hNumber

end Environment

/-! ## Members that stay -/

/-- A member that is as it was, and can still be read, has the number that it had. -/
theorem Session.Path.numberAt_eq {s s' : Session Code Client} (hPath : Path known s s')
    (hs : s.table.WellFormed) {o o' : Object Code} {name : String}
    (hSame : o'.members.find? (.named name) = o.members.find? (.named name))
    (hPlain : s'.table.isPlainMember o' (.named name) = true)
    (hNumber : (s.table.numberAt o name).isSome = true) :
    s'.table.numberAt o' name = s.table.numberAt o name := by
  have hDatum : o'.datum (.named name) = o.datum (.named name) := by
    rw [Object.datum, Object.datum, hSame]
  unfold Table.numberAt at hNumber ⊢
  rw [hDatum]
  -- a number that is stored as such is part of the member, the number of a handle is not
  cases hd : o.datum (.named name) with
  | undefined | number => rfl
  | handle m =>
    rw [hd] at hNumber
    -- the handle names something at both moments, and so the same
    have hLive : s'.table.isLive m = true := by
      rw [← hDatum, Object.datum] at hd
      rw [Table.isPlainMember] at hPlain
      split at hd
      · next w hm =>
        rw [hm, hd] at hPlain
        exact hPlain
      · cases hd
    obtain ⟨e', he'⟩ := Table.isLive_iff.mp hLive
    dsimp only at hNumber ⊢
    unfold Table.number? at hNumber ⊢
    cases he : s.table.entry? m with
    | none =>
      rw [he] at hNumber
      cases hNumber
    | some e =>
      have hIdentity := (Session.Path.precedes hPath hs).identity hs he he'
      have hOne : e'.object.number = e.object.number := congrArg (·.2.2) hIdentity
      rw [he', Option.bind_some, Option.bind_some, hOne]

/-! ## From a wrap to a length -/

namespace Environment

/-- The three ways to wrap a value with what an inspection finds. -/
inductive Wraps (env : Environment Code Client) (i : Nat) (v : Handle) (s : Session Code Client)
    (id : Nat) (s' : Session Code Client) : Prop where
  | plain (hRun : env.create i v s = .ok id s')
  | bound (receiver : Handle) (hRun : env.createBound i v receiver s = .ok id s')
  | map (asMap : Bool) (hRun : env.createMap i v asMap s = .ok id s')

/-- Each of them makes a proxy of the mask that was found, perhaps as a map. -/
theorem Wraps.typed {env : Environment Code Client} {i id : Nat} {v : Handle}
    {s s' : Session Code Client} (h : env.Wraps i v s id s') :
    ∃ found s₁ flags receiver, env.capabilities i v s = .ok found s₁ ∧
      (flags = found ∨ flags = found ||| Capabilities.objectMap) ∧
      Act.createTyped i flags v receiver s₁ = .ok id s' := by
  have hWith {receiver : Option Handle} (hRun : env.createWith i v receiver s = .ok id s') :
      ∃ found s₁, env.capabilities i v s = .ok found s₁ ∧
        Act.createTyped i found v receiver s₁ = .ok id s' := by
    rw [createWith_eq] at hRun
    exact reporting_capabilities_ok hRun
  cases h with
  | plain hRun =>
    obtain ⟨found, s₁, hFound, hTyped⟩ := hWith hRun
    exact ⟨found, s₁, found, none, hFound, Or.inl rfl, hTyped⟩
  | bound receiver hRun =>
    obtain ⟨found, s₁, hFound, hTyped⟩ := hWith hRun
    exact ⟨found, s₁, found, some receiver, hFound, Or.inl rfl, hTyped⟩
  | map asMap hRun =>
    obtain ⟨found, s₁, hFound, hTyped⟩ := reporting_capabilities_ok hRun
    cases asMap with
    | false => exact ⟨found, s₁, found, none, hFound, Or.inl rfl, hTyped⟩
    | true => exact ⟨found, s₁, _, none, hFound, Or.inr rfl, hTyped⟩

end Environment

/-- A behaviour that is not installed is refused by name. -/
theorem Act.require_error {s : Session Code Client} {p : Proxy} {slot : Slots}
    (h : p.shape.hasSlot slot = false) :
    (Act.require p slot : Act Code Client ProxyError Unit) s =
      .error (.missingSlot (Slots.protocolName slot) p.shape.name) s := by
  unfold Act.require Shape.require
  rw [h, if_neg Bool.false_ne_true]
  rfl

/-- What a wrap of a value whose members are data makes: a proxy that has a slot for lengths if it
is a map or was found to have a length, and then one of the members that are read is a number. -/
theorem Environment.Wraps.made {env : Environment Code Client} {s₀ s₁ : Session Code Client}
    {i id : Nat} {b : Bridge Code} {v : Handle} {o : Object Code} (hs : s₀.Canonical known)
    (hTable : s₀.table.WellFormed) (hComposed : ∀ b ∈ s₀.bridges, b.Composed)
    (hb : s₀.bridges[i]? = some b) (hCatalog : b.catalog = Catalog.standard)
    (ho : s₀.table.object v = .ok o) (hData : o.Stored) (hWrap : env.Wraps i v s₀ id s₁) :
    Path known s₀ s₁ ∧ ∃ p, s₁.proxies.find? id = some p ∧ p.value = v ∧
      p.shape.hasSlot Slots.length = (p.flags.includes Capabilities.hasLength ||
        p.flags.includes Capabilities.objectMap) ∧
      (p.flags.includes Capabilities.hasLength = true →
        ∃ name ∈ lengthNames p.flags, (s₀.table.numberAt o name).isSome = true) := by
  obtain ⟨found, s, flags, receiver, hFound, hFlags, hTyped⟩ := hWrap.typed
  -- looking at the value has left no trace, so the shape is composed where the wrap began
  obtain ⟨rfl, hLength⟩ := env.capabilities_stored hTable ho hData hb hCatalog hFound
  have hPath : Path known s s₁ := (Act.walks_createTyped i flags v receiver).path_ok hTyped
  obtain ⟨shape, rfl, hProxy⟩ := Act.made_of_createTyped hs hTable hTyped
  refine ⟨hPath, _, hProxy, rfl, ?_, ?_⟩
  · -- the bridge has kept its catalog
    obtain ⟨b₁, hb₁, hSlots⟩ := (Path.canonical hPath hs).slots (Path.composed hPath hComposed)
      (List.mem_map_of_mem (Dict.mem_of_find? hProxy))
    obtain ⟨b₂, hb₂, hSame⟩ := Path.catalog hPath hb
    cases hb₁.symm.trans hb₂
    rw [Shape.hasSlot, hSlots, hSame, hCatalog]
    exact Catalog.slotsFor_standard_length shape.flags
  · show shape.flags.includes Capabilities.hasLength = true →
      ∃ name ∈ lengthNames shape.flags, (s.table.numberAt o name).isSome = true
    rcases hFlags with hFlags | hFlags
    · rw [hFlags]
      exact hLength
    · -- to be a map is neither to be callable nor to have a length
      have hOwn : Mask.includes (found ||| Capabilities.objectMap) Capabilities.hasLength =
          found.includes Capabilities.hasLength := Mask.includes_union_apart (by decide)
      have hNames : lengthNames (found ||| Capabilities.objectMap) = lengthNames found := by
        unfold lengthNames
        rw [Mask.includes_union_apart (by decide)]
      rw [hFlags, hOwn, hNames]
      exact hLength

/--
**A length that was found can be read.** Let a value whose members are data be wrapped on a bridge
with the standard catalog, in any of the three ways that look at it first. At every later moment at
which its `length` and `size` are the members that they were, and can still be read, the length of
the proxy is a number if its shape installs the slot for lengths, and else the slot is reported as
missing. It is never said that there is no such member, whatever the other members are by then,
and whatever foreign code has run in between.
-/
theorem detected_length_readable {limit : Option Nat} {timing : Bool} {mind : Mind}
    {s₀ s₁ s : World Code Mind} {env : Environment Code (Memory Mind)} {i id : Nat}
    {b : Bridge Code} {v : Handle} {o o' : Object Code}
    (hStart : Path Memory.shapes (World.new (Table.empty limit) timing mind) s₀)
    (hb : s₀.bridges[i]? = some b) (hCatalog : b.catalog = Catalog.standard)
    (ho : s₀.table.object v = .ok o) (hData : o.Stored) (hWrap : env.Wraps i v s₀ id s₁)
    (hLater : Path Memory.shapes s₁ s) (ho' : s.table.object v = .ok o')
    (hSame : ∀ name ∈ ["length", "size"],
      o'.members.find? (.named name) = o.members.find? (.named name))
    (hResolve : ∀ name ∈ ["length", "size"], s.table.isPlainMember o' (.named name) = true)
    (env' : Environment Code (Memory Mind)) :
    ∃ p, s₁.proxies.find? id = some p ∧ p.value = v ∧
      (p.shape.hasSlot Slots.length = true → ∃ n, env'.len p s = .ok n s) ∧
      (p.shape.hasSlot Slots.length = false →
        env'.len p s = .error (.missingSlot "len()" p.shape.name) s) ∧
      ∀ name s', env'.len p s ≠ .error (.noSuchProperty name) s' := by
  have hTable := Path.wellFormed hStart (Table.wellFormed_empty limit)
  obtain ⟨hPath, p, hProxy, hValue, hSlot, hNumber⟩ := hWrap.made (World.canonical_of_path hStart)
    hTable (Path.composed hStart nofun) hb hCatalog ho hData
  have hWhole := hPath.trans hLater
  have hNow := Path.wellFormed hWhole hTable
  have hInstalled (hHas : p.shape.hasSlot Slots.length = true) : ∃ n, env'.len p s = .ok n s := by
    have hRequire : (Act.require p Slots.length : Act Code (Memory Mind) ProxyError Unit) s =
        .ok () s := Act.require_ok hHas
    cases hOwn : p.flags.includes Capabilities.hasLength with
    | true =>
      -- what the rule has found is read
      obtain ⟨name, hName, hFound⟩ := hNumber hOwn
      have hKnown : ∀ x ∈ lengthNames p.flags, x ∈ ["length", "size"] := by
        intro x hx
        unfold lengthNames at hx
        split at hx <;> simp_all
      have hKept := Path.numberAt_eq hWhole hTable (hSame name (hKnown name hName))
        (hResolve name (hKnown name hName)) hFound
      have hLen := env'.len_measured hRequire hOwn hNow (hValue.symm ▸ ho')
        fun x hx => hResolve x (hKnown x hx)
      have hSome : ((lengthNames p.flags).findSome? (s.table.numberAt o')).isSome = true := by
        rw [List.isSome_findSome?, List.any_eq_true]
        exact ⟨name, hName, hKept ▸ hFound⟩
      obtain ⟨x, hx⟩ := Option.isSome_iff_exists.mp hSome
      rw [hx] at hLen
      exact ⟨x.toLength, hLen⟩
    | false =>
      -- the slot is there for a map, which counts its keys
      rw [hSlot, hOwn, Bool.false_or] at hHas
      have hNames := Act.foreign_ok (Act.memberNames_ok (hValue.symm ▸ ho'))
      refine ⟨o'.memberNames.length, ?_⟩
      rw [env'.len_keyed hRequire hOwn hHas, map_eq_pure_bind, Act.bind_ok hNames]
      rfl
  have hMissing (hNot : p.shape.hasSlot Slots.length = false) :
      env'.len p s = .error (.missingSlot "len()" p.shape.name) s :=
    Act.bind_error (Act.require_error hNot)
  refine ⟨p, hProxy, hValue, hInstalled, hMissing, ?_⟩
  -- one of the two cases is there, and neither is an answer about a member
  intro name s' hRun
  cases hHas : p.shape.hasSlot Slots.length with
  | true =>
    obtain ⟨n, hLen⟩ := hInstalled hHas
    cases hLen.symm.trans hRun
  | false => cases (hMissing hHas).symm.trans hRun

/-- A bridge over the standard catalog, and a value whose `size` is a number of its own. -/
def exampleSizedCalls : List (Call Unit Unit) :=
  [.command (.openBridge .standard {}),
    .command (.insert (Object.plain.withMember (.named "size") (.data (.handle ⟨3⟩)))),
    .command (.insert (.ofNumber (.ofNat 4)))]

/-- The value is wrapped, gets another member, and its length is still the number. -/
theorem detected_length_readable_sized :
    let env := exampleMisuse.environment 1
    let s₀ : World Unit Unit :=
      Call.performAll env exampleSizedCalls (World.new (.empty none) false ())
    let s₁ := (env.create 0 ⟨2⟩).after s₀
    let s := Call.performAll env [.command (.setMember ⟨2⟩ (.named "color") ⟨1⟩)] s₁
    let p := exampleLengthProxy Capabilities.hasLength
    env.Wraps 0 ⟨2⟩ s₀ 0 s₁ ∧ s₁.proxies.find? 0 = some p ∧ env.len p s = .ok 4 s := by
  intro env s₀ s₁ s p
  have hWalks := exampleMisuse.walks_environment 1
  have hStart := Call.path_performAll hWalks exampleSizedCalls (World.new (.empty none) false ())
  have hLater := Call.path_performAll hWalks [.command (.setMember ⟨2⟩ (.named "color") ⟨1⟩)] s₁
  have hOpen := Call.path_performAll hWalks (exampleSizedCalls.drop 1) (Call.performAll env
    [.command (.openBridge .standard {})] (World.new (.empty none) false ()))
  obtain ⟨b, hb, hCatalog⟩ := Path.catalog (i := 0) hOpen rfl
  have hWrap : env.Wraps 0 ⟨2⟩ s₀ 0 s₁ := .plain (Act.eq_ok_after (by decide +kernel))
  have ho : s₀.table.object ⟨2⟩ =
      .ok (Object.plain.withMember (.named "size") (.data (.handle ⟨3⟩))) := by decide +kernel
  have ho' : s.table.object ⟨2⟩ = .ok ((Object.plain.withMember (.named "size")
      (.data (.handle ⟨3⟩))).withMember (.named "color") (.data (.handle ⟨1⟩))) := by
    decide +kernel
  have hData : (Object.plain.withMember (.named "size") (.data (.handle ⟨3⟩)) :
      Object Unit).Stored := by
    intro e he
    rw [List.mem_singleton.mp he]
    exact ⟨_, rfl⟩
  obtain ⟨q, hq, -, hLen, -⟩ := detected_length_readable hStart hb hCatalog ho hData hWrap hLater
    ho' (by decide) (by decide +kernel) env
  have hp : s₁.proxies.find? 0 = some p := by decide +kernel
  cases hp.symm.trans hq
  -- that there is a length is the law, that it is four is computed
  obtain ⟨n, hNumber⟩ := hLen (by decide)
  have hFour : (env.len p).result? s = some 4 := by decide +kernel
  rw [Act.result?, hNumber] at hFour
  cases hFour
  exact ⟨hWrap, hp, hNumber⟩

end ProxyBridge
