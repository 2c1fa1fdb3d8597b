import Mathlib.Data.List.Basic
import ProxyBridge.Proofs.Action

/-!
# Catalogs grow at the end

A capability joins a catalog at its end, with a bit that no other capability has. So a mask without
that bit means what it meant before; a mask with it means what the rest of it meant, and one
capability more. An inspection goes through the catalog in order, so it runs all that it ran before,
to the same effect, and looks at the new capability last.

A shape gets its name from the capabilities of fixed precedence first. All of these are in the
standard catalog, whose bits stay taken, so no capability that joins later can take such a name.

## Results

* `Mask.includes_iff`, `Mask.meets_iff`, `Mask.getLsbD_without` — masks, bit by bit.
* `Catalog.forMask_of_register`, `Catalog.slotsFor_of_register` — capabilities and slots of a mask.
* `Shape.nameFor_of_named` — the names of the standard catalog come first, by precedence.
* `Environment.inspect_register` — the inspection under the larger catalog.
* `registration_conservative` — a capability that joins disturbs nothing.
-/

namespace ProxyBridge

/-! ## Masks, bit by bit -/

namespace Mask

variable {a b m : Mask}

theorem includes_iff : a.includes b = true ↔ ∀ i, b.getLsbD i = true → a.getLsbD i = true := by
  rw [includes, beq_iff_eq]
  constructor
  · intro h i hi
    have hBit := congrArg (BitVec.getLsbD · i) h
    simp only [BitVec.getLsbD_and, hi, Bool.and_true] at hBit
    exact hBit
  · intro h
    refine BitVec.eq_of_getLsbD_eq fun i _ => ?_
    rw [BitVec.getLsbD_and]
    cases hb : b.getLsbD i with
    | false => rw [Bool.and_false]
    | true => rw [h i hb, Bool.and_self]

theorem meets_iff : a.meets b = true ↔ ∃ i, a.getLsbD i = true ∧ b.getLsbD i = true := by
  rw [meets, bne_iff_ne]
  constructor
  · intro h
    by_contra hNone
    refine h (BitVec.eq_of_getLsbD_eq fun i _ => ?_)
    rw [BitVec.getLsbD_and, BitVec.getLsbD_zero, ← Bool.not_eq_true, Bool.and_eq_true]
    exact fun hi => hNone ⟨i, hi⟩
  · rintro ⟨i, ha, hb⟩ h
    have hBit := congrArg (BitVec.getLsbD · i) h
    simp [ha, hb] at hBit

theorem meets_eq_false_iff :
    a.meets b = false ↔ ∀ i, a.getLsbD i = true → b.getLsbD i = false := by
  rw [← Bool.not_eq_true, meets_iff]
  simp

theorem getLsbD_without (a b : Mask) (i : Nat) :
    (a.without b).getLsbD i = (a.getLsbD i && !b.getLsbD i) := by
  rw [without, BitVec.getLsbD_and, BitVec.getLsbD_not]
  cases ha : a.getLsbD i with
  | false => rfl
  | true => simp [BitVec.lt_of_getLsbD ha]

/-- Bits that a mask does not have are no loss to it. -/
theorem includes_without {flag : Mask} (h : flag.meets b = false) :
    (a.without b).includes flag = a.includes flag := by
  rw [Bool.eq_iff_iff, includes_iff, includes_iff]
  have hApart := meets_eq_false_iff.mp h
  constructor
  · intro hAll i hi
    have hBit := hAll i hi
    rw [getLsbD_without, Bool.and_eq_true] at hBit
    exact hBit.1
  · intro hAll i hi
    rw [getLsbD_without, hAll i hi, hApart i hi]
    rfl

theorem without_of_not_meets (h : a.meets b = false) : a.without b = a := by
  refine BitVec.eq_of_getLsbD_eq fun i _ => ?_
  rw [getLsbD_without]
  cases ha : a.getLsbD i with
  | false => rfl
  | true => rw [meets_eq_false_iff.mp h i ha]; rfl

theorem union_without (h : a.meets b = false) : (a ||| b).without b = a := by
  refine BitVec.eq_of_getLsbD_eq fun i _ => ?_
  rw [getLsbD_without, BitVec.getLsbD_or]
  cases ha : a.getLsbD i with
  | false => cases b.getLsbD i <;> rfl
  | true => rw [meets_eq_false_iff.mp h i ha]; rfl

theorem union_meets {c : Mask} : (a ||| b).meets c = (a.meets c || b.meets c) := by
  rw [Bool.eq_iff_iff, Bool.or_eq_true, meets_iff, meets_iff, meets_iff, ← exists_or]
  simp only [BitVec.getLsbD_or, Bool.or_eq_true, or_and_right]

theorem includes_union_left {m : Mask} (h : a.includes m = true) (b : Mask) :
    (a ||| b).includes m = true := by
  rw [includes_iff] at h ⊢
  intro i hi
  rw [BitVec.getLsbD_or, h i hi, Bool.true_or]

theorem includes_union_right (a b : Mask) : (a ||| b).includes b = true := by
  rw [includes_iff]
  intro i hi
  rw [BitVec.getLsbD_or, hi, Bool.or_true]

theorem includes_trans {c : Mask} (hab : a.includes b = true) (hbc : b.includes c = true) :
    a.includes c = true := by
  rw [includes_iff] at hab hbc ⊢
  exact fun i hi => hab i (hbc i hi)

/-- The union of masks meets what one of them meets. -/
theorem unionAll_meets (ms : List Mask) (c : Mask) :
    (unionAll ms).meets c = ms.any (·.meets c) := by
  have hFold : ∀ acc : Mask,
      (ms.foldl (· ||| ·) acc).meets c = (acc.meets c || ms.any (·.meets c)) := by
    induction ms with
    | nil => intro acc; simp
    | cons m rest ih =>
      intro acc
      rw [List.foldl_cons, ih, union_meets, List.any_cons, Bool.or_assoc]
  rw [unionAll, hFold, show Mask.meets 0#32 c = false from meets_eq_false_iff.mpr (by simp),
    Bool.false_or]

end Mask

variable {Code Client : Type}

namespace Catalog

variable {c c' : Catalog Code} {d : Capability Code} {mask : Capabilities}

/-! ## One capability more -/

/-- The second catalog has all capabilities of the first, in front. -/
def Extends (c c' : Catalog Code) : Prop := c.capabilities <+: c'.capabilities

/-- What a registration needs, and what it does. -/
theorem register_eq_ok_iff : c.register d = .ok c' ↔
    Mask.isSingle d.flag = true ∧ (∀ x ∈ c.capabilities, x.flag.meets d.flag = false) ∧
      c' = ⟨c.capabilities ++ [d]⟩ := by
  have hTaken : c.registered.meets d.flag = false ↔
      ∀ x ∈ c.capabilities, x.flag.meets d.flag = false := by
    rw [registered, Mask.unionAll_meets]
    simp
  rw [register, ← hTaken]
  cases Mask.isSingle d.flag <;> cases c.registered.meets d.flag <;> simp [eq_comm]

theorem Extends.trans {c'' : Catalog Code} (h : c.Extends c') (h' : c'.Extends c'') :
    c.Extends c'' :=
  List.IsPrefix.trans h h'

/-- Whatever is asked to join, what was there stays in front. -/
theorem extends_registerEach (c : Catalog Code) (ds : List (Capability Code)) :
    c.Extends (c.registerEach ds).2 := by
  -- a capability that is refused changes nothing
  induction ds generalizing c with
  | nil => exact List.prefix_rfl
  | cons d rest ih =>
    rw [registerEach]
    cases hr : c.register d with
    | error e => exact ih c
    | ok c' =>
      obtain ⟨-, -, rfl⟩ := register_eq_ok_iff.mp hr
      have hOne : c.Extends ⟨c.capabilities ++ [d]⟩ := List.prefix_append ..
      exact hOne.trans (ih _)

/-- The capabilities of a mask without the new bit. -/
theorem forMask_of_register (hr : c.register d = .ok c') (hMask : mask.includes d.flag = false) :
    c'.forMask mask = c.forMask mask := by
  obtain ⟨-, -, rfl⟩ := register_eq_ok_iff.mp hr
  rw [forMask, forMask, List.filter_append]
  simp [hMask]

/-- The capabilities of a mask with the new bit: those of the rest of it, and the new one. -/
theorem forMask_of_register_includes (hr : c.register d = .ok c')
    (hMask : mask.includes d.flag = true) :
    c'.forMask mask = c.forMask (mask.without d.flag) ++ [d] := by
  obtain ⟨-, hApart, rfl⟩ := register_eq_ok_iff.mp hr
  have hRest : c.forMask (mask.without d.flag) = c.forMask mask := by
    rw [forMask, forMask]
    refine List.filter_congr ?_
    intro x hx
    exact Mask.includes_without (hApart x hx)
  rw [hRest, forMask, forMask, List.filter_append]
  simp [hMask]

theorem slotsFor_of_register (hr : c.register d = .ok c') (hMask : mask.includes d.flag = false) :
    c'.slotsFor mask = c.slotsFor mask := by
  rw [slotsFor, slotsFor, forMask_of_register hr hMask]

theorem slotsFor_of_register_includes (hr : c.register d = .ok c')
    (hMask : mask.includes d.flag = true) :
    c'.slotsFor mask = c.slotsFor (mask.without d.flag) ||| d.slots := by
  rw [slotsFor, slotsFor, forMask_of_register_includes hr hMask, List.foldl_append]
  rfl

/-- The slots of a mask are those of the base and those of its capabilities. -/
theorem slotsFor_includes (c : Catalog Code) (mask : Capabilities) :
    (c.slotsFor mask).includes Slots.base = true ∧
      ∀ x ∈ c.forMask mask, (c.slotsFor mask).includes x.slots = true := by
  -- what is there stays, and every capability adds its own
  have hFold : ∀ (l : List (Capability Code)) (acc : Slots),
      (∀ m, acc.includes m = true → (l.foldl (fun acc d => acc ||| d.slots) acc).includes m) ∧
        ∀ x ∈ l, (l.foldl (fun acc d => acc ||| d.slots) acc).includes x.slots = true := by
    intro l
    induction l with
    | nil => exact fun acc => ⟨fun _ hm => hm, nofun⟩
    | cons d rest ih =>
      intro acc
      obtain ⟨hKept, hRest⟩ := ih (acc ||| d.slots)
      refine ⟨fun m hm => hKept m (Mask.includes_union_left hm d.slots), ?_⟩
      intro x hx
      rcases List.mem_cons.mp hx with rfl | hx
      · exact hKept x.slots (Mask.includes_union_right acc x.slots)
      · exact hRest x hx
  obtain ⟨hKept, hAll⟩ := hFold (c.forMask mask) Slots.base
  exact ⟨hKept Slots.base (Mask.includes_iff.mpr fun _ hi => hi), hAll⟩

theorem mem_forMask {x : Capability Code} :
    x ∈ c.forMask mask ↔ x ∈ c.capabilities ∧ mask.includes x.flag = true := List.mem_filter

/-- The capability of a flag is among those of every mask that has the flag. -/
theorem mem_forMask_of_get? {x : Capability Code} {flag : Capabilities}
    (hx : c.get? flag = some x) (hMask : mask.includes flag = true) : x ∈ c.forMask mask := by
  have hFlag : x.flag = flag := by simpa using List.find?_some hx
  rw [mem_forMask, hFlag]
  exact ⟨List.mem_of_find?_eq_some hx, hMask⟩

/-- A flag that is there keeps its capability. -/
theorem Extends.get? (h : c.Extends c') {flag : Capabilities} {x : Capability Code}
    (hx : c.get? flag = some x) : c'.get? flag = some x := by
  obtain ⟨more, hMore⟩ := h
  unfold Catalog.get? at hx ⊢
  rw [← hMore, List.find?_append, hx, Option.some_or]

end Catalog

namespace Shape

variable {c c' : Catalog Code} {d : Capability Code} {flags : Capabilities}

/-! ## Names -/

/-- Every flag of fixed precedence has a standard capability, and that gives a name. -/
theorem standard_get?_of_precedence {flag : Capabilities} (h : flag ∈ precedence) :
    ∃ x, (Catalog.standard : Catalog Code).get? flag = some x ∧ x.typeName.isSome = true := by
  have hAll : (precedence.all fun flag =>
      ((Catalog.standard : Catalog Code).get? flag).any (·.typeName.isSome)) = true := rfl
  exact (Option.any_eq_true ..).mp (List.all_eq_true.mp hAll flag h)

/-- Every standard capability that gives a name has a flag of fixed precedence. -/
theorem mem_precedence_of_typeName {x : Capability Code}
    (hx : x ∈ (Catalog.standard : Catalog Code).capabilities) (hName : x.typeName.isSome = true) :
    x.flag ∈ precedence := by
  have hAll : ((Catalog.standard : Catalog Code).capabilities.all fun x =>
      !x.typeName.isSome || precedence.contains x.flag) = true := rfl
  have hOne := List.all_eq_true.mp hAll x hx
  simpa [hName] using hOne

/-- The flag is the first one of fixed precedence that the mask has. -/
def Precedes (flag mask : Capabilities) : Prop :=
  ∃ before after, precedence = before ++ flag :: after ∧
    (∀ other ∈ before, mask.includes other = false) ∧ mask.includes flag = true

/-- A mask that has a flag of fixed precedence has a first one. -/
theorem exists_precedes {flag mask : Capabilities} (h : flag ∈ precedence)
    (hMask : mask.includes flag = true) : ∃ first, Precedes first mask := by
  have hFound : (precedence.find? fun flag => mask.includes flag).isSome = true :=
    List.find?_isSome.mpr ⟨flag, h, hMask⟩
  obtain ⟨first, hFirst⟩ := Option.isSome_iff_exists.mp hFound
  obtain ⟨hIncludes, before, after, hSplit, hNone⟩ := List.find?_eq_some_iff_append.mp hFirst
  exact ⟨first, before, after, hSplit, by simpa using hNone, hIncludes⟩

/-- A name by precedence is that of the first flag: its capability is a standard one, so it is there
and gives a name. -/
theorem precedentName?_of_precedes {flag mask : Capabilities}
    (hStandard : Catalog.standard.Extends c) (h : Precedes flag mask) :
    ∃ x, (Catalog.standard : Catalog Code).get? flag = some x ∧ x.typeName.isSome = true ∧
      precedentName? c mask = x.typeName := by
  obtain ⟨before, after, hSplit, hNone, hMask⟩ := h
  have hFlag : flag ∈ precedence := by simp [hSplit]
  obtain ⟨x, hx, hName⟩ := @standard_get?_of_precedence Code _ hFlag
  refine ⟨x, hx, hName, ?_⟩
  -- nothing in front of the flag is asked for its name
  have hSkipped : before.filter (fun other => mask.includes other) = [] :=
    List.filter_eq_nil_iff.mpr fun other hOther => by simp [hNone other hOther]
  obtain ⟨name, hSome⟩ := Option.isSome_iff_exists.mp hName
  rw [precedentName?, hSplit, List.filter_append, hSkipped, List.nil_append,
    List.filter_cons_of_pos hMask, List.findSome?_cons, hStandard.get? hx, Option.bind_some, hSome]

/-- What the flags of fixed precedence say is up to the standard catalog. -/
theorem precedentName?_extends (h : Catalog.standard.Extends c) (flags : Capabilities) :
    precedentName? c flags = precedentName? (Catalog.standard : Catalog Code) flags := by
  unfold precedentName?
  rw [← List.head?_filterMap, ← List.head?_filterMap, List.filterMap_congr]
  intro flag hFlag
  obtain ⟨x, hx, -⟩ := @standard_get?_of_precedence Code _ (List.mem_filter.mp hFlag).1
  rw [h.get? hx, hx]

/-- A name by precedence is that of a capability of the mask. -/
theorem typeName_of_precedentName? {name : String} (h : precedentName? c flags = some name) :
    ∃ x ∈ c.forMask flags, x.typeName = some name := by
  obtain ⟨flag, hFlag, hName⟩ := List.exists_of_findSome?_eq_some h
  obtain ⟨x, hx, hxName⟩ := Option.bind_eq_some_iff.mp hName
  exact ⟨x, Catalog.mem_forMask_of_get? hx (List.mem_filter.mp hFlag).2, hxName⟩

/-- If a standard capability of the mask gives a name, the name is that of the first flag of fixed
precedence, in the standard catalog and after it has grown. -/
theorem nameFor_of_named (h : Catalog.standard.Extends c)
    (hNamed : ∃ x ∈ (Catalog.standard : Catalog Code).forMask flags, x.typeName.isSome = true) :
    nameFor c flags = nameFor (Catalog.standard : Catalog Code) flags ∧
      ∃ flag x, Precedes flag flags ∧ (Catalog.standard : Catalog Code).get? flag = some x ∧
        x.typeName = some (nameFor c flags) := by
  obtain ⟨y, hy, hName⟩ := hNamed
  obtain ⟨hStandard, hMask⟩ := Catalog.mem_forMask.mp hy
  obtain ⟨flag, hFirst⟩ := exists_precedes (mem_precedence_of_typeName hStandard hName) hMask
  obtain ⟨x, hx, hSome, hPrecedent⟩ := precedentName?_of_precedes h hFirst
  obtain ⟨name, hTypeName⟩ := Option.isSome_iff_exists.mp hSome
  have hNew : nameFor c flags = name := by
    rw [nameFor, hPrecedent, hTypeName, Option.some_or, Option.getD_some]
  have hOld : nameFor (Catalog.standard : Catalog Code) flags = name := by
    rw [nameFor, ← precedentName?_extends h, hPrecedent, hTypeName, Option.some_or,
      Option.getD_some]
  exact ⟨hNew.trans hOld.symm, flag, x, hFirst, hx, by rw [hTypeName, hNew]⟩

theorem nameFor_of_register (hr : c.register d = .ok c') (hMask : flags.includes d.flag = false) :
    nameFor c' flags = nameFor c flags := by
  have hPrecedent : precedentName? c' flags = precedentName? c flags := by
    obtain ⟨-, -, rfl⟩ := Catalog.register_eq_ok_iff.mp hr
    unfold precedentName?
    rw [← List.head?_filterMap, ← List.head?_filterMap, List.filterMap_congr]
    intro flag hFlag
    -- a flag of the mask is not the new one
    have hNe : d.flag ≠ flag := by
      rintro rfl
      have hOwn := (List.mem_filter.mp hFlag).2
      rw [hMask] at hOwn
      cases hOwn
    unfold Catalog.get?
    rw [List.find?_append]
    simp [hNe]
  unfold nameFor
  rw [hPrecedent, Catalog.forMask_of_register hr hMask]

/-- With the new bit the name is that of the rest of the mask, if any capability there gives one. -/
theorem nameFor_of_register_includes (hStandard : Catalog.standard.Extends c)
    (hr : c.register d = .ok c') (hMask : flags.includes d.flag = true) :
    nameFor c' flags =
      if (c.forMask (flags.without d.flag)).any (·.typeName.isSome) then
        nameFor c (flags.without d.flag)
      else d.typeName.getD plainName := by
  have hForMask := Catalog.forMask_of_register_includes hr hMask
  obtain ⟨-, hApart, hc'⟩ := Catalog.register_eq_ok_iff.mp hr
  have hExtends : c.Extends c' := ⟨[d], by rw [hc']⟩
  -- the flags of fixed precedence are taken, so none of them is the new one
  have hPrecedent : precedentName? c' flags = precedentName? c (flags.without d.flag) := by
    rw [precedentName?_extends (hStandard.trans hExtends), precedentName?_extends hStandard]
    unfold precedentName?
    rw [List.filter_congr]
    intro flag hFlag
    obtain ⟨x, hx, -⟩ := @standard_get?_of_precedence Code _ hFlag
    have hx' := hStandard.get? hx
    have hxFlag : x.flag = flag := by simpa using List.find?_some hx'
    have hOther := hApart x (List.mem_of_find?_eq_some hx')
    rw [hxFlag] at hOther
    exact (Mask.includes_without hOther).symm
  unfold nameFor
  rw [hPrecedent, hForMask, List.findSome?_append]
  cases hName : precedentName? c (flags.without d.flag) with
  | some name =>
    obtain ⟨x, hx, hxName⟩ := typeName_of_precedentName? hName
    have hAny : (c.forMask (flags.without d.flag)).any (·.typeName.isSome) = true :=
      List.any_eq_true.mpr ⟨x, hx, by rw [hxName]; rfl⟩
    rw [hAny]
    rfl
  | none =>
    have hAny : (c.forMask (flags.without d.flag)).any (·.typeName.isSome) =
        ((c.forMask (flags.without d.flag)).findSome? (·.typeName)).isSome := by
      rw [Bool.eq_iff_iff, List.any_eq_true, List.findSome?_isSome_iff]
    rw [hAny]
    cases (c.forMask (flags.without d.flag)).findSome? (·.typeName) with
    | some name => rfl
    | none =>
      rw [List.findSome?_singleton]
      rfl

end Shape

/-! ## Inspections -/

namespace Environment

variable (env : Environment Code Client) {c c' : Catalog Code} {d : Capability Code}

/-- A probe finds the capability that it is for, or none. -/
theorem ensures_examine (h : Handle) (f : Findings) (x : Capability Code) :
    Act.Ensures (fun _ => True) (env.examine h f x)
      (fun f' _ => f'.detected = f.detected ∨ f'.detected = f.detected ||| x.flag)
      fun _ _ => True := by
  rw [examine]
  split
  · exact fun _ _ => Or.inl rfl
  · have hProbe : Act.Ensures (fun _ => True)
        ((env.probe x.probe h f).onError fun e s => s.emit (.probeRaised x.name h e.text))
        (fun _ _ => True) fun _ _ => True := by
      intro s _
      split <;> trivial
    refine hProbe.bind fun answer => ?_
    obtain ⟨found, tag⟩ := answer
    cases found with
    | false => exact fun _ _ => Or.inl rfl
    | true => exact fun _ _ => Or.inr rfl

/-- What an inspection finds is made of the bits of its catalog. -/
theorem ensures_foldlM_examine (h : Handle) {flag : Capabilities} {l : List (Capability Code)}
    (hApart : ∀ x ∈ l, x.flag.meets flag = false) (f : Findings)
    (hf : f.detected.meets flag = false) :
    Act.Ensures (fun _ => True) (l.foldlM (env.examine h) f)
      (fun f' _ => f'.detected.meets flag = false) fun _ _ => True := by
  -- each capability adds its own bit at most
  induction l generalizing f with
  | nil => exact fun _ _ => hf
  | cons x rest ih =>
    rw [List.foldlM_cons]
    refine (ensures_examine env h f x).bind fun f' => ?_
    intro s hs
    refine ih (fun y hy => hApart y (List.mem_cons_of_mem _ hy)) f' ?_ s trivial
    have hx := hApart x (List.mem_cons_self ..)
    rcases hs with hs | hs
    · rw [hs]
      exact hf
    · rw [hs, Mask.union_meets, hf, hx]
      rfl

/-- An inspection under the larger catalog goes on where that under the smaller one ends. -/
theorem inspect_register (hr : c.register d = .ok c') (h : Handle) :
    env.inspect c' h =
      (do
        let f ← c.capabilities.foldlM (env.examine h) Findings.start
        return (← env.examine h f d).detected) := by
  obtain ⟨-, -, rfl⟩ := Catalog.register_eq_ok_iff.mp hr
  unfold inspect
  rw [List.foldlM_append]
  simp

/-- What the inspection finds under the larger catalog, up to the new bit. -/
structure Extends (c c' : Catalog Code) (d : Capability Code)
    (h : Handle) (s : Session Code Client) : Prop where
  /-- An error of the inspection stays what it was. -/
  error : ∀ e s', env.inspect c h s = .error e s' → env.inspect c' h s = .error e s'
  /-- After an inspection that ends with a mask, the new capability is looked at, and no bit but
  its own can join. -/
  ok    : ∀ mask s', env.inspect c h s = .ok mask s' →
    ∃ f : Findings, f.detected = mask ∧
      env.inspect c' h s = (do return (← env.examine h f d).detected) s' ∧
      ∀ mask' s'', env.inspect c' h s = .ok mask' s'' → mask'.without d.flag = mask

theorem extends_of_register (hr : c.register d = .ok c')
    (h : Handle) (s : Session Code Client) : env.Extends c c' d h s := by
  obtain ⟨hSingle, hApart, -⟩ := Catalog.register_eq_ok_iff.mp hr
  have hInspect := inspect_register env hr h
  cases hFold : c.capabilities.foldlM (env.examine h) Findings.start s with
  | error e s' =>
    have hOld : env.inspect c h s = .error e s' := Act.bind_error hFold
    have hNew : env.inspect c' h s = .error e s' := by rw [hInspect, Act.bind_error hFold]
    refine ⟨?_, ?_⟩
    · intro e' s'' hEnd
      cases hOld.symm.trans hEnd
      exact hNew
    · intro mask s'' hEnd
      cases hOld.symm.trans hEnd
  | ok f s' =>
    have hOld : env.inspect c h s = .ok f.detected s' := Act.bind_ok hFold
    have hNew : env.inspect c' h s = (do return (← env.examine h f d).detected) s' := by
      rw [hInspect, Act.bind_ok hFold]
    -- no probe of the smaller catalog has found the new bit
    have hFound := ensures_foldlM_examine env h hApart Findings.start
      (Mask.meets_eq_false_iff.mpr (by simp [Findings.start])) s trivial
    rw [hFold] at hFound
    refine ⟨?_, ?_⟩
    · intro e s'' hEnd
      cases hOld.symm.trans hEnd
    · intro mask s'' hEnd
      cases hOld.symm.trans hEnd
      refine ⟨f, rfl, hNew, ?_⟩
      intro mask' s₂ hEnd'
      rw [hNew] at hEnd'
      have hLast := ensures_examine env h f d s' trivial
      cases hExamine : env.examine h f d s' with
      | error e s₃ =>
        rw [Act.bind_error hExamine] at hEnd'
        cases hEnd'
      | ok f' s₃ =>
        rw [Act.bind_ok hExamine] at hEnd'
        cases hEnd'
        rw [hExamine] at hLast
        rcases hLast with hSame | hMore
        · rw [hSame, Mask.without_of_not_meets hFound]
        · rw [hMore, Mask.union_without hFound]

end Environment

/--
**A capability that joins disturbs nothing.** Start with the standard catalog, ask any capabilities
to join, and let one more join. A mask without its bit has the capabilities, slots and name that it
had. A mask with its bit has those of the rest of the mask; the slots of the new capability join,
and its name counts only if nothing else has one. If standard capabilities of the mask give names,
the name is that of the capability whose flag is the first one of the fixed precedence that the mask
has, as it was before anything joined. An inspection runs what it ran, with the same effect and the
same error, and finds what it found, but for the new bit.
-/
theorem registration_conservative (ds : List (Capability Code)) (d : Capability Code)
    {c' : Catalog Code} (hr : (Catalog.standard.registerEach ds).2.register d = .ok c') :
    let c := (Catalog.standard.registerEach ds).2
    (∀ mask : Capabilities, mask.includes d.flag = false →
      c'.forMask mask = c.forMask mask ∧ c'.slotsFor mask = c.slotsFor mask ∧
        Shape.nameFor c' mask = Shape.nameFor c mask) ∧
    (∀ mask : Capabilities, mask.includes d.flag = true →
      c'.slotsFor mask = c.slotsFor (mask.without d.flag) ||| d.slots ∧
        Shape.nameFor c' mask =
          if (c.forMask (mask.without d.flag)).any (·.typeName.isSome) then
            Shape.nameFor c (mask.without d.flag)
          else d.typeName.getD Shape.plainName) ∧
    (∀ mask : Capabilities,
      (∃ x ∈ (Catalog.standard : Catalog Code).forMask mask, x.typeName.isSome = true) →
        Shape.nameFor c' mask = Shape.nameFor (Catalog.standard : Catalog Code) mask ∧
          ∃ flag x, Shape.Precedes flag mask ∧
            (Catalog.standard : Catalog Code).get? flag = some x ∧
            x.typeName = some (Shape.nameFor c' mask)) ∧
    ∀ (env : Environment Code Client) h s, env.Extends c c' d h s := by
  intro c
  have hStandard : Catalog.standard.Extends c := Catalog.extends_registerEach _ ds
  have hExtends : c.Extends c' := by
    obtain ⟨-, -, rfl⟩ := Catalog.register_eq_ok_iff.mp hr
    exact List.prefix_append ..
  refine ⟨?_, ?_, ?_, ?_⟩
  · intro mask hMask
    exact ⟨Catalog.forMask_of_register hr hMask, Catalog.slotsFor_of_register hr hMask,
      Shape.nameFor_of_register hr hMask⟩
  · intro mask hMask
    exact ⟨Catalog.slotsFor_of_register_includes hr hMask,
      Shape.nameFor_of_register_includes hStandard hr hMask⟩
  · intro mask hNamed
    exact Shape.nameFor_of_named (hStandard.trans hExtends) hNamed
  · intro env h s
    exact env.extends_of_register hr h s

/-- A capability of a client, with a name for shapes. -/
def exampleCapability (bit : Nat) (name : String) : Capability Unit where
  flag := Mask.bit bit
  name
  probe := .custom ()
  slots := Slots.length
  typeName := some name

/-- Two capabilities of a client: the first one names the mask of both, unless a standard one is
there. Of two standard ones the error names the mask, though callables come first in the catalog. -/
theorem registration_conservative_twice :
    let c := (Catalog.standard.registerEach [exampleCapability 20 "First"]).2
    let d := exampleCapability 21 "Second"
    ∃ c', c.register d = .ok c' ∧ Shape.nameFor c' (Mask.bit 20 ||| Mask.bit 21) = "First" ∧
      Shape.nameFor c' (Mask.bit 21) = "Second" ∧
      Shape.Precedes Capabilities.error
        (Mask.bit 21 ||| Capabilities.callable ||| Capabilities.error) ∧
      Shape.nameFor c' (Mask.bit 21 ||| Capabilities.callable ||| Capabilities.error) =
        "ForeignException" ∧
      ∀ (env : Environment Unit Unit) h s, env.Extends c c' d h s := by
  intro c d
  have hFirst : (Catalog.standard.registerEach [exampleCapability 20 "First"]).2 =
      ⟨Catalog.standard.capabilities ++ [exampleCapability 20 "First"]⟩ := by
    have hOk : (Catalog.standard : Catalog Unit).register (exampleCapability 20 "First") = _ :=
      Catalog.register_eq_ok_iff.mpr ⟨by decide, by decide, rfl⟩
    rw [Catalog.registerEach, hOk]
    rfl
  have hr : c.register d = .ok ⟨c.capabilities ++ [d]⟩ := by
    refine Catalog.register_eq_ok_iff.mpr ⟨by decide, ?_, rfl⟩
    show ∀ x ∈ (Catalog.standard.registerEach [exampleCapability 20 "First"]).2.capabilities, _
    rw [hFirst]
    decide
  obtain ⟨-, hWith, hStandard, hInspect⟩ := @registration_conservative Unit Unit _ d _ hr
  refine ⟨_, hr, ?_, ?_, ⟨[], _, rfl, nofun, by decide⟩, ?_, hInspect⟩
  · rw [(hWith (Mask.bit 20 ||| Mask.bit 21) (by decide)).2, hFirst]
    decide
  · rw [(hWith (Mask.bit 21) (by decide)).2, hFirst]
    decide
  · have hError : (Catalog.standard : Catalog Unit).get? Capabilities.error ≠ none := nofun
    obtain ⟨x, hx⟩ := Option.ne_none_iff_exists'.mp hError
    have hNamed := hStandard (Mask.bit 21 ||| Capabilities.callable ||| Capabilities.error)
      ⟨x, Catalog.mem_forMask_of_get? hx (by decide), by cases hx; rfl⟩
    rw [hNamed.1]
    decide

end ProxyBridge
