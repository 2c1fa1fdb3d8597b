import Mathlib.Data.List.Perm.Subperm
import ProxyBridge.Proofs.Inspection

/-!
# Every bit of a catalog has one owner

A catalog is a list, and a mask speaks about it by bits. The two fit together because a capability
joins with one bit that nobody has: so a bit finds its capability, a mask finds the capabilities of
its bits, each once, and there is room for as many capabilities as a mask has bits. A registration
that is refused leaves the catalog as it was, so histories with refusals make no other catalogs.

## Results

* `Mask.isSingle_iff` — the masks with a single bit.
* `Catalog.Distinct.get?_bit_iff` — looking up a bit.
* `Catalog.Distinct.filter_forMask` — the capabilities of a mask, bit by bit.
* `Catalog.Distinct.length_le` — there are no more capabilities than bits.
* `Catalog.register_eq_ok_iff_free` — what a registration needs.
* `registered_bits_unique` — all of this, after any registrations.
-/

namespace ProxyBridge

variable {Code : Type}

/-! ## Single bits -/

namespace Mask

theorem getLsbD_bit {i : Nat} (hi : i < 32) (j : Nat) : (bit i).getLsbD j = decide (j = i) := by
  rw [bit, BitVec.getLsbD_shiftLeft, BitVec.getLsbD_one]
  by_cases hj : j = i
  · simp [hj, hi]
  · simp only [hj, decide_false]
    by_cases hLt : j < i
    · simp [hLt]
    · simp [show j - i ≠ 0 by omega]

/-- Bits are told apart by their places. -/
theorem bit_inj {i j : Nat} (hi : i < 32) (hj : j < 32) (h : bit i = bit j) : i = j := by
  have hBit := congrArg (BitVec.getLsbD · i) h
  simpa [getLsbD_bit hi, getLsbD_bit hj] using hBit

theorem includes_bit {i : Nat} (hi : i < 32) (m : Mask) : m.includes (bit i) = m.getLsbD i := by
  rw [Bool.eq_iff_iff, includes_iff]
  simp [getLsbD_bit hi]

theorem meets_bit {i : Nat} (hi : i < 32) (m : Mask) : m.meets (bit i) = m.getLsbD i := by
  rw [Bool.eq_iff_iff, meets_iff]
  simp [getLsbD_bit hi]

theorem bits_bit {i : Nat} (hi : i < 32) : (bit i).bits = [i] := by
  rw [bits, show (bit i).getLsbD = fun j => j == i from funext (getLsbD_bit hi),
    List.filter_beq, List.nodup_range.count, if_pos (List.mem_range.mpr hi)]
  rfl

/-- The masks with a single bit are the bits. -/
theorem isSingle_iff {m : Mask} : m.isSingle = true ↔ ∃ i < 32, m = bit i := by
  constructor
  · intro h
    obtain ⟨i, hBit⟩ := exists_bit_of_isSingle h
    have hi : i < 32 := BitVec.lt_of_getLsbD ((hBit i).mpr rfl)
    refine ⟨i, hi, BitVec.eq_of_getLsbD_eq fun j _ => ?_⟩
    rw [getLsbD_bit hi, Bool.eq_iff_iff, hBit, decide_eq_true_eq]
  · rintro ⟨i, hi, rfl⟩
    rw [isSingle, bits_bit hi]
    rfl

end Mask

namespace Catalog

variable {c : Catalog Code} {d x : Capability Code} {i : Nat}

/-! ## Owners -/

/-- The capability owns this bit: it is in the catalog, and the bit is its flag. -/
def Owns (c : Catalog Code) (i : Nat) (d : Capability Code) : Prop :=
  d ∈ c.capabilities ∧ d.flag = Mask.bit i

theorem Distinct.flags_nodup (hc : c.Distinct) : (c.capabilities.map (·.flag)).Nodup := by
  rw [List.Nodup, List.pairwise_map]
  refine hc.apart.imp_of_mem ?_
  intro a b ha _ hApart hEq
  obtain ⟨i, hi, hFlag⟩ := Mask.isSingle_iff.mp (hc.single a ha)
  rw [← hEq, hFlag, Mask.meets_bit hi, Mask.getLsbD_bit hi] at hApart
  simp at hApart

theorem Distinct.eq_of_flag_eq (hc : c.Distinct) (hd : d ∈ c.capabilities)
    (hx : x ∈ c.capabilities) (h : d.flag = x.flag) : d = x :=
  List.inj_on_of_nodup_map hc.flags_nodup hd hx h

/-- A registered bit is the flag of a capability. -/
theorem Distinct.registered_iff (hc : c.Distinct) (hi : i < 32) :
    c.registered.getLsbD i = true ↔ ∃ d, c.Owns i d := by
  rw [registered, Mask.getLsbD_unionAll, List.any_map, List.any_eq_true]
  refine exists_congr fun d => and_congr_right fun hd => ?_
  obtain ⟨j, hj, hFlag⟩ := Mask.isSingle_iff.mp (hc.single d hd)
  rw [Function.comp_apply, hFlag, Mask.getLsbD_bit hj, decide_eq_true_eq]
  exact ⟨fun h => h ▸ rfl, fun h => (Mask.bit_inj hj hi h).symm⟩

theorem Distinct.get?_bit_iff (hc : c.Distinct) : c.get? (Mask.bit i) = some d ↔ c.Owns i d := by
  constructor
  · intro h
    exact ⟨List.mem_of_find?_eq_some h, by simpa using List.find?_some h⟩
  · rintro ⟨hd, hFlag⟩
    -- something with the flag is found, and the flag has one capability
    cases hFound : c.get? (Mask.bit i) with
    | none =>
      have hNone := List.find?_eq_none.mp hFound d hd
      simp [hFlag] at hNone
    | some x =>
      have hx : x.flag = Mask.bit i := by simpa using List.find?_some hFound
      rw [hc.eq_of_flag_eq (List.mem_of_find?_eq_some hFound) hd (hx.trans hFlag.symm)]

theorem get?_bit_eq_none_iff : c.get? (Mask.bit i) = none ↔ ∀ d, ¬c.Owns i d := by
  rw [get?, List.find?_eq_none]
  simp [Owns]

/-- There are no more capabilities than bits. -/
theorem Distinct.length_le (hc : c.Distinct) : c.capabilities.length ≤ 32 := by
  have hBits : c.capabilities.map (·.flag) ⊆ (List.range 32).map Mask.bit := by
    intro flag hFlag
    obtain ⟨d, hd, rfl⟩ := List.mem_map.mp hFlag
    obtain ⟨i, hi, hBit⟩ := Mask.isSingle_iff.mp (hc.single d hd)
    exact List.mem_map.mpr ⟨i, List.mem_range.mpr hi, hBit.symm⟩
  simpa using (hc.flags_nodup.subperm hBits).length_le

/-! ## The capabilities of a mask -/

/-- Whoever is among the capabilities of a mask owns a bit of it. -/
theorem Distinct.mem_forMask_iff (hc : c.Distinct) {mask : Capabilities} :
    d ∈ c.forMask mask ↔ ∃ i < 32, mask.getLsbD i = true ∧ c.Owns i d := by
  rw [mem_forMask]
  constructor
  · rintro ⟨hd, hIn⟩
    obtain ⟨i, hi, hFlag⟩ := Mask.isSingle_iff.mp (hc.single d hd)
    rw [hFlag, Mask.includes_bit hi] at hIn
    exact ⟨i, hi, hIn, hd, hFlag⟩
  · rintro ⟨i, hi, hIn, hd, hFlag⟩
    rw [hFlag, Mask.includes_bit hi]
    exact ⟨hd, hIn⟩

theorem mem_filter_forMask_iff {mask : Capabilities} (hi : i < 32) :
    d ∈ (c.forMask mask).filter (fun d => d.flag = Mask.bit i) ↔
      mask.getLsbD i = true ∧ c.Owns i d := by
  rw [List.mem_filter, mem_forMask, decide_eq_true_eq, Owns]
  constructor
  · rintro ⟨⟨hd, hIn⟩, hFlag⟩
    rw [hFlag, Mask.includes_bit hi] at hIn
    exact ⟨hIn, hd, hFlag⟩
  · rintro ⟨hIn, hd, hFlag⟩
    rw [hFlag, Mask.includes_bit hi]
    exact ⟨⟨hd, hIn⟩, rfl⟩

/-- A bit of a mask has its owner in the list once, if it has an owner; no other bit has one. -/
theorem Distinct.filter_forMask (hc : c.Distinct) (mask : Capabilities) (hi : i < 32) :
    (c.forMask mask).filter (fun d => d.flag = Mask.bit i) =
      if mask.getLsbD i then (c.get? (Mask.bit i)).toList else [] := by
  -- both lists have no repetitions, one entry at most, and the same members
  have hNodup : c.capabilities.Nodup := hc.flags_nodup.of_map
  have hOnce : ((c.forMask mask).filter fun d => d.flag = Mask.bit i).Nodup :=
    (hNodup.filter _).filter _
  cases hGet : c.get? (Mask.bit i) with
  | none =>
    rw [Option.toList_none, ite_self, List.eq_nil_iff_forall_not_mem]
    intro d hd
    exact get?_bit_eq_none_iff.mp hGet d ((mem_filter_forMask_iff hi).mp hd).2
  | some d =>
    have hOwner := hc.get?_bit_iff.mp hGet
    by_cases hIn : mask.getLsbD i = true
    · rw [if_pos hIn, Option.toList_some]
      refine List.perm_singleton.mp ((List.perm_ext_iff_of_nodup hOnce (List.nodup_singleton d)).mpr
        fun x => ?_)
      rw [mem_filter_forMask_iff hi, List.mem_singleton]
      constructor
      · rintro ⟨-, hx⟩
        exact hc.eq_of_flag_eq hx.1 hOwner.1 (hx.2.trans hOwner.2.symm)
      · rintro rfl
        exact ⟨hIn, hOwner⟩
    · rw [if_neg hIn, List.eq_nil_iff_forall_not_mem]
      intro x hx
      exact hIn ((mem_filter_forMask_iff hi).mp hx).1

/-! ## Registration -/

/-- The flag is a single bit that nobody owns. -/
def Free (c : Catalog Code) (flag : Capabilities) : Prop :=
  ∃ i < 32, flag = Mask.bit i ∧ c.registered.getLsbD i = false

theorem register_eq_ok_iff_free {c' : Catalog Code} :
    c.register d = .ok c' ↔ c.Free d.flag ∧ c' = ⟨c.capabilities ++ [d]⟩ := by
  have hApart : (∀ x ∈ c.capabilities, x.flag.meets d.flag = false) ↔
      c.registered.meets d.flag = false := by
    rw [registered, Mask.unionAll_meets]
    simp
  rw [register_eq_ok_iff, hApart, ← and_assoc, Mask.isSingle_iff]
  refine and_congr_left fun _ => ?_
  constructor
  · rintro ⟨⟨i, hi, hFlag⟩, hMeets⟩
    rw [hFlag, Mask.meets_bit hi] at hMeets
    exact ⟨i, hi, hFlag, hMeets⟩
  · rintro ⟨i, hi, hFlag, hFree⟩
    rw [hFlag, Mask.meets_bit hi]
    exact ⟨⟨i, hi, rfl⟩, hFree⟩

theorem register_of_not_free (h : ¬c.Free d.flag) :
    c.register d = .error (.duplicateCapability d.flag) := by
  cases hr : c.register d with
  | ok c' => exact absurd (register_eq_ok_iff_free.mp hr).1 h
  | error e =>
    rw [register] at hr
    split at hr
    · exact hr.symm
    · cases hr

/-- What registration keeps of a catalog: one bit for each capability, one capability for each bit,
and a next registration that goes by the bits that are left. -/
structure OneOwnerEach (c : Catalog Code) : Prop where
  single : ∀ d ∈ c.capabilities, ∃ i < 32, d.flag = Mask.bit i
  apart : c.capabilities.Pairwise fun a b => a.flag &&& b.flag = 0#32
  length_le : c.capabilities.length ≤ 32
  registered : ∀ i < 32, c.registered.getLsbD i = true ↔ ∃ d, c.Owns i d
  get?_eq_some : ∀ i < 32, ∀ d, c.get? (Mask.bit i) = some d ↔ c.Owns i d
  get?_eq_none : ∀ i < 32, c.get? (Mask.bit i) = none ↔ c.registered.getLsbD i = false
  /-- The capabilities of a mask are in the order of the catalog. -/
  forMask_sublist : ∀ mask, (c.forMask mask).Sublist c.capabilities
  mem_forMask : ∀ mask d, d ∈ c.forMask mask ↔ ∃ i < 32, mask.getLsbD i = true ∧ c.Owns i d
  /-- Each bit of a mask that is owned has one capability among them. -/
  forMask_once : ∀ mask, ∀ i < 32, (c.forMask mask).countP (fun d => d.flag = Mask.bit i) =
    if mask.getLsbD i && c.registered.getLsbD i then 1 else 0
  register_ok : ∀ d c', c.register d = .ok c' ↔ c.Free d.flag ∧ c' = ⟨c.capabilities ++ [d]⟩
  /-- A refusal names the bits that were asked for, and the catalog goes on as it was. -/
  register_error : ∀ d, ¬c.Free d.flag →
    c.register d = .error (.duplicateCapability d.flag) ∧
      ∀ rest, c.registerEach (d :: rest) =
        (some (.duplicateCapability d.flag) :: (c.registerEach rest).1, (c.registerEach rest).2)

theorem Distinct.oneOwnerEach (hc : c.Distinct) : c.OneOwnerEach where
  single d hd := Mask.isSingle_iff.mp (hc.single d hd)
  apart := hc.apart.imp fun h => by simpa [Mask.meets] using h
  length_le := hc.length_le
  registered _ hi := hc.registered_iff hi
  get?_eq_some _ _ _ := hc.get?_bit_iff
  get?_eq_none i hi := by
    rw [get?_bit_eq_none_iff, ← not_exists, ← hc.registered_iff hi, Bool.not_eq_true]
  forMask_sublist _ := List.filter_sublist
  mem_forMask _ _ := hc.mem_forMask_iff
  forMask_once mask i hi := by
    rw [List.countP_eq_length_filter, hc.filter_forMask mask hi]
    have hGet : (c.get? (Mask.bit i)).isSome = c.registered.getLsbD i := by
      rw [Bool.eq_iff_iff, hc.registered_iff hi, Option.isSome_iff_exists]
      exact exists_congr fun d => hc.get?_bit_iff
    rw [← hGet]
    cases mask.getLsbD i <;> cases c.get? (Mask.bit i) <;> rfl
  register_ok _ _ := register_eq_ok_iff_free
  register_error d hd := by
    have hr := register_of_not_free hd
    refine ⟨hr, fun rest => ?_⟩
    rw [registerEach, hr]

end Catalog

/-- **Bits stay unique.** Whatever is asked to join, and whether it may or not: every capability of
the catalog owns one bit that no other has, a bit leads to its owner and a mask to the owners of its
bits, and the next capability joins if its bit is free. -/
theorem registered_bits_unique (ds : List (Capability Code)) :
    (Catalog.empty.registerEach ds).2.OneOwnerEach ∧
      (Catalog.standard.registerEach ds).2.OneOwnerEach :=
  ⟨(Catalog.Reachable.empty.registerEach ds).distinct.oneOwnerEach,
    (Catalog.Reachable.standard.registerEach ds).distinct.oneOwnerEach⟩

-- no bit, two bits and a taken bit are refused; a free bit is taken once
example : ((Catalog.standard : Catalog Unit).registerEach
    ([0#32, 3#32, Mask.bit 5, Mask.bit 31, Mask.bit 31].map fun flag =>
      { flag, name := "client", probe := .explicit, slots := 0#32 })).1 =
    [some (.duplicateCapability 0#32), some (.duplicateCapability 3#32),
      some (.duplicateCapability (Mask.bit 5)), none,
      some (.duplicateCapability (Mask.bit 31))] := by
  decide

end ProxyBridge
