import ProxyBridge.Proofs.LengthReading
import ProxyBridge.Proofs.Registration

/-!
# A shape is the union of its capabilities

The slots of a mask are computed by going through the capabilities of the mask, the table of a shape
by going through the bits of its slots, and a check by comparing two sets of slots. All three
describe one set. That the slots of two masks together are the slots of their union rests on flags
with one bit: a flag with two bits could be in a union and in neither part.

## Results

* `Catalog.getLsbD_slotsFor` — the slots of a mask, bit by bit.
* `Catalog.Distinct.slotsFor_union` — union of masks, union of slots.
* `Shape.mem_slotTable_iff`, `Shape.slotTable_increasing` — the table of a shape.
* `slots_exact_union` — all of this, after any registrations.
-/

namespace ProxyBridge

variable {Code : Type}

/-! ## The slots of a mask -/

namespace Catalog

variable {c : Catalog Code}

theorem slotsFor_empty (hc : c.Distinct) : c.slotsFor 0#32 = Slots.base := by
  have hNone : c.forMask 0#32 = [] := by
    rw [List.eq_nil_iff_forall_not_mem]
    intro d hd
    obtain ⟨i, -, hBit, -⟩ := hc.mem_forMask_iff.mp hd
    simp at hBit
  rw [slotsFor, hNone]
  rfl

/-- A slot of a mask is one of the base, or of a capability in the mask. -/
theorem getLsbD_slotsFor (c : Catalog Code) (mask : Capabilities) {i : Nat} (hi : i < 32) :
    (c.slotsFor mask).getLsbD i = true ↔
      Slots.base.getLsbD i = true ∨ ∃ d ∈ c.forMask mask, d.slots.getLsbD i = true := by
  simp only [← Mask.meets_bit hi]
  rw [slotsFor_meets, Bool.or_eq_true, List.any_eq_true]

/-- The capabilities of a union are those of the parts. -/
theorem Distinct.mem_forMask_union (hc : c.Distinct) {F G : Capabilities} {d : Capability Code} :
    d ∈ c.forMask (F ||| G) ↔ d ∈ c.forMask F ∨ d ∈ c.forMask G := by
  simp only [hc.mem_forMask_iff, BitVec.getLsbD_or, Bool.or_eq_true, or_and_right, and_or_left,
    exists_or]

theorem Distinct.slotsFor_union (hc : c.Distinct) (F G : Capabilities) :
    c.slotsFor (F ||| G) = c.slotsFor F ||| c.slotsFor G := by
  refine BitVec.eq_of_getLsbD_eq fun i hi => ?_
  rw [BitVec.getLsbD_or, Bool.eq_iff_iff, Bool.or_eq_true, getLsbD_slotsFor c _ hi,
    getLsbD_slotsFor c _ hi, getLsbD_slotsFor c _ hi]
  simp only [hc.mem_forMask_union, or_and_right, exists_or]
  exact or_or_distrib_left

/-- A bit without an owner brings no capability. -/
theorem Distinct.forMask_registered (hc : c.Distinct) (F : Capabilities) :
    c.forMask (F &&& c.registered) = c.forMask F := by
  refine List.filter_congr fun d hd => ?_
  obtain ⟨i, hi, hFlag⟩ := Mask.isSingle_iff.mp (hc.single d hd)
  rw [hFlag, Mask.includes_bit hi, Mask.includes_bit hi, BitVec.getLsbD_and,
    (hc.registered_iff hi).mpr ⟨d, hd, hFlag⟩, Bool.and_true]

end Catalog

/-! ## The table of a shape -/

namespace Shape

variable (s : Shape)

theorem mem_slotTable_iff {slot : Slots} :
    slot ∈ s.slotTable ↔ ∃ i < 32, slot = Mask.bit i ∧ s.slots.getLsbD i = true := by
  simp only [slotTable, List.mem_map, Mask.bits, List.mem_filter, List.mem_range]
  constructor
  · rintro ⟨i, ⟨hi, hBit⟩, rfl⟩
    exact ⟨i, hi, rfl, hBit⟩
  · rintro ⟨i, hi, rfl, hBit⟩
    exact ⟨i, ⟨hi, hBit⟩, rfl⟩

theorem bit_mem_slotTable_iff {i : Nat} (hi : i < 32) :
    Mask.bit i ∈ s.slotTable ↔ s.slots.getLsbD i = true := by
  rw [mem_slotTable_iff]
  constructor
  · rintro ⟨j, hj, hEq, hBit⟩
    rwa [Mask.bit_inj hi hj hEq]
  · exact fun hBit => ⟨i, hi, rfl, hBit⟩

theorem slotTable_increasing : s.slotTable.Pairwise fun a b => a.toNat < b.toNat := by
  have hWeight {i : Nat} (hi : i < 32) : (Mask.bit i).toNat = 2 ^ i := by
    rw [Mask.bit, BitVec.toNat_shiftLeft, BitVec.toNat_ofNat, Nat.shiftLeft_eq, Nat.one_mul,
      Nat.mod_eq_of_lt (Nat.pow_lt_pow_right Nat.one_lt_two hi)]
  rw [slotTable, List.pairwise_map]
  have hBits : s.slots.bits.Pairwise (· < ·) := List.pairwise_lt_range.filter _
  refine hBits.imp_of_mem fun hi hj hLt => ?_
  have hLt32 {k : Nat} (hk : k ∈ s.slots.bits) : k < 32 :=
    List.mem_range.mp (List.mem_filter.mp hk).1
  rw [hWeight (hLt32 hi), hWeight (hLt32 hj)]
  exact Nat.pow_lt_pow_right Nat.one_lt_two hLt

/-- Slots are installed when the table has all of them. -/
theorem hasSlot_iff {wanted : Slots} :
    s.hasSlot wanted = true ↔ ∀ i, wanted.getLsbD i = true → Mask.bit i ∈ s.slotTable := by
  rw [hasSlot, Mask.includes_iff]
  refine forall_congr' fun i => forall_congr' fun hBit => ?_
  rw [s.bit_mem_slotTable_iff (BitVec.lt_of_getLsbD hBit)]

/-- The shape installs these slots and no others, wherever one looks: in its table, which lists each
once and in order of the bits, and in the answer to any question for slots. -/
structure Installs (slots : Slots) : Prop where
  slots_eq : s.slots = slots
  increasing : s.slotTable.Pairwise fun a b => a.toNat < b.toNat
  mem_table : ∀ slot, slot ∈ s.slotTable ↔ ∃ i < 32, slot = Mask.bit i ∧ slots.getLsbD i = true
  hasSlot : ∀ wanted, s.hasSlot wanted = true ↔
    ∀ i, wanted.getLsbD i = true → Mask.bit i ∈ s.slotTable
  require_ok : ∀ wanted, s.require wanted = .ok () ↔
    ∀ i, wanted.getLsbD i = true → Mask.bit i ∈ s.slotTable
  require_error : ∀ wanted, (¬∀ i, wanted.getLsbD i = true → Mask.bit i ∈ s.slotTable) →
    s.require wanted = .error (.missingSlot (Slots.protocolName wanted) s.name)

theorem installs_slots : s.Installs s.slots where
  slots_eq := rfl
  increasing := s.slotTable_increasing
  mem_table _ := s.mem_slotTable_iff
  hasSlot _ := s.hasSlot_iff
  require_ok wanted := by
    rw [← s.hasSlot_iff, require]
    cases s.hasSlot wanted <;> simp
  require_error wanted hNot := by
    rw [← s.hasSlot_iff] at hNot
    rw [require, if_neg hNot]

end Shape

/-! ## Capabilities and shapes -/

namespace Catalog

variable {c : Catalog Code}

/-- The slots of a mask are the base slots and those of the capabilities whose flags it includes:
masks that join have the slots of both, bits without an owner bring none, and the shape of a mask
installs just its slots. -/
structure UnitesSlots (c : Catalog Code) : Prop where
  empty : c.slotsFor 0#32 = Slots.base
  union : ∀ F G, c.slotsFor (F ||| G) = c.slotsFor F ||| c.slotsFor G
  unowned : ∀ F, c.slotsFor (F &&& c.registered) = c.slotsFor F
  exact_bits : ∀ F, ∀ i < 32, (c.slotsFor F).getLsbD i = true ↔
    Slots.base.getLsbD i = true ∨
      ∃ d ∈ c.capabilities, F.includes d.flag = true ∧ d.slots.getLsbD i = true
  shape : ∀ registry id F, (Shape.compose c registry id F).Installs (c.slotsFor F)

theorem Distinct.unitesSlots (hc : c.Distinct) : c.UnitesSlots where
  empty := slotsFor_empty hc
  union := hc.slotsFor_union
  unowned F := by rw [slotsFor, slotsFor, hc.forMask_registered]
  exact_bits F i hi := by
    simp only [c.getLsbD_slotsFor F hi, mem_forMask, and_assoc]
  shape registry id F := (Shape.compose c registry id F).installs_slots

end Catalog

/-- **A shape is the exact union of its capabilities' slots.** Whatever has registered, the slots of
masks follow their unions, and the table of a shape and the checks before a behaviour say the same
as the slots of its mask. -/
theorem slots_exact_union (ds : List (Capability Code)) :
    (Catalog.empty.registerEach ds).2.UnitesSlots ∧
      (Catalog.standard.registerEach ds).2.UnitesSlots :=
  ⟨(Catalog.Reachable.empty.registerEach ds).distinct.unitesSlots,
    (Catalog.Reachable.standard.registerEach ds).distinct.unitesSlots⟩

end ProxyBridge
