/-!
# Masks

A **mask** is a set of 32 numbered bits held as one word. Capabilities and host slots are both
masks; this module has what they share: membership tests, the list of their bits, and the text of
a mask whose bits have names.

* `Mask.includes`, `Mask.meets`, `Mask.without` — subset, overlap and difference.
* `Mask.bits` — the bits of a mask, lowest first.
* `Mask.names`, `Mask.render` — a mask written with the names of its bits.
-/

namespace ProxyBridge

/-- A set of 32 numbered bits; bit `i` has weight `2 ^ i`. -/
abbrev Mask := BitVec 32

namespace Mask

/-- The mask of bit `i` alone (empty from bit 32 on). -/
def bit (i : Nat) : Mask := 1#32 <<< i

/-- Every bit of `b` is a bit of `a`. -/
def includes (a b : Mask) : Bool := a &&& b == b

/-- The masks share a bit. -/
def meets (a b : Mask) : Bool := a &&& b != 0#32

/-- The bits of `a` that are not bits of `b`. -/
def without (a b : Mask) : Mask := a &&& ~~~b

/-- The numbers of the bits that are set, lowest first. -/
def bits (m : Mask) : List Nat := (List.range 32).filter m.getLsbD

/-- Exactly one bit is set. -/
def isSingle (m : Mask) : Bool := m.bits.length == 1

/-- The union of a list of masks. -/
def unionAll (ms : List Mask) : Mask := ms.foldl (· ||| ·) 0#32

/-! ## Text -/

/-- Names for masks, in the order in which they are written. -/
abbrev Naming := List (Mask × String)

/-- The names of the listed masks that `m` includes, in the order of the naming. -/
def names (naming : Naming) (m : Mask) : List String :=
  (naming.filter fun entry => m.includes entry.1).map (·.2)

/-- The bits of `m` that no name covers. -/
def unnamed (naming : Naming) (m : Mask) : Mask :=
  m.without (unionAll (naming.map (·.1)))

/-- A number in lower-case hexadecimal digits after `0x`. -/
def hex (n : Nat) : String := "0x" ++ String.ofList (Nat.toDigits 16 n)

/-- The names of a mask, then its unnamed bits as one number, separated by bars. The empty mask
is written as the number zero. -/
def render (naming : Naming) (m : Mask) : String :=
  let rest := m.unnamed naming
  let parts := m.names naming ++ (if rest = 0#32 then [] else [hex rest.toNat])
  if parts.isEmpty then hex 0 else " | ".intercalate parts

end Mask

end ProxyBridge
