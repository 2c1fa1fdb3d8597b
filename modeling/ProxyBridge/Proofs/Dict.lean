import Mathlib.Tactic.ByContra
import Mathlib.Tactic.Tauto
import ProxyBridge.Table.Release

/-!
# Laws of dictionaries

A dictionary is **ordered** when its keys strictly increase. Every operation keeps that, and on
ordered dictionaries an operation is known by what lookups see afterwards:

* `find?_insert`, `find?_erase`, `find?_modify` — lookups after an update.
* `find?_insertAll` — lookups after many pairs with different keys were stored.
* `ext` — ordered dictionaries with the same lookups are equal.
* `total_insert`, `total_erase`, `total_modify` — what an update does to a sum over all values.
-/

namespace ProxyBridge.Dict

variable {K V : Type}

/-- The keys strictly increase, so no key occurs twice. -/
def Ordered [Ord K] (d : Dict K V) : Prop := d.Pairwise fun a b => compare a.1 b.1 = .lt

instance [Ord K] (d : Dict K V) : Decidable d.Ordered :=
  inferInstanceAs (Decidable (List.Pairwise _ _))

@[simp] theorem total_cons (w : V → Nat) (k : K) (v : V) (d : Dict K V) :
    total w ((k, v) :: d) = w v + total w d := rfl

theorem total_eq_zero {w : V → Nat} {d : Dict K V} (h : ∀ e ∈ d, w e.2 = 0) : total w d = 0 := by
  induction d with
  | nil => rfl
  | cons e rest ih =>
    rw [total_cons, h e (List.mem_cons_self ..), ih fun e he => h e (List.mem_cons_of_mem _ he)]

section Lookup

variable [DecidableEq K]

@[simp] theorem find?_nil (k : K) : Dict.find? (V := V) k [] = none := rfl

theorem find?_cons (k a : K) (v : V) (d : Dict K V) :
    Dict.find? k ((a, v) :: d) = if a = k then some v else d.find? k := rfl

theorem mem_of_find? {d : Dict K V} {k : K} {v : V} (h : d.find? k = some v) : (k, v) ∈ d := by
  induction d with
  | nil => cases h
  | cons e rest ih =>
    obtain ⟨k', v'⟩ := e
    rw [find?_cons] at h
    split at h
    · next hk =>
      cases h
      rw [hk]
      exact List.mem_cons_self ..
    · exact List.mem_cons_of_mem _ (ih h)

/-- A key that is not among the pairs has no value. -/
theorem find?_eq_none {d : Dict K V} {k : K} (h : ∀ e ∈ d, e.1 ≠ k) : d.find? k = none := by
  cases hf : d.find? k with
  | none => rfl
  | some v => exact absurd rfl (h _ (mem_of_find? hf))

/-- Among pairs with different keys, a pair is found by its key. -/
theorem find?_of_nodup {d : Dict K V} (hd : d.keys.Nodup) {k : K} {v : V} (h : (k, v) ∈ d) :
    d.find? k = some v := by
  induction d with
  | nil => cases h
  | cons e rest ih =>
    obtain ⟨hNew, hRest⟩ := List.nodup_cons.mp hd
    rw [find?_cons]
    cases h with
    | head => rw [if_pos rfl]
    | tail _ h =>
      rw [if_neg, ih hRest h]
      exact fun hEq => hNew (List.mem_map.mpr ⟨_, h, hEq.symm⟩)

theorem find?_filter (p : K → Bool) (d : Dict K V) (k : K) :
    Dict.find? k (d.filter fun e => p e.1) = if p k then d.find? k else none := by
  induction d with
  | nil => simp
  | cons e rest ih =>
    obtain ⟨a, v⟩ := e
    cases ha : p a with
    | true =>
      rw [List.filter_cons_of_pos (by simp [ha]), find?_cons, ih, find?_cons]
      by_cases hk : a = k
      · subst hk
        simp [ha]
      · simp [hk]
    | false =>
      rw [List.filter_cons_of_neg (by simp [ha]), ih, find?_cons]
      by_cases hk : a = k
      · subst hk
        simp [ha]
      · simp [hk]

theorem find?_map {W : Type} (f : V → W) (d : Dict K V) (k : K) :
    Dict.find? k (d.map fun e => (e.1, f e.2)) = (d.find? k).map f := by
  induction d with
  | nil => rfl
  | cons e rest ih =>
    obtain ⟨a, v⟩ := e
    rw [List.map_cons, find?_cons, find?_cons, ih]
    split <;> rfl

theorem find?_modify (d : Dict K V) (k k' : K) (f : V → V) :
    (d.modify k f).find? k' = if k = k' then (d.find? k').map f else d.find? k' := by
  induction d with
  | nil => simp [modify, find?]
  | cons e rest ih =>
    obtain ⟨a, v⟩ := e
    by_cases ha : a = k
    · by_cases hk : k = k' <;> simp [modify, find?, ha, hk]
    · rw [modify, if_neg ha, find?_cons, find?_cons, ih]
      by_cases hk : k = k'
      · subst hk
        simp [ha]
      · simp [hk]

/-- Changing a value twice is changing it once by both changes. -/
theorem modify_modify (d : Dict K V) (k : K) (f g : V → V) :
    (d.modify k f).modify k g = d.modify k fun v => g (f v) := by
  induction d with
  | nil => rfl
  | cons e rest ih =>
    obtain ⟨a, v⟩ := e
    by_cases ha : a = k <;> simp [modify, ha, ih]

/-- A change that leaves the value under the key as it is changes nothing. -/
theorem modify_eq_self {d : Dict K V} {k : K} {f : V → V}
    (h : ∀ v, d.find? k = some v → f v = v) : d.modify k f = d := by
  induction d with
  | nil => rfl
  | cons e rest ih =>
    obtain ⟨a, v⟩ := e
    by_cases ha : a = k
    · rw [modify, if_pos ha, h v (by rw [find?_cons, if_pos ha])]
    · rw [modify, if_neg ha, ih fun v hv => h v (by rw [find?_cons, if_neg ha, hv])]

/-- The keys stay when a value is changed. -/
theorem keys_modify (d : Dict K V) (k : K) (f : V → V) : (d.modify k f).keys = d.keys := by
  induction d with
  | nil => rfl
  | cons e rest ih =>
    obtain ⟨a, v⟩ := e
    by_cases ha : a = k
    · simp [modify, keys, ha]
    · simpa [modify, keys, ha] using ih

/-- Changing a value exchanges its weight for the weight of the new value. -/
theorem total_modify (w : V → Nat) (f : V → V) {d : Dict K V} {k : K} {v : V}
    (h : d.find? k = some v) : total w (d.modify k f) + w v = total w d + w (f v) := by
  induction d with
  | nil => simp [find?] at h
  | cons e rest ih =>
    obtain ⟨a, v'⟩ := e
    by_cases ha : a = k
    · rw [find?_cons, if_pos ha, Option.some.injEq] at h
      rw [modify, if_pos ha, total_cons, total_cons, h]
      omega
    · rw [find?_cons, if_neg ha] at h
      have := ih h
      rw [modify, if_neg ha, total_cons, total_cons]
      omega

/-- One value weighs no more than all. -/
theorem le_total (w : V → Nat) {d : Dict K V} {k : K} {v : V} (h : d.find? k = some v) :
    w v ≤ total w d := by
  have := total_erase w h
  omega

theorem length_erase {d : Dict K V} {k : K} {v : V} (h : d.find? k = some v) :
    (d.erase k).length + 1 = d.length := by
  induction d with
  | nil => cases h
  | cons e rest ih =>
    obtain ⟨a, x⟩ := e
    rw [find?_cons] at h
    by_cases ha : a = k
    · rw [erase, if_pos ha, List.length_cons]
    · rw [if_neg ha] at h
      rw [erase, if_neg ha, List.length_cons, List.length_cons, ih h]

/-- Erasing a key that has no value changes nothing. -/
theorem erase_eq_self {d : Dict K V} {k : K} (h : d.find? k = none) : d.erase k = d := by
  induction d with
  | nil => rfl
  | cons e rest ih =>
    obtain ⟨a, v⟩ := e
    rw [find?_cons] at h
    split at h
    · cases h
    · next ha => rw [erase, if_neg ha, ih h]

theorem erase_sublist (d : Dict K V) (k : K) : (d.erase k).Sublist d := by
  induction d with
  | nil => exact List.Sublist.refl _
  | cons e rest ih =>
    obtain ⟨a, v⟩ := e
    rw [erase]
    split
    · exact List.sublist_cons_self ..
    · exact ih.cons_cons _

end Lookup

section Order

variable [Ord K]

/-- Whether a dictionary is ordered depends on its keys only. -/
theorem ordered_iff_keys (d : Dict K V) :
    d.Ordered ↔ d.keys.Pairwise fun a b => compare a b = .lt := by
  rw [Ordered, keys, List.pairwise_map]

theorem ordered_modify [DecidableEq K] {d : Dict K V} (hd : d.Ordered) (k : K) (f : V → V) :
    (d.modify k f).Ordered := by
  rw [ordered_iff_keys] at hd ⊢
  rwa [keys_modify]

theorem ordered_erase [DecidableEq K] {d : Dict K V} (hd : d.Ordered) (k : K) :
    (d.erase k).Ordered :=
  hd.sublist (erase_sublist d k)

theorem mem_insert {d : Dict K V} {k : K} {v : V} {e : K × V} (h : e ∈ d.insert k v) :
    e = (k, v) ∨ e ∈ d := by
  induction d with
  | nil => simpa [insert] using h
  | cons e' rest ih =>
    obtain ⟨a, x⟩ := e'
    rw [insert] at h
    split at h <;> simp only [List.mem_cons] at h ⊢ <;> tauto

variable [Std.LawfulEqOrd K]

/-- A pair after the one with the given key has another key. -/
private theorem ne_of_lt {a b : K} (h : compare a b = .lt) : b ≠ a := by
  rintro rfl
  have hself : compare b b = .eq := Std.ReflCmp.compare_self
  rw [hself] at h
  cases h

/-- A key before all others has no value. -/
theorem find?_eq_none_of_lt [DecidableEq K] {d : Dict K V} {k : K}
    (h : ∀ e ∈ d, compare k e.1 = .lt) : d.find? k = none :=
  find?_eq_none fun e he => ne_of_lt (h e he)

theorem find?_erase [DecidableEq K] {d : Dict K V} (hd : d.Ordered) (k k' : K) :
    (d.erase k).find? k' = if k = k' then none else d.find? k' := by
  induction d with
  | nil => simp [erase, find?]
  | cons e rest ih =>
    obtain ⟨a, v⟩ := e
    obtain ⟨hlt, hrest⟩ := List.pairwise_cons.mp hd
    by_cases ha : a = k
    · subst ha
      by_cases hk : a = k'
      · -- keys after `a` are greater, so the rest has no `a`
        subst hk
        simpa [erase] using find?_eq_none_of_lt hlt
      · simp [erase, find?, hk]
    · rw [erase, if_neg ha, find?_cons, find?_cons, ih hrest]
      by_cases hk : k = k'
      · subst hk
        simp [ha]
      · simp [hk]

/-- The pairs with another key are those that stay when the key is erased. -/
theorem filter_ne_eq_erase [DecidableEq K] {d : Dict K V} (hd : d.Ordered) (k : K) :
    d.filter (fun e => e.1 ≠ k) = d.erase k := by
  induction d with
  | nil => rfl
  | cons e rest ih =>
    obtain ⟨a, v⟩ := e
    obtain ⟨hlt, hrest⟩ := List.pairwise_cons.mp hd
    by_cases ha : a = k
    · -- the keys after `a` are greater, so all of them stay
      subst ha
      have hAll : rest.filter (fun e => e.1 ≠ a) = rest := by
        rw [List.filter_eq_self]
        intro e he
        simpa using ne_of_lt (hlt e he)
      rw [erase, if_pos rfl, List.filter_cons_of_neg (by simp), hAll]
    · rw [erase, if_neg ha, List.filter_cons_of_pos (by simpa using ha), ih hrest]

theorem find?_of_mem [DecidableEq K] {d : Dict K V} (hd : d.Ordered) {k : K} {v : V}
    (h : (k, v) ∈ d) : d.find? k = some v :=
  find?_of_nodup (((ordered_iff_keys d).mp hd).imp fun hlt => (ne_of_lt hlt).symm) h

variable [Std.TransOrd K]

theorem ordered_insert {d : Dict K V} (hd : d.Ordered) (k : K) (v : V) :
    (d.insert k v).Ordered := by
  induction d with
  | nil => exact List.pairwise_singleton ..
  | cons e rest ih =>
    obtain ⟨a, x⟩ := e
    obtain ⟨hlt, hrest⟩ := List.pairwise_cons.mp hd
    rw [insert]
    split
    · next hc =>
      refine List.pairwise_cons.mpr ⟨fun e he => ?_, hd⟩
      rcases List.mem_cons.mp he with rfl | he
      · exact hc
      · exact Std.TransCmp.lt_trans hc (hlt e he)
    · next hc =>
      obtain rfl : k = a := Std.LawfulEqCmp.eq_of_compare hc
      exact List.pairwise_cons.mpr ⟨hlt, hrest⟩
    · next hc =>
      refine List.pairwise_cons.mpr ⟨fun e he => ?_, ih hrest⟩
      rcases mem_insert he with rfl | he
      · exact Std.OrientedCmp.gt_iff_lt.mp hc
      · exact hlt e he

variable [DecidableEq K]

theorem find?_insert (d : Dict K V) (k k' : K) (v : V) :
    (d.insert k v).find? k' = if k = k' then some v else d.find? k' := by
  induction d with
  | nil => simp [insert, find?]
  | cons e rest ih =>
    obtain ⟨a, x⟩ := e
    rw [insert]
    split
    · simp [find?]
    · next hc =>
      obtain rfl : k = a := Std.LawfulEqCmp.eq_of_compare hc
      by_cases hk : k = k' <;> simp [find?, hk]
    · next hc =>
      have hne : k ≠ a := ne_of_lt (Std.OrientedCmp.gt_iff_lt.mp hc)
      rw [find?_cons, find?_cons, ih]
      by_cases hk : k = k'
      · subst hk
        simp [hne.symm]
      · simp [hk]

/-- Pairs with different keys do not get in each other's way. -/
theorem find?_insertAll {l : Dict K V} (hl : l.keys.Nodup) (d : Dict K V) (k : K) :
    (d.insertAll l).find? k = (l.find? k).or (d.find? k) := by
  induction l generalizing d with
  | nil => rfl
  | cons e l ih =>
    obtain ⟨a, v⟩ := e
    obtain ⟨hNew, hRest⟩ := List.nodup_cons.mp hl
    rw [insertAll, List.foldl_cons]
    refine (ih hRest (d.insert a v)).trans ?_
    rw [find?_insert, find?_cons]
    by_cases hk : a = k
    · subst hk
      have hNone : Dict.find? a l = none :=
        find?_eq_none fun e he hEq => hNew (List.mem_map.mpr ⟨e, he, hEq⟩)
      simp [hNone]
    · simp [hk]

/-- Storing a value adds its weight, and takes away the weight of what it replaces. -/
theorem total_insert (w : V → Nat) {d : Dict K V} (hd : d.Ordered) (k : K) (v : V) :
    total w (d.insert k v) + ((d.find? k).map w).getD 0 = total w d + w v := by
  induction d with
  | nil => simp [insert, find?, total]
  | cons e rest ih =>
    obtain ⟨a, x⟩ := e
    obtain ⟨hlt, hrest⟩ := List.pairwise_cons.mp hd
    rw [insert]
    split
    · next hc =>
      have hnone : Dict.find? k ((a, x) :: rest) = none := by
        refine find?_eq_none_of_lt fun e he => ?_
        rcases List.mem_cons.mp he with rfl | he
        · exact hc
        · exact Std.TransCmp.lt_trans hc (hlt e he)
      rw [hnone, total_cons]
      simp [Nat.add_comm]
    · next hc =>
      obtain rfl : k = a := Std.LawfulEqCmp.eq_of_compare hc
      rw [total_cons, total_cons, find?_cons, if_pos rfl]
      simp only [Option.map_some, Option.getD_some]
      omega
    · next hc =>
      have hne : k ≠ a := ne_of_lt (Std.OrientedCmp.gt_iff_lt.mp hc)
      have := ih hrest
      rw [total_cons, total_cons, find?_cons, if_neg hne.symm]
      omega

/-- Ordered dictionaries with the same lookups are the same list. -/
theorem ext {d d' : Dict K V} (hd : d.Ordered) (hd' : d'.Ordered)
    (h : ∀ k, d.find? k = d'.find? k) : d = d' := by
  induction d generalizing d' with
  | nil =>
    cases d' with
    | nil => rfl
    | cons e rest =>
      obtain ⟨b, y⟩ := e
      have := h b
      rw [find?_nil, find?_cons, if_pos rfl] at this
      cases this
  | cons e rest ih =>
    obtain ⟨a, x⟩ := e
    cases d' with
    | nil =>
      have := h a
      rw [find?_cons, if_pos rfl, find?_nil] at this
      cases this
    | cons e' rest' =>
      obtain ⟨b, y⟩ := e'
      obtain ⟨hlt, hrest⟩ := List.pairwise_cons.mp hd
      obtain ⟨hlt', hrest'⟩ := List.pairwise_cons.mp hd'
      -- the least keys agree: a smaller one would be missing on the other side
      have hab : a = b := by
        by_contra hne
        have ha := h a
        have hb := h b
        rw [find?_cons, if_pos rfl, find?_cons, if_neg (Ne.symm hne)] at ha
        rw [find?_cons, if_neg hne, find?_cons, if_pos rfl] at hb
        have h1 := hlt' _ (mem_of_find? ha.symm)
        have h2 := hlt _ (mem_of_find? hb)
        exact ne_of_lt (Std.TransCmp.lt_trans h1 h2) rfl
      subst hab
      have hxy := h a
      rw [find?_cons, if_pos rfl, find?_cons, if_pos rfl, Option.some.injEq] at hxy
      subst hxy
      rw [ih hrest hrest' fun k => ?_]
      by_cases hk : a = k
      · subst hk
        rw [find?_eq_none_of_lt hlt, find?_eq_none_of_lt hlt']
      · have := h k
        rwa [find?_cons, if_neg hk, find?_cons, if_neg hk] at this

end Order

end ProxyBridge.Dict
