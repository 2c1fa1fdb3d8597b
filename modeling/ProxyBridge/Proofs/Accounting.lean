import ProxyBridge.Proofs.Table

/-!
# Who holds the references of a table

Every reference to a stored value is either the pin of `undefined`, or held by a member of a stored
value, or claimed by somebody outside the table. A table is **accounted** for a count of claims
when nothing else is counted and nothing is missing. Each update of a table changes the claims in
one way, which its lemma states:

* `Accounted.insert` — the members of a new value take over claims, the caller gets one.
* `Accounted.retain` — one claim more.
* `Accounted.releaseAll` — the released claims are gone, whatever the cascade frees.
* `Accounted.putMember`, `Accounted.dropMember` — the member's claim for the one it replaces.
-/

namespace ProxyBridge

/-- How often each handle occurs in a list. -/
def tally (l : List Handle) (h : Handle) : Nat := l.count h

@[simp] theorem tally_nil (h : Handle) : tally [] h = 0 := rfl

@[simp] theorem tally_cons (a : Handle) (l : List Handle) (h : Handle) :
    tally (a :: l) h = (if a = h then 1 else 0) + tally l h := by
  rw [tally, tally, List.count_cons, Nat.add_comm]
  simp only [beq_iff_eq]

@[simp] theorem tally_append (l l' : List Handle) (h : Handle) :
    tally (l ++ l') h = tally l h + tally l' h := List.count_append

/-- The references that a member holds, as a list. -/
def Member.held {Code : Type} (m : Member Code) : List Handle := m.owned?.toList

namespace Object

variable {Code : Type}

/-- The references that an object holds under a key. -/
def heldAt (o : Object Code) (k : Key) : List Handle :=
  ((o.members.find? k).bind Member.owned?).toList

/-- An object holds what its members hold. -/
theorem tally_owned (o : Object Code) (h : Handle) :
    tally o.owned h = Dict.total (fun m => tally m.held h) o.members := by
  rw [owned, Dict.values]
  induction o.members with
  | nil => rfl
  | cons e rest ih =>
    obtain ⟨k, m⟩ := e
    rw [Dict.total_cons, List.map_cons, List.filterMap_cons, ← ih, Member.held]
    cases m.owned? <;> simp

end Object

namespace Table

variable {Code : Type}

/-- The reference that the table itself has to the pinned value. -/
def pin (h : Handle) : Nat := if isPinned h then 1 else 0

/-- The number of members of stored values that hold the handle. -/
def holders (t : Table Code) (h : Handle) : Nat := t.entries.total fun e => tally e.object.owned h

/-- Every reference is the pin, held by a stored member, or claimed. -/
structure Accounted (t : Table Code) (claims : Handle → Nat) : Prop where
  wellFormed : t.WellFormed
  refs : ∀ h, t.refcount h = pin h + t.holders h + claims h

theorem accounted_empty (limit : Option Nat) :
    (empty limit : Table Code).Accounted fun _ => 0 where
  wellFormed := wellFormed_empty limit
  refs h := by
    by_cases hh : Handle.undefined = h
    · subst hh
      rfl
    · have hp : (h == Handle.undefined) = false := by simpa using Ne.symm hh
      simp [refcount, entry?, empty, Dict.find?_cons, hh, pin, isPinned, hp, holders, Dict.total,
        Object.owned, Object.ofTag, Dict.values]

variable {t u : Table Code} {claims : Handle → Nat} {h : Handle} {e : Entry Code}

/-- A claimed handle names a stored value. -/
theorem Accounted.isLive (ht : t.Accounted claims) (hc : 1 ≤ claims h) : t.isLive h := by
  rw [ht.wellFormed.isLive_iff_refcount, ht.refs]
  omega

/-! ## Storing and taking references -/

theorem Accounted.insert {o : Object Code} (ht : t.Accounted (claims + tally o.owned))
    (ho : o.members.Ordered) : (t.insert o).2.Accounted (claims + tally [(t.insert o).1]) where
  wellFormed := ht.wellFormed.insert ho
  refs h := by
    have hr := ht.refs h
    have hnext := refcount_eq_zero ht.wellFormed.entry?_next
    have hz := ht.refs ⟨t.nextId⟩
    have hsum : (t.insert o).2.holders h = t.holders h + tally o.owned h := by
      have := Dict.total_insert (fun e : Entry Code => tally e.object.owned h)
        ht.wellFormed.ordered ⟨t.nextId⟩ { object := o, refcount := 1 }
      rwa [show t.entries.find? ⟨t.nextId⟩ = none from ht.wellFormed.entry?_next] at this
    rw [hnext] at hz
    rw [hsum, refcount, entry?_insert]
    simp only [Pi.add_apply, tally_cons, tally_nil] at hr hz ⊢
    split
    · next hh =>
      -- nobody could hold or claim the new handle before
      rw [show (t.insert o).1 = ⟨t.nextId⟩ from rfl, if_pos hh]
      subst hh
      simp only [Option.map_some, Option.getD_some]
      omega
    · next hh =>
      rw [show (t.insert o).1 = ⟨t.nextId⟩ from rfl, if_neg hh]
      rw [refcount] at hr
      omega

/-- A new value that holds nothing. -/
theorem Accounted.insert_free {o : Object Code} (ht : t.Accounted claims)
    (ho : o.members.Ordered) (hFree : o.owned = []) :
    (t.insert o).2.Accounted (claims + tally [(t.insert o).1]) := by
  refine Accounted.insert ?_ ho
  rw [hFree]
  exact ht

/-- Counting a value differently changes nothing about who holds it. -/
theorem holders_recount (t : Table Code) (h : Handle) (g : Nat → Nat) (n : Nat) :
    (t.recount h g n).holders = t.holders := by
  funext x
  exact Dict.total_modify_of_eq (fun e : Entry Code => tally e.object.owned x)
    (fun e => { e with refcount := g e.refcount }) (fun _ => rfl) t.entries h

theorem Accounted.retain (ht : t.Accounted claims) (hr : t.retain h = .ok u) :
    u.Accounted (claims + tally [h]) where
  wellFormed := ht.wellFormed.retain hr
  refs x := by
    obtain ⟨hl, rfl⟩ := retain_eq_ok_iff.mp hr
    obtain ⟨e, he⟩ := isLive_iff.mp hl
    have := ht.refs x
    rw [holders_recount, refcount_recount he]
    simp only [Pi.add_apply, tally_cons, tally_nil]
    split
    · next hh =>
      subst hh
      rw [refcount_eq he] at this
      omega
    · omega

/-! ## Giving references back -/

theorem Accounted.releaseOne_alive (ht : t.Accounted (claims + tally [h]))
    (hr : t.releaseOne h = .alive u) : u.Accounted claims where
  wellFormed := ht.wellFormed.releaseOne_alive hr
  refs x := by
    obtain ⟨e, he, h2, rfl⟩ := alive_of_releaseOne hr
    have := ht.refs x
    rw [dropReference_eq_recount, holders_recount, refcount_recount he]
    simp only [Pi.add_apply, tally_cons, tally_nil] at this
    split at this
    · next hh =>
      subst hh
      rw [refcount_eq he] at this
      rw [if_pos rfl]
      omega
    · next hh =>
      rw [if_neg hh]
      omega

theorem Accounted.releaseOne_freed {owned : List Handle}
    (ht : t.Accounted (claims + tally [h])) (hr : t.releaseOne h = .freed u owned) :
    u.Accounted (claims + tally owned) where
  wellFormed := ht.wellFormed.releaseOne_freed hr
  refs x := by
    obtain ⟨e, he, h1, hp, rfl, rfl⟩ := freed_of_releaseOne hr
    have hx := ht.refs x
    have hsum : (t.dropEntry h).holders x + tally e.object.owned x = t.holders x :=
      Dict.total_erase (fun e : Entry Code => tally e.object.owned x) he
    rw [refcount, entry?_dropEntry ht.wellFormed]
    simp only [Pi.add_apply, tally_cons, tally_nil] at hx ⊢
    split
    · next hh =>
      -- the released claim was the only reference to the freed value
      subst hh
      rw [refcount_eq he, if_pos rfl] at hx
      simp only [Option.map_none, Option.getD_none]
      omega
    · next hh =>
      rw [if_neg hh, refcount] at hx
      omega

/-- A claimed handle is never stale: a release of it always takes a reference. -/
theorem Accounted.releaseOne_ne_stale (ht : t.Accounted (claims + tally [h])) :
    t.releaseOne h ≠ .stale := by
  intro hs
  have hx := ht.refs h
  obtain ⟨e, he⟩ := isLive_iff.mp (ht.isLive (h := h) (by simp))
  -- a stale handle that names a value is pinned, and the pin is all that is counted
  obtain ⟨hp, h1⟩ := stale_of_releaseOne hs he
  simp only [Pi.add_apply, tally_cons, tally_nil, if_true, refcount_eq he, pin, hp] at hx
  omega

theorem Accounted.releaseAll {pending : List Handle} (ht : t.Accounted (claims + tally pending)) :
    (t.releaseAll pending).1.Accounted claims := by
  have split_first (h : Handle) (rest : List Handle) :
      claims + tally (h :: rest) = claims + tally rest + tally [h] := by
    funext x
    simp only [Pi.add_apply, tally_cons, tally_nil]
    omega
  refine releaseAll_induction (P := fun t pending => t.Accounted (claims + tally pending))
    (fun t h rest hr ht => ?_) (fun t h rest u hr ht => ?_) (fun t h rest u owned hr ht => ?_) ht
  · rw [split_first] at ht
    exact absurd hr ht.releaseOne_ne_stale
  · rw [split_first] at ht
    exact ht.releaseOne_alive hr
  · rw [split_first] at ht
    have hu := ht.releaseOne_freed hr
    rwa [show claims + tally (owned ++ rest) = claims + tally rest + tally owned by
      funext x
      simp only [Pi.add_apply, tally_append]
      omega]

theorem Accounted.release (ht : t.Accounted (claims + tally [h])) :
    (t.release h).1.Accounted claims := ht.releaseAll

/-! ## Changing members -/

/-- The members of a stored value change: what they newly hold was claimed before, and what they no
longer hold is claimed after. -/
theorem Accounted.modifyMembers {f : Dict Key (Member Code) → Dict Key (Member Code)}
    {come gone : List Handle} (ht : t.Accounted (claims + tally come))
    (he : t.entry? h = some e) (hf : ∀ d : Dict Key (Member Code), d.Ordered → (f d).Ordered)
    (hheld : ∀ x, tally { e.object with members := f e.object.members }.owned x + tally gone x =
      tally e.object.owned x + tally come x) :
    (t.modifyMembers h f).Accounted (claims + tally gone) where
  wellFormed := ht.wellFormed.modifyMembers hf
  refs x := by
    have hx := ht.refs x
    have hsum := Dict.total_modify (fun e : Entry Code => tally e.object.owned x)
      (fun e => { e with object := { e.object with members := f e.object.members } }) he
    have hcount : (t.modifyMembers h f).refcount x = t.refcount x := by
      rw [refcount, refcount,
        show Table.entry? (t.modifyMembers h f) x = _ from entry?_modifyEntry ..]
      split
      · cases t.entry? x <;> rfl
      · rfl
    have hh : (t.modifyMembers h f).holders x + tally e.object.owned x =
        t.holders x + tally { e.object with members := f e.object.members }.owned x := hsum
    have := hheld x
    rw [hcount]
    simp only [Pi.add_apply] at hx ⊢
    omega

theorem Accounted.putMember {m : Member Code} (ht : t.Accounted (claims + tally m.held))
    (he : t.entry? h = some e) (k : Key) :
    (t.putMember h k m).Accounted (claims + tally (e.object.heldAt k)) := by
  refine ht.modifyMembers he (fun d hd => Dict.ordered_insert hd k m) fun x => ?_
  have := Dict.total_insert (fun m : Member Code => tally m.held x)
    (ht.wellFormed.entry he).members k m
  rw [Object.tally_owned, Object.tally_owned, Object.heldAt]
  cases hk : e.object.members.find? k <;> rw [hk] at this <;>
    simp only [Option.map_none, Option.map_some, Option.getD_none, Option.getD_some,
      Option.bind_none, Option.bind_some, Option.toList_none, tally_nil] at this ⊢
  · exact this
  · exact this

theorem Accounted.dropMember (ht : t.Accounted claims) (he : t.entry? h = some e) (k : Key) :
    (t.dropMember h k).Accounted (claims + tally (e.object.heldAt k)) := by
  have ht' : t.Accounted (claims + tally []) := ht
  refine ht'.modifyMembers he (fun d hd => Dict.ordered_erase hd k) fun x => ?_
  rw [Object.tally_owned, Object.tally_owned, Object.heldAt]
  cases hk : e.object.members.find? k with
  | none =>
    rw [Dict.erase_eq_self hk]
    simp
  | some m => exact Dict.total_erase (fun m : Member Code => tally m.held x) hk

end Table

end ProxyBridge
