import ProxyBridge.Proofs.Accounting
import ProxyBridge.Proofs.Action

/-!
# References that are covered

A table covers some claims if every handle is counted at least as often as members of stored values
hold it and as it is claimed. References beyond that are nobody's business, and the pin of
`undefined` need not be among them; so this is less than accounts that balance, and all that it
takes for a claimed value to stay. A release can start a cascade through any graph of values, cycles
included, and still a value that is claimed besides is there afterwards, with the members it had.

## Results

* `Table.Covers` — the invariant; `Covers.retain`, `Covers.modifyMembers` — updates that keep it.
* `Covers.releaseAll` — a cascade keeps it too, and leaves claimed values alone.
* `Act.setMember_spec`, `Act.deleteMember_spec` — what becomes of a value when a member is stored or
  removed.
-/

namespace ProxyBridge

variable {Code Client : Type}

namespace Table

/-- Every handle is counted as often as it is held and claimed. -/
structure Covers (t : Table Code) (claims : Handle → Nat) : Prop where
  wellFormed : t.WellFormed
  refs       : ∀ h, t.holders h + claims h ≤ t.refcount h

variable {t u : Table Code} {claims : Handle → Nat} {h v : Handle} {e : Entry Code}

/-- Fewer claims are covered too. -/
theorem Covers.mono {claims' : Handle → Nat} (ht : t.Covers claims)
    (hLe : ∀ h, claims' h ≤ claims h) : t.Covers claims' := by
  refine ⟨ht.wellFormed, ?_⟩
  intro h
  have hRefs := ht.refs h
  have hClaims := hLe h
  omega

theorem Covers.isLive (ht : t.Covers claims) (hc : 1 ≤ claims h) : t.isLive h = true := by
  have hRefs := ht.refs h
  exact ht.wellFormed.isLive_iff_refcount.mpr (by omega)

theorem Covers.isLive_of_held (ht : t.Covers claims) (he : t.entry? v = some e)
    (hHeld : h ∈ e.object.owned) : t.isLive h = true := by
  have hRefs := ht.refs h
  have hHolders : tally e.object.owned h ≤ t.holders h :=
    Dict.le_total (fun e : Entry Code => tally e.object.owned h) he
  have hCount : 0 < tally e.object.owned h := List.count_pos_iff.mpr hHeld
  exact ht.wellFormed.isLive_iff_refcount.mpr (by omega)

/-! ## Taking references and giving them back -/

theorem Covers.retain (ht : t.Covers claims) (hr : t.retain h = .ok u) :
    u.Covers (claims + tally [h]) := by
  refine ⟨ht.wellFormed.retain hr, ?_⟩
  obtain ⟨hLive, rfl⟩ := retain_eq_ok_iff.mp hr
  obtain ⟨e, he⟩ := isLive_iff.mp hLive
  intro x
  have hRefs := ht.refs x
  rw [holders_recount, refcount_recount he]
  simp only [Pi.add_apply, tally_cons, tally_nil]
  split
  · next hx =>
    subst hx
    rw [refcount_eq he] at hRefs
    omega
  · omega

theorem Covers.releaseOne_alive (ht : t.Covers (claims + tally [h]))
    (hr : t.releaseOne h = .alive u) : u.Covers claims := by
  refine ⟨ht.wellFormed.releaseOne_alive hr, ?_⟩
  obtain ⟨e, he, h2, rfl⟩ := alive_of_releaseOne hr
  intro x
  have hRefs := ht.refs x
  rw [dropReference_eq_recount, holders_recount, refcount_recount he]
  simp only [Pi.add_apply, tally_cons, tally_nil] at hRefs
  split
  · next hx =>
    subst hx
    rw [refcount_eq he, if_pos rfl] at hRefs
    omega
  · omega

/-- What a freed value held is claimed by the cascade. -/
theorem Covers.releaseOne_freed {owned : List Handle} (ht : t.Covers (claims + tally [h]))
    (hr : t.releaseOne h = .freed u owned) : u.Covers (claims + tally owned) := by
  refine ⟨ht.wellFormed.releaseOne_freed hr, ?_⟩
  obtain ⟨e, he, h1, -, rfl, rfl⟩ := freed_of_releaseOne hr
  intro x
  have hRefs := ht.refs x
  have hSum : (t.dropEntry h).holders x + tally e.object.owned x = t.holders x :=
    Dict.total_erase (fun e : Entry Code => tally e.object.owned x) he
  rw [refcount, entry?_dropEntry ht.wellFormed]
  simp only [Pi.add_apply, tally_cons, tally_nil] at hRefs ⊢
  split
  · -- the claim that is given back was all that kept the value
    next hx =>
    subst hx
    rw [refcount_eq he, if_pos rfl] at hRefs
    simp only [Option.map_none, Option.getD_none]
    omega
  · next hx =>
    rw [if_neg hx, refcount] at hRefs
    omega

/-- A value that is claimed besides is not freed. -/
theorem Covers.ne_of_freed {owned : List Handle} (ht : t.Covers (claims + tally [h]))
    (hr : t.releaseOne h = .freed u owned) (hv : 1 ≤ claims v) : h ≠ v := by
  rintro rfl
  obtain ⟨e, he, h1, -⟩ := freed_of_releaseOne hr
  have hRefs := ht.refs h
  simp only [Pi.add_apply, tally_cons, tally_nil, if_true, refcount_eq he] at hRefs
  omega

/-- Counting a value differently changes no object. -/
theorem object_recount (t : Table Code) (h : Handle) (g : Nat → Nat) (n : Nat) (x : Handle) :
    (t.recount h g n).object x = t.object x := by
  rw [object, object, recount, entry?_modifyEntry]
  by_cases hx : h = x
  · rw [if_pos hx]
    cases t.entry? x <;> rfl
  · rw [if_neg hx]

/-- A cascade gives back what was claimed for it. Claimed values are left alone. -/
theorem Covers.releaseAll {pending : List Handle} (ht : t.Covers (claims + tally pending)) :
    (t.releaseAll pending).1.Covers claims ∧
      ∀ v, 1 ≤ claims v → (t.releaseAll pending).1.object v = t.object v := by
  have hSplit (h : Handle) (rest : List Handle) :
      claims + tally (h :: rest) = claims + tally rest + tally [h] := by
    funext x
    simp only [Pi.add_apply, tally_cons, tally_nil]
    omega
  -- the invariant of the cascade: what is pending is claimed, and the objects are as before
  refine releaseAll_induction (P := fun u pending => u.Covers (claims + tally pending) ∧
    ∀ v, 1 ≤ claims v → u.object v = t.object v) ?_ ?_ ?_ ⟨ht, fun _ _ => rfl⟩
  · rintro u h rest - ⟨hu, hSame⟩
    refine ⟨hu.mono ?_, hSame⟩
    intro x
    rw [hSplit]
    exact Nat.le_add_right _ _
  · rintro u h rest w hr ⟨hu, hSame⟩
    rw [hSplit] at hu
    refine ⟨hu.releaseOne_alive hr, ?_⟩
    intro v hv
    obtain ⟨e, -, -, rfl⟩ := alive_of_releaseOne hr
    rw [← hSame v hv, dropReference_eq_recount, object_recount]
  · rintro u h rest w owned hr ⟨hu, hSame⟩
    rw [hSplit] at hu
    have hClaims : claims + tally (owned ++ rest) = claims + tally rest + tally owned := by
      funext x
      simp only [Pi.add_apply, tally_append]
      omega
    refine ⟨hClaims ▸ hu.releaseOne_freed hr, ?_⟩
    intro v hv
    have hNe : h ≠ v := by
      refine hu.ne_of_freed hr ?_
      rw [Pi.add_apply]
      omega
    obtain ⟨e, -, -, -, rfl, -⟩ := freed_of_releaseOne hr
    rw [← hSame v hv, object, object, entry?_dropEntry hu.wellFormed, if_neg hNe]

/-! ## Changing members -/

theorem entry?_modifyMembers (t : Table Code) (h x : Handle)
    (f : Dict Key (Member Code) → Dict Key (Member Code)) :
    Table.entry? (t.modifyMembers h f) x =
      if h = x then (t.entry? x).map fun e =>
        { e with object := { e.object with members := f e.object.members } }
      else t.entry? x :=
  entry?_modifyEntry t h x _ t.outstanding

/-- The members of a stored value change: what they newly hold was claimed before, and what they no
longer hold is claimed after. -/
theorem Covers.modifyMembers {f : Dict Key (Member Code) → Dict Key (Member Code)}
    {come gone : List Handle} (ht : t.Covers (claims + tally come)) (he : t.entry? h = some e)
    (hf : ∀ d : Dict Key (Member Code), d.Ordered → (f d).Ordered)
    (hHeld : ∀ x, tally { e.object with members := f e.object.members }.owned x + tally gone x =
      tally e.object.owned x + tally come x) :
    (t.modifyMembers h f).Covers (claims + tally gone) := by
  refine ⟨ht.wellFormed.modifyMembers hf, ?_⟩
  intro x
  have hRefs := ht.refs x
  have hSum : (t.modifyMembers h f).holders x + tally e.object.owned x =
      t.holders x + tally { e.object with members := f e.object.members }.owned x :=
    Dict.total_modify (fun e : Entry Code => tally e.object.owned x)
      (fun e => { e with object := { e.object with members := f e.object.members } }) he
  have hCount : (t.modifyMembers h f).refcount x = t.refcount x := by
    rw [refcount, refcount, entry?_modifyMembers]
    split
    · cases t.entry? x <;> rfl
    · rfl
  have hBoth := hHeld x
  rw [hCount]
  simp only [Pi.add_apply] at hRefs ⊢
  omega

theorem Covers.putMember {m : Member Code} (ht : t.Covers (claims + tally m.held))
    (he : t.entry? h = some e) (k : Key) :
    (t.putMember h k m).Covers (claims + tally (e.object.heldAt k)) := by
  refine ht.modifyMembers he (fun d hd => Dict.ordered_insert hd k m) ?_
  intro x
  have hTotal := Dict.total_insert (fun m : Member Code => tally m.held x)
    (ht.wellFormed.entry he).members k m
  rw [Object.tally_owned, Object.tally_owned, Object.heldAt]
  cases hk : e.object.members.find? k with
  | none =>
    rw [hk] at hTotal
    simpa using hTotal
  | some old =>
    rw [hk] at hTotal
    exact hTotal

theorem Covers.dropMember (ht : t.Covers claims) (he : t.entry? h = some e) (k : Key) :
    (t.dropMember h k).Covers (claims + tally (e.object.heldAt k)) := by
  have ht' : t.Covers (claims + tally []) := ht
  refine ht'.modifyMembers he (fun d hd => Dict.ordered_erase hd k) ?_
  intro x
  rw [Object.tally_owned, Object.tally_owned, Object.heldAt]
  cases hk : e.object.members.find? k with
  | none =>
    rw [Dict.erase_eq_self hk]
    simp
  | some m => exact Dict.total_erase (fun m : Member Code => tally m.held x) hk

theorem object_modifyMembers {o : Object Code} (ho : t.object h = .ok o)
    (f : Dict Key (Member Code) → Dict Key (Member Code)) :
    (t.modifyMembers h f).object h = .ok { o with members := f o.members } := by
  obtain ⟨e, he, rfl⟩ := object_eq_ok_iff.mp ho
  rw [object, entry?_modifyMembers, if_pos rfl, he]
  rfl

end Table

/-! ## Members of a value that is owned -/

namespace Act

variable {s : Session Code Client} {v x : Handle} {claims : Handle → Nat}

/-- What a member held is given back. -/
theorem release?_spec {r : Option Handle} (hs : s.table.Covers (claims + tally r.toList)) :
    ∃ s', (match r with
        | some h => release h
        | none => Pure.pure () : Act Code Client ForeignError Unit) s = .ok () s' ∧
      s' = { s with table := s'.table, log := s'.log } ∧ s'.table.Covers claims ∧
      ∀ v, 1 ≤ claims v → s'.table.object v = s.table.object v := by
  cases r with
  | none => exact ⟨s, rfl, rfl, hs.mono fun _ => Nat.le_add_right _ _, fun _ _ => rfl⟩
  | some h =>
    obtain ⟨hCovers, hSame⟩ := Table.Covers.releaseAll hs
    exact ⟨s.release h, rfl, rfl, hCovers, hSame⟩

theorem one_le_tally {l : List Handle} (h : v ∈ l) : 1 ≤ tally l v := List.count_pos_iff.mpr h

/-- A live value can be stored under any key of a value that is owned. -/
theorem setMember_spec (hs : s.table.Covers (tally s.owned)) (hv : v ∈ s.owned)
    (hx : s.table.isLive x = true) (k : Key) :
    ∃ o s', s.table.object v = .ok o ∧ setMember v k x s = .ok () s' ∧
      s' = { s with table := s'.table, log := s'.log } ∧ s'.table.Covers (tally s.owned) ∧
      s'.table.object v = .ok (o.withMember k (.data (.handle x))) := by
  have hOwned := one_le_tally hv
  obtain ⟨e, he⟩ := Table.isLive_iff.mp (hs.isLive hOwned)
  have ho : s.table.object v = .ok e.object := Table.object_eq_ok_iff.mpr ⟨e, he, rfl⟩
  -- the new reference is taken first, so that what is stored stays even if it was stored before
  have hRetain := Table.retain_eq_ok_iff.mpr ⟨hx, rfl⟩
  generalize hu : s.table.recount x (· + 1) (s.table.outstanding + 1) = u at hRetain
  have huCovers : u.Covers (tally s.owned + tally [x]) := hs.retain hRetain
  have huObject : u.object v = .ok e.object := (Table.object_retain hRetain v).trans ho
  obtain ⟨e', he', hSame⟩ := Table.object_eq_ok_iff.mp huObject
  have hStored : (u.putMember v k (.data (.handle x))).Covers
      (tally s.owned + tally (e.object.heldAt k)) := by
    rw [← hSame]
    exact huCovers.putMember (m := .data (.handle x)) he' k
  obtain ⟨s', hRun, hRest, hCovers, hObjects⟩ :=
    release?_spec (s := { s with table := u.putMember v k (.data (.handle x)) })
      (r := (e.object.members.find? k).bind Member.owned?) hStored
  refine ⟨e.object, s', ho, ?_, hRest, hCovers, ?_⟩
  · have hTake : (onTable (·.retain x) : Act Code Client ForeignError Unit) s =
        .ok () { s with table := u } := onTable_ok hRetain
    rw [setMember, bind_ok (object_ok ho), bind_ok hTake]
    exact hRun
  · rw [hObjects v hOwned]
    exact Table.object_modifyMembers huObject _

/-- A member of a value that is owned can be removed; without it, nothing happens. -/
theorem deleteMember_spec (hs : s.table.Covers (tally s.owned)) (hv : v ∈ s.owned) (k : Key) :
    ∃ o s', s.table.object v = .ok o ∧ deleteMember v k s = .ok (o.members.contains k) s' ∧
      s' = { s with table := s'.table, log := s'.log } ∧ s'.table.Covers (tally s.owned) ∧
      s'.table.object v = .ok { o with members := o.members.erase k } ∧
      (o.members.contains k = false → s' = s) := by
  have hOwned := one_le_tally hv
  obtain ⟨e, he⟩ := Table.isLive_iff.mp (hs.isLive hOwned)
  have ho : s.table.object v = .ok e.object := Table.object_eq_ok_iff.mpr ⟨e, he, rfl⟩
  have hDropped : (s.table.dropMember v k).Covers (tally s.owned + tally (e.object.heldAt k)) :=
    hs.dropMember he k
  have hAfter := Table.object_modifyMembers ho (·.erase k)
  refine ⟨e.object, ?_⟩
  rw [deleteMember, bind_ok (object_ok ho)]
  unfold Dict.contains
  cases hk : e.object.members.find? k with
  | none =>
    -- the table with the member dropped is the table itself
    have hSame : s.table.dropMember v k = s.table := by
      rw [Table.dropMember, Table.modifyMembers, Dict.modify_eq_self]
      intro e' he'
      cases he.symm.trans he'
      rw [Dict.erase_eq_self hk]
    have hTable : ({ s with table := s.table.dropMember v k } : Session Code Client) = s := by
      rw [hSame]
    refine ⟨s, ho, congrArg (EStateM.Result.ok false) hTable, rfl, hs, ?_, fun _ => rfl⟩
    rw [Dict.erase_eq_self hk]
    exact ho
  | some m =>
    rw [Object.heldAt, hk, Option.bind_some] at hDropped
    obtain ⟨s', hRun, hRest, hCovers, hObjects⟩ :=
      release?_spec (s := { s with table := s.table.dropMember v k }) hDropped
    have hSome : (some m).isSome = false → s' = s := by
      intro hNone
      cases hNone
    refine ⟨s', ho, ?_, hRest, hCovers, (hObjects v hOwned).trans hAfter, hSome⟩
    show (match m.owned? with
      | some old => release old >>= fun _ => Pure.pure true
      | none => Pure.pure true : Act Code Client ForeignError Bool)
      { s with table := s.table.dropMember v k } = .ok true s'
    cases hm : m.owned? with
    | none =>
      rw [hm] at hRun
      cases hRun
      rfl
    | some old =>
      rw [hm] at hRun
      exact bind_ok hRun

end Act

end ProxyBridge
