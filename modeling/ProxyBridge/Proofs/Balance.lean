import Mathlib.Algebra.Group.Nat.Defs
import Mathlib.Algebra.Group.Pi.Basic
import ProxyBridge.Proofs.Accounting
import ProxyBridge.Proofs.Action

/-!
# The accounts of a session

The **surplus** of a handle is what remains of its references after the pin, the members of stored
values and the owners took theirs. It is what somebody has to give back who is not known as an
owner: a reference that an operation has taken and not yet handed on is surplus while it lasts.

A session is **sound** if its table is well formed and its list of owned references is what live
proxies own, what the client owns, and what is held by operations under way. The session is
**accounted** for a number of loose references to each handle if it is sound and these are its
surplus.

* `Session.surplus`, `Session.Sound` — what is left over, and who owns the rest.
* `Session.accounted_iff` — accounted sessions are the sound ones whose surplus is not negative.
* `Accounted.adopt`, `Accounted.release`, `Accounted.letGo` — references change hands.
-/

namespace ProxyBridge

variable {Code Client ε α β : Type}

/-- The references that a proxy owns. -/
def Proxy.owned (p : Proxy) : List Handle := p.value :: p.receiver.toList

/-- The reference that comes with a value. -/
def Value.held : Value → List Handle
  | .handle h => [h]
  | .number _ | .undefined => []

namespace Session

/-- The number of references to a value that live proxies own. -/
def proxyRefs (s : Session Code Client) (h : Handle) : Nat :=
  s.proxies.total fun p => tally p.owned h

/-- References that are neither the pin, nor held by a stored member, nor owned. -/
def surplus (s : Session Code Client) (h : Handle) : Int :=
  s.table.refcount h - Table.pin h - s.table.holders h - tally s.owned h

/-- No handle is held or owned more often than it is counted. -/
def Solvent (s : Session Code Client) : Prop := ∀ h, 0 ≤ s.surplus h

/-- Every owned reference belongs to a live proxy, to the client, or to an operation under way. -/
structure Sound (owns : Client → List Handle) (held : List Handle) (s : Session Code Client) :
    Prop where
  table : s.table.WellFormed
  proxies : s.proxies.Ordered
  /-- The number of the next proxy is new. -/
  fresh : ∀ p ∈ s.proxies, p.1 < s.nextProxy
  owners : ∀ h, tally s.owned h = s.proxyRefs h + tally (owns s.client) h + tally held h

/-- The session is sound, and every reference that nobody owns is one of the loose ones. -/
structure Accounted (owns : Client → List Handle) (held : List Handle) (loose : Handle → Nat)
    (s : Session Code Client) : Prop where
  sound : s.Sound owns held
  table : s.table.Accounted (tally s.owned + loose)

variable {owns : Client → List Handle} {held : List Handle} {loose : Handle → Nat}
  {s : Session Code Client} {h : Handle}

theorem accounted_iff :
    s.Accounted owns held loose ↔ s.Sound owns held ∧ ∀ h, s.surplus h = loose h := by
  constructor
  · intro hs
    refine ⟨hs.sound, fun h => ?_⟩
    have := hs.table.refs h
    rw [surplus, this, Pi.add_apply]
    push_cast
    omega
  · rintro ⟨hs, hl⟩
    refine ⟨hs, hs.table, fun h => ?_⟩
    have := hl h
    rw [surplus] at this
    rw [Pi.add_apply]
    omega

/-- A solvent session has loose references to each handle, as many as the surplus says. -/
theorem Solvent.exists_loose (hn : s.Solvent) :
    ∃ loose : Handle → Nat, ∀ h, s.surplus h = loose h :=
  ⟨fun h => (s.surplus h).toNat, fun h => (Int.toNat_of_nonneg (hn h)).symm⟩

theorem Accounted.solvent (hs : s.Accounted owns held loose) : s.Solvent := by
  intro h
  rw [(accounted_iff.mp hs).2 h]
  exact Int.natCast_nonneg _

/-! ## What the accounts do not look at -/

theorem Accounted.emit (hs : s.Accounted owns held loose) (e : Event) :
    (s.emit e).Accounted owns held loose :=
  ⟨⟨hs.sound.table, hs.sound.proxies, hs.sound.fresh, hs.sound.owners⟩, hs.table⟩

theorem Accounted.emitAll (hs : s.Accounted owns held loose) (es : List Event) :
    (s.emitAll es).Accounted owns held loose :=
  ⟨⟨hs.sound.table, hs.sound.proxies, hs.sound.fresh, hs.sound.owners⟩, hs.table⟩

theorem Accounted.setBridge (hs : s.Accounted owns held loose) (i : Nat) (b : Bridge Code) :
    (s.setBridge i b).Accounted owns held loose :=
  ⟨⟨hs.sound.table, hs.sound.proxies, hs.sound.fresh, hs.sound.owners⟩, hs.table⟩

theorem Accounted.freeCell (hs : s.Accounted owns held loose) (i : Nat) :
    (s.freeCell i).Accounted owns held loose := by
  rw [Session.freeCell]
  split
  · exact hs
  · exact hs.setBridge i _

/-- The order in which operations hold references does not matter. -/
theorem Accounted.congr_held {held' : List Handle} (hs : s.Accounted owns held loose)
    (hh : ∀ h, tally held h = tally held' h) : s.Accounted owns held' loose :=
  ⟨⟨hs.sound.table, hs.sound.proxies, hs.sound.fresh, fun h => by
    rw [← hh]
    exact hs.sound.owners h⟩, hs.table⟩

/-- Another table over the same owners. -/
theorem Accounted.setTable {loose' : Handle → Nat} {t : Table Code}
    (hs : s.Accounted owns held loose) (ht : t.Accounted (tally s.owned + loose')) :
    ({ s with table := t }).Accounted owns held loose' :=
  ⟨⟨ht.wellFormed, hs.sound.proxies, hs.sound.fresh, hs.sound.owners⟩, ht⟩

/-! ## Owners -/

/-- References change hands: what is owned, held and loose afterwards adds up to the same. -/
theorem Accounted.setOwned {owned held' : List Handle} {loose' : Handle → Nat}
    (hs : s.Accounted owns held loose)
    (hHeld : ∀ x, tally owned x + tally held x = tally s.owned x + tally held' x)
    (hLoose : ∀ x, tally owned x + loose' x = tally s.owned x + loose x) :
    ({ s with owned }).Accounted owns held' loose' := by
  refine ⟨⟨hs.sound.table, hs.sound.proxies, hs.sound.fresh, fun x => ?_⟩, hs.table.wellFormed,
    fun x => ?_⟩
  · have hOwners := hs.sound.owners x
    have := hHeld x
    change tally owned x = s.proxyRefs x + tally (owns s.client) x + tally held' x
    omega
  · have hRefs := hs.table.refs x
    have := hLoose x
    simp only [Pi.add_apply] at hRefs ⊢
    omega

/-- A loose reference gets an owner. -/
theorem Accounted.adopt (hs : s.Accounted owns held (loose + tally [h])) :
    (s.adopt h).Accounted owns (h :: held) loose := by
  rw [Session.adopt]
  refine hs.setOwned (fun x => ?_) fun x => ?_
  · rw [tally_cons, tally_cons]
    omega
  · rw [Pi.add_apply, tally_cons, tally_cons, tally_nil]
    omega

theorem Accounted.release (hs : s.Accounted owns held (loose + tally [h])) :
    (s.release h).Accounted owns held loose := by
  have ht : s.table.Accounted (tally s.owned + loose + tally [h]) := by
    rw [add_assoc]
    exact hs.table
  rw [Session.release]
  exact (hs.setTable ht.release).emitAll _

/-- A held reference is owned. -/
theorem Sound.mem_owned (hs : s.Sound owns (h :: held)) : h ∈ s.owned := by
  have := hs.owners h
  rw [tally_cons, if_pos rfl] at this
  have hpos : 0 < s.owned.count h := by
    rw [tally] at this
    omega
  exact List.count_pos_iff.mp hpos

/-- What is held becomes loose, and is given back. -/
theorem Accounted.letGo (hs : s.Accounted owns (h :: held) loose) :
    (s.letGo h).Accounted owns held loose := by
  -- the owner is in the list, so taking it out lowers the count of its handle by one
  have hErase : ∀ x, tally s.owned x = tally (s.owned.erase h) x + tally [h] x := by
    intro x
    have hPerm := List.perm_cons_erase hs.sound.mem_owned
    rw [tally, hPerm.count_eq, ← tally, tally_cons, tally_cons, tally_nil]
    omega
  have hLoose : ({ s with owned := s.owned.erase h }).Accounted owns held (loose + tally [h]) := by
    refine hs.setOwned (fun x => ?_) fun x => ?_
    · have := hErase x
      rw [tally_cons, tally_nil] at this
      rw [tally_cons]
      omega
    · have := hErase x
      rw [Pi.add_apply]
      omega
  rw [Session.letGo]
  exact hLoose.release.emit _

theorem Accounted.letGo? {r : Option Handle} (hs : s.Accounted owns (r.toList ++ held) loose) :
    (s.letGo? r).Accounted owns held loose := by
  cases r with
  | none => exact hs
  | some h => exact hs.letGo

end Session

end ProxyBridge
