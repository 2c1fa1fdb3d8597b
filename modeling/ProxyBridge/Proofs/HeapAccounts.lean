import ProxyBridge.Proofs.Books
import ProxyBridge.Proofs.Hints

/-!
# Accounts of the host heap

Proxies are shared. Whoever uses one holds a reference to it, and the last reference to go takes the
proxy with it: it gives back its cell of the heap. While an operation of a proxy is under way it
holds a reference itself, so whatever foreign code drops meanwhile, the proxy outlives its call.

Routines say what clients do, deed after deed, with all that has happened at hand; foreign code
consists of routines as well. Whatever they do, the heap of each bridge agrees with the proxies that
exist and with the wraps that have succeeded.

## Results

* `Keeper`, `Deed`, `Routine` — clients that share proxies.
* `Books.Exact` — heaps that agree with proxies and journal.
* `Books.Kept.join`, `Books.Kept.destroy` — the two moments when a heap changes.
* `Deed.stays`, `Routine.stays`, `Routines.preserves` — deeds, runs, and foreign code of any depth.
* `heap_accounts` — the accounts at all moments of a run.
-/

namespace ProxyBridge

variable {Code Client α β : Type}

/-! ## Sharing proxies -/

/-- Something that has happened. -/
inductive Keeper.Entry (Code : Type) where
  /-- A command was carried out, or it failed. -/
  | reply (c : Command Code) (r : Except ProxyError (Reply Code))
  /-- The last reference to a proxy has gone. -/
  | destroyed (p : Proxy)
  /-- Somebody has looked at the books; the client's part of them is who holds a proxy. -/
  | seen (b : Books Code (List Nat))

/-- What a client that shares proxies keeps. -/
structure Keeper (Code : Type) where
  /-- All that has happened at any depth, the newest first. -/
  journal : List (Keeper.Entry Code)
  /-- The proxies that references are held to. A proxy occurs once for each reference. -/
  holders : List Nat

namespace Keeper.Entry

/-- The bridge that something has happened to, or that it went through. -/
def bridge? : Entry Code → Option Nat
  | .reply c _ => c.bridge?
  | .destroyed p => some p.bridge
  | .seen _ => none

/-- A wrap or a rebinding has succeeded on a bridge. -/
def wraps (i : Nat) : Entry Code → Bool
  | .reply c (.ok r) => c.bridge? = some i ∧ r.proxy?.isSome
  | _ => false

/-- A proxy of a bridge was destroyed. -/
def ends (i : Nat) : Entry Code → Bool
  | .destroyed p => p.bridge = i
  | _ => false

end Keeper.Entry

namespace Books

/-- The books with one more entry in the journal. -/
def enter (b : Books Code (Keeper Code)) (e : Keeper.Entry Code) : Books Code (Keeper Code) :=
  { b with client := { b.client with journal := e :: b.client.journal } }

/-- The books with one more reference to a proxy. -/
def hold (b : Books Code (Keeper Code)) (id : Nat) : Books Code (Keeper Code) :=
  { b with client := { b.client with holders := id :: b.client.holders } }

/-- What can be seen of the books. -/
def exposed (b : Books Code (Keeper Code)) : Books Code (List Nat) :=
  { bridges := b.bridges, proxies := b.proxies, nextProxy := b.nextProxy
    client := b.client.holders }

/-- The number of proxies of a bridge that exist. -/
def population (b : Books Code Client) (i : Nat) : Nat :=
  Dict.total (fun p => if p.bridge = i then 1 else 0) b.proxies

end Books

namespace Session

/-- Adds to the journal. -/
def enter (s : Session Code (Keeper Code)) (e : Keeper.Entry Code) : Session Code (Keeper Code) :=
  { s with client := { s.client with journal := e :: s.client.journal } }

/-- Holds one more reference to a proxy. -/
def hold (s : Session Code (Keeper Code)) (id : Nat) : Session Code (Keeper Code) :=
  { s with client := { s.client with holders := id :: s.client.holders } }

/-- Gives a reference to a proxy back. The last one takes the proxy with it. -/
def drop (s : Session Code (Keeper Code)) (id : Nat) : Session Code (Keeper Code) :=
  let holders := s.client.holders.erase id
  let s := { s with client := { s.client with holders } }
  if id ∈ holders then s
  else
    match s.proxies.find? id with
    | none => s
    | some p => (s.destroy id).enter (.destroyed p)

end Session

/-- What a client that shares proxies can do. -/
inductive Deed (Code : Type) where
  /-- Carries a command out. -/
  | command (c : Command Code) (spares : c.Spares)
  /-- Carries a command out that goes through a proxy. -/
  | through (id : Nat) (c : Proxy → Command Code) (spares : ∀ p, (c p).Spares)
  /-- Shares a proxy that somebody holds. -/
  | share (id : Nat)
  /-- Gives a reference to a proxy back. -/
  | drop (id : Nat)
  /-- Looks at the books. -/
  | look

section Deeds

variable (x : Limits) (env : Environment Code (Keeper Code))

/-- Carries a command out and enters what comes back. A reference is held to a new proxy. -/
def Command.carry (c : Command Code) (s : Session Code (Keeper Code)) :
    Session Code (Keeper Code) :=
  match x.perform env c s with
  | .ok r s =>
    match r.proxy? with
    | none => s.enter (.reply c (.ok r))
    | some id => (s.hold id).enter (.reply c (.ok r))
  | .error e s => s.enter (.reply c (.error e))

/-- Does a deed. -/
def Deed.perform (s : Session Code (Keeper Code)) : Deed Code → Session Code (Keeper Code)
  | .command c _ => c.carry x env s
  | .through id c _ =>
    match s.proxies.find? id with
    | none => s
    | some p => ((c p).carry x env (s.hold id)).drop id
  | .share id => if id ∈ s.client.holders then s.hold id else s
  | .drop id => s.drop id
  | .look => s.enter (.seen s.books.exposed)

/-- What somebody does who may look at all that has happened after every deed. -/
inductive Routine (Code α : Type) where
  | done (r : Except ForeignError α)
  | step (d : Deed Code) (next : Keeper Code → Routine Code α)

/-- Carries a routine out. -/
def Routine.run : Routine Code α → Act Code (Keeper Code) ForeignError α
  | .done r => Act.ofExcept r
  | .step d next => do
    modify (d.perform x env)
    (next (← get).client).run

end Deeds

/-- The routines of all foreign code. -/
structure Routines (Code : Type) where
  body : Code → Option Handle → List Handle → Keeper Code → Routine Code Value
  probe : Code → Handle → Capabilities → Keeper Code → Routine Code Bool

/-- The routines of all foreign code, which run other foreign code. -/
def Routines.around (x : Limits) (l : Routines Code) (env : Environment Code (Keeper Code)) :
    Environment Code (Keeper Code) where
  run code receiver args := do (l.body code receiver args (← get).client).run x env
  decide code h detected := do (l.probe code h detected (← get).client).run x env

/-- Foreign code that carries its routines out down to a depth, where it fails at once. -/
def Routines.environment (x : Limits) (l : Routines Code) (depth : Nat) :
    Environment Code (Keeper Code) :=
  .toDepth (l.around x) depth

/-! ## Exact books -/

theorem Heap.reserve_eq_ok {h heap : Heap} (hr : h.reserve = .ok heap) :
    h.live < h.limit.getD Heap.capacity ∧
      heap = { h with live := h.live + 1, total := h.total + 1 } := by
  rw [Heap.reserve] at hr
  split at hr
  · next hRoom =>
    cases hr
    exact ⟨hRoom, rfl⟩
  · cases hr

/-- The heap of a bridge agrees with its proxies and with the journal. -/
structure Bridge.Exact (journal : List (Keeper.Entry Code)) (population i : Nat)
    (bridge : Bridge Code) : Prop where
  live : bridge.heap.live = population
  total : bridge.heap.total = journal.countP (·.wraps i)
  /-- No cell was given back that was not in use: as many cells are in use as were reserved and not
  given back. -/
  ended : bridge.heap.live + journal.countP (·.ends i) = bridge.heap.total
  limit : ∀ n ∈ bridge.config.heap.maxLive, bridge.heap.live ≤ n

namespace Bridge.Exact

variable {journal : List (Keeper.Entry Code)} {n i : Nat} {bridge : Bridge Code} {heap : Heap}
  {e : Keeper.Entry Code}

/-- What happens elsewhere, or is no wrap and no end, does not count. -/
theorem enter (h : bridge.Exact journal n i) (hWraps : e.wraps i = false)
    (hEnds : e.ends i = false) : bridge.Exact (e :: journal) n i where
  live := h.live
  total := by rw [List.countP_cons_of_neg (by simp [hWraps]), h.total]
  ended := by rw [List.countP_cons_of_neg (by simp [hEnds]), h.ended]
  limit := h.limit

/-- A cell is reserved, and a wrap is entered. -/
theorem reserve (h : bridge.Exact journal n i) (hCell : bridge.heap.reserve = .ok heap)
    (hSame : bridge.heap.limit = bridge.config.heap.maxLive) (hWraps : e.wraps i = true)
    (hEnds : e.ends i = false) : Exact (e :: journal) (n + 1) i { bridge with heap } := by
  obtain ⟨hRoom, rfl⟩ := Heap.reserve_eq_ok hCell
  refine ⟨congrArg (· + 1) h.live, ?_, ?_, fun limit hLimit => ?_⟩
  · rw [List.countP_cons_of_pos (by simp [hWraps]), ← h.total]
  · rw [List.countP_cons_of_neg (by simp [hEnds]), ← h.ended]
    exact Nat.add_right_comm _ _ _
  · rw [hSame, Option.mem_def.mp hLimit] at hRoom
    exact hRoom

/-- A cell that is in use is given back, and the end of a proxy is entered. -/
theorem free (h : bridge.Exact journal (n + 1) i) (hWraps : e.wraps i = false)
    (hEnds : e.ends i = true) :
    Exact (e :: journal) n i { bridge with heap := bridge.heap.free } := by
  have hLive := h.live
  have hEnded := h.ended
  refine ⟨?_, ?_, ?_, fun limit hLimit => Nat.le_trans (Nat.sub_le _ _) (h.limit limit hLimit)⟩
  · show bridge.heap.live - 1 = n
    omega
  · rw [List.countP_cons_of_neg (by simp [hWraps]), ← h.total]
    rfl
  · rw [List.countP_cons_of_pos (by simp [hEnds])]
    show bridge.heap.live - 1 + (_ + 1) = bridge.heap.total
    omega

end Bridge.Exact

namespace Books

/-- Exactly the proxies exist that are held, and the heaps agree with them and with the journal. -/
structure Exact (journal : List (Keeper.Entry Code)) (b : Books Code (List Nat)) : Prop where
  held : ∀ id, id ∈ b.client ↔ (b.proxies.find? id).isSome = true
  bridges : ∀ (i : Nat) (bridge : Bridge Code), b.bridges[i]? = some bridge →
    bridge.Exact journal (b.population i) i
  /-- Each proxy that exists has a cell in use, and would give just this one back. -/
  cells : ∀ id p, b.proxies.find? id = some p → ∃ bridge, b.bridges[p.bridge]? = some bridge ∧
    bridge.heap.free.live + 1 = bridge.heap.live

/-- What is true of the books between deeds. -/
structure Kept (b : Books Code (Keeper Code)) : Prop where
  held : ∀ id, id ∈ b.client.holders ↔ (b.proxies.find? id).isSome = true
  bridges : ∀ (i : Nat) (bridge : Bridge Code), b.bridges[i]? = some bridge →
    bridge.Exact b.client.journal (b.population i) i
  limits : ∀ (i : Nat) (bridge : Bridge Code), b.bridges[i]? = some bridge →
    bridge.heap.limit = bridge.config.heap.maxLive
  ordered : b.proxies.Ordered
  numbered : ∀ e ∈ b.proxies, e.1 < b.nextProxy
  housed : ∀ e ∈ b.proxies, e.2.bridge < b.bridges.length
  /-- Nothing has happened to a bridge that is still to be opened. -/
  unopened : ∀ i, b.bridges.length ≤ i → b.client.journal.countP (·.wraps i) = 0 ∧
    b.client.journal.countP (·.ends i) = 0
  looks : ∀ later seen earlier, b.client.journal = later ++ .seen seen :: earlier →
    seen.Exact earlier

namespace Kept

variable {b : Books Code (Keeper Code)} {i : Nat} {bridge : Bridge Code} {p : Proxy}

theorem cell (hb : b.Kept) {id : Nat} (hp : b.proxies.find? id = some p) :
    ∃ bridge, b.bridges[p.bridge]? = some bridge ∧
      bridge.heap.free.live + 1 = bridge.heap.live := by
  have hOpen : p.bridge < b.bridges.length := hb.housed _ (Dict.mem_of_find? hp)
  refine ⟨_, List.getElem?_eq_getElem hOpen, ?_⟩
  -- the proxy counts among those of its bridge, so its heap has a cell in use
  have hLive := (hb.bridges _ _ (List.getElem?_eq_getElem hOpen)).live
  have hCounted := Dict.le_total (fun q : Proxy => if q.bridge = p.bridge then 1 else 0) hp
  rw [if_pos rfl] at hCounted
  unfold population at hLive
  unfold Heap.free
  dsimp only
  omega

theorem exact (hb : b.Kept) : b.exposed.Exact b.client.journal where
  held := hb.held
  bridges := hb.bridges
  cells := fun _ _ hp => hb.cell hp

/-- A longer journal has the same looks, and one more if that is what is entered. -/
theorem looks_enter (hb : b.Kept) {e : Keeper.Entry Code}
    (hSeen : ∀ seen, e = .seen seen → seen.Exact b.client.journal)
    (later : List (Keeper.Entry Code)) (seen : Books Code (List Nat))
    (earlier : List (Keeper.Entry Code))
    (h : e :: b.client.journal = later ++ .seen seen :: earlier) : seen.Exact earlier := by
  cases later with
  | nil =>
    obtain ⟨rfl, rfl⟩ := List.cons.inj h
    exact hSeen seen rfl
  | cons _ later => exact hb.looks later seen earlier (List.cons.inj h).2

/-- A bridge that changes keeps its limit. -/
theorem limits_set (hb : b.Kept) (hSame : bridge.heap.limit = bridge.config.heap.maxLive) (j : Nat)
    (d : Bridge Code) (hd : (b.bridges.set i bridge)[j]? = some d) :
    d.heap.limit = d.config.heap.maxLive := by
  rcases getElem?_set_cases hd with ⟨-, rfl⟩ | ⟨-, hOld⟩
  · exact hSame
  · exact hb.limits j d hOld

/-- Nothing in the journal but a wrap, the end of a proxy or a look has to be accounted for. -/
theorem enter (hb : b.Kept) {e : Keeper.Entry Code} (hWraps : ∀ i, e.wraps i = false)
    (hEnds : ∀ i, e.ends i = false) (hSeen : ∀ seen, e = .seen seen → seen.Exact b.client.journal) :
    (b.enter e).Kept where
  held := hb.held
  bridges i bridge hBridge := (hb.bridges i bridge hBridge).enter (hWraps i) (hEnds i)
  limits := hb.limits
  ordered := hb.ordered
  numbered := hb.numbered
  housed := hb.housed
  unopened i hi := by
    rw [Books.enter, List.countP_cons_of_neg (by simp [hWraps]),
      List.countP_cons_of_neg (by simp [hEnds])]
    exact hb.unopened i hi
  looks := hb.looks_enter hSeen

/-- References may come and go as long as the same proxies are held. -/
theorem holders (hb : b.Kept) {holders : List Nat}
    (hSame : ∀ id, id ∈ holders ↔ id ∈ b.client.holders) :
    ({ b with client := { b.client with holders } } : Books Code (Keeper Code)).Kept where
  held := fun id => (hSame id).trans (hb.held id)
  bridges := hb.bridges
  limits := hb.limits
  ordered := hb.ordered
  numbered := hb.numbered
  housed := hb.housed
  unopened := hb.unopened
  looks := hb.looks

theorem hold (hb : b.Kept) {id : Nat} (hid : id ∈ b.client.holders) : (b.hold id).Kept :=
  hb.holders fun _ => ⟨fun h => (List.mem_cons.mp h).elim (fun hEq => hEq ▸ hid) fun h => h,
    List.mem_cons_of_mem id⟩

theorem allowsLookUp (i : Nat) : AllowsLookUp (@Kept Code) i := by
  intro b bridge registry hb hBridge
  refine { hb with
    bridges := fun j c hc => ?_
    limits := hb.limits_set (hb.limits i bridge hBridge)
    housed := fun e he => ?_
    unopened := fun j hj => ?_ }
  · rcases getElem?_set_cases hc with ⟨rfl, rfl⟩ | ⟨-, hOld⟩
    · exact { hb.bridges j bridge hBridge with }
    · exact hb.bridges j c hOld
  · rw [setBridge, List.length_set]
    exact hb.housed e he
  · rw [setBridge, List.length_set] at hj
    exact hb.unopened j hj

theorem allowsOpening : AllowsOpening (@Kept Code) := by
  intro b bridge hb hHeap
  have hFresh := hb.unopened b.bridges.length (Nat.le_refl _)
  have hEmpty : b.population b.bridges.length = 0 :=
    Dict.total_eq_zero fun e he => if_neg (Nat.ne_of_lt (hb.housed e he))
  refine { hb with
    bridges := fun j c hc => ?_
    limits := fun j c hc => ?_
    housed := fun e he => ?_
    unopened := fun j hj => ?_ }
  · rcases getElem?_concat_cases hc with hOld | ⟨rfl, rfl⟩
    · exact hb.bridges j c hOld
    · -- the new bridge has no proxies yet, and its heap is new as well
      constructor
      all_goals rw [hHeap]
      · exact hEmpty.symm
      · exact hFresh.1.symm
      · exact (Nat.zero_add _).trans hFresh.2
      · exact fun n _ => Nat.zero_le n
  · rcases getElem?_concat_cases hc with hOld | ⟨rfl, rfl⟩
    · exact hb.limits j c hOld
    · rw [hHeap]
      rfl
  · have := hb.housed e he
    rw [List.length_append, List.length_singleton]
    omega
  · rw [List.length_append, List.length_singleton] at hj
    exact hb.unopened j (by omega)

/-- A proxy joins: its cell is reserved, and the wrap is entered. -/
theorem join (hb : b.Kept) (hBridge : b.bridges[i]? = some bridge) {heap : Heap}
    (hCell : bridge.heap.reserve = .ok heap) (hp : p.bridge = i) {c : Command Code}
    {r : Reply Code} (hc : c.bridge? = some i) (hr : r.proxy?.isSome = true) :
    (((b.setBridge i { bridge with heap }).withProxy p).hold b.nextProxy |>.enter
      (.reply c (.ok r))).Kept := by
  -- its number is above all that are in use
  have hNew : b.proxies.find? b.nextProxy = none :=
    Dict.find?_eq_none fun e he => Nat.ne_of_lt (hb.numbered e he)
  have hOpen := (List.getElem?_eq_some_iff.mp hBridge).1
  have hWraps (j : Nat) : (Keeper.Entry.reply c (.ok r)).wraps j = decide (i = j) := by
    simp [Keeper.Entry.wraps, hc, hr]
  have hPopulation (j : Nat) :
      (b.withProxy p).population j = b.population j + if i = j then 1 else 0 := by
    have hTotal := Dict.total_insert (fun q : Proxy => if q.bridge = j then 1 else 0) hb.ordered
      b.nextProxy p
    rw [hNew, hp] at hTotal
    exact hTotal
  have hLimit : heap.limit = bridge.config.heap.maxLive := by
    obtain ⟨-, rfl⟩ := Heap.reserve_eq_ok hCell
    exact hb.limits i bridge hBridge
  constructor
  case held =>
    intro id
    refine List.mem_cons.trans ?_
    show id = b.nextProxy ∨ id ∈ b.client.holders ↔
      (Dict.find? id (b.proxies.insert b.nextProxy p)).isSome = true
    rw [Dict.find?_insert, hb.held]
    by_cases hid : b.nextProxy = id
    · simp [hid]
    · simp [hid, Ne.symm hid]
  case bridges =>
    intro j d hd
    show d.Exact (.reply c (.ok r) :: b.client.journal) ((b.withProxy p).population j) j
    rw [hPopulation]
    rcases getElem?_set_cases hd with ⟨rfl, rfl⟩ | ⟨hOther, hOld⟩
    · rw [if_pos rfl]
      exact (hb.bridges j bridge hBridge).reserve hCell (hb.limits j bridge hBridge)
        (by simp [hWraps]) rfl
    · rw [if_neg (Ne.symm hOther)]
      exact (hb.bridges j d hOld).enter (by simp [hWraps, Ne.symm hOther]) rfl
  case limits => exact hb.limits_set hLimit
  case ordered => exact Dict.ordered_insert hb.ordered _ _
  case numbered =>
    intro e he
    show e.1 < b.nextProxy + 1
    rcases Dict.mem_insert he with rfl | hOld
    · exact Nat.lt_succ_self _
    · exact Nat.lt_succ_of_lt (hb.numbered e hOld)
  case housed =>
    intro e he
    show e.2.bridge < (b.bridges.set i _).length
    rw [List.length_set]
    rcases Dict.mem_insert he with rfl | hOld
    · exact hp ▸ hOpen
    · exact hb.housed e hOld
  case unopened =>
    intro j hj
    have hj : b.bridges.length ≤ j := by
      simpa [setBridge, withProxy, Books.hold, Books.enter] using hj
    obtain ⟨hNoWraps, hNoEnds⟩ := hb.unopened j hj
    have hOther : ¬ (Keeper.Entry.reply c (.ok r)).wraps j = true := by
      simp [hWraps, Nat.ne_of_lt (Nat.lt_of_lt_of_le hOpen hj)]
    exact ⟨(List.countP_cons_of_neg hOther).trans hNoWraps,
      (List.countP_cons_of_neg (by simp [Keeper.Entry.ends])).trans hNoEnds⟩
  case looks => exact hb.looks_enter fun _ h => by cases h

/-- A proxy is destroyed: its cell is given back, and its end is entered. -/
theorem destroy (hb : b.Kept) {id : Nat} (hp : b.proxies.find? id = some p)
    (hBridge : b.bridges[p.bridge]? = some bridge) (hid : id ∉ b.client.holders.erase id) :
    ({ (b.setBridge p.bridge { bridge with heap := bridge.heap.free }) with
        proxies := b.proxies.erase id
        client := { b.client with holders := b.client.holders.erase id } } |>.enter
      (.destroyed p)).Kept := by
  have hOpen := (List.getElem?_eq_some_iff.mp hBridge).1
  have hEnds (j : Nat) : (Keeper.Entry.destroyed p : Keeper.Entry Code).ends j =
      decide (p.bridge = j) := rfl
  have hPopulation (j : Nat) : b.population j =
      Dict.total (fun q : Proxy => if q.bridge = j then 1 else 0) (b.proxies.erase id) +
        if p.bridge = j then 1 else 0 :=
    (Dict.total_erase (fun q : Proxy => if q.bridge = j then 1 else 0) hp).symm
  constructor
  case held =>
    intro id'
    show id' ∈ b.client.holders.erase id ↔ (Dict.find? id' (b.proxies.erase id)).isSome = true
    rw [Dict.find?_erase hb.ordered]
    by_cases hEq : id = id'
    · subst hEq
      simp [hid]
    · rw [List.mem_erase_of_ne (Ne.symm hEq), hb.held, if_neg hEq]
  case bridges =>
    intro j d hd
    show d.Exact (.destroyed p :: b.client.journal)
      (Dict.total (fun q : Proxy => if q.bridge = j then 1 else 0) (b.proxies.erase id)) j
    rcases getElem?_set_cases hd with ⟨rfl, rfl⟩ | ⟨hOther, hOld⟩
    · have hExact := hb.bridges _ bridge hBridge
      rw [hPopulation, if_pos rfl] at hExact
      exact hExact.free rfl (by simp [hEnds])
    · have hExact := hb.bridges j d hOld
      rw [hPopulation, if_neg (Ne.symm hOther)] at hExact
      exact hExact.enter rfl (by simp [hEnds, Ne.symm hOther])
  case limits => exact hb.limits_set (hb.limits _ bridge hBridge)
  case ordered => exact Dict.ordered_erase hb.ordered id
  case numbered => exact fun e he => hb.numbered e ((Dict.erase_sublist _ id).subset he)
  case housed =>
    intro e he
    show e.2.bridge < (b.bridges.set p.bridge _).length
    rw [List.length_set]
    exact hb.housed e ((Dict.erase_sublist _ id).subset he)
  case unopened =>
    intro j hj
    have hj : b.bridges.length ≤ j := by simpa [setBridge, Books.enter] using hj
    obtain ⟨hNoWraps, hNoEnds⟩ := hb.unopened j hj
    have hOther : ¬ (Keeper.Entry.destroyed p : Keeper.Entry Code).ends j = true := by
      simp [hEnds, Nat.ne_of_lt (Nat.lt_of_lt_of_le hOpen hj)]
    exact ⟨(List.countP_cons_of_neg (by simp [Keeper.Entry.wraps])).trans hNoWraps,
      (List.countP_cons_of_neg hOther).trans hNoEnds⟩
  case looks => exact hb.looks_enter fun _ h => by cases h

end Kept

/-- What has happened since then leaves the bridges alone that nothing went through. Operations
under way may have changed their bridges. -/
def Since (underWay : List Nat) (b₀ b : Books Code (Keeper Code)) : Prop :=
  ∃ since, b.client.journal = since ++ b₀.client.journal ∧
    ∀ (i : Nat) (bridge : Bridge Code), b₀.bridges[i]? = some bridge → i ∉ underWay →
      (∀ e ∈ since, e.bridge? ≠ some i) → b.bridges[i]? = some bridge

namespace Since

variable {underWay : List Nat} {b₀ b : Books Code (Keeper Code)} {i : Nat} {bridge : Bridge Code}

theorem refl (b : Books Code (Keeper Code)) : Since underWay b b :=
  ⟨[], rfl, fun _ _ h _ _ => h⟩

/-- The more is under way, the less is said. -/
theorem mono {more : List Nat} (h : Since underWay b₀ b) (hMore : ∀ i ∈ underWay, i ∈ more) :
    Since more b₀ b := by
  obtain ⟨since, hJournal, hFrame⟩ := h
  exact ⟨since, hJournal, fun i bridge hi hUnder => hFrame i bridge hi fun h => hUnder (hMore i h)⟩

theorem setBridge (h : Since underWay b₀ b) (hi : i ∈ underWay) :
    Since underWay b₀ (b.setBridge i bridge) := by
  obtain ⟨since, hJournal, hFrame⟩ := h
  refine ⟨since, hJournal, fun j c hc hj hSince => ?_⟩
  rw [Books.setBridge, List.getElem?_set_ne (ne_of_mem_of_not_mem hi hj)]
  exact hFrame j c hc hj hSince

theorem opening (h : Since underWay b₀ b) :
    Since underWay b₀ { b with bridges := b.bridges ++ [bridge] } := by
  obtain ⟨since, hJournal, hFrame⟩ := h
  refine ⟨since, hJournal, fun j c hc hj hSince => ?_⟩
  have hOld := hFrame j c hc hj hSince
  rw [List.getElem?_append_left (List.getElem?_eq_some_iff.mp hOld).1, hOld]

/-- An operation that has ended is no longer under way, but it has happened. -/
theorem enter {e : Keeper.Entry Code} (h : Since (e.bridge?.toList ++ underWay) b₀ b) :
    Since underWay b₀ (b.enter e) := by
  obtain ⟨since, hJournal, hFrame⟩ := h
  refine ⟨e :: since, congrArg (e :: ·) hJournal, fun j c hc hj hSince => ?_⟩
  refine hFrame j c hc ?_ fun e' he' => hSince e' (List.mem_cons_of_mem _ he')
  have hOther := hSince e (List.mem_cons_self ..)
  cases hBridge : e.bridge? with
  | none => exact hj
  | some i =>
    rw [hBridge] at hOther
    simpa [hj] using fun hEq : j = i => hOther (congrArg some hEq.symm)

end Since

/-- The books are kept, and bridges stay as they are unless something goes through them. -/
def Stays (underWay : List Nat) (b₀ b : Books Code (Keeper Code)) : Prop :=
  b.Kept ∧ Since underWay b₀ b

namespace Stays

variable {underWay : List Nat} {b₀ b : Books Code (Keeper Code)} {i : Nat} {c : Command Code}

theorem allowsLookUp (hi : i ∈ underWay) : AllowsLookUp (Stays underWay b₀) i :=
  fun registry hb hBridge => ⟨Kept.allowsLookUp i registry hb.1 hBridge, hb.2.setBridge hi⟩

theorem allowsOpening : AllowsOpening (Stays underWay b₀) :=
  fun hb hHeap => ⟨Kept.allowsOpening hb.1 hHeap, hb.2.opening⟩

/-- What a command of a bridge has to allow for. After a proxy has joined, the books are kept again
as soon as the wrap is entered. -/
theorem rules (hi : c.bridge? = some i) :
    Rules (Stays (i :: underWay) b₀) i fun id b => ∀ r : Reply Code, r.proxy? = some id →
      Stays underWay b₀ ((b.hold id).enter (.reply c (.ok r))) where
  lookUp := allowsLookUp (List.mem_cons_self ..)
  join := by
    rintro b bridge heap p ⟨hKept, hSince⟩ hBridge hCell hp r hr
    refine ⟨hKept.join hBridge hCell hp hi (Option.isSome_iff_exists.mpr ⟨_, hr⟩), ?_⟩
    refine Since.enter (e := .reply c (.ok r)) ?_
    rw [Keeper.Entry.bridge?, hi]
    exact hSince.setBridge (List.mem_cons_self ..)

/-- A command that makes no proxy has to be entered only. -/
theorem enter_reply {r : Except ProxyError (Reply Code)}
    (hb : Stays (c.bridge?.toList ++ underWay) b₀ b) (hr : ∀ r', r = .ok r' → r'.proxy? = none) :
    Stays underWay b₀ (b.enter (.reply c r)) := by
  refine ⟨hb.1.enter (fun i => ?_) (fun _ => rfl) nofun, Since.enter hb.2⟩
  cases r with
  | error e => rfl
  | ok r' => simp [Keeper.Entry.wraps, hr r' rfl]

end Stays

end Books

/-! ## Deeds -/

section Runs

open Books

variable {x : Limits} {env : Environment Code (Keeper Code)} {underWay : List Nat}
  {b₀ : Books Code (Keeper Code)} {s : Session Code (Keeper Code)}

theorem Command.stays_carry (hEnv : ∀ underWay, env.Preserves (Stays underWay b₀))
    {c : Command Code} (hSpares : c.Spares) (hs : Stays underWay b₀ s.books) :
    Stays underWay b₀ (c.carry x env s).books := by
  -- while the command is under way its bridge may change
  have hStart : Stays (c.bridge?.toList ++ underWay) b₀ s.books :=
    ⟨hs.1, hs.2.mono fun _ h => List.mem_append_right _ h⟩
  have hRules : ∀ i ∈ c.bridge?, Rules (Stays (c.bridge?.toList ++ underWay) b₀) i
      fun id b => ∀ r : Reply Code, r.proxy? = some id →
        Stays underWay b₀ ((b.hold id).enter (.reply c (.ok r))) := by
    intro i hi
    rw [Option.mem_def.mp hi]
    exact Stays.rules hi
  have hRun := Limits.leads_perform (x := x) (hEnv _) hSpares Stays.allowsOpening hRules s hStart
  unfold Command.carry
  cases hr : x.perform env c s with
  | error e s' =>
    rw [hr] at hRun
    exact Stays.enter_reply (r := .error e) hRun nofun
  | ok r s' =>
    rw [hr] at hRun
    dsimp only at hRun ⊢
    cases hProxy : r.proxy? with
    | none =>
      rw [hProxy] at hRun
      exact Stays.enter_reply (r := .ok r) hRun fun r' h => by cases h; exact hProxy
    | some id =>
      rw [hProxy] at hRun
      exact hRun r hProxy

theorem Session.books_destroy {id : Nat} {p : Proxy} {bridge : Bridge Code}
    (hp : s.proxies.find? id = some p) (hBridge : s.bridges[p.bridge]? = some bridge) :
    (s.destroy id).books =
      { (s.books.setBridge p.bridge { bridge with heap := bridge.heap.free }) with
        proxies := s.proxies.erase id } := by
  let left := { s with proxies := s.proxies.erase id }
  have hBooks : ((left.letGo p.value).letGo? p.receiver).books = left.books :=
    (left.letGo p.value).books_letGo? p.receiver
  have hSame : ((left.letGo p.value).letGo? p.receiver).bridges = s.bridges :=
    congrArg Books.bridges hBooks
  rw [Session.destroy, hp]
  show (((left.letGo p.value).letGo? p.receiver).freeCell p.bridge).books = _
  rw [Session.freeCell, hSame, hBridge]
  show Books.setBridge ((left.letGo p.value).letGo? p.receiver).books p.bridge _ = _
  rw [hBooks]
  rfl

theorem Session.stays_drop (hs : Stays underWay b₀ s.books) (id : Nat) :
    Stays underWay b₀ (s.drop id).books := by
  obtain ⟨hKept, hSince⟩ := hs
  unfold Session.drop
  dsimp only
  split
  · next hShared =>
    -- somebody else holds the proxy
    refine ⟨hKept.holders fun id' => ⟨List.mem_of_mem_erase, fun h => ?_⟩, hSince⟩
    by_cases hEq : id' = id
    · exact hEq ▸ hShared
    · exact (List.mem_erase_of_ne hEq).mpr h
  · next hLast =>
    cases hp : s.proxies.find? id with
    | none =>
      -- there is no such proxy, so nobody has held it
      have hNobody : id ∉ s.client.holders := by
        intro h
        have hExists := (hKept.held id).mp h
        rw [show s.books.proxies = s.proxies from rfl, hp] at hExists
        cases hExists
      exact ⟨hKept.holders fun id' => by rw [List.erase_of_not_mem hNobody]; rfl, hSince⟩
    | some p =>
      obtain ⟨bridge, hBridge, -⟩ := hKept.cell hp
      let alone : Session Code (Keeper Code) :=
        { s with client := { s.client with holders := s.client.holders.erase id } }
      have hBooks : (alone.destroy id).books =
          { (s.books.setBridge p.bridge { bridge with heap := bridge.heap.free }) with
            proxies := s.proxies.erase id
            client := { s.client with holders := s.client.holders.erase id } } :=
        Session.books_destroy (s := alone) hp hBridge
      have hEnter : ((alone.destroy id).enter (.destroyed p)).books =
          (alone.destroy id).books.enter (.destroyed p) := rfl
      show Stays underWay b₀ ((alone.destroy id).enter (.destroyed p)).books
      rw [hEnter, hBooks]
      refine ⟨hKept.destroy hp hBridge hLast, Since.enter (e := .destroyed p) ?_⟩
      exact (hSince.mono fun _ h => List.mem_cons_of_mem p.bridge h).setBridge
        (List.mem_cons_self ..)

theorem Deed.stays (hEnv : ∀ underWay, env.Preserves (Stays underWay b₀)) (d : Deed Code)
    (hs : Stays underWay b₀ s.books) : Stays underWay b₀ (d.perform x env s).books := by
  cases d with
  | command c spares => exact Command.stays_carry hEnv spares hs
  | through id c spares =>
    rw [Deed.perform]
    cases hp : s.proxies.find? id with
    | none => exact hs
    | some p =>
      have hHeld : id ∈ s.client.holders :=
        (hs.1.held id).mpr (Option.isSome_iff_exists.mpr ⟨p, hp⟩)
      -- the reference for the time of the call is given back in the end
      have hHold : Stays underWay b₀ (s.hold id).books := ⟨hs.1.hold hHeld, hs.2⟩
      exact Session.stays_drop (Command.stays_carry hEnv (spares p) hHold) id
  | share id =>
    rw [Deed.perform]
    split
    · next hHeld => exact ⟨hs.1.hold hHeld, hs.2⟩
    · exact hs
  | drop id => exact Session.stays_drop hs id
  | look =>
    refine ⟨hs.1.enter (fun _ => rfl) (fun _ => rfl) ?_, Since.enter (e := .seen _) hs.2⟩
    rintro _ h
    cases h
    exact hs.1.exact

/-! ## Routines -/

theorem Routine.stays (hEnv : ∀ underWay, env.Preserves (Stays underWay b₀))
    (r : Routine Code α) (underWay : List Nat) : (r.run x env).Preserves (Stays underWay b₀) := by
  induction r with
  | done r => exact Act.Preserves.ofExcept r
  | step d next ih =>
    intro s hs
    exact ih _ _ (d.stays hEnv hs)

/-- Foreign code of any depth keeps the books. -/
theorem Routines.preserves (l : Routines Code) (b₀ : Books Code (Keeper Code)) (depth : Nat)
    (underWay : List Nat) : (l.environment x depth).Preserves (Stays underWay b₀) := by
  -- a routine runs while more is under way than around it
  refine Environment.toDepth_induction (P := fun env => ∀ underWay,
    env.Preserves (Stays underWay b₀)) ?_ (fun env hEnv underWay => ?_) depth underWay
  · exact fun _ => ⟨fun _ _ _ => Act.Preserves.throw _, fun _ _ _ => Act.Preserves.throw _⟩
  · exact ⟨fun _ _ _ => Act.Preserves.get_bind fun _ => Routine.stays hEnv _ underWay,
      fun _ _ _ => Act.Preserves.get_bind fun _ => Routine.stays hEnv _ underWay⟩

/-- Nothing has happened yet. -/
def Keeper.start : Keeper Code := { journal := [], holders := [] }

theorem kept_new (table : Table Code) (timing : Bool) :
    (Session.new table timing Keeper.start).books.Kept where
  held _ := by
    constructor
    · exact fun h => nomatch h
    · exact fun h => nomatch h
  bridges _ _ h := nomatch h
  limits _ _ h := nomatch h
  ordered := .nil
  numbered _ h := nomatch h
  housed _ h := nomatch h
  unopened _ _ := ⟨rfl, rfl⟩
  looks later _ _ h := by cases later <;> cases h

/-- **The heap accounts are exact at all moments.** Whatever is done with proxies from an empty
session on, by the host and by foreign code down to any depth, with any number of bridges and with
any limits: at the end, and whenever somebody has looked at the books in the meantime, exactly the
proxies exist that are held; each heap has as many cells in use as its bridge has proxies, and no
more than it may; it has reserved as many as wraps have succeeded; and no cell was given back that
was not in use. In the course of it, the bridges that nothing went through have stayed as they
were. -/
theorem heap_accounts (x : Limits) (l : Routines Code) (depth : Nat) (table : Table Code)
    (timing : Bool) (before : Routine Code α) (after : Routine Code β) :
    let env := l.environment x depth
    let s := (before.run x env).after (Session.new table timing Keeper.start)
    let s' := (after.run x env).after s
    s'.books.exposed.Exact s'.client.journal ∧
      (∀ later seen earlier, s'.client.journal = later ++ .seen seen :: earlier →
        seen.Exact earlier) ∧
      ∃ since, s'.client.journal = since ++ s.client.journal ∧
        ∀ (i : Nat) (bridge : Bridge Code), s.bridges[i]? = some bridge →
          (∀ e ∈ since, e.bridge? ≠ some i) → s'.bridges[i]? = some bridge := by
  intro env s s'
  have hMiddle : Stays [] _ s.books :=
    (Routine.stays (l.preserves _ depth) before []).after ⟨kept_new table timing, Since.refl _⟩
  -- the first half shows that the books were kept, the second one starts from there
  obtain ⟨hKept, since, hJournal, hFrame⟩ : Stays [] s.books s'.books :=
    (Routine.stays (l.preserves s.books depth) after []).after ⟨hMiddle.1, Since.refl _⟩
  exact ⟨hKept.exact, hKept.looks, since, hJournal, fun i bridge hi => hFrame i bridge hi nofun⟩

end Runs

/-! ## A proxy that is dropped while it is called -/

/-- A function that drops the reference of whoever calls it first, and has a look. -/
def exampleRoutines : Routines Unit where
  body _ _ _ _ := .step (.drop 0) fun _ => .step .look fun _ => .done (.ok .undefined)
  probe _ _ _ _ := .done (.ok false)

/-- A function is wrapped and called, and then somebody has another look. -/
def exampleRoutine : Routine Unit Unit :=
  .step (.command (.openBridge .standard {}) trivial) fun _ =>
    .step (.command (.insert (.function ())) trivial) fun _ =>
      .step (.command (.createTyped 0 Capabilities.callable ⟨2⟩ none) trivial) fun _ =>
        .step (.through 0 (.call · []) fun _ => trivial) fun _ =>
          .step .look fun _ => .done (.ok ())

/-- The live counters that somebody has seen, the last ones first. -/
def Keeper.seenLive (k : Keeper Code) : List (List Nat) :=
  k.journal.filterMap fun
    | .seen b => some (b.bridges.map (·.heap.live))
    | _ => none

/-- The proxy outlives its call, though nobody else holds it any more. -/
example : ((exampleRoutine.run .unlimited (exampleRoutines.environment .unlimited 1)).after
    (Session.new (.empty none) false Keeper.start)).client.seenLive = [[0], [1]] := by
  decide +kernel

end ProxyBridge
