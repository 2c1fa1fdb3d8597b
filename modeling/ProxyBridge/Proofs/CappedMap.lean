import ProxyBridge.Proofs.Composition

/-!
# A registry is a capped map that only grows

Requests that nothing interrupts see a registry as something much simpler: the list of the masks
that it has a shape for, in the order in which they came. A new mask is added at the end while there
is room, and its shape is told by the mask and by its place in the list. Hints make no difference.

The registry keeps a count of places, a number for the next shape and five counters besides. In
requests without interruption all of them can be told from the list and from the answers.

A probe may ask the registry for shapes while somebody else waits for the probe. Requests do not
overlap even so: those that a session makes to a registry, in their order, are answered as in a
dialogue.

## Results

* `CappedMap` — the list of masks, and what it answers.
* `Dialogue` — a registry, and the answers to those who asked it.
* `Registry.Holds.resolve` — one request, with or without a hint.
* `Dialogue.Faithful` — what a whole dialogue keeps.
* `Session.Asked`, `Session.Asked.conversed` — the requests of a session to a bridge, and what they
  get.
* `registry_refines_cappedMap` — what it says about registries, in dialogues and in sessions.
-/

namespace ProxyBridge

variable {Code Client Mind : Type}

/-! ## The map -/

/-- Masks with a shape, in the order in which they came, and how many there may be. -/
structure CappedMap where
  masks : List Capabilities
  cap : Option Nat
deriving DecidableEq, Repr

/-- A shape that comes with a request. -/
inductive Hint where
  | none
  /-- The shape of an earlier answer, told by its place among the answers. -/
  | earlier (n : Nat)
  /-- A shape that was made elsewhere. -/
  | foreign (shape : Shape)

/-- What somebody asks a registry for. -/
inductive Inquiry where
  /-- The shape of a mask, if it has one. -/
  | get (flags : Capabilities)
  | resolve (flags : Capabilities) (hint : Hint)

/-- What a registry said, and for which mask. -/
inductive Answer where
  | found (flags : Capabilities) (shape : Option Shape)
  | resolved (flags : Capabilities) (result : Except ProxyError Shape)

namespace Answer

/-- The mask that was asked for. -/
def flags : Answer → Capabilities
  | found flags _ | resolved flags _ => flags

/-- The shape in the answer. -/
def shape? : Answer → Option Shape
  | found _ shape => shape
  | resolved _ result => result.toOption

/-- The answer is one to a request. -/
def isResolved : Answer → Bool
  | found .. => false
  | resolved .. => true

def isRefusal : Answer → Bool
  | resolved _ (.error _) => true
  | _ => false

end Answer

namespace CappedMap

/-- There is room for one more mask. -/
def hasRoom (m : CappedMap) : Bool := m.cap.all fun max => m.masks.length < max

/-- The map with a mask, if the mask is there or there is room for it. -/
def insert (m : CappedMap) (flags : Capabilities) : CappedMap :=
  if flags ∉ m.masks ∧ m.hasRoom then { m with masks := m.masks ++ [flags] } else m

/-- The shape of a mask: its number is the place of the mask. -/
def shape? (catalog : Catalog Code) (id : Nat) (m : CappedMap) (flags : Capabilities) :
    Option Shape :=
  if flags ∈ m.masks then some (.compose catalog id (m.masks.idxOf flags) flags) else none

/-- The answer to a request: the shape of the mask, or a refusal. -/
def result (catalog : Catalog Code) (id : Nat) (m : CappedMap) (flags : Capabilities) :
    Except ProxyError Shape :=
  match m.shape? catalog id flags with
  | some shape => .ok shape
  | none => .error .registryFull

/-- What the map becomes, and what it says. A request gets the answer of the map that has taken the
mask, if it could. -/
def ask (catalog : Catalog Code) (id : Nat) (m : CappedMap) : Inquiry → CappedMap × Answer
  | .get flags => (m, .found flags (m.shape? catalog id flags))
  | .resolve flags _ =>
    (m.insert flags, .resolved flags ((m.insert flags).result catalog id flags))

/-- The map after inquiries, and all that it said. -/
def askAll (catalog : Catalog Code) (id : Nat) (m : CappedMap) :
    List Inquiry → CappedMap × List Answer
  | [] => (m, [])
  | q :: qs =>
    let (m, answer) := m.ask catalog id q
    let (m, answers) := askAll catalog id m qs
    (m, answer :: answers)

variable {catalog : Catalog Code} {id : Nat} {m m' : CappedMap} {flags other : Capabilities}
  {shape : Shape}

/-- The map only grows, and at its end. -/
theorem prefix_insert (m : CappedMap) (flags : Capabilities) :
    m.masks <+: (m.insert flags).masks := by
  unfold insert
  split
  · exact List.prefix_append m.masks [flags]
  · exact List.prefix_refl m.masks

theorem mem_insert (h : other ∈ (m.insert flags).masks) : other ∈ m.masks ∨ other = flags := by
  unfold insert at h
  split at h
  · simpa using h
  · exact Or.inl h

/-- A mask that is asked for is there afterwards if it was there or if there was room. -/
theorem mem_insert_self_iff :
    flags ∈ (m.insert flags).masks ↔ flags ∈ m.masks ∨ m.hasRoom = true := by
  unfold insert
  split
  · next h => simp [h.2]
  · next h =>
    constructor
    · exact Or.inl
    · rintro (hMem | hRoom)
      · exact hMem
      · by_contra hNew
        exact h ⟨hNew, hRoom⟩

/-- A mask that is not taken leaves the map as it is. -/
theorem insert_eq_self (h : flags ∉ (m.insert flags).masks) : m.insert flags = m := by
  refine if_neg fun hNew => h ?_
  exact mem_insert_self_iff.mpr (Or.inr hNew.2)

theorem hasRoom_iff : m.hasRoom = true ↔ ∀ max, m.cap = some max → m.masks.length < max := by
  rw [hasRoom]
  cases m.cap with
  | none => simp
  | some max => simp

theorem shape?_eq_some_iff :
    m.shape? catalog id flags = some shape ↔
      flags ∈ m.masks ∧ shape = .compose catalog id (m.masks.idxOf flags) flags := by
  unfold shape?
  split <;> simp [*, eq_comm]

@[simp] theorem toOption_result :
    (m.result catalog id flags).toOption = m.shape? catalog id flags := by
  unfold result
  split <;> simp [*, Except.toOption]

theorem result_of_mem (h : flags ∈ m.masks) :
    m.result catalog id flags = .ok (.compose catalog id (m.masks.idxOf flags) flags) := by
  rw [result, shape?, if_pos h]

theorem result_of_notMem (h : flags ∉ m.masks) :
    m.result catalog id flags = .error .registryFull := by
  rw [result, shape?, if_neg h]

/-- A mask keeps its place, and with it its shape. -/
theorem shape?_of_prefix (hPrefix : m.masks <+: m'.masks)
    (h : m.shape? catalog id flags = some shape) : m'.shape? catalog id flags = some shape := by
  obtain ⟨hMem, hShape⟩ := shape?_eq_some_iff.mp h
  obtain ⟨more, hMore⟩ := hPrefix
  refine shape?_eq_some_iff.mpr ⟨?_, ?_⟩
  · rw [← hMore]
    exact List.mem_append_left more hMem
  · -- the first place of the mask is among the old ones
    rw [hShape, ← hMore, List.idxOf_append_of_mem hMem]

theorem cap_insert (m : CappedMap) (flags : Capabilities) : (m.insert flags).cap = m.cap := by
  unfold insert
  split <;> rfl

theorem cap_askAll (m : CappedMap) (qs : List Inquiry) :
    (m.askAll catalog id qs).1.cap = m.cap := by
  induction qs generalizing m with
  | nil => rfl
  | cons q qs ih =>
    refine (ih (m.ask catalog id q).1).trans ?_
    cases q with
    | get flags => rfl
    | resolve flags hint => exact m.cap_insert flags

theorem prefix_askAll (m : CappedMap) (qs : List Inquiry) :
    m.masks <+: (m.askAll catalog id qs).1.masks := by
  induction qs generalizing m with
  | nil => exact List.prefix_refl m.masks
  | cons q qs ih =>
    refine List.IsPrefix.trans ?_ (ih (m.ask catalog id q).1)
    cases q with
    | get flags => exact List.prefix_refl m.masks
    | resolve flags hint => exact m.prefix_insert flags

end CappedMap

/-! ## Dialogues -/

/-- A registry, and what it has said so far. -/
structure Dialogue where
  registry : Registry
  answers : List Answer

namespace Dialogue

/-- A dialogue that has not begun. -/
def start (r : Registry) : Dialogue := { registry := r, answers := [] }

/-- The shape of a hint. One that the registry has made can only be had from its answers. -/
def shapeOf? (d : Dialogue) : Hint → Option Shape
  | .none => none
  | .earlier n => d.answers[n]?.bind Answer.shape?
  | .foreign shape => if d.registry.owns shape then none else some shape

/-- What comes of a request. -/
def reply (catalog : Catalog Code) (timed : Bool) (d : Dialogue) (flags : Capabilities)
    (hint : Hint) : Except ProxyError Shape × Registry × List Event :=
  match d.shapeOf? hint with
  | none => d.registry.resolve catalog timed flags
  | some shape => d.registry.resolveWithHint catalog timed flags shape

/-- One more inquiry. -/
def ask (catalog : Catalog Code) (timed : Bool) (d : Dialogue) : Inquiry → Dialogue
  | .get flags => { d with answers := d.answers ++ [.found flags (d.registry.get? flags)] }
  | .resolve flags hint =>
    let (result, registry, _) := d.reply catalog timed flags hint
    { registry, answers := d.answers ++ [.resolved flags result] }

/-- Inquiries, one after another. -/
def askAll (catalog : Catalog Code) (timed : Bool) (d : Dialogue) (qs : List Inquiry) : Dialogue :=
  qs.foldl (ask catalog timed) d

theorem askAll_nil (catalog : Catalog Code) (timed : Bool) (d : Dialogue) :
    d.askAll catalog timed [] = d := rfl

theorem askAll_cons (catalog : Catalog Code) (timed : Bool) (d : Dialogue) (q : Inquiry)
    (qs : List Inquiry) :
    d.askAll catalog timed (q :: qs) = (d.ask catalog timed q).askAll catalog timed qs := rfl

theorem askAll_append (catalog : Catalog Code) (timed : Bool) (d : Dialogue)
    (qs more : List Inquiry) :
    d.askAll catalog timed (qs ++ more) =
      (d.askAll catalog timed qs).askAll catalog timed more :=
  List.foldl_append

end Dialogue

/-! ## One request -/

namespace Registry

/-- The registry holds the masks of a map, with their places for numbers. -/
structure Holds (catalog : Catalog Code) (m : CappedMap) (r : Registry) : Prop where
  shapes : r.shapes = m.masks.zipIdx.map fun p => (p.1, .compose catalog r.id p.2 p.1)
  cap : r.maxShapes = m.cap
  registered : r.registered = m.masks.length
  nextShape : r.nextShape = m.masks.length

variable {catalog : Catalog Code} {m : CappedMap} {r r' : Registry} {flags : Capabilities}

/-- Looking up a mask in a list of masks with their places. -/
theorem lookup_zipIdx (f : Capabilities → Nat → Shape) (masks : List Capabilities) (n : Nat) :
    ((masks.zipIdx n).map fun p => (p.1, f p.1 p.2)).lookup flags =
      if flags ∈ masks then some (f flags (n + masks.idxOf flags)) else none := by
  -- the places of the rest begin with the next one, so the first place has to be arbitrary
  induction masks generalizing n with
  | nil => rfl
  | cons a rest ih =>
    rw [List.zipIdx_cons, List.map_cons, List.lookup_cons]
    by_cases ha : flags = a
    · subst ha
      simp
    · have hBeq : (flags == a) = false := beq_eq_false_iff_ne.mpr ha
      rw [hBeq, ih, List.idxOf_cons_ne _ (Ne.symm ha)]
      simp [ha, Nat.add_assoc, Nat.add_comm 1]

theorem Holds.get?_eq (h : r.Holds catalog m) (flags : Capabilities) :
    r.get? flags = m.shape? catalog r.id flags := by
  rw [get?, h.shapes, CappedMap.shape?,
    lookup_zipIdx (fun flags n => .compose catalog r.id n flags) m.masks 0, Nat.zero_add]

theorem Holds.isFull_eq (h : r.Holds catalog m) : r.isFull = !m.hasRoom := by
  unfold isFull CappedMap.hasRoom
  rw [h.cap, h.registered]
  cases m.cap with
  | none => rfl
  | some max =>
    show decide (max ≤ m.masks.length) = !decide (m.masks.length < max)
    rw [← decide_not, decide_eq_decide]
    omega

/-- A request without a hint does to the registry what it does to the map. -/
theorem Holds.resolve (h : r.Holds catalog m) (timed : Bool) (flags : Capabilities) :
    (r.resolve catalog timed flags).2.1.Holds catalog (m.insert flags) ∧
      (r.resolve catalog timed flags).1 = (m.insert flags).result catalog r.id flags := by
  have hGet := h.get?_eq flags
  unfold CappedMap.shape? at hGet
  -- the mask has a shape, or the registry is full, or the mask gets one
  by_cases hMem : flags ∈ m.masks
  · rw [if_pos hMem] at hGet
    obtain ⟨hAnswer, hAfter⟩ := resolve_bound catalog timed hGet
    have hSame : m.insert flags = m := if_neg fun hNew => hNew.1 hMem
    rw [hAnswer, hAfter, hSame, CappedMap.result_of_mem hMem]
    exact ⟨⟨h.shapes, h.cap, h.registered, h.nextShape⟩, rfl⟩
  · rw [if_neg hMem] at hGet
    cases hRoom : m.hasRoom with
    | false =>
      have hFull : r.isFull = true := by rw [h.isFull_eq, hRoom]; rfl
      obtain ⟨hAnswer, hAfter⟩ := resolve_full catalog timed hGet hFull
      have hSame : m.insert flags = m := if_neg fun hNew => by simp [hRoom] at hNew
      rw [hAnswer, hAfter, hSame, CappedMap.result_of_notMem hMem]
      exact ⟨⟨h.shapes, h.cap, h.registered, h.nextShape⟩, rfl⟩
    | true =>
      have hFull : r.isFull = false := by rw [h.isFull_eq, hRoom]; rfl
      obtain ⟨hAnswer, hAfter⟩ := resolve_new catalog timed hGet hFull
      have hNew : m.insert flags = { m with masks := m.masks ++ [flags] } := if_pos ⟨hMem, hRoom⟩
      -- the place of the new mask is the number of masks before it
      have hPlace : (m.masks ++ [flags]).idxOf flags = m.masks.length := by
        simp [List.idxOf_append, hMem]
      have hAdded : flags ∈ m.masks ++ [flags] :=
        List.mem_append_right _ (List.mem_singleton_self _)
      rw [hAnswer, hAfter, hNew, CappedMap.result_of_mem hAdded, hPlace, h.nextShape]
      refine ⟨⟨?_, h.cap, ?_, ?_⟩, rfl⟩
      · simp [h.shapes, List.zipIdx_append]
      · simp [h.registered]
      · simp

/-- What a request does to the counters. -/
structure Ticks (r r' : Registry) (result : Except ProxyError Shape) : Prop where
  id : r'.id = r.id
  registered : r'.registered + r.syntheses = r.registered + r'.syntheses
  misses : r'.misses + r.syntheses =
    r.misses + r'.syntheses + (if result.toOption.isSome then 0 else 1)
  requests : r'.hits + r'.misses + r'.hintHits = r.hits + r.misses + r.hintHits + 1
  discarded : r'.discarded = r.discarded

theorem ticks_resolve (catalog : Catalog Code) (timed : Bool) (r : Registry)
    (flags : Capabilities) :
    r.Ticks (r.resolve catalog timed flags).2.1 (r.resolve catalog timed flags).1 := by
  cases hBound : r.get? flags with
  | some shape =>
    obtain ⟨hAnswer, hAfter⟩ := resolve_bound catalog timed hBound
    rw [hAnswer, hAfter]
    refine ⟨rfl, rfl, rfl, ?_, rfl⟩
    dsimp only
    omega
  | none =>
    cases hFull : r.isFull with
    | true =>
      obtain ⟨hAnswer, hAfter⟩ := resolve_full catalog timed hBound hFull
      rw [hAnswer, hAfter]
      refine ⟨rfl, rfl, ?_, ?_, rfl⟩
      · show r.misses + 1 + r.syntheses = r.misses + r.syntheses + 1
        omega
      · dsimp only
        omega
    | false =>
      obtain ⟨hAnswer, hAfter⟩ := resolve_new catalog timed hBound hFull
      rw [hAnswer, hAfter]
      refine ⟨rfl, ?_, ?_, ?_, rfl⟩
      · dsimp only
        omega
      · show r.misses + 1 + r.syntheses = r.misses + (r.syntheses + 1) + 0
        omega
      · dsimp only
        omega

end Registry

/-! ## Whole dialogues -/

namespace Dialogue

/-- What holds all along a dialogue. -/
structure Faithful (catalog : Catalog Code) (m : CappedMap) (d : Dialogue) : Prop where
  holds : d.registry.Holds catalog m
  bound : ∀ a ∈ d.answers, ∀ shape, a.shape? = some shape →
    d.registry.get? a.flags = some shape
  granted : ∀ flags ∈ m.masks,
    flags = 0#32 ∨ ∃ shape, Answer.resolved flags (.ok shape) ∈ d.answers
  plain : m.masks.head? = some 0#32
  registered : d.registry.registered = 1 + d.registry.syntheses
  misses : d.registry.misses = d.registry.syntheses + d.answers.countP Answer.isRefusal
  requests : d.registry.hits + d.registry.misses + d.registry.hintHits =
    d.answers.countP Answer.isResolved
  discarded : d.registry.discarded = 0

variable {catalog : Catalog Code} {timed : Bool} {m : CappedMap} {d : Dialogue} {r : Registry}
  {flags : Capabilities} {hint : Hint}

theorem faithful_start {id : Nat} {cap : Option Nat} (h : Registry.new catalog id cap = .ok r) :
    (start r).Faithful catalog { masks := [0#32], cap } := by
  unfold Registry.new at h
  split at h
  · cases h
  · cases h
    exact ⟨⟨rfl, rfl, rfl, rfl⟩, nofun, fun flags hf => Or.inl (List.mem_singleton.mp hf), rfl, rfl,
      rfl, rfl, rfl⟩

/-- A hint that the registry has made is one that it has bound. -/
theorem Faithful.get?_hint (h : d.Faithful catalog m) {shape : Shape}
    (hHint : d.shapeOf? hint = some shape) (hOwn : d.registry.owns shape = true) :
    d.registry.get? shape.flags = some shape := by
  cases hint with
  | none => cases hHint
  | earlier n =>
    obtain ⟨a, ha, hShape⟩ := Option.bind_eq_some_iff.mp hHint
    have hBound := h.bound a (List.mem_of_getElem? ha) shape hShape
    -- the mask of the answer is that of the shape, since the shape was composed for it
    have hFlags : shape.flags = a.flags := by
      rw [h.holds.get?_eq, CappedMap.shape?_eq_some_iff] at hBound
      rw [hBound.2]
      rfl
    rwa [hFlags]
  | foreign other =>
    rw [shapeOf?] at hHint
    split at hHint
    · cases hHint
    · next hOther =>
      cases hHint
      exact absurd hOwn hOther

/-- A request with a hint is a request without it, but for the counter that counts it. -/
theorem Faithful.reply (h : d.Faithful catalog m) (timed : Bool) (flags : Capabilities)
    (hint : Hint) :
    (d.reply catalog timed flags hint).2.1.Holds catalog (m.insert flags) ∧
      (d.reply catalog timed flags hint).1 =
        (m.insert flags).result catalog d.registry.id flags ∧
      d.registry.Ticks (d.reply catalog timed flags hint).2.1
        (d.reply catalog timed flags hint).1 := by
  obtain ⟨hHolds, hAnswer⟩ := h.holds.resolve timed flags
  have hTicks := Registry.ticks_resolve catalog timed d.registry flags
  unfold Dialogue.reply
  cases hHint : d.shapeOf? hint with
  | none => exact ⟨hHolds, hAnswer, hTicks⟩
  | some shape =>
    obtain ⟨hSame, -, hCounters⟩ :=
      Registry.agrees_of_bound catalog timed flags (h.get?_hint hHint)
    dsimp only
    rw [hSame]
    rcases hCounters with hPlain | ⟨hHinted, hPlain⟩
    · rw [hPlain]
      exact ⟨hHolds, hAnswer, hTicks⟩
    · -- a hint hit in place of a hit: the map does not count, and the sum is the same
      rw [hPlain] at hHolds hTicks
      rw [hHinted]
      refine ⟨⟨hHolds.shapes, hHolds.cap, hHolds.registered, hHolds.nextShape⟩, hAnswer,
        ⟨rfl, rfl, hTicks.misses, ?_, rfl⟩⟩
      dsimp only
      omega

/-- The answer to a request joins the others. -/
theorem Faithful.grant (h : d.Faithful catalog m) {result : Except ProxyError Shape}
    (hHolds : r.Holds catalog (m.insert flags))
    (hResult : result = (m.insert flags).result catalog d.registry.id flags)
    (hTicks : d.registry.Ticks r result) :
    Faithful catalog (m.insert flags)
      { registry := r, answers := d.answers ++ [.resolved flags result] } := by
  have hPrefix := m.prefix_insert flags
  have hRegistered := h.registered
  have hMisses := h.misses
  have hRequests := h.requests
  have hPlaces := hTicks.registered
  have hMissed := hTicks.misses
  have hCounted := hTicks.requests
  refine ⟨hHolds, ?_, ?_, ?_, ?_, ?_, ?_, hTicks.discarded.trans h.discarded⟩
  · intro a ha shape hShape
    rw [hHolds.get?_eq, hTicks.id]
    rcases List.mem_append.mp ha with hOld | hNew
    · -- earlier answers stay right, since masks keep their places
      have hBound := h.bound a hOld shape hShape
      rw [h.holds.get?_eq] at hBound
      exact CappedMap.shape?_of_prefix hPrefix hBound
    · rw [List.mem_singleton.mp hNew] at hShape ⊢
      rw [hResult] at hShape
      exact CappedMap.toOption_result.symm.trans hShape
  · intro other hMem
    rcases CappedMap.mem_insert hMem with hOld | rfl
    · refine (h.granted other hOld).imp_right ?_
      rintro ⟨shape, hShape⟩
      exact ⟨shape, List.mem_append_left _ hShape⟩
    · -- if the mask is there now, then this answer has granted it
      rw [CappedMap.result_of_mem hMem] at hResult
      rw [hResult]
      exact Or.inr ⟨_, List.mem_append_right _ (List.mem_singleton_self _)⟩
  · obtain ⟨more, hMore⟩ := hPrefix
    rw [← hMore, List.head?_append, h.plain]
    rfl
  · dsimp only
    omega
  · have hRefusal : [Answer.resolved flags result].countP Answer.isRefusal =
        if result.toOption.isSome then 0 else 1 := by
      cases result <;> rfl
    rw [List.countP_append, hRefusal]
    dsimp only
    omega
  · have hRequest : [Answer.resolved flags result].countP Answer.isResolved = 1 := rfl
    rw [List.countP_append, hRequest]
    dsimp only
    omega

/-- One more inquiry gets the answer of the map. -/
theorem Faithful.ask (h : d.Faithful catalog m) (timed : Bool) (q : Inquiry) :
    (d.ask catalog timed q).Faithful catalog (m.ask catalog d.registry.id q).1 ∧
      (d.ask catalog timed q).answers = d.answers ++ [(m.ask catalog d.registry.id q).2] ∧
      (d.ask catalog timed q).registry.id = d.registry.id := by
  cases q with
  | get flags =>
    -- nothing is counted, and the one more answer is no request
    have hGet := h.holds.get?_eq flags
    refine ⟨⟨h.holds, ?_, ?_, h.plain, h.registered, ?_, ?_, h.discarded⟩, ?_, rfl⟩
    · intro a ha shape hShape
      rcases List.mem_append.mp ha with hOld | hNew
      · exact h.bound a hOld shape hShape
      · rw [List.mem_singleton.mp hNew] at hShape ⊢
        exact hShape
    · intro flags hMem
      refine (h.granted flags hMem).imp_right ?_
      rintro ⟨shape, hShape⟩
      exact ⟨shape, List.mem_append_left _ hShape⟩
    · rw [Dialogue.ask, List.countP_append]
      exact h.misses
    · rw [Dialogue.ask, List.countP_append]
      exact h.requests
    · rw [Dialogue.ask, CappedMap.ask, hGet]
  | resolve flags hint =>
    obtain ⟨hHolds, hAnswer, hTicks⟩ := h.reply timed flags hint
    have hSame : (d.ask catalog timed (.resolve flags hint)).answers =
        d.answers ++ [.resolved flags ((m.insert flags).result catalog d.registry.id flags)] := by
      rw [← hAnswer]
      rfl
    exact ⟨h.grant hHolds hAnswer hTicks, hSame, hTicks.id⟩

/-- A whole dialogue gets the answers of the map. -/
theorem Faithful.askAll (h : d.Faithful catalog m) (timed : Bool) (qs : List Inquiry) :
    (d.askAll catalog timed qs).Faithful catalog (m.askAll catalog d.registry.id qs).1 ∧
      (d.askAll catalog timed qs).answers =
        d.answers ++ (m.askAll catalog d.registry.id qs).2 ∧
      (d.askAll catalog timed qs).registry.id = d.registry.id := by
  -- what follows an inquiry starts from the dialogue and the map after it
  induction qs generalizing d m with
  | nil => exact ⟨h, (List.append_nil _).symm, rfl⟩
  | cons q qs ih =>
    obtain ⟨hNext, hAnswer, hId⟩ := h.ask timed q
    obtain ⟨hEnd, hAnswers, hIdEnd⟩ := ih hNext
    rw [hId] at hEnd hAnswers
    refine ⟨hEnd, ?_, hIdEnd.trans hId⟩
    rw [askAll_cons, hAnswers, hAnswer, List.append_assoc]
    rfl

/-! ## What it says -/

/-- What somebody who talks to a registry can rely on. -/
structure Lawful (catalog : Catalog Code) (timed : Bool) (d : Dialogue) : Prop where
  /-- The masks with a shape are the empty one and those that were granted. -/
  contains_iff : ∀ flags, d.registry.contains flags = true ↔
    flags = 0#32 ∨ ∃ shape, Answer.resolved flags (.ok shape) ∈ d.answers
  /-- No mask loses its shape, and new ones come at the end. -/
  grows : ∀ qs, d.registry.shapes <+: (d.askAll catalog timed qs).registry.shapes
  granted_iff : ∀ flags hint,
    (∃ shape, (d.reply catalog timed flags hint).1 = .ok shape) ↔
      d.registry.contains flags = true ∨
        ∀ max, d.registry.maxShapes = some max → d.registry.size < max
  refused : ∀ flags hint e, (d.reply catalog timed flags hint).1 = .error e →
    e = .registryFull ∧
      (d.reply catalog timed flags hint).2.1.shapes = d.registry.shapes ∧
      (d.reply catalog timed flags hint).2.1.nextShape = d.registry.nextShape
  plain : d.registry.get? 0#32 = some (.compose catalog d.registry.id 0 0#32)
  /-- The numbers of the shapes, in the order in which their masks came. -/
  numbers : d.registry.shapes.map (·.2.id) = List.range d.registry.size
  /-- All answers for one mask give one shape. -/
  consistent : ∀ a ∈ d.answers, ∀ b ∈ d.answers, a.flags = b.flags →
    ∀ shape shape', a.shape? = some shape → b.shape? = some shape' → shape = shape'
  discarded : d.registry.discarded = 0
  syntheses : d.registry.size = 1 + d.registry.syntheses
  misses : d.registry.misses = d.registry.syntheses + d.answers.countP Answer.isRefusal
  requests : d.registry.hits + d.registry.misses + d.registry.hintHits =
    d.answers.countP Answer.isResolved

theorem Faithful.contains_iff_mem (h : d.Faithful catalog m) (flags : Capabilities) :
    d.registry.contains flags = true ↔ flags ∈ m.masks := by
  rw [Registry.contains, h.holds.get?_eq, CappedMap.shape?]
  split <;> simp [*]

theorem Faithful.size_eq (h : d.Faithful catalog m) : d.registry.size = m.masks.length := by
  rw [Registry.size, h.holds.shapes, List.length_map, List.length_zipIdx]

/-- A map whose masks come first holds the shapes that come first. -/
theorem shapes_prefix {r' : Registry} {m' : CappedMap} (h : r.Holds catalog m)
    (h' : r'.Holds catalog m') (hId : r'.id = r.id) (hPrefix : m.masks <+: m'.masks) :
    r.shapes <+: r'.shapes := by
  obtain ⟨more, hMore⟩ := hPrefix
  rw [h.shapes, h'.shapes, hId, ← hMore, List.zipIdx_append, List.map_append]
  exact List.prefix_append _ _

theorem Faithful.lawful (h : d.Faithful catalog m) (timed : Bool) : d.Lawful catalog timed := by
  obtain ⟨rest, hMasks⟩ : ∃ rest, m.masks = 0#32 :: rest := List.head?_eq_some_iff.mp h.plain
  have hZero : 0#32 ∈ m.masks := by
    rw [hMasks]
    exact List.mem_cons_self ..
  refine ⟨?_, ?_, ?_, ?_, ?_, ?_, ?_, h.discarded, ?_, h.misses, h.requests⟩
  · intro flags
    rw [h.contains_iff_mem]
    constructor
    · exact h.granted flags
    · rintro (rfl | ⟨shape, hShape⟩)
      · exact hZero
      · have hBound := h.bound _ hShape shape rfl
        rw [h.holds.get?_eq, CappedMap.shape?_eq_some_iff] at hBound
        exact hBound.1
  · intro qs
    obtain ⟨hEnd, -, hId⟩ := h.askAll timed qs
    exact shapes_prefix h.holds hEnd.holds hId (m.prefix_askAll qs)
  · intro flags hint
    obtain ⟨-, hAnswer, -⟩ := h.reply timed flags hint
    rw [hAnswer, h.contains_iff_mem, h.holds.cap, h.size_eq, ← CappedMap.hasRoom_iff,
      ← CappedMap.mem_insert_self_iff]
    constructor
    · rintro ⟨shape, hShape⟩
      by_contra hNew
      rw [CappedMap.result_of_notMem hNew] at hShape
      cases hShape
    · exact fun hMem => ⟨_, CappedMap.result_of_mem hMem⟩
  · intro flags hint e hError
    obtain ⟨hHolds, hAnswer, hTicks⟩ := h.reply timed flags hint
    rw [hAnswer] at hError
    -- a refusal says that the mask was not taken, and then the map is what it was
    have hNew : flags ∉ (m.insert flags).masks := by
      intro hMem
      rw [CappedMap.result_of_mem hMem] at hError
      cases hError
    rw [CappedMap.result_of_notMem hNew] at hError
    rw [CappedMap.insert_eq_self hNew] at hHolds
    cases hError
    refine ⟨rfl, ?_, hHolds.nextShape.trans h.holds.nextShape.symm⟩
    rw [hHolds.shapes, hTicks.id, h.holds.shapes]
  · rw [h.holds.get?_eq, CappedMap.shape?_eq_some_iff]
    refine ⟨hZero, ?_⟩
    rw [hMasks, List.idxOf_cons_self]
  · rw [h.size_eq, h.holds.shapes, List.map_map, List.range_eq_range', ← List.zipIdx_map_snd]
    rfl
  · intro a ha b hb hFlags shape shape' hShape hShape'
    have hBound := h.bound a ha shape hShape
    rw [hFlags, h.bound b hb shape' hShape'] at hBound
    exact (Option.some.inj hBound).symm
  · rw [h.size_eq, ← h.holds.registered, h.registered]

end Dialogue

/-! ## Registries in sessions -/

open Session

/-- What comes of a request with a hint, or without one. -/
def Registry.request (catalog : Catalog Code) (timed : Bool) (r : Registry) (flags : Capabilities) :
    Option Shape → Except ProxyError Shape × Registry × List Event
  | none => r.resolve catalog timed flags
  | some hint => r.resolveWithHint catalog timed flags hint

theorem Registry.maxShapes_new {catalog : Catalog Code} {id : Nat} {cap : Option Nat}
    {r : Registry} (h : Registry.new catalog id cap = .ok r) : r.maxShapes = cap := by
  unfold Registry.new at h
  split at h
  · cases h
  · cases h
    rfl

namespace Dialogue

/-- A request that its hint has answered is one with the shape of an earlier answer. -/
theorem hintHit (d : Dialogue) (catalog : Catalog Code) (timed : Bool) {hint : Shape}
    (hBound : d.registry.get? hint.flags = some hint) (hOwn : d.registry.owns hint = true) :
    d.askAll catalog timed [.get hint.flags, .resolve hint.flags (.earlier d.answers.length)] =
      { registry := { d.registry with hintHits := d.registry.hintHits + 1 }
        answers := d.answers ++ [.found hint.flags (some hint)] ++
          [.resolved hint.flags (.ok hint)] } := by
  have hAsk : d.ask catalog timed (.get hint.flags) =
      { d with answers := d.answers ++ [.found hint.flags (some hint)] } := by
    rw [Dialogue.ask, hBound]
  have hReply : ({ d with answers := d.answers ++ [.found hint.flags (some hint)] } :
      Dialogue).reply catalog timed hint.flags (.earlier d.answers.length) =
        (.ok hint, { d.registry with hintHits := d.registry.hintHits + 1 }, []) := by
    unfold Dialogue.reply
    rw [Dialogue.shapeOf?, List.getElem?_concat_length, Option.bind_some]
    exact if_pos ⟨rfl, hOwn⟩
  rw [askAll_cons, askAll_cons, askAll_nil, hAsk, Dialogue.ask, hReply]

/-- One more request gets one more answer, whether it has a hint or not. A hint that is the answer
was bound before, so the dialogue can ask for it first. -/
theorem exists_more (d : Dialogue) (catalog : Catalog Code) (timed : Bool) (flags : Capabilities)
    {hint : Option Shape} {answer : Except ProxyError Shape} {r : Registry} {events : List Event}
    (hHint : ∀ shape ∈ hint, d.registry.owns shape = true →
      d.registry.get? shape.flags = some shape)
    (hAnswer : d.registry.request catalog timed flags hint = (answer, r, events)) :
    ∃ more, (d.askAll catalog timed more).registry = r ∧
      (d.askAll catalog timed more).answers.filter Answer.isResolved =
        d.answers.filter Answer.isResolved ++ [.resolved flags answer] := by
  have hPlain (h : d.registry.resolve catalog timed flags = (answer, r, events)) :
      d.askAll catalog timed [.resolve flags .none] =
        { registry := r, answers := d.answers ++ [.resolved flags answer] } := by
    rw [askAll_cons, askAll_nil, Dialogue.ask, Dialogue.reply, shapeOf?, h]
  cases hint with
  | none =>
    refine ⟨[.resolve flags .none], ?_⟩
    rw [hPlain hAnswer, List.filter_append]
    exact ⟨rfl, rfl⟩
  | some shape =>
    rw [Registry.request, Registry.resolveWithHint] at hAnswer
    by_cases hFits : shape.flags = flags ∧ d.registry.owns shape = true
    · rw [if_pos hFits] at hAnswer
      cases hAnswer
      obtain ⟨rfl, hOwn⟩ := hFits
      refine ⟨[.get shape.flags, .resolve shape.flags (.earlier d.answers.length)], ?_⟩
      rw [d.hintHit catalog timed (hHint shape rfl hOwn) hOwn, List.filter_append,
        List.filter_append]
      exact ⟨rfl, congrArg (· ++ _) (List.append_nil _)⟩
    · rw [if_neg hFits] at hAnswer
      refine ⟨[.resolve flags .none], ?_⟩
      rw [hPlain hAnswer, List.filter_append]
      exact ⟨rfl, rfl⟩

end Dialogue

/-- A path, and what the registry of a bridge was asked for on it, with the answers. A request comes
from anywhere, with a hint that circulates or without one; nothing else changes the registry. -/
inductive Session.Asked (known : Client → List Shape) (i : Nat) (s₀ : Session Code Client) :
    List Answer → Session Code Client → Prop where
  | nothing : Asked known i s₀ [] s₀
  | request {asked : List Answer} {s : Session Code Client} (h : Asked known i s₀ asked s)
    (hOpen : i < s.bridges.length) (flags : Capabilities) (hint : Option Shape)
    (hHint : ∀ shape ∈ hint, s.Circulates known shape) :
    Asked known i s₀ (asked ++ [.resolved flags ((Act.resolveShape i flags hint).outcome s)])
      ((Act.resolveShape i flags hint).after s)
  | other {asked : List Answer} {s s' : Session Code Client} (h : Asked known i s₀ asked s)
    (hStep : Step known s s')
    (hSame : ∀ b b', s.bridges[i]? = some b → s'.bridges[i]? = some b' →
      b'.registry = b.registry) :
    Asked known i s₀ asked s'

/-- What has become of the registry of a bridge is what some dialogue makes of it, in which requests
got the answers. -/
structure Session.Conversed (s : Session Code Client) (i : Nat) (asked : List Answer) : Prop where
  dialogue : ∀ b : Bridge Code, s.bridges[i]? = some b → ∃ r qs,
    Registry.new b.catalog i b.registry.maxShapes = .ok r ∧
      let d := (Dialogue.start r).askAll b.catalog s.timing qs
      d.registry = b.registry ∧ d.answers.filter Answer.isResolved = asked
  unasked : s.bridges[i]? = none → asked = []

section Sessions

variable {known : Client → List Shape} {s₀ s s' : Session Code Client} {i : Nat} {b : Bridge Code}
  {asked : List Answer} {flags : Capabilities} {hint : Option Shape}

/-- A request to a bridge that is there changes its registry, and reports. -/
theorem Act.resolveShape_run (hb : s.bridges[i]? = some b) (flags : Capabilities)
    (hint : Option Shape) :
    ∃ answer r events, b.registry.request b.catalog s.timing flags hint = (answer, r, events) ∧
      (resolveShape i flags hint).outcome s = answer ∧
      (resolveShape i flags hint).after s =
        (s.setBridge i { b with registry := r }).emitAll events := by
  rcases hRequest : b.registry.request b.catalog s.timing flags hint with ⟨answer, r, events⟩
  refine ⟨answer, r, events, rfl, ?_⟩
  rw [outcome, after, resolveShape, hb]
  cases hint with
  | none =>
    rw [Registry.request] at hRequest
    dsimp only
    rw [hRequest]
    cases answer <;> exact ⟨rfl, rfl⟩
  | some hint =>
    rw [Registry.request] at hRequest
    dsimp only
    rw [hRequest]
    cases answer <;> exact ⟨rfl, rfl⟩

/-- One more request, and one more answer. -/
theorem Session.Conversed.resolveShape (hs : s.Conversed i asked) (hCanonical : s.Canonical known)
    (hHint : ∀ shape ∈ hint, s.Circulates known shape) (hb : s.bridges[i]? = some b)
    (flags : Capabilities) :
    ((Act.resolveShape i flags hint).after s).Conversed i
      (asked ++ [.resolved flags ((Act.resolveShape i flags hint).outcome s)]) := by
  obtain ⟨answer, registry, events, hAnswer, hOutcome, hAfter⟩ :=
    Act.resolveShape_run hb flags hint
  rw [hOutcome, hAfter]
  obtain ⟨r, qs, hNew, hSame, rfl⟩ := hs.dialogue b hb
  rw [← hSame] at hAnswer
  -- the hint may come from anywhere in the session, but the registry has bound it
  obtain ⟨more, hRegistry, hAnswers⟩ := Dialogue.exists_more _ b.catalog s.timing flags
    (fun shape hShape hOwn => by
      rw [hSame] at hOwn ⊢
      exact hCanonical.get?_of_owns (List.mem_of_getElem? hb) hOwn
        (hCanonical.bound shape (hHint shape hShape))) hAnswer
  have hMax : registry.maxShapes = b.registry.maxShapes := by
    obtain ⟨hEnd, -, -⟩ := (Dialogue.faithful_start hNew).askAll s.timing (qs ++ more)
    rw [Dialogue.askAll_append] at hEnd
    rw [← hRegistry]
    exact hEnd.holds.cap.trans (CappedMap.cap_askAll _ (qs ++ more))
  have hBridge : ((s.setBridge i { b with registry }).emitAll events).bridges[i]? =
      some { b with registry } := by
    show (s.setBridge i { b with registry }).bridges[i]? = _
    rw [getElem?_setBridge hb, if_pos rfl]
  refine ⟨fun c hc => ?_, fun hNone => by rw [hBridge] at hNone; cases hNone⟩
  rw [hBridge] at hc
  cases hc
  refine ⟨r, qs ++ more, hMax.symm ▸ hNew, ?_⟩
  rw [Dialogue.askAll_append]
  exact ⟨hRegistry, hAnswers⟩

/-- A bridge that a step has opened has a registry that nobody has asked. -/
theorem Session.Step.opened (h : Step known s s') (hNone : s.bridges[i]? = none)
    (hb : s'.bridges[i]? = some b) :
    Registry.new b.catalog i b.config.registry.maxShapes = .ok b.registry := by
  have hOld (hb : s.bridges[i]? = some b) : False := by
    rw [hNone] at hb
    cases hb
  have hSet {j : Nat} {c c' : Bridge Code} (hc : s.bridges[j]? = some c)
      (hb : (s.setBridge j c').bridges[i]? = some b) : False := by
    rw [getElem?_setBridge hc] at hb
    split at hb
    · next hij =>
      rw [hij, hNone] at hc
      cases hc
    · exact hOld hb
  cases h with
  | openBridge hr hh =>
    rcases getElem?_concat_cases hb with hb | ⟨rfl, rfl⟩
    · exact (hOld hb).elim
    · exact hr
  | resolve hc flags => exact (hSet hc hb).elim
  | reuse hc hOwn hCirculates => exact (hSet hc hb).elim
  | reserve hc hh => exact (hSet hc hb).elim
  | freeCell hc => exact (hSet hc hb).elim
  | _ => exact (hOld hb).elim

/-- A step that leaves the registry of a bridge alone leaves the dialogue with it alone. -/
theorem Session.Step.conversed (h : Step known s s') (hs : s.Conversed i asked)
    (hSame : ∀ b b', s.bridges[i]? = some b → s'.bridges[i]? = some b' →
      b'.registry = b.registry) : s'.Conversed i asked := by
  have hTiming : s'.timing = s.timing := by cases h <;> rfl
  cases hb : s.bridges[i]? with
  | some b =>
    obtain ⟨b', hb', hCatalog⟩ := h.catalog hb
    refine ⟨fun c hc => ?_, fun hNone => by rw [hb'] at hNone; cases hNone⟩
    cases hb'.symm.trans hc
    rw [hTiming, hCatalog, hSame b b' hb hb']
    exact hs.dialogue b hb
  | none =>
    refine ⟨fun c hc => ?_, fun _ => hs.unasked hb⟩
    -- the dialogue with a new registry has not begun
    have hNew := h.opened hb hc
    rw [← Registry.maxShapes_new hNew] at hNew
    exact ⟨c.registry, [], hNew, rfl, (hs.unasked hb).symm⟩

/-- The requests on a path are steps like all others. -/
theorem Session.Asked.path (h : Asked known i s₀ asked s) : Path known s₀ s := by
  induction h with
  | nothing => exact .refl
  | request _ _ flags _ hHint ih => exact ih.trans (Act.path_resolveShape i flags hHint)
  | other _ hStep _ ih => exact ih.tail hStep

/-- **A session talks to a registry as a dialogue does**: its requests, in their order, get the
answers of the dialogue. -/
theorem Session.Asked.conversed (h : Asked known i s₀ asked s) (hEmpty : s₀.bridges = [])
    (hCanonical : ∀ s, Path known s₀ s → s.Canonical known) : s.Conversed i asked := by
  induction h with
  | nothing =>
    refine ⟨fun b hb => ?_, fun _ => rfl⟩
    rw [hEmpty] at hb
    cases hb
  | @request _ s h hOpen flags _ hHint ih =>
    exact ih.resolveShape (hCanonical s h.path) hHint (List.getElem?_eq_getElem hOpen) flags
  | other h hStep hSame ih => exact hStep.conversed ih hSame

/-- A request of a session, apart from what it reports. -/
theorem Session.Asked.exists_request (h : Asked known i s₀ asked s) (hb : s.bridges[i]? = some b)
    (flags : Capabilities) (hint : Option Shape)
    (hHint : ∀ shape ∈ hint, s.Circulates known shape) :
    ∃ more, Asked known i s₀ more (s.setBridge i
      { b with registry := (b.registry.request b.catalog s.timing flags hint).2.1 }) := by
  obtain ⟨answer, r, events, hAnswer, -, hAfter⟩ := Act.resolveShape_run hb flags hint
  have hMore := h.request (List.getElem?_eq_some_iff.mp hb).1 flags hint hHint
  rw [hAfter] at hMore
  rw [hAnswer]
  -- the log is no part of the dialogue, so it may be as it was
  exact ⟨_, hMore.other (.log s.log) fun c c' hc hc' => by cases hc.symm.trans hc'; rfl⟩

/-- Every path has its requests. -/
theorem Session.exists_asked (h : Path known s₀ s) (i : Nat) :
    ∃ asked, Asked known i s₀ asked s := by
  induction h with
  | refl => exact ⟨[], .nothing⟩
  | @tail s s' _ hStep ih =>
    obtain ⟨asked, h⟩ := ih
    have hOther (hSame : ∀ b b', s.bridges[i]? = some b → s'.bridges[i]? = some b' →
        b'.registry = b.registry) : ∃ asked, Asked known i s₀ asked s' :=
      ⟨asked, h.other hStep hSame⟩
    have hSet {j : Nat} {c c' : Bridge Code} (hc : s.bridges[j]? = some c)
        (hEnd : s'.bridges = (s.setBridge j c').bridges)
        (hRegistry : j = i → c'.registry = c.registry) : ∃ asked, Asked known i s₀ asked s' := by
      refine hOther fun b b' hb hb' => ?_
      rw [hEnd, getElem?_setBridge hc] at hb'
      split at hb'
      · next hij =>
        cases hb'
        rw [hij, hb] at hc
        cases hc
        exact hRegistry hij
      · cases hb.symm.trans hb'
        rfl
    cases hStep with
    | openBridge hr hh =>
      refine hOther fun b b' hb hb' => ?_
      rw [List.getElem?_append_left (List.getElem?_eq_some_iff.mp hb).1] at hb'
      cases hb.symm.trans hb'
      rfl
    | @resolve j b hb flags =>
      by_cases hj : j = i
      · subst hj
        exact h.exists_request hb flags none nofun
      · exact hSet hb rfl fun h => absurd h hj
    | @reuse j b hint hb hOwn hCirculates =>
      by_cases hj : j = i
      · subst hj
        have hHit : (b.registry.request b.catalog s.timing hint.flags (some hint)).2.1 =
            { b.registry with hintHits := b.registry.hintHits + 1 } := by
          rw [Registry.request, Registry.resolveWithHint, if_pos ⟨rfl, hOwn⟩]
        rw [← hHit]
        exact h.exists_request hb hint.flags (some hint) fun shape hShape => by
          cases hShape
          exact hCirculates
      · exact hSet hb rfl fun h => absurd h hj
    | reserve hb hh => exact hSet hb rfl fun _ => rfl
    | freeCell hb => exact hSet hb rfl fun _ => rfl
    | _ => exact hOther fun b b' hb hb' => by cases hb.symm.trans hb'; rfl

end Sessions

/--
A registry that has room for one shape at least answers all inquiries as the capped map does, and
has shapes for the masks of the map; hints make no difference. What can be relied on is listed in
`Dialogue.Lawful`. In a session the same registries come about, whatever clients do, also where
foreign code asks a registry while a request of somebody else waits for that code: the requests that
the session makes to a bridge, in their order, get the answers of such a dialogue.
-/
theorem registry_refines_cappedMap (catalog : Catalog Code) (id : Nat) {cap : Option Nat}
    (hCap : cap ≠ some 0) (l : Library Code Mind) (depth : Nat) (calls : List (Call Code Mind))
    (limit : Option Nat) (timing : Bool) (mind : Mind) :
    (∃ r, Registry.new catalog id cap = .ok r ∧ ∀ timed qs,
      let d := (Dialogue.start r).askAll catalog timed qs
      let map := CappedMap.askAll catalog id { masks := [0#32], cap } qs
      d.registry.maxShapes = cap ∧ d.registry.shapes.map (·.1) = map.1.masks ∧
        d.answers = map.2 ∧ d.Lawful catalog timed) ∧
      let start := World.new (Table.empty limit) timing mind
      Path Memory.shapes start (Call.performAll (l.environment depth) calls start) ∧
        ∀ s i, (Path Memory.shapes start s → ∃ asked, Asked Memory.shapes i start asked s) ∧
          ∀ asked, Asked Memory.shapes i start asked s → s.Conversed i asked := by
  refine ⟨?_, Call.path_performAll (l.walks_environment depth) calls _, fun s i => ⟨?_, ?_⟩⟩
  · obtain ⟨r, hNew⟩ : ∃ r, Registry.new catalog id cap = .ok r := ⟨_, if_neg hCap⟩
    refine ⟨r, hNew, fun timed qs => ?_⟩
    obtain ⟨hEnd, hAnswers, -⟩ := (Dialogue.faithful_start hNew).askAll timed qs
    have hId : (Dialogue.start r).registry.id = id := (Registry.own_new hNew).id
    rw [hId] at hEnd hAnswers
    refine ⟨hEnd.holds.cap.trans (CappedMap.cap_askAll _ qs), ?_, hAnswers, hEnd.lawful timed⟩
    rw [hEnd.holds.shapes, List.map_map]
    exact List.zipIdx_map_fst 0 _
  · exact fun hPath => exists_asked hPath i
  · exact fun asked h => h.conversed rfl fun s hPath => World.canonical_of_path hPath

/-- A registry with one place left is asked for two masks, and for each of them again. -/
theorem registry_refines_cappedMap_full :
    some 2 ≠ some 0 ∧ ∃ r, Registry.new (.standard : Catalog Unit) 0 (some 2) = .ok r ∧
      let d := (Dialogue.start r).askAll (.standard : Catalog Unit) false
        [.resolve 1#32 .none, .resolve 2#32 .none, .resolve 1#32 (.earlier 0), .get 2#32,
          .resolve 2#32 (.earlier 0)]
      d.registry.shapes.map (·.1) = [0#32, 1#32] ∧ d.Lawful (.standard : Catalog Unit) false := by
  refine ⟨by decide, ?_⟩
  obtain ⟨⟨r, hNew, hAll⟩, -⟩ := registry_refines_cappedMap (.standard : Catalog Unit) 0
    (show some 2 ≠ some 0 by decide) exampleMisuse 0 [] none false ()
  obtain ⟨-, hMasks, -, hLawful⟩ := hAll false
    [.resolve 1#32 .none, .resolve 2#32 .none, .resolve 1#32 (.earlier 0), .get 2#32,
      .resolve 2#32 (.earlier 0)]
  refine ⟨r, hNew, hMasks.trans ?_, hLawful⟩
  decide +kernel

end ProxyBridge
