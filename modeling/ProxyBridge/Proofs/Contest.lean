import Mathlib.Algebra.GroupWithZero.Nat
import Mathlib.Data.List.Nodup
import ProxyBridge.Proofs.Registry
import ProxyBridge.Shape.Contest

/-!
# A registry under every interleaving

Calls for shapes run at the same time, and their steps come in any order; new calls may begin at any
moment, with or without a shape that may already be the answer. Whatever the order, a mask has one
shape for ever, every call for the mask gets that shape, no two shapes share a number, the registry
never holds more than it may, and the counters add up.

A step of one call sees the registry as other calls have left it, so the invariant has to say what
a call relies on between its steps: a shape that is composed and not yet bound has a number that
nobody else has.

* `Registry.Outcome`, `Registry.step_outcome` — all that one step can do.
* `Registry.Sound`, `Request.Fits` — what holds of the registry, and of each call.
* `Contest.Safe` — the invariant; `Safe.move`, `Safe.play` — every move and every play keep it.
* `contest_safe` — what it says about calls and counters.
-/

namespace ProxyBridge

/-! ## Places of a list -/

section Places

variable {α : Type} {l : List α} {i j : Nat} {x y : α}

/-- What stands in a list after one place was changed. -/
theorem getElem?_set_cases (h : (l.set i x)[j]? = some y) :
    j = i ∧ y = x ∨ j ≠ i ∧ l[j]? = some y := by
  rw [List.getElem?_set] at h
  split at h
  · next hij =>
    split at h
    · cases h
      exact Or.inl ⟨hij.symm, rfl⟩
    · cases h
  · next hij => exact Or.inr ⟨Ne.symm hij, h⟩

/-- What stands in a list after one more was put at the end. -/
theorem getElem?_concat_cases (h : (l ++ [x])[j]? = some y) :
    l[j]? = some y ∨ j = l.length ∧ y = x := by
  rw [List.getElem?_append] at h
  split at h
  · exact Or.inl h
  · rw [List.getElem?_singleton] at h
    split at h
    · cases h
      exact Or.inr ⟨by omega, rfl⟩
    · cases h

/-- What a place weighs leaves the sum, and what comes there enters it. -/
theorem sum_set (w : α → Nat) (hx : l[i]? = some x) (y : α) :
    ((l.set i y).map w).sum + w x = (l.map w).sum + w y := by
  induction l generalizing i with
  | nil => cases hx
  | cons z rest ih =>
    cases i with
    | zero =>
      cases hx
      rw [List.set_cons_zero, List.map_cons, List.map_cons, List.sum_cons, List.sum_cons]
      omega
    | succ i =>
      have := ih hx
      rw [List.set_cons_succ, List.map_cons, List.map_cons, List.sum_cons, List.sum_cons]
      omega

end Places

variable {Code : Type} {catalog : Catalog Code} {r r' : Registry} {q q' : Request}

/-! ## Single steps -/

namespace Registry

/-- One step of a call, by what it finds. -/
inductive Outcome (catalog : Catalog Code) (r : Registry) (q : Request) :
    Registry → Request → Prop where
  | hit {shape : Shape} (hq : q.phase = .lookup) (hBound : r.get? q.flags = some shape) :
    Outcome catalog r q { r with hits := r.hits + 1 } (q.finish (.ok shape))
  | miss (hq : q.phase = .lookup) (hNew : r.get? q.flags = none) :
    Outcome catalog r q { r with misses := r.misses + 1 } { q with phase := .admission }
  | refuse (hq : q.phase = .admission) :
    Outcome catalog r q r (q.finish (.error .registryFull))
  | pass (hq : q.phase = .admission) :
    Outcome catalog r q r { q with phase := .synthesis }
  | compose (timed : Bool) (hq : q.phase = .synthesis) :
    Outcome catalog r q { r with nextShape := r.nextShape + 1 }
      { q with phase := .insertion (.compose catalog r.id r.nextShape q.flags) timed }
  | discard {shape existing : Shape} {timed : Bool} (hq : q.phase = .insertion shape timed)
    (hBound : r.get? q.flags = some existing) :
    Outcome catalog r q { r with discarded := r.discarded + 1 } (q.finish (.ok existing))
  | refuseLate {shape : Shape} {timed : Bool} (hq : q.phase = .insertion shape timed) :
    Outcome catalog r q r (q.finish (.error .registryFull))
  | bind {shape : Shape} {timed : Bool} (hq : q.phase = .insertion shape timed)
    (hNew : r.get? q.flags = none) (hRoom : r.isFull = false) :
    Outcome catalog r q
      { r with
        shapes := r.shapes ++ [(q.flags, shape)]
        registered := r.registered + 1
        syntheses := r.syntheses + 1 } (q.finish (.ok shape))
  | idle {answer : Except ProxyError Shape} (hq : q.phase = .done answer) :
    Outcome catalog r q r q

theorem step_outcome (catalog : Catalog Code) (timed : Bool) (r : Registry) (q : Request) :
    Outcome catalog r q (r.step catalog timed q).1 (r.step catalog timed q).2.1 := by
  rw [step]
  cases hq : q.phase with
  | lookup =>
    dsimp only
    rw [lookupStep]
    cases hb : r.get? q.flags with
    | some shape => exact .hit hq hb
    | none => exact .miss hq hb
  | admission =>
    dsimp only
    rw [admissionStep]
    cases r.isFull with
    | true => exact .refuse hq
    | false => exact .pass hq
  | synthesis => exact .compose timed hq
  | insertion shape t =>
    dsimp only
    rw [insertionStep]
    cases hb : r.get? q.flags with
    | some existing => exact .discard hq hb
    | none =>
      cases hf : r.isFull with
      | true => exact .refuseLate hq
      | false => exact .bind hq hb hf
  | done answer => exact .idle hq

/-! ## The registry -/

/-- What holds of a registry at every moment. -/
structure Sound (r : Registry) : Prop where
  /-- No mask is bound twice. -/
  masks : (r.shapes.map (·.1)).Nodup
  /-- No number is used twice. -/
  numbers : (r.shapes.map (·.2.id)).Nodup
  flags : ∀ p ∈ r.shapes, p.2.flags = p.1
  issued : ∀ p ∈ r.shapes, p.2.id < r.nextShape
  registered : r.registered = r.shapes.length
  syntheses : r.registered = 1 + r.syntheses
  cap : ∀ max, r.maxShapes = some max → r.registered ≤ max

/-- A later moment of a registry: bindings stay, and numbers grow. -/
structure Later (r r' : Registry) : Prop where
  maxShapes : r'.maxShapes = r.maxShapes
  bound : ∀ flags shape, r.get? flags = some shape → r'.get? flags = some shape
  nextShape : r.nextShape ≤ r'.nextShape

theorem Later.refl (r : Registry) : Later r r := ⟨rfl, fun _ _ h => h, Nat.le_refl _⟩

theorem Later.trans {r'' : Registry} (h : Later r r') (h' : Later r' r'') : Later r r'' :=
  ⟨h'.maxShapes.trans h.maxShapes, fun f s hb => h'.bound f s (h.bound f s hb),
    Nat.le_trans h.nextShape h'.nextShape⟩

theorem Outcome.later (h : Outcome catalog r q r' q') : Later r r' := by
  cases h with
  | compose => exact ⟨rfl, fun _ _ h => h, Nat.le_succ _⟩
  | bind hq hNew hRoom =>
    refine ⟨rfl, fun flags s hb => ?_, Nat.le_refl _⟩
    change (r.shapes ++ _).lookup flags = some s
    rw [List.lookup_append, show r.shapes.lookup flags = some s from hb]
    rfl
  | _ => exact ⟨rfl, fun _ _ h => h, Nat.le_refl _⟩

theorem mem_of_get? {flags : Capabilities} {shape : Shape} (h : r.get? flags = some shape) :
    (flags, shape) ∈ r.shapes := by
  obtain ⟨l, l', hl, -⟩ := List.lookup_eq_some_iff.mp h
  rw [hl]
  exact List.mem_append_right _ (List.mem_cons_self ..)

/-- A mask without a shape is not among the bound ones. -/
theorem notMem_of_get?_eq_none {flags : Capabilities} (h : r.get? flags = none) :
    flags ∉ r.shapes.map (·.1) := by
  intro hMem
  obtain ⟨p, hp, rfl⟩ := List.mem_map.mp hMem
  have := List.lookup_eq_none_iff.mp h p hp
  simp at this

end Registry

/-! ## Calls -/

namespace Request

/-- The number of the shape that the call has composed and not bound. -/
def composed? (q : Request) : Option Nat :=
  match q.phase with
  | .insertion shape _ => some shape.id
  | _ => none

theorem answer?_eq_some {answer : Except ProxyError Shape} :
    q.answer? = some answer ↔ q.phase = .done answer := by
  rw [answer?]
  cases q.phase <;> simp

/-- What a call relies on between its steps, and what its answer is worth. -/
def Fits (r : Registry) (q : Request) : Prop :=
  match q.phase with
  | .lookup | .admission | .synthesis => True
  | .insertion shape _ =>
    shape.flags = q.flags ∧ shape.id < r.nextShape ∧ shape.id ∉ r.shapes.map (·.2.id)
  | .done (.ok shape) => r.get? q.flags = some shape
  | .done (.error e) => e = .registryFull

theorem Fits.insertion {shape : Shape} {timed : Bool} (h : q.Fits r)
    (hq : q.phase = .insertion shape timed) :
    shape.flags = q.flags ∧ shape.id < r.nextShape ∧ shape.id ∉ r.shapes.map (·.2.id) := by
  rw [Fits, hq] at h
  exact h

theorem Fits.granted {shape : Shape} (h : q.Fits r) (hq : q.phase = .done (.ok shape)) :
    r.get? q.flags = some shape := by
  rw [Fits, hq] at h
  exact h

end Request

namespace Registry

/-- A shape that is bound is the one that its call composed. -/
theorem Outcome.sound (h : Outcome catalog r q r' q') (hr : r.Sound) (hq : q.Fits r) :
    r'.Sound := by
  cases h with
  | compose =>
    exact ⟨hr.masks, hr.numbers, hr.flags, fun p hp => Nat.lt_succ_of_lt (hr.issued p hp),
      hr.registered, hr.syntheses, hr.cap⟩
  | @bind shape timed hPhase hNew hRoom =>
    obtain ⟨hFlags, hIssued, hFresh⟩ := hq.insertion hPhase
    refine ⟨?_, ?_, fun p hp => ?_, fun p hp => ?_, ?_, ?_, fun max hMax => ?_⟩
    · rw [List.map_append, List.map_singleton, ← List.concat_eq_append]
      exact hr.masks.concat (notMem_of_get?_eq_none hNew)
    · rw [List.map_append, List.map_singleton, ← List.concat_eq_append]
      exact hr.numbers.concat hFresh
    · rcases List.mem_append.mp hp with hp | hp
      · exact hr.flags p hp
      · rw [List.mem_singleton.mp hp]
        exact hFlags
    · rcases List.mem_append.mp hp with hp | hp
      · exact hr.issued p hp
      · rw [List.mem_singleton.mp hp]
        exact hIssued
    · rw [List.length_append, List.length_singleton, hr.registered]
    · have := hr.syntheses
      dsimp only
      omega
    · -- the place was free under the lock, whatever was seen on admission
      have := isFull_eq_false_iff.mp hRoom max hMax
      exact this
  | _ => exact ⟨hr.masks, hr.numbers, hr.flags, hr.issued, hr.registered, hr.syntheses, hr.cap⟩

/-- The call that takes the step fits afterwards. -/
theorem Outcome.fits (h : Outcome catalog r q r' q') (hr : r.Sound) (hq : q.Fits r) :
    q'.Fits r' := by
  cases h with
  | hit _ hBound => exact hBound
  | miss => trivial
  | refuse => exact rfl
  | pass => trivial
  | compose =>
    -- numbers of bound shapes are below the next one, which the call has just taken
    refine ⟨rfl, Nat.lt_succ_self _, fun hMem => ?_⟩
    obtain ⟨p, hp, hId⟩ := List.mem_map.mp hMem
    exact Nat.ne_of_lt (hr.issued p hp) hId
  | discard _ hBound => exact hBound
  | refuseLate => exact rfl
  | bind _ hNew _ => exact get?_append_self hNew _
  | idle => exact hq

/-- The other calls still fit, if none of them has composed the same number. -/
theorem Outcome.fits_other {o : Request} (h : Outcome catalog r q r' q') (ho : o.Fits r)
    (hOther : ∀ n, q.composed? = some n → o.composed? ≠ some n) : o.Fits r' := by
  have hLater := h.later
  rw [Request.Fits] at ho ⊢
  cases hPhase : o.phase with
  | insertion shape timed =>
    rw [hPhase] at ho
    refine ⟨ho.1, Nat.lt_of_lt_of_le ho.2.1 hLater.nextShape, ?_⟩
    cases h with
    | @bind bound t hq _ _ =>
      -- the one number that is bound is not the one of this call
      have hNe : shape.id ≠ bound.id := by
        intro hId
        refine hOther bound.id (by rw [Request.composed?, hq]) ?_
        rw [Request.composed?, hPhase, ← hId]
      intro hMem
      rw [List.map_append, List.mem_append, List.map_singleton, List.mem_singleton] at hMem
      rcases hMem with hMem | hMem
      · exact ho.2.2 hMem
      · exact hNe hMem
    | _ => exact ho.2.2
  | done answer =>
    rw [hPhase] at ho
    cases answer with
    | ok shape => exact hLater.bound _ _ ho
    | error e => exact ho
  | _ => trivial

/-- A step composes no number but the next one. -/
theorem Outcome.composed? (h : Outcome catalog r q r' q') :
    q'.composed? = none ∨ q'.composed? = q.composed? ∨ q'.composed? = some r.nextShape := by
  cases h with
  | compose => exact Or.inr (Or.inr rfl)
  | idle => exact Or.inr (Or.inl rfl)
  | _ => exact Or.inl rfl

end Registry

/-! ## Counting calls -/

namespace Request

theorem Fits.composed?_lt {n : Nat} (h : q.Fits r) (hn : q.composed? = some n) :
    n < r.nextShape := by
  rw [composed?] at hn
  split at hn
  · next shape timed hq =>
    cases hn
    exact (h.insertion hq).2.1
  · cases hn

/-- One for a call that has not looked its mask up. -/
def waiting (q : Request) : Nat :=
  match q.phase with
  | .lookup => 1
  | _ => 0

/-- One for a call between its lookup and its end. -/
def underWay (q : Request) : Nat :=
  match q.phase with
  | .admission | .synthesis | .insertion .. => 1
  | _ => 0

/-- One for a call that was refused. -/
def refusals (q : Request) : Nat :=
  match q.phase with
  | .done (.error _) => 1
  | _ => 0

/-- One for a call that can still take a number. -/
def numberless (q : Request) : Nat :=
  match q.phase with
  | .lookup | .admission | .synthesis => 1
  | _ => 0

end Request

namespace Registry

/-- A miss is on its way until it ends in a shape, in a discarded one, or in a refusal. -/
theorem Outcome.misses (h : Outcome catalog r q r' q') :
    r'.misses + (r.syntheses + r.discarded) + (q.underWay + q.refusals) =
      r.misses + (r'.syntheses + r'.discarded) + (q'.underWay + q'.refusals) := by
  cases h <;> simp only [Request.underWay, Request.refusals, Request.finish, *] <;> omega

/-- Every lookup is counted once. -/
theorem Outcome.calls (h : Outcome catalog r q r' q') :
    r'.hits + r'.misses + r'.hintHits + q'.waiting =
      r.hits + r.misses + r.hintHits + q.waiting := by
  cases h <;> simp only [Request.waiting, Request.finish, *] <;> omega

/-- Every call takes at most one number. -/
theorem Outcome.numbers (h : Outcome catalog r q r' q') :
    r'.nextShape + q'.numberless ≤ r.nextShape + q.numberless := by
  cases h <;> simp only [Request.numberless, Request.finish, *] <;> omega

end Registry

namespace Contest

/-- The sum of a weight over all calls. -/
def total (w : Request → Nat) (c : Contest) : Nat := (c.requests.map w).sum

theorem length_refused (c : Contest) : c.refused.length = c.total Request.refusals := by
  rw [refused, total]
  induction c.requests with
  | nil => rfl
  | cons q rest ih =>
    rw [List.map_cons, List.sum_cons, ← ih, List.filterMap_cons, Request.refusals,
      Request.answer?]
    cases q.phase with
    | done answer =>
      cases answer with
      | ok shape => exact (Nat.zero_add _).symm
      | error e => exact Nat.add_comm ..
    | _ => exact (Nat.zero_add _).symm

/-! ## Moves -/

/-- What can happen next. -/
inductive Move where
  /-- A call for a mask begins. -/
  | call (flags : Capabilities)
  /-- A call for a mask begins, with the shape that an earlier call got. -/
  | hinted (flags : Capabilities) (i : Nat)
  /-- A call takes one step. -/
  | step (i : Nat)

/-- The shape that a call got, if it got one. -/
def shapeOf? (c : Contest) (i : Nat) : Option Shape :=
  match (c.requests[i]?).bind Request.answer? with
  | some (.ok shape) => some shape
  | _ => none

/-- The contest with one more call. -/
def join (c : Contest) (q : Request) : Contest := { c with requests := c.requests ++ [q] }

/-- The contest after a move. A call with a fitting shape ends at once. -/
def move (catalog : Catalog Code) (timed : Bool) (c : Contest) : Move → Contest
  | .call flags => c.join (.start flags)
  | .hinted flags i =>
    match c.shapeOf? i with
    | none => c.join (.start flags)
    | some hint =>
      if hint.flags = flags ∧ c.registry.owns hint then
        let (answer, registry, _) := c.registry.resolveWithHint catalog timed flags hint
        { c with registry }.join ((Request.start flags).finish answer)
      else c.join (.start flags)
  | .step i => c.step catalog timed i

/-- The contest after some moves. -/
def play (catalog : Catalog Code) (timed : Bool) (c : Contest) (moves : List Move) : Contest :=
  moves.foldl (move catalog timed) c

theorem play_append (catalog : Catalog Code) (timed : Bool) (c : Contest)
    (moves more : List Move) :
    play catalog timed c (moves ++ more) =
      play catalog timed (play catalog timed c moves) more := List.foldl_append

/-- Requests that are there from the start, under a schedule, are one way to play. -/
theorem run_eq_play (catalog : Catalog Code) (timed : Bool) (r : Registry)
    (masks : List Capabilities) (schedule : List Nat) :
    (start r masks).run catalog timed schedule =
      play catalog timed ⟨r, []⟩ (masks.map .call ++ schedule.map .step) := by
  have hCalls : ∀ (l : List Capabilities) (c : Contest),
      play catalog timed c (l.map .call) =
        { c with requests := c.requests ++ l.map Request.start } := by
    intro l
    induction l with
    | nil => intro c; rw [List.map_nil, List.map_nil, List.append_nil]; rfl
    | cons flags rest ih =>
      intro c
      rw [List.map_cons, play, List.foldl_cons, ← play, ih, move, join, List.map_cons,
        List.append_assoc, List.singleton_append]
  rw [play_append, hCalls, play, List.foldl_map]
  rfl

/-! ## The invariant -/

/-- What holds of a contest at every moment. -/
structure Safe (c : Contest) : Prop where
  sound : c.registry.Sound
  fits : ∀ (i : Nat) (q : Request), c.requests[i]? = some q → q.Fits c.registry
  /-- No two calls have composed the same number. -/
  distinct : ∀ (i j : Nat) (q o : Request) (n : Nat), c.requests[i]? = some q →
    c.requests[j]? = some o → q.composed? = some n → o.composed? = some n → i = j
  misses : c.registry.misses = c.registry.syntheses + c.registry.discarded +
    (c.total Request.underWay + c.total Request.refusals)
  calls : c.registry.hits + c.registry.misses + c.registry.hintHits + c.total Request.waiting =
    c.requests.length
  numbers : c.registry.nextShape + c.total Request.numberless ≤ c.requests.length + 1

variable {c : Contest}

/-- Every step of every call keeps the invariant. -/
theorem Safe.advance {i : Nat} (hc : c.Safe) (hi : c.requests[i]? = some q)
    (h : Registry.Outcome catalog c.registry q r' q') :
    Safe { registry := r', requests := c.requests.set i q' } := by
  have hq := hc.fits i q hi
  -- a call that steps and one that does not have never composed the same number
  have hApart : ∀ j o n, j ≠ i → c.requests[j]? = some o → o.composed? = some n →
      q'.composed? ≠ some n := by
    intro j o n hj ho hn hn'
    rcases h.composed? with hNone | hSame | hNext
    · cases hNone.symm.trans hn'
    · exact hj (hc.distinct j i o q n ho hi hn (hSame.symm.trans hn'))
    · cases hNext.symm.trans hn'
      exact Nat.lt_irrefl _ ((hc.fits j o ho).composed?_lt hn)
  refine ⟨h.sound hc.sound hq, fun j o ho => ?_, fun j k o p n ho hp hn hn' => ?_, ?_, ?_, ?_⟩
  · -- the call that steps, and the others
    rcases getElem?_set_cases ho with ⟨-, rfl⟩ | ⟨hj, ho⟩
    · exact h.fits hc.sound hq
    · exact h.fits_other (hc.fits j o ho) fun n hn hn' => hj (hc.distinct j i o q n ho hi hn' hn)
  · rcases getElem?_set_cases ho with ⟨rfl, rfl⟩ | ⟨hj, hOther⟩ <;>
      rcases getElem?_set_cases hp with ⟨rfl, rfl⟩ | ⟨hk, hOther'⟩
    · rfl
    · exact absurd hn (hApart k p n hk hOther' hn')
    · exact absurd hn' (hApart j o n hj hOther hn)
    · exact hc.distinct j k o p n hOther hOther' hn hn'
  · have hMisses := hc.misses
    have := h.misses
    have hUnderWay := sum_set Request.underWay hi q'
    have hRefusals := sum_set Request.refusals hi q'
    rw [total, total] at hMisses ⊢
    dsimp only
    omega
  · have hCalls := hc.calls
    have := h.calls
    have hWaiting := sum_set Request.waiting hi q'
    rw [total] at hCalls ⊢
    rw [List.length_set]
    dsimp only
    omega
  · have hNumbers := hc.numbers
    have := h.numbers
    have hNumberless := sum_set Request.numberless hi q'
    rw [total] at hNumbers ⊢
    rw [List.length_set]
    dsimp only
    omega

/-- A call that joins keeps the invariant, if it counts as one that waits or as hits of the hint. -/
theorem Safe.join (hc : c.Safe) (n : Nat) (hq : q.Fits c.registry) (hNone : q.composed? = none)
    (hMisses : q.underWay + q.refusals = 0) (hCalls : n + q.waiting = 1)
    (hNumbers : q.numberless ≤ 1) :
    Safe (Contest.join
      { c with registry := { c.registry with hintHits := c.registry.hintHits + n } } q) := by
  have hTotal (w : Request → Nat) : ((c.requests ++ [q]).map w).sum = c.total w + w q := by
    rw [List.map_append, List.sum_append, List.map_singleton, List.sum_singleton, total]
  refine ⟨⟨hc.sound.masks, hc.sound.numbers, hc.sound.flags, hc.sound.issued, hc.sound.registered,
    hc.sound.syntheses, hc.sound.cap⟩, fun i o ho => ?_, fun i j o p m ho hp hm hm' => ?_,
    ?_, ?_, ?_⟩
  · rcases getElem?_concat_cases ho with ho | ⟨-, rfl⟩
    · exact hc.fits i o ho
    · exact hq
  · rcases getElem?_concat_cases ho with hOld | ⟨-, rfl⟩
    · rcases getElem?_concat_cases hp with hOld' | ⟨-, rfl⟩
      · exact hc.distinct i j o p m hOld hOld' hm hm'
      · cases hNone.symm.trans hm'
    · cases hNone.symm.trans hm
  · have := hc.misses
    rw [Contest.join, total, total]
    dsimp only
    rw [hTotal, hTotal]
    omega
  · have := hc.calls
    rw [Contest.join, total]
    dsimp only
    rw [hTotal, List.length_append, List.length_singleton]
    omega
  · have := hc.numbers
    rw [Contest.join, total]
    dsimp only
    rw [hTotal, List.length_append, List.length_singleton]
    omega

/-- A new call waits for its lookup. -/
theorem Safe.start (hc : c.Safe) (flags : Capabilities) : (c.join (.start flags)).Safe :=
  hc.join 0 trivial rfl rfl rfl (Nat.le_refl 1)

/-- A shape that a call got is bound, to the mask that it is for. -/
theorem Safe.shapeOf? (hc : c.Safe) {i : Nat} {shape : Shape} (h : c.shapeOf? i = some shape) :
    c.registry.get? shape.flags = some shape := by
  rw [Contest.shapeOf?] at h
  split at h
  · next granted hAnswer =>
    cases h
    obtain ⟨q, hi, hq⟩ := Option.bind_eq_some_iff.mp hAnswer
    have hBound := (hc.fits i q hi).granted (Request.answer?_eq_some.mp hq)
    rw [hc.sound.flags _ (Registry.mem_of_get? hBound)]
    exact hBound
  · cases h

/-- Every move keeps the invariant. -/
theorem Safe.move (hc : c.Safe) (catalog : Catalog Code) (timed : Bool) (m : Move) :
    (c.move catalog timed m).Safe := by
  cases m with
  | call flags => exact hc.start flags
  | hinted flags i =>
    rw [Contest.move]
    cases hShape : c.shapeOf? i with
    | none => exact hc.start flags
    | some hint =>
      dsimp only
      split
      · next hFits =>
        rw [Registry.resolveWithHint, if_pos hFits]
        -- the hint is what an earlier call got, so it is bound
        have hBound : c.registry.get? flags = some hint := hFits.1 ▸ hc.shapeOf? hShape
        exact hc.join 1 hBound rfl rfl rfl (Nat.zero_le 1)
      · exact hc.start flags
  | step i =>
    rw [Contest.move, Contest.step]
    cases hi : c.requests[i]? with
    | none => exact hc
    | some q => exact hc.advance hi (Registry.step_outcome catalog timed c.registry q)

/-- Every play keeps the invariant. -/
theorem Safe.play (hc : c.Safe) (catalog : Catalog Code) (timed : Bool) (moves : List Move) :
    (c.play catalog timed moves).Safe := by
  induction moves generalizing c with
  | nil => exact hc
  | cons m rest ih => exact ih (hc.move catalog timed m)

/-- Bindings outlast every move. -/
theorem later_move (catalog : Catalog Code) (timed : Bool) (c : Contest) (m : Move) :
    Registry.Later c.registry (c.move catalog timed m).registry := by
  cases m with
  | call flags => exact .refl _
  | hinted flags i =>
    rw [Contest.move]
    cases c.shapeOf? i with
    | none => exact .refl _
    | some hint =>
      dsimp only
      split
      · next hFits =>
        rw [Registry.resolveWithHint, if_pos hFits]
        exact ⟨rfl, fun _ _ h => h, Nat.le_refl _⟩
      · exact .refl _
  | step i =>
    rw [Contest.move, Contest.step]
    cases c.requests[i]? with
    | none => exact .refl _
    | some q => exact (Registry.step_outcome catalog timed c.registry q).later

theorem later_play (catalog : Catalog Code) (timed : Bool) (c : Contest) (moves : List Move) :
    Registry.Later c.registry (c.play catalog timed moves).registry := by
  induction moves generalizing c with
  | nil => exact .refl _
  | cons m rest ih => exact (later_move catalog timed c m).trans (ih _)

/-! ## The law -/

/-- A call waits, is under way, or has its answer. -/
theorem length_requests (c : Contest) :
    c.requests.length = c.answers.length + c.total Request.waiting +
      c.total Request.underWay := by
  rw [answers, total, total]
  induction c.requests with
  | nil => rfl
  | cons q rest ih =>
    rw [List.map_cons, List.map_cons, List.sum_cons, List.sum_cons, List.filterMap_cons,
      List.length_cons, ih, Request.waiting, Request.underWay, Request.answer?]
    cases q.phase <;> simp only [List.length_cons] <;> omega

theorem total_eq_zero {w : Request → Nat} (h : ∀ q ∈ c.requests, w q = 0) : c.total w = 0 := by
  rw [total, List.map_congr_left h]
  induction c.requests with
  | nil => rfl
  | cons _ _ ih => rw [List.map_cons, List.sum_cons, ih]

theorem safe_new {id : Nat} {max : Option Nat} (hr : Registry.new catalog id max = .ok r) :
    Safe ⟨r, []⟩ ∧ r.maxShapes = max := by
  rw [Registry.new] at hr
  split at hr
  · cases hr
  · next hMax =>
    cases hr
    refine ⟨⟨⟨List.nodup_singleton _, List.nodup_singleton _, fun p hp => ?_, fun p hp => ?_, rfl,
      rfl, fun m hm => ?_⟩, nofun, nofun, rfl, rfl, Nat.le_refl 1⟩, rfl⟩
    · rw [List.mem_singleton.mp hp]
      rfl
    · rw [List.mem_singleton.mp hp]
      exact Nat.one_pos
    · have hNe : m ≠ 0 := by
        rintro rfl
        exact hMax hm
      exact Nat.one_le_iff_ne_zero.mpr hNe

/--
**The registry is safe under every interleaving.** Let any calls begin at any time and take their
steps in any order, on a new registry with room for at least one shape. A mask is bound to at most
one shape, and stays bound to it. An answer is the shape that is bound to the mask, or a refusal.
No two bound shapes have the same number, and numbers stay within the number of calls. The
registry counts its shapes right and never holds more than it may. When no call is under way, every
miss has ended in a synthesis, in a discarded one or in a refusal, and every call that has its
answer is a hit, a miss or a hit of its hint.
-/
theorem contest_safe (catalog : Catalog Code) (id : Nat) {max : Option Nat} (hMax : max ≠ some 0)
    (timed : Bool) :
    ∃ r, Registry.new catalog id max = .ok r ∧ ∀ moves : List Move, ∀ c : Contest,
      c = play catalog timed ⟨r, []⟩ moves →
      (c.registry.shapes.map (·.1)).Nodup ∧
      (∀ (later : List Move) (flags : Capabilities) (shape : Shape),
        c.registry.get? flags = some shape →
          (c.play catalog timed later).registry.get? flags = some shape) ∧
      (∀ q ∈ c.requests, ∀ answer, q.answer? = some answer →
        (∃ shape, answer = .ok shape ∧ c.registry.get? q.flags = some shape) ∨
          answer = .error .registryFull) ∧
      (c.registry.shapes.map (·.2.id)).Nodup ∧
      (∀ p ∈ c.registry.shapes, p.2.id ≤ c.requests.length) ∧
      c.registry.size = c.registry.registered ∧
      c.registry.registered = 1 + c.registry.syntheses ∧
      (∀ m, max = some m → c.registry.registered ≤ m) ∧
      ((∀ q ∈ c.requests, q.phase = .lookup ∨ q.answer?.isSome) →
        c.registry.misses = c.registry.syntheses + c.registry.discarded + c.refused.length ∧
          c.registry.hits + c.registry.misses + c.registry.hintHits = c.answers.length) := by
  obtain ⟨r, hr⟩ : ∃ r, Registry.new catalog id max = .ok r :=
    ⟨_, by rw [Registry.new, if_neg hMax]⟩
  refine ⟨r, hr, fun moves c hPlay => ?_⟩
  obtain ⟨hNew, hCap⟩ := safe_new hr
  have hc : c.Safe := hPlay ▸ hNew.play catalog timed moves
  have hMaxShapes : c.registry.maxShapes = max := by
    rw [hPlay, (later_play catalog timed ⟨r, []⟩ moves).maxShapes, hCap]
  refine ⟨hc.sound.masks, fun later => (later_play catalog timed c later).bound,
    fun q hq answer hAnswer => ?_, hc.sound.numbers, fun p hp => ?_, hc.sound.registered.symm,
    hc.sound.syntheses, fun m hm => hc.sound.cap m (hMaxShapes.trans hm), fun hRest => ?_⟩
  · obtain ⟨i, hi⟩ := List.mem_iff_getElem?.mp hq
    have hFits := hc.fits i q hi
    rw [Request.Fits, Request.answer?_eq_some.mp hAnswer] at hFits
    cases answer with
    | ok shape => exact Or.inl ⟨shape, rfl, hFits⟩
    | error e => exact Or.inr (by rw [hFits])
  · have hIssued := hc.sound.issued p hp
    have hNumbers := hc.numbers
    omega
  · -- every call waits or has its answer, so no miss is on its way
    have hUnderWay : c.total Request.underWay = 0 := by
      refine total_eq_zero fun q hq => ?_
      rw [Request.underWay]
      rcases hRest q hq with hPhase | hAnswer
      · rw [hPhase]
      · obtain ⟨answer, hAnswer⟩ := Option.isSome_iff_exists.mp hAnswer
        rw [Request.answer?_eq_some.mp hAnswer]
    have hMisses := hc.misses
    have hCalls := hc.calls
    have hLength := length_requests c
    rw [length_refused]
    constructor <;> omega

/-- With room for one shape besides the plain one, no interleaving ever registers two. -/
theorem contest_safe_last_place :
    (some 2 : Option Nat) ≠ some 0 ∧
      ∃ r, Registry.new (.empty : Catalog Empty) 0 (some 2) = .ok r ∧ ∀ moves,
        (play (.empty : Catalog Empty) false ⟨r, []⟩ moves).registry.registered ≤ 2 := by
  refine ⟨by decide, ?_⟩
  obtain ⟨r, hr, hAll⟩ := contest_safe (.empty : Catalog Empty) 0
    (show (some 2 : Option Nat) ≠ some 0 by decide) false
  refine ⟨r, hr, fun moves => ?_⟩
  obtain ⟨-, -, -, -, -, -, -, hCap, -⟩ := hAll moves _ rfl
  exact hCap 2 rfl

end Contest

end ProxyBridge
