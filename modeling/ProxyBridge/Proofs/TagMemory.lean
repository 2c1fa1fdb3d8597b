import ProxyBridge.Proofs.Inspection

/-!
# Fetching the tag once

An inspection asks for the tag of the value when the first probe needs it, and remembers the answer
for later probes. In between, methods, numbers and custom probes are looked at, which may run
foreign code: the value may be freed, members may be overwritten, other values may be stored. The
memory is right all the same as long as the value is there, since a handle names one value for good
and no operation changes the tag of a value. If the value is there when the inspection ends, it was
there all the time, since a handle that has lost its value never gets one again.

## Results

* `Environment.inspectAfresh` — the inspector that asks for the tag at every probe of the tag.
* `Session.Recalls` — what a remembered tag is worth; `Recalls.later` — it does not go stale.
* `tag_memory_faithful` — the two inspectors do the same.
-/

namespace ProxyBridge

variable {Code Client Mind : Type} {known : Client → List Shape}

namespace Environment

variable (env : Environment Code Client)

/-- One capability of the catalog, for an inspector that remembers nothing but the mask. -/
def examineAfresh (h : Handle) (detected : Capabilities) (c : Capability Code) :
    Act Code Client ForeignError Capabilities := do
  if c.probe.isExplicit || !c.applicable detected then return detected
  else
    let found ← (env.ask c.probe h detected).onError fun e s =>
      s.emit (.probeRaised c.name h e.text)
    return if found then detected ||| c.flag else detected

/-- The capabilities of a value, found by asking for its tag whenever a probe needs it. -/
def inspectAfresh (catalog : Catalog Code) (h : Handle) :
    Act Code Client ForeignError Capabilities :=
  catalog.capabilities.foldlM (env.examineAfresh h) 0#32

end Environment

/-! ## What is remembered -/

open Session

/-- The handle was given out, and what it names has the remembered tag, if it names anything. -/
def Session.Recalls (s : Session Code Client) (h : Handle) (tag : Option Tag) : Prop :=
  ∀ t ∈ tag, h.id < s.table.nextId ∧ ∀ o, s.table.object h = .ok o → o.tag = t

section Memory

variable {env : Environment Code Client} {s s' : Session Code Client} {h : Handle}
  {f f' : Findings} {tag : Option Tag} {c : Capability Code}

/-- A remembered tag stays right whatever happens. -/
theorem Session.Recalls.later (hr : s.Recalls h tag) (hs : s.table.WellFormed)
    (hPath : Path known s s') : s'.Recalls h tag := by
  intro t ht
  obtain ⟨hIssued, hTag⟩ := hr t ht
  have hPrecedes := Path.precedes hPath hs
  refine ⟨Nat.lt_of_lt_of_le hIssued hPrecedes.nextId, ?_⟩
  intro o ho
  obtain ⟨e, he, rfl⟩ := Table.object_eq_ok_iff.mp ho
  obtain ⟨e₀, he₀, hSame⟩ := hPrecedes.same h e he hIssued
  exact (congrArg Prod.fst hSame).trans (hTag _ (Table.object_eq_ok_iff.mpr ⟨e₀, he₀, rfl⟩))

/-- If the value is there later, it is there now, with the remembered tag. -/
theorem Session.Recalls.object (hr : s.Recalls h tag) (hs : s.table.WellFormed)
    (hPath : Path known s s') (hLive : s'.table.isLive h = true) :
    ∀ t ∈ tag, ∃ o, s.table.object h = .ok o ∧ o.tag = t := by
  intro t ht
  obtain ⟨hIssued, hTag⟩ := hr t ht
  obtain ⟨e, he⟩ := Table.isLive_iff.mp hLive
  obtain ⟨e₀, he₀, -⟩ := (Path.precedes hPath hs).same h e he hIssued
  have ho := Table.object_eq_ok_iff.mpr ⟨e₀, he₀, rfl⟩
  exact ⟨e₀.object, ho, hTag _ ho⟩

/-- Nothing is remembered at the start. -/
theorem Session.recalls_start (s : Session Code Client) (h : Handle) :
    s.Recalls h Findings.start.tag := by
  intro t ht
  cases ht

theorem Session.recalls_object (hs : s.table.WellFormed) {o : Object Code}
    (ho : s.table.object h = .ok o) : s.Recalls h (some o.tag) := by
  intro t ht
  obtain ⟨e, he, rfl⟩ := Table.object_eq_ok_iff.mp ho
  refine ⟨(hs.entry he).issued, ?_⟩
  intro o' ho'
  cases ho.symm.trans ho'
  exact Option.some.inj ht

namespace Environment

/-- One capability, with the right tag in memory or none: the same as without memory. -/
theorem examine_afresh (hTag : ∀ t ∈ f.tag, ∃ o, s.table.object h = .ok o ∧ o.tag = t) :
    (Findings.detected <$> env.examine h f c) s = env.examineAfresh h f.detected c s := by
  unfold examine examineAfresh
  by_cases hSkip : (c.probe.isExplicit || !c.applicable f.detected) = true
  · rw [if_pos hSkip, if_pos hSkip]
    rfl
  · rw [if_neg hSkip, if_neg hSkip]
    have hAsk : ((·.1) <$> env.probe c.probe h f) s = env.ask c.probe h f.detected s :=
      probe_fst c.probe hTag
    rw [map_eq_pure_bind] at hAsk
    rw [map_eq_pure_bind, bind_assoc]
    cases hProbe : env.probe c.probe h f s with
    | ok answer s₁ =>
      rw [Act.bind_ok hProbe] at hAsk
      obtain ⟨found, tag⟩ := answer
      rw [Act.bind_ok (Act.onError_ok hProbe), Act.bind_ok (Act.onError_ok hAsk.symm)]
      cases found <;> rfl
    | error e s₁ =>
      rw [Act.bind_error hProbe] at hAsk
      rw [Act.bind_error (Act.onError_error hProbe), Act.bind_error (Act.onError_error hAsk.symm)]

/-- What is known of the tag after a capability was known before, or is the tag of the value. -/
theorem tag_of_examine (hRun : env.examine h f c s = .ok f' s') :
    f'.tag = f.tag ∨ ∃ o, s.table.object h = .ok o ∧ f'.tag = some o.tag := by
  unfold examine at hRun
  split at hRun
  · cases hRun
    exact Or.inl rfl
  · obtain ⟨⟨found, tag⟩, s₁, hProbe, hEnd⟩ := Act.bind_eq_ok hRun
    cases hEnd
    have hTag : ({ f with tag }.note c.flag found).tag = tag := by cases found <;> rfl
    rw [hTag]
    exact tag_of_probe (Act.onError_eq_ok hProbe)

/-- A walk over capabilities that ends while the value is there: the same with memory as without. -/
theorem foldlM_afresh (hEnv : env.Walks known) (l : List (Capability Code))
    (hs : s.table.WellFormed) (hr : s.Recalls h f.tag)
    (hLive : ((l.foldlM (env.examine h) f).after s).table.isLive h = true) :
    (Findings.detected <$> l.foldlM (env.examine h) f) s =
      l.foldlM (env.examineAfresh h) f.detected s := by
  -- the induction is on the capabilities that are left, and the tag in memory stays right
  induction l generalizing f s with
  | nil => rfl
  | cons c rest ih =>
    have hLater := (Act.Walks.foldlM (hEnv.examine h) (c :: rest) f).after s
    have hStep : (Findings.detected <$> env.examine h f c) s = env.examineAfresh h f.detected c s :=
      examine_afresh (hr.object hs hLater hLive)
    rw [map_eq_pure_bind] at hStep
    rw [Act.after, List.foldlM_cons] at hLive
    rw [List.foldlM_cons, List.foldlM_cons, map_eq_pure_bind, bind_assoc]
    have hWalk := (hEnv.examine h f c).after s
    rw [Act.after] at hWalk
    cases hRun : env.examine h f c s with
    | error e s₁ =>
      rw [Act.bind_error hRun] at hStep
      rw [Act.bind_error hRun, Act.bind_error hStep.symm]
    | ok f₁ s₁ =>
      rw [hRun] at hWalk
      rw [Act.bind_ok hRun] at hStep hLive
      rw [Act.bind_ok hRun, Act.bind_ok hStep.symm, ← map_eq_pure_bind]
      have hRecalls : s.Recalls h f₁.tag := by
        rcases tag_of_examine hRun with hOld | ⟨o, ho, hNew⟩
        · rw [hOld]
          exact hr
        · rw [hNew]
          exact recalls_object hs ho
      exact ih (Path.wellFormed hWalk hs) (hRecalls.later hs hWalk) hLive

end Environment

end Memory

/-! ## Whole inspections -/

/--
**A remembered tag is as good as a fresh one.** At any moment of a run, inspect a value under any
catalog, whatever foreign code does while its members are looked at and its probes run. If the value
is still there when the inspection ends, then the inspector that asks for the tag at every probe of
the tag would have done the same: the same mask or error, and the same session after it.
-/
theorem tag_memory_faithful {limit : Option Nat} {timing : Bool} {mind : Mind}
    {s : World Code Mind} {env : Environment Code (Memory Mind)}
    (hStart : Path Memory.shapes (World.new (Table.empty limit) timing mind) s)
    (hEnv : env.Walks Memory.shapes) (c : Catalog Code) (h : Handle)
    (hLive : ((env.inspect c h).after s).table.isLive h = true) :
    env.inspect c h s = env.inspectAfresh c h s := by
  have hTable := Path.wellFormed hStart (Table.wellFormed_empty limit)
  have hInspect : env.inspect c h =
      Findings.detected <$> c.capabilities.foldlM (env.examine h) Findings.start := by
    rw [Environment.inspect, map_eq_pure_bind]
  have hEnd : ((env.inspect c h).after s) =
      (c.capabilities.foldlM (env.examine h) Findings.start).after s := by
    rw [hInspect, map_eq_pure_bind, Act.after, Act.after]
    cases hRun : c.capabilities.foldlM (env.examine h) Findings.start s with
    | ok f s₁ => rw [Act.bind_ok hRun]; rfl
    | error e s₁ => rw [Act.bind_error hRun]
  rw [hEnd] at hLive
  rw [hInspect]
  exact Environment.foldlM_afresh hEnv c.capabilities hTable (s.recalls_start h) hLive

/-- The size of a value is computed by code that frees another value. It runs between the probes of
the tag, and the tag that was asked for first is used. -/
theorem tag_memory_faithful_misuse :
    let env := exampleMisuse.environment 1
    let s := Call.performAll env
      [.command (.insert .plain),
        .command (.insert (Object.plain.withMember (.named "size") (.accessor ())))]
      (World.new (.empty none) false ())
    ((env.inspect Catalog.standard ⟨3⟩).after s).table.isLive ⟨2⟩ = false ∧
      ((env.inspect Catalog.standard ⟨3⟩).after s).table.isLive ⟨3⟩ = true ∧
      env.inspect Catalog.standard ⟨3⟩ s = env.inspectAfresh Catalog.standard ⟨3⟩ s := by
  intro env s
  have hWalks := exampleMisuse.walks_environment 1
  have hStart : Path Memory.shapes (World.new (.empty none) false ()) s :=
    Call.path_performAll hWalks _ _
  have hLive : ((env.inspect Catalog.standard ⟨3⟩).after s).table.isLive ⟨3⟩ = true := by
    decide +kernel
  exact ⟨by decide +kernel, hLive, tag_memory_faithful hStart hWalks Catalog.standard ⟨3⟩ hLive⟩

end ProxyBridge
