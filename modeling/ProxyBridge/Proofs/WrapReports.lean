import ProxyBridge.Proofs.Limits
import ProxyBridge.Proofs.Maintaining

/-!
# What wraps report

A wrap reports how it ends: a proxy was made, or the wrap failed. It reports that once, although
there are several layers that an error passes through on its way out. What else is reported while a
wrap goes on comes from references that are taken and given back, from the registry, and from the
probes of the inspection, which run foreign code. That code may wrap values of its own, which report
for themselves.

## Results

* `Table.releaseAll_events`, `Registry.answer_tells` — what cascades and registries report.
* `Environment.probeRuns` — the stretches of an inspection in which probes run.
* `Environment.reports_inspect` — nothing else of an inspection speaks of wraps.
* `Wrap.reports_once` — every wrap reports its end exactly once.
-/

namespace ProxyBridge

variable {Code Client ε α : Type}

/-! ## Kinds of events -/

namespace Event

/-- A proxy was made. -/
def isCreation : Event → Bool
  | .proxyCreated .. => true
  | _ => false

/-- A wrap failed. -/
def isFailure : Event → Bool
  | .wrapFailed .. => true
  | _ => false

/-- A shape was composed and bound. -/
def isSynthesis : Event → Bool
  | .shapeSynthesized .. => true
  | _ => false

/-- A reference to a value was given back for the last time, or for once too often. -/
def isLoss : Event → Bool
  | .valueFreed .. | .unknownRelease .. => true
  | _ => false

/-- A registry looked a shape up, or composed one. -/
def isOfRegistry : Event → Bool
  | .shapeSynthesized .. | .synthesisDiscarded .. | .registryExhausted ..
  | .operationCompleted .. => true
  | _ => false

/-- The event says how a wrap ended. -/
def isOutcome (e : Event) : Bool := e.isCreation || e.isFailure

theorem isOutcome_of_isLoss {e : Event} (h : e.isLoss = true) : e.isOutcome = false := by
  cases e <;> first | rfl | cases h

theorem isOutcome_of_isOfRegistry {e : Event} (h : e.isOfRegistry = true) :
    e.isOutcome = false := by
  cases e <;> first | rfl | cases h

theorem isOutcome_of_isReport {e : Event} (h : e.isReport = true) : e.isOutcome = false := by
  cases e <;> first | rfl | cases h

end Event

/-! ## What cascades and registries report -/

/-- A cascade speaks of values that go, and of handles that nobody holds. -/
theorem Table.releaseAll_events (t : Table Code) (pending : List Handle) :
    ∀ e ∈ (t.releaseAll pending).2, e.isLoss = true := by
  fun_induction Table.releaseAll t pending with
  | case1 t => exact List.forall_mem_nil _
  | case2 t h rest hr u events hu ih =>
    rw [hu] at ih
    exact List.forall_mem_cons.mpr ⟨rfl, ih⟩
  | case3 t h rest u hr ih => exact ih
  | case4 t h rest t' owned hr u events hu ih =>
    rw [hu] at ih
    exact List.forall_mem_cons.mpr ⟨rfl, ih⟩

namespace Registry

variable {r r' : Registry} {events more : List Event}

/-- The events tell how a registry went from one state to another: it reports every shape that it
binds, and speaks of nothing but itself. -/
structure Tells (r r' : Registry) (events : List Event) : Prop where
  syntheses : r'.syntheses = r.syntheses + events.countP Event.isSynthesis
  origin    : ∀ e ∈ events, e.isOfRegistry = true

theorem Tells.nil (h : r'.syntheses = r.syntheses) : r.Tells r' [] := ⟨h, nofun⟩

theorem Tells.append {r'' : Registry} (h : r.Tells r' events) (h' : r'.Tells r'' more) :
    r.Tells r'' (events ++ more) where
  syntheses := by
    rw [h'.syntheses, h.syntheses, List.countP_append, Nat.add_assoc]
  origin := List.forall_mem_append.mpr ⟨h.origin, h'.origin⟩

/-- The end of a composition can be reported on top. -/
theorem Tells.timing {e : Event} (h : r.Tells r' [e]) (timed : Bool) :
    r.Tells r' (e :: timing timed) := by
  have hTiming : r'.Tells r' (Registry.timing timed) := by
    cases timed with
    | false => exact .nil rfl
    | true => exact ⟨rfl, List.forall_mem_singleton.mpr rfl⟩
  exact h.append hTiming

theorem step_tells (catalog : Catalog Code) (timed : Bool) (r : Registry) (q : Request) :
    r.Tells (r.step catalog timed q).1 (r.step catalog timed q).2.2 := by
  have hRefusal : r.Tells r [r.refusal q.flags] := ⟨rfl, List.forall_mem_singleton.mpr rfl⟩
  rw [step]
  cases q.phase with
  | lookup =>
    dsimp only [lookupStep]
    split <;> exact .nil rfl
  | admission =>
    dsimp only [admissionStep]
    split
    · exact hRefusal
    · exact .nil rfl
  | synthesis => exact .nil rfl
  | insertion shape _ =>
    dsimp only [insertionStep]
    split
    · exact Tells.timing ⟨rfl, List.forall_mem_singleton.mpr rfl⟩ _
    · split
      · exact hRefusal.timing _
      · exact Tells.timing ⟨rfl, List.forall_mem_singleton.mpr rfl⟩ _
  | done _ => exact .nil rfl

theorem steps_tells (catalog : Catalog Code) (timed : Bool) (n : Nat) (r : Registry)
    (q : Request) :
    r.Tells (steps catalog timed n r q).1 (steps catalog timed n r q).2.2 := by
  induction n generalizing r q with
  | zero => exact .nil rfl
  | succ n ih => exact (step_tells catalog timed r q).append (ih _ _)

theorem answer_tells (catalog : Catalog Code) (timed : Bool) (flags : Capabilities)
    (hint : Option Shape) (r : Registry) :
    r.Tells (r.answer catalog timed flags hint).2.1 (r.answer catalog timed flags hint).2.2 := by
  have hPlain : r.Tells (r.resolve catalog timed flags).2.1 (r.resolve catalog timed flags).2.2 :=
    steps_tells catalog timed 4 r (.start flags)
  cases hint with
  | none => exact hPlain
  | some hint =>
    rw [answer]
    dsimp only [resolveWithHint]
    split
    · exact .nil rfl
    · exact hPlain

end Registry

/-! ## Where shapes and cells come in -/

/-- A condition that allows for what a registry tells is kept by every request for a shape. -/
theorem Act.Maintains.resolveShape {P : Session Code Client → Prop} {i : Nat}
    (h : ∀ (s : Session Code Client) (b : Bridge Code) (registry : Registry) (events : List Event),
      s.bridges[i]? = some b → b.registry.Tells registry events → P s →
        P ((s.setBridge i { b with registry }).emitAll events))
    (flags : Capabilities) (hint : Option Shape) :
    (Act.resolveShape i flags hint : Act Code Client ProxyError Shape).Maintains P := by
  intro s hs
  cases hb : s.bridges[i]? with
  | none =>
    rw [Act.resolveShape_none hb]
    exact hs
  | some b =>
    rw [Act.resolveShape_some hb rfl]
    exact Act.Maintains.ofExcept _ _ <|
      h s b _ _ hb (Registry.answer_tells b.catalog s.timing flags hint b.registry) hs

/-- The last stages of a wrap find a heap cell, or they give back what was taken. -/
theorem finishBuild_cases (i : Nat) (shape : Shape) (value : Handle) (receiver : Option Handle)
    (s : Session Code Client) :
    (∃ b, s.bridges[i]? = some b ∧ b.heap.hasRoom = true) ∨
      ∃ e, finishBuild i shape value receiver s = .error e ((s.letGo? receiver).letGo value) := by
  cases hb : s.bridges[i]? with
  | none =>
    have hReserve : (Act.reserve i : Act Code Client ProxyError Unit) s =
        .error .notInitialized s := by
      rw [Act.reserve, hb]
    exact Or.inr ⟨_, Act.bind_error (Act.onError_error hReserve)⟩
  | some b =>
    cases hHeap : b.heap.hasRoom with
    | true => exact Or.inl ⟨b, rfl, hHeap⟩
    | false => exact Or.inr ⟨_, finishBuild_error hb hHeap⟩

/-- A condition on references, values and members holds from the shape on until the heap cell is
taken, and again if the wrap fails. -/
theorem Session.Stable.ensures_shapeAndBuild {P : Session Code Client → Prop}
    (hP : Session.Stable P) {Q : Nat → Session Code Client → Prop} {i : Nat}
    {flags : Capabilities} {value : Handle} {receiver : Option Handle} {hint : Option Shape}
    (hResolve : (Act.resolveShape i flags hint : Act Code Client ProxyError Shape).Maintains P)
    (hFinish : ∀ shape, Act.Ensures P (finishBuild i shape value receiver) Q fun _ => P) :
    Act.Ensures P (Act.shapeAndBuild i flags value receiver hint) Q fun _ => P := by
  refine Act.Ensures.bind hResolve fun shape => ?_
  rw [build_eq]
  refine Act.Ensures.bind (hP.maintains_own value).foreign fun _ => ?_
  -- what was taken for the value is given back if there is none to take for the receiver
  have hReceiver := (hP.maintains_ownReceiver receiver).foreign.onError
    (f := fun _ s => s.letGo value) fun _ _ hs => hP.letGo value hs
  exact Act.Ensures.bind hReceiver fun _ => hFinish shape

/-! ## What the log says about wraps -/

namespace Session

/-- The number of events of a kind in the log. -/
def reports (s : Session Code Client) (kind : Event → Bool) : Int := s.log.countP kind

theorem reports_emit (s : Session Code Client) (e : Event) (kind : Event → Bool) :
    (s.emit e).reports kind = s.reports kind + if kind e then 1 else 0 := by
  rw [reports, emit, List.countP_cons]
  split <;> rfl

theorem reports_emitAll (s : Session Code Client) {es : List Event} {kind : Event → Bool}
    (h : ∀ e ∈ es, kind e = false) : (s.emitAll es).reports kind = s.reports kind := by
  have hNone : es.reverse.countP kind = 0 :=
    List.countP_eq_zero.mpr fun e he => ne_true_of_eq_false (h e (List.mem_reverse.mp he))
  rw [reports, emitAll, List.countP_append, hNone, Nat.zero_add]
  rfl

/-- The log says that so many wraps made a proxy, and that so many failed. -/
structure Told (made failed : Int) (s : Session Code Client) : Prop where
  made   : s.reports Event.isCreation = made
  failed : s.reports Event.isFailure = failed

variable {made failed : Int} {s : Session Code Client}

theorem Told.emitAll (hs : s.Told made failed) {es : List Event}
    (h : ∀ e ∈ es, e.isOutcome = false) : (s.emitAll es).Told made failed where
  made := by
    rw [reports_emitAll s fun e he => (Bool.or_eq_false_iff.mp (h e he)).1, hs.made]
  failed := by
    rw [reports_emitAll s fun e he => (Bool.or_eq_false_iff.mp (h e he)).2, hs.failed]

theorem Told.emit (hs : s.Told made failed) {e : Event} (h : e.isOutcome = false) :
    (s.emit e).Told made failed := by
  have hAll : (s.emitAll [e]).Told made failed := hs.emitAll (List.forall_mem_singleton.mpr h)
  exact hAll

theorem Told.created (hs : s.Told made failed) (shape : String) (value : Handle) (bound : Bool) :
    (s.emit (.proxyCreated shape value bound)).Told (made + 1) failed where
  made := by
    rw [reports_emit, hs.made]
    rfl
  failed := by
    rw [reports_emit, hs.failed]
    exact Int.add_zero failed

theorem Told.refused (hs : s.Told made failed) (value : Handle) (error : String) :
    (s.emit (.wrapFailed value error)).Told made (failed + 1) where
  made := by
    rw [reports_emit, hs.made]
    exact Int.add_zero made
  failed := by
    rw [reports_emit, hs.failed]
    rfl

/-- References, values and members are no matter of wraps. -/
theorem stable_told (made failed : Int) :
    Stable fun s : Session Code Client => s.Told made failed where
  retain hs _ := ⟨hs.made, hs.failed⟩
  release {s} h hs :=
    Told.emitAll (s := { s with table := (s.table.release h).1 }) ⟨hs.made, hs.failed⟩
      fun e he => e.isOutcome_of_isLoss (s.table.releaseAll_events [h] e he)
  insert {s o} _ hs :=
    Told.emit (s := { s with table := (s.table.insert o).2 }) ⟨hs.made, hs.failed⟩ rfl
  owners _ hs := ⟨hs.made, hs.failed⟩
  putMember _ _ _ hs := ⟨hs.made, hs.failed⟩
  dropMember _ _ hs := ⟨hs.made, hs.failed⟩
  report he hs := hs.emit (Event.isOutcome_of_isReport he)

end Session

open Session

namespace Act

variable {made failed : Int}

theorem told_resolveShape (i : Nat) (flags : Capabilities) (hint : Option Shape) :
    (resolveShape i flags hint : Act Code Client ProxyError Shape).Maintains
      (Told made failed) := by
  refine Maintains.resolveShape (fun s b registry events _ hTells hs => ?_) flags hint
  exact Told.emitAll (s := s.setBridge i { b with registry }) ⟨hs.made, hs.failed⟩
    fun e he => e.isOutcome_of_isOfRegistry (hTells.origin e he)

theorem told_finishBuild (i : Nat) (shape : Shape) (value : Handle) (receiver : Option Handle) :
    Ensures (Told made failed) (finishBuild i shape value receiver : Act Code Client ProxyError Nat)
      (fun _ => Told (made + 1) failed) fun _ => Told made failed := by
  have hStable : Stable fun s : Session Code Client => s.Told made failed := stable_told made failed
  intro s hs
  rcases finishBuild_cases i shape value receiver s with ⟨b, hb, hHeap⟩ | ⟨e, hFail⟩
  · rw [finishBuild_ok hb hHeap]
    have hMade := hs.created shape.name value receiver.isSome
    exact ⟨hMade.made, hMade.failed⟩
  · rw [hFail]
    exact hStable.letGo value (hStable.letGo? receiver hs)

/-- The stages after the capabilities report a proxy if they make one, and leave it to others to
report that they fail. -/
theorem told_shapeAndBuild (i : Nat) (flags : Capabilities) (value : Handle)
    (receiver : Option Handle) (hint : Option Shape) :
    Ensures (Told made failed)
      (shapeAndBuild i flags value receiver hint : Act Code Client ProxyError Nat)
      (fun _ => Told (made + 1) failed) fun _ => Told made failed :=
  (stable_told made failed).ensures_shapeAndBuild (told_resolveShape i flags hint) fun shape =>
    told_finishBuild i shape value receiver

/-- Whoever reports that a wrap fails does so once. -/
theorem told_reporting {P : Session Code Client → Prop} {act : Act Code Client ProxyError α}
    {Q : α → Session Code Client → Prop} (value : Handle)
    (h : Ensures P act Q fun _ => Told made failed) :
    Ensures P (reporting value act) Q fun _ => Told made (failed + 1) :=
  Ensures.onError <| h.mono (fun _ hs => hs) (fun _ _ hs => hs) fun e _ hs =>
    hs.refused value e.message

end Act

/-! ## What happens inside probes -/

/-- What a stretch of a run adds to the events of a kind. -/
def Session.gained (kind : Event → Bool) (run : Session Code Client × Session Code Client) : Int :=
  run.2.reports kind - run.1.reports kind

/-- What several stretches add together. -/
def Session.gainedIn (kind : Event → Bool) :
    List (Session Code Client × Session Code Client) → Int
  | [] => 0
  | run :: runs => gained kind run + gainedIn kind runs

namespace Environment

variable (env : Environment Code Client)

/-- The stretches of a walk over capabilities in which probes run: the session before each probe,
and the one after it. -/
def probeRuns (h : Handle) :
    List (Capability Code) → Findings → Session Code Client →
      List (Session Code Client × Session Code Client)
  | [], _, _ => []
  | c :: rest, f, s =>
    if c.probe.isExplicit || !c.applicable f.detected then probeRuns h rest f s
    else
      match env.probe c.probe h f s with
      | .ok (found, tag) s' => (s, s') :: probeRuns h rest ({ f with tag }.note c.flag found) s'
      | .error _ s' => [(s, s')]

/-- The stretches of an inspection by a bridge in which probes run. -/
def bridgeProbeRuns (i : Nat) (h : Handle) (s : Session Code Client) :
    List (Session Code Client × Session Code Client) :=
  match s.bridges[i]? with
  | some b => env.probeRuns h b.catalog.capabilities .start s
  | none => []

variable {env} {kind : Event → Bool}

/-- All that an inspection adds to the events of a kind, the report of a failing probe apart, is
added inside its probes. -/
theorem reports_examineAll (hKind : ∀ name h error, kind (.probeRaised name h error) = false)
    (h : Handle) (l : List (Capability Code)) (f : Findings) (s : Session Code Client) :
    ((l.foldlM (env.examine h) f).after s).reports kind =
      s.reports kind + gainedIn kind (env.probeRuns h l f s) := by
  induction l generalizing f s with
  | nil => exact (Int.add_zero _).symm
  | cons c rest ih =>
    rw [List.foldlM_cons, probeRuns, examine]
    by_cases hSkip : (c.probe.isExplicit || !c.applicable f.detected) = true
    · rw [if_pos hSkip, if_pos hSkip, pure_bind]
      exact ih f s
    · rw [if_neg hSkip, if_neg hSkip, bind_assoc]
      cases hProbe : env.probe c.probe h f s with
      | ok answer s' =>
        -- the rest goes on where the probe has ended
        obtain ⟨found, tag⟩ := answer
        have hRest := ih ({ f with tag }.note c.flag found) s'
        rw [Act.after] at hRest
        rw [Act.after, Act.bind_ok (Act.onError_ok hProbe), pure_bind]
        dsimp only at hRest ⊢
        rw [gainedIn, gained, hRest]
        dsimp only
        omega
      | error e s' =>
        rw [Act.after, Act.bind_error (Act.onError_error hProbe), gainedIn, gained, gainedIn]
        dsimp only
        rw [reports_emit, hKind, if_neg Bool.false_ne_true]
        omega

theorem reports_capabilities
    (hKind : ∀ name h error, kind (.probeRaised name h error) = false) (i : Nat) (h : Handle)
    (s : Session Code Client) :
    ((env.capabilities i h).after s).reports kind =
      s.reports kind + gainedIn kind (env.bridgeProbeRuns i h s) := by
  rw [bridgeProbeRuns, Act.after, capabilities]
  cases hb : s.bridges[i]? with
  | none =>
    have hBridge : (Act.bridge i : Act Code Client ProxyError (Bridge Code)) s =
        .error .notInitialized s := by
      rw [Act.bridge, hb]
    rw [Act.bind_error hBridge]
    exact (Int.add_zero _).symm
  | some b =>
    have hBridge : (Act.bridge i : Act Code Client ProxyError (Bridge Code)) s = .ok b s := by
      rw [Act.bridge, hb]
    have hAll := env.reports_examineAll hKind h b.catalog.capabilities .start s
    dsimp only
    rw [Act.bind_ok hBridge, ← hAll, Act.after]
    cases hWalk : (b.catalog.capabilities.foldlM (env.examine h) .start) s with
    | ok f s' =>
      have hInspect : env.inspect b.catalog h s = .ok f.detected s' := Act.bind_ok hWalk
      rw [Act.foreign_ok hInspect]
    | error e s' =>
      have hInspect : env.inspect b.catalog h s = .error e s' := Act.bind_error hWalk
      rw [Act.foreign_error hInspect]

theorem told_capabilities (i : Nat) (h : Handle) (s : Session Code Client) :
    Act.Ensures (fun s' => s' = s) (env.capabilities i h)
      (fun _ => Told (s.reports Event.isCreation +
          gainedIn Event.isCreation (env.bridgeProbeRuns i h s))
        (s.reports Event.isFailure + gainedIn Event.isFailure (env.bridgeProbeRuns i h s)))
      fun _ => Told (s.reports Event.isCreation +
          gainedIn Event.isCreation (env.bridgeProbeRuns i h s))
        (s.reports Event.isFailure + gainedIn Event.isFailure (env.bridgeProbeRuns i h s)) :=
  Act.Ensures.of_after
    ⟨reports_capabilities (fun _ _ _ => rfl) i h s, reports_capabilities (fun _ _ _ => rfl) i h s⟩

end Environment

/-! ## Wraps -/

/-- A way to wrap a value. -/
inductive Wrap where
  | create (bridge : Nat) (value : Handle)
  | createBound (bridge : Nat) (value receiver : Handle)
  | createTyped (bridge : Nat) (flags : Capabilities) (value : Handle) (receiver : Option Handle)
  | createMap (bridge : Nat) (value : Handle) (asMap : Bool)
  /-- A proxy that can be bound is bound to another receiver. -/
  | rebind (p : Proxy) (canBind : p.shape.hasSlot Slots.bind = true) (receiver : Handle)

namespace Wrap

variable (env : Environment Code Client)

/-- What the wrap does. -/
def act : Wrap → Act Code Client ProxyError Nat
  | create i value => env.create i value
  | createBound i value receiver => env.createBound i value receiver
  | createTyped i flags value receiver => Act.createTyped i flags value receiver
  | createMap i value asMap => env.createMap i value asMap
  | rebind p _ receiver => Act.rebind p receiver

/-- The stretches of the wrap in which probes run, if it begins with an inspection. -/
def probeRuns (s : Session Code Client) : Wrap → List (Session Code Client × Session Code Client)
  | create i value | createBound i value _ | createMap i value _ => env.bridgeProbeRuns i value s
  | createTyped .. | rebind .. => []

/-- What the wrap itself adds to the events of a kind, which leaves out what is added inside its
probes. -/
def adds (w : Wrap) (s : Session Code Client) (kind : Event → Bool) : Int :=
  gained kind (s, (w.act env).after s) - gainedIn kind (w.probeRuns env s)

/-- The wrap reports a proxy, once, if it succeeds; and that it failed, once, if it fails. -/
def ReportsOnce (w : Wrap) (s : Session Code Client) : Prop :=
  match w.act env s with
  | .ok _ _ => w.adds env s Event.isCreation = 1 ∧ w.adds env s Event.isFailure = 0
  | .error _ _ => w.adds env s Event.isCreation = 0 ∧ w.adds env s Event.isFailure = 1

/-- Without an inspection the log is still what it was when the stages after it begin. -/
theorem told_uninspected {act : Act Code Client ProxyError Nat}
    {Q : Nat → Session Code Client → Prop} {E : ProxyError → Session Code Client → Prop}
    {s : Session Code Client}
    (h : Act.Ensures (Told (s.reports Event.isCreation) (s.reports Event.isFailure)) act Q E) :
    Act.Ensures (fun s' => s' = s) act Q E :=
  h.mono (fun _ hs => hs ▸ ⟨rfl, rfl⟩) (fun _ _ hs => hs) fun _ _ hs => hs

theorem told_act (w : Wrap) (s : Session Code Client) :
    Act.Ensures (fun s' => s' = s) (w.act env)
      (fun _ => Told
        (s.reports Event.isCreation + gainedIn Event.isCreation (w.probeRuns env s) + 1)
        (s.reports Event.isFailure + gainedIn Event.isFailure (w.probeRuns env s)))
      fun _ => Told
        (s.reports Event.isCreation + gainedIn Event.isCreation (w.probeRuns env s))
        (s.reports Event.isFailure + gainedIn Event.isFailure (w.probeRuns env s) + 1) := by
  cases w with
  | create i value =>
    exact Act.told_reporting value <|
      (env.told_capabilities i value s).bind fun flags =>
        Act.told_shapeAndBuild i flags value none none
  | createBound i value receiver =>
    exact Act.told_reporting value <|
      (env.told_capabilities i value s).bind fun flags =>
        Act.told_shapeAndBuild i flags value (some receiver) none
  | createTyped i flags value receiver =>
    simp only [probeRuns, gainedIn, Int.add_zero]
    exact told_uninspected <| Act.told_reporting value <|
      Act.told_shapeAndBuild i flags value receiver none
  | createMap i value asMap =>
    -- what goes wrong in the inspection is reported before the typed wrap begins
    refine (Act.told_reporting value (env.told_capabilities i value s)).bind fun flags => ?_
    exact Act.told_reporting value <| Act.told_shapeAndBuild i _ value none none
  | rebind p canBind receiver =>
    simp only [probeRuns, gainedIn, Int.add_zero]
    have hSlot : p.shape.require Slots.bind = .ok () := if_pos canBind
    refine told_uninspected <| Act.Ensures.bind (Act.Ensures.ofExcept ?_ ?_) fun _ =>
      Act.told_reporting p.value <|
        Act.told_shapeAndBuild p.bridge p.shape.flags p.value (some receiver) (some p.shape)
    · exact fun _ _ _ hs => hs
    · intro e he
      cases hSlot.symm.trans he

/-- **Every wrap reports its end exactly once**, in any session and with any foreign code. -/
theorem reports_once (w : Wrap) (s : Session Code Client) : w.ReportsOnce env s := by
  have hTold := told_act env w s s rfl
  rw [ReportsOnce, adds, adds, gained, gained, Act.after]
  cases hRun : w.act env s with
  | ok id s' =>
    rw [hRun] at hTold
    have hMade := hTold.made
    have hFailed := hTold.failed
    dsimp only
    omega
  | error e s' =>
    rw [hRun] at hTold
    have hMade := hTold.made
    have hFailed := hTold.failed
    dsimp only
    omega

end Wrap

end ProxyBridge
