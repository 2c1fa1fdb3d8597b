import ProxyBridge.Proofs.Steps

/-!
# Clients

A client makes calls, one after another, and foreign code is a client as well: while it runs, it
makes calls of its own, which may run foreign code again. Nothing is asked of a client. It may name
handles that are dead or were never given out, release what it does not hold, and return a handle
without a reference. What a client does next, and what foreign code returns, may depend on all that
there is at the moment, and on whatever the client remembers.

Calls are commands, on proxies that are alive and with shapes that the client has got. Where a
client names something by its position, the command depends on what is there when its turn comes.

## Results

* `Call.perform`, `Call.performAll` — one call, and a run of calls.
* `Library.environment` — foreign code that makes calls, nested down to any depth.
* `World.Enduring` — a condition that allows for what clients bring and for what they remember.
* `Call.maintains_perform`, `Call.maintains_performAll`, `Library.maintains_environment` — calls,
  runs of them, and foreign code of any depth keep such a condition.
* `Call.path_performAll`, `Library.walks_environment` — every call is a path of small steps.
-/

namespace ProxyBridge

variable {Code Mind α : Type}

/-- What a client remembers. -/
structure Memory (Mind : Type) where
  /-- The shapes that calls have returned. -/
  shapes : List Shape
  mind : Mind

/-- A session with such a client. -/
abbrev World (Code Mind : Type) := Session Code (Memory Mind)

/-- A table, and a client that has done nothing. -/
def World.new (table : Table Code) (timing : Bool) (mind : Mind) : World Code Mind :=
  Session.new table timing { shapes := [], mind }

/-- Remembers a shape. -/
def World.learn (s : World Code Mind) (shape : Shape) : World Code Mind :=
  { s with client := { s.client with shapes := s.client.shapes ++ [shape] } }

/-- Remembers the shape that comes back from a command, if one does. -/
def World.learnFrom (s : World Code Mind) (r : Reply Code) : World Code Mind :=
  match r.shape? with
  | some shape => s.learn shape
  | none => s

namespace Command

/-- A client can give the command: the proxy is alive, the hint is remembered, and the members of
the value are in order. -/
structure Ready (c : Command Code) (s : World Code Mind) : Prop where
  proxy  : ∀ p ∈ c.proxy?, p ∈ s.proxies.values
  hint   : ∀ shape ∈ c.hint?, shape ∈ s.client.shapes
  object : ∀ o ∈ c.object?, o.members.Ordered

instance (c : Command Code) (s : World Code Mind) : Decidable (c.Ready s) :=
  decidable_of_iff ((∀ p ∈ c.proxy?, p ∈ s.proxies.values) ∧
      (∀ shape ∈ c.hint?, shape ∈ s.client.shapes) ∧ ∀ o ∈ c.object?, o.members.Ordered)
    ⟨fun ⟨hProxy, hHint, hObject⟩ => ⟨hProxy, hHint, hObject⟩,
      fun h => ⟨h.proxy, h.hint, h.object⟩⟩

/-- Carries a command out and remembers the shape that comes back. -/
def ask (env : Environment Code (Memory Mind)) (c : Command Code) :
    Act Code (Memory Mind) ProxyError Unit := do
  let r ← c.perform env
  modify (World.learnFrom · r)

/-- The session after a command, whether it succeeds or fails. One that the client cannot give is
left out. -/
def carryOut (env : Environment Code (Memory Mind)) (c : Command Code) (s : World Code Mind) :
    World Code Mind :=
  if c.Ready s then (c.ask env).after s else s

end Command

/-- What a client can ask for. -/
inductive Call (Code Mind : Type) where
  /-- Carries a command out, if the client can give it. -/
  | command (c : Command Code)
  /-- Takes one more reference to what the owned one at a position refers to. -/
  | clone (i : Nat)
  /-- Gives the owned reference at a position back. -/
  | letGo (i : Nat)
  /-- Asks for a shape, with one that the client remembers. -/
  | resolveLike (bridge : Nat) (flags : Capabilities) (n : Nat)
  /-- Asks for a shape that is there already. -/
  | boundShape (bridge : Nat) (flags : Capabilities)
  | shapeOf (id : Nat)
  | think (f : Mind → Mind)

namespace Call

/-- The session after a call. -/
def perform (env : Environment Code (Memory Mind)) (c : Call Code Mind) (s : World Code Mind) :
    World Code Mind :=
  match c with
  | command c => c.carryOut env s
  | clone i =>
    match s.owned[i]? with
    | some h => (Command.own h).carryOut env s
    | none => s
  | letGo i =>
    match s.owned[i]? with
    | some h => (Command.letGo h).carryOut env s
    | none => s
  | resolveLike i flags n =>
    match s.client.shapes[n]? with
    | some hint => (Command.resolve i flags (some hint)).carryOut env s
    | none => s
  | boundShape i flags =>
    match (s.bridges[i]?).bind (·.registry.get? flags) with
    | some shape => s.learn shape
    | none => s
  | shapeOf id =>
    match s.proxies.find? id with
    | some p => s.learn p.shape
    | none => s
  | think f => { s with client := { s.client with mind := f s.client.mind } }

/-- The session after calls, one after another. -/
def performAll (env : Environment Code (Memory Mind)) (calls : List (Call Code Mind))
    (s : World Code Mind) : World Code Mind :=
  calls.foldl (fun s c => c.perform env s) s

end Call

/-- What foreign code does when it runs: calls, and then a result. -/
structure Conduct (Code Mind α : Type) where
  calls : World Code Mind → List (Call Code Mind)
  result : World Code Mind → Except ForeignError α

/-- Makes the calls and returns the result. -/
def Conduct.execute (env : Environment Code (Memory Mind)) (c : Conduct Code Mind α) :
    Act Code (Memory Mind) ForeignError α := fun s =>
  let s' := Call.performAll env (c.calls s) s
  Act.ofExcept (c.result s') s'

/-- What all foreign code does. -/
structure Library (Code Mind : Type) where
  body : Code → Option Handle → List Handle → Conduct Code Mind Value
  probe : Code → Handle → Capabilities → Conduct Code Mind Bool

namespace Library

/-- The conduct of all foreign code, which runs other foreign code. -/
def around (l : Library Code Mind) (env : Environment Code (Memory Mind)) :
    Environment Code (Memory Mind) where
  run code receiver args := (l.body code receiver args).execute env
  decide code h detected := (l.probe code h detected).execute env

/-- Foreign code that runs foreign code down to a depth, where it fails at once. -/
def environment (l : Library Code Mind) (depth : Nat) : Environment Code (Memory Mind) :=
  .toDepth l.around depth

end Library

/-! ## What calls keep -/

open Session

/-- The condition also stays true when clients bring a shape, of a live proxy or one that they
remember, when they remember one more, and when they think. -/
structure World.Enduring (P : World Code Mind → Prop) : Prop extends Session.Enduring P where
  rebind : ∀ {s : World Code Mind} {p : Proxy} (receiver : Handle), p ∈ s.proxies.values → P s →
    P ((Act.rebind p receiver).after s)
  reuse : ∀ {s : World Code Mind} {hint : Shape} (i : Nat) (flags : Capabilities),
    hint ∈ s.client.shapes → P s → P ((Act.resolveShape i flags (some hint)).after s)
  learn : ∀ {s : World Code Mind} {shape : Shape},
    (s.Circulates Memory.shapes shape ∨ ∃ i, s.Offers Memory.shapes i shape) → P s →
      P (s.learn shape)
  think : ∀ {s : World Code Mind} (f : Mind → Mind), P s →
    P { s with client := { s.client with mind := f s.client.mind } }

variable {P : World Code Mind → Prop} {env : Environment Code (Memory Mind)}
  {s s' : World Code Mind}

/-- A shape that comes back from a command is one that a registry offers. -/
theorem Command.Ready.offers {c : Command Code} (hReady : c.Ready s) {r : Reply Code}
    (h : c.perform env s = .ok r s') {shape : Shape} (hShape : r.shape? = some shape) :
    ∃ i, s'.Offers Memory.shapes i shape := by
  obtain ⟨i, flags, hint, rfl, hRun⟩ := Command.shape_of_perform h hShape
  have hStart : Path Memory.shapes s s ∧ ∀ shape ∈ hint, s.Circulates Memory.shapes shape :=
    ⟨.refl, fun shape hHint => Or.inl (hReady.hint shape hHint)⟩
  have hEnd := Act.ensures_resolveShape i flags hint s s hStart
  rw [hRun] at hEnd
  exact ⟨i, hEnd.2⟩

theorem Command.maintains_carryOut (hP : World.Enduring P) (hEnv : env.Maintains P)
    (c : Command Code) (hs : P s) : P (c.carryOut env s) := by
  rw [carryOut]
  split
  · next hReady =>
    have hAfter : P ((c.perform env).after s) := by
      refine c.maintains_perform hP.toEnduring hEnv hReady.object ?_ ?_ hs
      · rintro p receiver rfl
        exact hP.rebind receiver (hReady.proxy p rfl) hs
      · rintro i flags hint rfl
        exact hP.reuse i flags (hReady.hint hint rfl) hs
    rw [Act.after] at hAfter ⊢
    cases hRun : c.perform env s with
    | error e s' =>
      rw [hRun] at hAfter
      rw [ask, Act.bind_error hRun]
      exact hAfter
    | ok r s' =>
      rw [hRun] at hAfter
      rw [ask, Act.bind_ok hRun]
      show P (World.learnFrom s' r)
      rw [World.learnFrom]
      -- the client may remember what it gets, since a registry offers it
      cases hShape : r.shape? with
      | none => exact hAfter
      | some shape => exact hP.learn (Or.inr (hReady.offers hRun hShape)) hAfter
  · exact hs

namespace Call

/-- **Every call keeps a condition that endures**, if the foreign code that it runs does. -/
theorem maintains_perform (hP : World.Enduring P) (hEnv : env.Maintains P) (c : Call Code Mind)
    (hs : P s) : P (c.perform env s) := by
  cases c with
  | command c => exact c.maintains_carryOut hP hEnv hs
  | clone i =>
    rw [perform]
    cases s.owned[i]? with
    | none => exact hs
    | some h => exact Command.maintains_carryOut hP hEnv _ hs
  | letGo i =>
    rw [perform]
    cases s.owned[i]? with
    | none => exact hs
    | some h => exact Command.maintains_carryOut hP hEnv _ hs
  | resolveLike i flags n =>
    rw [perform]
    cases s.client.shapes[n]? with
    | none => exact hs
    | some hint => exact Command.maintains_carryOut hP hEnv _ hs
  | boundShape i flags =>
    -- a lookup changes nothing but what the client knows
    rw [perform]
    cases hShape : (s.bridges[i]?).bind (·.registry.get? flags) with
    | none => exact hs
    | some shape =>
      obtain ⟨b, hb, hBound⟩ := Option.bind_eq_some_iff.mp hShape
      exact hP.learn (Or.inr ⟨i, b, hb, Or.inl ⟨flags, hBound⟩⟩) hs
  | shapeOf id =>
    rw [perform]
    cases hp : s.proxies.find? id with
    | none => exact hs
    | some p => exact hP.learn (Or.inl (Or.inr ⟨_, Dict.mem_of_find? hp, rfl⟩)) hs
  | think f => exact hP.think f hs

/-- Runs of calls keep it as well. -/
theorem maintains_performAll (hP : World.Enduring P) (hEnv : env.Maintains P)
    (calls : List (Call Code Mind)) (hs : P s) : P (performAll env calls s) := by
  -- each call starts where the one before has ended
  induction calls generalizing s with
  | nil => exact hs
  | cons c rest ih => exact ih (c.maintains_perform hP hEnv hs)

end Call

/-- And so does foreign code that makes calls, however deep it runs. -/
theorem Library.maintains_environment (hP : World.Enduring P) (l : Library Code Mind)
    (depth : Nat) : (l.environment depth).Maintains P := by
  have hExecute {α : Type} {env : Environment Code (Memory Mind)} (hEnv : env.Maintains P)
      (c : Conduct Code Mind α) : (c.execute env).Maintains P :=
    fun s hs => Act.Maintains.ofExcept _ _
      (Call.maintains_performAll hP hEnv (c.calls s) hs)
  refine Environment.toDepth_induction ?_ (fun env hEnv => ?_) depth
  · exact ⟨fun _ _ _ => Act.Maintains.throw _, fun _ _ _ => Act.Maintains.throw _⟩
  · exact ⟨fun code receiver args => hExecute hEnv (l.body code receiver args),
      fun code h detected => hExecute hEnv (l.probe code h detected)⟩

/-! ## Calls are paths -/

/-- A client may remember a shape that circulates or that a registry offers. -/
theorem path_learn {shape : Shape}
    (h : s.Circulates Memory.shapes shape ∨ ∃ i, s.Offers Memory.shapes i shape) :
    Path Memory.shapes s (s.learn shape) := by
  refine .single (.client _ ?_)
  intro other hOther
  rcases List.mem_append.mp hOther with hOld | hNew
  · exact Or.inl (Or.inl hOld)
  · rw [List.mem_singleton.mp hNew]
    exact h

/-- Whatever calls do, they do by small steps. -/
theorem World.enduring_path (s₀ : World Code Mind) : World.Enduring (Path Memory.shapes s₀) where
  toEnduring := Session.enduring_path s₀
  rebind {s p} receiver hLive hs := by
    obtain ⟨e, he, rfl⟩ := List.mem_map.mp hLive
    exact hs.trans (Act.path_rebind (Or.inr ⟨e, he, rfl⟩) receiver)
  reuse {s hint} i flags hKnown hs := by
    have hHint : ∀ shape ∈ some hint, s.Circulates Memory.shapes shape := by
      intro shape hShape
      cases hShape
      exact Or.inl hKnown
    exact hs.trans (Act.path_resolveShape i flags hHint)
  learn h hs := hs.trans (path_learn h)
  think _ hs := hs.tail (.client _ fun _ hShape => Or.inl (Or.inl hShape))

/-- A run of calls is a path. -/
theorem Call.path_performAll (hEnv : env.Walks Memory.shapes) (calls : List (Call Code Mind))
    (s : World Code Mind) : Path Memory.shapes s (performAll env calls s) :=
  maintains_performAll (World.enduring_path s) (hEnv.maintains s) calls .refl

/-- Foreign code that makes calls walks, however deep it runs. -/
theorem Library.walks_environment (l : Library Code Mind) (depth : Nat) :
    (l.environment depth).Walks Memory.shapes :=
  ⟨fun code receiver args s₀ =>
      (l.maintains_environment (World.enduring_path s₀) depth).run code receiver args,
    fun code h detected s₀ =>
      (l.maintains_environment (World.enduring_path s₀) depth).decide code h detected⟩

end ProxyBridge
