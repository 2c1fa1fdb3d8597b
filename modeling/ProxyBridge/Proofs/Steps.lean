import Mathlib.Logic.Relation
import ProxyBridge.Proofs.Maintaining
import ProxyBridge.Proofs.Wrapping

/-!
# Small steps

Every operation changes a session in small steps: a reference is taken or given back, a member is
stored, a shape is resolved, a proxy joins or leaves. Foreign code that runs in between can do
nothing else. So what every small step keeps is kept by every operation, at every moment and at
any depth, and a proof about whole runs has to look at small steps only.

Two of the steps depend on where a shape comes from. A registry takes a hint for an answer only if
somebody had it at hand, and a proxy gets a shape only from its registry.

## Results

* `Session.Step`, `Session.Path` — one small step, and any number of them.
* `Act.Walks` — whatever the action does, it does by small steps.
* `Act.walks_createTyped`, `Act.path_rebind` — operations that run no foreign code.
* `Environment.Walks.inspect`, `Environment.Walks.createMap`, `Environment.Walks.toHost` — an
  operation walks if the foreign code that it runs does.
-/

namespace ProxyBridge

variable {Code Client ε α β : Type} {known : Client → List Shape}

namespace Session

/-- Somebody has the shape at hand: the client knows it, or a live proxy has it. -/
def Circulates (known : Client → List Shape) (s : Session Code Client) (shape : Shape) : Prop :=
  shape ∈ known s.client ∨ ∃ p ∈ s.proxies, p.2.shape = shape

/-- The registry of a bridge can answer with the shape: it has bound the shape to a mask, or it gets
the shape as a hint and takes it for its own. -/
def Offers (known : Client → List Shape) (s : Session Code Client) (i : Nat) (shape : Shape) :
    Prop :=
  ∃ b, s.bridges[i]? = some b ∧
    ((∃ flags, b.registry.get? flags = some shape) ∨
      b.registry.owns shape = true ∧ s.Circulates known shape)

/-- One small step. -/
inductive Step (known : Client → List Shape) (s : Session Code Client) :
    Session Code Client → Prop where
  | log (log : List Event) : Step known s { s with log }
  /-- The client changes its mind. A shape that is new to it comes from a registry or a proxy. -/
  | client (c : Client)
    (hc : ∀ shape ∈ known c, s.Circulates known shape ∨ ∃ i, s.Offers known i shape) :
    Step known s { s with client := c }
  | owners (owned : List Handle) : Step known s { s with owned }
  | insert (o : Object Code) (ho : o.members.Ordered) :
    Step known s { s with table := (s.table.insert o).2 }
  | retain {h : Handle} {t : Table Code} (ht : s.table.retain h = .ok t) :
    Step known s { s with table := t }
  | release (h : Handle) : Step known s { s with table := (s.table.release h).1 }
  | putMember (h : Handle) (k : Key) (v : Handle) :
    Step known s { s with table := s.table.putMember h k (.data (.handle v)) }
  | dropMember (h : Handle) (k : Key) : Step known s { s with table := s.table.dropMember h k }
  | openBridge {b : Bridge Code}
    (hr : Registry.new b.catalog s.bridges.length b.config.registry.maxShapes = .ok b.registry)
    (hh : b.heap = .new b.config.heap.maxLive) :
    Step known s { s with bridges := s.bridges ++ [b] }
  | resolve {i : Nat} {b : Bridge Code} (hb : s.bridges[i]? = some b) (flags : Capabilities) :
    Step known s (s.setBridge i
      { b with registry := (b.registry.resolve b.catalog s.timing flags).2.1 })
  /-- A hint is the answer. -/
  | reuse {i : Nat} {b : Bridge Code} {hint : Shape} (hb : s.bridges[i]? = some b)
    (hOwn : b.registry.owns hint = true) (hc : s.Circulates known hint) :
    Step known s (s.setBridge i
      { b with registry := { b.registry with hintHits := b.registry.hintHits + 1 } })
  | reserve {i : Nat} {b : Bridge Code} {heap : Heap} (hb : s.bridges[i]? = some b)
    (hh : b.heap.reserve = .ok heap) : Step known s (s.setBridge i { b with heap })
  | freeCell {i : Nat} {b : Bridge Code} (hb : s.bridges[i]? = some b) :
    Step known s (s.setBridge i { b with heap := b.heap.free })
  /-- A new proxy, with a shape of its registry. -/
  | join {p : Proxy} (hp : s.Offers known p.bridge p.shape) :
    Step known s
      { s with proxies := s.proxies.insert s.nextProxy p, nextProxy := s.nextProxy + 1 }
  | leave (id : Nat) : Step known s { s with proxies := s.proxies.erase id }

/-- Any number of small steps. -/
abbrev Path (known : Client → List Shape) : Session Code Client → Session Code Client → Prop :=
  Relation.ReflTransGen (Step known)

/-- What every small step keeps is kept on every path. -/
theorem Path.induct {P : Session Code Client → Prop} {s s' : Session Code Client}
    (h : Path known s s') (hs : P s) (hStep : ∀ s s', Step known s s' → P s → P s') : P s' := by
  induction h with
  | refl => exact hs
  | tail _ hLast ih => exact hStep _ _ hLast ih

variable {s s' : Session Code Client}

theorem path_emit (s : Session Code Client) (e : Event) : Path known s (s.emit e) :=
  .single (.log _)

theorem path_emitAll (s : Session Code Client) (es : List Event) :
    Path known s (s.emitAll es) :=
  .single (.log _)

theorem path_release (s : Session Code Client) (h : Handle) : Path known s (s.release h) := by
  -- the whole cascade is one step: no foreign code runs while it goes on
  rw [Session.release]
  exact (Relation.ReflTransGen.single (.release h)).tail (.log _)

theorem path_letGo (s : Session Code Client) (h : Handle) : Path known s (s.letGo h) := by
  rw [Session.letGo]
  have hOwners : Path known s { s with owned := s.owned.erase h } := .single (.owners _)
  exact (hOwners.trans (path_release _ h)).trans (path_emit _ _)

theorem path_letGo? (s : Session Code Client) (r : Option Handle) :
    Path known s (s.letGo? r) := by
  cases r with
  | none => exact .refl
  | some h => exact path_letGo s h

theorem path_freeCell (s : Session Code Client) (i : Nat) : Path known s (s.freeCell i) := by
  rw [Session.freeCell]
  cases hb : s.bridges[i]? with
  | none => exact .refl
  | some b => exact .single (.freeCell hb)

/-- What is done to references, values and members is done by small steps. -/
theorem stable_path (s₀ : Session Code Client) : Stable (Path known s₀) where
  retain hs ht := hs.tail (.retain ht)
  release h hs := hs.trans (path_release _ h)
  insert ho hs := (hs.tail (.insert _ ho)).trans (path_emit _ _)
  owners owned hs := hs.tail (.owners owned)
  putMember h k v hs := hs.tail (.putMember h k v)
  dropMember h k hs := hs.tail (.dropMember h k)
  report _ hs := hs.trans (path_emit _ _)

end Session

/-! ## Actions that walk -/

namespace Act

open Session

/-- Whatever the action does, it does by small steps. -/
def Walks (known : Client → List Shape) (act : Act Code Client ε α) : Prop :=
  ∀ s₀, Ensures (Path known s₀) act (fun _ => Path known s₀) fun _ => Path known s₀

namespace Walks

variable {act : Act Code Client ε α}

theorem after (h : act.Walks known) (s : Session Code Client) : Path known s (act.after s) :=
  (h s).after .refl

theorem path_ok {a : α} {s s' : Session Code Client} (h : act.Walks known)
    (hRun : act s = .ok a s') : Path known s s' := by
  have hPath := h.after s
  rwa [Act.after, hRun] at hPath

theorem foldlM {γ : Type} {f : β → γ → Act Code Client ε β} (h : ∀ b c, (f b c).Walks known)
    (l : List γ) (b : β) : (l.foldlM f b).Walks known :=
  fun s₀ => Maintains.foldlM (fun b c => h b c s₀) l b

theorem holding (h : Handle) (hAct : act.Walks known) : (Act.holding h act).Walks known :=
  fun s₀ => (stable_path s₀).maintains_holding h (hAct s₀)

end Walks

/-! ## References and members -/

theorem walks_insert {o : Object Code} (ho : o.members.Ordered) :
    (insert o : Act Code Client ε Handle).Walks known :=
  fun s₀ => (stable_path s₀).maintains_insert ho

theorem walks_materialize (v : Value) :
    (materialize v : Act Code Client ForeignError Handle).Walks known :=
  fun s₀ => (stable_path s₀).maintains_materialize v

theorem walks_setMember (h : Handle) (k : Key) (v : Handle) :
    (setMember h k v : Act Code Client ForeignError Unit).Walks known :=
  fun s₀ => (stable_path s₀).maintains_setMember h k v

theorem walks_setAttr (p : Proxy) (name : String) (v : Handle) :
    (setAttr p name v : Act Code Client ProxyError Unit).Walks known :=
  fun s₀ => (stable_path s₀).maintains_setAttr p name v

theorem walks_setItem (p : Proxy) (name : String) (v : Handle) :
    (setItem p name v : Act Code Client ProxyError Unit).Walks known :=
  fun s₀ => (stable_path s₀).maintains_setItem p name v

theorem walks_deleteItem (p : Proxy) (name : String) :
    (deleteItem p name : Act Code Client ProxyError Unit).Walks known :=
  fun s₀ => (stable_path s₀).maintains_deleteItem p name

end Act

/-- All foreign code walks. -/
structure Environment.Walks (known : Client → List Shape) (env : Environment Code Client) :
    Prop where
  run : ∀ code receiver args, (env.run code receiver args).Walks known
  decide : ∀ code h detected, (env.decide code h detected).Walks known

open Act Session

namespace Environment

variable {env : Environment Code Client}

theorem Walks.maintains (hEnv : env.Walks known) (s₀ : Session Code Client) :
    env.Maintains (Path known s₀) :=
  ⟨fun code receiver args => hEnv.run code receiver args s₀,
    fun code h detected => hEnv.decide code h detected s₀⟩

/-! ## Reading, calling and looking -/

theorem Walks.read (hEnv : env.Walks known) (h : Handle) (k : Key) : (env.read h k).Walks known :=
  fun s₀ => maintains_read (stable_path s₀) (hEnv.maintains s₀) h k

theorem Walks.member (hEnv : env.Walks known) (h : Handle) (k : Key) :
    (env.member h k).Walks known :=
  fun s₀ => maintains_member (stable_path s₀) (hEnv.maintains s₀) h k

theorem Walks.invoke (hEnv : env.Walks known) (f : Handle) (receiver : Option Handle)
    (args : List Handle) : (env.invoke f receiver args).Walks known :=
  fun s₀ => maintains_invoke (stable_path s₀) (hEnv.maintains s₀) f receiver args

theorem Walks.examine (hEnv : env.Walks known) (h : Handle) (f : Findings)
    (c : Capability Code) : (env.examine h f c).Walks known :=
  fun s₀ => maintains_examine (stable_path s₀) (hEnv.maintains s₀) h f c

theorem Walks.inspect (hEnv : env.Walks known) (catalog : Catalog Code) (h : Handle) :
    (env.inspect catalog h).Walks known :=
  fun s₀ => maintains_inspect (stable_path s₀) (hEnv.maintains s₀) catalog h

theorem Walks.capabilities (hEnv : env.Walks known) (i : Nat) (h : Handle) :
    (env.capabilities i h).Walks known :=
  fun s₀ => maintains_capabilities (stable_path s₀) (hEnv.maintains s₀) i h

end Environment

/-! ## Wrapping -/

namespace Act

/-- On the way, with a shape that the registry of a bridge offers. -/
def Supplied (known : Client → List Shape) (s₀ : Session Code Client) (i : Nat) (shape : Shape)
    (s : Session Code Client) : Prop :=
  Path known s₀ s ∧ s.Offers known i shape

/-- A registry answers with a shape that it offers, if it gets no hint but one that circulates. -/
theorem ensures_resolveShape (i : Nat) (flags : Capabilities) (hint : Option Shape)
    (s₀ : Session Code Client) :
    Ensures (fun s => Path known s₀ s ∧ ∀ shape ∈ hint, s.Circulates known shape)
      (resolveShape i flags hint) (Supplied known s₀ i) fun _ => Path known s₀ := by
  rintro s ⟨hs, hHint⟩
  cases hb : s.bridges[i]? with
  | none =>
    rw [resolveShape, hb]
    exact hs
  | some b =>
    have hLt := (List.getElem?_eq_some_iff.mp hb).1
    -- a request without a hint, and one whose hint does not fit
    have hPlain : ∀ answer registry events,
        b.registry.resolve b.catalog s.timing flags = (answer, registry, events) →
        Path known s₀ ((s.setBridge i { b with registry }).emitAll events) ∧
          ∀ shape, answer = .ok shape →
            ((s.setBridge i { b with registry }).emitAll events).Offers known i shape := by
      intro answer registry events hr
      have hStep : Step known s _ := .resolve hb flags
      rw [hr] at hStep
      refine ⟨(hs.tail hStep).trans (path_emitAll _ events), ?_⟩
      rintro shape rfl
      obtain ⟨-, hAnswer⟩ := Registry.resolve_spec b.catalog s.timing b.registry flags
      rw [hr] at hAnswer
      exact ⟨_, List.getElem?_set_self hLt, Or.inl ⟨flags, hAnswer.2⟩⟩
    rw [resolveShape, hb]
    cases hint with
    | none =>
      dsimp only
      obtain ⟨hPath, hOffers⟩ := hPlain _ _ _ rfl
      cases hAnswer : (b.registry.resolve b.catalog s.timing flags).1 with
      | ok shape => exact ⟨hPath, hOffers shape hAnswer⟩
      | error e => exact hPath
    | some hint =>
      dsimp only
      rw [Registry.resolveWithHint]
      by_cases hFits : hint.flags = flags ∧ b.registry.owns hint = true
      · -- the one place where a shape is not looked up: that it circulates is all that is known
        rw [if_pos hFits]
        have hStep : Step known s _ := .reuse hb hFits.2 (hHint hint rfl)
        exact ⟨hs.tail hStep, _, List.getElem?_set_self hLt,
          Or.inr ⟨hFits.2, hHint hint rfl⟩⟩
      · rw [if_neg hFits]
        obtain ⟨hPath, hOffers⟩ := hPlain _ _ _ rfl
        cases hAnswer : (b.registry.resolve b.catalog s.timing flags).1 with
        | ok shape => exact ⟨hPath, hOffers shape hAnswer⟩
        | error e => exact hPath

theorem walks_resolveShape (i : Nat) (flags : Capabilities) :
    (resolveShape i flags none : Act Code Client ProxyError Shape).Walks known :=
  fun s₀ => (ensures_resolveShape i flags none s₀).mono (fun _ hs => ⟨hs, nofun⟩)
    (fun _ _ hs => hs.1) fun _ _ hs => hs

theorem path_resolveShape {s : Session Code Client} (i : Nat) (flags : Capabilities)
    {hint : Option Shape} (hHint : ∀ shape ∈ hint, s.Circulates known shape) :
    Path known s ((resolveShape i flags hint).after s) := by
  have hPath : Ensures (fun s' => Path known s s' ∧ ∀ shape ∈ hint, s'.Circulates known shape)
      (resolveShape i flags hint) (fun _ => Path known s) fun _ => Path known s :=
    (ensures_resolveShape i flags hint s).mono (fun _ hs => hs) (fun _ _ hs => hs.1)
      fun _ _ hs => hs
  exact hPath.after ⟨.refl, hHint⟩

section Build

variable {s₀ : Session Code Client} {i : Nat} {shape : Shape}

/-- To own a reference is no matter of registries. -/
theorem ensures_own_supplied (h : Handle) :
    Ensures (Supplied known s₀ i shape) (own h : Act Code Client ForeignError Unit)
      (fun _ => Supplied known s₀ i shape) fun _ => Supplied known s₀ i shape := by
  rintro s ⟨hs, hOffers⟩
  cases hd : s.table.duplicate h with
  | error e =>
    rw [own_error hd]
    exact ⟨hs, hOffers⟩
  | ok u =>
    rw [own_ok hd]
    have hRetain := hs.tail (.retain (Table.retain_of_duplicate hd))
    exact ⟨hRetain.tail (.owners (h :: s.owned)), hOffers⟩

theorem ensures_ownReceiver_supplied (r : Option Handle) :
    Ensures (Supplied known s₀ i shape) (ownReceiver r : Act Code Client ForeignError Unit)
      (fun _ => Supplied known s₀ i shape) fun _ => Supplied known s₀ i shape := by
  cases r with
  | none => exact fun _ hs => hs
  | some h => exact ensures_own_supplied h

/-- The cell is taken, and the proxy joins with the shape that is offered. -/
theorem ensures_finishBuild (value : Handle) (receiver : Option Handle) :
    Ensures (Supplied known s₀ i shape)
      (finishBuild i shape value receiver : Act Code Client ProxyError Nat)
      (fun _ => Path known s₀) fun _ => Path known s₀ := by
  rintro s ⟨hs, b, hb, hShape⟩
  cases hHeap : b.heap.hasRoom with
  | true =>
    -- three steps: the cell, the report, and the proxy with a shape that is still offered
    rw [finishBuild_ok hb hHeap]
    have hCell : b.heap.reserve =
        .ok { b.heap with live := b.heap.live + 1, total := b.heap.total + 1 } := by
      rw [Heap.reserve, if_pos (of_decide_eq_true hHeap)]
    have hReserved := (hs.tail (.reserve hb hCell)).tail
      (.log (.proxyCreated shape.name value receiver.isSome :: s.log))
    have hLt := (List.getElem?_eq_some_iff.mp hb).1
    refine hReserved.tail (Step.join (p := { bridge := i, shape, value, receiver }) ?_)
    exact ⟨_, List.getElem?_set_self hLt, hShape⟩
  | false =>
    rw [finishBuild_error hb hHeap]
    exact (hs.trans (path_letGo? s receiver)).trans (path_letGo _ value)

theorem ensures_build (value : Handle) (receiver : Option Handle) :
    Ensures (Supplied known s₀ i shape)
      (build i shape value receiver : Act Code Client ProxyError Nat)
      (fun _ => Path known s₀) fun _ => Path known s₀ := by
  rw [build_eq]
  have hValue : Ensures (Supplied known s₀ i shape)
      (foreign (own value) : Act Code Client ProxyError Unit)
      (fun _ => Supplied known s₀ i shape) fun _ => Path known s₀ :=
    Ensures.foreign <| (ensures_own_supplied value).mono (fun _ hs => hs) (fun _ _ hs => hs)
      fun _ _ hs => hs.1
  have hReceiver : Ensures (Supplied known s₀ i shape)
      ((foreign (ownReceiver receiver)).onError fun _ s => s.letGo value :
        Act Code Client ProxyError Unit)
      (fun _ => Supplied known s₀ i shape) fun _ => Path known s₀ := by
    refine Ensures.onError <| Ensures.foreign <|
      (ensures_ownReceiver_supplied receiver).mono (fun _ hs => hs) (fun _ _ hs => hs) ?_
    intro e s hs
    exact hs.1.trans (path_letGo s value)
  exact hValue.bind fun _ => hReceiver.bind fun _ => ensures_finishBuild value receiver

end Build

theorem ensures_shapeAndBuild (i : Nat) (flags : Capabilities) (value : Handle)
    (receiver : Option Handle) (hint : Option Shape) (s₀ : Session Code Client) :
    Ensures (fun s => Path known s₀ s ∧ ∀ shape ∈ hint, s.Circulates known shape)
      (shapeAndBuild i flags value receiver hint) (fun _ => Path known s₀)
      fun _ => Path known s₀ :=
  (ensures_resolveShape i flags hint s₀).bind fun _ => ensures_build value receiver

theorem walks_shapeAndBuild (i : Nat) (flags : Capabilities) (value : Handle)
    (receiver : Option Handle) :
    (shapeAndBuild i flags value receiver none : Act Code Client ProxyError Nat).Walks known :=
  fun s₀ => (ensures_shapeAndBuild i flags value receiver none s₀).mono
    (fun _ hs => ⟨hs, nofun⟩) (fun _ _ hs => hs) fun _ _ hs => hs

theorem walks_createTyped (i : Nat) (flags : Capabilities) (value : Handle)
    (receiver : Option Handle) :
    (createTyped i flags value receiver : Act Code Client ProxyError Nat).Walks known :=
  fun s₀ => Maintains.reporting (walks_shapeAndBuild i flags value receiver s₀)
    fun _ _ hs => hs.trans (path_emit _ _)

/-- The shape of a live proxy is a hint that circulates. -/
theorem path_rebind {p : Proxy} {s : Session Code Client} (hp : s.Circulates known p.shape)
    (receiver : Handle) : Path known s ((rebind p receiver).after s) := by
  have hWrap : Ensures (fun s' => Path known s s' ∧ s'.Circulates known p.shape)
      (createLike p.bridge p.shape p.value (some receiver))
      (fun _ => Path known s) fun _ => Path known s := by
    refine Ensures.onError <| (ensures_shapeAndBuild p.bridge p.shape.flags p.value
      (some receiver) (some p.shape) s).mono ?_ (fun _ _ hs => hs) ?_
    · rintro s' ⟨hs, hc⟩
      refine ⟨hs, ?_⟩
      intro shape hShape
      cases hShape
      exact hc
    · exact fun e s' hs => hs.trans (path_emit s' _)
  have hRequire : Ensures (fun s' => Path known s s' ∧ s'.Circulates known p.shape)
      (require p Slots.bind : Act Code Client ProxyError Unit)
      (fun _ s' => Path known s s' ∧ s'.Circulates known p.shape) fun _ => Path known s :=
    Ensures.ofExcept (fun _ _ _ hs => hs) fun _ _ _ hs => hs.1
  exact (hRequire.bind fun _ => hWrap).after ⟨.refl, hp⟩

end Act

/-- Whatever operations do, they do by small steps. -/
theorem Session.enduring_path (s₀ : Session Code Client) : Enduring (Path known s₀) where
  toStable := stable_path s₀
  wrap i flags value receiver := walks_shapeAndBuild i flags value receiver s₀
  failed _ _ hs := hs.trans (path_emit _ _)
  resolve i flags := walks_resolveShape i flags s₀
  refuse hs := hs.trans (path_emit _ _)
  openBridge hs hr hh := hs.tail (.openBridge hr hh)
  leave id hs := hs.tail (.leave id)
  freeCell i hs := hs.trans (path_freeCell _ i)

namespace Environment

variable {env : Environment Code Client}

theorem Walks.createMap (hEnv : env.Walks known) (i : Nat) (value : Handle) (asMap : Bool) :
    (env.createMap i value asMap).Walks known :=
  fun s₀ => maintains_createMap (enduring_path s₀) (hEnv.maintains s₀) i value asMap

theorem Walks.toHost (hEnv : env.Walks known) (i : Nat) (h : Handle) :
    (env.toHost i h).Walks known :=
  fun s₀ => maintains_toHost (enduring_path s₀) (hEnv.maintains s₀) i h

end Environment

end ProxyBridge
