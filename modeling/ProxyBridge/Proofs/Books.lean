import ProxyBridge.Proofs.Limits
import ProxyBridge.Proofs.Maintaining
import ProxyBridge.Proofs.Wrapping

/-!
# Books

The books of a session are its bridges, its proxies, and what the client keeps. An operation itself
changes the books in few ways: its bridge looks shapes up, a proxy joins as the last thing that is
done, or a bridge is opened. All else that happens to the books while it is under way, foreign code
does. So a condition on the books that foreign code keeps has to be looked at in few places.

## Results

* `Books`, `Session.books` — the books of a session.
* `Act.Leads`, `Act.Preserves` — what an action does to a condition on the books.
* `Books.Rules` — what a condition has to allow for.
* `Command.leads_perform`, `Limits.leads_perform` — every command keeps a condition that allows for
  it.
-/

namespace ProxyBridge

variable {Code Client ε α β : Type}

/-- The bridges and the proxies of a session, and what the client keeps. -/
structure Books (Code Client : Type) where
  bridges : List (Bridge Code)
  proxies : Dict Nat Proxy
  nextProxy : Nat
  client : Client

namespace Session

/-- The books of a session. -/
def books (s : Session Code Client) : Books Code Client :=
  { bridges := s.bridges, proxies := s.proxies, nextProxy := s.nextProxy, client := s.client }

theorem books_letGo (s : Session Code Client) (h : Handle) : (s.letGo h).books = s.books := rfl

theorem books_letGo? (s : Session Code Client) (r : Option Handle) :
    (s.letGo? r).books = s.books := by
  cases r <;> rfl

end Session

namespace Books

/-- The books with another bridge in a place. -/
def setBridge (b : Books Code Client) (i : Nat) (bridge : Bridge Code) : Books Code Client :=
  { b with bridges := b.bridges.set i bridge }

/-- The books with one more proxy. -/
def withProxy (b : Books Code Client) (p : Proxy) : Books Code Client :=
  { b with proxies := b.proxies.insert b.nextProxy p, nextProxy := b.nextProxy + 1 }

variable {P : Books Code Client → Prop} {i : Nat}

/-- The condition does not depend on the registry of a bridge. -/
def AllowsLookUp (P : Books Code Client → Prop) (i : Nat) : Prop :=
  ∀ {b : Books Code Client} {bridge : Bridge Code} (registry : Registry),
    P b → b.bridges[i]? = some bridge → P (b.setBridge i { bridge with registry })

/-- The condition stays true if a bridge is opened. -/
def AllowsOpening (P : Books Code Client → Prop) : Prop :=
  ∀ {b : Books Code Client} {bridge : Bridge Code},
    P b → bridge.heap = .new bridge.config.heap.maxLive →
      P { b with bridges := b.bridges ++ [bridge] }

/-- The condition allows for what an operation of a bridge does, and tells what is true after a
proxy has joined. -/
structure Rules (P : Books Code Client → Prop) (i : Nat) (Q : Nat → Books Code Client → Prop) :
    Prop where
  lookUp : AllowsLookUp P i
  join : ∀ {b : Books Code Client} {bridge : Bridge Code} {heap : Heap} {p : Proxy},
    P b → b.bridges[i]? = some bridge → bridge.heap.reserve = .ok heap → p.bridge = i →
      Q b.nextProxy ((b.setBridge i { bridge with heap }).withProxy p)

/-- What is true after an operation whose result may be a new proxy. -/
def After (P : Books Code Client → Prop) (Q : Nat → Books Code Client → Prop) :
    Option Nat → Books Code Client → Prop
  | none => P
  | some id => Q id

end Books

namespace Act

/-- From books of one condition the action leads to books of another one, or it fails and the books
are still of the first. -/
def Leads (P : Books Code Client → Prop) (act : Act Code Client ε α)
    (Q : α → Books Code Client → Prop) : Prop :=
  Ensures (fun s => P s.books) act (fun a s => Q a s.books) fun _ s => P s.books

/-- The action keeps a condition on the books, whether it succeeds or fails. -/
def Preserves (P : Books Code Client → Prop) (act : Act Code Client ε α) : Prop :=
  act.Leads P fun _ => P

variable {P : Books Code Client → Prop} {Q : α → Books Code Client → Prop}
  {R : β → Books Code Client → Prop} {act : Act Code Client ε α}

namespace Leads

theorem bind {f : α → Act Code Client ε β} (h : act.Leads P fun _ => P)
    (hf : ∀ a, (f a).Leads P R) : (act >>= f).Leads P R :=
  Ensures.bind h hf

/-- A result that is passed on. -/
theorem map {g : α → β} (h : act.Leads P Q) (hg : ∀ a b, Q a b → R (g a) b) :
    Leads P (act >>= fun a => pure (g a)) R :=
  Ensures.bind h fun a s hs => hg a s.books hs

/-- What is done after a failure does not touch the books. -/
theorem onError {f : ε → Session Code Client → Session Code Client} (h : act.Leads P Q)
    (hf : ∀ e s, (f e s).books = s.books) : (act.onError f).Leads P Q :=
  Ensures.onError <| Ensures.mono h (fun _ hs => hs) (fun _ _ hs => hs) fun e s hs => by
    rw [hf]
    exact hs

theorem holding (h : Handle) (hAct : act.Leads P Q) : (Act.holding h act).Leads P Q := by
  intro s hs
  have hRun := hAct (s.adopt h) hs
  rw [Act.holding]
  cases hr : act (s.adopt h) with
  | ok a s' =>
    rw [hr] at hRun
    exact hRun
  | error e s' =>
    rw [hr] at hRun
    exact hRun

theorem reporting {act : Act Code Client ProxyError α} (value : Handle) (h : act.Leads P Q) :
    (Act.reporting value act).Leads P Q :=
  h.onError fun _ _ => rfl

end Leads

namespace Preserves

theorem pure (a : α) : Preserves P (Pure.pure a : Act Code Client ε α) := fun _ hs => hs

theorem throw (e : ε) : Preserves P (MonadExcept.throw e : Act Code Client ε α) := fun _ hs => hs

theorem get_bind {f : Session Code Client → Act Code Client ε α} (h : ∀ s, (f s).Preserves P) :
    Preserves P (MonadState.get >>= f) :=
  fun s hs => h s s hs

theorem ofExcept (r : Except ε α) : (Act.ofExcept r : Act Code Client ε α).Preserves P :=
  Ensures.ofExcept (fun _ _ _ hs => hs) fun _ _ _ hs => hs

end Preserves

/-- What happens to references, values and members is not in the books. -/
theorem stable_books : Session.Stable fun s : Session Code Client => P s.books where
  retain hs _ := hs
  release _ hs := hs
  insert _ hs := hs
  owners _ hs := hs
  putMember _ _ _ hs := hs
  dropMember _ _ hs := hs
  report _ hs := hs

end Act

/-- All foreign code keeps a condition on the books. -/
structure Environment.Preserves (P : Books Code Client → Prop) (env : Environment Code Client) :
    Prop where
  run : ∀ code receiver args, (env.run code receiver args).Preserves P
  decide : ∀ code h detected, (env.decide code h detected).Preserves P

theorem Environment.Preserves.maintains {env : Environment Code Client}
    {P : Books Code Client → Prop} (hEnv : env.Preserves P) :
    env.Maintains fun s => P s.books :=
  ⟨hEnv.run, hEnv.decide⟩

open Act

/-! ## Wrapping -/

namespace Act

variable {P : Books Code Client → Prop} {Q : Nat → Books Code Client → Prop} {i : Nat}

theorem preserves_resolveShape (h : Books.AllowsLookUp P i) (flags : Capabilities)
    (hint : Option Shape) :
    (resolveShape i flags hint : Act Code Client ProxyError Shape).Preserves P := by
  intro s hs
  cases hb : s.bridges[i]? with
  | none =>
    rw [resolveShape_none hb]
    exact hs
  | some bridge =>
    obtain ⟨⟨answer, registry, events⟩, hr⟩ :
        ∃ r, bridge.registry.answer bridge.catalog s.timing flags hint = r := ⟨_, rfl⟩
    rw [resolveShape_some hb hr]
    have hAfter := h registry hs hb
    cases answer with
    | ok shape => exact hAfter
    | error e => exact hAfter

theorem leads_reserve (h : Books.Rules P i Q) (p : Proxy) (hp : p.bridge = i) :
    (reserve i : Act Code Client ProxyError Unit).Leads P
      fun _ b => Q b.nextProxy (b.withProxy p) := by
  intro s hs
  rw [reserve]
  cases hb : s.bridges[i]? with
  | none => exact hs
  | some bridge =>
    dsimp only
    cases hh : bridge.heap.reserve with
    | error e => exact hs
    | ok heap => exact h.join hs hb hh hp

theorem leads_build (h : Books.Rules P i Q) (shape : Shape) (value : Handle)
    (receiver : Option Handle) :
    (build i shape value receiver : Act Code Client ProxyError Nat).Leads P Q := by
  have hReceiver : ((foreign (ownReceiver receiver)).onError fun _ s => s.letGo value :
      Act Code Client ProxyError Unit).Leads P fun _ => P :=
    Leads.onError (stable_books.maintains_ownReceiver receiver).foreign fun _ s =>
      s.books_letGo value
  have hReserve : ((reserve i).onError fun _ s => (s.letGo? receiver).letGo value :
      Act Code Client ProxyError Unit).Leads P fun _ b =>
        Q b.nextProxy (b.withProxy { bridge := i, shape, value, receiver }) :=
    (leads_reserve h _ rfl).onError fun _ s => s.books_letGo? receiver
  refine Leads.bind (stable_books.maintains_own value).foreign fun _ => hReceiver.bind fun _ =>
    Ensures.bind hReserve fun _ => ?_
  -- what is left reports the proxy and lets it join
  exact fun s hs => hs

theorem leads_shapeAndBuild (h : Books.Rules P i Q) (flags : Capabilities) (value : Handle)
    (receiver : Option Handle) (hint : Option Shape) :
    (shapeAndBuild i flags value receiver hint : Act Code Client ProxyError Nat).Leads P Q :=
  (preserves_resolveShape h.lookUp flags hint).bind fun shape => leads_build h shape value receiver

theorem leads_createTyped (h : Books.Rules P i Q) (flags : Capabilities) (value : Handle)
    (receiver : Option Handle) :
    (createTyped i flags value receiver : Act Code Client ProxyError Nat).Leads P Q :=
  (leads_shapeAndBuild h flags value receiver none).reporting value

theorem leads_rebind {p : Proxy} (h : Books.Rules P p.bridge Q) (receiver : Handle) :
    (rebind p receiver : Act Code Client ProxyError Nat).Leads P Q :=
  Leads.bind (maintains_require p _) fun _ =>
    (leads_shapeAndBuild h p.shape.flags p.value (some receiver) (some p.shape)).reporting p.value

/-! ## Opening bridges -/

theorem preserves_prewarm (h : Books.AllowsLookUp P i) (masks : List Capabilities) :
    (prewarm i masks : Act Code Client ProxyError Unit).Preserves P := by
  induction masks with
  | nil => exact Preserves.pure ()
  | cons mask rest ih => exact (preserves_resolveShape h mask none).bind fun _ => ih

theorem preserves_openBridge (h : Books.AllowsOpening P) (catalog : Catalog Code)
    (config : Config) :
    (openBridge catalog config : Act Code Client ProxyError Nat).Preserves P := by
  intro s hs
  cases hr : Registry.new catalog s.bridges.length config.registry.maxShapes with
  | error e =>
    rw [openBridge_error hr]
    exact hs
  | ok registry =>
    rw [openBridge_ok hr]
    -- whether or not all shapes are composed, one bridge has joined, with a registry of its own
    let Opened (b : Books Code Client) : Prop := ∃ registry, b = { s.books with
      bridges := s.bridges ++ [{ config, catalog, registry, heap := .new config.heap.maxLive }] }
    have hLookUp : Books.AllowsLookUp Opened s.bridges.length := by
      rintro _ bridge registry ⟨_, rfl⟩ hb
      rw [List.getElem?_concat_length, Option.some.injEq] at hb
      subst hb
      refine ⟨registry, ?_⟩
      simp [Books.setBridge]
    have hAll := (preserves_prewarm hLookUp config.registry.prewarm).bind
      (R := fun _ => Opened) fun _ => Preserves.pure s.bridges.length
    refine (hAll.mono (fun _ h => h) ?_ ?_) _ ⟨registry, rfl⟩
    · rintro _ s' ⟨_, hs'⟩
      show P s'.books
      rw [hs']
      exact h hs rfl
    · rintro _ s' ⟨_, hs'⟩
      show P s'.books
      rw [hs']
      exact h hs rfl

end Act

namespace Environment.Preserves

variable {env : Environment Code Client} {P : Books Code Client → Prop}
  {Q : Nat → Books Code Client → Prop} {i : Nat}

theorem createWith (hEnv : env.Preserves P) (h : Books.Rules P i Q) (value : Handle)
    (receiver : Option Handle) : (env.createWith i value receiver).Leads P Q :=
  Leads.reporting value <|
    Leads.bind (maintains_capabilities stable_books hEnv.maintains i value) fun flags =>
      leads_shapeAndBuild h flags value receiver none

theorem createMap (hEnv : env.Preserves P) (h : Books.Rules P i Q) (value : Handle)
    (asMap : Bool) : (env.createMap i value asMap).Leads P Q :=
  Leads.bind ((maintains_capabilities stable_books hEnv.maintains i value).reporting
    fun _ _ hs => hs) fun _ => leads_createTyped h _ value none

/-! ## What proxies do -/

theorem toHost (hEnv : env.Preserves P) (h : Books.Rules P i Q) (value : Handle) :
    (env.toHost i value).Leads P fun v => Books.After P Q v.proxy? := by
  refine Leads.bind (maintains_tagOf value).foreign fun tag => ?_
  have hWrap : Leads P (do return HostValue.proxy (← env.create i value))
      fun v => Books.After P Q v.proxy? :=
    (hEnv.createWith h value none).map fun _ _ hb => hb
  cases tag with
  | undefined => exact fun s hs => hs
  | null => exact fun s hs => hs
  | _ => exact hWrap

variable {p : Proxy}

theorem call (hEnv : env.Preserves P) (h : Books.Rules P p.bridge Q) (args : List Handle) :
    (env.call p args).Leads P fun v => Books.After P Q v.proxy? :=
  Leads.bind (maintains_require p _) fun _ =>
    Leads.bind (maintains_invoke stable_books hEnv.maintains p.value p.receiver args).foreign
      fun result => (hEnv.toHost h result).holding result

theorem getAttr (hEnv : env.Preserves P) (h : Books.Rules P p.bridge Q) (name : String) :
    (env.getAttr p name).Leads P fun v => Books.After P Q v.proxy? := by
  refine Leads.bind (maintains_require p _) fun _ =>
    Leads.bind (maintains_member stable_books hEnv.maintains p.value (.named name)).foreign
      fun found => ?_
  cases found with
  | none => exact fun s hs => hs
  | some member =>
    refine Leads.holding member (Leads.bind (maintains_tagOf member).foreign fun tag => ?_)
    split
    · exact (hEnv.createWith h member (some p.value)).map fun _ _ hb => hb
    · exact hEnv.toHost h member

theorem getItem (hEnv : env.Preserves P) (h : Books.Rules P p.bridge Q) (name : String) :
    (env.getItem p name).Leads P fun v => Books.After P Q v.proxy? := by
  refine Leads.bind (maintains_require p _) fun _ =>
    Leads.bind (maintains_member stable_books hEnv.maintains p.value (.named name)).foreign
      fun found => ?_
  cases found with
  | none => exact fun s hs => hs
  | some item => exact (hEnv.toHost h item).holding item

end Environment.Preserves

/-! ## Commands -/

/-- **Every command keeps a condition on the books**, if the condition allows for what the bridge of
the command does, and foreign code keeps it. -/
theorem Command.leads_perform {env : Environment Code Client} {c : Command Code}
    {P : Books Code Client → Prop} {Q : Nat → Books Code Client → Prop} (hEnv : env.Preserves P)
    (hSpares : c.Spares) (hOpening : Books.AllowsOpening P)
    (hRules : ∀ i ∈ c.bridge?, Books.Rules P i Q) :
    (c.perform env).Leads P fun r => Books.After P Q r.proxy? := by
  have hDone {ε α : Type} {act : Act Code Client ε α} {r : α → Reply Code}
      (h : act.Preserves P) (hr : ∀ a, (r a).proxy? = none) :
      Leads P (act >>= fun a => pure (r a)) fun r => Books.After P Q r.proxy? :=
    Leads.map h fun a b hb => by
      rw [hr]
      exact hb
  have hStable : Session.Stable fun s : Session Code Client => P s.books := stable_books
  have hLook := hEnv.maintains
  cases c with
  | destroy id => exact hSpares.elim
  | openBridge catalog config =>
    exact hDone (preserves_openBridge hOpening catalog config) fun _ => rfl
  | insert o => exact hDone (fun _ hs => hs) fun _ => rfl
  | duplicate h => exact hDone (hStable.maintains_duplicate h).foreign fun _ => rfl
  | release h => exact hDone (hStable.maintains_release h) fun _ => rfl
  | tag h => exact hDone (maintains_tagOf h).foreign fun _ => rfl
  | hasMethod h k =>
    exact hDone (env.maintains_hasMethod hStable hLook h k).foreign fun _ => rfl
  | number h name => exact hDone (env.maintains_number hStable hLook h name).foreign fun _ => rfl
  | member h k => exact hDone (env.maintains_member hStable hLook h k).foreign fun _ => rfl
  | setMember h k v => exact hDone (hStable.maintains_setMember h k v).foreign fun _ => rfl
  | deleteMember h k => exact hDone (hStable.maintains_deleteMember h k).foreign fun _ => rfl
  | memberNames h => exact hDone (maintains_memberNames h).foreign fun _ => rfl
  | invoke f receiver args =>
    exact hDone (env.maintains_invoke hStable hLook f receiver args).foreign fun _ => rfl
  | own h => exact hDone (hStable.maintains_own h).foreign fun _ => rfl
  | adopt h => exact fun _ hs => hs
  | letGo h => exact fun _ hs => hs
  | capabilities i h => exact hDone (env.maintains_capabilities hStable hLook i h) fun _ => rfl
  | resolve i flags hint =>
    exact hDone (preserves_resolveShape (hRules i rfl).lookUp flags hint) fun _ => rfl
  | create i h receiver => exact (hEnv.createWith (hRules i rfl) h receiver).map fun _ _ hb => hb
  -- a new proxy joins as the last thing that is done
  | createTyped i flags h receiver =>
    exact (leads_createTyped (hRules i rfl) flags h receiver).map fun _ _ hb => hb
  | createMap i h asMap => exact (hEnv.createMap (hRules i rfl) h asMap).map fun _ _ hb => hb
  | rebind p receiver => exact (leads_rebind (hRules _ rfl) receiver).map fun _ _ hb => hb
  | call p args => exact (hEnv.call (hRules _ rfl) args).map fun _ _ hb => hb
  | len p => exact hDone (env.maintains_len hStable hLook p) fun _ => rfl
  | isEmpty p => exact hDone (env.maintains_isEmpty hStable hLook p) fun _ => rfl
  | getAttr p name => exact (hEnv.getAttr (hRules _ rfl) name).map fun _ _ hb => hb
  | setAttr p name v => exact hDone (hStable.maintains_setAttr p name v) fun _ => rfl
  | getItem p name => exact (hEnv.getItem (hRules _ rfl) name).map fun _ _ hb => hb
  | setItem p name v => exact hDone (hStable.maintains_setItem p name v) fun _ => rfl
  | deleteItem p name => exact hDone (hStable.maintains_deleteItem p name) fun _ => rfl
  | hasItem p name => exact hDone (maintains_hasItem p name) fun _ => rfl
  | keys p => exact hDone (maintains_keys p) fun _ => rfl
  | look => exact fun _ hs => hs

/-- Limits from outside make no difference to that. -/
theorem Limits.leads_perform {x : Limits} {env : Environment Code Client} {c : Command Code}
    {P : Books Code Client → Prop} {Q : Nat → Books Code Client → Prop} (hEnv : env.Preserves P)
    (hSpares : c.Spares) (hOpening : Books.AllowsOpening P)
    (hRules : ∀ i ∈ c.bridge?, Books.Rules P i Q) :
    (x.perform env c).Leads P fun r => Books.After P Q r.proxy? := by
  intro s hs
  have hAdjusted : (x.adjust s.bridges.length c).Spares := by cases c <;> exact hSpares
  refine Command.leads_perform hEnv hAdjusted hOpening (fun i hi => hRules i ?_) s hs
  cases c <;> exact hi

end ProxyBridge
