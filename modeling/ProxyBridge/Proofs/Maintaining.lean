import ProxyBridge.Proofs.Commands
import ProxyBridge.Proofs.Table

/-!
# What operations keep

Operations are many, but the changes that they make to a session are few: a reference is taken or
given back, a value or a member is stored, something is reported, a value is wrapped. A condition on
sessions that all of these changes keep is kept by every operation, whether it succeeds or fails, as
long as the foreign code that runs in between keeps it as well.

Two things are left to the condition: what to make of a wrap, since that is where shapes, proxies
and heap cells come in, and what to make of a bridge that is opened.

## Results

* `Act.Maintains` — the action keeps a condition.
* `Session.Stable` — a condition that allows for what happens to references, values and members.
* `Environment.maintains_read`, `Environment.maintains_inspect` — reading and looking.
* `Session.Enduring` — a condition that allows for wraps, openings and the end of proxies as well.
* `Command.maintains_perform` — every command keeps such a condition.
-/

namespace ProxyBridge

variable {Code Client ε α β : Type} {P : Session Code Client → Prop}

namespace Act

/-- What holds at both ends of an action holds after it. -/
theorem Ensures.after {act : Act Code Client ε α} {P Q : Session Code Client → Prop}
    {s : Session Code Client} (h : Ensures P act (fun _ => Q) fun _ => Q) (hs : P s) :
    Q (act.after s) := by
  have hRun := h s hs
  rw [Act.after]
  cases hr : act s with
  | ok a s' =>
    rw [hr] at hRun
    exact hRun
  | error e s' =>
    rw [hr] at hRun
    exact hRun

/-- What holds after an action holds at both ends of it. -/
theorem Ensures.of_after {act : Act Code Client ε α} {Q : Session Code Client → Prop}
    {s : Session Code Client} (h : Q (act.after s)) :
    Ensures (fun s' => s' = s) act (fun _ => Q) fun _ => Q := by
  rintro s' rfl
  rw [Act.after] at h
  cases hr : act s' with
  | ok a s'' =>
    rw [hr] at h
    exact h
  | error e s'' =>
    rw [hr] at h
    exact h

/-- The action keeps a condition on sessions, whether it succeeds or fails. -/
def Maintains (P : Session Code Client → Prop) (act : Act Code Client ε α) : Prop :=
  Ensures P act (fun _ => P) fun _ => P

namespace Maintains

variable {act : Act Code Client ε α}

theorem after (h : act.Maintains P) {s : Session Code Client} (hs : P s) : P (act.after s) :=
  Ensures.after h hs

theorem pure (a : α) : Maintains P (Pure.pure a : Act Code Client ε α) := fun _ hs => hs

theorem throw (e : ε) : Maintains P (MonadExcept.throw e : Act Code Client ε α) := fun _ hs => hs

theorem bind {f : α → Act Code Client ε β} (h : act.Maintains P)
    (hf : ∀ a, (f a).Maintains P) : (act >>= f).Maintains P :=
  Ensures.bind h hf

theorem get_bind {f : Session Code Client → Act Code Client ε α} (h : ∀ s, (f s).Maintains P) :
    Maintains P (MonadState.get >>= f) :=
  fun s hs => h s s hs

theorem modify {f : Session Code Client → Session Code Client} (h : ∀ s, P s → P (f s)) :
    Maintains P (modifyGet fun s => (PUnit.unit, f s) : Act Code Client ε PUnit) :=
  h

theorem foreign {act : Act Code Client ForeignError α} (h : act.Maintains P) :
    act.foreign.Maintains P :=
  Ensures.foreign h

theorem onError {f : ε → Session Code Client → Session Code Client} (h : act.Maintains P)
    (hf : ∀ e s, P s → P (f e s)) : (act.onError f).Maintains P :=
  Ensures.onError <| Ensures.mono h (fun _ hs => hs) (fun _ _ hs => hs) hf

theorem reporting {act : Act Code Client ProxyError α} {value : Handle} (h : act.Maintains P)
    (hFailed : ∀ s error, P s → P (s.emit (.wrapFailed value error))) :
    (Act.reporting value act).Maintains P :=
  h.onError fun _ s hs => hFailed s _ hs

theorem ofExcept (r : Except ε α) : (Act.ofExcept r : Act Code Client ε α).Maintains P :=
  Ensures.ofExcept (fun _ _ _ hs => hs) fun _ _ _ hs => hs

/-- Only the table changes, if it changes at all. -/
theorem onTable {f : Table Code → Except ε (Table Code)}
    (h : ∀ s t, P s → f s.table = .ok t → P { s with table := t }) :
    (Act.onTable f : Act Code Client ε Unit).Maintains P := by
  intro s hs
  cases ht : f s.table with
  | ok t =>
    rw [onTable_ok ht]
    exact h s t hs ht
  | error e =>
    rw [onTable_error ht]
    exact hs

theorem foldlM {γ : Type} {f : β → γ → Act Code Client ε β} (h : ∀ b c, (f b c).Maintains P)
    (l : List γ) (b : β) : (l.foldlM f b).Maintains P :=
  Ensures.foldlM l b fun b c _ => h b c

end Maintains

theorem maintains_object (h : Handle) :
    (object h : Act Code Client ForeignError (Object Code)).Maintains P :=
  fun s hs => Maintains.ofExcept (s.table.object h) s hs

theorem maintains_tagOf (h : Handle) : (tagOf h : Act Code Client ForeignError Tag).Maintains P :=
  (maintains_object h).bind fun _ => Maintains.pure _

theorem maintains_memberNames (h : Handle) :
    (memberNames h : Act Code Client ForeignError (List String)).Maintains P :=
  (maintains_object h).bind fun _ => Maintains.pure _

theorem maintains_require (p : Proxy) (slot : Slots) :
    (require p slot : Act Code Client ProxyError Unit).Maintains P :=
  Maintains.ofExcept _

theorem maintains_bridge (i : Nat) :
    (bridge i : Act Code Client ProxyError (Bridge Code)).Maintains P := by
  intro s hs
  rw [bridge]
  cases s.bridges[i]? with
  | some b => exact hs
  | none => exact hs

theorem maintains_keys (p : Proxy) :
    (keys p : Act Code Client ProxyError (List String)).Maintains P :=
  (maintains_require p _).bind fun _ => (maintains_memberNames p.value).foreign

theorem maintains_hasItem (p : Proxy) (name : String) :
    (hasItem p name : Act Code Client ProxyError Bool).Maintains P :=
  (maintains_require p _).bind fun _ => (maintains_keys p).bind fun _ => Maintains.pure _

end Act

/-- The event says that a probe went wrong, or that an owner gave its reference back. -/
def Event.isReport : Event → Bool
  | .probeRaised .. | .referenceReleased .. => true
  | _ => false

/-- What happens to references, values and members leaves the condition true. -/
structure Session.Stable (P : Session Code Client → Prop) : Prop where
  retain : ∀ {s : Session Code Client} {h : Handle} {t : Table Code}, P s →
    s.table.retain h = .ok t → P { s with table := t }
  release : ∀ {s : Session Code Client} (h : Handle), P s → P (s.release h)
  insert : ∀ {s : Session Code Client} {o : Object Code}, o.members.Ordered → P s →
    P (({ s with table := (s.table.insert o).2 } : Session Code Client).emit
      (.valueInserted (s.table.insert o).1))
  owners : ∀ {s : Session Code Client} (owned : List Handle), P s → P { s with owned }
  putMember : ∀ {s : Session Code Client} (h : Handle) (k : Key) (v : Handle), P s →
    P { s with table := s.table.putMember h k (.data (.handle v)) }
  dropMember : ∀ {s : Session Code Client} (h : Handle) (k : Key), P s →
    P { s with table := s.table.dropMember h k }
  report : ∀ {s : Session Code Client} {e : Event}, e.isReport = true → P s → P (s.emit e)

open Act

/-! ## References and members -/

namespace Session.Stable

variable (hP : Stable P)

include hP

theorem letGo {s : Session Code Client} (h : Handle) (hs : P s) : P (s.letGo h) :=
  hP.report rfl (hP.release h (hP.owners _ hs))

theorem letGo? {s : Session Code Client} (r : Option Handle) (hs : P s) : P (s.letGo? r) := by
  cases r with
  | none => exact hs
  | some h => exact hP.letGo h hs

theorem maintains_retain (h : Handle) :
    (Act.onTable (·.retain h) : Act Code Client ForeignError Unit).Maintains P :=
  Maintains.onTable fun _ _ hs ht => hP.retain hs ht

theorem maintains_onDuplicate (h : Handle) :
    (Act.onTable (·.duplicate h) : Act Code Client ForeignError Unit).Maintains P :=
  Maintains.onTable fun _ _ hs ht => hP.retain hs (Table.retain_of_duplicate ht)

theorem maintains_duplicate (h : Handle) :
    (Act.duplicate h : Act Code Client ForeignError Handle).Maintains P :=
  (hP.maintains_onDuplicate h).bind fun _ => Maintains.pure h

theorem maintains_own (h : Handle) : (Act.own h : Act Code Client ForeignError Unit).Maintains P :=
  (hP.maintains_onDuplicate h).bind fun _ => Maintains.modify fun _ hs => hP.owners _ hs

theorem maintains_ownReceiver (r : Option Handle) :
    (Act.ownReceiver r : Act Code Client ForeignError Unit).Maintains P := by
  cases r with
  | none => exact Maintains.pure ()
  | some h => exact hP.maintains_own h

theorem maintains_release (h : Handle) : (Act.release h : Act Code Client ε Unit).Maintains P :=
  Maintains.modify fun _ hs => hP.release h hs

theorem maintains_insert {o : Object Code} (ho : o.members.Ordered) :
    (Act.insert o : Act Code Client ε Handle).Maintains P :=
  fun _ hs => hP.insert ho hs

theorem maintains_materialize (v : Value) :
    (Act.materialize v : Act Code Client ForeignError Handle).Maintains P := by
  cases v with
  | handle h => exact Maintains.pure h
  | number x => exact hP.maintains_insert .nil
  | undefined => exact (hP.maintains_retain _).bind fun _ => Maintains.pure _

/-- What a member held is given back, if it held anything. -/
theorem maintains_release? (r : Option Handle) :
    (match r with
      | some h => Act.release h
      | none => Pure.pure () : Act Code Client ForeignError Unit).Maintains P := by
  cases r with
  | none => exact Maintains.pure ()
  | some h => exact hP.maintains_release h

theorem maintains_setMember (h : Handle) (k : Key) (v : Handle) :
    (Act.setMember h k v : Act Code Client ForeignError Unit).Maintains P := by
  refine (maintains_object h).bind fun o => (hP.maintains_retain v).bind fun _ => ?_
  have hStore : Maintains P (modify fun s => { s with
      table := s.table.putMember h k (.data (.handle v)) } :
      Act Code Client ForeignError Unit) :=
    Maintains.modify fun _ hs => hP.putMember h k v hs
  exact hStore.bind fun _ => hP.maintains_release? _

theorem maintains_deleteMember (h : Handle) (k : Key) :
    (Act.deleteMember h k : Act Code Client ForeignError Bool).Maintains P := by
  refine (maintains_object h).bind fun o => ?_
  have hDrop : Maintains P (modify fun s => { s with table := s.table.dropMember h k } :
      Act Code Client ForeignError Unit) :=
    Maintains.modify fun _ hs => hP.dropMember h k hs
  refine hDrop.bind fun _ => ?_
  cases o.members.find? k with
  | none => exact Maintains.pure false
  | some m =>
    dsimp only
    cases m.owned? with
    | none => exact Maintains.pure true
    | some old => exact (hP.maintains_release old).bind fun _ => Maintains.pure true

/-- Owning a reference while an action runs makes no difference to the condition. -/
theorem maintains_holding (h : Handle) {act : Act Code Client ε α} (hAct : act.Maintains P) :
    (Act.holding h act).Maintains P := by
  intro s hs
  have hRun := hAct (s.adopt h) (hP.owners _ hs)
  rw [Act.holding]
  cases hr : act (s.adopt h) with
  | ok a s' =>
    rw [hr] at hRun
    exact hP.letGo h hRun
  | error e s' =>
    rw [hr] at hRun
    exact hP.letGo h hRun

theorem maintains_setAttr (p : Proxy) (name : String) (v : Handle) :
    (Act.setAttr p name v : Act Code Client ProxyError Unit).Maintains P :=
  (maintains_require p _).bind fun _ => (hP.maintains_setMember p.value (.named name) v).foreign

theorem maintains_setItem (p : Proxy) (name : String) (v : Handle) :
    (Act.setItem p name v : Act Code Client ProxyError Unit).Maintains P :=
  (maintains_require p _).bind fun _ => (hP.maintains_setMember p.value (.named name) v).foreign

theorem maintains_deleteItem (p : Proxy) (name : String) :
    (Act.deleteItem p name : Act Code Client ProxyError Unit).Maintains P := by
  refine (maintains_require p _).bind fun _ =>
    (hP.maintains_deleteMember p.value (.named name)).foreign.bind fun found => ?_
  cases found with
  | true => exact Maintains.pure ()
  | false => exact Maintains.throw _

end Session.Stable

/-- All foreign code keeps a condition. -/
structure Environment.Maintains (P : Session Code Client → Prop) (env : Environment Code Client) :
    Prop where
  run : ∀ code receiver args, (env.run code receiver args).Maintains P
  decide : ∀ code h detected, (env.decide code h detected).Maintains P

namespace Environment

section Looking

variable {env : Environment Code Client} (hP : Session.Stable P) (hEnv : env.Maintains P)

include hP hEnv

/-! ## Reading, looking and calling -/

theorem maintains_read (h : Handle) (k : Key) : (env.read h k).Maintains P := by
  refine (maintains_object h).bind fun o => ?_
  rcases o.members.find? k with _ | (_ | x | target) | getter
  · exact Act.Maintains.pure _
  · exact Act.Maintains.pure _
  · exact Act.Maintains.pure _
  · exact (hP.maintains_retain target).bind fun _ => Act.Maintains.pure _
  · exact hEnv.run getter none []

theorem maintains_hasMethod (h : Handle) (k : Key) : (env.hasMethod h k).Maintains P := by
  refine (maintains_read hP hEnv h k).bind fun v => ?_
  cases v with
  | handle m =>
    exact Act.Maintains.get_bind fun s =>
      (hP.maintains_release m).bind fun _ => Act.Maintains.pure _
  | number x => exact Act.Maintains.pure false
  | undefined => exact Act.Maintains.pure false

theorem maintains_number (h : Handle) (name : String) : (env.number h name).Maintains P := by
  refine (maintains_read hP hEnv h (.named name)).bind fun v => ?_
  cases v with
  | handle m =>
    exact Act.Maintains.get_bind fun s =>
      (hP.maintains_release m).bind fun _ => Act.Maintains.pure _
  | number x => exact Act.Maintains.pure (some x)
  | undefined => exact Act.Maintains.pure none

theorem maintains_firstNumber (h : Handle) (names : List String) :
    (env.firstNumber h names).Maintains P := by
  induction names with
  | nil => exact Act.Maintains.pure none
  | cons name rest ih =>
    refine (maintains_number hP hEnv h name).bind fun found => ?_
    cases found with
    | some x => exact Act.Maintains.pure (some x)
    | none => exact ih

theorem maintains_member (h : Handle) (k : Key) : (env.member h k).Maintains P := by
  refine (maintains_read hP hEnv h k).bind fun v => ?_
  cases v with
  | undefined => exact Act.Maintains.pure none
  | number x =>
    exact (hP.maintains_materialize (.number x)).bind fun m => Act.Maintains.pure (some m)
  | handle m =>
    exact (hP.maintains_materialize (.handle m)).bind fun m => Act.Maintains.pure (some m)

theorem maintains_invoke (f : Handle) (receiver : Option Handle) (args : List Handle) :
    (env.invoke f receiver args).Maintains P := by
  refine (maintains_object f).bind fun o => ?_
  cases o.body with
  | none => exact Act.Maintains.throw _
  | some body => exact (hEnv.run body receiver args).bind hP.maintains_materialize

/-! ## Inspection -/

theorem maintains_judge (r : Rule) (h : Handle) (detected : Capabilities) :
    (env.judge r h detected).Maintains P := by
  cases r with
  | measured =>
    refine (maintains_number hP hEnv h "size").bind fun size => ?_
    cases size.isSome with
    | true => exact Act.Maintains.pure true
    | false =>
      cases detected.includes Capabilities.callable with
      | true => exact Act.Maintains.pure false
      | false =>
        exact (maintains_number hP hEnv h "length").bind fun _ => Act.Maintains.pure _
  | syncStep =>
    rw [Environment.judge]
    split
    · exact maintains_hasMethod hP hEnv h _
    · exact Act.Maintains.pure false
  | asyncStep =>
    rw [Environment.judge]
    split
    · exact maintains_hasMethod hP hEnv h _
    · exact Act.Maintains.pure false

theorem maintains_probe (p : Probe Code) (h : Handle) (f : Findings) :
    (env.probe p h f).Maintains P := by
  cases p with
  | tag tags =>
    rw [Environment.probe]
    cases f.tag with
    | some tag => exact Act.Maintains.pure _
    | none => exact (maintains_tagOf h).bind fun _ => Act.Maintains.pure _
  | method key => exact (maintains_hasMethod hP hEnv h key).bind fun _ => Act.Maintains.pure _
  | numeric names =>
    exact (maintains_firstNumber hP hEnv h names).bind fun _ => Act.Maintains.pure _
  | rule r => exact (maintains_judge hP hEnv r h f.detected).bind fun _ => Act.Maintains.pure _
  | custom code => exact (hEnv.decide code h f.detected).bind fun _ => Act.Maintains.pure _
  | explicit => exact Act.Maintains.pure _

theorem maintains_examine (h : Handle) (f : Findings) (c : Capability Code) :
    (env.examine h f c).Maintains P := by
  rw [Environment.examine]
  split
  · exact Act.Maintains.pure f
  · -- a probe that fails is reported, and what it did before is kept
    exact ((maintains_probe hP hEnv c.probe h f).onError fun _ _ hs => hP.report rfl hs).bind
      fun _ => Act.Maintains.pure _

theorem maintains_inspect (catalog : Catalog Code) (h : Handle) :
    (env.inspect catalog h).Maintains P :=
  (Act.Maintains.foldlM (maintains_examine hP hEnv h) _ _).bind fun _ => Act.Maintains.pure _

theorem maintains_capabilities (i : Nat) (h : Handle) : (env.capabilities i h).Maintains P :=
  (maintains_bridge i).bind fun b => (maintains_inspect hP hEnv b.catalog h).foreign

theorem maintains_len (p : Proxy) : (env.len p).Maintains P := by
  refine (maintains_require p _).bind fun _ => ?_
  split
  · exact (maintains_memberNames p.value).foreign.bind fun _ => Act.Maintains.pure _
  · refine (maintains_firstNumber hP hEnv p.value _).foreign.bind fun found => ?_
    cases found with
    | some x => exact Act.Maintains.pure _
    | none => exact Act.Maintains.throw _

theorem maintains_isEmpty (p : Proxy) : (env.isEmpty p).Maintains P :=
  (maintains_len hP hEnv p).bind fun _ => Act.Maintains.pure _

end Looking

end Environment

/-! ## Wrapping -/

/-- The condition also stays true when values are wrapped, whether that succeeds or fails, when
bridges are opened and look shapes up, and when proxies end. -/
structure Session.Enduring (P : Session Code Client → Prop) : Prop extends Session.Stable P where
  wrap : ∀ i flags value receiver,
    (shapeAndBuild i flags value receiver none : Act Code Client ProxyError Nat).Maintains P
  failed : ∀ {s : Session Code Client} (value : Handle) (error : String), P s →
    P (s.emit (.wrapFailed value error))
  resolve : ∀ i flags, (resolveShape i flags none : Act Code Client ProxyError Shape).Maintains P
  refuse : ∀ {s : Session Code Client}, P s → P (s.emit (.registryExhausted 0#32 0))
  openBridge : ∀ {s : Session Code Client} {b : Bridge Code}, P s →
    Registry.new b.catalog s.bridges.length b.config.registry.maxShapes = .ok b.registry →
    b.heap = .new b.config.heap.maxLive → P { s with bridges := s.bridges ++ [b] }
  leave : ∀ {s : Session Code Client} (id : Nat), P s →
    P { s with proxies := s.proxies.erase id }
  freeCell : ∀ {s : Session Code Client} (i : Nat), P s → P (s.freeCell i)

namespace Session.Enduring

variable (hP : Enduring P)

include hP

theorem destroy {s : Session Code Client} (id : Nat) (hs : P s) : P (s.destroy id) := by
  rw [Session.destroy]
  cases s.proxies.find? id with
  | none => exact hs
  | some p =>
    exact hP.freeCell _ (hP.toStable.letGo? _ (hP.toStable.letGo _ (hP.leave id hs)))

theorem maintains_createTyped (i : Nat) (flags : Capabilities) (value : Handle)
    (receiver : Option Handle) :
    (Act.createTyped i flags value receiver : Act Code Client ProxyError Nat).Maintains P :=
  (hP.wrap i flags value receiver).reporting fun _ error hs => hP.failed value error hs

theorem maintains_prewarm (i : Nat) (masks : List Capabilities) :
    (Act.prewarm i masks : Act Code Client ProxyError Unit).Maintains P := by
  induction masks with
  | nil => exact Maintains.pure ()
  | cons mask rest ih => exact (hP.resolve i mask).bind fun _ => ih

theorem maintains_openBridge (catalog : Catalog Code) (config : Config) :
    (Act.openBridge catalog config : Act Code Client ProxyError Nat).Maintains P := by
  refine Ensures.get_bind fun s => ?_
  dsimp only
  cases hr : Registry.new catalog s.bridges.length config.registry.maxShapes with
  | error e =>
    -- nothing but the refusal is left behind
    rintro _ ⟨rfl, hs⟩
    exact hP.refuse hs
  | ok registry =>
    let b : Bridge Code := { config, catalog, registry, heap := .new config.heap.maxLive }
    have hAdd : Ensures (fun s' => s' = s ∧ P s')
        (modify fun s => { s with bridges := s.bridges ++ [b] } : Act Code Client ProxyError Unit)
        (fun _ => P) fun _ => P := by
      rintro _ ⟨rfl, hs⟩
      exact hP.openBridge (b := b) hs hr rfl
    exact hAdd.bind fun _ => (hP.maintains_prewarm _ _).bind fun _ => Maintains.pure _

end Session.Enduring

namespace Environment

section Wrapping

variable {env : Environment Code Client} (hP : Session.Enduring P) (hEnv : env.Maintains P)

include hP hEnv

theorem maintains_createWith (i : Nat) (value : Handle) (receiver : Option Handle) :
    (env.createWith i value receiver).Maintains P :=
  ((maintains_capabilities hP.toStable hEnv i value).bind fun flags =>
    hP.wrap i flags value receiver).reporting fun _ error hs => hP.failed value error hs

theorem maintains_createMap (i : Nat) (value : Handle) (asMap : Bool) :
    (env.createMap i value asMap).Maintains P :=
  ((maintains_capabilities hP.toStable hEnv i value).reporting fun _ error hs =>
    hP.failed value error hs).bind fun _ => hP.maintains_createTyped i _ value none

/-! ## What proxies do -/

theorem maintains_toHost (i : Nat) (h : Handle) : (env.toHost i h).Maintains P := by
  refine (maintains_tagOf h).foreign.bind fun tag => ?_
  have hWrap : Act.Maintains P (do return HostValue.proxy (← env.create i h)) :=
    (maintains_createWith hP hEnv i h none).bind fun _ => Act.Maintains.pure _
  cases tag with
  | undefined => exact Act.Maintains.pure HostValue.none
  | null => exact Act.Maintains.pure HostValue.none
  | _ => exact hWrap

theorem maintains_call (p : Proxy) (args : List Handle) : (env.call p args).Maintains P :=
  (maintains_require p _).bind fun _ =>
    (maintains_invoke hP.toStable hEnv p.value p.receiver args).foreign.bind fun result =>
      hP.toStable.maintains_holding result (maintains_toHost hP hEnv p.bridge result)

theorem maintains_getAttr (p : Proxy) (name : String) : (env.getAttr p name).Maintains P := by
  refine (maintains_require p _).bind fun _ =>
    (maintains_member hP.toStable hEnv p.value (.named name)).foreign.bind fun found => ?_
  cases found with
  | none => exact Act.Maintains.throw _
  | some member =>
    refine hP.toStable.maintains_holding member
      ((maintains_tagOf member).foreign.bind fun tag => ?_)
    split
    · exact (maintains_createWith hP hEnv p.bridge member (some p.value)).bind fun _ =>
        Act.Maintains.pure _
    · exact maintains_toHost hP hEnv p.bridge member

theorem maintains_getItem (p : Proxy) (name : String) : (env.getItem p name).Maintains P := by
  refine (maintains_require p _).bind fun _ =>
    (maintains_member hP.toStable hEnv p.value (.named name)).foreign.bind fun found => ?_
  cases found with
  | none => exact Act.Maintains.throw _
  | some item =>
    exact hP.toStable.maintains_holding item (maintains_toHost hP hEnv p.bridge item)

end Wrapping

end Environment

/-! ## Commands -/

/-- **Every command keeps a condition that endures**, if foreign code keeps it. Two commands bring a
shape of their own, which a registry may take for an answer; they are looked at separately. -/
theorem Command.maintains_perform {env : Environment Code Client} (hP : Session.Enduring P)
    (hEnv : env.Maintains P) (c : Command Code) {s : Session Code Client}
    (hOrdered : ∀ o ∈ c.object?, o.members.Ordered)
    (hRebind : ∀ p receiver, c = .rebind p receiver → P ((Act.rebind p receiver).after s))
    (hReuse : ∀ i flags hint, c = .resolve i flags (some hint) →
      P ((Act.resolveShape i flags (some hint)).after s))
    (hs : P s) : P ((c.perform env).after s) := by
  have hStable := hP.toStable
  -- each command is an operation, and then its result as a reply
  have hLast {α : Type} {act : Act Code Client ProxyError α} (h : P (act.after s))
      (r : α → Reply Code) : P ((act >>= fun a => pure (r a)).after s) := by
    rw [Act.after_map]
    exact h
  have hReply {α : Type} {act : Act Code Client ProxyError α} (h : act.Maintains P)
      (r : α → Reply Code) : P ((act >>= fun a => pure (r a)).after s) := hLast (h.after hs) r
  cases c with
  | openBridge catalog config => exact hReply (hP.maintains_openBridge catalog config) _
  | insert o => exact hReply (hStable.maintains_insert (hOrdered o rfl)) _
  | duplicate h => exact hReply (hStable.maintains_duplicate h).foreign _
  | release h => exact hReply (hStable.maintains_release h) fun _ => .done
  | tag h => exact hReply (maintains_tagOf h).foreign _
  | hasMethod h k => exact hReply (env.maintains_hasMethod hStable hEnv h k).foreign _
  | number h name => exact hReply (env.maintains_number hStable hEnv h name).foreign _
  | member h k => exact hReply (env.maintains_member hStable hEnv h k).foreign _
  | setMember h k v => exact hReply (hStable.maintains_setMember h k v).foreign fun _ => .done
  | deleteMember h k => exact hReply (hStable.maintains_deleteMember h k).foreign _
  | memberNames h => exact hReply (maintains_memberNames h).foreign _
  | invoke f receiver args =>
    exact hReply (env.maintains_invoke hStable hEnv f receiver args).foreign _
  | own h => exact hReply (hStable.maintains_own h).foreign fun _ => .done
  | adopt h => exact hReply (Act.Maintains.modify fun _ => hStable.owners _) fun _ => .done
  | letGo h => exact hReply (Act.Maintains.modify fun _ => hStable.letGo h) fun _ => .done
  | capabilities i h => exact hReply (env.maintains_capabilities hStable hEnv i h) _
  | resolve i flags hint =>
    cases hint with
    | none => exact hReply (hP.resolve i flags) _
    | some hint => exact hLast (hReuse i flags hint rfl) _
  | create i h receiver => exact hReply (env.maintains_createWith hP hEnv i h receiver) _
  | createTyped i flags h receiver => exact hReply (hP.maintains_createTyped i flags h receiver) _
  | createMap i h asMap => exact hReply (env.maintains_createMap hP hEnv i h asMap) _
  | rebind p receiver => exact hLast (hRebind p receiver rfl) _
  | call p args => exact hReply (env.maintains_call hP hEnv p args) _
  | len p => exact hReply (env.maintains_len hStable hEnv p) _
  | isEmpty p => exact hReply (env.maintains_isEmpty hStable hEnv p) _
  | getAttr p name => exact hReply (env.maintains_getAttr hP hEnv p name) _
  | setAttr p name v => exact hReply (hStable.maintains_setAttr p name v) fun _ => .done
  | getItem p name => exact hReply (env.maintains_getItem hP hEnv p name) _
  | setItem p name v => exact hReply (hStable.maintains_setItem p name v) fun _ => .done
  | deleteItem p name => exact hReply (hStable.maintains_deleteItem p name) fun _ => .done
  | hasItem p name => exact hReply (maintains_hasItem p name) _
  | keys p => exact hReply (maintains_keys p) _
  | destroy id => exact hReply (Act.Maintains.modify fun _ => hP.destroy id) fun _ => .done
  | look => exact hs

end ProxyBridge
