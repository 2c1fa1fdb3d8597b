import ProxyBridge.Proofs.Keeping

/-!
# Operations keep the accounts

Foreign code is balanced if it returns with every surplus as it found it, except for the reference
that comes with its result. If all foreign code is balanced, then so is every operation of the
bridge: reading and calling, inspecting, wrapping, and the behaviours of proxies, whether they
succeed or fail.

* `Environment.Balanced` — all foreign code is balanced.
* `Balanced.keeps_inspect` — inspection, whichever probes it runs.
* `keeps_build` — the stages of a wrap, with what a failing stage gives back.
* `Balanced.keeps_call`, `Balanced.keeps_getAttr`, `Balanced.keeps_getItem` — behaviours that bring
  a foreign value, and end with a host value that owns what it needs.
-/

namespace ProxyBridge

variable {Code Client ε α : Type} {owns : Client → List Handle}

/-- Whatever foreign code runs, it adds to the surplus what comes with its result, and no more. -/
structure Environment.Balanced (owns : Client → List Handle) (env : Environment Code Client) :
    Prop where
  run : ∀ code receiver args, (env.run code receiver args).Balanced owns Value.held
  decide : ∀ code h detected, (env.decide code h detected).Balanced owns fun _ => []

open Act

namespace Environment

variable {env : Environment Code Client}

/-! ## Reading, looking and calling -/

theorem Balanced.keeps_run (hEnv : env.Balanced owns) (code : Code) (receiver : Option Handle)
    (args : List Handle) : (env.run code receiver args).Keeps owns [] Value.held :=
  balanced_iff_keeps.mp (hEnv.run code receiver args)

theorem Balanced.keeps_read (hEnv : env.Balanced owns) (h : Handle) (k : Key) :
    (env.read h k).Keeps owns [] Value.held := by
  refine (keeps_object h).bind fun o => ?_
  rcases o.members.find? k with _ | (_ | x | target) | getter
  · exact Keeps.pure Value.undefined Value.held
  · exact Keeps.pure Value.undefined Value.held
  · exact Keeps.pure (Value.number x) Value.held
  -- a stored handle is read with one more reference, and a getter brings its own
  · exact (keeps_retain target).bind fun _ => Keeps.pure (Value.handle target) Value.held
  · exact hEnv.keeps_run getter none []

theorem Balanced.keeps_hasMethod (hEnv : env.Balanced owns) (h : Handle) (k : Key) :
    (env.hasMethod h k).Keeps owns [] fun _ => [] := by
  refine (hEnv.keeps_read h k).bind fun v => ?_
  cases v with
  | handle m =>
    exact Keeps.get_bind fun s => (keeps_release m).bind fun _ => Keeps.pure _ fun _ => []
  | number x => exact Keeps.pure false fun _ => []
  | undefined => exact Keeps.pure false fun _ => []

theorem Balanced.keeps_number (hEnv : env.Balanced owns) (h : Handle) (name : String) :
    (env.number h name).Keeps owns [] fun _ => [] := by
  refine (hEnv.keeps_read h (.named name)).bind fun v => ?_
  cases v with
  | handle m =>
    exact Keeps.get_bind fun s => (keeps_release m).bind fun _ => Keeps.pure _ fun _ => []
  | number x => exact Keeps.pure (some x) fun _ => []
  | undefined => exact Keeps.pure none fun _ => []

theorem Balanced.keeps_firstNumber (hEnv : env.Balanced owns) (h : Handle) (names : List String) :
    (env.firstNumber h names).Keeps owns [] fun _ => [] := by
  induction names with
  | nil => exact Keeps.pure none fun _ => []
  | cons name rest ih =>
    refine (hEnv.keeps_number h name).bind fun found => ?_
    cases found with
    | some x => exact Keeps.pure (some x) fun _ => []
    | none => exact ih

theorem Balanced.keeps_member (hEnv : env.Balanced owns) (h : Handle) (k : Key) :
    (env.member h k).Keeps owns [] Option.toList := by
  refine (hEnv.keeps_read h k).bind fun v => ?_
  cases v with
  | undefined => exact Keeps.pure none Option.toList
  | number x =>
    exact (keeps_materialize (.number x)).bind fun m => Keeps.pure (some m) Option.toList
  | handle m =>
    exact (keeps_materialize (.handle m)).bind fun m => Keeps.pure (some m) Option.toList

theorem Balanced.keeps_invoke (hEnv : env.Balanced owns) (f : Handle) (receiver : Option Handle)
    (args : List Handle) : (env.invoke f receiver args).Keeps owns [] fun h => [h] := by
  refine (keeps_object f).bind fun o => ?_
  cases o.body with
  | none => exact Keeps.throw _ fun h => [h]
  | some body => exact (hEnv.keeps_run body receiver args).bind keeps_materialize

/-! ## Inspection -/

theorem Balanced.keeps_judge (hEnv : env.Balanced owns) (r : Rule) (h : Handle)
    (detected : Capabilities) : (env.judge r h detected).Keeps owns [] fun _ => [] := by
  cases r with
  | measured =>
    refine (hEnv.keeps_number h "size").bind fun size => ?_
    cases size.isSome with
    | true => exact Keeps.pure true fun _ => []
    | false =>
      cases detected.includes Capabilities.callable with
      | true => exact Keeps.pure false fun _ => []
      | false => exact (hEnv.keeps_number h "length").bind fun _ => Keeps.pure _ fun _ => []
  | syncStep =>
    rw [judge]
    split
    · exact hEnv.keeps_hasMethod h _
    · exact Keeps.pure false fun _ => []
  | asyncStep =>
    rw [judge]
    split
    · exact hEnv.keeps_hasMethod h _
    · exact Keeps.pure false fun _ => []

theorem Balanced.keeps_probe (hEnv : env.Balanced owns) (p : Probe Code) (h : Handle)
    (f : Findings) : (env.probe p h f).Keeps owns [] fun _ => [] := by
  cases p with
  | tag tags =>
    rw [probe]
    cases f.tag with
    | some tag => exact Keeps.pure _ fun _ => []
    | none => exact (keeps_tagOf h).bind fun _ => Keeps.pure _ fun _ => []
  | method key => exact (hEnv.keeps_hasMethod h key).bind fun _ => Keeps.pure _ fun _ => []
  | numeric names => exact (hEnv.keeps_firstNumber h names).bind fun _ => Keeps.pure _ fun _ => []
  | rule r => exact (hEnv.keeps_judge r h f.detected).bind fun _ => Keeps.pure _ fun _ => []
  | custom code =>
    exact (balanced_iff_keeps.mp (hEnv.decide code h f.detected)).bind fun _ =>
      Keeps.pure _ fun _ => []
  | explicit => exact Keeps.pure _ fun _ => []

theorem Balanced.keeps_examine (hEnv : env.Balanced owns) (h : Handle) (f : Findings)
    (c : Capability Code) : (env.examine h f c).Keeps owns [] fun _ => [] := by
  rw [examine]
  split
  · exact Keeps.pure f fun _ => []
  · -- a probe that fails has given back what it took, and is only reported
    refine ((hEnv.keeps_probe c.probe h f).onError fun _ _ _ s hs => hs.emit _).bind fun _ => ?_
    exact Keeps.pure _ fun _ => []

theorem Balanced.keeps_inspect (hEnv : env.Balanced owns) (catalog : Catalog Code) (h : Handle) :
    (env.inspect catalog h).Keeps owns [] fun _ => [] :=
  (Keeps.foldlM (hEnv.keeps_examine h) _ _).bind fun _ => Keeps.pure _ fun _ => []

theorem keeps_bridge (i : Nat) :
    (Act.bridge i : Act Code Client ProxyError (Bridge Code)).Keeps owns [] fun _ => [] := by
  intro held loose s hs
  rw [Act.bridge]
  cases s.bridges[i]? with
  | some b => exact hs
  | none => exact hs

theorem Balanced.keeps_capabilities (hEnv : env.Balanced owns) (i : Nat) (h : Handle) :
    (env.capabilities i h).Keeps owns [] fun _ => [] :=
  (keeps_bridge i).bind fun b => (hEnv.keeps_inspect b.catalog h).foreign

end Environment

/-! ## Wrapping -/

namespace Act

theorem keeps_resolveShape (i : Nat) (flags : Capabilities) (hint : Option Shape) :
    (resolveShape i flags hint : Act Code Client ProxyError Shape).Keeps owns [] fun _ => [] := by
  intro held loose s hs
  rw [resolveShape]
  cases s.bridges[i]? with
  | none => exact hs
  | some b =>
    -- whatever the registry answers, only the bridge and the log change
    cases hint with
    | none =>
      dsimp only
      cases (b.registry.resolve b.catalog s.timing flags).1 with
      | ok shape => exact (hs.setBridge i _).emitAll _
      | error e => exact (hs.setBridge i _).emitAll _
    | some hint =>
      dsimp only
      cases (b.registry.resolveWithHint b.catalog s.timing flags hint).1 with
      | ok shape => exact (hs.setBridge i _).emitAll _
      | error e => exact (hs.setBridge i _).emitAll _

theorem keeps_reserve (i : Nat) :
    (reserve i : Act Code Client ProxyError Unit).Keeps owns [] fun _ => [] := by
  intro held loose s hs
  rw [reserve]
  cases s.bridges[i]? with
  | none => exact hs
  | some b =>
    dsimp only
    cases b.heap.reserve with
    | ok heap => exact hs.setBridge i _
    | error e => exact hs

/-- A new proxy takes over what the wrap held for it. -/
theorem ensures_register (i : Nat) (shape : Shape) (value : Handle) (receiver : Option Handle)
    (held : List Handle) (loose : Handle → Nat) :
    Ensures (Session.Accounted owns (receiver.toList ++ value :: held) loose)
      (do
        let id := (← get).nextProxy
        modify fun s : Session Code Client =>
          { s with
            proxies := s.proxies.insert id { bridge := i, shape, value, receiver }
            nextProxy := id + 1 }
        return id : Act Code Client ProxyError Nat)
      (fun _ => Session.Accounted owns held loose)
      (fun _ => Session.Accounted owns held loose) := by
  intro s hs
  have hNew : s.proxies.find? s.nextProxy = none :=
    Dict.find?_eq_none fun p hp => Nat.ne_of_lt (hs.sound.fresh p hp)
  refine ⟨⟨hs.sound.table, Dict.ordered_insert hs.sound.proxies _ _, fun p hp => ?_, fun h => ?_⟩,
    hs.table⟩
  · rcases Dict.mem_insert hp with rfl | hp
    · exact Nat.lt_succ_self _
    · exact Nat.lt_succ_of_lt (hs.sound.fresh p hp)
  · -- the proxy owns what the wrap held, and its number is new, so nothing is replaced
    have hOwners := hs.sound.owners h
    have hTotal := Dict.total_insert (fun p : Proxy => tally p.owned h) hs.sound.proxies
      s.nextProxy { bridge := i, shape, value, receiver }
    rw [hNew, Proxy.owned] at hTotal
    rw [tally_append] at hOwners
    simp only [tally_cons, Option.map_none, Option.getD_none] at hOwners hTotal
    rw [Session.proxyRefs] at hOwners ⊢
    change tally s.owned h = Dict.total (fun p : Proxy => tally p.owned h)
      (s.proxies.insert s.nextProxy _) + tally (owns s.client) h + tally held h
    omega

/-- A failing stage of a wrap gives back what the stages before it took. -/
theorem keeps_build (i : Nat) (shape : Shape) (value : Handle) (receiver : Option Handle) :
    (build i shape value receiver : Act Code Client ProxyError Nat).Keeps owns [] fun _ => [] := by
  intro held loose
  -- each stage starts with what the stages before it hold, and gives that back if it fails
  have hReceiver : Ensures (Session.Accounted owns (value :: held) loose)
      ((foreign (ownReceiver receiver)).onError fun _ s => s.letGo value :
        Act Code Client ProxyError Unit)
      (fun _ => Session.Accounted owns (receiver.toList ++ value :: held) loose)
      fun _ => Session.Accounted owns held loose := by
    refine Ensures.onError ((Ensures.foreign (E := fun _ => Session.Accounted owns _ loose)
      (ensures_ownReceiver receiver (value :: held) loose)).mono
        (fun _ hs => hs) (fun _ _ hs => hs) fun _ _ hs => ?_)
    exact Session.Accounted.letGo hs
  have hReserve : Ensures (Session.Accounted owns (receiver.toList ++ value :: held) loose)
      ((reserve i).onError fun _ s => (s.letGo? receiver).letGo value :
        Act Code Client ProxyError Unit)
      (fun _ => Session.Accounted owns (receiver.toList ++ value :: held) loose)
      fun _ => Session.Accounted owns held loose := by
    refine Ensures.onError ((keeps_reserve i _ loose).mono
      (fun _ hs => hs) (fun _ _ hs => hs) fun _ _ hs => ?_)
    exact Session.Accounted.letGo (Session.Accounted.letGo? hs)
  have hReport : Ensures (Session.Accounted owns (receiver.toList ++ value :: held) loose)
      (modify (·.emit (.proxyCreated shape.name value receiver.isSome)) :
        Act Code Client ProxyError Unit)
      (fun _ => Session.Accounted owns (receiver.toList ++ value :: held) loose)
      fun _ => Session.Accounted owns held loose :=
    fun s hs => Session.Accounted.emit hs _
  exact (ensures_own value held loose).foreign.bind fun _ => hReceiver.bind fun _ =>
    hReserve.bind fun _ => hReport.bind fun _ =>
      ensures_register i shape value receiver held loose

theorem Keeps.reporting {act : Act Code Client ProxyError α} {gone : α → List Handle}
    (value : Handle) (h : act.Keeps owns [] gone) : (reporting value act).Keeps owns [] gone :=
  h.onError fun _ _ _ _ hs => hs.emit _

theorem keeps_shapeAndBuild (i : Nat) (flags : Capabilities) (value : Handle)
    (receiver : Option Handle) (hint : Option Shape) :
    (shapeAndBuild i flags value receiver hint : Act Code Client ProxyError Nat).Keeps
      owns [] fun _ => [] :=
  (keeps_resolveShape i flags hint).bind fun shape => keeps_build i shape value receiver

theorem keeps_createTyped (i : Nat) (flags : Capabilities) (value : Handle)
    (receiver : Option Handle) :
    (createTyped i flags value receiver : Act Code Client ProxyError Nat).Keeps
      owns [] fun _ => [] :=
  (keeps_shapeAndBuild i flags value receiver none).reporting value

theorem keeps_createLike (i : Nat) (hint : Shape) (value : Handle) (receiver : Option Handle) :
    (createLike i hint value receiver : Act Code Client ProxyError Nat).Keeps
      owns [] fun _ => [] :=
  (keeps_shapeAndBuild i hint.flags value receiver (some hint)).reporting value

end Act

namespace Environment

variable {env : Environment Code Client}

theorem Balanced.keeps_createWith (hEnv : env.Balanced owns) (i : Nat) (value : Handle)
    (receiver : Option Handle) : (env.createWith i value receiver).Keeps owns [] fun _ => [] :=
  Keeps.reporting value <| (hEnv.keeps_capabilities i value).bind fun flags =>
    keeps_shapeAndBuild i flags value receiver none

theorem Balanced.keeps_createMap (hEnv : env.Balanced owns) (i : Nat) (value : Handle)
    (asMap : Bool) : (env.createMap i value asMap).Keeps owns [] fun _ => [] :=
  ((hEnv.keeps_capabilities i value).reporting value).bind fun _ =>
    keeps_createTyped i _ value none

end Environment

/-- The end of a proxy gives back its references. -/
theorem Session.Accounted.destroy {held : List Handle} {loose : Handle → Nat}
    {s : Session Code Client} (hs : s.Accounted owns held loose) (id : Nat) :
    (s.destroy id).Accounted owns held loose := by
  rw [Session.destroy]
  cases hp : s.proxies.find? id with
  | none => exact hs
  | some p =>
    -- without the proxy, its references are held by the operation that ends it
    have hEnd : ({ s with proxies := s.proxies.erase id }).Accounted owns
        (p.value :: (p.receiver.toList ++ held)) loose := by
      refine ⟨⟨hs.sound.table, Dict.ordered_erase hs.sound.proxies id, fun q hq =>
        hs.sound.fresh q ((Dict.erase_sublist s.proxies id).subset hq), fun h => ?_⟩, hs.table⟩
      have hOwners := hs.sound.owners h
      have hTotal := Dict.total_erase (fun p : Proxy => tally p.owned h) hp
      rw [Proxy.owned, tally_cons] at hTotal
      rw [Session.proxyRefs] at hOwners ⊢
      rw [tally_cons, tally_append]
      change tally s.owned h = Dict.total (fun p : Proxy => tally p.owned h)
        (s.proxies.erase id) + tally (owns s.client) h + _
      omega
    exact hEnd.letGo.letGo?.freeCell _

/-! ## What proxies do -/

namespace Act

theorem keeps_require (p : Proxy) (slot : Slots) :
    (require p slot : Act Code Client ProxyError Unit).Keeps owns [] fun _ => [] :=
  Keeps.ofExcept _

theorem keeps_rebind (p : Proxy) (receiver : Handle) :
    (rebind p receiver : Act Code Client ProxyError Nat).Keeps owns [] fun _ => [] :=
  (keeps_require p _).bind fun _ => keeps_createLike p.bridge p.shape p.value (some receiver)

theorem keeps_setAttr (p : Proxy) (name : String) (v : Handle) :
    (setAttr p name v : Act Code Client ProxyError Unit).Keeps owns [] fun _ => [] :=
  (keeps_require p _).bind fun _ => (keeps_setMember p.value (.named name) v).foreign

theorem keeps_setItem (p : Proxy) (name : String) (v : Handle) :
    (setItem p name v : Act Code Client ProxyError Unit).Keeps owns [] fun _ => [] :=
  (keeps_require p _).bind fun _ => (keeps_setMember p.value (.named name) v).foreign

theorem keeps_deleteItem (p : Proxy) (name : String) :
    (deleteItem p name : Act Code Client ProxyError Unit).Keeps owns [] fun _ => [] := by
  refine (keeps_require p _).bind fun _ =>
    (keeps_deleteMember p.value (.named name)).foreign.bind fun found => ?_
  cases found with
  | true => exact Keeps.pure () fun _ => []
  | false => exact Keeps.throw _ fun _ => []

theorem keeps_keys (p : Proxy) :
    (keys p : Act Code Client ProxyError (List String)).Keeps owns [] fun _ => [] :=
  (keeps_require p _).bind fun _ => (keeps_memberNames p.value).foreign

theorem keeps_hasItem (p : Proxy) (name : String) :
    (hasItem p name : Act Code Client ProxyError Bool).Keeps owns [] fun _ => [] :=
  (keeps_require p _).bind fun _ => (keeps_keys p).bind fun _ => Keeps.pure _ fun _ => []

end Act

namespace Environment

variable {env : Environment Code Client}

theorem Balanced.keeps_toHost (hEnv : env.Balanced owns) (i : Nat) (h : Handle) :
    (env.toHost i h).Keeps owns [] fun _ => [] := by
  refine (keeps_tagOf h).foreign.bind fun tag => ?_
  -- only a value that is neither undefined nor null is wrapped
  have hWrap : Keeps owns (do return HostValue.proxy (← env.create i h)) [] fun _ => [] :=
    (hEnv.keeps_createWith i h none).bind fun _ => Keeps.pure _ fun _ => []
  cases tag with
  | undefined => exact Keeps.pure HostValue.none fun _ => []
  | null => exact Keeps.pure HostValue.none fun _ => []
  | _ => exact hWrap

theorem Balanced.keeps_call (hEnv : env.Balanced owns) (p : Proxy) (args : List Handle) :
    (env.call p args).Keeps owns [] fun _ => [] :=
  (keeps_require p _).bind fun _ => (hEnv.keeps_invoke p.value p.receiver args).foreign.bind
    fun result => (hEnv.keeps_toHost p.bridge result).holding result

theorem Balanced.keeps_len (hEnv : env.Balanced owns) (p : Proxy) :
    (env.len p).Keeps owns [] fun _ => [] := by
  refine (keeps_require p _).bind fun _ => ?_
  split
  · exact (keeps_memberNames p.value).foreign.bind fun _ => Keeps.pure _ fun _ => []
  · refine (hEnv.keeps_firstNumber p.value _).foreign.bind fun found => ?_
    cases found with
    | some x => exact Keeps.pure _ fun _ => []
    | none => exact Keeps.throw _ fun _ => []

theorem Balanced.keeps_isEmpty (hEnv : env.Balanced owns) (p : Proxy) :
    (env.isEmpty p).Keeps owns [] fun _ => [] :=
  (hEnv.keeps_len p).bind fun _ => Keeps.pure _ fun _ => []

theorem Balanced.keeps_getAttr (hEnv : env.Balanced owns) (p : Proxy) (name : String) :
    (env.getAttr p name).Keeps owns [] fun _ => [] := by
  refine (keeps_require p _).bind fun _ =>
    (hEnv.keeps_member p.value (.named name)).foreign.bind fun found => ?_
  cases found with
  | none => exact Keeps.throw _ fun _ => []
  | some member =>
    refine Keeps.holding member ((keeps_tagOf member).foreign.bind fun tag => ?_)
    split
    · exact (hEnv.keeps_createWith p.bridge member (some p.value)).bind fun _ =>
        Keeps.pure _ fun _ => []
    · exact hEnv.keeps_toHost p.bridge member

theorem Balanced.keeps_getItem (hEnv : env.Balanced owns) (p : Proxy) (name : String) :
    (env.getItem p name).Keeps owns [] fun _ => [] := by
  refine (keeps_require p _).bind fun _ =>
    (hEnv.keeps_member p.value (.named name)).foreign.bind fun found => ?_
  cases found with
  | none => exact Keeps.throw _ fun _ => []
  | some item => exact (hEnv.keeps_toHost p.bridge item).holding item

end Environment

end ProxyBridge
