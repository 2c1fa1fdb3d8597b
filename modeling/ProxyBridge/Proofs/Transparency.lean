import ProxyBridge.Proofs.Limits

/-!
# Limits that do not refuse

All that a limit does is to refuse. While it does not, nothing is as it is because of a limit:
neither what commands return, nor which numbers are given out, nor in which order things happen, nor
how often anything is counted.

So a plan that is carried out once under some limits and once under higher ones, over foreign code
that carries out plans itself at any depth, comes to the same, unless a limit refuses a command the
first time.

## Results

* `Environment.Tracks` — the foreign code of two runs; `Tracks.inspect`, `Tracks.createWith`,
  `Tracks.call` and so on follow the operations.
* `Command.tracks_perform`, `Plan.tracks_run`, `Repertoire.tracks_environment` — commands, plans by
  induction, and foreign code at any depth.
* `limits_transparent` — the law.
-/

namespace ProxyBridge

variable {Code α : Type} {x y : Limits}

/-- The foreign code of the first run tracks that of the second one. -/
structure Environment.Tracks (x y : Limits) (env env' : Environment Code (Journal Code)) :
    Prop where
  run : ∀ code receiver args,
    (env.run code receiver args).Tracks x y (env'.run code receiver args)
  decide : ∀ code h detected,
    (env.decide code h detected).Tracks x y (env'.decide code h detected)

open Act

namespace Environment

variable {env env' : Environment Code (Journal Code)}

/-! ## Reading, looking and calling -/

theorem Tracks.read (hEnv : env.Tracks x y env') (h : Handle) (k : Key) :
    (env.read h k).Tracks x y (env'.read h k) := by
  refine (Act.Tracks.of_blind (blind_object h)).bind fun o => ?_
  rcases o.members.find? k with _ | (_ | n | target) | getter
  · exact Act.Tracks.pure _
  · exact Act.Tracks.pure _
  · exact Act.Tracks.pure _
  · exact (Act.Tracks.of_blind (blind_retain target)).bind fun _ => Act.Tracks.pure _
  · exact hEnv.run getter none []

theorem Tracks.hasMethod (hEnv : env.Tracks x y env') (h : Handle) (k : Key) :
    (env.hasMethod h k).Tracks x y (env'.hasMethod h k) := by
  refine (hEnv.read h k).bind fun v => ?_
  cases v with
  | handle m =>
    exact Act.Tracks.of_blind (blind_lastLook m (·.isMethod m) fun _ _ => rfl)
  | number n => exact Act.Tracks.pure false
  | undefined => exact Act.Tracks.pure false

theorem Tracks.number (hEnv : env.Tracks x y env') (h : Handle) (name : String) :
    (env.number h name).Tracks x y (env'.number h name) := by
  refine (hEnv.read h (.named name)).bind fun v => ?_
  cases v with
  | handle m =>
    exact Act.Tracks.of_blind (blind_lastLook m (·.number? m) fun _ _ => rfl)
  | number n => exact Act.Tracks.pure (some n)
  | undefined => exact Act.Tracks.pure none

theorem Tracks.firstNumber (hEnv : env.Tracks x y env') (h : Handle) (names : List String) :
    (env.firstNumber h names).Tracks x y (env'.firstNumber h names) := by
  induction names with
  | nil => exact Act.Tracks.pure none
  | cons name rest ih =>
    refine (hEnv.number h name).bind fun found => ?_
    cases found with
    | some n => exact Act.Tracks.pure (some n)
    | none => exact ih

theorem Tracks.member (hEnv : env.Tracks x y env') (h : Handle) (k : Key) :
    (env.member h k).Tracks x y (env'.member h k) := by
  refine (hEnv.read h k).bind fun v => ?_
  have hMaterialize (v : Value) : Act.Tracks x y
      (do return some (← materialize v) :
        Act Code (Journal Code) ForeignError (Option Handle))
      (do return some (← materialize v)) :=
    (Act.Tracks.of_blind (blind_materialize v)).bind fun m => Act.Tracks.pure (some m)
  cases v with
  | undefined => exact Act.Tracks.pure none
  | number n => exact hMaterialize (.number n)
  | handle m => exact hMaterialize (.handle m)

theorem Tracks.invoke (hEnv : env.Tracks x y env') (f : Handle) (receiver : Option Handle)
    (args : List Handle) :
    (env.invoke f receiver args).Tracks x y (env'.invoke f receiver args) := by
  refine (Act.Tracks.of_blind (blind_object f)).bind fun o => ?_
  cases o.body with
  | none => exact Act.Tracks.throw _
  | some body =>
    exact (hEnv.run body receiver args).bind fun v => Act.Tracks.of_blind (blind_materialize v)

/-! ## Inspection -/

theorem Tracks.judge (hEnv : env.Tracks x y env') (r : Rule) (h : Handle)
    (detected : Capabilities) : (env.judge r h detected).Tracks x y (env'.judge r h detected) := by
  cases r with
  | measured =>
    refine (hEnv.number h "size").bind fun size => ?_
    cases size.isSome with
    | true => exact Act.Tracks.pure true
    | false =>
      cases detected.includes Capabilities.callable with
      | true => exact Act.Tracks.pure false
      | false => exact (hEnv.number h "length").bind fun _ => Act.Tracks.pure _
  | syncStep =>
    unfold Environment.judge
    dsimp only
    split
    · exact hEnv.hasMethod h _
    · exact Act.Tracks.pure false
  | asyncStep =>
    unfold Environment.judge
    dsimp only
    split
    · exact hEnv.hasMethod h _
    · exact Act.Tracks.pure false

theorem Tracks.probe (hEnv : env.Tracks x y env') (p : Probe Code) (h : Handle) (f : Findings) :
    (env.probe p h f).Tracks x y (env'.probe p h f) := by
  cases p with
  | tag tags =>
    unfold Environment.probe
    cases f.tag with
    | some tag => exact Act.Tracks.pure _
    | none => exact (Act.Tracks.of_blind (blind_tagOf h)).bind fun _ => Act.Tracks.pure _
  | method key => exact (hEnv.hasMethod h key).bind fun _ => Act.Tracks.pure _
  | numeric names => exact (hEnv.firstNumber h names).bind fun _ => Act.Tracks.pure _
  | rule r => exact (hEnv.judge r h f.detected).bind fun _ => Act.Tracks.pure _
  | custom code => exact (hEnv.decide code h f.detected).bind fun _ => Act.Tracks.pure _
  | explicit => exact Act.Tracks.pure _

theorem Tracks.examine (hEnv : env.Tracks x y env') (h : Handle) (f : Findings)
    (c : Capability Code) : (env.examine h f c).Tracks x y (env'.examine h f c) := by
  unfold Environment.examine
  split
  · exact Act.Tracks.pure f
  · exact ((hEnv.probe c.probe h f).onError fun _ => Session.Neutral.emit _).bind fun _ =>
      Act.Tracks.pure _

theorem Tracks.inspect (hEnv : env.Tracks x y env') (catalog : Catalog Code) (h : Handle) :
    (env.inspect catalog h).Tracks x y (env'.inspect catalog h) :=
  (Act.Tracks.foldlM (hEnv.examine h) _ _).bind fun _ => Act.Tracks.pure _

theorem Tracks.capabilities (hEnv : env.Tracks x y env') (i : Nat) (h : Handle) :
    (env.capabilities i h).Tracks x y (env'.capabilities i h) := by
  have hInspect (b : Bridge Code) := (hEnv.inspect b.catalog h).foreign
  have hBridge : Ensures (fun s => s.client.refused = true)
      (Act.bridge i : Act Code (Journal Code) ProxyError (Bridge Code))
      (fun _ s => s.client.refused = true) fun _ s => s.client.refused = true := by
    refine keeps_of_client fun s => ?_
    unfold after Act.bridge
    cases s.bridges[i]? <;> rfl
  refine ⟨hBridge.bind fun b => (hInspect b).keeps, ?_⟩
  intro s hs
  -- the bridge itself shows limits, so the two runs part here; its catalog is the same
  have hBridges := Session.getElem?_relimit y s i
  have hRun {e : Environment Code (Journal Code)} {t : Recorded Code} {b : Bridge Code}
      (hb : t.bridges[i]? = some b) :
      e.capabilities i h t = Act.foreign (e.inspect b.catalog h) t := by
    refine Act.bind_ok (a := b) ?_
    rw [Act.bridge, hb]
  have hNone {e : Environment Code (Journal Code)} {t : Recorded Code}
      (hb : t.bridges[i]? = none) : e.capabilities i h t = .error .notInitialized t := by
    refine Act.bind_error ?_
    rw [Act.bridge, hb]
  cases hb : s.bridges[i]? with
  | none =>
    rw [hb] at hBridges
    rw [hNone hb, hNone hBridges]
    exact Or.inr ⟨hs.limits, rfl⟩
  | some b =>
    rw [hb] at hBridges
    rw [hRun hb, hRun hBridges]
    exact (hInspect b).agrees s hs

end Environment

/-! ## Wrapping -/

namespace Act

variable {act act' : Act Code (Journal Code) ProxyError α}

theorem Tracks.reporting (value : Handle) (h : act.Tracks x y act') :
    (Act.reporting value act).Tracks x y (Act.reporting value act') :=
  h.onError fun _ => Session.Neutral.emit _

theorem tracks_require (p : Proxy) (slot : Slots) :
    (require p slot : Act Code (Journal Code) ProxyError Unit).Tracks x y (require p slot) := by
  unfold require
  cases p.shape.require slot with
  | ok u => exact Tracks.pure u
  | error e => exact Tracks.throw e

theorem tracks_ownReceiver (hxy : x.Within y) (r : Option Handle) :
    (ownReceiver r : Act Code (Journal Code) ForeignError Unit).Tracks x y (ownReceiver r) := by
  cases r with
  | none => exact Tracks.pure ()
  | some h => exact tracks_own hxy h

/-- The number of the new proxy does not depend on limits. -/
theorem tracks_join (p : Proxy) :
    Tracks x y (do
        let id := (← get).nextProxy
        modify fun s => { s with proxies := s.proxies.insert id p, nextProxy := id + 1 }
        return id : Act Code (Journal Code) ProxyError Nat)
      (do
        let id := (← get).nextProxy
        modify fun s => { s with proxies := s.proxies.insert id p, nextProxy := id + 1 }
        return id) :=
  Tracks.of_blind fun _ _ _ _ => rfl

theorem tracks_build (hxy : x.Within y) (i : Nat) (shape : Shape) (value : Handle)
    (receiver : Option Handle) :
    (build i shape value receiver : Act Code (Journal Code) ProxyError Nat).Tracks x y
      (build i shape value receiver) := by
  refine (tracks_own hxy value).foreign.bind fun _ => ?_
  refine ((tracks_ownReceiver hxy receiver).foreign.onError
    fun _ => Session.Neutral.letGo value).bind fun _ => ?_
  refine ((tracks_reserve hxy i).onError fun _ =>
    (Session.Neutral.letGo value).comp (Session.Neutral.letGo? receiver)).bind fun _ => ?_
  exact (Tracks.modify (Session.Neutral.emit _)).bind fun _ => tracks_join _

theorem tracks_shapeAndBuild (hxy : x.Within y) (i : Nat) (flags : Capabilities) (value : Handle)
    (receiver : Option Handle) (hint : Option Shape) :
    (shapeAndBuild i flags value receiver hint : Act Code (Journal Code) ProxyError Nat).Tracks x y
      (shapeAndBuild i flags value receiver hint) :=
  (tracks_resolveShape hxy i flags hint).bind fun shape => tracks_build hxy i shape value receiver

theorem tracks_createTyped (hxy : x.Within y) (i : Nat) (flags : Capabilities) (value : Handle)
    (receiver : Option Handle) :
    (createTyped i flags value receiver : Act Code (Journal Code) ProxyError Nat).Tracks x y
      (createTyped i flags value receiver) :=
  (tracks_shapeAndBuild hxy i flags value receiver none).reporting value

theorem tracks_rebind (hxy : x.Within y) (p : Proxy) (receiver : Handle) :
    (rebind p receiver : Act Code (Journal Code) ProxyError Nat).Tracks x y (rebind p receiver) :=
  (tracks_require p _).bind fun _ =>
    (tracks_shapeAndBuild hxy p.bridge _ p.value (some receiver) (some p.shape)).reporting p.value

theorem tracks_memberNames (h : Handle) :
    (memberNames h : Act Code (Journal Code) ForeignError (List String)).Tracks x y
      (memberNames h) :=
  Tracks.of_blind (blind_memberNames h)

theorem tracks_setMember (h : Handle) (k : Key) (v : Handle) :
    (setMember h k v : Act Code (Journal Code) ForeignError Unit).Tracks x y (setMember h k v) :=
  Tracks.of_blind (blind_setMember h k v)

theorem tracks_deleteMember (h : Handle) (k : Key) :
    (deleteMember h k : Act Code (Journal Code) ForeignError Bool).Tracks x y (deleteMember h k) :=
  Tracks.of_blind (blind_deleteMember h k)

theorem tracks_tagOf (h : Handle) :
    (tagOf h : Act Code (Journal Code) ForeignError Tag).Tracks x y (tagOf h) :=
  Tracks.of_blind (blind_tagOf h)

theorem tracks_setAttr (p : Proxy) (name : String) (v : Handle) :
    (setAttr p name v : Act Code (Journal Code) ProxyError Unit).Tracks x y (setAttr p name v) :=
  (tracks_require p _).bind fun _ => (tracks_setMember p.value (.named name) v).foreign

theorem tracks_setItem (p : Proxy) (name : String) (v : Handle) :
    (setItem p name v : Act Code (Journal Code) ProxyError Unit).Tracks x y (setItem p name v) :=
  (tracks_require p _).bind fun _ => (tracks_setMember p.value (.named name) v).foreign

theorem tracks_deleteItem (p : Proxy) (name : String) :
    (deleteItem p name : Act Code (Journal Code) ProxyError Unit).Tracks x y
      (deleteItem p name) := by
  refine (tracks_require p _).bind fun _ =>
    (tracks_deleteMember p.value (.named name)).foreign.bind fun found => ?_
  cases found with
  | true => exact Tracks.pure ()
  | false => exact Tracks.throw _

theorem tracks_keys (p : Proxy) :
    (keys p : Act Code (Journal Code) ProxyError (List String)).Tracks x y (keys p) :=
  (tracks_require p _).bind fun _ => (tracks_memberNames p.value).foreign

theorem tracks_hasItem (p : Proxy) (name : String) :
    (hasItem p name : Act Code (Journal Code) ProxyError Bool).Tracks x y (hasItem p name) :=
  (tracks_require p _).bind fun _ => (tracks_keys p).bind fun _ => Tracks.pure _

end Act

namespace Environment

variable {env env' : Environment Code (Journal Code)}

theorem Tracks.createWith (hxy : x.Within y) (hEnv : env.Tracks x y env') (i : Nat)
    (value : Handle) (receiver : Option Handle) :
    (env.createWith i value receiver).Tracks x y (env'.createWith i value receiver) :=
  Act.Tracks.reporting value <| (hEnv.capabilities i value).bind fun flags =>
    tracks_shapeAndBuild hxy i flags value receiver none

theorem Tracks.createMap (hxy : x.Within y) (hEnv : env.Tracks x y env') (i : Nat)
    (value : Handle) (asMap : Bool) :
    (env.createMap i value asMap).Tracks x y (env'.createMap i value asMap) :=
  ((hEnv.capabilities i value).reporting value).bind fun _ =>
    tracks_createTyped hxy i _ value none

/-! ## What proxies do -/

theorem Tracks.toHost (hxy : x.Within y) (hEnv : env.Tracks x y env') (i : Nat) (h : Handle) :
    (env.toHost i h).Tracks x y (env'.toHost i h) := by
  refine (tracks_tagOf h).foreign.bind fun tag => ?_
  have hWrap : Act.Tracks x y (do return HostValue.proxy (← env.create i h))
      (do return HostValue.proxy (← env'.create i h)) :=
    (hEnv.createWith hxy i h none).bind fun _ => Act.Tracks.pure _
  cases tag with
  | undefined => exact Act.Tracks.pure HostValue.none
  | null => exact Act.Tracks.pure HostValue.none
  | _ => exact hWrap

theorem Tracks.call (hxy : x.Within y) (hEnv : env.Tracks x y env') (p : Proxy)
    (args : List Handle) : (env.call p args).Tracks x y (env'.call p args) :=
  (tracks_require p _).bind fun _ => (hEnv.invoke p.value p.receiver args).foreign.bind
    fun result => (hEnv.toHost hxy p.bridge result).holding result

theorem Tracks.len (hEnv : env.Tracks x y env') (p : Proxy) :
    (env.len p).Tracks x y (env'.len p) := by
  refine (tracks_require p _).bind fun _ => ?_
  split
  · exact (tracks_memberNames p.value).foreign.bind fun _ => Act.Tracks.pure _
  · refine (hEnv.firstNumber p.value _).foreign.bind fun found => ?_
    cases found with
    | some n => exact Act.Tracks.pure _
    | none => exact Act.Tracks.throw _

theorem Tracks.isEmpty (hEnv : env.Tracks x y env') (p : Proxy) :
    (env.isEmpty p).Tracks x y (env'.isEmpty p) :=
  (hEnv.len p).bind fun _ => Act.Tracks.pure _

theorem Tracks.getAttr (hxy : x.Within y) (hEnv : env.Tracks x y env') (p : Proxy)
    (name : String) : (env.getAttr p name).Tracks x y (env'.getAttr p name) := by
  refine (tracks_require p _).bind fun _ =>
    (hEnv.member p.value (.named name)).foreign.bind fun found => ?_
  cases found with
  | none => exact Act.Tracks.throw _
  | some member =>
    refine Act.Tracks.holding member ((tracks_tagOf member).foreign.bind fun tag => ?_)
    split
    · exact (hEnv.createWith hxy p.bridge member (some p.value)).bind fun _ => Act.Tracks.pure _
    · exact hEnv.toHost hxy p.bridge member

theorem Tracks.getItem (hxy : x.Within y) (hEnv : env.Tracks x y env') (p : Proxy)
    (name : String) : (env.getItem p name).Tracks x y (env'.getItem p name) := by
  refine (tracks_require p _).bind fun _ =>
    (hEnv.member p.value (.named name)).foreign.bind fun found => ?_
  cases found with
  | none => exact Act.Tracks.throw _
  | some item => exact (hEnv.toHost hxy p.bridge item).holding item

end Environment

/-! ## Commands and plans -/

/-- What a client sees does not show limits. -/
theorem Session.visible_relimit (y : Limits) (s : Recorded Code) :
    (s.relimit y).visible = s.visible := by
  unfold Session.visible Session.relimit
  dsimp only
  rw [List.mapIdx_mapIdx]
  rfl

namespace Command

variable {env env' : Environment Code (Journal Code)}

theorem tracks_perform (hxy : x.Within y) (hEnv : env.Tracks x y env') (c : Command Code) :
    Act.Tracks x y (x.perform env c) (y.perform env' c) := by
  -- each command is an operation, and then its result as a reply
  have hReply {β : Type} {act act' : Act Code (Journal Code) ProxyError β}
      (h : act.Tracks x y act') (f : β → Reply Code) :
      Act.Tracks x y (act >>= fun b => pure (f b)) (act' >>= fun b => pure (f b)) :=
    h.bind fun b => Tracks.pure (f b)
  cases c with
  | openBridge catalog config => exact hReply (tracks_openBridge hxy catalog config) _
  | insert o => exact hReply (Tracks.of_blind (blind_insert o)) _
  | duplicate h => exact hReply (tracks_duplicate hxy h).foreign _
  | release h => exact hReply (Tracks.of_blind (blind_release h)) fun _ => .done
  | tag h => exact hReply (tracks_tagOf h).foreign _
  | hasMethod h k => exact hReply (hEnv.hasMethod h k).foreign _
  | number h name => exact hReply (hEnv.number h name).foreign _
  | member h k => exact hReply (hEnv.member h k).foreign _
  | setMember h k v => exact hReply (tracks_setMember h k v).foreign fun _ => .done
  | deleteMember h k => exact hReply (tracks_deleteMember h k).foreign _
  | memberNames h => exact hReply (tracks_memberNames h).foreign _
  | invoke f receiver args => exact hReply (hEnv.invoke f receiver args).foreign _
  | own h => exact hReply (tracks_own hxy h).foreign fun _ => .done
  | adopt h => exact hReply (Tracks.modify (Session.Neutral.adopt h)) fun _ => .done
  | letGo h => exact hReply (Tracks.modify (Session.Neutral.letGo h)) fun _ => .done
  | capabilities i h => exact hReply (hEnv.capabilities i h) _
  | resolve i flags hint => exact hReply (tracks_resolveShape hxy i flags hint) _
  | create i h receiver => exact hReply (hEnv.createWith hxy i h receiver) _
  | createTyped i flags h receiver => exact hReply (tracks_createTyped hxy i flags h receiver) _
  | createMap i h asMap => exact hReply (hEnv.createMap hxy i h asMap) _
  | rebind p receiver => exact hReply (tracks_rebind hxy p receiver) _
  | call p args => exact hReply (hEnv.call hxy p args) _
  | len p => exact hReply (hEnv.len p) _
  | isEmpty p => exact hReply (hEnv.isEmpty p) _
  | getAttr p name => exact hReply (hEnv.getAttr hxy p name) _
  | setAttr p name v => exact hReply (tracks_setAttr p name v) fun _ => .done
  | getItem p name => exact hReply (hEnv.getItem hxy p name) _
  | setItem p name v => exact hReply (tracks_setItem p name v) fun _ => .done
  | deleteItem p name => exact hReply (tracks_deleteItem p name) fun _ => .done
  | hasItem p name => exact hReply (tracks_hasItem p name) _
  | keys p => exact hReply (tracks_keys p) _
  | destroy id => exact hReply (Tracks.modify (Session.Neutral.destroy id)) fun _ => .done
  | look =>
    -- the one command that shows the whole session
    refine ⟨fun _ hs => hs, fun s hs => Or.inr ⟨hs, ?_⟩⟩
    change EStateM.Result.ok (Reply.session (s.relimit y).visible) _ = _
    rw [Session.visible_relimit]
    rfl

section Record

variable {ε : Type} {s s' : Recorded Code} {c : Command Code}

theorem record_ok {r : Reply Code} (h : x.perform env c s = .ok r s') :
    (c.record x env : Act Code (Journal Code) ε (Journal Code)) s =
      .ok (.reply c (.ok r) :: s'.client) (s'.note (.reply c (.ok r))) := by
  unfold Command.record
  rw [h]
  rfl

theorem record_error {e : ProxyError} (h : x.perform env c s = .error e s') :
    (c.record x env : Act Code (Journal Code) ε (Journal Code)) s =
      .ok (.reply c (.error e) :: s'.client) (s'.note (.reply c (.error e))) := by
  unfold Command.record
  rw [h]
  rfl

end Record

/-- A refused command is on record as such, and after any other command both plans know the same. -/
theorem tracks_record {ε : Type} [Refusable ε] (hxy : x.Within y) (hEnv : env.Tracks x y env')
    (c : Command Code) :
    (c.record x env : Act Code (Journal Code) ε (Journal Code)).Tracks x y (c.record y env') := by
  have hPerform := c.tracks_perform hxy hEnv
  refine ⟨?_, ?_⟩
  · intro s hs
    have hKeeps := hPerform.keeps s hs
    cases hr : x.perform env c s with
    | ok r s' =>
      rw [hr] at hKeeps
      rw [record_ok hr]
      exact hKeeps
    | error e s' =>
      rw [hr] at hKeeps
      rw [record_error hr]
      show (_ || Journal.refused s'.client) = true
      rw [show Journal.refused s'.client = true from hKeeps, Bool.or_true]
  · intro s hs
    have hAgrees := hPerform.agrees s hs
    cases hr : x.perform env c s with
    | ok r s' =>
      rw [hr] at hAgrees
      rw [record_ok hr]
      rcases hAgrees with hRefused | ⟨hReady, hSame⟩
      · exact Or.inl hRefused
      · right
        rw [record_ok hSame]
        exact ⟨⟨congrArg (Session.note · _) hReady.limits, rfl⟩, rfl⟩
    | error e s' =>
      rw [hr] at hAgrees
      rw [record_error hr]
      rcases hAgrees with hRefused | ⟨hLimits, hSame⟩
      · left
        show (Journal.isCalm s'.client && Refusable.isRefusal e || Journal.refused s'.client) = true
        rcases hRefused with hEarlier | ⟨hError, hCalm⟩
        · rw [hEarlier, Bool.or_true]
        · rw [hError, hCalm]
          rfl
      · right
        rw [record_error hSame]
        exact ⟨⟨congrArg (Session.note · _) hLimits, rfl⟩, rfl⟩

end Command

/-- A plan that is carried out twice goes on in the same way, as long as the journals are the
same. -/
theorem Plan.tracks_run {env env' : Environment Code (Journal Code)} (hxy : x.Within y)
    (hEnv : env.Tracks x y env') (plan : Plan Code α) :
    (plan.run x env).Tracks x y (plan.run y env') := by
  induction plan with
  | done r =>
    cases r with
    | ok a => exact Act.Tracks.pure a
    | error e =>
      -- an error that foreign code raises is no refusal, whatever it says
      refine ⟨fun _ hs => hs, fun s hs => Or.inr ⟨?_, rfl⟩⟩
      exact congrArg (Session.note · _) hs.limits
  | step c next ih => exact (c.tracks_record hxy hEnv).bind fun journal => ih journal

/-- A plan fails only with an error of its own choice. -/
theorem Plan.ensures_raised {env : Environment Code (Journal Code)} (plan : Plan Code α) :
    Ensures (fun _ => True) (plan.run x env) (fun _ _ => True) fun _ s =>
      s.client.isCalm = false := by
  induction plan with
  | done r =>
    cases r with
    | ok a => exact fun _ _ => trivial
    | error e => exact fun _ _ => rfl
  | step c next ih =>
    -- a command that fails is on record, and does not end the plan
    have hRecord : Ensures (fun _ => True)
        (c.record x env : Act Code (Journal Code) ForeignError (Journal Code)) (fun _ _ => True)
        fun _ s => s.client.isCalm = false := fun _ _ => trivial
    exact hRecord.bind ih

/-- Foreign code that carries out plans, at any depth. -/
theorem Repertoire.tracks_environment (hxy : x.Within y) (l : Repertoire Code) (depth : Nat) :
    (l.environment x depth).Tracks x y (l.environment y depth) := by
  -- plans at one depth run plans at the depth below
  induction depth with
  | zero => exact ⟨fun _ _ _ => Act.Tracks.throw _, fun _ _ _ => Act.Tracks.throw _⟩
  | succ depth ih =>
    refine ⟨?_, ?_⟩
    · intro code receiver args
      exact Act.Tracks.journal_bind fun journal =>
        (l.body code receiver args journal).tracks_run hxy ih
    · intro code h detected
      exact Act.Tracks.journal_bind fun journal =>
        (l.probe code h detected journal).tracks_run hxy ih

/-! ## The law -/

/-- A table and a client that have done nothing, under limits. -/
def Recorded.start (x : Limits) (timing : Bool) : Recorded Code :=
  Session.new (.empty x.references) timing []

/--
**Limits are transparent until they refuse.** Carry out a plan under some limits, over foreign code
that carries out plans of its own at any depth, and carry it out again with each of the limits
raised or removed. If in the first run no limit refuses a command at any depth, then the second run
is the first one: it ends in the same way, in the same session but for the limits. So the same has
come back from every command, and there are the same values and references, the same shapes with the
same numbers, the same proxies, the same counters, and the same log.
-/
theorem limits_transparent (hxy : x.Within y) (l : Repertoire Code) (depth : Nat) (timing : Bool)
    (plan : Plan Code α)
    (hRefused : ((plan.run x (l.environment x depth)).after
      (Recorded.start x timing)).client.refused = false) :
    plan.run y (l.environment y depth) (Recorded.start y timing) =
      mapState (Session.relimit y)
        (plan.run x (l.environment x depth) (Recorded.start x timing)) := by
  have hTracks := plan.tracks_run hxy (l.tracks_environment hxy depth)
  have hReady : (Recorded.start x timing : Recorded Code).Ready x := ⟨rfl, rfl⟩
  rcases hTracks.agrees _ hReady with hEnd | ⟨-, hSame⟩
  · -- a run that was refused has it on record, since no plan fails with the error of a limit
    exfalso
    have hEnsures : Ensures (fun _ => True) (plan.run x (l.environment x depth))
        (fun _ _ => True) fun _ s => s.client.isCalm = false := plan.ensures_raised
    have hRaised := hEnsures (Recorded.start x timing) trivial
    unfold after at hRefused
    cases hr : plan.run x (l.environment x depth) (Recorded.start x timing) with
    | ok a s =>
      rw [hr] at hEnd hRefused
      exact absurd (hEnd.symm.trans hRefused) (by decide)
    | error e s =>
      rw [hr] at hEnd hRefused hRaised
      rcases hEnd with hRecord | ⟨-, hCalm⟩
      · exact absurd (hRecord.symm.trans hRefused) (by decide)
      · exact absurd (hCalm.symm.trans hRaised) (by decide)
  · exact hSame

/-- A getter that wraps a function each time it is read, and returns a number. -/
def exampleWrapping : Repertoire Unit where
  body _ _ _ _ :=
    .step (.createTyped 0 Capabilities.callable ⟨2⟩ none) fun _ => .done (.ok (.number (.ofNat 3)))
  probe _ _ _ _ := .done (.ok false)

/-- Wraps a value with such a getter, and looks at what has come of it. -/
def exampleMeasuring : Plan Unit Unit :=
  .step (.openBridge .standard { registry := { prewarm := [Capabilities.callable] } }) fun _ =>
    .step (.insert (.function ())) fun _ =>
      .step (.insert (Object.plain.withMember (.named "size") (.accessor ()))) fun _ =>
        .step (.create 0 ⟨3⟩ none) fun _ => .step .look fun _ => .done (.ok ())

/-- Just enough for the plan: two values and two proxies, of two shapes besides the plain one. -/
def exampleLimits : Limits :=
  { references := some 4, shapes := fun _ => some 3, proxies := fun _ => some 2 }

/-- The plan fits, and one proxy less would not do: the one that the getter makes comes first. -/
theorem limits_transparent_measuring :
    exampleLimits.Within .unlimited ∧
      (let run (z : Limits) :=
        exampleMeasuring.run z (exampleWrapping.environment z 1) (Recorded.start z false)
      run .unlimited = mapState (Session.relimit .unlimited) (run exampleLimits)) ∧
      (let z := { exampleLimits with proxies := fun _ => some 1 }
      ((exampleMeasuring.run z (exampleWrapping.environment z 1)).after
        (Recorded.start z false)).client.refused = true) := by
  have hWithin : exampleLimits.Within .unlimited := by
    refine ⟨trivial, fun _ => trivial, fun _ => ?_⟩
    show 2 ≤ Heap.capacity
    decide
  exact ⟨hWithin, limits_transparent hWithin exampleWrapping 1 false exampleMeasuring
    (by decide +kernel), by decide +kernel⟩

end ProxyBridge
