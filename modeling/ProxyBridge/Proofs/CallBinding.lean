import ProxyBridge.Proofs.Balance
import ProxyBridge.Proofs.Getters
import ProxyBridge.Proofs.ObjectMap

/-!
# The receiver of a call

A proxy is bound when it is made: a call through it runs the body of its value with its receiver,
and both are what they were, whatever happens to foreign values meanwhile. The proxy cannot change,
so there are two things to see. Its value and its receiver have to be there when the call comes,
which they are as long as values are counted at least as often as live proxies own them; and they
have to be what they were, which they are since a handle names one value for good.

The body is entered once. What comes back is handed to the host, which may look at its members and
run probes, but enters no other body: a wrap runs getters and probes only.

## Results

* `Environment.Creates` — what each way of making a proxy binds.
* `Session.Backed` — live proxies are counted, as they are if nobody has given back too much;
  `Session.Path.owned_stays` — what they own stays.
* `Environment.settle`, `Environment.call_eq`, `Environment.callsOnce` — a call, from the body to
  the host.
* `Environment.SameReads.settle_eq` — nothing but getters and probes runs after the body.
* `call_binding` — call binding, in one statement.
-/

namespace ProxyBridge

variable {Code Client Mind : Type} {known : Client → List Shape}

open Session

/-! ## What is bound when a proxy is made -/

/-- What the ways of making a proxy bind it to. -/
structure Environment.Creates (env : Environment Code Client) (s : Session Code Client) : Prop where
  createWith : ∀ i value receiver id s', env.createWith i value receiver s = .ok id s' →
    ∃ found s₁, env.capabilities i value s = .ok found s₁ ∧ s'.Made id i found value receiver
  createTyped : ∀ i flags value receiver id s',
    (Act.createTyped i flags value receiver : Act Code Client ProxyError Nat) s = .ok id s' →
      s'.Made id i flags value receiver
  createMap : ∀ i value asMap id s', env.createMap i value asMap s = .ok id s' →
    ∃ found s₁, env.capabilities i value s = .ok found s₁ ∧
      s'.Made id i (if asMap then found ||| Capabilities.objectMap else found) value none
  /-- Nothing but the receiver is new. -/
  rebind : ∀ p ∈ s.proxies.values, ∀ receiver id s', Act.rebind p receiver s = .ok id s' →
    s'.proxies.find? id = some { p with receiver := some receiver }
  /-- A member that is a function is bound to the value that it was read from. -/
  getAttr : ∀ p name x s', env.getAttr p name s = .ok x s' →
    ∀ member s₁ o, env.member p.value (.named name) s = .ok (some member) s₁ →
      s₁.table.object member = .ok o → o.tag = .function →
        ∃ id found, x = .proxy id ∧ s'.Made id p.bridge found member (some p.value)

section Creates

variable {env : Environment Code Client} {s s' : Session Code Client} {i id : Nat}
  {value : Handle} {receiver : Option Handle}

theorem Environment.creates (hEnv : env.Walks known) (hs : s.Canonical known)
    (hTable : s.table.WellFormed) : env.Creates s where
  createWith i value receiver id s' hRun := made_of_createWith hEnv hs hTable hRun
  createTyped i flags value receiver id s' hRun := Act.made_of_createTyped hs hTable hRun
  createMap i value asMap id s' hRun := made_of_createMap hEnv hs hTable hRun
  rebind p hp receiver id s' hRun := Act.find?_of_rebind (hs.hintsAgree hTable) hp hRun
  getAttr p name x s' hRun member s₁ o hMember ho hFunction := by
    have hPath : Path known s (s₁.adopt member) :=
      ((hEnv.member p.value (.named name)).path_ok hMember).tail (.owners _)
    obtain ⟨_, s₂, hRequire, hRest⟩ := Act.bind_eq_ok hRun
    cases Act.Still.ofExcept _ _ _ hRequire
    rw [Act.bind_ok (Act.foreign_ok hMember)] at hRest
    obtain ⟨s₂, hWrap, rfl⟩ := Act.holding_eq_ok hRest
    have hTag : Act.foreign (Act.tagOf member) (s₁.adopt member) =
        .ok o.tag (s₁.adopt member) :=
      Act.foreign_ok (Act.bind_ok (Act.object_ok ho))
    rw [Act.bind_ok hTag, hFunction, if_pos (beq_self_eq_true _)] at hWrap
    obtain ⟨id, s₃, hBound, hEnd⟩ := Act.bind_eq_ok hWrap
    cases hEnd
    obtain ⟨found, -, -, hMade⟩ := made_of_createWith hEnv (Path.canonical hPath hs)
      (Path.wellFormed hPath hTable) hBound
    exact ⟨id, found, rfl, hMade.letGo member⟩

end Creates

/-! ## What a proxy owns stays -/

namespace Session

/-- Every value is counted at least as often as live proxies own it. -/
def Backed (s : Session Code Client) : Prop := ∀ h, s.proxyRefs h ≤ s.table.refcount h

section Backed

variable {s s' : Session Code Client} {p : Proxy} {id : Nat} {h : Handle}

/-- Only handles that live proxies own have to be looked at. -/
theorem backed_of_owned (hOwned : ∀ e ∈ s.proxies, ∀ h ∈ e.2.owned,
    s.proxyRefs h ≤ s.table.refcount h) : s.Backed := by
  intro h
  by_cases hSome : ∃ e ∈ s.proxies, h ∈ e.2.owned
  · obtain ⟨e, he, hMem⟩ := hSome
    exact hOwned e he h hMem
  · have hNone : s.proxyRefs h = 0 := Dict.total_eq_zero fun e he =>
      List.count_eq_zero.mpr fun hMem => hSome ⟨e, he, hMem⟩
    rw [hNone]
    exact Nat.zero_le _

theorem Backed.isLive (hs : s.Backed) (hTable : s.table.WellFormed)
    (hp : s.proxies.find? id = some p) (hh : h ∈ p.owned) : s.table.isLive h = true := by
  rw [hTable.isLive_iff_refcount]
  have hOne : 1 ≤ tally p.owned h := List.count_pos_iff.mpr hh
  have hAll : tally p.owned h ≤ s.proxyRefs h := Dict.le_total (fun p => tally p.owned h) hp
  have hCount := hs h
  omega

/-- The value and the receiver of a proxy are there as long as the proxy is, and are what they
were. -/
theorem Path.owned_stays (hPath : Path known s s') (hTable : s.table.WellFormed)
    (hp : s.proxies.find? id = some p) (hp' : s'.proxies.find? id = some p) (hs : s.Backed)
    (hs' : s'.Backed) (hh : h ∈ p.owned) :
    ∃ e e', s.table.entry? h = some e ∧ s'.table.entry? h = some e' ∧
      e'.object.identity = e.object.identity := by
  obtain ⟨e, he⟩ := Table.isLive_iff.mp (hs.isLive hTable hp hh)
  obtain ⟨e', he'⟩ := Table.isLive_iff.mp (hs'.isLive (Path.wellFormed hPath hTable) hp' hh)
  exact ⟨e, e', he, he', (Path.precedes hPath hTable).identity hTable he he'⟩

end Backed

end Session

/-! ## From the body to the host -/

namespace Environment

section Settle

variable (env : Environment Code Client) {s : Session Code Client} {p : Proxy} {o : Object Code}
  {code : Code}

/-- What becomes of the result of a body: nothing for `undefined` and `null`, and a new proxy
otherwise. The reference of the result is given back in any case. -/
def settle (i : Nat) (h : Handle) (s : Session Code Client) :
    EStateM.Result ProxyError (Session Code Client) HostValue :=
  match s.table.object h with
  | .error e => .error (.foreign e) ((s.adopt h).letGo h)
  | .ok o =>
    if o.tag.IsNothing then .ok .none ((s.adopt h).letGo h)
    else
      match env.create i h (s.adopt h) with
      | .ok id s' => .ok (.proxy id) (s'.letGo h)
      | .error e s' => .error e (s'.letGo h)

theorem holding_toHost (i : Nat) (h : Handle) (s : Session Code Client) :
    Act.holding h (env.toHost i h) s = env.settle i h s := by
  rw [Act.holding, settle, toHost]
  cases ho : s.table.object h with
  | error e =>
    have hTag : Act.foreign (Act.tagOf h) (s.adopt h) = .error (.foreign e) (s.adopt h) :=
      Act.foreign_error (Act.bind_error (Act.object_error ho))
    rw [Act.bind_error hTag]
  | ok o =>
    have hTag : Act.foreign (Act.tagOf h) (s.adopt h) = .ok o.tag (s.adopt h) :=
      Act.foreign_ok (Act.bind_ok (Act.object_ok ho))
    rw [Act.bind_ok hTag]
    dsimp only
    by_cases hNothing : o.tag.IsNothing
    · rw [if_pos hNothing]
      rcases hNothing with hUndefined | hNull
      · rw [hUndefined]
        rfl
      · rw [hNull]
        rfl
    · rw [if_neg hNothing]
      -- all tags but two are wrapped
      cases hKind : o.tag with
      | undefined => exact absurd (Or.inl hKind) hNothing
      | null => exact absurd (Or.inr hKind) hNothing
      | _ =>
        dsimp only
        cases hr : env.create i h (s.adopt h) with
        | ok id s' => rw [Act.bind_ok hr]; rfl
        | error e s' => rw [Act.bind_error hr]

/-- A call enters the body of the value once, with the receiver and the arguments, and hands the
result to the host. An error of the body is passed on as it is. -/
theorem call_eq (hSlot : p.shape.hasSlot Slots.call = true) (ho : s.table.object p.value = .ok o)
    (hBody : o.body = some code) (args : List Handle) :
    env.call p args s =
      match env.run code p.receiver args s with
      | .ok x s₁ =>
        match Act.materialize x s₁ with
        | .ok h s₂ => env.settle p.bridge h s₂
        | .error e s₂ => .error (.foreign e) s₂
      | .error e s₁ => .error (.foreign e) s₁ := by
  have hInvoke : env.invoke p.value p.receiver args s =
      (env.run code p.receiver args >>= Act.materialize) s := by
    rw [invoke, Act.bind_ok (Act.object_ok ho), hBody]
  rw [call, Act.bind_ok (Act.require_ok hSlot)]
  cases hRun : env.run code p.receiver args s with
  | error e s₁ =>
    rw [Act.bind_error hRun] at hInvoke
    rw [Act.bind_error (Act.foreign_error hInvoke)]
  | ok x s₁ =>
    rw [Act.bind_ok hRun] at hInvoke
    dsimp only
    cases hResult : Act.materialize x s₁ with
    | error e s₂ =>
      rw [hResult] at hInvoke
      rw [Act.bind_error (Act.foreign_error hInvoke)]
    | ok h s₂ =>
      rw [hResult] at hInvoke
      rw [Act.bind_ok (Act.foreign_ok hInvoke), env.holding_toHost]

/-- What a body has returned comes to the host without entering another body. -/
theorem SameReads.settle_eq {getters : Code → Prop} {env env' : Environment Code Client}
    (hEnv : env.SameReads getters env') (hs : s.table.Gets getters) (i : Nat) (h : Handle) :
    env.settle i h s = env'.settle i h s := by
  rw [settle, settle, create, create]
  have hCreate : env.createWith i h none (s.adopt h) = env'.createWith i h none (s.adopt h) :=
    (hEnv.createWith i h none (s.adopt h) hs).1
  rw [hCreate]

end Settle

/-! ## Calls of a proxy -/

section Calls

variable {env : Environment Code Client} {s s' : Session Code Client} {i : Nat} {h : Handle}

/-- What a call of a proxy comes to whose value has the body. The body runs once, with the receiver
of the proxy and the arguments. Its error is passed on; its result is settled, `undefined` as
nothing; and a proxy that comes back is one of the result, without a receiver. -/
def CallsOnce (env : Environment Code Client) (p : Proxy) (code : Code) (args : List Handle)
    (s : Session Code Client) : Prop :=
  match env.run code p.receiver args s with
  | .error e s₁ => env.call p args s = .error (.foreign e) s₁
  | .ok x s₁ =>
    ∃ h s₂, Act.materialize x s₁ = .ok h s₂ ∧ env.call p args s = env.settle p.bridge h s₂ ∧
      (x = .undefined → ∃ s₃, env.call p args s = .ok .none s₃) ∧
      ∀ id s₃, env.call p args s = .ok (.proxy id) s₃ → ∃ found, s₃.Made id p.bridge found h none

theorem made_of_settle (hEnv : env.Walks known) (hs : s.Canonical known)
    (hTable : s.table.WellFormed) {id : Nat} (hRun : env.settle i h s = .ok (.proxy id) s') :
    ∃ found, s'.Made id i found h none := by
  have hAdopt : Path known s (s.adopt h) := .single (.owners _)
  unfold settle at hRun
  split at hRun
  · cases hRun
  · split at hRun
    · cases hRun
    · split at hRun
      · next hCreate =>
        obtain ⟨found, -, -, hMade⟩ := made_of_createWith hEnv (Path.canonical hAdopt hs)
          (Path.wellFormed hAdopt hTable) hCreate
        cases hRun
        exact ⟨found, hMade.letGo h⟩
      · cases hRun

theorem settle_nothing (env : Environment Code Client) {o : Object Code}
    (ho : s.table.object h = .ok o) (hTag : o.tag.IsNothing) (i : Nat) :
    env.settle i h s = .ok .none ((s.adopt h).letGo h) := by
  unfold settle
  rw [ho]
  exact if_pos hTag

/-- The handle of `undefined` is there to stand for a result that is undefined. -/
theorem materialize_undefined (hs : s.table.Counted) :
    ∃ s' o, Act.materialize .undefined s = .ok Handle.undefined s' ∧
      s'.table.object Handle.undefined = .ok o ∧ o.tag = .undefined := by
  obtain ⟨e, he, hTag⟩ := hs.undefined
  have hTaken := Table.retain_eq_ok_iff.mpr ⟨Table.isLive_iff.mpr ⟨e, he⟩, rfl⟩
  have ho : s.table.object Handle.undefined = .ok e.object :=
    Table.object_eq_ok_iff.mpr ⟨e, he, rfl⟩
  exact ⟨_, e.object, Act.bind_ok (Act.onTable_ok hTaken),
    (Table.object_retain hTaken _).trans ho, hTag⟩

/-- A result of foreign code has a handle. -/
theorem exists_materialize (hs : s.table.Counted) (x : Value) :
    ∃ h s', Act.materialize x s = .ok h s' := by
  cases x with
  | undefined =>
    obtain ⟨s', -, hResult, -⟩ := materialize_undefined hs
    exact ⟨_, s', hResult⟩
  | number x => exact ⟨_, _, rfl⟩
  | handle h => exact ⟨_, _, rfl⟩

/-- A call enters the body that the value has at that moment. -/
theorem callsOnce {limit : Option Nat} {timing : Bool} {mind : Mind} {s : World Code Mind}
    {env : Environment Code (Memory Mind)} {p : Proxy} {o : Object Code} {code : Code}
    (hStart : Path Memory.shapes (World.new (Table.empty limit) timing mind) s)
    (hEnv : env.Walks Memory.shapes) (hSlot : p.shape.hasSlot Slots.call = true)
    (ho : s.table.object p.value = .ok o) (hBody : o.body = some code) (args : List Handle) :
    env.CallsOnce p code args s := by
  have hCall := env.call_eq hSlot ho hBody args
  unfold CallsOnce
  cases hRun : env.run code p.receiver args s with
  | error e s₁ =>
    rw [hRun] at hCall
    exact hCall
  | ok x s₁ =>
    rw [hRun] at hCall
    have hPath₁ := hStart.trans ((hEnv.run code p.receiver args).path_ok hRun)
    have hCounted := World.counted_of_path hPath₁
    obtain ⟨h, s₂, hResult⟩ := exists_materialize hCounted x
    dsimp only at hCall
    rw [hResult] at hCall
    have hPath₂ := hPath₁.trans ((Act.walks_materialize x).path_ok hResult)
    refine ⟨h, s₂, hResult, hCall, ?_, ?_⟩
    · rintro rfl
      obtain ⟨s₂', o', hUndefined, ho', hTag⟩ := materialize_undefined hCounted
      cases hResult.symm.trans hUndefined
      exact ⟨_, hCall.trans (env.settle_nothing ho' (Or.inl hTag) p.bridge)⟩
    · intro id s₃ hProxy
      exact made_of_settle hEnv (World.canonical_of_path hPath₂)
        (Path.wellFormed hPath₂ (Table.wellFormed_empty limit)) (hCall.symm.trans hProxy)

end Calls

end Environment

/-! ## Call binding -/

/--
**Calls are bound for the life of a proxy.** At any moment of a run, a wrap that succeeds makes a
proxy with the value and the receiver that it was given, and with the mask that was found or chosen;
another receiver makes a proxy that differs in nothing else; and an attribute that is a function is
bound to the value of the proxy that it was read from. From then on, whatever happens, the proxy is
found as it was made. As long as values are counted for the proxies that own them, its value and its
receiver are there and are what they were, and a call enters the body that the value had, once, with
the receiver that the proxy was made with and the arguments as they are. What follows the body is
the same in every environment with the same getters and probes: if all getters that are stored are
of a kind, other code can be replaced at will.
-/
theorem call_binding {limit : Option Nat} {timing : Bool} {mind : Mind} {s₀ : World Code Mind}
    {env : Environment Code (Memory Mind)}
    (hStart : Path Memory.shapes (World.new (Table.empty limit) timing mind) s₀)
    (hEnv : env.Walks Memory.shapes) :
    env.Creates s₀ ∧
    (∀ id p s q, s₀.proxies.find? id = some p → Path Memory.shapes s₀ s →
      s.proxies.find? id = some q → q = p ∧
      (s₀.Backed → s.Backed →
        (∀ h ∈ p.owned, ∃ e₀ e, s₀.table.entry? h = some e₀ ∧ s.table.entry? h = some e ∧
          e.object.identity = e₀.object.identity) ∧
        ∀ o code, s₀.table.object p.value = .ok o → o.body = some code →
          p.shape.hasSlot Slots.call = true → ∀ args, env.CallsOnce p code args s)) ∧
    ∀ getters env', env.SameReads getters env' → ∀ i h s, s.table.Gets getters →
      env.settle i h s = env'.settle i h s := by
  have hTable := Path.wellFormed hStart (Table.wellFormed_empty limit)
  refine ⟨env.creates hEnv (World.canonical_of_path hStart) hTable, ?_,
    fun getters env' hSame i h s hGets => hSame.settle_eq hGets i h⟩
  intro id p s q hp hPath hq
  obtain rfl := Path.proxy_eq hPath (World.numbered_of_path hStart) hp hq
  refine ⟨rfl, fun hBacked₀ hBacked => ?_⟩
  have hOwned (h : Handle) (hh : h ∈ q.owned) :=
    Path.owned_stays hPath hTable hp hq hBacked₀ hBacked hh
  refine ⟨hOwned, ?_⟩
  intro o code ho hBody hSlot args
  -- the value has the body that it had
  obtain ⟨e₀, e, he₀, he, hIdentity⟩ := hOwned q.value (List.mem_cons_self ..)
  have hSame : e₀.object = o := by
    rw [Table.object, he₀] at ho
    exact Except.ok.inj ho
  have hCode : e.object.body = some code := by
    rw [← hBody, ← hSame]
    exact congrArg (·.2.1) hIdentity
  exact Environment.callsOnce (hStart.trans hPath) hEnv hSlot
    (Table.object_eq_ok_iff.mpr ⟨e, he, rfl⟩) hCode args

/-- Code that returns its receiver, with a reference of its own. -/
def exampleReporter : Library Unit Unit where
  body _ receiver _ :=
    { calls := fun _ => receiver.toList.map fun h => .command (.duplicate h)
      result := fun _ => .ok (receiver.elim .undefined .handle) }
  probe _ _ _ := { calls := fun _ => [], result := fun _ => .ok true }

/-- A function, and an object that its calls are bound to. -/
def exampleBoundProxy : Proxy where
  bridge := 0
  shape := .compose (Catalog.standard : Catalog Unit) 0 1 Capabilities.callable
  value := ⟨2⟩
  receiver := some ⟨3⟩

/-- The proxy is made. -/
def exampleBinding : List (Call Unit Unit) :=
  [.command (.openBridge .standard {}), .command (.insert (.function ())),
    .command (.insert .plain), .command (.createTyped 0 Capabilities.callable ⟨2⟩ (some ⟨3⟩))]

/-- The function becomes a member of the object, is bound to itself as well, and both references
that came with the values are given back. -/
def exampleUnbinding : List (Call Unit Unit) :=
  [.command (.setMember ⟨3⟩ (.named "f") ⟨2⟩), .command (.rebind exampleBoundProxy ⟨2⟩),
    .command (.release ⟨2⟩), .command (.release ⟨3⟩)]

/-- The value of the proxy that a call returns. -/
def exampleReported (p : Proxy) (s : World Unit Unit) : Option Handle :=
  match (exampleReporter.environment 1).call p [] s with
  | .ok (.proxy id) s' => (s'.proxies.find? id).map (·.value)
  | _ => none

/-- A call goes to the object, as it did when the proxy was made. -/
theorem call_binding_reporter :
    let env := exampleReporter.environment 1
    let s₀ := Call.performAll env exampleBinding (World.new (.empty none) false ())
    let s := Call.performAll env exampleUnbinding s₀
    s₀.Backed ∧ s.Backed ∧ s.proxies.find? 0 = some exampleBoundProxy ∧
      exampleReported exampleBoundProxy s = some ⟨3⟩ ∧
      env.CallsOnce exampleBoundProxy () [] s := by
  intro env s₀ s
  have hWalks := exampleReporter.walks_environment 1
  have hStart := Call.path_performAll hWalks exampleBinding (World.new (.empty none) false ())
  have hPath := Call.path_performAll hWalks exampleUnbinding s₀
  have hBacked₀ : s₀.Backed := backed_of_owned (by decide +kernel)
  have hBacked : s.Backed := backed_of_owned (by decide +kernel)
  have hp₀ : s₀.proxies.find? 0 = some exampleBoundProxy := by decide +kernel
  have hp : s.proxies.find? 0 = some exampleBoundProxy := by decide +kernel
  have ho : s₀.table.object ⟨2⟩ = .ok (.function ()) := by decide +kernel
  obtain ⟨-, hLife, -⟩ := call_binding hStart hWalks
  have hCalls := ((hLife 0 _ s _ hp₀ hPath hp).2 hBacked₀ hBacked).2 _ () ho rfl (by decide) []
  exact ⟨hBacked₀, hBacked, hp, by decide +kernel, hCalls⟩

end ProxyBridge
