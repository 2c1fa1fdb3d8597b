import ProxyBridge.Proofs.CallBinding
import ProxyBridge.Proofs.Inspection

/-!
# What is callable

Three parts of the system decide whether a value can be called. An inspection goes by its tag, a
look at a member by its tag or its body, and a call by its body alone. Tag and body are given to a
value by its constructor and stay, so whether the three agree is known when the value is made. They
do, but for one kind of value: one with the tag of functions and no body, which every part of
detection takes for callable and no call gets through to.

The bit for callable values is the first of the standard catalog, and its probe asks for the tag
while no foreign code has run. What the later probes run cannot take it away.

## Results

* `Object.Built` — the values that constructors make; `Built.isMethod` — their tag says it all.
* `Environment.includes_callable` — the bit that an inspection finds.
* `Environment.Detects`, `Environment.Answers` — what detection says, and what a call does.
* `callable_by_tag_called_by_body` — both, at every moment while a value is there.
* `bodiless_function_detected` — a value on which they differ.
-/

namespace ProxyBridge

variable {Code Client Mind ε α β : Type} {known : Client → List Shape}

open Session

/-! ## What constructors make -/

namespace Object

/-- The values that constructors make: one of a tag, a function with its body, a number, and each
of them with more members. -/
inductive Built : Object Code → Prop where
  | ofTag (tag : Tag) : Built (.ofTag tag)
  | function (body : Code) : Built (.function body)
  | ofNumber (x : Double) : Built (.ofNumber x)
  | withMember {o : Object Code} (ho : Built o) (k : Key) (m : Member Code) :
    Built (o.withMember k m)

variable {o o' : Object Code}

theorem Built.ordered (ho : o.Built) : o.members.Ordered := by
  induction ho with
  | ofTag | function | ofNumber => exact .nil
  | withMember _ k m ih => exact Dict.ordered_insert ih k m

/-- Only functions have bodies. -/
theorem Built.tag_of_body (ho : o.Built) (hBody : o.body.isSome = true) : o.tag = .function := by
  induction ho with
  | ofTag | ofNumber => cases hBody
  | function => rfl
  | withMember _ k m ih => exact ih hBody

/-- So whether a value is a method is a matter of its tag. -/
theorem Built.isMethod (ho : o.Built) : o.isMethod = (o.tag == .function) := by
  unfold Object.isMethod
  -- a value with a body has the tag as well, so the second half adds nothing
  cases hBody : o.body.isSome with
  | false => rfl
  | true => rw [ho.tag_of_body hBody]; rfl

theorem isMethod_of_identity (h : o'.identity = o.identity) : o'.isMethod = o.isMethod := by
  obtain ⟨hTag, hRest⟩ := Prod.mk.inj h
  obtain ⟨hBody, -⟩ := Prod.mk.inj hRest
  rw [Object.isMethod, Object.isMethod, hTag, hBody]

end Object

/-! ## Detection -/

namespace Environment

variable (env : Environment Code Client) {s s' : Session Code Client} {v : Handle} {o : Object Code}

/-- What is found at other places leaves a bit as it is. -/
theorem ensures_foldlM_keeps (h : Handle) {flag : Capabilities} {l : List (Capability Code)}
    (hApart : ∀ x ∈ l, x.flag.meets flag = false) (f : Findings) :
    Act.Ensures (fun _ => True) (l.foldlM (env.examine h) f)
      (fun f' _ => f'.detected.includes flag = f.detected.includes flag) fun _ _ => True := by
  induction l generalizing f with
  | nil => exact fun _ _ => rfl
  | cons x rest ih =>
    rw [List.foldlM_cons]
    refine (env.ensures_examine h f x).bind ?_
    intro f'
    -- one place decides its own bit, and that is another one
    have hRest := ih (fun y hy => hApart y (List.mem_cons_of_mem _ hy)) f'
    intro s hs
    refine hRest.mono (fun _ (hTrue : True) => hTrue) ?_ (fun _ _ _ => trivial) s trivial
    intro f'' _ hKept
    rw [hKept]
    rcases hs with hs | hs
    · rw [hs]
    · rw [hs, Mask.includes_union_apart (hApart x (List.mem_cons_self ..))]

/-- The bit for callable values is there if the value has the tag of functions. -/
theorem includes_callable (ho : s.table.object v = .ok o) {m : Capabilities}
    (hRun : env.inspect .standard v s = .ok m s') :
    m.includes Capabilities.callable = (o.tag == .function) := by
  obtain ⟨d, rest, hCatalog, hFlag, hProbe⟩ : ∃ d rest,
      (Catalog.standard : Catalog Code).capabilities = d :: rest ∧
        d.flag = Capabilities.callable ∧ d.probe = .tag [.function] := ⟨_, _, rfl, rfl, rfl⟩
  have hSeparate : (Catalog.standard : Catalog Code).Separate := Catalog.separate_standard
  have hApart : ∀ x ∈ rest, x.flag.meets Capabilities.callable = false := by
    have hPairs := hSeparate.apart
    rw [hCatalog] at hPairs
    intro x hx
    rw [Mask.meets_comm, ← hFlag]
    exact (List.pairwise_cons.mp hPairs).1 x hx
  have hAlways : d.applicable 0#32 = true := by
    obtain ⟨hRequires, hExcludes⟩ := hSeparate.always d (hCatalog ▸ List.mem_cons_self ..)
    rw [Capability.applicable, hRequires, hExcludes]
    decide
  -- the first probe asks for the tag, and nothing has happened before
  have hFirst : env.examine v .start d s = .ok
      (Findings.note { detected := 0#32, tag := some o.tag } Capabilities.callable
        (o.tag == .function)) s := by
    have hTag : Act.tagOf v s = .ok o.tag s := Act.bind_ok (Act.object_ok ho)
    have hAsk : env.probe d.probe v .start s = .ok (o.tag == .function, some o.tag) s := by
      rw [hProbe]
      show (Act.tagOf v >>= fun tag => pure (List.contains [.function] tag, some tag)) s = _
      rw [Act.bind_ok hTag, List.contains_cons, List.contains_nil, Bool.or_false]
      rfl
    have hMay : (d.probe.isExplicit || !d.applicable Findings.start.detected) = false := by
      rw [hProbe, Findings.start, hAlways]
      rfl
    rw [examine, hMay, if_neg Bool.false_ne_true, Act.bind_ok (Act.onError_ok hAsk), hFlag]
    rfl
  obtain ⟨f, s₁, hFold, hEnd⟩ := Act.bind_eq_ok hRun
  cases hEnd
  -- the rest of the catalog may run foreign code, and leaves the bit
  rw [hCatalog, List.foldlM_cons, Act.bind_ok hFirst] at hFold
  have hKept := env.ensures_foldlM_keeps v hApart
    (Findings.note { detected := 0#32, tag := some o.tag } Capabilities.callable
      (o.tag == .function)) s trivial
  rw [hFold] at hKept
  rw [hKept]
  cases o.tag == .function with
  | true => exact Mask.includes_union_right 0#32 Capabilities.callable
  | false => exact Mask.includes_empty (by decide)

/-- What detection says of a value: whether its proxies have the bit for callable values, and
whether a member that holds it is a method. -/
structure Detects (v : Handle) (s : Session Code Client) (yes : Bool) : Prop where
  wrap : ∀ i b id s', s.bridges[i]? = some b → b.catalog = Catalog.standard →
    env.create i v s = .ok id s' →
      ∃ p, s'.proxies.find? id = some p ∧ p.value = v ∧
        p.flags.includes Capabilities.callable = yes
  member : ∀ w x k, s.table.object w = .ok x → x.members.find? k = some (.data (.handle v)) →
    env.hasMethod w k s = .ok yes s

/-- Detection goes by the tag. -/
theorem detects (hEnv : env.Walks known) (hs : s.Canonical known) (hTable : s.table.WellFormed)
    (ho : s.table.object v = .ok o) (hMethod : o.isMethod = (o.tag == .function)) :
    env.Detects v s (o.tag == .function) where
  wrap i b id s' hb hCatalog hRun := by
    obtain ⟨found, s₁, hFound, shape, hFlags, hProxy⟩ := made_of_createWith hEnv hs hTable hRun
    have hInspect := env.inspect_of_capabilities v hb hFound
    rw [hCatalog] at hInspect
    refine ⟨_, hProxy, rfl, ?_⟩
    show shape.flags.includes Capabilities.callable = (o.tag == .function)
    rw [hFlags]
    exact env.includes_callable ho hInspect
  member w x k hw hMember := by
    obtain ⟨e, he, rfl⟩ := Table.object_eq_ok_iff.mp ho
    have hPlain : s.table.isPlainMember x k = true := by
      rw [Table.isPlainMember, hMember]
      exact Table.isLive_iff.mpr ⟨e, he⟩
    -- the look at a member goes by tag or body, which for this value is the tag alone
    rw [env.hasMethod_eq hTable hw hPlain]
    have hDatum : x.datum k = .handle v := by rw [Object.datum, hMember]
    have hYes : (s.table.traits x).callable k = (e.object.tag == .function) := by
      unfold Table.traits
      dsimp only
      rw [hDatum]
      dsimp only
      rw [Table.isMethod, he, ← hMethod]
      rfl
    rw [hYes]

end Environment

/-! ## Calls -/

namespace Environment

variable (env : Environment Code Client) {s : Session Code Client} {v : Handle} {o : Object Code}

/-- What calls of a value do: they run its body, for a proxy as well, and without a body they are
refused. -/
structure Answers (v : Handle) (s : Session Code Client) (body : Option Code) : Prop where
  invoked : ∀ code, body = some code → ∀ receiver args,
    env.invoke v receiver args s = (env.run code receiver args >>= Act.materialize) s
  called : ∀ code, body = some code → ∀ p args, p.value = v → p.shape.hasSlot Slots.call = true →
    env.call p args s = (Act.foreign (env.run code p.receiver args >>= Act.materialize) >>=
      fun result => Act.holding result (env.toHost p.bridge result)) s
  refused : body = none → ∀ receiver args, env.invoke v receiver args s = .error (.notFunction v) s
  failed : body = none → ∀ p args, p.value = v → p.shape.hasSlot Slots.call = true →
    env.call p args s = .error (.foreign (.notFunction v)) s

/-- Calls go by the body. -/
theorem answers (ho : s.table.object v = .ok o) : env.Answers v s o.body := by
  have hInvoked (code : Code) (hBody : o.body = some code) (receiver : Option Handle)
      (args : List Handle) :
      env.invoke v receiver args s = (env.run code receiver args >>= Act.materialize) s := by
    rw [invoke, Act.bind_ok (Act.object_ok ho), hBody]
  have hRefused (hBody : o.body = none) (receiver : Option Handle) (args : List Handle) :
      env.invoke v receiver args s = .error (.notFunction v) s := by
    rw [invoke, Act.bind_ok (Act.object_ok ho), hBody]
    rfl
  refine ⟨hInvoked, ?_, hRefused, ?_⟩
  -- a proxy calls the value with its receiver, and its mask is not asked again
  · rintro code hBody p args rfl hSlot
    rw [call, Act.bind_ok (Act.require_ok hSlot)]
    exact Act.bind_congr (Act.foreign_congr (hInvoked code hBody p.receiver args)) _
  · rintro hBody p args rfl hSlot
    rw [call, Act.bind_ok (Act.require_ok hSlot)]
    exact Act.bind_error (Act.foreign_error (hRefused hBody p.receiver args))

end Environment

/--
**Detected by the tag, called by the body.** Let a value that constructors make be stored, and let
anything happen after that. As long as the value is there, the mask of a new proxy and a look at a
member that holds it take it for callable if it was made with the tag of functions, and a call runs
the body that it was made with, or is refused if there was none. So the three agree, unless the
value has the tag of functions and no body; and only those values have a proxy that is callable by
its mask and refuses to be called.
-/
theorem callable_by_tag_called_by_body {limit : Option Nat} {timing : Bool} {mind : Mind}
    {s₀ s₁ s : World Code Mind} {o : Object Code} {v : Handle}
    (hStart : Path Memory.shapes (World.new (Table.empty limit) timing mind) s₀)
    (hBuilt : o.Built)
    (hInsert : (Act.insert o : Act Code (Memory Mind) ForeignError Handle) s₀ = .ok v s₁)
    (hLater : Path Memory.shapes s₁ s) (hLive : s.table.isLive v = true)
    {env : Environment Code (Memory Mind)} (hEnv : env.Walks Memory.shapes) :
    env.Detects v s (o.tag == .function) ∧ env.Answers v s o.body ∧
      (o.body.isSome = (o.tag == .function) ∨ o.tag = .function ∧ o.body = none) := by
  have hStored := hStart.trans ((Act.walks_insert hBuilt.ordered).path_ok hInsert)
  have hTable₁ := Path.wellFormed hStored (Table.wellFormed_empty limit)
  have hTable := Path.wellFormed hLater hTable₁
  obtain ⟨e₁, he₁, hObject⟩ : ∃ e, s₁.table.entry? v = some e ∧ e.object = o := by
    cases hInsert
    refine ⟨{ object := o, refcount := 1 }, ?_, rfl⟩
    exact (Table.entry?_insert s₀.table o _).trans (if_pos rfl)
  obtain ⟨e, he⟩ := Table.isLive_iff.mp hLive
  -- members come and go, tag and body stay
  have hSame : e.object.identity = o.identity := by
    rw [← hObject]
    exact (Path.precedes hLater hTable₁).identity hTable₁ he₁ he
  obtain ⟨hTag, hRest⟩ := Prod.mk.inj hSame
  obtain ⟨hBody, -⟩ := Prod.mk.inj hRest
  have ho : s.table.object v = .ok e.object := Table.object_eq_ok_iff.mpr ⟨e, he, rfl⟩
  have hMethod : e.object.isMethod = (e.object.tag == .function) := by
    rw [Object.isMethod_of_identity hSame, hBuilt.isMethod, hTag]
  have hDetects := env.detects hEnv (World.canonical_of_path (hStored.trans hLater)) hTable ho
    hMethod
  have hAnswers := env.answers ho
  rw [hTag] at hDetects
  rw [hBody] at hAnswers
  refine ⟨hDetects, hAnswers, ?_⟩
  -- a body comes with the tag, so the one way to differ is the tag without a body
  cases hSome : o.body with
  | some code =>
    left
    rw [hBuilt.tag_of_body (by rw [hSome]; rfl)]
    rfl
  | none =>
    cases hFunction : o.tag == .function with
    | true => exact Or.inr ⟨beq_iff_eq.mp hFunction, rfl⟩
    | false => exact Or.inl rfl

/-- A function with a body is taken for callable, and a call runs the body. -/
theorem callable_by_tag_called_by_body_function :
    let env := exampleMisuse.environment 1
    let s₀ : World Unit Unit := Call.performAll env [.command (.openBridge .standard {})]
      (World.new (.empty none) false ())
    let s₁ := (Act.insert (.function ()) : Act Unit (Memory Unit) ForeignError Handle).after s₀
    let s := Call.performAll env [.command (.insert (Object.plain.withMember (.named "f")
      (.data (.handle ⟨2⟩))))] s₁
    env.Detects ⟨2⟩ s true ∧ env.Answers ⟨2⟩ s (some ()) ∧
      env.hasMethod ⟨3⟩ (.named "f") s = .ok true s := by
  intro env s₀ s₁ s
  have hWalks := exampleMisuse.walks_environment 1
  have hStart := Call.path_performAll hWalks [.command (.openBridge .standard {})]
    (World.new (.empty none) false ())
  have hLater := Call.path_performAll hWalks [.command (.insert (Object.plain.withMember
    (.named "f") (.data (.handle ⟨2⟩))))] s₁
  obtain ⟨hDetects, hAnswers, -⟩ := callable_by_tag_called_by_body hStart (.function ()) rfl hLater
    (by decide +kernel) hWalks
  exact ⟨hDetects, hAnswers, hDetects.member ⟨3⟩ _ (.named "f") rfl rfl⟩

/-- A bridge over the standard catalog, a value with the tag of functions and no body, and another
value that has it as a member. -/
def exampleBodiless : List (Call Unit Unit) :=
  [.command (.openBridge .standard {}), .command (.insert (.ofTag .function)),
    .command (.insert (Object.plain.withMember (.named "f") (.data (.handle ⟨2⟩))))]

/-- The proxy of the value. -/
def exampleCallable : Proxy where
  bridge := 0
  shape := .compose (Catalog.standard : Catalog Unit) 0 1 Capabilities.callable
  value := ⟨2⟩
  receiver := none

/-- A value with the tag of functions and no body: its proxy is callable by its mask, a member that
holds it is a method, and every call is refused because it is not a function. -/
theorem bodiless_function_detected :
    let env := exampleMisuse.environment 1
    let s : World Unit Unit :=
      Call.performAll env exampleBodiless (World.new (.empty none) false ())
    let s' := (env.create 0 ⟨2⟩).after s
    (Object.ofTag .function : Object Unit).Built ∧ s.table.object ⟨2⟩ = .ok (.ofTag .function) ∧
      s'.proxies.find? 0 = some exampleCallable ∧
      exampleCallable.flags.includes Capabilities.callable = true ∧
      env.hasMethod ⟨3⟩ (.named "f") s = .ok true s ∧
      env.invoke ⟨2⟩ none [] s = .error (.notFunction ⟨2⟩) s ∧
      env.call exampleCallable [] s' = .error (.foreign (.notFunction ⟨2⟩)) s' := by
  intro env s s'
  have hWalks := exampleMisuse.walks_environment 1
  have hStart := Call.path_performAll hWalks exampleBodiless (World.new (.empty none) false ())
  have ho : s.table.object ⟨2⟩ = .ok (.ofTag .function) := by decide +kernel
  have ho' : s'.table.object ⟨2⟩ = .ok (.ofTag .function) := by decide +kernel
  have hDetects := env.detects hWalks (World.canonical_of_path hStart)
    (Path.wellFormed hStart (Table.wellFormed_empty none)) ho rfl
  refine ⟨.ofTag .function, ho, by decide +kernel, by decide,
    hDetects.member ⟨3⟩ _ (.named "f") rfl rfl, (env.answers ho).refused rfl none [], ?_⟩
  exact (env.answers ho').failed rfl exampleCallable [] rfl (by decide)

end ProxyBridge
