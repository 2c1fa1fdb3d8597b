import Mathlib.Data.List.Perm.Basic
import ProxyBridge.Proofs.Commands
import ProxyBridge.Proofs.Operations

/-!
# Conservation of references

A run is a list of operations that somebody carries out on a session, one after another, whether
they succeed or fail. Whoever runs them may take references of its own and give them back.

* `Command.keeps_perform` — a command that leaves references with their owners.
* `Operation.perform`, `Operation.runAll` — one operation, and a run.
* `Program`, `Environment.nested` — foreign code that is made of runs itself, to any depth.
* `nested_balanced` — such foreign code is balanced.
* `surplus_conserved` — a run over balanced foreign code keeps every surplus.
-/

namespace ProxyBridge

variable {Code Client ε α : Type} {owns : Client → List Handle}

/-- What somebody does who owns references. -/
inductive Operation (Code : Type) where
  /-- Carries out a command that leaves all references with their owners. -/
  | command (c : Command Code) (balanced : c.isBalanced = true)
  /-- Takes a reference. -/
  | own (h : Handle)
  /-- Takes one more reference to what the one at a position refers to. -/
  | clone (i : Nat)
  /-- Gives the reference at a position back. -/
  | letGo (i : Nat)

namespace Operation

/-- Takes a reference, which joins those that are there if it is granted. -/
def take (h : Handle) (mine : List Handle) (s : Session Code Client) :
    List Handle × Session Code Client :=
  match Act.own h s with
  | .ok () s' => (h :: mine, s')
  | .error _ s' => (mine, s')

/-- Carries out an operation for somebody who owns references. -/
def perform (env : Environment Code Client) (op : Operation Code) (mine : List Handle)
    (s : Session Code Client) : List Handle × Session Code Client :=
  match op with
  | command c _ => (mine, (c.perform env).after s)
  | own h => take h mine s
  | clone i =>
    match mine[i]? with
    | some h => take h mine s
    | none => (mine, s)
  | letGo i =>
    match mine[i]? with
    | some h => (mine.eraseIdx i, s.letGo h)
    | none => (mine, s)

/-- Carries out operations one after another. -/
def runAll (env : Environment Code Client) :
    List (Operation Code) → List Handle → Session Code Client → List Handle × Session Code Client
  | [], mine, s => (mine, s)
  | op :: rest, mine, s =>
    let (mine, s) := op.perform env mine s
    runAll env rest mine s

end Operation

/-! ## A run keeps the accounts -/

variable {env : Environment Code Client} {mine held : List Handle} {loose : Handle → Nat}
  {s : Session Code Client}

theorem Act.keeps_prewarm (i : Nat) (masks : List Capabilities) :
    (Act.prewarm i masks : Act Code Client ProxyError Unit).Keeps owns [] fun _ => [] := by
  induction masks with
  | nil => exact Keeps.pure () fun _ => []
  | cons mask rest ih => exact (keeps_resolveShape i mask none).bind fun _ => ih

theorem Act.keeps_openBridge (catalog : Catalog Code) (config : Config) :
    (Act.openBridge catalog config : Act Code Client ProxyError Nat).Keeps owns [] fun _ => [] := by
  refine Keeps.get_bind fun s => ?_
  dsimp only
  cases Registry.new catalog s.bridges.length config.registry.maxShapes with
  | error e =>
    have hReport : Keeps owns
        (modify (·.emit (.registryExhausted 0#32 0)) : Act Code Client ProxyError Unit)
        [] fun _ => [] :=
      Keeps.modify fun _ _ _ hs => hs.emit _
    exact hReport.bind fun _ => Keeps.throw e fun _ => []
  | ok registry =>
    have hAdd (b : Bridge Code) : Keeps owns
        (modify fun s => { s with bridges := s.bridges ++ [b] } : Act Code Client ProxyError Unit)
        [] fun _ => [] :=
      Keeps.modify fun _ _ _ hs =>
        ⟨⟨hs.sound.table, hs.sound.proxies, hs.sound.fresh, hs.sound.owners⟩, hs.table⟩
    exact (hAdd _).bind fun _ => (keeps_prewarm _ _).bind fun _ => Keeps.pure _ fun _ => []

theorem Act.Keeps.after {act : Act Code Client ε α} (hAct : act.Keeps owns [] fun _ => [])
    (hs : s.Accounted owns held loose) : (act.after s).Accounted owns held loose := by
  have hRun := hAct held loose s hs
  rw [Act.after]
  cases hr : act s with
  | ok a s' =>
    rw [hr] at hRun
    exact hRun
  | error e s' =>
    rw [hr] at hRun
    exact hRun

/-- A command that leaves references with their owners keeps the accounts, whoever owns what. -/
theorem Command.keeps_perform (hEnv : env.Balanced owns) {c : Command Code}
    (hBalanced : c.isBalanced = true) : (c.perform env).Keeps owns [] fun _ => [] := by
  have hReply {α : Type} {act : Act Code Client ProxyError α}
      (h : act.Keeps owns [] fun _ => []) (r : α → Reply Code) :
      (act >>= fun a => pure (r a)).Keeps owns [] fun _ => [] :=
    h.bind fun a => Act.Keeps.pure (r a) fun _ => []
  cases c with
  | insert | duplicate | release | member | invoke | own | adopt | letGo => cases hBalanced
  | openBridge catalog config => exact hReply (Act.keeps_openBridge catalog config) _
  | tag h => exact hReply (Act.keeps_tagOf h).foreign _
  | hasMethod h k => exact hReply (hEnv.keeps_hasMethod h k).foreign _
  | number h name => exact hReply (hEnv.keeps_number h name).foreign _
  | setMember h k v => exact hReply (Act.keeps_setMember h k v).foreign fun _ => .done
  | deleteMember h k => exact hReply (Act.keeps_deleteMember h k).foreign _
  | memberNames h => exact hReply (Act.keeps_memberNames h).foreign _
  | capabilities i h => exact hReply (hEnv.keeps_capabilities i h) _
  | resolve i flags hint => exact hReply (Act.keeps_resolveShape i flags hint) _
  | create i h receiver => exact hReply (hEnv.keeps_createWith i h receiver) _
  | createTyped i flags h receiver => exact hReply (Act.keeps_createTyped i flags h receiver) _
  | createMap i h asMap => exact hReply (hEnv.keeps_createMap i h asMap) _
  | rebind p receiver => exact hReply (Act.keeps_rebind p receiver) _
  | call p args => exact hReply (hEnv.keeps_call p args) _
  | len p => exact hReply (hEnv.keeps_len p) _
  | isEmpty p => exact hReply (hEnv.keeps_isEmpty p) _
  | getAttr p name => exact hReply (hEnv.keeps_getAttr p name) _
  | setAttr p name v => exact hReply (Act.keeps_setAttr p name v) fun _ => .done
  | getItem p name => exact hReply (hEnv.keeps_getItem p name) _
  | setItem p name v => exact hReply (Act.keeps_setItem p name v) fun _ => .done
  | deleteItem p name => exact hReply (Act.keeps_deleteItem p name) fun _ => .done
  | hasItem p name => exact hReply (Act.keeps_hasItem p name) _
  | keys p => exact hReply (Act.keeps_keys p) _
  | destroy id =>
    exact hReply (Act.Keeps.modify fun _ _ _ hs => Session.Accounted.destroy hs id) fun _ => .done
  | look => exact Act.Keeps.get_bind fun s => Act.Keeps.pure (Reply.session s.visible) fun _ => []

namespace Operation

theorem take_accounted (hs : s.Accounted owns (mine ++ held) loose) (h : Handle) :
    (take h mine s).2.Accounted owns ((take h mine s).1 ++ held) loose := by
  have hRun := Act.ensures_own h (mine ++ held) loose s hs
  rw [take]
  cases hr : (Act.own h : Act Code Client ForeignError Unit) s with
  | ok a s' =>
    rw [hr] at hRun
    exact hRun
  | error e s' =>
    rw [hr] at hRun
    exact hRun

/-- Every operation keeps the accounts: what its runner owns afterwards is what it owns, and all
else is as before. -/
theorem perform_accounted (hEnv : env.Balanced owns) (hs : s.Accounted owns (mine ++ held) loose)
    (op : Operation Code) :
    (op.perform env mine s).2.Accounted owns ((op.perform env mine s).1 ++ held) loose := by
  cases op with
  | command c hBalanced => exact (c.keeps_perform hEnv hBalanced).after hs
  | own h => exact take_accounted hs h
  | clone i =>
    rw [perform]
    cases mine[i]? with
    | none => exact hs
    | some h => exact take_accounted hs h
  | letGo i =>
    rw [perform]
    cases hi : mine[i]? with
    | none => exact hs
    | some h =>
      obtain ⟨hLt, rfl⟩ := List.getElem?_eq_some_iff.mp hi
      -- the reference that is given back moves to the front of what is owned
      have hPick : s.Accounted owns (mine[i] :: (mine.eraseIdx i ++ held)) loose :=
        hs.congr_held fun h => by
          rw [← List.cons_append, tally_append, tally_append,
            show tally (mine[i] :: mine.eraseIdx i) h = tally mine h from
              (List.getElem_cons_eraseIdx_perm hLt).count_eq h]
      exact hPick.letGo

/-- A run keeps the accounts. -/
theorem runAll_accounted (hEnv : env.Balanced owns) (ops : List (Operation Code))
    (hs : s.Accounted owns (mine ++ held) loose) :
    (runAll env ops mine s).2.Accounted owns ((runAll env ops mine s).1 ++ held) loose := by
  induction ops generalizing mine s with
  | nil => exact hs
  | cons op rest ih =>
    rw [runAll]
    exact ih (perform_accounted hEnv hs op)

end Operation

/-! ## Foreign code that runs operations -/

/-- How a program ends. -/
inductive Outcome where
  | undefined
  | number (x : Double)
  /-- A value, with one more reference to it. -/
  | duplicate (h : Handle)
  | raises (e : ForeignError)

namespace Outcome

/-- What the outcome is as a result. -/
def value : Outcome → Act Code Client ForeignError Value
  | undefined => pure .undefined
  | number x => pure (.number x)
  | duplicate h => do return .handle (← Act.duplicate h)
  | raises e => throw e

/-- What the outcome is as the answer of a probe. -/
def answer : Outcome → Except ForeignError Bool
  | undefined => .ok false
  | number _ | duplicate _ => .ok true
  | raises e => .error e

end Outcome

/-- Foreign code that runs operations, which may depend on its receiver and its arguments. Programs
are known by number, so that they can run one another. -/
structure Program where
  steps : Option Handle → List Handle → List (Operation Nat)
  outcome : Outcome

/-- Runs the operations of a program, and gives back what it owns at the end. -/
def Program.execute (env : Environment Nat Client) (p : Program) (receiver : Option Handle)
    (args : List Handle) : Act Nat Client ε Unit :=
  modify fun s =>
    let (mine, s) := Operation.runAll env (p.steps receiver args) [] s
    mine.foldl Session.letGo s

namespace Environment

/-- The programs of a library, which run other foreign code. -/
def ofPrograms (library : Nat → Program) (env : Environment Nat Client) :
    Environment Nat Client where
  run code receiver args := do
    (library code).execute env receiver args
    (library code).outcome.value
  decide code h _ := do
    (library code).execute env (some h) []
    Act.ofExcept (library code).outcome.answer

/-- The programs of a library, which may run one another down to a depth. -/
def nested (library : Nat → Program) (depth : Nat) : Environment Nat Client :=
  toDepth (ofPrograms library) depth

end Environment

open Act

theorem Session.Accounted.letGoAll (hs : s.Accounted owns (mine ++ held) loose) :
    (mine.foldl Session.letGo s).Accounted owns held loose := by
  induction mine generalizing s with
  | nil => exact hs
  | cons h rest ih => exact ih (Session.Accounted.letGo hs)

theorem Program.keeps_execute {env : Environment Nat Client} (hEnv : env.Balanced owns)
    (p : Program) (receiver : Option Handle) (args : List Handle) :
    (p.execute env receiver args : Act Nat Client ε Unit).Keeps owns [] fun _ => [] := by
  refine Keeps.modify fun held loose s hs => ?_
  -- the program starts with nothing of its own
  have hStart : s.Accounted owns ([] ++ held) loose := hs
  exact (Operation.runAll_accounted hEnv (p.steps receiver args) hStart).letGoAll

theorem Outcome.keeps_value (o : Outcome) :
    (o.value : Act Code Client ForeignError Value).Keeps owns [] Value.held := by
  cases o with
  | undefined => exact Keeps.pure Value.undefined Value.held
  | number x => exact Keeps.pure (Value.number x) Value.held
  | duplicate h =>
    exact ((keeps_duplicate h).bind fun _ => Keeps.pure h fun h => [h]).bind fun h =>
      Keeps.pure (Value.handle h) Value.held
  | raises e => exact Keeps.throw e Value.held

/-- Foreign code that runs operations is balanced, however deep it runs them. -/
theorem nested_balanced (library : Nat → Program) (depth : Nat) :
    (Environment.nested library depth : Environment Nat Client).Balanced owns := by
  refine Environment.toDepth_induction ?_ (fun env hEnv => ?_) depth
  · -- code that runs too deep fails before it does anything
    exact ⟨fun _ _ _ => balanced_iff_keeps.mpr (Keeps.throw _ Value.held),
      fun _ _ _ => balanced_iff_keeps.mpr (Keeps.throw _ fun _ => [])⟩
  · refine ⟨fun code receiver args => balanced_iff_keeps.mpr ?_,
      fun code h _ => balanced_iff_keeps.mpr ?_⟩
    · exact ((library code).keeps_execute hEnv receiver args).bind fun _ =>
        (library code).outcome.keeps_value
    · exact ((library code).keeps_execute hEnv (some h) []).bind fun _ => Keeps.ofExcept _

/-! ## The law -/

/--
If all foreign code is balanced, then a run of operations leaves every surplus as it found it,
whichever operations succeed and whatever foreign code does in between. Whoever runs it owns what
the run says it owns, and all other owners have what they had.
-/
theorem surplus_conserved (hEnv : env.Balanced owns) (hs : s.Sound owns mine) (hn : s.Solvent)
    (ops : List (Operation Code)) :
    (Operation.runAll env ops mine s).2.Sound owns (Operation.runAll env ops mine s).1 ∧
      ∀ h, (Operation.runAll env ops mine s).2.surplus h = s.surplus h := by
  -- what nobody owns at the start is loose, and a run has to leave it so
  obtain ⟨loose, hStart⟩ := hn.exists_loose
  have hAcc : s.Accounted owns (mine ++ []) loose := by
    rw [List.append_nil]
    exact Session.accounted_iff.mpr ⟨hs, hStart⟩
  have hEnd := Operation.runAll_accounted hEnv ops hAcc
  rw [List.append_nil] at hEnd
  obtain ⟨hSound, hLoose⟩ := Session.accounted_iff.mp hEnd
  exact ⟨hSound, fun h => (hLoose h).trans (hStart h).symm⟩

theorem Session.accounted_new {t : Table Code} {client : Client} (ht : t.Accounted loose)
    (hClient : owns client = []) (timing : Bool) :
    (Session.new t timing client).Accounted owns [] loose := by
  refine ⟨⟨ht.wellFormed, .nil, nofun, fun h => ?_⟩, ht.wellFormed, fun h => ?_⟩
  · change tally [] h = 0 + tally (owns client) h + tally [] h
    rw [hClient, tally_nil]
  · change t.refcount h = Table.pin h + t.holders h + (tally [] h + loose h)
    rw [ht.refs, tally_nil, Nat.zero_add]

/-- A function that wraps the measured value while it is called, and the getter of that value, which
changes the value while it is measured. -/
def exampleLibrary (code : Nat) : Program :=
  if code = 0 then
    { steps := fun _ args => args.map .own ++
        [.command (.create 0 ⟨3⟩ none) rfl, .clone 0, .letGo 1, .command (.destroy 0) rfl]
      outcome := .duplicate ⟨3⟩ }
  else
    { steps := fun _ _ => [.command (.setMember ⟨3⟩ (.named "self") ⟨3⟩) rfl, .own ⟨2⟩]
      outcome := .duplicate ⟨2⟩ }

/-- A table with the function and the measured value. -/
def exampleTable : Table Nat :=
  let t := ((Table.empty none).insert (.function 0)).2
  (t.insert (Object.plain.withMember (.named "size") (.accessor 1))).2

/-- A session over the table with one bridge. -/
def exampleSession : Session Nat Unit :=
  (Act.openBridge Catalog.standard {}).after (Session.new exampleTable false ())

theorem exampleSession_accounted :
    exampleSession.Accounted (fun _ => []) [] ((fun _ => 0) + tally [⟨2⟩] + tally [⟨3⟩]) := by
  have hEmpty : (Table.empty none : Table Nat).Accounted fun _ => 0 := Table.accounted_empty none
  have hFunction := hEmpty.insert_free (o := .function 0) .nil rfl
  have hTable := hFunction.insert_free
    (o := Object.plain.withMember (.named "size") (.accessor 1)) (by decide) rfl
  exact (keeps_openBridge Catalog.standard {}).after (Session.accounted_new hTable rfl false)

/-- A proxy of the function. -/
def exampleFunction : Proxy where
  bridge := 0
  shape := .compose (Catalog.standard : Catalog Nat) 0 1 Capabilities.callable
  value := ⟨2⟩
  receiver := none

/-- The law for a run in which getters run inside calls, and wraps inside both. -/
theorem surplus_conserved_nested :
    exampleSession.Sound (fun _ => []) [] ∧ exampleSession.Solvent ∧
      ∀ h, (Operation.runAll (.nested exampleLibrary 3)
        [.own ⟨3⟩, .command (.create 0 ⟨3⟩ none) rfl,
          .command (.call exampleFunction [⟨3⟩, ⟨1⟩]) rfl,
          .letGo 0] [] exampleSession).2.surplus h = exampleSession.surplus h :=
  have hs := exampleSession_accounted
  ⟨hs.sound, hs.solvent,
    (surplus_conserved (nested_balanced exampleLibrary 3) hs.sound hs.solvent _).2⟩

end ProxyBridge
