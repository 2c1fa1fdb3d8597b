import ProxyBridge.Proofs.Commands

/-!
# Plans

A plan is what a client does, command after command. What it does next, and how it ends, may depend
on all that has happened so far: every command that was carried out, at any depth, with what came
back. Foreign code has plans as well, so a command may run the commands of other plans.

The limits of the table and of the bridges are given from outside, and nothing that comes back shows
them. So one plan can be carried out under different limits.

## Results

* `Journal`, `Command.record` — what has happened, and a command that goes on record.
* `Plan.run`, `Repertoire.environment` — plans, nested down to any depth.
* `Journal.refused` — a limit has refused a command.
-/

namespace ProxyBridge

variable {Code α : Type}

/-! ## Journals -/

/-- Something that has happened. -/
inductive Journal.Entry (Code : Type) where
  /-- A command was carried out, or it failed. -/
  | reply (c : Command Code) (r : Except ProxyError (Reply Code))
  /-- Foreign code has raised an error. -/
  | raised (e : ForeignError)

/-- All that has happened at any depth, the newest first. -/
abbrev Journal (Code : Type) := List (Journal.Entry Code)

/-- A session whose client keeps a journal. -/
abbrev Recorded (Code : Type) := Session Code (Journal Code)

/-- Adds to the journal. -/
def Session.note (s : Recorded Code) (e : Journal.Entry Code) : Recorded Code :=
  { s with client := e :: s.client }

/-- Errors with which limits refuse. -/
class Refusable (ε : Type) where
  isRefusal : ε → Bool

instance : Refusable ForeignError := ⟨fun e => e = .exhausted⟩

instance : Refusable ProxyError :=
  ⟨fun e => e = .foreign .exhausted ∨ e = .registryFull ∨ e = .heapFull⟩

namespace Journal

/-- The last thing that has happened is not that foreign code has raised an error. -/
def isCalm : Journal Code → Bool
  | .raised _ :: _ => false
  | _ => true

/-- A limit has refused a command, at any depth. An error that foreign code raises ends the command
that has run the code at once; so if a command fails and foreign code has not just raised an error,
then the error is one of the command itself. -/
def refused : Journal Code → Bool
  | .reply _ (.error e) :: rest => isCalm rest && Refusable.isRefusal e || refused rest
  | _ :: rest => refused rest
  | [] => false

end Journal

/-- Carries out a command and notes what comes back. The journal is the result. -/
def Command.record {ε : Type} (x : Limits) (env : Environment Code (Journal Code))
    (c : Command Code) : Act Code (Journal Code) ε (Journal Code) := fun s =>
  let s' := match x.perform env c s with
    | .ok r s' => s'.note (.reply c (.ok r))
    | .error e s' => s'.note (.reply c (.error e))
  .ok s'.client s'

/-! ## Plans -/

/-- What somebody does who may look at the journal after every command. -/
inductive Plan (Code α : Type) where
  | done (r : Except ForeignError α)
  | step (c : Command Code) (next : Journal Code → Plan Code α)

/-- Carries out a plan. -/
def Plan.run (x : Limits) (env : Environment Code (Journal Code)) :
    Plan Code α → Act Code (Journal Code) ForeignError α
  | .done (.ok a) => pure a
  | .done (.error e) => do
    -- on record, so that nobody takes it for an error of the command that runs this plan
    modify (·.note (.raised e))
    throw e
  | .step c next => do
    let journal ← c.record x env
    (next journal).run x env

/-- The plans of all foreign code. -/
structure Repertoire (Code : Type) where
  body : Code → Option Handle → List Handle → Journal Code → Plan Code Value
  probe : Code → Handle → Capabilities → Journal Code → Plan Code Bool

/-- The plans of all foreign code, which run other foreign code. -/
def Repertoire.around (x : Limits) (l : Repertoire Code) (env : Environment Code (Journal Code)) :
    Environment Code (Journal Code) where
  run code receiver args := do (l.body code receiver args (← get).client).run x env
  decide code h detected := do (l.probe code h detected (← get).client).run x env

/-- Foreign code that carries out its plans down to a depth, where it fails at once. -/
def Repertoire.environment (x : Limits) (l : Repertoire Code) (depth : Nat) :
    Environment Code (Journal Code) :=
  .toDepth (l.around x) depth

end ProxyBridge
