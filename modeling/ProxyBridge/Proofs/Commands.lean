import ProxyBridge.Proofs.Action

/-!
# Commands

Whatever can be asked of a session is a command, and every command has a reply. Clients differ in
which commands they give, in when they give them, and in what they make of the replies: one owns
references, one remembers shapes, one writes a journal, one shares proxies. What a command does is
the same for all of them, so it is said here, together with what can be told from a command before
it is carried out.

A command that opens a bridge names the limits of the bridge. Limits can be given from outside as
well; then they replace those of the command, and no reply shows them.

## Results

* `Limits`, `Session.relimit`, `Session.visible` — limits, a session with other ones, and what can
  be seen of a session.
* `Command`, `Reply`, `Command.perform` — what can be asked for, and what comes back.
* `Limits.perform` — a command under limits from outside.
* `Command.shape_of_perform` — a reply that is a shape is the answer of a registry.
* `Environment.toDepth` — foreign code that runs foreign code, down to a depth.
-/

namespace ProxyBridge

variable {Code Client : Type}

/-! ## Limits -/

/-- The limits of a table, and of the bridges over it by their numbers. -/
structure Limits where
  /-- The number of outstanding references from which on none is duplicated. -/
  references : Option Nat
  /-- The greatest number of shapes of a bridge. -/
  shapes : Nat → Option Nat
  /-- The greatest number of living proxies of a bridge. -/
  proxies : Nat → Option Nat

namespace Limits

/-- No limits at all. -/
def unlimited : Limits := { references := none, shapes := fun _ => none, proxies := fun _ => none }

/-- The configuration of a bridge with these limits. -/
def configure (x : Limits) (i : Nat) (c : Config) : Config :=
  { c with
    registry := { c.registry with maxShapes := x.shapes i }
    heap := { c.heap with maxLive := x.proxies i } }

end Limits

/-- The table with another limit. -/
def Table.relimit (limit : Option Nat) (t : Table Code) : Table Code := { t with limit }

/-- The registry with another limit. -/
def Registry.relimit (max : Option Nat) (r : Registry) : Registry := { r with maxShapes := max }

/-- The bridge with a number, with other limits. -/
def Bridge.relimit (x : Limits) (i : Nat) (b : Bridge Code) : Bridge Code :=
  { b with
    config := x.configure i b.config
    registry := b.registry.relimit (x.shapes i)
    heap := { b.heap with limit := x.proxies i } }

/-- The session with other limits, and no other change. -/
def Session.relimit (x : Limits) (s : Session Code Client) : Session Code Client :=
  { s with
    table := s.table.relimit x.references
    bridges := s.bridges.mapIdx fun i b => b.relimit x i }

/-- What a client can see of a session: all but the limits, and what the client itself keeps. -/
def Session.visible (s : Session Code Client) : Session Code Unit :=
  { table := s.table.relimit none
    owned := s.owned
    bridges := s.bridges.mapIdx fun i b => b.relimit .unlimited i
    proxies := s.proxies
    nextProxy := s.nextProxy
    log := s.log
    timing := s.timing
    client := () }

/-! ## Commands -/

/-- What can be asked of a session. A proxy is named by what it consists of, dead or alive. -/
inductive Command (Code : Type) where
  | openBridge (catalog : Catalog Code) (config : Config)
  | insert (o : Object Code)
  | duplicate (h : Handle)
  | release (h : Handle)
  | tag (h : Handle)
  | hasMethod (h : Handle) (k : Key)
  | number (h : Handle) (name : String)
  | member (h : Handle) (k : Key)
  | setMember (h : Handle) (k : Key) (v : Handle)
  | deleteMember (h : Handle) (k : Key)
  | memberNames (h : Handle)
  | invoke (f : Handle) (receiver : Option Handle) (args : List Handle)
  /-- Takes a reference as an owner. -/
  | own (h : Handle)
  /-- Takes over a reference that may not be there. -/
  | adopt (h : Handle)
  | letGo (h : Handle)
  | capabilities (bridge : Nat) (h : Handle)
  | resolve (bridge : Nat) (flags : Capabilities) (hint : Option Shape)
  | create (bridge : Nat) (h : Handle) (receiver : Option Handle)
  | createTyped (bridge : Nat) (flags : Capabilities) (h : Handle) (receiver : Option Handle)
  | createMap (bridge : Nat) (h : Handle) (asMap : Bool)
  | rebind (p : Proxy) (receiver : Handle)
  | call (p : Proxy) (args : List Handle)
  | len (p : Proxy)
  | isEmpty (p : Proxy)
  | getAttr (p : Proxy) (name : String)
  | setAttr (p : Proxy) (name : String) (v : Handle)
  | getItem (p : Proxy) (name : String)
  | setItem (p : Proxy) (name : String) (v : Handle)
  | deleteItem (p : Proxy) (name : String)
  | hasItem (p : Proxy) (name : String)
  | keys (p : Proxy)
  /-- Destroys a proxy. -/
  | destroy (id : Nat)
  /-- Looks at all there is. -/
  | look

/-- What comes back from a command. -/
inductive Reply (Code : Type) where
  | done
  | flag (b : Bool)
  | tag (t : Tag)
  | handle (h : Handle)
  | member (h : Option Handle)
  | number (x : Option Double)
  | length (n : Nat)
  | names (names : List String)
  | capabilities (flags : Capabilities)
  | shape (s : Shape)
  | bridge (i : Nat)
  | proxy (id : Nat)
  | host (v : HostValue)
  | session (s : Session Code Unit)

/-- Carries out a command. Foreign code that runs in it carries out commands as well. -/
def Command.perform (env : Environment Code Client) :
    Command Code → Act Code Client ProxyError (Reply Code)
  | .openBridge catalog config => return .bridge (← Act.openBridge catalog config)
  | .insert o => return .handle (← Act.insert o)
  | .duplicate h => return .handle (← Act.foreign (Act.duplicate h))
  | .release h => do
    Act.release h
    return .done
  | .tag h => return .tag (← Act.foreign (Act.tagOf h))
  | .hasMethod h k => return .flag (← Act.foreign (env.hasMethod h k))
  | .number h name => return .number (← Act.foreign (env.number h name))
  | .member h k => return .member (← Act.foreign (env.member h k))
  | .setMember h k v => do
    Act.foreign (Act.setMember h k v)
    return .done
  | .deleteMember h k => return .flag (← Act.foreign (Act.deleteMember h k))
  | .memberNames h => return .names (← Act.foreign (Act.memberNames h))
  | .invoke f receiver args => return .handle (← Act.foreign (env.invoke f receiver args))
  | .own h => do
    Act.foreign (Act.own h)
    return .done
  | .adopt h => do
    modify (·.adopt h)
    return .done
  | .letGo h => do
    modify (·.letGo h)
    return .done
  | .capabilities i h => return .capabilities (← env.capabilities i h)
  | .resolve i flags hint => return .shape (← Act.resolveShape i flags hint)
  | .create i h receiver => return .proxy (← env.createWith i h receiver)
  | .createTyped i flags h receiver => return .proxy (← Act.createTyped i flags h receiver)
  | .createMap i h asMap => return .proxy (← env.createMap i h asMap)
  | .rebind p receiver => return .proxy (← Act.rebind p receiver)
  | .call p args => return .host (← env.call p args)
  | .len p => return .length (← env.len p)
  | .isEmpty p => return .flag (← env.isEmpty p)
  | .getAttr p name => return .host (← env.getAttr p name)
  | .setAttr p name v => do
    Act.setAttr p name v
    return .done
  | .getItem p name => return .host (← env.getItem p name)
  | .setItem p name v => do
    Act.setItem p name v
    return .done
  | .deleteItem p name => do
    Act.deleteItem p name
    return .done
  | .hasItem p name => return .flag (← Act.hasItem p name)
  | .keys p => return .names (← Act.keys p)
  | .destroy id => do
    modify (·.destroy id)
    return .done
  | .look => return .session (← get).visible

/-! ## What a command is about -/

namespace Command

/-- The proxy that a command goes through, if it goes through one. -/
def proxy? : Command Code → Option Proxy
  | rebind p _ | call p _ | len p | isEmpty p | getAttr p _ | setAttr p _ _ | getItem p _
  | setItem p _ _ | deleteItem p _ | hasItem p _ | keys p => some p
  | _ => none

/-- The bridge that a command goes through, if it goes through one. -/
def bridge? : Command Code → Option Nat
  | capabilities i _ | resolve i _ _ | create i _ _ | createTyped i _ _ _
  | createMap i _ _ => some i
  | c => c.proxy?.map (·.bridge)

/-- The shape that a command brings as a hint. -/
def hint? : Command Code → Option Shape
  | resolve _ _ hint => hint
  | _ => none

/-- The value that a command brings. -/
def object? : Command Code → Option (Object Code)
  | insert o => some o
  | _ => none

/-- The command leaves references with those who own them: it hands none out, and takes none. -/
def isBalanced : Command Code → Bool
  | insert _ | duplicate _ | release _ | member _ _ | invoke _ _ _ | own _ | adopt _
  | letGo _ => false
  | _ => true

/-- The command destroys no proxy. -/
def Spares : Command Code → Prop
  | destroy _ => False
  | _ => True

end Command

namespace Reply

/-- The new proxy that is a reply, if it is one. -/
def proxy? : Reply Code → Option Nat
  | proxy id => some id
  | host v => v.proxy?
  | _ => none

/-- The shape that is a reply, if it is one. -/
def shape? : Reply Code → Option Shape
  | shape s => some s
  | _ => none

end Reply

/-- A reply that is a shape is the answer of a registry. -/
theorem Command.shape_of_perform {env : Environment Code Client} {c : Command Code}
    {s s' : Session Code Client} {r : Reply Code} {shape : Shape}
    (h : c.perform env s = .ok r s') (hShape : r.shape? = some shape) :
    ∃ i flags hint, c = .resolve i flags hint ∧
      Act.resolveShape i flags hint s = .ok shape s' := by
  have hReply {ε α : Type} {act : Act Code Client ε α} {f : α → Reply Code}
      (h : (act >>= fun a => pure (f a)) s = .ok r s') (hf : ∀ a, (f a).shape? = none) : False := by
    obtain ⟨a, -, rfl⟩ := Act.map_eq_ok h
    rw [hf] at hShape
    cases hShape
  cases c with
  | resolve i flags hint =>
    obtain ⟨answer, hRun, rfl⟩ := Act.map_eq_ok h
    cases hShape
    exact ⟨i, flags, hint, rfl, hRun⟩
  | _ => exact (hReply h fun _ => rfl).elim

/-! ## Limits from outside -/

/-- The command with the limits of a bridge that would get a number. -/
def Limits.adjust (x : Limits) (i : Nat) : Command Code → Command Code
  | .openBridge catalog config => .openBridge catalog (x.configure i config)
  | c => c

/-- Carries out a command. A bridge that it opens gets the limits of its number. -/
def Limits.perform (x : Limits) (env : Environment Code Client) (c : Command Code) :
    Act Code Client ProxyError (Reply Code) :=
  fun s => (x.adjust s.bridges.length c).perform env s

/-- Opens a bridge with the limits of its number. -/
def Limits.openBridge (x : Limits) (catalog : Catalog Code) (config : Config) :
    Act Code Client ProxyError Nat :=
  fun s => Act.openBridge catalog (x.configure s.bridges.length config) s

/-! ## Foreign code that runs foreign code -/

namespace Environment

/-- Foreign code that runs too deep. -/
def tooDeep : ForeignError := ⟨"RangeError", "too much recursion"⟩

/-- Foreign code that fails at once. -/
def stopped : Environment Code Client :=
  { run := fun _ _ _ => throw tooDeep, decide := fun _ _ _ => throw tooDeep }

/-- Foreign code that runs foreign code, down to a depth where it fails at once. -/
def toDepth (around : Environment Code Client → Environment Code Client) :
    Nat → Environment Code Client
  | 0 => stopped
  | depth + 1 => around (toDepth around depth)

/-- What is true of foreign code that fails at once, and of code around code of which it is true, is
true at any depth. -/
theorem toDepth_induction {around : Environment Code Client → Environment Code Client}
    {P : Environment Code Client → Prop} (hStopped : P stopped)
    (hAround : ∀ env, P env → P (around env)) (depth : Nat) : P (toDepth around depth) := by
  induction depth with
  | zero => exact hStopped
  | succ depth ih => exact hAround _ ih

end Environment

end ProxyBridge
