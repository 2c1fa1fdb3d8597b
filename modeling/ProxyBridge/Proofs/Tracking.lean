import ProxyBridge.Proofs.Hints
import ProxyBridge.Proofs.Plans

/-!
# One action under two limits

An action tracks another one if, in a session with raised limits, the other does what the first does
in the session with the original limits: the results are the same, the errors are the same, and the
sessions at the end are the same but for the limits. That is so unless a limit refuses the first
action, or has refused a command while it ran.

There is one rule for each way in which actions are put together. Most operations do not look at
limits at all, and to them it does not matter how the limits change, nor what the client keeps.

## Results

* `Act.Blind` — actions to which limits do not matter.
* `Act.Tracks` — what the action does under raised limits; `Tracks.bind`, `Tracks.foldlM` and the
  other rules.
* `Blind.tracks` — a blind action tracks itself.
-/

namespace ProxyBridge

variable {Code Client ε ε' α β : Type}

/-! ## Limits that do not matter -/

namespace Table

theorem releaseOne_relimit (limit : Option Nat) (t : Table Code) (h : Handle) :
    (t.relimit limit).releaseOne h =
      match t.releaseOne h with
      | .stale => .stale
      | .alive u => .alive (u.relimit limit)
      | .freed u owned => .freed (u.relimit limit) owned := by
  have hEntry : Table.entry? (t.relimit limit) h = t.entry? h := rfl
  unfold releaseOne
  rw [hEntry]
  cases t.entry? h with
  | none => rfl
  | some e =>
    dsimp only
    split
    · rfl
    · split
      · rfl
      · rfl

/-- A cascade does not look at the limit. -/
theorem releaseAll_relimit (limit : Option Nat) (t : Table Code) (pending : List Handle) :
    (t.relimit limit).releaseAll pending =
      ((t.releaseAll pending).1.relimit limit, (t.releaseAll pending).2) := by
  -- each step comes to the same in both tables, and leaves the same handles pending
  fun_induction Table.releaseAll t pending with
  | case1 t => rw [releaseAll_nil]
  | case2 t h rest hr u events hu ih =>
    rw [hu] at ih
    rw [releaseAll_cons, releaseOne_relimit, hr]
    dsimp only
    rw [ih]
  | case3 t h rest u hr ih =>
    rw [releaseAll_cons, releaseOne_relimit, hr]
    exact ih
  | case4 t h rest u owned hr v events hv ih =>
    rw [hv] at ih
    rw [releaseAll_cons, releaseOne_relimit, hr]
    dsimp only
    rw [ih]

/-- A cascade keeps the limit. -/
theorem releaseAll_limit (t : Table Code) (pending : List Handle) :
    (t.releaseAll pending).1.limit = t.limit :=
  congrArg (fun r => r.1.limit) (releaseAll_relimit t.limit t pending)

end Table

/-- The session with another limit of references, other bridges and another client. -/
def Session.disguise (limit : Option Nat → Option Nat)
    (bridges : List (Bridge Code) → List (Bridge Code)) (client : Client → Client)
    (s : Session Code Client) : Session Code Client :=
  { s with
    table := s.table.relimit (limit s.table.limit)
    bridges := bridges s.bridges
    client := client s.client }

namespace Act

/-- Limits do not matter to the action, nor do bridges and the client. -/
def Blind (act : Act Code Client ε α) : Prop :=
  ∀ limit bridges client, act.Commutes (Session.disguise limit bridges client)

namespace Blind

variable {act : Act Code Client ε α}

theorem pure (a : α) : (Pure.pure a : Act Code Client ε α).Blind := fun _ _ _ _ => rfl

theorem throw (e : ε) : (MonadExcept.throw e : Act Code Client ε α).Blind := fun _ _ _ _ => rfl

theorem bind {f : α → Act Code Client ε β} (h : act.Blind) (hf : ∀ a, (f a).Blind) :
    (act >>= f).Blind :=
  fun limit bridges client => (h limit bridges client).bind fun a => hf a limit bridges client

theorem modify {f : Session Code Client → Session Code Client}
    (h : ∀ limit bridges client s,
      f (Session.disguise limit bridges client s) = Session.disguise limit bridges client (f s)) :
    Blind (modifyGet fun s => (PUnit.unit, f s) : Act Code Client ε PUnit) := by
  intro limit bridges client s
  exact congrArg (EStateM.Result.ok PUnit.unit) (h limit bridges client s)

theorem onTable {f : Table Code → Except ε (Table Code)}
    (h : ∀ t limit, f (Table.relimit limit t) = (f t).map (Table.relimit limit))
    (hKeep : ∀ t u, f t = .ok u → u.limit = t.limit) :
    (onTable f : Act Code Client ε Unit).Blind := by
  intro limit bridges client s
  have hDisguised : f (s.disguise limit bridges client).table =
      (f s.table).map (Table.relimit (limit s.table.limit)) := h _ _
  cases hr : f s.table with
  | error e =>
    rw [hr] at hDisguised
    rw [onTable_error hr, onTable_error hDisguised]
    rfl
  | ok u =>
    rw [hr] at hDisguised
    rw [onTable_ok hr, onTable_ok hDisguised]
    change EStateM.Result.ok () _ = EStateM.Result.ok () (Session.disguise _ _ _ _)
    -- the new limit depends on the old one, so that has to be the one before the change
    unfold Session.disguise
    rw [hKeep _ _ hr]

end Blind

theorem blind_object (h : Handle) :
    (object h : Act Code Client ForeignError (Object Code)).Blind := by
  intro limit bridges client s
  have hObject : (s.disguise limit bridges client).table.object h = s.table.object h := rfl
  unfold object
  rw [hObject]
  cases s.table.object h with
  | ok o => rfl
  | error e => rfl

theorem blind_tagOf (h : Handle) : (tagOf h : Act Code Client ForeignError Tag).Blind :=
  (blind_object h).bind fun _ => Blind.pure _

theorem blind_memberNames (h : Handle) :
    (memberNames h : Act Code Client ForeignError (List String)).Blind :=
  (blind_object h).bind fun _ => Blind.pure _

theorem blind_insert (o : Object Code) : (insert o : Act Code Client ε Handle).Blind :=
  fun _ _ _ _ => rfl

theorem blind_retain (h : Handle) :
    (onTable (·.retain h) : Act Code Client ForeignError Unit).Blind := by
  refine Blind.onTable ?_ ?_
  · intro t limit
    unfold Table.retain
    change (if t.isLive h then _ else _) = _
    split
    · rfl
    · rfl
  · intro t u hu
    unfold Table.retain at hu
    split at hu
    · cases hu
      rfl
    · cases hu

theorem release_disguise (limit : Option Nat → Option Nat)
    (bridges : List (Bridge Code) → List (Bridge Code)) (client : Client → Client)
    (s : Session Code Client) (h : Handle) :
    (s.disguise limit bridges client).release h =
      (s.release h).disguise limit bridges client := by
  have hRelease := Table.releaseAll_relimit (limit s.table.limit) s.table [h]
  have hLimit := Table.releaseAll_limit s.table [h]
  unfold Session.release Table.release
  change Session.emitAll { s.disguise limit bridges client with
    table := ((s.table.relimit (limit s.table.limit)).releaseAll [h]).1 }
      ((s.table.relimit (limit s.table.limit)).releaseAll [h]).2 = _
  rw [hRelease]
  unfold Session.disguise Session.emitAll
  dsimp only
  rw [hLimit]

theorem letGo_disguise (limit : Option Nat → Option Nat)
    (bridges : List (Bridge Code) → List (Bridge Code)) (client : Client → Client)
    (s : Session Code Client) (h : Handle) :
    (s.disguise limit bridges client).letGo h = (s.letGo h).disguise limit bridges client := by
  unfold Session.letGo
  exact congrArg (Session.emit · _)
    (release_disguise limit bridges client { s with owned := s.owned.erase h } h)

theorem blind_release (h : Handle) : (release h : Act Code Client ε Unit).Blind :=
  Blind.modify fun limit bridges client s => release_disguise limit bridges client s h

/-- A look at the table, but for its limit, before a reference is given back. -/
theorem blind_lastLook {γ : Type} (h : Handle) (look : Table Code → γ)
    (hLook : ∀ t limit, look (Table.relimit limit t) = look t) :
    Blind (do
      let found := look (← get).table
      release h
      return found : Act Code Client ε γ) := by
  intro limit bridges client s
  change (do release h; return look (s.table.relimit _) : Act Code Client ε γ) _ = _
  rw [hLook]
  exact ((blind_release h).bind fun _ => Blind.pure (look s.table)) limit bridges client s

theorem blind_release? (r : Option Handle) :
    Blind (match r with
      | some h => release h
      | none => Pure.pure () : Act Code Client ε Unit) := by
  cases r with
  | none => exact Blind.pure ()
  | some h => exact blind_release h

theorem blind_materialize (v : Value) :
    (materialize v : Act Code Client ForeignError Handle).Blind := by
  cases v with
  | undefined => exact (blind_retain _).bind fun _ => Blind.pure _
  | number x => exact blind_insert _
  | handle h => exact Blind.pure h

theorem blind_setMember (h : Handle) (k : Key) (v : Handle) :
    (setMember h k v : Act Code Client ForeignError Unit).Blind :=
  (blind_object h).bind fun _ => (blind_retain v).bind fun _ =>
    (Blind.modify fun _ _ _ _ => rfl).bind fun _ => blind_release? _

theorem blind_deleteMember (h : Handle) (k : Key) :
    (deleteMember h k : Act Code Client ForeignError Bool).Blind := by
  refine (blind_object h).bind fun o => (Blind.modify fun _ _ _ _ => rfl).bind fun _ => ?_
  cases o.members.find? k with
  | none => exact Blind.pure false
  | some m =>
    dsimp only
    cases m.owned? with
    | none => exact Blind.pure true
    | some old => exact (blind_release old).bind fun _ => Blind.pure true

end Act

/-! ## Raised limits -/

/-- The second limit is the first one, or a higher one, or there is none any more. -/
def Limits.Raised : Option Nat → Option Nat → Prop
  | _, none => True
  | none, some _ => False
  | some n, some m => n ≤ m

/-- All limits are raised. A heap without a limit of its own is limited by its capacity. -/
structure Limits.Within (x y : Limits) : Prop where
  references : Raised x.references y.references
  shapes : ∀ i, Raised (x.shapes i) (y.shapes i)
  proxies : ∀ i, (x.proxies i).getD Heap.capacity ≤ (y.proxies i).getD Heap.capacity

/-- The session has the limits, and foreign code has not just raised an error. -/
structure Session.Ready (x : Limits) (s : Recorded Code) : Prop where
  limits : s.relimit x = s
  calm : s.client.isCalm = true

/-- A change that leaves the client alone, and to which limits do not matter. -/
structure Session.Neutral (f : Recorded Code → Recorded Code) : Prop where
  client : ∀ s, (f s).client = s.client
  limits : ∀ z s, f (Session.relimit z s) = Session.relimit z (f s)

namespace Session.Neutral

variable {f g : Recorded Code → Recorded Code} {x : Limits} {s : Recorded Code}

theorem id : Neutral fun s : Recorded Code => s := ⟨fun _ => rfl, fun _ _ => rfl⟩

theorem comp (hg : Neutral g) (hf : Neutral f) : Neutral fun s => g (f s) := by
  refine ⟨fun s => (hg.client _).trans (hf.client s), ?_⟩
  intro z s
  rw [hf.limits, hg.limits]

theorem relimit_eq (hf : Neutral f) (hs : s.relimit x = s) : (f s).relimit x = f s := by
  rw [← hf.limits, hs]

theorem ready (hf : Neutral f) (hs : s.Ready x) : (f s).Ready x :=
  ⟨hf.relimit_eq hs.limits, by rw [hf.client]; exact hs.calm⟩

theorem emit (e : Event) : Neutral fun s : Recorded Code => s.emit e :=
  ⟨fun _ => rfl, fun _ _ => rfl⟩

theorem emitAll (events : List Event) : Neutral fun s : Recorded Code => s.emitAll events :=
  ⟨fun _ => rfl, fun _ _ => rfl⟩

theorem adopt (h : Handle) : Neutral fun s : Recorded Code => s.adopt h :=
  ⟨fun _ => rfl, fun _ _ => rfl⟩

theorem letGo (h : Handle) : Neutral fun s : Recorded Code => s.letGo h :=
  ⟨fun _ => rfl, fun z s => Act.letGo_disguise (fun _ => z.references)
    (fun l => l.mapIdx fun i (b : Bridge Code) => b.relimit z i) (fun c => c) s h⟩

theorem letGo? (r : Option Handle) : Neutral fun s : Recorded Code => s.letGo? r := by
  cases r with
  | none => exact ⟨fun _ => rfl, fun _ _ => rfl⟩
  | some h => exact letGo h

end Session.Neutral

namespace Act

variable {x y : Limits}

/-- An action between two changes, the second of which depends on how it ends, with its error
restated. -/
def enclose (act : Act Code Client ε α) (before after : Session Code Client → Session Code Client)
    (fail : ε → Session Code Client → Session Code Client) (restate : ε → ε') :
    Act Code Client ε' α := fun s =>
  match act (before s) with
  | .ok a s' => .ok a (after s')
  | .error e s' => .error (restate e) (fail e s')

/-- A limit has refused the action, or a command that ran in it. -/
def IsRefused [Refusable ε] : EStateM.Result ε (Recorded Code) α → Prop
  | .ok _ s => s.client.refused = true
  | .error e s => s.client.refused = true ∨ Refusable.isRefusal e = true ∧ s.client.isCalm = true

/-- The action ends with the limits it had, and goes on only if foreign code has not just raised an
error. -/
def StaysReady (x : Limits) : EStateM.Result ε (Recorded Code) α → Prop
  | .ok _ s => s.Ready x
  | .error _ s => s.relimit x = s

/-- Under raised limits the second action does what the first one does, unless a limit refuses. -/
structure Tracks [Refusable ε] (x y : Limits) (act act' : Act Code (Journal Code) ε α) :
    Prop where
  /-- What was refused stays on record. -/
  keeps : Ensures (fun s => s.client.refused = true) act (fun _ s => s.client.refused = true)
    fun _ s => s.client.refused = true
  agrees : ∀ s, s.Ready x → IsRefused (act s) ∨
    StaysReady x (act s) ∧ act' (s.relimit y) = mapState (Session.relimit y) (act s)

/-- A blind action leaves the client alone. -/
theorem Blind.ensures_client {act : Act Code Client ε α} (h : act.Blind) (c : Client) :
    Ensures (fun s => s.client = c) act (fun _ s => s.client = c) fun _ s => s.client = c := by
  intro s hs
  -- the same run in the same session, whose client is replaced by what it is
  have hRun := h id id (fun _ => c) s
  have hSame : s.disguise id id (fun _ => c) = s := by rw [← hs]; rfl
  rw [hSame] at hRun
  cases hr : act s with
  | ok a s' =>
    rw [hr] at hRun
    injection hRun with _ hEnd
    rw [hEnd]
    rfl
  | error e s' =>
    rw [hr] at hRun
    injection hRun with _ hEnd
    rw [hEnd]
    rfl

namespace Tracks

variable [Refusable ε] {act act' : Act Code (Journal Code) ε α}

theorem of_blind (h : act.Blind) : act.Tracks x y act := by
  refine ⟨?_, ?_⟩
  · intro s hs
    have hStays : ∀ s' : Recorded Code, s'.client = s.client → s'.client.refused = true := by
      intro s' hClient
      rw [hClient]
      exact hs
    exact (h.ensures_client s.client).mono (fun _ hc => hc) (fun _ s' => hStays s')
      (fun _ s' => hStays s') s rfl
  · intro s hs
    -- limits are a disguise, both those that the session has and the raised ones
    have hRelimit (z : Limits) : act (s.relimit z) = mapState (Session.relimit z) (act s) :=
      h (fun _ => z.references) (fun l => l.mapIdx fun i (b : Bridge Code) => b.relimit z i) id s
    have hLimits := hRelimit x
    rw [hs.limits] at hLimits
    have hClient := h.ensures_client s.client s rfl
    refine Or.inr ⟨?_, hRelimit y⟩
    cases hr : act s with
    | ok a s' =>
      rw [hr] at hLimits hClient
      injection hLimits with _ hEnd
      have hSame : s'.client = s.client := hClient
      exact ⟨hEnd.symm, hSame ▸ hs.calm⟩
    | error e s' =>
      rw [hr] at hLimits
      injection hLimits with _ hEnd
      exact hEnd.symm

theorem pure (a : α) : Tracks x y (Pure.pure a : Act Code (Journal Code) ε α) (Pure.pure a) :=
  of_blind (Blind.pure a)

theorem throw (e : ε) :
    Tracks x y (MonadExcept.throw e : Act Code (Journal Code) ε α) (MonadExcept.throw e) :=
  of_blind (Blind.throw e)

theorem bind {f f' : α → Act Code (Journal Code) ε β} (h : act.Tracks x y act')
    (hf : ∀ a, (f a).Tracks x y (f' a)) : (act >>= f).Tracks x y (act' >>= f') := by
  refine ⟨h.keeps.bind fun a => (hf a).keeps, ?_⟩
  intro s hs
  have hFirst := h.agrees s hs
  cases hr : act s with
  | ok a s' =>
    rw [hr] at hFirst
    rw [bind_ok hr]
    rcases hFirst with hRefused | ⟨hReady, hSame⟩
    · -- the second action runs, and what was refused stays on record
      have hKeeps := (hf a).keeps s' hRefused
      left
      cases hr' : f a s' with
      | ok b s'' =>
        rw [hr'] at hKeeps
        exact hKeeps
      | error e s'' =>
        rw [hr'] at hKeeps
        exact Or.inl hKeeps
    · rw [bind_ok hSame]
      exact (hf a).agrees s' hReady
  | error e s' =>
    rw [hr] at hFirst
    rw [bind_error hr]
    rcases hFirst with hRefused | ⟨hLimits, hSame⟩
    · -- nothing runs after an error, so a refusal may not be on record yet
      exact Or.inl hRefused
    · rw [bind_error hSame]
      exact Or.inr ⟨hLimits, rfl⟩

/-- What the journal says is the same in both sessions. -/
theorem journal_bind {f f' : Journal Code → Act Code (Journal Code) ε α}
    (h : ∀ journal, (f journal).Tracks x y (f' journal)) :
    Tracks x y (MonadState.get >>= fun s : Recorded Code => f s.client)
      (MonadState.get >>= fun s : Recorded Code => f' s.client) :=
  ⟨fun s => (h s.client).keeps s, fun s => (h s.client).agrees s⟩

theorem foldlM {γ : Type} {f f' : β → γ → Act Code (Journal Code) ε β}
    (h : ∀ b c, (f b c).Tracks x y (f' b c)) (l : List γ) (b : β) :
    (l.foldlM f b).Tracks x y (l.foldlM f' b) := by
  induction l generalizing b with
  | nil => exact pure b
  | cons c rest ih =>
    rw [List.foldlM_cons, List.foldlM_cons]
    exact (h b c).bind ih

theorem modify {f : Recorded Code → Recorded Code} (hf : Session.Neutral f) :
    Tracks x y (modifyGet fun s => (PUnit.unit, f s) : Act Code (Journal Code) ε PUnit)
      (modifyGet fun s => (PUnit.unit, f s)) := by
  refine ⟨?_, ?_⟩
  · intro s hs
    change (f s).client.refused = true
    rw [hf.client]
    exact hs
  · intro s hs
    exact Or.inr ⟨hf.ready hs, congrArg (EStateM.Result.ok PUnit.unit) (hf.limits y s)⟩

/-- An action between neutral changes, with its error restated. -/
theorem enclose [Refusable ε'] {before after : Recorded Code → Recorded Code}
    {fail : ε → Recorded Code → Recorded Code} {restate : ε → ε'} (h : act.Tracks x y act')
    (hBefore : Session.Neutral before) (hAfter : Session.Neutral after)
    (hFail : ∀ e, Session.Neutral (fail e))
    (hRestate : ∀ e, Refusable.isRefusal e = true → Refusable.isRefusal (restate e) = true) :
    (act.enclose before after fail restate).Tracks x y
      (act'.enclose before after fail restate) := by
  refine ⟨?_, ?_⟩
  · intro s hs
    have hStart : (before s).client.refused = true := by
      rw [hBefore.client]
      exact hs
    have hKeeps := h.keeps (before s) hStart
    unfold Act.enclose
    cases hr : act (before s) with
    | ok a s' =>
      rw [hr] at hKeeps
      dsimp only at hKeeps ⊢
      rw [hAfter.client]
      exact hKeeps
    | error e s' =>
      rw [hr] at hKeeps
      dsimp only at hKeeps ⊢
      rw [(hFail e).client]
      exact hKeeps
  · intro s hs
    -- a neutral change can be made before the limits are raised, or after
    have hRun := h.agrees _ (hBefore.ready hs)
    unfold Act.enclose
    rw [hBefore.limits]
    cases hr : act (before s) with
    | ok a s' =>
      rw [hr] at hRun
      rcases hRun with hRefused | ⟨hReady, hSame⟩
      · left
        change (after s').client.refused = true
        rw [hAfter.client]
        exact hRefused
      · rw [hSame]
        exact Or.inr ⟨hAfter.ready hReady, congrArg (EStateM.Result.ok a) (hAfter.limits y s')⟩
    | error e s' =>
      rw [hr] at hRun
      rcases hRun with hRefused | ⟨hLimits, hSame⟩
      · left
        change (fail e s').client.refused = true ∨
          Refusable.isRefusal (restate e) = true ∧ (fail e s').client.isCalm = true
        rw [(hFail e).client]
        exact hRefused.imp_right fun hError => ⟨hRestate e hError.1, hError.2⟩
      · rw [hSame]
        exact Or.inr ⟨(hFail e).relimit_eq hLimits,
          congrArg (EStateM.Result.error (restate e)) ((hFail e).limits y s')⟩

theorem onError {f : ε → Recorded Code → Recorded Code} (h : act.Tracks x y act')
    (hf : ∀ e, Session.Neutral (f e)) : (act.onError f).Tracks x y (act'.onError f) :=
  h.enclose Session.Neutral.id Session.Neutral.id hf fun _ hError => hError

theorem holding (h : Handle) (hAct : act.Tracks x y act') :
    (Act.holding h act).Tracks x y (Act.holding h act') :=
  hAct.enclose (Session.Neutral.adopt h) (Session.Neutral.letGo h)
    (fun _ => Session.Neutral.letGo h) fun _ hError => hError

theorem foreign {act act' : Act Code (Journal Code) ForeignError α} (h : act.Tracks x y act') :
    act.foreign.Tracks x y act'.foreign := by
  refine h.enclose Session.Neutral.id Session.Neutral.id (fun _ => Session.Neutral.id) ?_
  intro e hError
  -- the error of the table is carried unchanged
  rw [of_decide_eq_true hError]
  decide

end Tracks

end Act

end ProxyBridge
