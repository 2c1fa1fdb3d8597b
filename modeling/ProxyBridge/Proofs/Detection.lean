import ProxyBridge.Proofs.Catalog
import ProxyBridge.Proofs.Table

/-!
# What detection depends on

A probe reads a member, looks at what it got, and gives the reference back. If no probed member is
an accessor, no foreign code runs, and every reference that was taken is given back without a trace.
So what a catalog detects is a function of the structure of a value: its tag, which members are
numbers, and which are methods. The function is `Traits.mask`; the table, the other members and the
environment do not occur in it.

The rules of the standard catalog weigh earlier findings. Each finding that a rule weighs is settled
when the rule is asked, since every bit is decided at one place in the catalog. So the mask solves
one equation for each capability, and the order of the probes is not seen in it.

## Results

* `Environment.inspect_eq` — an inspection that runs no foreign code computes `Traits.mask`.
* `Traits.mask_includes` — each bit of the mask is the answer of its probe.
* `Traits.describes_mask` — the mask of the standard catalog, capability by capability.
* `detection_structural` — standard detection, in one statement.
-/

namespace ProxyBridge

variable {Code Client : Type}

/-! ## Structure -/

/-- What detection sees of a value. -/
structure Traits where
  tag : Tag
  /-- The named member is a number. -/
  numeric : String → Bool
  /-- The member is a method. -/
  callable : Key → Bool

/-- The data stored as a member. -/
def Object.datum (o : Object Code) (key : Key) : Value :=
  match o.members.find? key with
  | some (.data v) => v
  | _ => .undefined

namespace Table

/-- The number that a named member is, directly or as a value of its own. -/
def numberAt (t : Table Code) (o : Object Code) (name : String) : Option Double :=
  match o.datum (.named name) with
  | .number x => some x
  | .handle m => t.number? m
  | .undefined => none

/-- The structure of a value in a table. -/
def traits (t : Table Code) (o : Object Code) : Traits where
  tag := o.tag
  numeric name :=
    match o.datum (.named name) with
    | .number _ => true
    | .handle m => (t.number? m).isSome
    | .undefined => false
  callable key :=
    match o.datum key with
    | .handle m => t.isMethod m
    | _ => false

/-- Reading the member runs no code and names no value that is gone. -/
def isPlainMember (t : Table Code) (o : Object Code) (key : Key) : Bool :=
  match o.members.find? key with
  | some (.accessor _) => false
  | some (.data (.handle m)) => t.isLive m
  | _ => true

end Table

namespace Probe

/-- The members that a probe asks for numbers. -/
def names : Probe Code → List String
  | .numeric names => names
  | .rule .measured => ["size", "length"]
  | _ => []

/-- The members that a probe asks for methods. -/
def methods : Probe Code → List Key
  | .method key => [key]
  | .rule .syncStep | .rule .asyncStep => [.named Catalog.stepName]
  | _ => []

/-- The probe is code of a client. -/
def isCustom : Probe Code → Bool
  | .custom _ => true
  | _ => false

/-- All members that a probe reads. -/
def members (p : Probe Code) : List Key := p.names.map .named ++ p.methods

end Probe

namespace Traits

variable (x : Traits)

/-- The answer of a rule, from structure alone. -/
def judge (detected : Capabilities) : Rule → Bool
  | .measured =>
    x.numeric "size" || !detected.includes Capabilities.callable && x.numeric "length"
  | .syncStep =>
    (detected.includes Capabilities.iterable || !detected.includes Capabilities.asyncIterable) &&
      x.callable (.named Catalog.stepName)
  | .asyncStep =>
    (detected.includes Capabilities.asyncIterable || !detected.includes Capabilities.iterable) &&
      x.callable (.named Catalog.stepName)

/-- The answer of a probe, from structure alone. -/
def answer (detected : Capabilities) : Probe Code → Bool
  | .tag tags => tags.contains x.tag
  | .method key => x.callable key
  | .numeric names => names.any x.numeric
  | .rule r => x.judge detected r
  | .custom _ | .explicit => false

/-- One capability more, if its probe may run and says yes. -/
def detect (detected : Capabilities) (c : Capability Code) : Capabilities :=
  if !c.probe.isExplicit && c.applicable detected && x.answer detected c.probe then
    detected ||| c.flag
  else detected

/-- What a catalog detects. -/
def mask (c : Catalog Code) : Capabilities := c.capabilities.foldl x.detect 0#32

end Traits

/-! ## Reading without a trace -/

section Read

variable {t u : Table Code} {m : Handle}

/-- A reference that was taken does not show in the values. -/
theorem Table.objects_retain (hTaken : t.retain m = .ok u) (h : Handle) :
    (u.entry? h).map (·.object) = (t.entry? h).map (·.object) := by
  obtain ⟨-, rfl⟩ := Table.retain_eq_ok_iff.mp hTaken
  rw [Table.recount, Table.entry?_modifyEntry]
  split
  · cases t.entry? h <;> rfl
  · rfl

theorem Table.isMethod_retain (hTaken : t.retain m = .ok u) (h : Handle) :
    u.isMethod h = t.isMethod h := by
  have hSame := congrArg (Option.map Object.isMethod) (Table.objects_retain hTaken h)
  rw [Option.map_map, Option.map_map] at hSame
  exact congrArg (·.getD false) hSame

theorem Table.number?_retain (hTaken : t.retain m = .ok u) (h : Handle) :
    u.number? h = t.number? h := by
  have hSame := congrArg (·.bind Object.number) (Table.objects_retain hTaken h)
  rwa [Option.bind_map, Option.bind_map] at hSame

theorem Table.isSome_numberAt (t : Table Code) (o : Object Code) (name : String) :
    (t.numberAt o name).isSome = (t.traits o).numeric name := by
  unfold numberAt traits
  dsimp only
  cases o.datum (.named name) <;> rfl

variable {s : Session Code Client} {h : Handle} {o : Object Code} {key : Key}

/-- A reference that is taken and given back leaves the session as it was. -/
theorem Session.release_taken (hs : s.table.WellFormed) (hTaken : s.table.retain m = .ok u) :
    ({ s with table := u } : Session Code Client).release m = s := by
  unfold Session.release
  rw [Table.release_retain hs hTaken]
  rfl

namespace Environment

variable (env : Environment Code Client)

/-- A read of a plain member yields its data. -/
theorem read_datum (ho : s.table.object h = .ok o) (hPlain : s.table.isPlainMember o key = true)
    (hData : ∀ m, o.datum key ≠ .handle m) : env.read h key s = .ok (o.datum key) s := by
  unfold read
  unfold Object.datum at hData ⊢
  unfold Table.isPlainMember at hPlain
  rw [Act.bind_ok (Act.object_ok ho)]
  cases hm : o.members.find? key with
  | none => rfl
  | some member =>
    rw [hm] at hPlain hData
    cases member with
    | accessor getter => cases hPlain
    | data v =>
      cases v with
      | undefined | number => rfl
      | handle m => exact absurd rfl (hData m)

/-- A read of a plain member that is a value of its own takes a reference to it. -/
theorem read_handle (ho : s.table.object h = .ok o) (hPlain : s.table.isPlainMember o key = true)
    (hData : o.datum key = .handle m) :
    ∃ u, s.table.retain m = .ok u ∧ env.read h key s = .ok (.handle m) { s with table := u } := by
  unfold read
  unfold Object.datum at hData
  unfold Table.isPlainMember at hPlain
  rw [Act.bind_ok (Act.object_ok ho)]
  split at hData
  · next v hm =>
    subst hData
    rw [hm] at hPlain ⊢
    have hTaken := Table.retain_eq_ok_iff.mpr ⟨hPlain, rfl⟩
    exact ⟨_, hTaken, Act.bind_ok (Act.onTable_ok hTaken)⟩
  · cases hData

theorem hasMethod_eq (hs : s.table.WellFormed) (ho : s.table.object h = .ok o)
    (hPlain : s.table.isPlainMember o key = true) :
    env.hasMethod h key s = .ok ((s.table.traits o).callable key) s := by
  have hDatum := env.read_datum ho hPlain
  unfold hasMethod Table.traits
  dsimp only
  cases hData : o.datum key with
  | undefined | number =>
    rw [hData] at hDatum
    rw [Act.bind_ok (hDatum nofun)]
    rfl
  | handle m =>
    -- the method is looked at while the reference is held
    obtain ⟨u, hTaken, hRead⟩ := env.read_handle ho hPlain hData
    rw [Act.bind_ok hRead]
    show EStateM.Result.ok (u.isMethod m) (Session.release { s with table := u } m) = _
    rw [Session.release_taken hs hTaken, Table.isMethod_retain hTaken]

theorem number_eq (hs : s.table.WellFormed) (ho : s.table.object h = .ok o) {name : String}
    (hPlain : s.table.isPlainMember o (.named name) = true) :
    env.number h name s = .ok (s.table.numberAt o name) s := by
  have hDatum := env.read_datum ho hPlain
  unfold number Table.numberAt
  cases hData : o.datum (.named name) with
  | undefined | number =>
    rw [hData] at hDatum
    rw [Act.bind_ok (hDatum nofun)]
    rfl
  | handle m =>
    obtain ⟨u, hTaken, hRead⟩ := env.read_handle ho hPlain hData
    rw [Act.bind_ok hRead]
    show EStateM.Result.ok (u.number? m) (Session.release { s with table := u } m) = _
    rw [Session.release_taken hs hTaken, Table.number?_retain hTaken]

theorem firstNumber_eq (hs : s.table.WellFormed) (ho : s.table.object h = .ok o)
    {names : List String} (hPlain : ∀ name ∈ names, s.table.isPlainMember o (.named name) = true) :
    env.firstNumber h names s = .ok (names.findSome? (s.table.numberAt o)) s := by
  induction names with
  | nil => rfl
  | cons name rest ih =>
    have hFirst := env.number_eq hs ho (hPlain name (List.mem_cons_self ..))
    rw [List.findSome?_cons]
    unfold firstNumber
    rw [Act.bind_ok hFirst]
    cases s.table.numberAt o name with
    | some x => rfl
    | none => exact ih fun other hOther => hPlain other (List.mem_cons_of_mem _ hOther)

theorem judge_eq (hs : s.table.WellFormed) (ho : s.table.object h = .ok o) {r : Rule}
    (hPlain : ∀ key ∈ (Probe.rule r : Probe Code).members, s.table.isPlainMember o key = true)
    (detected : Capabilities) :
    env.judge r h detected s = .ok ((s.table.traits o).judge detected r) s := by
  -- a rule for steps asks for the method only if its condition holds
  have hStep (hNext : s.table.isPlainMember o (.named Catalog.stepName) = true) (may : Bool) :
      (if may then env.hasMethod h (.named Catalog.stepName) else pure false :
        Act Code Client ForeignError Bool) s =
        .ok (may && (s.table.traits o).callable (.named Catalog.stepName)) s := by
    cases may with
    | true => exact env.hasMethod_eq hs ho hNext
    | false => rfl
  unfold judge Traits.judge
  cases r with
  | measured =>
    have hSize := env.number_eq hs ho (hPlain (.named "size") (.head _))
    have hLength := env.number_eq hs ho (hPlain (.named "length") (.tail _ (.head _)))
    dsimp only
    rw [Act.bind_ok hSize, ← s.table.isSome_numberAt, ← s.table.isSome_numberAt]
    cases s.table.numberAt o "size" with
    | some size => rfl
    | none =>
      cases detected.includes Capabilities.callable with
      | true => rfl
      | false => exact Act.bind_ok hLength
  | syncStep => exact hStep (hPlain _ (.head _)) _
  | asyncStep => exact hStep (hPlain _ (.head _)) _

theorem probe_eq (hs : s.table.WellFormed) (ho : s.table.object h = .ok o) {p : Probe Code}
    (hCode : p.isCustom = false) (hPlain : ∀ key ∈ p.members, s.table.isPlainMember o key = true)
    {f : Findings} (hTag : ∀ tag, f.tag = some tag → tag = o.tag) :
    ∃ tag?, env.probe p h f s = .ok ((s.table.traits o).answer f.detected p, tag?) s ∧
      ∀ tag, tag? = some tag → tag = o.tag := by
  unfold probe
  cases p with
  | tag tags =>
    refine ⟨some o.tag, ?_, fun tag h => (Option.some.inj h).symm⟩
    -- the tag is asked for once, and is known from then on
    cases hf : f.tag with
    | some tag =>
      cases hTag tag hf
      rfl
    | none =>
      have hAsk : Act.tagOf h s = .ok o.tag s := Act.bind_ok (Act.object_ok ho)
      dsimp only
      rw [Act.bind_ok hAsk]
      rfl
  | method key =>
    have hAnswer := env.hasMethod_eq hs ho (hPlain key (List.mem_singleton_self key))
    exact ⟨f.tag, Act.bind_ok hAnswer, hTag⟩
  | numeric names =>
    have hNumber := env.firstNumber_eq hs ho fun (name : String) (hName : name ∈ names) =>
      hPlain (.named name) (List.mem_append_left _ (List.mem_map_of_mem hName))
    refine ⟨f.tag, ?_, hTag⟩
    dsimp only
    rw [Act.bind_ok hNumber, Traits.answer, List.isSome_findSome?]
    simp only [s.table.isSome_numberAt]
    rfl
  | rule r => exact ⟨f.tag, Act.bind_ok (env.judge_eq hs ho hPlain f.detected), hTag⟩
  | custom code => cases hCode
  | explicit => exact ⟨f.tag, rfl, hTag⟩

theorem examine_eq (hs : s.table.WellFormed) (ho : s.table.object h = .ok o) {c : Capability Code}
    (hCode : c.probe.isCustom = false)
    (hPlain : ∀ key ∈ c.probe.members, s.table.isPlainMember o key = true)
    {f : Findings} (hTag : ∀ tag, f.tag = some tag → tag = o.tag) :
    ∃ f', env.examine h f c s = .ok f' s ∧
      f'.detected = (s.table.traits o).detect f.detected c ∧
      ∀ tag, f'.tag = some tag → tag = o.tag := by
  unfold examine Traits.detect
  by_cases hSkip : (c.probe.isExplicit || !c.applicable f.detected) = true
  · have hNot : (!c.probe.isExplicit && c.applicable f.detected) = false := by
      rw [← Bool.not_inj_iff, Bool.not_and, Bool.not_not]
      exact hSkip
    rw [if_pos hSkip, hNot]
    exact ⟨f, rfl, rfl, hTag⟩
  · obtain ⟨tag?, hProbe, hTag'⟩ := env.probe_eq hs ho hCode hPlain hTag
    rw [Bool.not_eq_true, Bool.or_eq_false_iff, Bool.not_eq_false'] at hSkip
    rw [hSkip.1, hSkip.2]
    refine ⟨_, Act.bind_ok (Act.onError_ok hProbe), ?_, ?_⟩
    · unfold Findings.note
      dsimp only
      cases (s.table.traits o).answer f.detected c.probe <;> rfl
    · unfold Findings.note
      dsimp only
      cases (s.table.traits o).answer f.detected c.probe <;> exact hTag'

/-- An inspection whose probes run no foreign code computes the mask of the structure, and leaves
everything as it was. -/
theorem inspect_eq (hs : s.table.WellFormed) (ho : s.table.object h = .ok o)
    {catalog : Catalog Code} (hCode : ∀ c ∈ catalog.capabilities, c.probe.isCustom = false)
    (hPlain : ∀ c ∈ catalog.capabilities, ∀ key ∈ c.probe.members,
      s.table.isPlainMember o key = true) :
    env.inspect catalog h s = .ok ((s.table.traits o).mask catalog) s := by
  -- a tag that was found is the tag of the value, at every capability
  have hFold (l : List (Capability Code)) (hl : l ⊆ catalog.capabilities) (f : Findings)
      (hTag : ∀ tag, f.tag = some tag → tag = o.tag) :
      ∃ f', l.foldlM (env.examine h) f s = .ok f' s ∧
        f'.detected = l.foldl (s.table.traits o).detect f.detected := by
    induction l generalizing f with
    | nil => exact ⟨f, rfl, rfl⟩
    | cons c rest ih =>
      have hMem : c ∈ catalog.capabilities := hl (List.mem_cons_self ..)
      obtain ⟨f₁, hFirst, hDetected, hTag₁⟩ :=
        env.examine_eq hs ho (hCode c hMem) (hPlain c hMem) hTag
      obtain ⟨f₂, hRest, hAll⟩ := ih (fun d hd => hl (List.mem_cons_of_mem _ hd)) f₁ hTag₁
      refine ⟨f₂, ?_, ?_⟩
      · rw [List.foldlM_cons, Act.bind_ok hFirst, hRest]
      · rw [List.foldl_cons, ← hDetected, hAll]
  obtain ⟨f, hAll, hDetected⟩ := hFold catalog.capabilities (List.Subset.refl _) .start nofun
  unfold inspect
  rw [Act.bind_ok hAll, hDetected]
  rfl

end Environment

end Read

/-! ## Bit by bit -/

theorem Mask.includes_union_apart {m flag other : Mask} (h : flag.meets other = false) :
    (m ||| flag).includes other = m.includes other := by
  have hApart := Mask.meets_eq_false_iff.mp h
  rw [Bool.eq_iff_iff, Mask.includes_iff, Mask.includes_iff]
  refine forall_congr' fun i => imp_congr_right fun hi => ?_
  rw [BitVec.getLsbD_or]
  cases hFlag : flag.getLsbD i with
  | false => rw [Bool.or_false]
  | true => exact absurd hi (by rw [hApart i hFlag]; exact Bool.false_ne_true)

theorem Mask.meets_comm (a b : Mask) : a.meets b = b.meets a := by
  rw [Mask.meets, Mask.meets, BitVec.and_comm]

/-- The empty mask includes no bits. -/
theorem Mask.includes_empty {flag : Mask} (h : flag ≠ 0#32) : Mask.includes 0#32 flag = false := by
  rw [Mask.includes, BitVec.zero_and]
  exact beq_false_of_ne h.symm

/-- Every capability has bits that no other has, and its probe waits for no finding. -/
structure Catalog.Separate (c : Catalog Code) : Prop where
  apart : c.capabilities.Pairwise fun a b => a.flag.meets b.flag = false
  nonempty : ∀ d ∈ c.capabilities, d.flag ≠ 0#32
  always : ∀ d ∈ c.capabilities, d.requires = 0#32 ∧ d.excludes = 0#32

theorem Catalog.separate_standard : (Catalog.standard : Catalog Code).Separate where
  apart := by
    have hFlags : (standard : Catalog Code).capabilities.map (·.flag) =
        (List.range 20).map Mask.bit := rfl
    refine (List.pairwise_map (f := Capability.flag)
      (R := fun a b => a.meets b = false)).mp ?_
    rw [hFlags]
    decide
  nonempty := of_decide_eq_true rfl
  always := of_decide_eq_true rfl

namespace Traits

variable (x : Traits) {c : Catalog Code} {d : Capability Code} {m : Capabilities} {n k : Nat}

/-- Capabilities with other bits do not decide about a flag. -/
theorem foldl_includes {flag : Capabilities} (l : List (Capability Code)) (m : Capabilities)
    (hApart : ∀ d ∈ l, d.flag.meets flag = false) :
    (l.foldl x.detect m).includes flag = m.includes flag := by
  induction l generalizing m with
  | nil => rfl
  | cons d rest ih =>
    have hRest := ih (x.detect m d) fun e he => hApart e (List.mem_cons_of_mem _ he)
    rw [List.foldl_cons, hRest, detect]
    split
    · exact Mask.includes_union_apart (hApart d (List.mem_cons_self ..))
    · rfl

/-- A probe that may run decides about a flag that was not found yet. -/
theorem detect_includes (hAsked : d.probe.isExplicit = false) (hMay : d.applicable m = true)
    (hNew : m.includes d.flag = false) :
    (x.detect m d).includes d.flag = x.answer m d.probe := by
  rw [detect, hAsked, hMay]
  cases hAnswer : x.answer m d.probe with
  | true => exact Mask.includes_union_right m d.flag
  | false => exact hNew

/-- Each bit of the mask is the answer of its probe to what was found before. -/
theorem mask_includes (hc : c.Separate) (hn : n < c.capabilities.length)
    (hAsked : c.capabilities[n].probe.isExplicit = false) :
    (x.mask c).includes c.capabilities[n].flag =
      x.answer (x.mask ⟨c.capabilities.take n⟩) c.capabilities[n].probe := by
  have hSplit : c.capabilities = c.capabilities.take n ++ c.capabilities[n] ::
      c.capabilities.drop (n + 1) := by
    rw [← List.drop_eq_getElem_cons hn, List.take_append_drop]
  have hMem := List.getElem_mem hn
  obtain ⟨hRequires, hExcludes⟩ := hc.always _ hMem
  have hEmpty := Mask.includes_empty (hc.nonempty _ hMem)
  have hApart := hc.apart
  generalize c.capabilities[n] = d at *
  rw [hSplit, List.pairwise_append, List.pairwise_cons] at hApart
  obtain ⟨-, ⟨hAfter, -⟩, hBefore⟩ := hApart
  -- nothing in front has the bits, and nothing behind changes them
  have hNew : (x.mask ⟨c.capabilities.take n⟩).includes d.flag = false := by
    rw [mask, x.foldl_includes _ _ fun e he => hBefore e he d (List.mem_cons_self ..)]
    exact hEmpty
  have hLater (m : Capabilities) :
      ((c.capabilities.drop (n + 1)).foldl x.detect m).includes d.flag = m.includes d.flag :=
    x.foldl_includes _ m fun e he => by
      rw [Mask.meets_comm]
      exact hAfter e he
  have hMay : d.applicable (x.mask ⟨c.capabilities.take n⟩) = true := by
    rw [Capability.applicable, hRequires, hExcludes]
    simp [Mask.includes, Mask.meets]
  calc (x.mask c).includes d.flag
      = (((c.capabilities.take n ++ d :: c.capabilities.drop (n + 1)).foldl x.detect 0#32)).includes
          d.flag := by rw [← hSplit, mask]
    _ = (x.detect (x.mask ⟨c.capabilities.take n⟩) d).includes d.flag := by
        rw [List.foldl_append, List.foldl_cons, hLater, mask]
    _ = x.answer (x.mask ⟨c.capabilities.take n⟩) d.probe := x.detect_includes hAsked hMay hNew

/-- What was found of the first capabilities stays as it is. -/
theorem mask_take_includes (hc : c.Separate) (hk : k < n) (hn : n ≤ c.capabilities.length) :
    (x.mask ⟨c.capabilities.take n⟩).includes (c.capabilities.get ⟨k, by omega⟩).flag =
      (x.mask c).includes (c.capabilities.get ⟨k, by omega⟩).flag := by
  have hSplit := List.take_append_drop n c.capabilities
  have hApart := hc.apart
  rw [← hSplit, List.pairwise_append] at hApart
  have hMem : c.capabilities.get ⟨k, by omega⟩ ∈ c.capabilities.take n := by
    rw [List.mem_take_iff_getElem]
    exact ⟨k, by omega, rfl⟩
  calc (x.mask ⟨c.capabilities.take n⟩).includes (c.capabilities.get ⟨k, by omega⟩).flag
      = ((c.capabilities.drop n).foldl x.detect (x.mask ⟨c.capabilities.take n⟩)).includes
          (c.capabilities.get ⟨k, by omega⟩).flag := by
        refine (x.foldl_includes _ _ fun e he => ?_).symm
        rw [Mask.meets_comm]
        exact hApart.2.2 _ hMem e he
    _ = (x.mask c).includes (c.capabilities.get ⟨k, by omega⟩).flag := by
        rw [mask, mask, ← List.foldl_append, hSplit]

/-- No probe answers for a bit that is not in its flag. -/
theorem exists_of_getLsbD_mask {i : Nat} (h : (x.mask c).getLsbD i = true) :
    ∃ d ∈ c.capabilities, d.probe.isExplicit = false ∧ d.flag.getLsbD i = true := by
  have hFold (l : List (Capability Code)) (m : Capabilities)
      (hBit : (l.foldl x.detect m).getLsbD i = true) : m.getLsbD i = true ∨
        ∃ d ∈ l, d.probe.isExplicit = false ∧ d.flag.getLsbD i = true := by
    induction l generalizing m with
    | nil => exact Or.inl hBit
    | cons d rest ih =>
      rcases ih _ hBit with hFirst | ⟨e, he, hFlag⟩
      · rw [detect] at hFirst
        split at hFirst
        · next hYes =>
          rw [BitVec.getLsbD_or, Bool.or_eq_true] at hFirst
          rw [Bool.and_eq_true, Bool.and_eq_true, Bool.not_eq_true'] at hYes
          exact hFirst.imp_right fun hFlag => ⟨d, List.mem_cons_self .., hYes.1.1, hFlag⟩
        · exact Or.inl hFirst
      · exact Or.inr ⟨e, List.mem_cons_of_mem _ he, hFlag⟩
  rcases hFold c.capabilities 0#32 h with hZero | hFound
  · simp at hZero
  · exact hFound

/-! ## The standard catalog -/

/-- The mask says of a value what the standard catalog documents. -/
structure Describes (x : Traits) (m : Capabilities) : Prop where
  callable : m.includes Capabilities.callable = (x.tag == .function)
  hasLength : m.includes Capabilities.hasLength =
    (x.numeric "size" || x.numeric "length" && x.tag != .function)
  hasGet : m.includes Capabilities.hasGet = x.callable (.named "get")
  hasSet : m.includes Capabilities.hasSet = x.callable (.named "set")
  hasHas : m.includes Capabilities.hasHas = x.callable (.named "has")
  hasIncludes : m.includes Capabilities.hasIncludes = x.callable (.named "includes")
  iterable : m.includes Capabilities.iterable = x.callable (.symbol .iterator)
  asyncIterable : m.includes Capabilities.asyncIterable = x.callable (.symbol .asyncIterator)
  iterator : m.includes Capabilities.iterator = (x.callable (.named "next") &&
    (m.includes Capabilities.iterable || !m.includes Capabilities.asyncIterable))
  asyncIterator : m.includes Capabilities.asyncIterator = (x.callable (.named "next") &&
    (m.includes Capabilities.asyncIterable || !m.includes Capabilities.iterable))
  awaitable : m.includes Capabilities.awaitable = x.callable (.named "then")
  buffer : m.includes Capabilities.buffer = (x.tag == .arrayBuffer || x.tag == .typedArray)
  array : m.includes Capabilities.array = (x.tag == .array)
  typedArray : m.includes Capabilities.typedArray = (x.tag == .typedArray)
  nodeList : m.includes Capabilities.nodeList = (x.tag == .nodeList)
  generator : m.includes Capabilities.generator = (x.tag == .generator)
  asyncGenerator : m.includes Capabilities.asyncGenerator = (x.tag == .asyncGenerator)
  error : m.includes Capabilities.error = (x.tag == .error)
  doubleProxy : m.includes Capabilities.doubleProxy = (x.tag == .hostProxy)
  others : ∀ i, 19 ≤ i → m.getLsbD i = false

/-- The mask of the standard catalog is the documented one. -/
theorem describes_mask : x.Describes (x.mask (Catalog.standard : Catalog Code)) := by
  have hc : (Catalog.standard : Catalog Code).Separate := Catalog.separate_standard
  have hLength : (Catalog.standard : Catalog Code).capabilities.length = 20 := rfl
  have hTag (tag : Tag) : [tag].contains x.tag = (x.tag == tag) := by
    rw [List.contains_cons, List.contains_nil, Bool.or_false]
  have hCallable := (x.mask_includes hc (n := 0) (by omega) rfl).trans (hTag .function)
  constructor
  case callable => exact hCallable
  case hasLength =>
    -- the rule weighs whether the value was found to be callable, which was settled before
    have hEarly := x.mask_take_includes hc (k := 0) (n := 1) (by omega) (by omega)
    refine (x.mask_includes hc (n := 1) (by omega) rfl).trans ?_
    exact congrArg (fun callable => x.numeric "size" || !callable && x.numeric "length")
      (hEarly.trans hCallable) |>.trans (by rw [Bool.and_comm]; rfl)
  case hasGet => exact x.mask_includes hc (n := 2) (by omega) rfl
  case hasSet => exact x.mask_includes hc (n := 3) (by omega) rfl
  case hasHas => exact x.mask_includes hc (n := 4) (by omega) rfl
  case hasIncludes => exact x.mask_includes hc (n := 5) (by omega) rfl
  case iterable => exact x.mask_includes hc (n := 6) (by omega) rfl
  case asyncIterable => exact x.mask_includes hc (n := 7) (by omega) rfl
  case iterator =>
    -- the rule weighs both kinds of iteration, which were settled before
    have hSync := x.mask_take_includes hc (k := 6) (n := 8) (by omega) (by omega)
    have hAsync := x.mask_take_includes hc (k := 7) (n := 8) (by omega) (by omega)
    refine (x.mask_includes hc (n := 8) (by omega) rfl).trans ?_
    rw [Bool.and_comm]
    exact congrArg₂ (fun sync async => (sync || !async) && x.callable (.named "next")) hSync hAsync
  case asyncIterator =>
    have hSync := x.mask_take_includes hc (k := 6) (n := 9) (by omega) (by omega)
    have hAsync := x.mask_take_includes hc (k := 7) (n := 9) (by omega) (by omega)
    refine (x.mask_includes hc (n := 9) (by omega) rfl).trans ?_
    rw [Bool.and_comm]
    exact congrArg₂ (fun sync async => (async || !sync) && x.callable (.named "next")) hSync hAsync
  case awaitable => exact x.mask_includes hc (n := 10) (by omega) rfl
  case buffer =>
    refine (x.mask_includes hc (n := 11) (by omega) rfl).trans ?_
    show [Tag.arrayBuffer, .typedArray].contains x.tag = _
    rw [List.contains_cons, hTag]
  case array => exact (x.mask_includes hc (n := 12) (by omega) rfl).trans (hTag .array)
  case typedArray => exact (x.mask_includes hc (n := 13) (by omega) rfl).trans (hTag .typedArray)
  case nodeList => exact (x.mask_includes hc (n := 14) (by omega) rfl).trans (hTag .nodeList)
  case generator => exact (x.mask_includes hc (n := 15) (by omega) rfl).trans (hTag .generator)
  case asyncGenerator =>
    exact (x.mask_includes hc (n := 16) (by omega) rfl).trans (hTag .asyncGenerator)
  case error => exact (x.mask_includes hc (n := 17) (by omega) rfl).trans (hTag .error)
  case doubleProxy => exact (x.mask_includes hc (n := 18) (by omega) rfl).trans (hTag .hostProxy)
  case others =>
    intro i hi
    by_contra hBit
    rw [Bool.not_eq_false] at hBit
    obtain ⟨d, hd, hAsked, hFlag⟩ := x.exists_of_getLsbD_mask hBit
    -- the probes that are asked have the first nineteen bits
    have hLow : ∀ d ∈ (Catalog.standard : Catalog Code).capabilities,
        d.probe.isExplicit = true ∨ d.flag.toNat < 2 ^ 19 := of_decide_eq_true rfl
    rcases hLow d hd with hExplicit | hLess
    · rw [hAsked] at hExplicit
      cases hExplicit
    · have hBound : 2 ^ i ≤ d.flag.toNat := Nat.ge_two_pow_of_testBit hFlag
      have hPower : 2 ^ 19 ≤ 2 ^ i := Nat.pow_le_pow_right (by omega) hi
      omega

/-! ## Agreement -/

/-- The members that the standard catalog asks for numbers. -/
def probedNames : List String := ["size", "length"]

/-- The members that the standard catalog asks for methods. -/
def probedMethods : List Key :=
  [.named "get", .named "set", .named "has", .named "includes", .named "next", .named "then",
   .symbol .iterator, .symbol .asyncIterator]

/-- The standard catalog asks for nothing else, and runs no code of a client. -/
theorem probes_standard : ∀ d ∈ (Catalog.standard : Catalog Code).capabilities,
    d.probe.isCustom = false ∧ d.probe.names ⊆ probedNames ∧ d.probe.methods ⊆ probedMethods :=
  of_decide_eq_true rfl

/-- Two values have the same tag, and the same of their probed members are numbers and methods. -/
structure Agrees (x y : Traits) : Prop where
  tag : x.tag = y.tag
  numeric : ∀ name ∈ probedNames, x.numeric name = y.numeric name
  callable : ∀ key ∈ probedMethods, x.callable key = y.callable key

variable {x} {y : Traits}

theorem answer_congr {p : Probe Code} (hTag : x.tag = y.tag)
    (hNames : ∀ name ∈ p.names, x.numeric name = y.numeric name)
    (hMethods : ∀ key ∈ p.methods, x.callable key = y.callable key) (m : Capabilities) :
    x.answer m p = y.answer m p := by
  cases p with
  | tag tags => exact congrArg tags.contains hTag
  | method key => exact hMethods key (.head _)
  | numeric names =>
    rw [answer, answer, Bool.eq_iff_iff, List.any_eq_true, List.any_eq_true]
    exact exists_congr fun name => and_congr_right fun hName => by rw [hNames name hName]
  | rule r =>
    cases r with
    | measured =>
      have hSize := hNames "size" (.head _)
      have hLength := hNames "length" (.tail _ (.head _))
      rw [answer, answer, judge, judge, hSize, hLength]
    | syncStep | asyncStep => rw [answer, answer, judge, judge, hMethods _ (.head _)]
  | custom code | explicit => rfl

/-- Values of one structure have one mask. -/
theorem Agrees.mask_eq (h : x.Agrees y) :
    x.mask (Catalog.standard : Catalog Code) = y.mask (Catalog.standard : Catalog Code) := by
  -- the same happens at each capability, whatever was found before
  refine List.foldl_ext _ _ _ fun m d hd => ?_
  obtain ⟨-, hNames, hMethods⟩ := probes_standard d hd
  rw [detect, detect, answer_congr h.tag (fun name hn => h.numeric name (hNames hn))
    fun key hk => h.callable key (hMethods hk)]

end Traits

/-! ## Detection -/

/-- Reading the probed members of the value runs no code and finds no value gone. -/
def Table.Plain (t : Table Code) (o : Object Code) : Prop :=
  ∀ key ∈ Traits.probedNames.map .named ++ Traits.probedMethods, t.isPlainMember o key = true

instance (t : Table Code) (o : Object Code) : Decidable (t.Plain o) :=
  inferInstanceAs (Decidable (∀ key ∈ _, _))

theorem Environment.inspect_standard (env : Environment Code Client) {s : Session Code Client}
    {h : Handle} {o : Object Code} (hs : s.table.WellFormed) (ho : s.table.object h = .ok o)
    (hPlain : s.table.Plain o) :
    env.inspect Catalog.standard h s =
      .ok ((s.table.traits o).mask (Catalog.standard : Catalog Code)) s := by
  refine env.inspect_eq hs ho (fun d hd => (Traits.probes_standard d hd).1) fun d hd key hKey => ?_
  obtain ⟨-, hNames, hMethods⟩ := Traits.probes_standard d hd
  refine hPlain key ?_
  rcases List.mem_append.mp hKey with hName | hMethod
  · exact List.mem_append_left _ (List.map_subset _ hNames hName)
  · exact List.mem_append_right _ (hMethods hMethod)

/--
**Detection sees structure, and nothing else.** Let no probed member of a value be an accessor or a
value that is gone, in a table that operations can make. Then standard detection succeeds, whatever
foreign code there is; it leaves the table, the log and everything else as they were, and its mask
says of the value what the standard catalog documents, with no other bit. A value in any other table
gets the same mask if it has the same tag and if the same probed members are numbers and methods.
-/
theorem detection_structural (env : Environment Code Client) {s : Session Code Client}
    {h : Handle} {o : Object Code} (hs : s.table.WellFormed) (ho : s.table.object h = .ok o)
    (hPlain : s.table.Plain o) :
    ∃ mask, env.inspect Catalog.standard h s = .ok mask s ∧ (s.table.traits o).Describes mask ∧
      ∀ {Client' : Type} (env' : Environment Code Client') (s' : Session Code Client')
        (h' : Handle) (o' : Object Code), s'.table.WellFormed → s'.table.object h' = .ok o' →
        s'.table.Plain o' → (s.table.traits o).Agrees (s'.table.traits o') →
          env'.inspect Catalog.standard h' s' = .ok mask s' := by
  refine ⟨_, env.inspect_standard hs ho hPlain, (s.table.traits o).describes_mask, ?_⟩
  intro Client' env' s' h' o' hs' ho' hPlain' hAgrees
  rw [hAgrees.mask_eq]
  exact env'.inspect_standard hs' ho' hPlain'

/-- A value with a size and a method `get`. -/
def exampleSized (get : Handle) (size : Value) : Object Unit :=
  (Object.plain.withMember (.named "get") (.data (.handle get))).withMember (.named "size")
    (.data size)

/-- The value has further members, which run code. -/
def exampleColored (get : Handle) (size : Value) : Object Unit :=
  (exampleSized get size).withMember (.named "color") (.accessor ())

/-- A function, and a value whose size is stored in it. -/
def exampleDirect : Table Unit :=
  (((Table.empty none).insert (.function ())).2.insert (exampleSized ⟨2⟩ (.number (.ofNat 5)))).2

/-- A number, a function, and a value whose size is the number. -/
def exampleIndirect : Table Unit :=
  ((((Table.empty none).insert (.ofNumber (.ofNat 7))).2.insert (.function ())).2.insert
    (exampleColored ⟨3⟩ (.handle ⟨2⟩))).2

/-- Where the size is stored, which number it is, and what other members there are does not
matter. -/
theorem detection_structural_sized :
    let env : Environment Unit Unit :=
      { run := fun _ _ _ => pure .undefined, decide := fun _ _ _ => pure true }
    let s : Session Unit Unit := .new exampleDirect false ()
    let s' : Session Unit Unit := .new exampleIndirect false ()
    s.table.WellFormed ∧ s.table.object ⟨3⟩ = .ok (exampleSized ⟨2⟩ (.number (.ofNat 5))) ∧
      s.table.Plain (exampleSized ⟨2⟩ (.number (.ofNat 5))) ∧
      ∃ mask, mask.includes Capabilities.hasLength = true ∧
        mask.includes Capabilities.callable = false ∧
        env.inspect Catalog.standard ⟨3⟩ s = .ok mask s ∧
        env.inspect Catalog.standard ⟨4⟩ s' = .ok mask s' := by
  intro env s s'
  have hs : s.table.WellFormed := by decide
  have ho : s.table.object ⟨3⟩ = .ok (exampleSized ⟨2⟩ (.number (.ofNat 5))) := rfl
  have hPlain : s.table.Plain (exampleSized ⟨2⟩ (.number (.ofNat 5))) := by decide
  obtain ⟨mask, hInspect, hMask, hOthers⟩ := detection_structural env hs ho hPlain
  have hAgrees : (s.table.traits (exampleSized ⟨2⟩ (.number (.ofNat 5)))).Agrees
      (s'.table.traits (exampleColored ⟨3⟩ (.handle ⟨2⟩))) := ⟨rfl, by decide, by decide⟩
  have hOther := hOthers env s' ⟨4⟩ (exampleColored ⟨3⟩ (.handle ⟨2⟩)) (by decide) rfl (by decide)
    hAgrees
  exact ⟨hs, ho, hPlain, mask, hMask.hasLength, hMask.callable, hInspect, hOther⟩

end ProxyBridge
