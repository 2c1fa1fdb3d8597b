import Mathlib.Data.List.Induction
import ProxyBridge.Proofs.Contest
import ProxyBridge.Proofs.Detection
import ProxyBridge.Proofs.Identity

/-!
# What an inspection runs, and what it believes

An inspection walks a catalog in order. Whether the probe of a capability runs depends on what was
detected before it, which depends on the answers of earlier probes, and these may be given by code
that changes the session. So what an inspection does can be told only with its answer in hand: if
it ends with a mask, then the mask says which probes ran, and each probe that ran says one bit of
the mask. The bits of the mask that belong to earlier capabilities are what a probe has seen.

Everything is proved along the catalog, by one capability that joins at its end. What was found
before does not change when it joins, since its bit is its own.

## Results

* `Catalog.Reachable` — the catalogs that registration makes; `Catalog.Distinct` — what they keep.
* `Environment.Surveys` — an account of an inspection: its mask and the probes that ran.
* `Environment.surveys_foldlM` — every inspection has an account, up to the probe that raises.
* `Catalog.Solves.unique` — one mask at most agrees with given answers.
* `inspection_faithful` — the applicable probes run, once and in order, and are believed.
-/

namespace ProxyBridge

variable {Code Client : Type}

/-! ## Masks with one bit -/

namespace Mask

theorem getLsbD_unionAll (ms : List Mask) (i : Nat) :
    (unionAll ms).getLsbD i = ms.any (·.getLsbD i) := by
  have hFold (acc : Mask) :
      (ms.foldl (· ||| ·) acc).getLsbD i = (acc.getLsbD i || ms.any (·.getLsbD i)) := by
    induction ms generalizing acc with
    | nil => simp
    | cons m rest ih => rw [List.foldl_cons, ih, BitVec.getLsbD_or, List.any_cons, Bool.or_assoc]
  rw [unionAll, hFold, BitVec.getLsbD_zero, Bool.false_or]

/-- A mask with a single bit is known by the place of the bit. -/
theorem exists_bit_of_isSingle {flag : Mask} (h : flag.isSingle = true) :
    ∃ i, ∀ j, flag.getLsbD j = true ↔ j = i := by
  obtain ⟨i, hBits⟩ := List.length_eq_one_iff.mp (beq_iff_eq.mp h)
  refine ⟨i, fun j => ?_⟩
  have hMem : j ∈ flag.bits ↔ flag.getLsbD j = true := by
    rw [bits, List.mem_filter, List.mem_range]
    exact and_iff_right_of_imp BitVec.lt_of_getLsbD
  rw [← hMem, hBits, List.mem_singleton]

/-- A single bit is in a mask as a whole or not at all. -/
theorem meets_eq_includes {flag : Mask} (h : flag.isSingle = true) (m : Mask) :
    m.meets flag = m.includes flag := by
  obtain ⟨i, hBit⟩ := exists_bit_of_isSingle h
  rw [Bool.eq_iff_iff, meets_iff, includes_iff]
  simp only [hBit]
  constructor
  · rintro ⟨j, hj, rfl⟩ k rfl
    exact hj
  · exact fun hAll => ⟨i, hAll i rfl, rfl⟩

end Mask

/-! ## Catalogs that registration makes -/

namespace Catalog

/-- The catalogs that come about when capabilities register one after another. -/
inductive Reachable : Catalog Code → Prop where
  | empty : Reachable .empty
  | standard : Reachable .standard
  | register {c c' : Catalog Code} {d : Capability Code} (hc : c.Reachable)
    (hr : c.register d = .ok c') : Reachable c'

/-- Every capability has one bit, which no other has. -/
structure Distinct (c : Catalog Code) : Prop where
  apart : c.capabilities.Pairwise fun a b => a.flag.meets b.flag = false
  single : ∀ d ∈ c.capabilities, Mask.isSingle d.flag = true

theorem Reachable.distinct {c : Catalog Code} (hc : c.Reachable) : c.Distinct := by
  induction hc with
  | empty => exact ⟨.nil, nofun⟩
  | standard =>
    have hFlags : (Catalog.standard : Catalog Code).capabilities.map (·.flag) =
        (List.range 20).map Mask.bit := rfl
    have hSingle : ((List.range 20).map Mask.bit).all Mask.isSingle = true := by decide
    rw [← hFlags, List.all_map, List.all_eq_true] at hSingle
    exact ⟨separate_standard.apart, hSingle⟩
  | register hc hr ih =>
    obtain ⟨hSingle, hApart, rfl⟩ := register_eq_ok_iff.mp hr
    constructor
    · rw [List.pairwise_append]
      refine ⟨ih.apart, List.pairwise_singleton _ _, ?_⟩
      intro a ha b hb
      rw [List.mem_singleton.mp hb]
      exact hApart a ha
    · intro x hx
      rcases List.mem_append.mp hx with hOld | hNew
      · exact ih.single x hOld
      · rw [List.mem_singleton.mp hNew]
        exact hSingle

theorem Reachable.registerEach {c : Catalog Code} (hc : c.Reachable)
    (ds : List (Capability Code)) : (c.registerEach ds).2.Reachable := by
  induction ds generalizing c with
  | nil => exact hc
  | cons d rest ih =>
    rw [Catalog.registerEach]
    cases hr : c.register d with
    | error e => exact ih hc
    | ok c' => exact ih (hc.register hr)

/-! ## What was found before a place -/

/-- The bits of a mask that belong to the capabilities before a place. -/
def upTo (c : Catalog Code) (m : Capabilities) (i : Nat) : Capabilities :=
  m &&& (⟨c.capabilities.take i⟩ : Catalog Code).registered

/-- The probe of the capability at a place may run, given what a mask has from the places before. -/
def asks (c : Catalog Code) (m : Capabilities) (i : Nat) : Bool :=
  (c.capabilities[i]?).any fun d => !d.probe.isExplicit && d.applicable (c.upTo m i)

section Join

variable {l : List (Capability Code)} {d : Capability Code} {m : Capabilities} {i : Nat}

theorem getLsbD_upTo (c : Catalog Code) (m : Capabilities) (i j : Nat) :
    (c.upTo m i).getLsbD j =
      (m.getLsbD j && (c.capabilities.take i).any (·.flag.getLsbD j)) := by
  rw [upTo, BitVec.getLsbD_and, registered, Mask.getLsbD_unionAll, List.any_map]
  rfl

/-- A bit of a mask is there at every place behind its capability. -/
theorem includes_upTo (c : Catalog Code) (m : Capabilities) (i : Nat) :
    m.includes (c.upTo m i) = true := by
  rw [Mask.includes_iff]
  intro j hj
  rw [getLsbD_upTo, Bool.and_eq_true] at hj
  exact hj.1

theorem upTo_length {c : Catalog Code}
    (hm : ∀ j, m.getLsbD j = true → ∃ d ∈ c.capabilities, d.flag.getLsbD j = true) :
    c.upTo m c.capabilities.length = m := by
  refine BitVec.eq_of_getLsbD_eq fun j _ => ?_
  rw [getLsbD_upTo, List.take_length]
  cases hj : m.getLsbD j with
  | false => rfl
  | true => exact List.any_eq_true.mpr (hm j hj)

/-- A capability that joins at the end was not there before. -/
theorem upTo_concat (hi : i ≤ l.length) : upTo ⟨l ++ [d]⟩ m i = upTo ⟨l⟩ m i := by
  unfold upTo
  rw [List.take_append_of_le_length hi]

/-- The bit of a new capability is none of those before. -/
theorem upTo_union (hApart : ∀ x ∈ l, x.flag.meets d.flag = false) :
    upTo ⟨l⟩ (m ||| d.flag) i = upTo ⟨l⟩ m i := by
  refine BitVec.eq_of_getLsbD_eq fun j _ => ?_
  rw [getLsbD_upTo, getLsbD_upTo, BitVec.getLsbD_or]
  cases hAny : (l.take i).any (·.flag.getLsbD j) with
  | false => rw [Bool.and_false, Bool.and_false]
  | true =>
    obtain ⟨x, hx, hBit⟩ := List.any_eq_true.mp hAny
    rw [Mask.meets_eq_false_iff.mp (hApart x (List.mem_of_mem_take hx)) j hBit, Bool.or_false]

theorem asks_concat (hi : i < l.length) : asks ⟨l ++ [d]⟩ m i = asks ⟨l⟩ m i := by
  unfold asks
  rw [List.getElem?_append_left hi, upTo_concat (Nat.le_of_lt hi)]

theorem asks_last (hm : upTo ⟨l⟩ m l.length = m) :
    asks ⟨l ++ [d]⟩ m l.length = (!d.probe.isExplicit && d.applicable m) := by
  unfold asks
  rw [upTo_concat (Nat.le_refl _), hm, List.getElem?_concat_length]
  rfl

/-- The places that ask, when one capability joins. -/
theorem filter_asks_concat {m' : Capabilities}
    (hSame : ∀ i ≤ l.length, upTo ⟨l⟩ m' i = upTo ⟨l⟩ m i) :
    (List.range (l ++ [d]).length).filter (asks ⟨l ++ [d]⟩ m') =
      (List.range l.length).filter (asks ⟨l⟩ m) ++
        if asks ⟨l ++ [d]⟩ m' l.length then [l.length] else [] := by
  rw [List.length_append, List.length_singleton, List.range_succ, List.filter_append,
    List.filter_singleton, Bool.cond_eq_ite]
  congr 1
  refine List.filter_congr fun i hi => ?_
  have hLt : i < l.length := List.mem_range.mp hi
  rw [asks_concat hLt, asks, asks, hSame i (Nat.le_of_lt hLt)]

end Join

end Catalog

/-! ## Accounts of an inspection -/

/-- One probe that ran in an inspection, and answered. -/
structure ProbeRun (Code Client : Type) where
  /-- The place of the capability in the catalog. -/
  place : Nat
  /-- What the inspection knew. -/
  seen : Findings
  before : Session Code Client
  found : Bool
  /-- The tag of the value, if it was known by then. -/
  tag : Option Tag
  after : Session Code Client

/-- The runs follow one another: each begins where the one before has ended, with the tag that was
known by then. -/
inductive ProbeRun.Linked (s : Session Code Client) :
    List (ProbeRun Code Client) → Option Tag → Session Code Client → Prop where
  | start : Linked s [] none s
  | next {runs : List (ProbeRun Code Client)} {r : ProbeRun Code Client}
    (hRuns : Linked s runs r.seen.tag r.before) : Linked s (runs ++ [r]) r.tag r.after

/-- Which places have said yes, when one more probe has run. -/
theorem ProbeRun.exists_concat {runs : List (ProbeRun Code Client)} {r : ProbeRun Code Client}
    {i : Nat} : (∃ x ∈ runs ++ [r], x.place = i ∧ x.found = true) ↔
      (∃ x ∈ runs, x.place = i ∧ x.found = true) ∨ r.place = i ∧ r.found = true := by
  simp only [List.mem_append, List.mem_singleton, or_and_right, exists_or, exists_eq_left]

namespace Environment

variable (env : Environment Code Client) (h : Handle)

/-- An account of the inspection of a value that ends with a mask. -/
structure Surveys (c : Catalog Code) (s : Session Code Client) (m : Capabilities)
    (runs : List (ProbeRun Code Client)) (tag : Option Tag) (s' : Session Code Client) : Prop where
  linked : ProbeRun.Linked s runs tag s'
  /-- Each run is one of the probe at its place. -/
  genuine : ∀ r ∈ runs, ∃ d, c.capabilities[r.place]? = some d ∧
    env.probe d.probe h r.seen r.before = .ok (r.found, r.tag) r.after
  /-- The probes that may run do so, once each and in the order of the catalog. -/
  places : runs.map (·.place) = (List.range c.capabilities.length).filter (c.asks m)
  seen : ∀ r ∈ runs, r.seen.detected = c.upTo m r.place
  /-- A bit is in the mask if its probe said so. -/
  believed : ∀ i d, c.capabilities[i]? = some d →
    (m.includes d.flag = true ↔ ∃ r ∈ runs, r.place = i ∧ r.found = true)
  bits : ∀ j, m.getLsbD j = true →
    ∃ d ∈ c.capabilities, d.probe.isExplicit = false ∧ d.flag.getLsbD j = true

/-- An account of the inspection of a value that ends with an error: the one of the first probe that
raises. It is reported, and nothing runs after it. -/
def Raises (c : Catalog Code) (s : Session Code Client) (e : ForeignError)
    (s' : Session Code Client) : Prop :=
  ∃ i d m runs tag s₁ s₂, c.capabilities[i]? = some d ∧
    env.Surveys h ⟨c.capabilities.take i⟩ s m runs tag s₁ ∧
    d.probe.isExplicit = false ∧ d.applicable m = true ∧
    env.probe d.probe h { detected := m, tag } s₁ = .error e s₂ ∧
    s' = s₂.emit (.probeRaised d.name h e.text)

section Join

variable {env h} {l : List (Capability Code)} {d : Capability Code} {m : Capabilities}
  {s s₁ s₂ : Session Code Client} {runs : List (ProbeRun Code Client)} {tag tag' : Option Tag}

theorem Surveys.upTo_length (hs : env.Surveys h ⟨l⟩ s m runs tag s₁) :
    Catalog.upTo ⟨l⟩ m l.length = m :=
  Catalog.upTo_length (c := ⟨l⟩) fun j hj => by
    obtain ⟨d, hd, -, hBit⟩ := hs.bits j hj
    exact ⟨d, hd, hBit⟩

theorem Surveys.place_lt (hs : env.Surveys h ⟨l⟩ s m runs tag s₁) {r : ProbeRun Code Client}
    (hr : r ∈ runs) : r.place < l.length := by
  obtain ⟨x, hx, -⟩ := hs.genuine r hr
  exact (List.getElem?_eq_some_iff.mp hx).1

/-- What ran was a probe of the catalog, and is one when a capability joins. -/
theorem Surveys.genuine_concat (hs : env.Surveys h ⟨l⟩ s m runs tag s₁)
    {r : ProbeRun Code Client} (hr : r ∈ runs) : ∃ x, (l ++ [d])[r.place]? = some x ∧
      env.probe x.probe h r.seen r.before = .ok (r.found, r.tag) r.after := by
  obtain ⟨x, hx, hProbe⟩ := hs.genuine r hr
  exact ⟨x, (List.getElem?_append_left (hs.place_lt hr)).trans hx, hProbe⟩

theorem Surveys.seen_concat (hs : env.Surveys h ⟨l⟩ s m runs tag s₁)
    {r : ProbeRun Code Client} (hr : r ∈ runs) :
    r.seen.detected = Catalog.upTo ⟨l ++ [d]⟩ m r.place := by
  rw [hs.seen r hr, Catalog.upTo_concat (Nat.le_of_lt (hs.place_lt hr))]

/-- No probe has run at the place behind the last. -/
theorem Surveys.no_run (hs : env.Surveys h ⟨l⟩ s m runs tag s₁) :
    ¬∃ r ∈ runs, r.place = l.length ∧ r.found = true := by
  rintro ⟨r, hr, hPlace, -⟩
  exact (hs.place_lt hr).ne hPlace

/-- The bit of a capability that joins was not found before. -/
theorem Surveys.not_includes (hs : env.Surveys h ⟨l⟩ s m runs tag s₁)
    (hApart : ∀ x ∈ l, x.flag.meets d.flag = false) (hSingle : Mask.isSingle d.flag = true) :
    m.includes d.flag = false := by
  rw [← Mask.meets_eq_includes hSingle, Mask.meets_eq_false_iff]
  intro j hj
  obtain ⟨x, hx, -, hBit⟩ := hs.bits j hj
  exact Mask.meets_eq_false_iff.mp (hApart x hx) j hBit

/-- A capability joins whose probe may not run. -/
theorem Surveys.skip (hs : env.Surveys h ⟨l⟩ s m runs tag s₁)
    (hApart : ∀ x ∈ l, x.flag.meets d.flag = false) (hSingle : Mask.isSingle d.flag = true)
    (hSkip : (!d.probe.isExplicit && d.applicable m) = false) :
    env.Surveys h ⟨l ++ [d]⟩ s m runs tag s₁ where
  linked := hs.linked
  genuine _ hr := hs.genuine_concat hr
  places := by
    rw [Catalog.filter_asks_concat fun _ _ => rfl, Catalog.asks_last hs.upTo_length, hSkip,
      hs.places]
    exact (List.append_nil _).symm
  seen _ hr := hs.seen_concat hr
  believed i x hx := by
    rcases getElem?_concat_cases hx with hOld | ⟨rfl, rfl⟩
    · exact hs.believed i x hOld
    · rw [hs.not_includes hApart hSingle]
      exact ⟨nofun, fun hRun => absurd hRun hs.no_run⟩
  bits j hj := by
    obtain ⟨x, hx, hAsked, hBit⟩ := hs.bits j hj
    exact ⟨x, List.mem_append_left _ hx, hAsked, hBit⟩

/-- A capability joins whose probe runs and answers. -/
theorem Surveys.run (hs : env.Surveys h ⟨l⟩ s m runs tag s₁)
    (hApart : ∀ x ∈ l, x.flag.meets d.flag = false) (hSingle : Mask.isSingle d.flag = true)
    (hAsked : d.probe.isExplicit = false) (hMay : d.applicable m = true) {found : Bool}
    (hProbe : env.probe d.probe h { detected := m, tag } s₁ = .ok (found, tag') s₂) :
    env.Surveys h ⟨l ++ [d]⟩ s (if found then m ||| d.flag else m)
      (runs ++ [⟨l.length, { detected := m, tag }, s₁, found, tag', s₂⟩]) tag' s₂ := by
  -- the new bit does not show at any place up to the last
  have hSame (i : Nat) : Catalog.upTo ⟨l⟩ (if found then m ||| d.flag else m) i =
      Catalog.upTo ⟨l⟩ m i := by
    cases found with
    | false => rfl
    | true => exact Catalog.upTo_union hApart
  have hLast := hs.upTo_length
  constructor
  case linked => exact hs.linked.next (r := ⟨l.length, { detected := m, tag }, s₁, found, tag', s₂⟩)
  case genuine =>
    intro r hr
    rcases List.mem_append.mp hr with hOld | hNew
    · exact hs.genuine_concat hOld
    · rw [List.mem_singleton.mp hNew]
      exact ⟨d, List.getElem?_concat_length, hProbe⟩
  case places =>
    have hAsks : Catalog.asks ⟨l ++ [d]⟩ (if found then m ||| d.flag else m) l.length = true := by
      rw [Catalog.asks, List.getElem?_concat_length, Catalog.upTo_concat (Nat.le_refl _), hSame,
        hLast, Option.any_some, hAsked, hMay]
      rfl
    rw [Catalog.filter_asks_concat fun i _ => hSame i, hAsks, List.map_append, hs.places]
    rfl
  case seen =>
    intro r hr
    rcases List.mem_append.mp hr with hOld | hNew
    · rw [hs.seen r hOld, Catalog.upTo_concat (Nat.le_of_lt (hs.place_lt hOld)), hSame]
    · rw [List.mem_singleton.mp hNew, Catalog.upTo_concat (Nat.le_refl _), hSame, hLast]
  case believed =>
    intro i x hx
    rw [ProbeRun.exists_concat]
    rcases getElem?_concat_cases hx with hOld | ⟨rfl, rfl⟩
    · have hLt := (List.getElem?_eq_some_iff.mp hOld).1
      have hOther : Mask.includes (if found then m ||| d.flag else m) x.flag =
          m.includes x.flag := by
        cases found with
        | false => rfl
        | true =>
          refine Mask.includes_union_apart ?_
          rw [Mask.meets_comm]
          exact hApart x (List.mem_of_getElem? hOld)
      rw [hOther, hs.believed i x hOld, or_iff_left fun hNew => hLt.ne' hNew.1]
    · -- the last place has one run, and its answer is the bit
      have hBit : Mask.includes (if found then m ||| x.flag else m) x.flag = found := by
        cases found with
        | false => exact hs.not_includes hApart hSingle
        | true => exact Mask.includes_union_right m x.flag
      rw [hBit, or_iff_right hs.no_run, and_iff_right rfl]
  case bits =>
    intro j hj
    have hCases : m.getLsbD j = true ∨ d.flag.getLsbD j = true := by
      cases found with
      | false => exact Or.inl hj
      | true =>
        rwa [if_pos rfl, BitVec.getLsbD_or, Bool.or_eq_true] at hj
    rcases hCases with hOld | hNew
    · obtain ⟨x, hx, hOldAsked, hBit⟩ := hs.bits j hOld
      exact ⟨x, List.mem_append_left _ hx, hOldAsked, hBit⟩
    · exact ⟨d, List.mem_append_right _ (List.mem_singleton_self d), hAsked, hNew⟩

theorem Raises.concat {e : ForeignError} (hr : env.Raises h ⟨l⟩ s e s₁) :
    env.Raises h ⟨l ++ [d]⟩ s e s₁ := by
  obtain ⟨i, x, m, runs, tag, s₂, s₃, hx, hSurveys, hAsked, hMay, hProbe, hEnd⟩ := hr
  have hLt := (List.getElem?_eq_some_iff.mp hx).1
  refine ⟨i, x, m, runs, tag, s₂, s₃, (List.getElem?_append_left hLt).trans hx, ?_, hAsked, hMay,
    hProbe, hEnd⟩
  show env.Surveys h ⟨(l ++ [d]).take i⟩ s m runs tag s₂
  rw [List.take_append_of_le_length (Nat.le_of_lt hLt)]
  exact hSurveys

end Join

/-- Every inspection has an account, up to its end or to the probe that raises. -/
theorem surveys_foldlM {l : List (Capability Code)} (hl : Catalog.Distinct ⟨l⟩)
    (s : Session Code Client) :
    match l.foldlM (env.examine h) Findings.start s with
    | .ok f s' => ∃ runs, env.Surveys h ⟨l⟩ s f.detected runs f.tag s'
    | .error e s' => env.Raises h ⟨l⟩ s e s' := by
  -- the induction is on the catalog, with the capabilities in the order in which they joined
  induction l using List.reverseRecOn with
  | nil =>
    have hNone : env.Surveys h ⟨[]⟩ s 0#32 [] none s :=
      { linked := .start
        genuine := fun _ hr => nomatch hr
        places := rfl
        seen := fun _ hr => nomatch hr
        believed := fun _ _ hx => nomatch hx
        bits := fun j hj => by
          rw [BitVec.getLsbD_zero] at hj
          cases hj }
    exact ⟨[], hNone⟩
  | append_singleton l d ih =>
    have hApart := List.pairwise_append.mp hl.apart
    have hNew : ∀ x ∈ l, x.flag.meets d.flag = false :=
      fun x hx => hApart.2.2 x hx d (List.mem_singleton_self d)
    have hSingle := hl.single d (List.mem_append_right _ (List.mem_singleton_self d))
    have hBefore := ih ⟨hApart.1, fun x hx => hl.single x (List.mem_append_left _ hx)⟩
    have hSplit : (l ++ [d]).foldlM (env.examine h) Findings.start =
        l.foldlM (env.examine h) Findings.start >>= fun f => env.examine h f d := by
      rw [List.foldlM_append]
      simp only [List.foldlM_cons, List.foldlM_nil, bind_pure]
    rw [hSplit]
    cases hRun : l.foldlM (env.examine h) Findings.start s with
    | error e s₁ =>
      rw [hRun] at hBefore
      rw [Act.bind_error hRun]
      exact Raises.concat hBefore
    | ok f s₁ =>
      rw [hRun] at hBefore
      obtain ⟨runs, hSurveys⟩ := hBefore
      rw [Act.bind_ok hRun, examine]
      by_cases hSkip : (d.probe.isExplicit || !d.applicable f.detected) = true
      · rw [if_pos hSkip]
        refine ⟨runs, hSurveys.skip hNew hSingle ?_⟩
        rw [← Bool.not_inj_iff, Bool.not_and, Bool.not_not]
        exact hSkip
      · rw [if_neg hSkip]
        rw [Bool.not_eq_true, Bool.or_eq_false_iff, Bool.not_eq_false'] at hSkip
        obtain ⟨hAsked, hMay⟩ := hSkip
        cases hProbe : env.probe d.probe h f s₁ with
        | ok answer s₂ =>
          obtain ⟨found, tag⟩ := answer
          rw [Act.bind_ok (Act.onError_ok hProbe)]
          have hJoined := hSurveys.run hNew hSingle hAsked hMay hProbe
          cases found with
          | true => exact ⟨_, hJoined⟩
          | false => exact ⟨_, hJoined⟩
        | error e s₂ =>
          rw [Act.bind_error (Act.onError_error hProbe)]
          refine ⟨l.length, d, f.detected, runs, f.tag, s₁, s₂, List.getElem?_concat_length, ?_,
            hAsked, hMay, hProbe, rfl⟩
          show env.Surveys h ⟨(l ++ [d]).take l.length⟩ s f.detected runs f.tag s₁
          rw [List.take_left]
          exact hSurveys

/-- An inspection that ends with a mask has an account. -/
theorem surveys_inspect {c : Catalog Code} (hc : c.Distinct) {s s' : Session Code Client}
    {m : Capabilities} (hRun : env.inspect c h s = .ok m s') :
    ∃ runs tag, env.Surveys h c s m runs tag s' := by
  have hAccount := env.surveys_foldlM h hc s
  obtain ⟨f, s₁, hFold, hEnd⟩ := Act.bind_eq_ok hRun
  rw [hFold] at hAccount
  obtain ⟨runs, hSurveys⟩ := hAccount
  cases hEnd
  exact ⟨runs, f.tag, hSurveys⟩

/-- What a bridge sees is what its catalog finds. -/
theorem inspect_of_capabilities {i : Nat} {b : Bridge Code} {s s' : Session Code Client}
    {m : Capabilities} (hb : s.bridges[i]? = some b) (hRun : env.capabilities i h s = .ok m s') :
    env.inspect b.catalog h s = .ok m s' := by
  have hBridge : (Act.bridge i : Act Code Client ProxyError (Bridge Code)) s = .ok b s := by
    rw [Act.bridge, hb]
  rw [capabilities, Act.bind_ok hBridge] at hRun
  cases hInspect : env.inspect b.catalog h s with
  | ok m' s₁ =>
    rw [Act.foreign_ok hInspect] at hRun
    cases hRun
    rfl
  | error e s₁ =>
    rw [Act.foreign_error hInspect] at hRun
    cases hRun

/-! ## Probes without memory -/

/-- The answer of a probe that asks for the tag of the value itself. -/
def ask (p : Probe Code) (h : Handle) (detected : Capabilities) :
    Act Code Client ForeignError Bool := do
  match p with
  | .tag tags => return tags.contains (← Act.tagOf h)
  | .method key => env.hasMethod h key
  | .numeric names => return (← env.firstNumber h names).isSome
  | .rule r => env.judge r h detected
  | .custom code => env.decide code h detected
  | .explicit => return false

variable {env h} {s s' : Session Code Client} {f : Findings} {o : Object Code}

/-- Without a tag to remember, or with the right one, a probe answers as it does without memory. -/
theorem probe_fst (p : Probe Code)
    (hTag : ∀ tag ∈ f.tag, ∃ o, s.table.object h = .ok o ∧ o.tag = tag) :
    ((·.1) <$> env.probe p h f) s = env.ask p h f.detected s := by
  cases p with
  | tag tags =>
    cases hf : f.tag with
    | none =>
      unfold probe ask
      rw [hf]
      simp only [map_eq_pure_bind, bind_assoc, pure_bind]
    | some tag =>
      obtain ⟨o, ho, rfl⟩ := hTag tag hf
      have hAsk : Act.tagOf h s = .ok o.tag s := Act.bind_ok (Act.object_ok ho)
      unfold probe ask
      rw [hf]
      dsimp only
      rw [Act.bind_ok hAsk]
      rfl
  | method | numeric | rule | custom | explicit =>
    unfold probe ask
    simp only [map_eq_pure_bind, bind_assoc, pure_bind, bind_pure]

/-- What is known of the tag after a probe was known before, or is the tag of the value. -/
theorem tag_of_probe {p : Probe Code} {found : Bool} {tag : Option Tag}
    (hProbe : env.probe p h f s = .ok (found, tag) s') :
    tag = f.tag ∨ ∃ o, s.table.object h = .ok o ∧ tag = some o.tag := by
  unfold probe at hProbe
  cases p with
  | tag tags =>
    cases hf : f.tag with
    | some known =>
      rw [hf] at hProbe
      cases hProbe
      exact Or.inl rfl
    | none =>
      rw [hf] at hProbe
      obtain ⟨asked, s₁, hAsked, hEnd⟩ := Act.bind_eq_ok hProbe
      obtain ⟨o, s₂, hObject, hTag⟩ := Act.bind_eq_ok hAsked
      cases ho : s.table.object h with
      | error e =>
        rw [Act.object_error ho] at hObject
        cases hObject
      | ok o' =>
        rw [Act.object_ok ho] at hObject
        cases hObject
        cases hTag
        cases hEnd
        exact Or.inr ⟨o, rfl, rfl⟩
  | method | numeric | rule | custom =>
    obtain ⟨a, s₁, -, hEnd⟩ := Act.bind_eq_ok hProbe
    cases hEnd
    exact Or.inl rfl
  | explicit =>
    cases hProbe
    exact Or.inl rfl

end Environment

/-! ## Looking without touching -/

/-- All members are data. -/
def Object.Stored (o : Object Code) : Prop := ∀ e ∈ o.members, ∃ v, e.2 = .data v

namespace Environment

/-- The code of the probes of a catalog only looks at the session. -/
def Looks (env : Environment Code Client) (c : Catalog Code) (s : Session Code Client) : Prop :=
  ∀ d ∈ c.capabilities, ∀ code, d.probe = .custom code →
    ∀ h detected, (env.decide code h detected).Still s

section Look

variable (env : Environment Code Client) {h : Handle} {s : Session Code Client} {o : Object Code}

/-- A stored member can be read as it is, or names a value that is gone. -/
theorem plain_or_error (ho : s.table.object h = .ok o) (hData : o.Stored) (key : Key) :
    s.table.isPlainMember o key = true ∨ ∃ e, env.read h key s = .error e s := by
  unfold Table.isPlainMember read
  rw [Act.bind_ok (Act.object_ok ho)]
  cases hm : o.members.find? key with
  | none => exact Or.inl rfl
  | some m =>
    obtain ⟨v, rfl⟩ := hData _ (Dict.mem_of_find? hm)
    cases v with
    | undefined | number => exact Or.inl rfl
    | handle target =>
      cases hLive : s.table.isLive target with
      | true => exact Or.inl hLive
      | false =>
        exact Or.inr ⟨_, Act.bind_error (Act.onTable_error (Table.retain_of_dead hLive))⟩

theorem still_hasMethod (hs : s.table.WellFormed) (ho : s.table.object h = .ok o)
    (hData : o.Stored) (key : Key) : (env.hasMethod h key).Still s := by
  rcases env.plain_or_error ho hData key with hPlain | ⟨e, hError⟩
  · exact .of_ok (env.hasMethod_eq hs ho hPlain)
  · exact .of_error (Act.bind_error hError)

theorem still_number (hs : s.table.WellFormed) (ho : s.table.object h = .ok o)
    (hData : o.Stored) (name : String) : (env.number h name).Still s := by
  rcases env.plain_or_error ho hData (.named name) with hPlain | ⟨e, hError⟩
  · exact .of_ok (env.number_eq hs ho hPlain)
  · exact .of_error (Act.bind_error hError)

theorem still_firstNumber (hs : s.table.WellFormed) (ho : s.table.object h = .ok o)
    (hData : o.Stored) (names : List String) : (env.firstNumber h names).Still s := by
  induction names with
  | nil => exact .pure none
  | cons name rest ih =>
    refine (env.still_number hs ho hData name).bind fun found => ?_
    cases found with
    | some x => exact .pure (some x)
    | none => exact ih

theorem still_judge (hs : s.table.WellFormed) (ho : s.table.object h = .ok o) (hData : o.Stored)
    (r : Rule) (detected : Capabilities) : (env.judge r h detected).Still s := by
  unfold judge
  cases r with
  | measured =>
    refine (env.still_number hs ho hData "size").bind fun size => ?_
    split
    · exact .pure true
    · split
      · exact .pure false
      · exact (env.still_number hs ho hData "length").bind fun _ => .pure _
  | syncStep | asyncStep =>
    dsimp only
    split
    · exact env.still_hasMethod hs ho hData _
    · exact .pure false

/-- A probe of a stored value only looks, if its code does. -/
theorem still_ask (hs : s.table.WellFormed) (ho : s.table.object h = .ok o) (hData : o.Stored)
    {c : Catalog Code} (hLooks : env.Looks c s) {d : Capability Code} (hd : d ∈ c.capabilities)
    (detected : Capabilities) : (env.ask d.probe h detected).Still s := by
  unfold ask
  cases hProbe : d.probe with
  | tag tags =>
    have hTag : Act.tagOf h s = .ok o.tag s := Act.bind_ok (Act.object_ok ho)
    exact (Act.Still.of_ok hTag).bind fun _ => .pure _
  | method key => exact env.still_hasMethod hs ho hData key
  | numeric names => exact (env.still_firstNumber hs ho hData names).bind fun _ => .pure _
  | rule r => exact env.still_judge hs ho hData r detected
  | custom code => exact hLooks d hd code hProbe h detected
  | explicit => exact .pure false

end Look

/-- If probes only look, then each run of an account is a look at the session as it was. -/
theorem Surveys.still {env : Environment Code Client} {c : Catalog Code} {h : Handle}
    {s s' : Session Code Client} {o : Object Code} {m : Capabilities}
    {runs : List (ProbeRun Code Client)} {tag : Option Tag} (hs : s.table.WellFormed)
    (ho : s.table.object h = .ok o) (hData : o.Stored) (hLooks : env.Looks c s)
    (hSurveys : env.Surveys h c s m runs tag s') :
    s' = s ∧ ∀ r ∈ runs, ∃ d, c.capabilities[r.place]? = some d ∧
      env.ask d.probe h r.seen.detected s = .ok r.found s := by
  have hGenuine := hSurveys.genuine
  have hAll : s' = s ∧ (∀ t ∈ tag, o.tag = t) ∧ ∀ r ∈ runs, ∃ d, c.capabilities[r.place]? = some d ∧
      env.ask d.probe h r.seen.detected s = .ok r.found s := by
    have hLinked := hSurveys.linked
    clear hSurveys
    -- the induction is on the runs, and what carries it is that the tag is the right one
    induction hLinked with
    | start => exact ⟨rfl, by simp, by simp⟩
    | @next runs r _ ih =>
      obtain ⟨hSame, hTag, hBefore⟩ := ih fun x hx => hGenuine x (List.mem_append_left _ hx)
      obtain ⟨d, hd, hProbe⟩ := hGenuine r (List.mem_append_right _ (List.mem_singleton_self r))
      rw [hSame] at hProbe
      have hKnown : ∀ t ∈ r.seen.tag, ∃ o, s.table.object h = .ok o ∧ o.tag = t :=
        fun t ht => ⟨o, ho, hTag t ht⟩
      have hAsk : env.ask d.probe h r.seen.detected s = .ok r.found r.after := by
        rw [← probe_fst d.probe hKnown, map_eq_pure_bind, Act.bind_ok hProbe]
        rfl
      have hStill := env.still_ask hs ho hData hLooks (List.mem_of_getElem? hd) _ _ _ hAsk
      refine ⟨hStill, ?_, ?_⟩
      · intro t ht
        rcases tag_of_probe hProbe with hOld | ⟨o', ho', hNew⟩
        · exact hTag t (hOld ▸ ht)
        · cases ho.symm.trans ho'
          rw [hNew] at ht
          exact Option.some.inj ht
      · intro x hx
        rcases List.mem_append.mp hx with hOld | hLast
        · exact hBefore x hOld
        · rw [List.mem_singleton.mp hLast]
          exact ⟨d, hd, hStill ▸ hAsk⟩
  exact ⟨hAll.1, hAll.2.2⟩

end Environment

/-! ## One mask for given answers -/

namespace Catalog

/-- The mask has registered bits only, and each bit that it has is one whose probe may run and gives
the answer, with what the mask has from the places before. -/
def Solves (c : Catalog Code) (answer : Capability Code → Capabilities → Prop)
    (m : Capabilities) : Prop :=
  c.registered.includes m = true ∧ ∀ i d, c.capabilities[i]? = some d →
    (m.includes d.flag = true ↔ c.asks m i = true ∧ answer d (c.upTo m i))

variable {c : Catalog Code} {answer : Capability Code → Capabilities → Prop} {m m' : Capabilities}

theorem includes_registered_iff : c.registered.includes m = true ↔
    ∀ j, m.getLsbD j = true → ∃ d ∈ c.capabilities, d.flag.getLsbD j = true := by
  rw [Mask.includes_iff]
  refine forall_congr' fun j => imp_congr_right fun _ => ?_
  rw [registered, Mask.getLsbD_unionAll, List.any_map, List.any_eq_true]
  rfl

/-- One place further, the mask has the bit of one more capability or it has not. -/
theorem upTo_succ {i : Nat} {d : Capability Code} (hd : c.capabilities[i]? = some d)
    (hSingle : Mask.isSingle d.flag = true) :
    c.upTo m (i + 1) = if m.includes d.flag then c.upTo m i ||| d.flag else c.upTo m i := by
  refine BitVec.eq_of_getLsbD_eq fun j _ => ?_
  rw [getLsbD_upTo, List.take_add_one, hd, Option.toList_some, List.any_append, List.any_cons,
    List.any_nil, Bool.or_false]
  cases hHas : m.includes d.flag with
  | true =>
    rw [if_pos rfl, BitVec.getLsbD_or, getLsbD_upTo, Bool.and_or_distrib_left]
    cases hj : d.flag.getLsbD j with
    | false => rw [Bool.and_false]
    | true => rw [Mask.includes_iff.mp hHas j hj, Bool.true_and, Bool.true_and]
  | false =>
    rw [if_neg Bool.false_ne_true, getLsbD_upTo]
    cases hj : d.flag.getLsbD j with
    | false => rw [Bool.or_false]
    | true =>
      rw [← Mask.meets_eq_includes hSingle, Mask.meets_comm] at hHas
      rw [Mask.meets_eq_false_iff.mp hHas j hj, Bool.false_and, Bool.false_and]

/-- Masks that agree with the same answers are the same. -/
theorem Solves.unique (hc : c.Distinct) (hm : c.Solves answer m) (hm' : c.Solves answer m') :
    m = m' := by
  -- the masks agree up to each place, so they are asked the same there and have the same bit
  have hUpTo (i : Nat) (hi : i ≤ c.capabilities.length) : c.upTo m i = c.upTo m' i := by
    induction i with
    | zero => simp [upTo, registered, Mask.unionAll]
    | succ i ih =>
      have hBefore := ih (Nat.le_of_succ_le hi)
      have hd := List.getElem?_eq_getElem hi
      have hSingle := hc.single _ (List.getElem_mem hi)
      have hBit : m.includes c.capabilities[i].flag = m'.includes c.capabilities[i].flag := by
        rw [Bool.eq_iff_iff, hm.2 i _ hd, hm'.2 i _ hd, asks, asks, hBefore]
      rw [upTo_succ hd hSingle, upTo_succ hd hSingle, hBit, hBefore]
  rw [← upTo_length (includes_registered_iff.mp hm.1), hUpTo _ (Nat.le_refl _),
    upTo_length (includes_registered_iff.mp hm'.1)]

end Catalog

namespace Environment

variable {env : Environment Code Client} {c : Catalog Code} {h : Handle}
  {s s' : Session Code Client} {m : Capabilities} {runs : List (ProbeRun Code Client)}
  {tag : Option Tag} {d : Capability Code}

/-- The probe of a capability says yes in a session, given what was detected before. -/
def Affirms (env : Environment Code Client) (h : Handle) (s : Session Code Client)
    (d : Capability Code) (detected : Capabilities) : Prop :=
  ∃ s', env.ask d.probe h detected s = .ok true s'

/-- A capability that was found was asked for at its place. -/
theorem Surveys.asks_of_includes (hs : env.Surveys h c s m runs tag s') {i : Nat}
    (hd : c.capabilities[i]? = some d) (hFound : m.includes d.flag = true) :
    c.asks m i = true := by
  obtain ⟨r, hr, rfl, -⟩ := (hs.believed i d hd).mp hFound
  have hPlace : r.place ∈ runs.map (·.place) := List.mem_map_of_mem hr
  rw [hs.places] at hPlace
  exact (List.mem_filter.mp hPlace).2

/-- A capability that was found can be detected, and so was all that it requires. -/
theorem Surveys.requires (hs : env.Surveys h c s m runs tag s') (hd : d ∈ c.capabilities)
    (hFound : m.includes d.flag = true) :
    d.probe.isExplicit = false ∧ m.includes d.requires = true := by
  obtain ⟨i, hi⟩ := List.mem_iff_getElem?.mp hd
  have hAsks := hs.asks_of_includes hi hFound
  rw [Catalog.asks, hi, Option.any_some, Bool.and_eq_true, Bool.not_eq_true',
    Capability.applicable, Bool.and_eq_true] at hAsks
  exact ⟨hAsks.1, Mask.includes_trans (c.includes_upTo m i) hAsks.2.1⟩

/-- If probes only look, the mask is a solution. -/
theorem Surveys.solves {o : Object Code} (hTable : s.table.WellFormed)
    (ho : s.table.object h = .ok o) (hData : o.Stored) (hLooks : env.Looks c s)
    (hs : env.Surveys h c s m runs tag s') : c.Solves (env.Affirms h s) m := by
  obtain ⟨-, hAnswers⟩ := hs.still hTable ho hData hLooks
  refine ⟨Catalog.includes_registered_iff.mpr fun j hj => ?_, fun i d hd => ?_⟩
  · obtain ⟨d, hd, -, hBit⟩ := hs.bits j hj
    exact ⟨d, hd, hBit⟩
  constructor
  · intro hFound
    refine ⟨hs.asks_of_includes hd hFound, s, ?_⟩
    obtain ⟨r, hr, rfl, hYes⟩ := (hs.believed i d hd).mp hFound
    obtain ⟨x, hx, hAsk⟩ := hAnswers r hr
    cases hd.symm.trans hx
    rw [hs.seen r hr, hYes] at hAsk
    exact hAsk
  · rintro ⟨hAsks, s₁, hYes⟩
    -- the place is among those that asked, and the one run there has this answer
    have hLt := (List.getElem?_eq_some_iff.mp hd).1
    have hPlace : i ∈ runs.map (·.place) := by
      rw [hs.places]
      exact List.mem_filter.mpr ⟨List.mem_range.mpr hLt, hAsks⟩
    obtain ⟨r, hr, rfl⟩ := List.mem_map.mp hPlace
    obtain ⟨x, hx, hAsk⟩ := hAnswers r hr
    cases hd.symm.trans hx
    rw [hs.seen r hr, hYes] at hAsk
    exact (hs.believed r.place d hd).mpr ⟨r, hr, rfl, (EStateM.Result.ok.inj hAsk).1.symm⟩

end Environment

/--
**An inspection runs the probes that apply, and believes them.** Take any catalog that registration
makes, any handle, and any foreign code. If the inspection ends with a mask, there is an account of
it: the probes that ran are those that are not explicit and whose guards hold of the bits found
before them; they ran once each, in the order of the catalog, and saw these bits; and a bit is in
the mask if its probe ran and said yes. So all that is found was asked for, and so was all that it
requires. If the inspection fails, then with the error of the first probe that raised one, and
nothing but the report of it came after. If the members of the value are data and the code of probes
only looks, then the session is as it was, and no other mask agrees with the answers.
-/
theorem inspection_faithful {c : Catalog Code} (hc : c.Reachable) (env : Environment Code Client)
    (h : Handle) (s : Session Code Client) :
    match Act.foreign (env.inspect c h) s with
    | .ok m s' =>
      (∃ runs tag, env.Surveys h c s m runs tag s') ∧
      (∀ d ∈ c.capabilities, m.includes d.flag = true →
        d.probe.isExplicit = false ∧ m.includes d.requires = true) ∧
      ∀ o, s.table.WellFormed → s.table.object h = .ok o → o.Stored → env.Looks c s →
        s' = s ∧ ∀ m', c.Solves (env.Affirms h s) m' ↔ m' = m
    | .error x s' => ∃ e, x = .foreign e ∧ env.Raises h c s e s' := by
  have hDistinct := hc.distinct
  have hAccount := env.surveys_foldlM h hDistinct s
  cases hRun : c.capabilities.foldlM (env.examine h) Findings.start s with
  | error e s' =>
    rw [hRun] at hAccount
    have hInspect : env.inspect c h s = .error e s' := Act.bind_error hRun
    rw [Act.foreign_error hInspect]
    exact ⟨e, rfl, hAccount⟩
  | ok f s' =>
    rw [hRun] at hAccount
    obtain ⟨runs, hSurveys⟩ := hAccount
    have hInspect : env.inspect c h s = .ok f.detected s' := Act.bind_ok hRun
    rw [Act.foreign_ok hInspect]
    refine ⟨⟨runs, f.tag, hSurveys⟩, fun d hd => hSurveys.requires hd, ?_⟩
    intro o hTable ho hData hLooks
    refine ⟨(hSurveys.still hTable ho hData hLooks).1, fun m' => ?_⟩
    have hSolves := hSurveys.solves hTable ho hData hLooks
    constructor
    · exact fun hOther => hOther.unique hDistinct hSolves
    · rintro rfl
      exact hSolves

/-- Four capabilities that registration has put in order. The second is asked for only after the
first was found, the third only if the second was not, and the last never. -/
def exampleGuarded : Catalog Unit :=
  (Catalog.registerEach .empty
    [{ flag := Mask.bit 0, name := "thing", probe := .tag [.object], slots := 0#32 },
     { flag := Mask.bit 1, name := "named", probe := .custom (), slots := 0#32
       requires := Mask.bit 0 },
     { flag := Mask.bit 2, name := "bare", probe := .custom (), slots := 0#32
       excludes := Mask.bit 1 },
     { flag := Mask.bit 3, name := "chosen", probe := .explicit, slots := 0#32 }]).2

/-- Of an object the first two are found, and the probe of the third does not run. -/
theorem inspection_faithful_guarded :
    let env : Environment Unit Unit :=
      { run := fun _ _ _ => pure .undefined, decide := fun _ _ _ => pure true }
    let s : Session Unit Unit := .new ((Table.empty none).insert .plain).2 false ()
    exampleGuarded.Reachable ∧ env.inspect exampleGuarded ⟨2⟩ s = .ok 3#32 s ∧
      (∃ runs tag, env.Surveys ⟨2⟩ exampleGuarded s 3#32 runs tag s ∧
        runs.map (·.place) = [0, 1]) ∧
      ∀ m, exampleGuarded.Solves (env.Affirms ⟨2⟩ s) m ↔ m = 3#32 := by
  intro env s
  have hReachable : exampleGuarded.Reachable := Catalog.Reachable.empty.registerEach _
  have hInspect : env.inspect exampleGuarded ⟨2⟩ s = .ok 3#32 s := rfl
  have hFaithful := inspection_faithful hReachable env ⟨2⟩ s
  rw [Act.foreign_ok hInspect] at hFaithful
  obtain ⟨⟨runs, tag, hSurveys⟩, -, hUnique⟩ := hFaithful
  refine ⟨hReachable, hInspect, ⟨runs, tag, hSurveys, ?_⟩, ?_⟩
  · rw [hSurveys.places]
    decide
  · exact (hUnique .plain (by decide) rfl (fun e he => nomatch he)
      fun d hd code hProbe h detected => .pure true).2

end ProxyBridge
