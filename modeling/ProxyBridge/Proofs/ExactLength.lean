import ProxyBridge.Proofs.DoubleValue
import ProxyBridge.Proofs.MapLength

/-!
# Lengths are exact

A proxy that does not count keys takes its length from the first number among the length members of
its value. Such a member is a number in one of three ways: the number is stored in it, it names a
value that is a number, or foreign code computes one or the other. `Environment.Finds` lists these
ways, and a reader that goes through goes through in one of them. What is read is a double, and its
length is exact whatever its 64 bits are, so the order of numbers is the order of lengths.

## Results

* `Environment.number_eq_ok_iff` — what a look at one member finds.
* `Environment.firstNumber_eq_some_iff` — members are looked at in turn.
* `Environment.measures_of_len` — every length that does not count keys comes from a number.
* `length_exact` — the length of a proxy, from the number that it is measured by.
-/

namespace ProxyBridge

variable {Code Client Mind : Type} {known : Client → List Shape}

open Session

/-! ## What a member is -/

/-- The number that a value is, directly or as a value of its own. -/
def Table.numberOf (t : Table Code) : Value → Option Double
  | .number x => some x
  | .handle m => t.number? m
  | .undefined => none

/-- Gives back the reference that came with a value, if one did. -/
def Session.giveBack (s : Session Code Client) : Value → Session Code Client
  | .handle m => s.release m
  | .number _ | .undefined => s

namespace Environment

/-- A look at a named member finds a number or none, and leaves a session. -/
inductive Finds (env : Environment Code Client) (v : Handle) (name : String)
    (s : Session Code Client) : Option Double → Session Code Client → Prop where
  /-- The member is missing or is data, and names no value that is gone. -/
  | stored {o : Object Code} {found : Option Double} (ho : s.table.object v = .ok o)
    (hPlain : s.table.isPlainMember o (.named name) = true)
    (hNumber : s.table.numberAt o name = found) : Finds env v name s found s
  /-- Foreign code computes the member. -/
  | computed {o : Object Code} {getter : Code} {w : Value} {s₁ : Session Code Client}
    {found : Option Double} (ho : s.table.object v = .ok o)
    (hGetter : o.members.find? (.named name) = some (.accessor getter))
    (hRun : env.run getter none [] s = .ok w s₁) (hNumber : s₁.table.numberOf w = found) :
    Finds env v name s found (s₁.giveBack w)

/-- Members are looked at in turn, until one is a number. -/
inductive FindsFirst (env : Environment Code Client) (v : Handle) :
    List String → Session Code Client → Double → Session Code Client → Prop where
  | here {name : String} {rest : List String} {x : Double} {s s' : Session Code Client}
    (h : env.Finds v name s (some x) s') : FindsFirst env v (name :: rest) s x s'
  | later {name : String} {rest : List String} {x : Double} {s s₁ s' : Session Code Client}
    (h : env.Finds v name s none s₁) (hRest : FindsFirst env v rest s₁ x s') :
    FindsFirst env v (name :: rest) s x s'

section Look

variable (env : Environment Code Client) {s s' : Session Code Client} {v : Handle} {o : Object Code}

theorem number_of_read {name : String} {w : Value} (hRead : env.read v (.named name) s = .ok w s') :
    env.number v name s = .ok (s'.table.numberOf w) (s'.giveBack w) := by
  unfold number
  rw [Act.bind_ok hRead]
  cases w <;> rfl

theorem read_accessor {k : Key} {getter : Code} (ho : s.table.object v = .ok o)
    (hGetter : o.members.find? k = some (.accessor getter)) :
    env.read v k s = env.run getter none [] s := by
  unfold read
  rw [Act.bind_ok (Act.object_ok ho), hGetter]

/-- If a member that is not plain can be read, then it is computed. -/
theorem accessor_of_read {k : Key} {w : Value} (ho : s.table.object v = .ok o)
    (hPlain : s.table.isPlainMember o k = false) (hRead : env.read v k s = .ok w s') :
    ∃ getter, o.members.find? k = some (.accessor getter) := by
  unfold Table.isPlainMember at hPlain
  unfold read at hRead
  rw [Act.bind_ok (Act.object_ok ho)] at hRead
  cases hm : o.members.find? k with
  | none =>
    rw [hm] at hPlain
    cases hPlain
  | some m =>
    rw [hm] at hPlain hRead
    cases m with
    | accessor getter => exact ⟨getter, rfl⟩
    | data d =>
      cases d with
      | undefined | number => cases hPlain
      | handle target =>
        -- the value that it names is gone, so the read has failed
        cases (Act.bind_error (Act.onTable_error (Table.retain_of_dead hPlain))).symm.trans hRead

/-- **A look at a member goes through** if and only if the member is plain, or is computed by code
that returns. -/
theorem number_eq_ok_iff (hs : s.table.WellFormed) {name : String} {found : Option Double} :
    env.number v name s = .ok found s' ↔ env.Finds v name s found s' := by
  constructor
  · -- the value was there, and its member was read; what the member is says how
    intro hNumber
    obtain ⟨w, s₁, hRead, -⟩ := Act.bind_eq_ok hNumber
    obtain ⟨o, s₂, hObject, -⟩ := Act.bind_eq_ok hRead
    have ho := (Act.object_eq_ok hObject).1
    cases hPlain : s.table.isPlainMember o (.named name) with
    | true =>
      cases (env.number_eq hs ho hPlain).symm.trans hNumber
      exact .stored ho hPlain rfl
    | false =>
      obtain ⟨getter, hGetter⟩ := env.accessor_of_read ho hPlain hRead
      cases (env.number_of_read hRead).symm.trans hNumber
      exact .computed ho hGetter ((env.read_accessor ho hGetter).symm.trans hRead) rfl
  · intro h
    cases h with
    | stored ho hPlain hFound =>
      rw [env.number_eq hs ho hPlain, hFound]
    | computed ho hGetter hRun hFound =>
      rw [env.number_of_read ((env.read_accessor ho hGetter).trans hRun), hFound]

variable {env}

theorem Finds.path (hEnv : env.Walks known) {name : String} {found : Option Double}
    (h : env.Finds v name s found s') : Path known s s' := by
  cases h with
  | stored => exact .refl
  | @computed _ getter w s₁ _ _ _ hRun =>
    have hCode : Path known s s₁ := (hEnv.run getter none []).path_ok hRun
    cases w with
    | undefined | number => exact hCode
    | handle m => exact hCode.trans (path_release s₁ m)

/-- A search goes through, with a number, if and only if one of the members is found to be one after
those before it are found to be none. -/
theorem firstNumber_eq_some_iff (hEnv : env.Walks known) {x : Double} (names : List String)
    (hs : s.table.WellFormed) :
    env.firstNumber v names s = .ok (some x) s' ↔ env.FindsFirst v names s x s' := by
  -- foreign code may run between two looks, so each begins in the session that the last one left
  induction names generalizing s with
  | nil => exact iff_of_false (fun h => by cases h) nofun
  | cons name rest ih =>
    constructor
    · intro hFirst
      obtain ⟨found, s₁, hNumber, hRest⟩ := Act.bind_eq_ok hFirst
      have hFinds := (env.number_eq_ok_iff hs).mp hNumber
      cases found with
      | some y =>
        cases hRest
        exact .here hFinds
      | none => exact .later hFinds ((ih (Path.wellFormed (hFinds.path hEnv) hs)).mp hRest)
    · intro h
      unfold firstNumber
      cases h with
      | here hFinds =>
        rw [Act.bind_ok ((env.number_eq_ok_iff hs).mpr hFinds)]
        rfl
      | later hFinds hRest =>
        rw [Act.bind_ok ((env.number_eq_ok_iff hs).mpr hFinds)]
        exact (ih (Path.wellFormed (hFinds.path hEnv) hs)).mpr hRest

end Look

/-! ## From the number to the length -/

/-- At a moment of a run, a proxy has the slot for lengths and is not one that counts its keys, and
`x` is the first number among the length members of its value. Looking for it leads to `s'`. -/
structure Measures (env : Environment Code (Memory Mind)) (p : Proxy) (x : Double)
    (s s' : World Code Mind) : Prop where
  reached : ∃ (limit : Option Nat) (timing : Bool) (mind : Mind),
    Path Memory.shapes (World.new (Table.empty limit) timing mind) s
  walks : env.Walks Memory.shapes
  slot : p.shape.hasSlot Slots.length = true
  unkeyed : p.flags.includes Capabilities.hasLength = true ∨
    p.flags.includes Capabilities.objectMap = false
  found : env.FindsFirst p.value (lengthNames p.flags) s x s'

/-- A proxy that does not count its keys has a length if and only if a number is found. -/
theorem len_eq_ok_iff (env : Environment Code Client) {p : Proxy} {s s' : Session Code Client}
    {n : Nat} (hSlot : p.shape.hasSlot Slots.length = true)
    (hUnkeyed : p.flags.includes Capabilities.hasLength = true ∨
      p.flags.includes Capabilities.objectMap = false) :
    env.len p s = .ok n s' ↔
      ∃ x, env.firstNumber p.value (lengthNames p.flags) s = .ok (some x) s' ∧
        x.meaning.length = n := by
  have hKeyed : ¬(!p.flags.includes Capabilities.hasLength &&
      p.flags.includes Capabilities.objectMap) = true := by
    rcases hUnkeyed with h | h <;> simp [h]
  have hRequire : (Act.require p Slots.length : Act Code Client ProxyError Unit) s = .ok () s :=
    Act.require_ok hSlot
  rw [len, Act.bind_ok hRequire, if_neg hKeyed]
  constructor
  · intro hLen
    obtain ⟨found, s₁, hForeign, hRest⟩ := Act.bind_eq_ok hLen
    cases found with
    | none => cases hRest
    | some x =>
      cases hRest
      exact ⟨x, Act.foreign_eq_ok hForeign, x.toLength_eq.symm⟩
  · rintro ⟨x, hFirst, rfl⟩
    rw [Act.bind_ok (Act.foreign_ok hFirst), ← x.toLength_eq]
    rfl

/-- The length of a proxy is that of the number it is measured by. -/
theorem Measures.len_eq {env : Environment Code (Memory Mind)} {p : Proxy} {x : Double}
    {s s' : World Code Mind} (h : env.Measures p x s s') :
    env.len p s = .ok x.meaning.length s' := by
  obtain ⟨limit, timing, mind, hStart⟩ := h.reached
  have hTable := Path.wellFormed hStart (Table.wellFormed_empty limit)
  have hFirst := (firstNumber_eq_some_iff h.walks _ hTable).mpr h.found
  exact (env.len_eq_ok_iff h.slot h.unkeyed).mpr ⟨x, hFirst, rfl⟩

/-- A proxy that has a length, and does not count its keys, is measured by a number. -/
theorem measures_of_len {env : Environment Code (Memory Mind)} {p : Proxy} {s s' : World Code Mind}
    {limit : Option Nat} {timing : Bool} {mind : Mind} {n : Nat}
    (hStart : Path Memory.shapes (World.new (Table.empty limit) timing mind) s)
    (hEnv : env.Walks Memory.shapes) (hSlot : p.shape.hasSlot Slots.length = true)
    (hUnkeyed : p.flags.includes Capabilities.hasLength = true ∨
      p.flags.includes Capabilities.objectMap = false) (hLen : env.len p s = .ok n s') :
    ∃ x, env.Measures p x s s' ∧ x.meaning.length = n := by
  have hTable := Path.wellFormed hStart (Table.wellFormed_empty limit)
  obtain ⟨x, hFirst, hLength⟩ := (env.len_eq_ok_iff hSlot hUnkeyed).mp hLen
  have hFound := (firstNumber_eq_some_iff hEnv _ hTable).mp hFirst
  exact ⟨x, ⟨⟨limit, timing, mind, hStart⟩, hEnv, hSlot, hUnkeyed, hFound⟩, hLength⟩

end Environment

/--
**Lengths are exact.** At a moment of a run, let the length of a proxy be read from a number, which
is any of the `2 ^ 64` doubles. Then the proxy has a length. It is zero for a NaN, for an infinity,
and for a number that is not positive, and else the integer part of the exact value, cut off at
`2 ^ 64 - 1`. It is said to be empty if the number is not finite or is below one. And of two finite
numbers the greater one never makes the smaller length, whatever proxies, moments and runs they
belong to.
-/
theorem length_exact {env : Environment Code (Memory Mind)} {p : Proxy} {x : Double}
    {s s' : World Code Mind} (h : env.Measures p x s s') :
    env.len p s = .ok x.meaning.length s' ∧
    (∃ b, env.isEmpty p s = .ok b s' ∧ (b = true ↔ ∀ q, x.meaning = .rational q → q < 1)) ∧
    ∀ (env₁ : Environment Code (Memory Mind)) (p₁ : Proxy) (y : Double) (t t' : World Code Mind),
      env₁.Measures p₁ y t t' →
      ∀ a b m n, x.meaning = .rational a → y.meaning = .rational b → a ≤ b →
        env.len p s = .ok m s' → env₁.len p₁ t = .ok n t' → m ≤ n := by
  have hLen := h.len_eq
  refine ⟨hLen, ⟨_, Act.bind_ok hLen, ?_⟩, ?_⟩
  · rw [beq_iff_eq]
    exact x.meaning.length_eq_zero_iff
  · -- both lengths are known from the numbers, which are all that has to be compared
    intro env₁ p₁ y t t' h₁ a b m n ha hb hab hm hn
    cases hLen.symm.trans hm
    cases h₁.len_eq.symm.trans hn
    rw [ha, hb]
    exact Double.Meaning.length_mono hab

/-- The greatest double below four. -/
def exampleBelowFour : Double := ⟨0x400FFFFFFFFFFFFF#64⟩

/-- The least double that no length can hold: `2 ^ 64`. -/
def examplePower : Double := ⟨0x43F0000000000000#64⟩

/-- Foreign code that computes a number. -/
def exampleCounter : Library Unit Unit where
  body _ _ _ := { calls := fun _ => [], result := fun _ => .ok (.number examplePower) }
  probe _ _ _ := { calls := fun _ => [], result := fun _ => .ok true }

/-- A value with a stored length, and one whose length is no number and whose size is computed; both
are wrapped. -/
def exampleMeasuredCalls : List (Call Unit Unit) :=
  [.command (.openBridge .standard {}),
    .command (.insert (Object.plain.withMember (.named "length")
      (.data (.number exampleBelowFour)))),
    .command (.insert ((Object.plain.withMember (.named "length") (.data (.handle ⟨2⟩))).withMember
      (.named "size") (.accessor ()))),
    .command (.create 0 ⟨2⟩ none), .command (.create 0 ⟨3⟩ none)]

/-- The one length is just below four and comes to three, the other is the first to be cut off. -/
theorem length_exact_cut_off :
    let env := exampleCounter.environment 1
    let s := Call.performAll env exampleMeasuredCalls (World.new (.empty none) false ())
    let p := exampleLengthProxy Capabilities.hasLength
    let q := { p with value := ⟨3⟩ }
    s.proxies.find? 0 = some p ∧ s.proxies.find? 1 = some q ∧
      env.Measures p exampleBelowFour s s ∧ env.Measures q examplePower s s ∧
      env.len p s = .ok 3 s ∧ env.isEmpty p s = .ok false s ∧
      env.len q s = .ok (2 ^ 64 - 1) s := by
  intro env s p q
  have hWalks := exampleCounter.walks_environment 1
  have hStart := Call.path_performAll hWalks exampleMeasuredCalls
    (World.new (.empty none) false ())
  have hReached : ∃ (limit : Option Nat) (timing : Bool) (mind : Unit),
      Path Memory.shapes (World.new (Table.empty limit) timing mind) s := ⟨_, _, _, hStart⟩
  have hNames : Environment.lengthNames Capabilities.hasLength = ["length", "size"] := by decide
  have hp : env.Measures p exampleBelowFour s s := by
    have ho : s.table.object ⟨2⟩ = .ok (Object.plain.withMember (.named "length")
        (.data (.number exampleBelowFour))) := by decide +kernel
    have hLength : env.Finds ⟨2⟩ "length" s (some exampleBelowFour) s :=
      .stored ho (by decide +kernel) (by decide +kernel)
    have hFound : env.FindsFirst ⟨2⟩ ["length", "size"] s exampleBelowFour s := .here hLength
    exact ⟨hReached, hWalks, by decide, Or.inl (by decide), hNames ▸ hFound⟩
  have hq : env.Measures q examplePower s s := by
    have ho : s.table.object ⟨3⟩ = .ok ((Object.plain.withMember (.named "length")
        (.data (.handle ⟨2⟩))).withMember (.named "size") (.accessor ())) := by decide +kernel
    have hLength : env.Finds ⟨3⟩ "length" s none s :=
      .stored ho (by decide +kernel) (by decide +kernel)
    -- the code returns a number and leaves any session as it is
    have hComputed (t : World Unit Unit) {o : Object Unit} (ho : t.table.object ⟨3⟩ = .ok o)
        (hGetter : o.members.find? (.named "size") = some (.accessor ())) :
        env.Finds ⟨3⟩ "size" t (some examplePower) t :=
      .computed ho hGetter (w := .number examplePower) rfl rfl
    have hSize := hComputed s ho (by decide)
    have hFound : env.FindsFirst ⟨3⟩ ["length", "size"] s examplePower s :=
      .later hLength (.here hSize)
    exact ⟨hReached, hWalks, by decide, Or.inl (by decide), hNames ▸ hFound⟩
  obtain ⟨hThree, ⟨b, hEmpty, hShort⟩, -⟩ := length_exact hp
  obtain ⟨hMost, -, -⟩ := length_exact hq
  have hLength : exampleBelowFour.meaning.length = 3 := by
    rw [← Double.toLength_eq]
    decide +kernel
  have hCut : examplePower.meaning.length = 2 ^ 64 - 1 := by
    rw [← Double.toLength_eq]
    decide +kernel
  rw [hLength] at hThree
  rw [hCut] at hMost
  have hFull : b = false := by
    rw [← Bool.not_eq_true, hShort, ← Double.Meaning.length_eq_zero_iff, hLength]
    decide
  exact ⟨by decide +kernel, by decide +kernel, hp, hq, hThree, hFull ▸ hEmpty, hMost⟩

end ProxyBridge
