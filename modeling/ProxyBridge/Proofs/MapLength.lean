import ProxyBridge.Proofs.Creation
import ProxyBridge.Proofs.Detection
import ProxyBridge.Proofs.ObjectMap

/-!
# The length of a map

A proxy that is a map shows the keys of its value and has a length. Which length it has is settled
when the value is wrapped: if the value had a number for a length then, the proxy asks for that
number ever after, else it counts the keys. So the two views of a map agree for good if the mask of
the proxy has no length of its own, whatever is stored in the value later. Otherwise the number
goes its own way.

## Results

* `Environment.len_keyed`, `Environment.len_measured` — the two lengths.
* `map_length_counts_keys` — the two views of a map.
* `measured_map_disagrees` — a map with one key and the length zero.
-/

namespace ProxyBridge

variable {Code Client Mind : Type} {known : Client → List Shape}

open Session

/-! ## The two lengths -/

section Length

variable {s : Session Code Client} {p : Proxy} {v : Handle} {o : Object Code}

namespace Session.MapProxy

/-- The keys of a map are the names of the members of the value. -/
theorem keys_eq (hp : s.MapProxy v p) (hs : s.Canonical known)
    (hComposed : ∀ b ∈ s.bridges, b.Composed) :
    Act.keys p s = Act.foreign (Act.memberNames v) s := by
  have hRequire : (Act.require p Slots.mapping : Act Code Client ProxyError Unit) s = .ok () s :=
    Act.require_ok (hp.hasSlot hs hComposed (by decide))
  rw [Act.keys, Act.bind_ok hRequire, hp.value]

theorem require_length (hp : s.MapProxy v p) (hs : s.Canonical known)
    (hComposed : ∀ b ∈ s.bridges, b.Composed) :
    (Act.require p Slots.length : Act Code Client ProxyError Unit) s = .ok () s :=
  Act.require_ok (hp.hasSlot hs hComposed (by decide))

end Session.MapProxy

theorem Act.memberNames_ok (ho : s.table.object v = .ok o) :
    Act.memberNames v s = .ok o.memberNames s := Act.bind_ok (Act.object_ok ho)

namespace Environment

variable (env : Environment Code Client)

/-- Without a length of its own a map has as many elements as the value has names. -/
theorem len_keyed (hSlot : (Act.require p Slots.length : Act Code Client ProxyError Unit) s =
      .ok () s) (hOwn : p.flags.includes Capabilities.hasLength = false)
    (hMap : p.flags.includes Capabilities.objectMap = true) :
    env.len p s = (List.length <$> Act.foreign (Act.memberNames p.value)) s := by
  rw [len, Act.bind_ok hSlot, hOwn, hMap]
  rfl

/-- A map with a length of its own has the first number among the length members. -/
theorem len_measured (hSlot : (Act.require p Slots.length : Act Code Client ProxyError Unit) s =
      .ok () s) (hOwn : p.flags.includes Capabilities.hasLength = true)
    (hs : s.table.WellFormed) (ho : s.table.object p.value = .ok o)
    (hPlain : ∀ name ∈ lengthNames p.flags, s.table.isPlainMember o (.named name) = true) :
    env.len p s =
      match (lengthNames p.flags).findSome? (s.table.numberAt o) with
      | some x => .ok x.toLength s
      | none => .error (.noSuchProperty "length") s := by
  have hFirst := Act.foreign_ok (env.firstNumber_eq hs ho hPlain)
  rw [len, Act.bind_ok hSlot, hOwn, if_neg (show ¬(!true && _) = true from Bool.false_ne_true),
    Act.bind_ok hFirst]
  cases (lengthNames p.flags).findSome? (s.table.numberAt o) <;> rfl

end Environment

end Length

/-! ## The two views of a map -/

/--
**Maps count their keys, unless they have a length of their own.** At every moment of a run, let a
live proxy be a map. If its mask has no length, then its length is the number of its keys and it is
empty if there are none, whatever the members of the value are by then; a value that is gone is
refused by all three in the same way. If its mask has a length, then a value without foreign code
among its length members has the first number among them for a length, whatever keys there are.
-/
theorem map_length_counts_keys {limit : Option Nat} {timing : Bool} {mind : Mind}
    {s : World Code Mind} {v : Handle} {p : Proxy}
    (hStart : Path Memory.shapes (World.new (Table.empty limit) timing mind) s)
    (hp : s.MapProxy v p) (env : Environment Code (Memory Mind)) :
    (p.flags.includes Capabilities.hasLength = false →
      match s.table.object v with
      | .ok o => Act.keys p s = .ok o.memberNames s ∧
          env.len p s = .ok o.memberNames.length s ∧
          env.isEmpty p s = .ok o.memberNames.isEmpty s
      | .error e => Act.keys p s = .error (.foreign e) s ∧
          env.len p s = .error (.foreign e) s ∧ env.isEmpty p s = .error (.foreign e) s) ∧
    (p.flags.includes Capabilities.hasLength = true →
      ∀ o, s.table.object v = .ok o →
        (∀ name ∈ Environment.lengthNames p.flags, s.table.isPlainMember o (.named name) = true) →
        env.len p s =
          match (Environment.lengthNames p.flags).findSome? (s.table.numberAt o) with
          | some x => .ok x.toLength s
          | none => .error (.noSuchProperty "length") s) := by
  have hCanonical := World.canonical_of_path hStart
  have hComposed : ∀ b ∈ s.bridges, b.Composed := Path.composed hStart nofun
  have hTable := Path.wellFormed hStart (Table.wellFormed_empty limit)
  have hLength := hp.require_length hCanonical hComposed
  constructor
  · intro hOwn
    have hLen := env.len_keyed hLength hOwn hp.asMap
    have hKeys := hp.keys_eq hCanonical hComposed
    rw [hp.value] at hLen
    cases ho : s.table.object v with
    | ok o =>
      have hNames := Act.foreign_ok (Act.memberNames_ok ho)
      have hCount : env.len p s = .ok o.memberNames.length s := by
        rw [hLen, map_eq_pure_bind, Act.bind_ok hNames]
        rfl
      refine ⟨hKeys.trans hNames, hCount, ?_⟩
      rw [Environment.isEmpty, Act.bind_ok hCount]
      cases o.memberNames <;> rfl
    | error e =>
      have hNames : Act.foreign (Act.memberNames v) s = .error (.foreign e) s :=
        Act.foreign_error (Act.bind_error (Act.object_error ho))
      have hCount : env.len p s = .error (.foreign e) s := by
        rw [hLen, map_eq_pure_bind, Act.bind_error hNames]
      exact ⟨hKeys.trans hNames, hCount, Act.bind_error hCount⟩
  · intro hOwn o ho hPlain
    exact env.len_measured hLength hOwn hTable (hp.value.symm ▸ ho) hPlain

/-- A bridge over the standard catalog, and a value with one number among its members, wrapped as a
map. -/
def exampleLengthCalls (name : String) (n : Nat) : List (Call Unit Unit) :=
  [.command (.openBridge .standard {}),
    .command (.insert (Object.plain.withMember (.named name) (.data (.number (.ofNat n))))),
    .command (.createMap 0 ⟨2⟩ true)]

/-- The first proxy of the bridge. -/
def exampleLengthProxy (flags : Capabilities) : Proxy where
  bridge := 0
  shape := .compose (Catalog.standard : Catalog Unit) 0 1 flags
  value := ⟨2⟩
  receiver := none

/-- After the calls the value is there, and its proxy is a map. -/
theorem exampleLengthCalls_mapProxy {name : String} {n : Nat} {flags : Capabilities}
    (hMap : flags.includes Capabilities.objectMap = true)
    (hLive : exampleLengthProxy flags ∈ (Call.performAll (exampleMisuse.environment 1)
      (exampleLengthCalls name n) (World.new (.empty none) false ())).proxies.values) :
    (Call.performAll (exampleMisuse.environment 1) (exampleLengthCalls name n)
      (World.new (.empty none) false ())).MapProxy ⟨2⟩ (exampleLengthProxy flags) := by
  -- the bridge keeps the catalog that it was opened with
  have hLater := Call.path_performAll (exampleMisuse.walks_environment 1)
    ((exampleLengthCalls name n).drop 1) (Call.performAll (exampleMisuse.environment 1)
      [.command (.openBridge .standard {})] (World.new (.empty none) false ()))
  obtain ⟨b, hb, hCatalog⟩ := Path.catalog (i := 0) hLater rfl
  refine ⟨hLive, rfl, hMap, b, hb, ?_⟩
  rw [hCatalog]
  exact List.prefix_rfl

/-- A value with a color: one key, and the length one. -/
theorem map_length_counts_keys_color :
    let env := exampleMisuse.environment 1
    let s := Call.performAll env (exampleLengthCalls "color" 0) (World.new (.empty none) false ())
    let p := exampleLengthProxy Capabilities.objectMap
    s.MapProxy ⟨2⟩ p ∧ p.flags.includes Capabilities.hasLength = false ∧
      Act.keys p s = .ok ["color"] s ∧ env.len p s = .ok 1 s ∧ env.isEmpty p s = .ok false s := by
  intro env s p
  have hStart := Call.path_performAll (exampleMisuse.walks_environment 1)
    (exampleLengthCalls "color" 0) (World.new (.empty none) false ())
  have hp : s.MapProxy ⟨2⟩ p := exampleLengthCalls_mapProxy (by decide) (by decide +kernel)
  have hOwn : p.flags.includes Capabilities.hasLength = false := by decide
  have ho : s.table.object ⟨2⟩ =
      .ok (Object.plain.withMember (.named "color") (.data (.number (.ofNat 0)))) := by
    decide +kernel
  have hViews := (map_length_counts_keys hStart hp env).1 hOwn
  rw [ho] at hViews
  exact ⟨hp, hOwn, hViews⟩

/-- A value whose length is the number zero: one key, and yet the map is empty. -/
theorem measured_map_disagrees :
    let env := exampleMisuse.environment 1
    let s := Call.performAll env (exampleLengthCalls "length" 0) (World.new (.empty none) false ())
    let p := exampleLengthProxy (Capabilities.hasLength ||| Capabilities.objectMap)
    Path Memory.shapes (World.new (.empty none) false ()) s ∧ s.MapProxy ⟨2⟩ p ∧
      Act.keys p s = .ok ["length"] s ∧ env.len p s = .ok 0 s ∧ env.isEmpty p s = .ok true s := by
  intro env s p
  have hStart := Call.path_performAll (exampleMisuse.walks_environment 1)
    (exampleLengthCalls "length" 0) (World.new (.empty none) false ())
  have hp : s.MapProxy ⟨2⟩ p := exampleLengthCalls_mapProxy (by decide) (by decide +kernel)
  have ho : s.table.object ⟨2⟩ =
      .ok (Object.plain.withMember (.named "length") (.data (.number (.ofNat 0)))) := by
    decide +kernel
  have hCanonical := World.canonical_of_path hStart
  have hComposed : ∀ b ∈ s.bridges, b.Composed := Path.composed hStart nofun
  have hTable := Path.wellFormed hStart (Table.wellFormed_empty none)
  have hLen := env.len_measured (hp.require_length hCanonical hComposed) (by decide) hTable ho
    (by decide +kernel)
  have hZero : (Environment.lengthNames p.flags).findSome? (s.table.numberAt
      (Object.plain.withMember (.named "length") (.data (.number (.ofNat 0))))) =
      some (.ofNat 0) := by
    decide +kernel
  rw [hZero] at hLen
  exact ⟨hStart, hp, (hp.keys_eq hCanonical hComposed).trans (Act.foreign_ok
    (Act.memberNames_ok ho)), hLen, Act.bind_ok hLen⟩

end ProxyBridge
