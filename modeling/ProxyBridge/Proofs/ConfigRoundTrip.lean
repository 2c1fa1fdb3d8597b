import ProxyBridge.Config.Files
import ProxyBridge.Proofs.Dict
import ProxyBridge.Proofs.TomlCodec

/-!
# Configurations survive

What is printed for a configuration is parsed as the same configuration, whatever its strings and
its lists are. A **selection** of the text leaves out any of its settings, and any section with all
of its settings; it is parsed as the configuration that has the defaults there.

Who prints and who parses is left open. All that is asked is that the two keep to TOML with integers
of 64 bits, which says what single texts stand for and knows nothing of configurations.

## Results

* `Toml.Layout.select` — a selection of a text is a text of what is kept.
* `Config.parse_select` — the configuration of a selection.
* `Config.text_survives` — texts and files.
-/

namespace ProxyBridge

/-! ## Selections -/

namespace Toml

/-- Which headers, settings and empty lines of a text are kept. A setting is not kept without the
header that it stands under. -/
structure Selection where
  header : String → Bool
  setting : String → String → Bool
  gap : String → Bool
  headed : ∀ group name, setting group name = true → header group = true

namespace Selection

/-- Everything is kept. -/
def all : Selection where
  header _ := true
  setting _ _ := true
  gap _ := true
  headed _ _ _ := rfl

/-- The line is kept. -/
def keeps (k : Selection) : Line → Bool
  | .header group => k.header group
  | .setting group s => k.setting group s.1
  | .empty group => k.gap group

/-- Nothing is kept of a section without its header. -/
theorem setting_eq_false {k : Selection} {group : String} (h : k.header group = false)
    (name : String) : k.setting group name = false := by
  cases hSetting : k.setting group name with
  | false => rfl
  | true => rw [k.headed _ _ hSetting] at h; cases h

end Selection

namespace Group

variable {g : Group} {gs : List Group}

/-- The group with the settings that are kept. -/
def keep (k : Selection) (g : Group) : Group :=
  { g with settings := g.settings.filter fun s => k.setting g.name s.1 }

/-- The groups that are kept. -/
def kept (k : Selection) (gs : List Group) : List Group :=
  (gs.filter fun g => k.header g.name).map (keep k)

theorem kept_all (gs : List Group) : kept .all gs = gs := by
  have hFilter : gs.filter (fun g => Selection.all.header g.name) = gs :=
    List.filter_eq_self.mpr fun _ _ => rfl
  rw [kept, hFilter]
  exact List.map_id'' (fun g => by simp [keep, Selection.all]) gs

theorem Plain.keep (hg : g.Plain) (k : Selection) : (g.keep k).Plain where
  name := hg.name
  settings := fun s hs => hg.settings s (List.mem_filter.mp hs).1
  distinct := hg.distinct.sublist (List.filter_sublist.map _)

theorem Proper.kept (h : Proper gs) (k : Selection) : Proper (kept k gs) where
  plain := by
    intro g hg
    obtain ⟨g', hg', rfl⟩ := List.mem_map.mp hg
    exact (h.plain g' (List.mem_filter.mp hg').1).keep k
  distinct := by
    rw [Group.kept, List.map_map]
    exact h.distinct.sublist (List.filter_sublist.map _)

theorem filter_lines (k : Selection) (g : Group) :
    g.lines.filter k.keeps = if k.header g.name then (g.keep k).lines else [] := by
  have hSettings : (g.settings.map (Line.setting g.name)).filter k.keeps =
      (g.keep k).settings.map (.setting g.name) := List.filter_map
  rw [lines]
  split
  · next hKept =>
    have hHeader : k.keeps (.header g.name) = true := hKept
    rw [List.filter_cons_of_pos hHeader, hSettings]
    rfl
  · next hLeft =>
    have hNone : (g.keep k).settings = [] :=
      List.filter_eq_nil_iff.mpr fun s _ => by
        simp [Selection.setting_eq_false (Bool.eq_false_iff.mpr hLeft)]
    have hHeader : ¬ k.keeps (.header g.name) = true := hLeft
    rw [List.filter_cons_of_neg hHeader, hSettings, hNone]
    rfl

/-- What is kept of the lines of groups are the lines of the groups that are kept. -/
theorem filter_flatMap_lines (k : Selection) (gs : List Group) :
    (gs.flatMap lines).filter k.keeps = (kept k gs).flatMap lines := by
  induction gs with
  | nil => rfl
  | cons g gs ih =>
    rw [List.flatMap_cons, List.filter_append, filter_lines, ih, kept, kept]
    split
    · next hKept =>
      rw [List.filter_cons_of_pos (by simpa using hKept), List.map_cons, List.flatMap_cons]
    · next hLeft => rw [List.filter_cons_of_neg (by simpa using hLeft), List.nil_append]

end Group

variable {Denotes : List Char → Value → Prop} {gs : List Group}

/-- A text without the lines that are not kept. It is a text of the groups that are kept. -/
def Layout.select (k : Selection) (l : Layout Denotes gs) : Layout Denotes (Group.kept k gs) where
  lines := l.lines.filter k.keeps
  write := l.write
  content := by
    rw [List.filter_filter, ← Group.filter_flatMap_lines, ← l.content, List.filter_filter]
    exact List.filter_congr fun line _ => Bool.and_comm ..
  denotes := by
    intro g hg s hs
    obtain ⟨g', hg', rfl⟩ := List.mem_map.mp hg
    exact l.denotes g' (List.mem_filter.mp hg').1 s (List.mem_filter.mp hs).1

/-- Nothing is added to the text, and nothing changes its place. -/
theorem Layout.select_sublist (k : Selection) (l : Layout Denotes gs) :
    (l.select k).text.toList.Sublist l.text.toList := by
  rw [text, text, String.toList_ofList, String.toList_ofList]
  exact List.filter_sublist.flatMap _

/-! ## The table of a selection -/

namespace Group

/-- A setting has its value in the table if it is kept. -/
theorem find?_table_keep {g : Group} (k : Selection) (hg : g.Plain) (name : String) :
    Dict.find? name (g.keep k).table =
      if k.setting g.name name then (Dict.find? name g.settings).map Item.value else none := by
  have hDistinct : Dict.keys ((g.keep k).settings.map fun s => (s.1, s.2.value)) |>.Nodup := by
    rw [Dict.keys, List.map_map]
    exact (hg.keep k).distinct
  rw [table, Dict.find?_insertAll hDistinct, Dict.find?_map, keep, Dict.find?_filter,
    Dict.find?_nil, Option.or_none]
  split <;> rfl

/-- A section has its table if it is kept. -/
theorem find?_tables_kept {g : Group} (k : Selection) (h : Proper gs) (hg : g ∈ gs) :
    Dict.find? g.name (tables (kept k gs)) =
      if k.header g.name then some (.table .header (g.keep k).table) else none := by
  have hPairs : (((kept k gs).map fun g =>
      (g.name, Value.table .header g.table)).map (·.1)).Nodup := by
    rw [List.map_map]
    exact (h.kept k).distinct
  rw [tables, Dict.find?_insertAll hPairs, Dict.find?_nil, Option.or_none]
  split
  · next hKept =>
    exact Dict.find?_of_nodup hPairs (List.mem_map.mpr
      ⟨g.keep k, List.mem_map_of_mem (List.mem_filter.mpr ⟨hg, hKept⟩), rfl⟩)
  · next hLeft =>
    -- only sections whose headers are kept have a table
    refine Dict.find?_eq_none fun e he hEq => hLeft ?_
    obtain ⟨_, hKept, rfl⟩ := List.mem_map.mp he
    obtain ⟨g', hg', rfl⟩ := List.mem_map.mp hKept
    exact hEq ▸ (List.mem_filter.mp hg').2

end Group

end Toml

/-! ## Fields -/

namespace Toml.Value

@[simp] theorem natural?_integer (n : Nat) : (Value.integer n).natural? = some n := by
  simp [natural?]

theorem mask?_integer (m : Mask) : (Value.integer m.toNat).mask? = some m := by
  rw [mask?, natural?_integer, Option.bind_some, if_pos m.isLt, BitVec.ofNat_toNat,
    BitVec.setWidth_eq]

theorem masks?_numbers (ms : List Mask) :
    (Item.numbers (ms.map BitVec.toNat)).value.masks? = some ms := by
  rw [Item.value, masks?, List.map_map]
  induction ms with
  | nil => rfl
  | cons m ms ih =>
    rw [List.map_cons, List.mapM_cons, ih]
    exact congrArg (· >>= _) (mask?_integer m)

end Toml.Value

/-! ## Files -/

namespace FileTree

variable {t : FileTree} {p q : Place} {path : String} {content : Option String}

theorem isDirectory_putText (q : Place) : (t.putText p content).isDirectory q = t.isDirectory q :=
  rfl

theorem walk?_putText (start : Place) (names : List String) :
    (t.putText p content).walk? start names = t.walk? start names := by
  induction names generalizing start with
  | nil => rfl
  | cons name rest ih => rw [walk?, walk?, isDirectory_putText, ih, ih, ih]

/-- Paths lead to the same places whatever the texts of the files are. -/
theorem locate?_putText : (t.putText p content).locate? path = t.locate? path := by
  rw [locate?, locate?, walk?_putText]

theorem lookup_putText : (t.putText p content).files.lookup p = some content := by
  have hNone : (t.files.filter (·.1 ≠ p)).lookup p = none := by
    rw [List.lookup_eq_none_iff]
    intro f hf
    have hOther : f.1 ≠ p := by simpa using (List.mem_filter.mp hf).2
    simpa using hOther.symm
  rw [putText, List.lookup_append, hNone, List.lookup_cons_self]
  rfl

theorem lookup_putText_of_ne (hq : q ≠ p) :
    (t.putText p content).files.lookup q = t.files.lookup q := by
  have hNew : [(p, content)].lookup q = none := by
    simpa [List.lookup_eq_none_iff] using hq
  rw [putText, List.lookup_append, hNew, Option.or_none]
  induction t.files with
  | nil => rfl
  | cons f files ih =>
    obtain ⟨p', text⟩ := f
    by_cases hp : p' = p
    · rw [List.filter_cons_of_neg (by simp [hp]), ih, List.lookup_cons,
        beq_eq_false_iff_ne.mpr (hp ▸ hq)]
    · rw [List.filter_cons_of_pos (by simp [hp]), List.lookup_cons, List.lookup_cons, ih]

theorem textAt?_putText_of_ne (hq : q ≠ p) :
    (t.putText p content).textAt? q = t.textAt? q := by
  rw [textAt?, textAt?, isDirectory_putText, lookup_putText_of_ne hq]

theorem read?_putText (hPlace : t.locate? path = some p) (hFile : t.isDirectory p = false) :
    (t.putText p content).read? path = content := by
  rw [read?, locate?_putText, hPlace, Option.bind_some, textAt?, isDirectory_putText, hFile,
    lookup_putText]
  rfl

end FileTree

namespace Config

open Toml

/-- The numbers that are not masks are integers of a text: none is above the greatest one, which has
63 bits. -/
structure Fits (c : Config) : Prop where
  capacity : c.registry.initialCapacity ≤ maxInteger
  shapes : ∀ n ∈ c.registry.maxShapes, n ≤ maxInteger
  live : ∀ n ∈ c.heap.maxLive, n ≤ maxInteger

example : maxInteger = 2 ^ 63 - 1 := by decide

/-- The settings that are kept, and the defaults in place of the others. -/
def keep (k : Selection) (c : Config) : Config :=
  let d : Config := {}
  { registry := {
      initialCapacity := if k.setting "registry" "initial_capacity" then
        c.registry.initialCapacity else d.registry.initialCapacity
      maxShapes := if k.setting "registry" "max_shapes" then
        c.registry.maxShapes else d.registry.maxShapes
      prewarm := if k.setting "registry" "prewarm" then
        c.registry.prewarm else d.registry.prewarm }
    heap := {
      maxLive := if k.setting "heap" "max_live_proxies" then c.heap.maxLive else d.heap.maxLive }
    logging := {
      level := if k.setting "logging" "level" then c.logging.level else d.logging.level
      json := if k.setting "logging" "json" then c.logging.json else d.logging.json
      file := if k.setting "logging" "file" then c.logging.file else d.logging.file
      spans := if k.setting "logging" "spans" then c.logging.spans else d.logging.spans } }

theorem keep_all (c : Config) : c.keep .all = c := by
  simp [keep, Selection.all]

section Groups

variable {c : Config}

theorem mem_setting {name : String} {value : Option Item} {s : String × Item} :
    s ∈ setting? name value ↔ ∃ item ∈ value, s = (name, item) := by
  cases value <;> simp [setting?]

/-- The names of the groups and their settings are fixed, and different. -/
theorem groups_proper (c : Config) : Group.Proper c.groups where
  plain := by
    have hBare : ∀ name ∈ ["registry", "heap", "logging", "initial_capacity", "max_shapes",
        "prewarm", "max_live_proxies", "level", "json", "file", "spans"], Bare name := by decide
    intro g hg
    simp only [groups, List.mem_cons, List.not_mem_nil, or_false] at hg
    rcases hg with rfl | rfl | rfl
    -- a setting with an optional value is there or not, but never twice
    · refine { name := hBare _ (by simp), settings := fun s hs => hBare _ ?_, distinct := ?_ }
      · simp only [List.mem_append, List.mem_singleton, mem_setting] at hs
        rcases hs with (rfl | ⟨_, -, rfl⟩) | rfl <;> simp
      · cases c.registry.maxShapes <;> simp [setting?]
    · refine { name := hBare _ (by simp), settings := fun s hs => hBare _ ?_, distinct := ?_ }
      · obtain ⟨_, -, rfl⟩ := mem_setting.mp hs
        simp
      · cases c.heap.maxLive <;> simp [setting?]
    · refine { name := hBare _ (by simp), settings := fun s hs => hBare _ ?_, distinct := ?_ }
      · simp only [List.mem_append, List.mem_cons, List.not_mem_nil, or_false, mem_setting] at hs
        rcases hs with ((rfl | rfl) | ⟨_, -, rfl⟩) | rfl <;> simp
      · cases c.logging.file <;> simp [setting?]
  distinct := by simp [groups]

/-- Masks are integers of a text in any case, so all numbers are if the other ones are. -/
theorem groups_fit_iff : (∀ g ∈ c.groups, g.Fits) ↔ c.Fits := by
  have hMasks : ∀ n ∈ c.registry.prewarm.map BitVec.toNat, n ≤ maxInteger := by
    intro n hn
    obtain ⟨m, -, rfl⟩ := List.mem_map.mp hn
    exact Nat.le_trans (Nat.le_of_lt m.isLt) (by decide)
  constructor
  · intro h
    have hRegistry := h _ (List.mem_cons_self ..)
    have hHeap := h _ (List.mem_cons_of_mem _ (List.mem_cons_self ..))
    refine ⟨hRegistry ("initial_capacity", .number _) (by simp), fun n hn => ?_, fun n hn => ?_⟩
    · refine hRegistry ("max_shapes", .number n) ?_
      simp [setting?, Option.mem_def.mp hn]
    · refine hHeap ("max_live_proxies", .number n) ?_
      simp [setting?, Option.mem_def.mp hn]
  · rintro ⟨hCapacity, hShapes, hLive⟩ g hg s hs
    simp only [groups, List.mem_cons, List.not_mem_nil, or_false] at hg
    rcases hg with rfl | rfl | rfl
    · simp only [List.mem_append, List.mem_singleton, mem_setting] at hs
      rcases hs with (rfl | ⟨_, hItem, rfl⟩) | rfl
      · exact hCapacity
      · obtain ⟨n, hn, rfl⟩ := Option.map_eq_some_iff.mp hItem
        exact hShapes n hn
      · exact hMasks
    · obtain ⟨_, hItem, rfl⟩ := mem_setting.mp hs
      obtain ⟨n, hn, rfl⟩ := Option.map_eq_some_iff.mp hItem
      exact hLive n hn
    · simp only [List.mem_append, List.mem_cons, List.not_mem_nil, or_false, mem_setting] at hs
      rcases hs with ((rfl | rfl) | ⟨_, hItem, rfl⟩) | rfl
      · trivial
      · trivial
      · obtain ⟨file, -, rfl⟩ := Option.map_eq_some_iff.mp hItem
        trivial
      · trivial

variable {α : Type} {g : Group} {read : Toml.Value → Option α} {default : α}

/-- A field that is read from all settings is read from those that are kept, if it is kept. -/
theorem fieldOr_keep (k : Selection) (hg : g.Plain) (value : α) {name : String}
    (h : fieldOr (g.settings.map fun s => (s.1, s.2.value)) name read default = some value) :
    fieldOr (g.keep k).table name read default =
      some (if k.setting g.name name then value else default) := by
  rw [fieldOr, Dict.find?_map] at h
  rw [fieldOr, Group.find?_table_keep k hg]
  cases k.setting g.name name with
  | true => exact h
  | false => rfl

/-- A section that is read from the settings that are kept is read from the groups that are
kept. -/
theorem fieldOr_kept (k : Selection) (hg : g ∈ c.groups) {value : α}
    (hRead : read (.table .header (g.keep k).table) = some value)
    (hDefault : k.header g.name = false → value = default) :
    fieldOr (Group.tables (Group.kept k c.groups)) g.name read default = some value := by
  rw [fieldOr, Group.find?_tables_kept k (groups_proper c) hg]
  cases hHeader : k.header g.name with
  | true => exact hRead
  | false => exact congrArg some (hDefault hHeader).symm

theorem registry_kept (k : Selection) :
    fieldOr (Group.tables (Group.kept k c.groups)) "registry" RegistryConfig.ofToml? {} =
      some (c.keep k).registry := by
  have hg : _ ∈ c.groups := List.mem_cons_self ..
  have hPlain := (groups_proper c).plain _ hg
  refine fieldOr_kept k hg ?_ fun hHeader => ?_
  · rw [RegistryConfig.ofToml?, Toml.Value.fields?, Option.bind_eq_bind, Option.bind_some]
    dsimp only
    rw [fieldOr_keep k hPlain c.registry.initialCapacity,
      fieldOr_keep k hPlain c.registry.maxShapes,
      fieldOr_keep k hPlain c.registry.prewarm]
    · rfl
    -- what is left is how the fields are read when nothing is left out, the last one first
    · cases c.registry.maxShapes <;>
        simp [fieldOr, setting?, Dict.find?_cons, Toml.Value.masks?_numbers]
    · cases c.registry.maxShapes <;> simp [fieldOr, setting?, Dict.find?_cons, Item.value]
    · simp [fieldOr, Dict.find?_cons, Item.value]
  · simp [keep, Selection.setting_eq_false hHeader]

theorem heap_kept (k : Selection) :
    fieldOr (Group.tables (Group.kept k c.groups)) "heap" HeapConfig.ofToml? {} =
      some (c.keep k).heap := by
  have hg : _ ∈ c.groups := List.mem_cons_of_mem _ (List.mem_cons_self ..)
  have hPlain := (groups_proper c).plain _ hg
  refine fieldOr_kept k hg ?_ fun hHeader => ?_
  · rw [HeapConfig.ofToml?, Toml.Value.fields?, Option.bind_eq_bind, Option.bind_some]
    dsimp only
    rw [fieldOr_keep k hPlain c.heap.maxLive]
    · rfl
    · cases c.heap.maxLive <;> simp [fieldOr, setting?, Dict.find?_cons, Item.value]
  · simp [keep, Selection.setting_eq_false hHeader]

theorem logging_kept (k : Selection) :
    fieldOr (Group.tables (Group.kept k c.groups)) "logging" LogConfig.ofToml? {} =
      some (c.keep k).logging := by
  have hg : _ ∈ c.groups := List.mem_cons_of_mem _ (List.mem_cons_of_mem _ (List.mem_cons_self ..))
  have hPlain := (groups_proper c).plain _ hg
  refine fieldOr_kept k hg ?_ fun hHeader => ?_
  · rw [LogConfig.ofToml?, Toml.Value.fields?, Option.bind_eq_bind, Option.bind_some]
    dsimp only
    rw [fieldOr_keep k hPlain c.logging.level,
      fieldOr_keep k hPlain c.logging.json,
      fieldOr_keep k hPlain c.logging.file,
      fieldOr_keep k hPlain c.logging.spans]
    · rfl
    · cases c.logging.file <;>
        simp [fieldOr, setting?, Dict.find?_cons, Item.value, Toml.Value.boolean?]
    · cases c.logging.file <;>
        simp [fieldOr, setting?, Dict.find?_cons, Item.value, Toml.Value.text?]
    · simp [fieldOr, Dict.find?_cons, Item.value, Toml.Value.boolean?]
    · simp [fieldOr, Dict.find?_cons, Item.value, Toml.Value.text?]
  · simp [keep, Selection.setting_eq_false hHeader]

/-- The configuration of the groups that are kept has their settings, and the defaults for all
others. -/
theorem ofToml_kept (k : Selection) (c : Config) :
    ofToml? (Group.tables (Group.kept k c.groups)) = some (c.keep k) := by
  rw [ofToml?]
  dsimp only
  rw [registry_kept, heap_kept, logging_kept]
  rfl

variable {toml : Codec} {Denotes : List Char → Toml.Value → Prop}

/-- **The configuration of a selection** of a text. -/
theorem parse_select (h : toml.Lawful Denotes) (k : Selection) (l : Layout Denotes c.groups) :
    parse toml (l.select k).text = .ok (c.keep k) := by
  rw [parse, h.parses _ ((groups_proper c).kept k), Option.bind_some, ofToml_kept]

theorem parse_layout (h : toml.Lawful Denotes) (l : Layout Denotes c.groups) :
    parse toml l.text = .ok c := by
  have hTable : ofToml? (Group.tables c.groups) = some c := by
    have hKept := ofToml_kept .all c
    rwa [Group.kept_all, keep_all] at hKept
  rw [parse, h.parses _ (groups_proper c), Option.bind_some, hTable]

end Groups

/-! ## Texts and files -/

section Files

variable {c : Config} {t t' : FileTree} {path text : String} {toml : Codec}
  {Denotes : List Char → Toml.Value → Prop}

theorem text_eq_ok (h : toml.Lawful Denotes) (hc : c.Fits) :
    ∃ l : Layout Denotes c.groups, c.text toml = .ok l.text := by
  obtain ⟨l, hPrint⟩ := h.prints _ (groups_proper c) (groups_fit_iff.mpr hc)
  exact ⟨l, by rw [Config.text, hPrint]⟩

theorem text_eq_error (h : toml.Lawful Denotes) (hc : ¬ c.Fits) :
    c.text toml = .error .serialize := by
  rw [Config.text, h.refuses _ (groups_proper c) (mt groups_fit_iff.mp hc)]

theorem save_eq_error (h : toml.Lawful Denotes) (hc : ¬ c.Fits) :
    c.save toml t path = .error .serialize := by
  rw [save, text_eq_error h hc]
  rfl

theorem save_eq_ok (hText : c.text toml = .ok text) (hWrite : t.write? path text = some t') :
    c.save toml t path = .ok t' := by
  rw [save, hText]
  simp only [bind, Except.bind, hWrite]

theorem save_eq_write (hText : c.text toml = .ok text) (hWrite : t.write? path text = none) :
    c.save toml t path = .error .write := by
  rw [save, hText]
  simp only [bind, Except.bind, hWrite]

/-- Only numbers that no text has an integer for keep a configuration from having a text. -/
theorem save_refuses_iff (h : toml.Lawful Denotes) :
    (∃ e, c.save toml t path = .error e ∧ e.message = "Failed to serialize config") ↔
      ¬ c.Fits := by
  constructor
  · rintro ⟨e, hSave, hMessage⟩ hc
    obtain ⟨l, hText⟩ := text_eq_ok h hc
    -- a configuration with a text can fail only to be written, and the message tells
    cases hWrite : t.write? path l.text with
    | none =>
      rw [save_eq_write hText hWrite] at hSave
      cases hSave
      exact absurd hMessage (by decide)
    | some t' =>
      rw [save_eq_ok hText hWrite] at hSave
      cases hSave
  · exact fun hc => ⟨.serialize, save_eq_error h hc, rfl⟩

/-- **Configurations survive.** Let the printer and the parser keep to TOML, with integers of 64
bits. The text of a configuration has a line for each of its settings. Parsing the text gives the
configuration back, and parsing a selection of its lines gives it back with the defaults for all
that is left out. A file that can be written to can be loaded from afterwards. A configuration
without a text is saved nowhere, and it is one with a number above the greatest integer of a
text. -/
theorem text_survives (h : toml.Lawful Denotes) (c : Config) :
    (c.Fits → ∃ l : Layout Denotes c.groups, c.text toml = .ok l.text ∧
      parse toml l.text = .ok c ∧
      (∀ k : Selection, (l.select k).text.toList.Sublist l.text.toList ∧
        parse toml (l.select k).text = .ok (c.keep k)) ∧
      ∀ (t : FileTree) (path : String) (p : Place),
        t.locate? path = some p → t.isDirectory p = false →
          ∃ t', c.save toml t path = .ok t' ∧ t'.read? path = some l.text ∧
            load toml t' path = .ok c ∧ ∀ q, q ≠ p → t'.textAt? q = t.textAt? q) ∧
    ∀ (t : FileTree) (path : String),
      ((∃ e, c.save toml t path = .error e ∧ e.message = "Failed to serialize config") ↔
          ¬ c.Fits) ∧
        (¬ c.Fits → (c.save toml t path).toOption.getD t = t) := by
  refine ⟨fun hc => ?_, fun t path => ⟨save_refuses_iff h, fun hc => ?_⟩⟩
  · obtain ⟨l, hText⟩ := text_eq_ok h hc
    refine ⟨l, hText, parse_layout h l, fun k => ⟨l.select_sublist k, parse_select h k l⟩, ?_⟩
    -- what was written at the place is found there
    intro t path p hPlace hFile
    have hWrite : t.write? path l.text = some (t.putText p (some l.text)) := by
      simp [FileTree.write?, hPlace, hFile]
    have hRead : (t.putText p (some l.text)).read? path = some l.text :=
      FileTree.read?_putText hPlace hFile
    refine ⟨_, save_eq_ok hText hWrite, hRead, ?_, fun q hq => FileTree.textAt?_putText_of_ne hq⟩
    rw [load, hRead]
    exact parse_layout h l
  · rw [save_eq_error h hc]
    rfl

/-- Quotes, backslashes, line ends and control characters in the strings, and the greatest numbers,
with the builtin printer and parser. -/
theorem text_survives_hostile :
    let c : Config :=
      { registry := { initialCapacity := maxInteger, maxShapes := some 0,
                      prewarm := [0, 0xFFFFFFFF#32, 3] }
        heap := { maxLive := some maxInteger }
        logging := { level := "\"\"\" \x27\x27\x27 \\ \n\r\t\x00\x7f", json := true,
                     file := some "[heap]\nmax_live_proxies = 1" } }
    Codec.builtin.Lawful IsValue ∧ c.Fits ∧
      ∃ text, c.text .builtin = .ok text ∧ parse .builtin text = .ok c := by
  intro c
  have hc : c.Fits := ⟨by decide, by simp [c], by simp [c]⟩
  obtain ⟨l, hText, hParse, -⟩ := (text_survives Codec.builtin_lawful c).1 hc
  exact ⟨Codec.builtin_lawful, hc, l.text, hText, hParse⟩

end Files

end Config

end ProxyBridge
