import Mathlib.Data.List.Flatten
import ProxyBridge.Proofs.Dict
import ProxyBridge.Proofs.TomlLines

/-!
# The builtin codec is lawful

The printer writes one line for each header and each setting, and the parser reads a text line by
line. So the document of a text is that of its lines, and empty lines make no difference to it. The
table of the document grows by one setting at a time, and by one group at a time, since all names
are different.

## Results

* `reads_lines` — the document of lines.
* `Group.entries_document` — the table that the lines of groups stand for.
* `Codec.builtin_lawful` — the printer and the parser keep to the format.
-/

namespace ProxyBridge.Toml

/-! ## The document of lines -/

/-- A setting as it is read. -/
def assignmentOf (s : String × Item) : Assignment := { path := [s.1], value := s.2.value }

/-- The document of lines. A line is put in front of the document of the lines after it. -/
def documentOf : List Line → Document
  | [] => { preamble := [], sections := [] }
  | .header group :: rest => (documentOf rest).consHeader .table [group]
  | .setting _ s :: rest => (documentOf rest).consAssignment (assignmentOf s)
  | .empty _ :: rest => documentOf rest

/-- The name on the line can do without quotes, and the value is read as it is meant. -/
def Line.Readable (write : String → String × Item → List Char) : Line → Prop
  | .header group => Bare group
  | .setting group s => Bare s.1 ∧ IsValue (write group s) s.2.value
  | .empty _ => True

/-- **The document of a text is that of its lines.** -/
theorem reads_lines {write : String → String × Item → List Char} {lines : List Line}
    (h : ∀ line ∈ lines, line.Readable write) :
    Reads (lines.flatMap (Line.render write)) (documentOf lines) := by
  -- a text is read from its end on: the last line first
  induction lines with
  | nil => exact Reads.nil
  | cons line lines ih =>
    have hRest := ih fun other hOther => h other (List.mem_cons_of_mem _ hOther)
    have hLine := h line (List.mem_cons_self ..)
    rw [List.flatMap_cons]
    cases line with
    | header group => exact hRest.header hLine
    | setting group s => exact hRest.setting hLine.1 hLine.2
    | empty group => exact hRest.gap

theorem documentOf_filter (lines : List Line) :
    documentOf (lines.filter (!·.isEmpty)) = documentOf lines := by
  induction lines with
  | nil => rfl
  | cons line lines ih =>
    cases line with
    | header group => exact congrArg (Document.consHeader .table [group]) ih
    | setting group s => exact congrArg (Document.consAssignment (assignmentOf s)) ih
    | empty group => exact ih

namespace Group

variable {g : Group} {gs : List Group} {es : Entries}

/-- A group as it is read. -/
def toSection (g : Group) : Section :=
  { heading := .table, path := [g.name], body := g.settings.map assignmentOf }

theorem documentOf_settings (group : String) (settings : List (String × Item))
    (lines : List Line) :
    documentOf (settings.map (.setting group) ++ lines) =
      { documentOf lines with
        preamble := settings.map assignmentOf ++ (documentOf lines).preamble } := by
  induction settings with
  | nil => rfl
  | cons s settings ih => exact congrArg (Document.consAssignment (assignmentOf s)) ih

theorem documentOf_groups (gs : List Group) :
    documentOf (gs.flatMap lines) = { preamble := [], sections := gs.map toSection } := by
  induction gs with
  | nil => rfl
  | cons g gs ih =>
    show (documentOf (g.settings.map (.setting g.name) ++ gs.flatMap lines)).consHeader .table
      [g.name] = _
    rw [documentOf_settings, ih, List.append_nil]
    rfl

/-! ## The table of a document -/

theorem assign_assignmentOf {s : String × Item} (hNew : Dict.find? s.1 es = none) :
    assign es (assignmentOf s) = some (Dict.insert s.1 s.2.value es) := by
  simp [assign, assignmentOf, splitKey, extend, Dict.contains, hNew]

theorem addSection_toSection (hNew : Dict.find? g.name es = none)
    (hBody : assignAll [] (g.settings.map assignmentOf) = some g.table) :
    addSection es g.toSection = some (Dict.insert g.name (.table .header g.table) es) := by
  simp [addSection, toSection, splitKey, extend, hNew, hBody]

theorem assignAll_settings {settings : List (String × Item)}
    (hDistinct : (settings.map (·.1)).Nodup) (hNew : ∀ s ∈ settings, Dict.find? s.1 es = none) :
    assignAll es (settings.map assignmentOf) =
      some (Dict.insertAll es (settings.map fun s => (s.1, s.2.value))) := by
  -- with each setting the table grows, and the others are new to it still
  induction settings generalizing es with
  | nil => rfl
  | cons s settings ih =>
    obtain ⟨hOther, hRest⟩ := List.nodup_cons.mp hDistinct
    rw [List.map_cons, assignAll, List.foldlM_cons,
      assign_assignmentOf (hNew s (List.mem_cons_self ..))]
    refine ih hRest fun s' hs' => ?_
    rw [Dict.find?_insert, if_neg, hNew s' (List.mem_cons_of_mem _ hs')]
    exact fun hEq => hOther (List.mem_map.mpr ⟨s', hs', hEq.symm⟩)

theorem addSections (hPlain : ∀ g ∈ gs, g.Plain) (hDistinct : (gs.map (·.name)).Nodup)
    (hNew : ∀ g ∈ gs, Dict.find? g.name es = none) :
    (gs.map toSection).foldlM addSection es =
      some (Dict.insertAll es (gs.map fun g => (g.name, .table .header g.table))) := by
  induction gs generalizing es with
  | nil => rfl
  | cons g gs ih =>
    obtain ⟨hOther, hRest⟩ := List.nodup_cons.mp hDistinct
    have hBody : assignAll [] (g.settings.map assignmentOf) = some g.table :=
      assignAll_settings (hPlain g (List.mem_cons_self ..)).distinct fun _ _ => rfl
    rw [List.map_cons, List.foldlM_cons,
      addSection_toSection (hNew g (List.mem_cons_self ..)) hBody]
    refine ih (fun g' hg' => hPlain g' (List.mem_cons_of_mem _ hg')) hRest fun g' hg' => ?_
    rw [Dict.find?_insert, if_neg, hNew g' (List.mem_cons_of_mem _ hg')]
    exact fun hEq => hOther (List.mem_map.mpr ⟨g', hg', hEq.symm⟩)

/-- **The table of groups** as they are read. -/
theorem entries_document (h : Proper gs) :
    Document.entries? { preamble := [], sections := gs.map toSection } = some (tables gs) :=
  addSections h.plain h.distinct fun _ _ => rfl

theorem filter_spaced (gs : List Group) :
    (spaced gs).filter (!·.isEmpty) = gs.flatMap lines := by
  have hLines (g : Group) : g.lines.filter (!·.isEmpty) = g.lines := by
    refine List.filter_eq_self.mpr fun line hLine => ?_
    rcases List.mem_cons.mp hLine with rfl | hSetting
    · rfl
    · obtain ⟨s, -, rfl⟩ := List.mem_map.mp hSetting
      rfl
  fun_induction spaced gs with
  | case1 => rfl
  | case2 g => rw [hLines, List.flatMap_singleton]
  | case3 g rest hMore ih =>
    rw [List.filter_append, hLines, List.filter_cons_of_neg (by simp [Line.isEmpty]), ih,
      List.flatMap_cons]

end Group

/-! ## The codec -/

/-- What a layout of groups has on its lines can be read. -/
theorem Layout.readable {gs : List Group} (h : Group.Proper gs) (l : Layout IsValue gs) :
    ∀ line ∈ l.lines, line.Readable l.write := by
  intro line hLine
  cases hEmpty : line.isEmpty with
  | true =>
    cases line with
    | empty group => trivial
    | header group => cases hEmpty
    | setting group s => cases hEmpty
  | false =>
    -- a line that is not empty is one of the lines of a group
    have hContent : line ∈ gs.flatMap Group.lines := by
      rw [← l.content]
      exact List.mem_filter.mpr ⟨hLine, by simp [hEmpty]⟩
    obtain ⟨g, hg, hOwn⟩ := List.mem_flatMap.mp hContent
    rcases List.mem_cons.mp hOwn with rfl | hSetting
    · exact (h.plain g hg).name
    · obtain ⟨s, hs, rfl⟩ := List.mem_map.mp hSetting
      exact ⟨(h.plain g hg).settings s hs, l.denotes g hg s hs⟩

/-- **The builtin printer and parser keep to the format**, where the text of a value is what the
parser reads as one. -/
theorem Codec.builtin_lawful : Codec.builtin.Lawful IsValue where
  prints gs _ hFits :=
    ⟨{ lines := Group.spaced gs
       write := fun _ s => s.2.render
       content := Group.filter_spaced gs
       denotes := fun g hg s hs => isValue_render (hFits g hg s hs) }, if_pos hFits⟩
  refuses gs _ hFits := if_neg hFits
  parses gs h l := by
    have hRead : Reads (l.lines.flatMap (Line.render l.write))
        { preamble := [], sections := gs.map Group.toSection } := by
      rw [← Group.documentOf_groups, ← l.content, documentOf_filter]
      exact reads_lines (l.readable h)
    show entriesOfText? l.text = _
    rw [entriesOfText?, Layout.text, hRead.ofText]
    exact Group.entries_document h

end ProxyBridge.Toml
