import ArityLadder.Proofs.Toml.Documents
import ArityLadder.Settings.Reader
import ArityLadder.Settings.Writer

/-!
# Reading written settings

The writer and the reader of settings are two programs that know nothing of each
other.  What the first writes is well formed for the second, and is read as the
same settings wherever these are within their limits.

Main results:

- Theorem `Settings.spells_lines`: written settings spell a header for each part that
  is present and an entry for each key that is set.
- Theorem `Settings.ofTable_table`: the table that these build stands for the settings.
- Theorem `Settings.read_write`: written settings are read back or refused for what
  their check finds.
-/

namespace ArityLadder

namespace Settings

open Toml

/-! ## The characters that are written -/

/-- The lines of written settings, with an empty line between two tables. -/
def lines (settings : Settings) : List String := [""].intercalate settings.tables

/-- Lines with their ends joined to one text. -/
theorem toList_join_lines (lines : List String) :
    (String.join (lines.map (· ++ "\n"))).toList = textOf lines := by
  induction lines with
  | nil => rfl
  | cons line lines ih =>
    rw [List.map_cons, String.join_cons, String.toList_append, ih, textOf_cons]
    simp

/-- Tables with a line end between two of them are their lines with empty ones between. -/
theorem toList_intercalate_tables (tables : List (List String)) :
    ("\n".intercalate (tables.map fun lines => String.join (lines.map (· ++ "\n")))).toList =
      textOf ([""].intercalate tables) := by
  induction tables with
  | nil => rfl
  | cons first tables ih =>
    cases tables with
    | nil =>
      rw [List.map_cons, List.map_nil, String.intercalate_singleton, toList_join_lines,
        List.intercalate_singleton]
    | cons second tables =>
      rw [List.map_cons] at ih
      rw [List.map_cons, List.map_cons, String.intercalate_cons_cons, String.toList_append,
        String.toList_append, ih, toList_join_lines, List.intercalate_cons_cons]
      simp [textOf]

/-- The text of settings consists of their lines. -/
theorem toList_write (settings : Settings) : settings.write.toList = textOf settings.lines :=
  toList_intercalate_tables settings.tables

/-! ## The statements that are written -/

/-- A key that is set spells an entry, and one that is not spells nothing. -/
theorem spells_keyLine {α : Type} {key : String} (hkey : IsName key) {text : α → String}
    {value : α → Value} (hvalue : ∀ a, Writes (text a).toList (value a)) (setting : Option α) :
    Spells (keyLine key (setting.map text))
      ((setting.map fun a => (key, value a)).toList.map fun (key, leaf) => .entry [key] leaf) := by
  cases setting with
  | none => exact Spells.nil
  | some a => exact (states_entry hkey (hvalue a)).spells

/-- A name in quotes writes the name. -/
theorem writes_quotedName {name : String} (hname : IsName name) :
    Writes (quotedName name).toList (.string name) := by
  have hquote : (quotedName name).toList = quote name := by simp [quotedName, quote]
  rw [hquote]
  exact writes_quote hname

/-- A width writes its number. -/
theorem writes_width (width : UInt64) :
    Writes (toString width.toNat).toList (.integer width.toNat) := by
  have hlimit := width.toNat_lt
  rw [Nat.toString_eq_repr, Nat.toList_repr]
  exact writes_toDigits (by omega)

/-- Every section is written by a name that needs no escapes. -/
theorem isName_section (kind : Section) : IsName kind.name := by
  cases kind <;> decide

/-- Every style is written by a name that needs no escapes. -/
theorem isName_indentStyle (style : IndentStyle) : IsName style.name := by
  cases style <;> decide

/-- The written form of a list of sections. -/
theorem toList_sectionList (kinds : List Section) :
    ("[" ++ ", ".intercalate (kinds.map fun kind => quotedName kind.name) ++ "]").toList =
      '[' :: (quotes (kinds.map Section.name) ++ [']']) := by
  have hquote (kind : Section) : (quotedName kind.name).toList = quote kind.name := by
    simp [quotedName, quote]
  simp [quotes, String.toList_intercalate, Function.comp_def, hquote]

/-- A list of sections writes the list of their names. -/
theorem writes_sectionList (kinds : List Section) :
    Writes ("[" ++ ", ".intercalate (kinds.map fun kind => quotedName kind.name) ++ "]").toList
      (.array (kinds.map fun kind => .string kind.name)) := by
  have hnames : ∀ name ∈ kinds.map Section.name, IsName name := by
    intro name hname
    obtain ⟨kind, -, rfl⟩ := List.mem_map.mp hname
    exact isName_section kind
  have hwrites := writes_quotes hnames
  rw [List.map_map] at hwrites
  rw [toList_sectionList]
  exact hwrites

/-- The keys of the output that are set, with their values, in the order of the writer. -/
def outputValues (output : OutputSettings) : List (String × Value) :=
  (output.indent.map fun style => ("indent", .string style.name)).toList ++
    (output.indentWidth.map fun width => ("indent_width", .integer width.toNat)).toList ++
    (output.color.map fun color => ("color", .boolean color)).toList

/-- The keys of the sections that are set, with their values. -/
def sectionValues (sections : SectionSettings) : List (String × Value) :=
  (sections.kinds.map fun kinds =>
    ("kinds", .array (kinds.map fun kind => .string kind.name))).toList

/-- The lines of the output spell its table. -/
theorem spells_outputLines (output : OutputSettings) :
    Spells (outputLines output) (tableStatements "output" (outputValues output)) := by
  have hheader : States "[output]" (some (.header ["output"])) := by
    simpa using states_header (by decide : IsName "output")
  have hindent := spells_keyLine (by decide : IsName "indent")
    (fun style => writes_quotedName (isName_indentStyle style)) output.indent
  have hwidth := spells_keyLine (by decide : IsName "indent_width") writes_width output.indentWidth
  have hcolor := spells_keyLine (by decide : IsName "color") writes_bool output.color
  have hkeys := (hindent.append hwidth).append hcolor
  rw [← List.map_append, ← List.map_append] at hkeys
  exact Spells.cons hheader hkeys

/-- The lines of the sections spell their table. -/
theorem spells_sectionLines (sections : SectionSettings) :
    Spells (sectionLines sections) (tableStatements "sections" (sectionValues sections)) := by
  have hheader : States "[sections]" (some (.header ["sections"])) := by
    simpa using states_header (by decide : IsName "sections")
  exact Spells.cons hheader
    (spells_keyLine (by decide : IsName "kinds") writes_sectionList sections.kinds)

/-- The statements of written settings: a table for each part that is present. -/
def statements (settings : Settings) : List Statement :=
  (settings.output.map fun output => tableStatements "output" (outputValues output)).getD [] ++
    (settings.sections.map fun sections =>
      tableStatements "sections" (sectionValues sections)).getD []

/-- The lines of settings spell their statements. -/
theorem spells_lines (settings : Settings) : Spells settings.lines settings.statements := by
  obtain ⟨output, sections⟩ := settings
  cases output with
  | none =>
    cases sections with
    | none => exact Spells.nil
    | some sections =>
      have hsections := spells_sectionLines sections
      simpa [lines, tables, statements] using hsections
  | some output =>
    have houtput := spells_outputLines output
    cases sections with
    | none => simpa [lines, tables, statements] using houtput
    | some sections =>
      -- The empty line between the two tables states nothing.
      have hempty := states_empty.spells
      have hboth := (houtput.append hempty).append (spells_sectionLines sections)
      simpa [lines, tables, statements, List.intercalate_cons_cons] using hboth

/-! ## The table that is read -/

/-- The table of written settings, with the entries of each part in ascending order. -/
def table (settings : Settings) : Table :=
  (settings.output.map fun output =>
      ("output", .table (Node.entryValues (Node.insertAll [] (outputValues output))))).toList ++
    (settings.sections.map fun sections =>
      ("sections", .table (Node.entryValues (Node.insertAll [] (sectionValues sections))))).toList

/-- The keys of the output are set once each. -/
theorem nodup_outputValues (output : OutputSettings) :
    ((outputValues output).map Prod.fst).Nodup := by
  obtain ⟨indent, width, color⟩ := output
  cases indent <;> cases width <;> cases color <;> simp [outputValues]

/-- The keys of the sections are set once each. -/
theorem nodup_sectionValues (sections : SectionSettings) :
    ((sectionValues sections).map Prod.fst).Nodup := by
  obtain ⟨kinds⟩ := sections
  cases kinds <;> simp [sectionValues]

/-- The statements of settings build their table. -/
theorem foldlM_add?_statements (settings : Settings) :
    ∃ draft : Draft, settings.statements.foldlM Draft.add? {} = some draft ∧
      Node.entryValues draft.root = settings.table := by
  obtain ⟨output, sections⟩ := settings
  cases output with
  | none =>
    cases sections with
    | none => exact ⟨{}, rfl, rfl⟩
    | some sections =>
      have hsections := Draft.foldlM_add?_table {} "sections" rfl (nodup_sectionValues sections)
      exact ⟨_, by simpa [statements] using hsections, rfl⟩
  | some output =>
    have houtput := Draft.foldlM_add?_table {} "output" rfl (nodup_outputValues output)
    cases sections with
    | none => exact ⟨_, by simpa [statements] using houtput, rfl⟩
    | some sections =>
      have hsections := Draft.foldlM_add?_table
        ⟨Node.insert "output" (.table .header (Node.insertAll [] (outputValues output))) [],
          ["output"]⟩ "sections" rfl (nodup_sectionValues sections)
      exact ⟨_, by simpa [statements, List.foldlM_append, houtput] using hsections, rfl⟩

/-- The text of settings is a document, and its table is that of the settings. -/
theorem parse?_write (settings : Settings) :
    Table.parse? settings.write = some settings.table := by
  obtain ⟨draft, hdraft, htable⟩ := settings.foldlM_add?_statements
  rw [parse?_of_spells settings.toList_write settings.spells_lines hdraft, htable]

/-! ## The settings that are read -/

/-- A width is read back from its number. -/
theorem readCount_width (width : UInt64) :
    readCount (.integer width.toNat) = .ok width := by
  have hlimit := width.toNat_lt
  have hhigh : (width.toNat : Int) ≤ 18446744073709551615 := by omega
  simp [readCount, hhigh]

/-- A style is read back from its name. -/
theorem readIndent_name (style : IndentStyle) : readIndent (.string style.name) = .ok style := by
  simp [readIndent, readChoice, readName, IndentStyle.ofName?_name]

/-- A section is read back from its name. -/
theorem readSection_name (kind : Section) : readSection (.string kind.name) = .ok kind := by
  simp [readSection, readChoice, readName, Section.ofName?_name]

/-- A list of sections is read back from its names. -/
theorem readSections_names (kinds : List Section) :
    readSections (.array (kinds.map fun kind => .string kind.name)) = .ok kinds := by
  rw [readSections]
  induction kinds with
  | nil => rfl
  | cons kind kinds ih =>
    rw [List.map_cons, List.mapM_cons, readSection_name, ih]
    rfl

/-- The table of the output holds the keys that are set in the order of their names. -/
theorem entryValues_outputValues (output : OutputSettings) :
    Node.entryValues (Node.insertAll [] (outputValues output)) =
      (output.color.map fun color => ("color", .boolean color)).toList ++
        ((output.indent.map fun style => ("indent", .string style.name)).toList ++
          (output.indentWidth.map fun width =>
            ("indent_width", .integer width.toNat)).toList) := by
  obtain ⟨indent, width, color⟩ := output
  cases indent <;> cases width <;> cases color <;> rfl

/-- The settings of the output are read back from their table. -/
theorem readOutput_outputValues (output : OutputSettings) :
    readOutput (.table (Node.entryValues (Node.insertAll [] (outputValues output)))) =
      .ok output := by
  rw [entryValues_outputValues]
  obtain ⟨indent, width, color⟩ := output
  cases indent <;> cases width <;> cases color <;>
    simp [readOutput, addOutput, readCount_width, readIndent_name, readFlag, bind, Except.bind,
      pure, Except.pure]

/-- The settings of the sections are read back from their table. -/
theorem readSectionTable_sectionValues (sections : SectionSettings) :
    readSectionTable (.table (Node.entryValues (Node.insertAll [] (sectionValues sections)))) =
      .ok sections := by
  obtain ⟨kinds⟩ := sections
  cases kinds <;>
    simp [sectionValues, Node.insertAll, Node.insert, Node.entryValues, Node.toValue,
      readSectionTable, addSections, readSections_names, bind, Except.bind, pure, Except.pure]

/-- Settings are read back from their table. -/
theorem ofTable_table (settings : Settings) : ofTable settings.table = .ok settings := by
  obtain ⟨output, sections⟩ := settings
  cases output <;> cases sections <;>
    simp [table, ofTable, addEntry, readOutput_outputValues, readSectionTable_sectionValues, bind,
      Except.bind, pure, Except.pure]

/-- Settings are read back from their text, within their limits or not. -/
theorem parse_write (settings : Settings) : parse settings.write = .ok settings := by
  rw [parse, parse?_write]
  simp [ofTable_table, Except.mapError]

/-! ## The check behind the reader -/

/-- A check of values between bounds only ever blames a setting. -/
theorem checkWithin_eq_error {α : Type} [LT α] [DecidableLT α] {render : α → String}
    {field : String} {value least greatest : α} {fault : Rejection}
    (h : checkWithin render field value least greatest = .error fault) :
    ∃ cause, fault = .setting cause := by
  unfold checkWithin at h
  split at h
  · injection h with h
    exact ⟨_, h.symm⟩
  · cases h

/-- A check of a list of sections only ever blames a setting. -/
theorem checkSections_eq_error {field : String} {kinds : List Section} {fault : Rejection}
    (h : checkSections field kinds = .error fault) : ∃ cause, fault = .setting cause := by
  unfold checkSections at h
  split at h
  · injection h with h
    exact ⟨_, h.symm⟩
  · split at h
    · injection h with h
      exact ⟨_, h.symm⟩
    · cases h

/-- The check of settings only ever blames a setting. -/
theorem validate_eq_error {settings : Settings} {fault : Rejection}
    (h : settings.validate = .error fault) : ∃ cause, fault = .setting cause := by
  unfold validate at h
  cases hwidth : settings.indentWidth? with
  | none =>
    cases hkinds : settings.kinds? with
    | none => simp [hwidth, hkinds, pure, Except.pure] at h
    | some kinds =>
      simp only [hwidth, hkinds] at h
      exact checkSections_eq_error h
  | some width =>
    cases hcheck : checkWidth "output.indent_width" width with
    | error cause =>
      simp [hwidth, hcheck, bind, Except.bind] at h
      exact h ▸ checkWithin_eq_error hcheck
    | ok done =>
      cases hkinds : settings.kinds? with
      | none => simp [hwidth, hkinds, hcheck, bind, Except.bind, pure, Except.pure] at h
      | some kinds =>
        simp [hwidth, hkinds, hcheck, bind, Except.bind] at h
        exact checkSections_eq_error h

/-- A text is read when it parses to settings within their limits. -/
theorem read_of_parse {text : String} {settings : Settings} (h : parse text = .ok settings) :
    read text = settings.validate.map fun _ => settings := by
  rw [read, h]
  cases hcheck : settings.validate <;>
    simp [hcheck, bind, Except.bind, pure, Except.pure, Except.map]

/-- Settings that were read are within their limits. -/
theorem validate_of_read {text : String} {settings : Settings} (h : read text = .ok settings) :
    settings.validate = .ok () := by
  cases hparse : parse text with
  | error fault => simp [read, hparse, bind, Except.bind] at h
  | ok parsed =>
    rw [read_of_parse hparse] at h
    cases hcheck : parsed.validate with
    | error fault => simp [hcheck, Except.map] at h
    | ok done =>
      rw [hcheck] at h
      injection h with h
      rw [← h, hcheck]

/-- Written settings are read back where their check accepts them, and are refused for
the setting that it blames where it does not; so what was read once is read back. -/
theorem read_write (settings : Settings) :
    (settings.validate = .ok () → read settings.write = .ok settings) ∧
      (∀ fault, settings.validate = .error fault →
        read settings.write = .error fault ∧ ∃ cause, fault = .setting cause) ∧
      ∀ text, read text = .ok settings → read settings.write = .ok settings := by
  have hread := read_of_parse settings.parse_write
  have haccept (hcheck : settings.validate = .ok ()) : read settings.write = .ok settings := by
    rw [hread, hcheck]
    rfl
  refine ⟨haccept, ?_, ?_⟩
  · intro fault hcheck
    constructor
    · rw [hread, hcheck]
      rfl
    · exact validate_eq_error hcheck
  · intro text htext
    exact haccept (validate_of_read htext)

/-- Settings with every key, with an empty list and a width of zero, and from a text in
another form than the written one. -/
theorem read_write_cases :
    read (write
        ⟨some ⟨some .spaces, some 16, some false⟩, some ⟨some [.deserializer, .accessor]⟩⟩) =
        .ok ⟨some ⟨some .spaces, some 16, some false⟩, some ⟨some [.deserializer, .accessor]⟩⟩ ∧
      read (write ⟨some ⟨none, some 0, none⟩, some ⟨some []⟩⟩) =
        .error (.setting (.outOfRange "output.indent_width" "0" "1" "16")) ∧
      read (write ⟨some ⟨some .tab, none, none⟩, some {}⟩) =
        .ok ⟨some ⟨some .tab, none, none⟩, some {}⟩ :=
  ⟨(read_write _).1 (by decide), ((read_write _).2.1 _ (by decide)).1,
    (read_write _).2.2 "sections = \x7b\x7d # none\noutput.indent = 'tab'" (by decide +kernel)⟩

end Settings

end ArityLadder
