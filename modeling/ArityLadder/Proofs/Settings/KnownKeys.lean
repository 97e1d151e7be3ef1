import ArityLadder.Proofs.Settings.RoundTrip
import ArityLadder.Proofs.Toml.Tables
import Mathlib.Data.List.Sort

/-!
# Known keys

Settings depend on a few keys of a document.  The other keys of its tables are skipped, in
whatever order they stand between the known ones, as long as no numeral under them is out of
range.

Main results:

- Theorem `Settings.foldlM_eq_known`: a reader of entries that skips what it does not know
  sees the known ones, in the order of their keys.
- Theorems `Settings.readOutput_table`, `Settings.readSectionTable_table` and
  `Settings.ofTable_eq`: what is read of a table, key by key.
- Theorem `Settings.read_eq_of_agree`: documents that agree on the known keys are read alike.
- Theorem `Settings.read_of_float_beyond`: a document is refused whose only key is unknown and has
  a floating-point number out of range.
-/

namespace ArityLadder

namespace Settings

open Toml

/-! ## Entries of known keys -/

/-- The keys of a document that settings know. -/
def rootKeys : List String := ["output", "sections"]

/-- The keys of the output that settings know. -/
def outputKeys : List String := ["color", "indent", "indent_width"]

/-- The keys of the sections that settings know. -/
def sectionKeys : List String := ["kinds"]

/-- The entries of some keys, in the order of the keys. -/
def known (keys : List String) (entries : List (String × Value)) : List (String × Value) :=
  keys.filterMap fun key => (entries.lookup key).map (key, ·)

/-- Among ascending keys the value of a key is the one that stands beside it. -/
theorem lookup_eq_some_iff_mem {entries : List (String × Value)} (hentries : Ascending entries)
    {key : String} {value : Value} :
    entries.lookup key = some value ↔ (key, value) ∈ entries := by
  induction entries with
  | nil => simp
  | cons entry entries ih =>
    obtain ⟨hfirst, hrest⟩ := ascending_cons.mp hentries
    obtain ⟨k, v⟩ := entry
    rw [List.lookup_cons, List.mem_cons, ← ih hrest]
    by_cases hkey : key = k
    · subst hkey
      have hlater : entries.lookup key ≠ some value := by
        rw [ne_eq, ih hrest]
        exact fun hmem => String.lt_irrefl key (hfirst (key, value) hmem)
      simp [hlater, eq_comm]
    · have hne : (key == k) = false := by simpa using hkey
      simp [hne, hkey]

/-- Of ascending entries those of ascending keys stand in the order of these keys. -/
theorem filter_eq_known {keys : List String} {entries : List (String × Value)}
    (hkeys : keys.Pairwise (· < ·)) (hentries : Ascending entries) :
    entries.filter (fun entry => entry.1 ∈ keys) = known keys entries := by
  have hfilter : (entries.filter fun entry => entry.1 ∈ keys).Pairwise fun a b => a.1 < b.1 :=
    (List.pairwise_map.mp hentries).filter _
  have hknown : (known keys entries).Pairwise fun a b => a.1 < b.1 := by
    refine hkeys.filterMap _ ?_
    intro key other hlt entry hentry next hnext
    obtain ⟨value, -, rfl⟩ := Option.map_eq_some_iff.mp hentry
    obtain ⟨value', -, rfl⟩ := Option.map_eq_some_iff.mp hnext
    exact hlt
  have hirrefl : Std.Irrefl fun a b : String × Value => a.1 < b.1 :=
    ⟨fun a => String.lt_irrefl a.1⟩
  have hantisymm : Std.Antisymm fun a b : String × Value => a.1 < b.1 :=
    ⟨fun a b hab hba => absurd hba (String.lt_asymm hab)⟩
  refine hfilter.eq_of_mem_iff hknown ?_
  intro entry
  simp only [List.mem_filter, decide_eq_true_eq, known, List.mem_filterMap,
    Option.map_eq_some_iff]
  constructor
  · rintro ⟨hmem, hkey⟩
    exact ⟨entry.1, hkey, entry.2, (lookup_eq_some_iff_mem hentries).mpr hmem, rfl⟩
  · rintro ⟨key, hkey, value, hvalue, rfl⟩
    exact ⟨(lookup_eq_some_iff_mem hentries).mp hvalue, hkey⟩

/-- Whether no numeral is out of range under a key that is not among the known ones. -/
def FurtherInRange (keys : List String) (entries : List (String × Value)) : Prop :=
  ∀ entry ∈ entries, entry.1 ∉ keys → entry.2.beyond? = none

/-- A reader of entries that skips what it does not know sees only the entries of known keys. -/
theorem foldlM_filter_known {σ : Type} {add : σ → String × Value → Except Mismatch σ}
    {keys : List String}
    (hskip : ∀ state entry, entry.1 ∉ keys → entry.2.beyond? = none →
      add state entry = .ok state)
    {entries : List (String × Value)} (hfurther : FurtherInRange keys entries) (state : σ) :
    entries.foldlM add state =
      (entries.filter fun entry => entry.1 ∈ keys).foldlM add state := by
  induction entries generalizing state with
  | nil => rfl
  | cons entry entries ih =>
    obtain ⟨hfirst, hrest⟩ := List.forall_mem_cons.mp hfurther
    by_cases hkey : entry.1 ∈ keys
    · rw [List.filter_cons_of_pos (by simpa using hkey), List.foldlM_cons, List.foldlM_cons]
      exact congrArg _ (funext fun next => ih hrest next)
    · rw [List.filter_cons_of_neg (by simpa using hkey), List.foldlM_cons,
        hskip state entry hkey (hfirst hkey)]
      exact ih hrest state

/-- A reader of entries that skips what it does not know sees the entries of known keys, in the
order of these. -/
theorem foldlM_eq_known {σ : Type} {add : σ → String × Value → Except Mismatch σ}
    {keys : List String} (hkeys : keys.Pairwise (· < ·))
    (hskip : ∀ state entry, entry.1 ∉ keys → entry.2.beyond? = none →
      add state entry = .ok state)
    {entries : List (String × Value)} (hentries : Ascending entries)
    (hfurther : FurtherInRange keys entries) (state : σ) :
    entries.foldlM add state = (known keys entries).foldlM add state := by
  rw [foldlM_filter_known hskip hfurther, filter_eq_known hkeys hentries]

/-- A value without a numeral out of range is skipped. -/
theorem skip_of_beyond?_eq_none {value : Value} (hvalue : value.beyond? = none) :
    skip value = .ok () := by
  rw [skip, hvalue]

/-! ## Tables key by key -/

section Tables

variable {entries : List (String × Value)} (hentries : Ascending entries)
include hentries

/-- The settings of the output are read from the values of its known keys. -/
theorem readOutput_table (hfurther : FurtherInRange outputKeys entries) :
    readOutput (.table entries) = do
      let color ← (entries.lookup "color").mapM readFlag
      let indent ← (entries.lookup "indent").mapM readIndent
      let indentWidth ← (entries.lookup "indent_width").mapM readCount
      return ⟨indent, indentWidth, color⟩ := by
  have hskip : ∀ (output : OutputSettings) (entry : String × Value), entry.1 ∉ outputKeys →
      entry.2.beyond? = none → addOutput output entry = .ok output := by
    intro output entry hkey hvalue
    obtain ⟨hcolor, hindent, hwidth⟩ : entry.1 ≠ "color" ∧ entry.1 ≠ "indent" ∧
        entry.1 ≠ "indent_width" := by simpa [outputKeys] using hkey
    simp [addOutput, hcolor, hindent, hwidth, skip_of_beyond?_eq_none hvalue, bind, Except.bind,
      pure, Except.pure]
  rw [readOutput, foldlM_eq_known (by decide) hskip hentries hfurther]
  cases hcolor : entries.lookup "color" <;> cases hindent : entries.lookup "indent" <;>
    cases hwidth : entries.lookup "indent_width" <;>
    simp [known, outputKeys, hcolor, hindent, hwidth, addOutput]

/-- The settings of the sections are read from the value of their known key. -/
theorem readSectionTable_table (hfurther : FurtherInRange sectionKeys entries) :
    readSectionTable (.table entries) = do
      let kinds ← (entries.lookup "kinds").mapM readSections
      return ⟨kinds⟩ := by
  have hskip : ∀ (sections : SectionSettings) (entry : String × Value), entry.1 ∉ sectionKeys →
      entry.2.beyond? = none → addSections sections entry = .ok sections := by
    intro sections entry hkey hvalue
    have hkinds : entry.1 ≠ "kinds" := by simpa [sectionKeys] using hkey
    simp [addSections, hkinds, skip_of_beyond?_eq_none hvalue, bind, Except.bind, pure,
      Except.pure]
  rw [readSectionTable, foldlM_eq_known (by decide) hskip hentries hfurther]
  cases hkinds : entries.lookup "kinds" <;> simp [known, sectionKeys, hkinds, addSections]

/-- The settings of a document are read from the values of its known keys. -/
theorem ofTable_eq (hfurther : FurtherInRange rootKeys entries) :
    ofTable entries = do
      let output ← (entries.lookup "output").mapM readOutput
      let sections ← (entries.lookup "sections").mapM readSectionTable
      return ⟨output, sections⟩ := by
  have hskip : ∀ (settings : Settings) (entry : String × Value), entry.1 ∉ rootKeys →
      entry.2.beyond? = none → addEntry settings entry = .ok settings := by
    intro settings entry hkey hvalue
    obtain ⟨houtput, hsections⟩ : entry.1 ≠ "output" ∧ entry.1 ≠ "sections" := by
      simpa [rootKeys] using hkey
    simp [addEntry, houtput, hsections, skip_of_beyond?_eq_none hvalue, bind, Except.bind, pure,
      Except.pure]
  rw [ofTable, foldlM_eq_known (by decide) hskip hentries hfurther]
  cases houtput : entries.lookup "output" <;> cases hsections : entries.lookup "sections" <;>
    simp [known, rootKeys, houtput, hsections, addEntry]

end Tables

/-! ## Documents that agree -/

/-- Two values, or none, that are the same, or are two tables that agree on some keys. -/
inductive AgreeOn (keys : List String) : Option Value → Option Value → Prop where
  | same (value : Option Value) : AgreeOn keys value value
  | tables {entries others : List (String × Value)}
      (hkeys : ∀ key ∈ keys, entries.lookup key = others.lookup key) :
      AgreeOn keys (some (.table entries)) (some (.table others))

/-- Documents that agree on what settings know of them. -/
structure Agree (table other : Table) : Prop where
  output : AgreeOn outputKeys (table.get? "output") (other.get? "output")
  sections : AgreeOn sectionKeys (table.get? "sections") (other.get? "sections")

/-- A document without a numeral out of range under a key that settings do not know. -/
structure InRangeApart (table : Table) : Prop where
  root : FurtherInRange rootKeys table
  output : ∀ {entries}, table.get? "output" = some (.table entries) →
    FurtherInRange outputKeys entries
  sections : ∀ {entries}, table.get? "sections" = some (.table entries) →
    FurtherInRange sectionKeys entries

/-- In a table without a numeral out of range no value holds one. -/
theorem beyond?_of_mem {entries : List (String × Value)}
    (hentries : (Value.table entries).beyond? = none) :
    ∀ entry ∈ entries, entry.2.beyond? = none := by
  rw [Value.beyond?] at hentries
  induction entries with
  | nil => simp
  | cons entry entries ih =>
    rw [Value.beyondEntries?, Option.or_eq_none_iff] at hentries
    obtain ⟨hfirst, hrest⟩ := hentries
    exact List.forall_mem_cons.mpr ⟨hfirst, ih hrest⟩

/-- A document without a numeral out of range is one without any under further keys. -/
theorem inRangeApart_of_beyond? {table : Table} (htable : (Value.table table).beyond? = none) :
    InRangeApart table := by
  have hinner : ∀ {key entries}, table.get? key = some (.table entries) →
      (Value.table entries).beyond? = none := by
    intro key entries hget
    obtain ⟨before, after, rfl, -⟩ := List.lookup_eq_some_iff.mp hget
    exact beyond?_of_mem htable (key, .table entries) (by simp)
  exact ⟨fun entry hentry _ => beyond?_of_mem htable entry hentry,
    fun hget entry hentry _ => beyond?_of_mem (hinner hget) entry hentry,
    fun hget entry hentry _ => beyond?_of_mem (hinner hget) entry hentry⟩

/-- Values that agree on some keys are read alike by a reader of these keys. -/
theorem AgreeOn.mapM_eq {α : Type} {reader : Value → Except Mismatch α} {keys : List String}
    (hreader : ∀ {entries others : List (String × Value)}, Ascending entries → Ascending others →
      FurtherInRange keys entries → FurtherInRange keys others →
        (∀ key ∈ keys, entries.lookup key = others.lookup key) →
          reader (.table entries) = reader (.table others))
    {value other : Option Value} (hagree : AgreeOn keys value other)
    (hvalue : ∀ entries, value = some (.table entries) →
      Ascending entries ∧ FurtherInRange keys entries)
    (hother : ∀ entries, other = some (.table entries) →
      Ascending entries ∧ FurtherInRange keys entries) :
    value.mapM reader = other.mapM reader := by
  cases hagree with
  | same => rfl
  | @tables entries others hkeys =>
    obtain ⟨hentries, hfurther⟩ := hvalue entries rfl
    obtain ⟨hothers, hfurther'⟩ := hother others rfl
    rw [Option.mapM_some, Option.mapM_some,
      hreader hentries hothers hfurther hfurther' hkeys]

/-- The values in a document are in order. -/
theorem ascending_of_get? {table : Table} (hordered : (Value.table table).Ordered) {key : String}
    {entries : List (String × Value)} (hentries : table.get? key = some (.table entries)) :
    Ascending entries := by
  cases hordered with
  | plain _ htable => exact absurd rfl (htable table)
  | table hkeys hvalues =>
    have hmem := (lookup_eq_some_iff_mem hkeys).mp hentries
    exact (hvalues _ hmem).ascending

/-- Documents in order that agree on the known keys hold the same settings. -/
theorem ofTable_eq_of_agree {table other : Table} (htable : (Value.table table).Ordered)
    (hother : (Value.table other).Ordered) (hagree : Agree table other)
    (hfurther : InRangeApart table) (hfurther' : InRangeApart other) :
    ofTable table = ofTable other := by
  have houtput : (table.get? "output").mapM readOutput = (other.get? "output").mapM readOutput := by
    refine hagree.output.mapM_eq ?_
      (fun entries hentries => ⟨ascending_of_get? htable hentries, hfurther.output hentries⟩)
      (fun entries hentries => ⟨ascending_of_get? hother hentries, hfurther'.output hentries⟩)
    intro entries others hentries hothers hrange hrange' hkeys
    rw [readOutput_table hentries hrange, readOutput_table hothers hrange',
      hkeys "color" (by decide), hkeys "indent" (by decide), hkeys "indent_width" (by decide)]
  have hsections : (table.get? "sections").mapM readSectionTable =
      (other.get? "sections").mapM readSectionTable := by
    refine hagree.sections.mapM_eq ?_
      (fun entries hentries => ⟨ascending_of_get? htable hentries, hfurther.sections hentries⟩)
      (fun entries hentries => ⟨ascending_of_get? hother hentries, hfurther'.sections hentries⟩)
    intro entries others hentries hothers hrange hrange' hkeys
    rw [readSectionTable_table hentries hrange, readSectionTable_table hothers hrange',
      hkeys "kinds" (by decide)]
  rw [ofTable_eq htable.ascending hfurther.root, ofTable_eq hother.ascending hfurther'.root]
  unfold Table.get? at houtput hsections
  rw [houtput, hsections]

/-- Two documents that agree on the known keys are both accepted, and then hold the same settings,
or are both refused, and then for the same cause; however their keys and tables are ordered,
whatever stands between them, and whatever further keys they have, as long as no numeral
under these is out of range. -/
theorem read_eq_of_agree {text text' : String} {table table' : Table}
    (htable : Table.parse? text = some table) (htable' : Table.parse? text' = some table')
    (hagree : Agree table table') (hfurther : InRangeApart table)
    (hfurther' : InRangeApart table') : read text = read text' := by
  have hsettings := ofTable_eq_of_agree (Table.ordered_of_parse? htable)
    (Table.ordered_of_parse? htable') hagree hfurther hfurther'
  have hparse : parse text = parse text' := by
    rw [parse, parse, htable, htable']
    dsimp only
    rw [hsettings]
  rw [read, read, hparse]

/-- The same settings with a comment and a further key in one table, and with the tables in the
other order, a further table and literal strings. -/
theorem read_eq_of_agree_cases :
    read "[sections]\nkinds = [\"accessor\"]\n\n[output] # c\nx = 1\nindent = \"tab\"" =
        read "[output]\nindent = 'tab'\n[more]\n[sections]\nk = [true]\nkinds = ['accessor']\n" ∧
      read "[output]\nindent = 'tab'\n[more]\n[sections]\nk = [true]\nkinds = ['accessor']\n" =
        .ok ⟨some { indent := some .tab }, some { kinds := some [.accessor] }⟩ := by
  have htable : Table.parse?
      "[sections]\nkinds = [\"accessor\"]\n\n[output] # c\nx = 1\nindent = \"tab\"" =
        some [("output", .table [("indent", .string "tab"), ("x", .integer 1)]),
          ("sections", .table [("kinds", .array [.string "accessor"])])] := by decide +kernel
  have htable' : Table.parse?
      "[output]\nindent = 'tab'\n[more]\n[sections]\nk = [true]\nkinds = ['accessor']\n" =
        some [("more", .table []), ("output", .table [("indent", .string "tab")]),
          ("sections", .table [("k", .array [.boolean true]),
            ("kinds", .array [.string "accessor"])])] := by decide +kernel
  have hagree : AgreeOn outputKeys (some (.table [("indent", .string "tab"), ("x", .integer 1)]))
      (some (.table [("indent", .string "tab")])) := by
    refine .tables ?_
    intro key hkey
    simp only [outputKeys, List.mem_cons, List.not_mem_nil, or_false] at hkey
    rcases hkey with rfl | rfl | rfl <;> rfl
  have hagree' : AgreeOn sectionKeys (some (.table [("kinds", .array [.string "accessor"])]))
      (some (.table [("k", .array [.boolean true]), ("kinds", .array [.string "accessor"])])) :=
    .tables (List.forall_mem_singleton.mpr rfl)
  exact ⟨read_eq_of_agree htable htable' ⟨hagree, hagree'⟩ (inRangeApart_of_beyond? rfl)
    (inRangeApart_of_beyond? rfl), by decide +kernel⟩

/-- A further key with a floating-point number that no double holds is a fault, although the
document agrees with an empty one on the known keys and holds no integer. -/
theorem read_of_float_beyond :
    Table.parse? "" = some [] ∧ Table.parse? "x = 1e999\n" = some [("x", .beyond .float)] ∧
      Agree [] [("x", .beyond .float)] ∧ read "" = .ok {} ∧
      read "x = 1e999\n" = .error (.document (.mismatch (.overflow .float))) := by
  have hword : word? ['1', 'e', '9', '9', '9'] = some (.beyond .float) := by
    have hread : word? ['1', 'e', '9', '9', '9'] = some (.ofFloat (1.0 / 0.0)) := rfl
    have hinfinite : (1.0 / 0.0 : Float).isInf = true := by decide +kernel
    rw [hread, Value.ofFloat, if_pos hinfinite]
  have hvalue : Writes "1e999".toList (.beyond .float) :=
    writes_word (by decide) (List.all_eq_true.mp (by decide)) hword
  have hline := (states_entry (by decide : IsName "x") hvalue).spells
  have hdraft : [Statement.entry ["x"] (.beyond .float)].foldlM Draft.add? {} =
      some ⟨[("x", .value (.beyond .float))], []⟩ := rfl
  exact ⟨rfl, parse?_of_spells (by decide) hline hdraft, ⟨.same none, .same none⟩,
    by decide +kernel, by decide +kernel⟩

end Settings

end ArityLadder
