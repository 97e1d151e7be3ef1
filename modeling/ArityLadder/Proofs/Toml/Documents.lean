import ArityLadder.Proofs.Toml.Expressions
import ArityLadder.Toml.Document

/-!
# Reading written documents

A document that is written line by line, and the table that it builds.  A line
holds a header, an entry or nothing, and a table is a header with the entries that
follow it.

Main results:

- Theorem `Toml.statementsUpTo?_of_spells`: lines that spell statements are read as
  the statements, in their order.
- Theorem `Toml.Draft.foldlM_add?_table`: a header and entries with keys of their own
  add one table to a draft.
- Theorem `Toml.parse?_of_spells`: the table of a document is that of its statements.
-/

namespace ArityLadder

namespace Toml

/-! ## Single lines -/

/-- A line states a statement, or nothing, when it is read as such up to its end. -/
def States (line : String) (statement : Option Statement) : Prop :=
  ∀ rest, statement? (skipBlanks (line.toList ++ '\n' :: rest)) = some (statement, '\n' :: rest)

/-- A name is read as a key where it does not go on. -/
theorem key?_of_name {name : String} (hname : IsName name) {c : Char} (hc : isBare c = false)
    (rest : List Char) : key? (name.toList ++ c :: rest) = some (name, c :: rest) := by
  have htake : (name.toList ++ c :: rest).takeWhile isBare = name.toList := by
    rw [List.takeWhile_append_of_pos hname.2]
    simp [hc]
  have hdrop : (name.toList ++ c :: rest).dropWhile isBare = c :: rest := by
    rw [List.dropWhile_append_of_pos hname.2]
    simp [hc]
  cases hchars : name.toList with
  | nil => exact absurd hchars hname.1
  | cons d chars =>
    have hd : isBare d = true := hname.2 d (by simp [hchars])
    have hdouble : d ≠ '"' := ne_of_isBare hd (by decide)
    have hsingle : d ≠ '\'' := ne_of_isBare hd (by decide)
    rw [hchars] at htake hdrop
    unfold key?
    split
    · simp_all
    · simp_all
    · rw [htake, hdrop]
      simp [← hchars]

/-- A key is a path of its own where no point follows it. -/
theorem path?_of_key? {text rest : List Char} {key : String} (hkey : key? text = some (key, rest))
    (hrest : (skipBlanks rest).head? ≠ some '.') :
    path? text = some ([key], skipBlanks rest) := by
  change pathUpTo? (79 + 1) text = _
  rw [pathUpTo?, hkey]
  simp only [Option.bind_eq_bind, Option.bind_some]
  split
  · next heq => simp [heq] at hrest
  · rfl

/-- Without a key there is no path. -/
theorem path?_of_key?_eq_none {text : List Char} (hkey : key? text = none) : path? text = none := by
  change pathUpTo? (79 + 1) text = none
  rw [pathUpTo?, hkey]
  rfl

/-- An empty line states nothing. -/
theorem states_empty : States "" none := by
  intro rest
  simp [statement?, skipBlanks, isBlank]

/-- A name between brackets states the header of a table. -/
theorem states_header {name : String} (hname : IsName name) :
    States ("[" ++ name ++ "]") (some (.header [name])) := by
  intro rest
  have hclose : skipBlanks (']' :: '\n' :: rest) = ']' :: '\n' :: rest :=
    skipBlanks_of_not_blank (by decide)
  have hopen : isBlank '[' = false := by decide
  have hkey := key?_of_name hname (show isBare ']' = false by decide) ('\n' :: rest)
  have hpath := path?_of_key? hkey (by simp [hclose])
  cases hchars : name.toList with
  | nil => exact absurd hchars hname.1
  | cons d chars =>
    have hd : isBare d = true := hname.2 d (by simp [hchars])
    have hbracket : d ≠ '[' := ne_of_isBare hd (by decide)
    rw [hchars, List.cons_append, hclose] at hpath
    simp [hchars, skipBlanks_of_not_blank hopen, skipBlanks_of_not_blank (isBlank_of_isBare hd),
      statement?, hbracket, hpath]

/-- A name, an equals sign and a text that writes a value state an entry. -/
theorem states_entry {key text : String} {value : Value} (hkey : IsName key)
    (htext : Writes text.toList value) :
    States (key ++ " = " ++ text) (some (.entry [key] value)) := by
  intro rest
  have hbehind : skipBlanks (' ' :: '=' :: ' ' :: (text.toList ++ '\n' :: rest)) =
      '=' :: ' ' :: (text.toList ++ '\n' :: rest) := by
    simp [skipBlanks, isBlank]
  have hname := key?_of_name hkey (show isBare ' ' = false by decide)
    ('=' :: ' ' :: (text.toList ++ '\n' :: rest))
  have hpath := path?_of_key? hname (by simp [hbehind])
  have hvalue : value? (skipBlanks (' ' :: (text.toList ++ '\n' :: rest))) =
      some (value, '\n' :: rest) := by
    rw [← htext rest]
    simp [skipBlanks, isBlank]
  rw [hbehind] at hpath
  cases hchars : key.toList with
  | nil => exact absurd hchars hkey.1
  | cons d chars =>
    have hd : isBare d = true := hkey.2 d (by simp [hchars])
    have hbracket : d ≠ '[' := ne_of_isBare hd (by decide)
    have hhash : d ≠ '#' := ne_of_isBare hd (by decide)
    have hfeed : d ≠ '\n' := ne_of_isBare hd (by decide)
    have hreturn : d ≠ '\r' := ne_of_isBare hd (by decide)
    rw [hchars, List.cons_append] at hpath
    simp [hchars, skipBlanks_of_not_blank (isBlank_of_isBare hd), statement?, hbracket, hhash,
      hfeed, hreturn, hpath, hvalue]

/-! ## All lines of a document -/

/-- Lines spell the statements that they state, in the same order. -/
inductive Spells : List String → List Statement → Prop
  | nil : Spells [] []
  | cons {line : String} {statement : Option Statement} {lines : List String}
      {statements : List Statement} (hline : States line statement)
      (hlines : Spells lines statements) :
      Spells (line :: lines) (statement.toList ++ statements)

/-- Lines behind others spell their statements behind those of the others. -/
theorem Spells.append {lines lines' : List String} {statements statements' : List Statement}
    (h : Spells lines statements) (h' : Spells lines' statements') :
    Spells (lines ++ lines') (statements ++ statements') := by
  induction h with
  | nil => exact h'
  | cons hline _ ih =>
    rw [List.cons_append, List.append_assoc]
    exact Spells.cons hline ih

/-- A line that states a statement spells it. -/
theorem States.spells {line : String} {statement : Option Statement}
    (h : States line statement) : Spells [line] statement.toList := by
  have hspells := Spells.cons h Spells.nil
  rwa [List.append_nil] at hspells

/-- The characters of a document that is written line by line. -/
def textOf (lines : List String) : List Char := lines.flatMap fun line => line.toList ++ ['\n']

/-- The characters of the first line stand before those of the others. -/
theorem textOf_cons (line : String) (lines : List String) :
    textOf (line :: lines) = line.toList ++ '\n' :: textOf lines := by
  simp [textOf]

/-- A line is read as the statement that it states, and the other lines behind it. -/
theorem statementsUpTo?_of_states {line : String} {statement : Option Statement}
    (h : States line statement) (limit : Nat) (rest : List Char) :
    statementsUpTo? (limit + 1) (line.toList ++ '\n' :: rest) =
      (statementsUpTo? limit rest).map (statement.toList ++ ·) := by
  have hread := h rest
  have hend : endLine? ('\n' :: rest) = some rest := by
    simp [endLine?, skipBlanks, isBlank, skipComment]
  cases htext : line.toList ++ '\n' :: rest with
  | nil => simp at htext
  | cons c text =>
    rw [htext] at hread
    cases hrest : statementsUpTo? limit rest <;> simp [statementsUpTo?, hread, hend, hrest]

/-- Lines that spell statements are read as the statements. -/
theorem statementsUpTo?_of_spells {lines : List String} {statements : List Statement}
    (h : Spells lines statements) {limit : Nat} (hlimit : lines.length ≤ limit) :
    statementsUpTo? limit (textOf lines) = some statements := by
  induction h generalizing limit with
  | nil => cases limit <;> rfl
  | @cons line statement lines statements hline hlines ih =>
    have hpos : 0 < limit := Nat.lt_of_lt_of_le (Nat.zero_lt_succ _) hlimit
    obtain ⟨limit, rfl⟩ := Nat.exists_eq_add_one.mpr hpos
    have hrest := ih (Nat.le_of_succ_le_succ hlimit)
    rw [textOf_cons, statementsUpTo?_of_states hline, hrest]
    rfl

/-- The text of a document has at least as many characters as lines. -/
theorem length_le_length_textOf (lines : List String) : lines.length ≤ (textOf lines).length := by
  induction lines with
  | nil => exact Nat.zero_le _
  | cons line lines ih =>
    rw [textOf_cons]
    simp only [List.length_cons, List.length_append]
    omega

/-- No line that states something starts with a byte order mark. -/
theorem States.not_mark {line : String} {statement : Option Statement} (h : States line statement)
    {chars : List Char} : line.toList ≠ '\ufeff' :: chars := by
  intro hchars
  have hread := h []
  have hblank : isBlank '\ufeff' = false := by decide
  have hbare : isBare '\ufeff' = false := by decide
  have hkey : key? ('\ufeff' :: (chars ++ ['\n'])) = none := by simp [key?, hbare]
  rw [hchars, List.cons_append, skipBlanks_of_not_blank hblank] at hread
  simp [statement?, path?_of_key?_eq_none hkey] at hread

/-- A document that spells statements starts with its first line. -/
theorem skipMark_of_spells {lines : List String} {statements : List Statement}
    (h : Spells lines statements) : skipMark (textOf lines) = textOf lines := by
  cases h with
  | nil => rfl
  | @cons line _ lines _ hline _ =>
    rw [textOf_cons]
    unfold skipMark
    split
    · next rest heq =>
      cases hchars : line.toList with
      | nil => simp [hchars] at heq
      | cons c chars =>
        rw [hchars, List.cons_append] at heq
        injection heq with hmark
        exact absurd (hmark ▸ hchars) hline.not_mark
    · rfl

/-- A document that spells statements consists of the statements. -/
theorem statements?_of_spells {lines : List String} {statements : List Statement}
    (h : Spells lines statements) : statements? (textOf lines) = some statements := by
  rw [statements?, skipMark_of_spells h]
  exact statementsUpTo?_of_spells h (length_le_length_textOf lines)

/-! ## The table of a document -/

namespace Node

/-- An inserted node leaves what stands under the other keys. -/
theorem lookup_insert_of_ne {key other : String} (hne : other ≠ key) (node : Node)
    (entries : Entries) : (insert key node entries).lookup other = entries.lookup other := by
  have hkey : (other == key) = false := by simpa using hne
  induction entries with
  | nil => simp [insert, List.lookup_cons, hkey]
  | cons entry rest ih =>
    obtain ⟨k, n⟩ := entry
    unfold insert
    split
    · rw [List.lookup_cons, hkey]
    · split
      · next heq =>
        subst heq
        rw [List.lookup_cons, List.lookup_cons, hkey]
      · rw [List.lookup_cons, List.lookup_cons, ih]

/-- Of two nodes inserted under one key the second one stays. -/
theorem insert_insert (key : String) (first second : Node) (entries : Entries) :
    insert key second (insert key first entries) = insert key second entries := by
  induction entries with
  | nil => simp [insert]
  | cons entry rest ih =>
    obtain ⟨k, n⟩ := entry
    by_cases hbefore : key < k
    · simp [insert, hbefore]
    · by_cases hsame : key = k
      · subst hsame
        have hirrefl : ¬key < key := String.lt_irrefl key
        simp only [insert, hirrefl, reduceIte]
      · simp [insert, hbefore, hsame, ih]

/-- A table with values inserted in turn. -/
def insertAll (entries : Entries) (values : List (String × Value)) : Entries :=
  values.foldl (fun entries (key, leaf) => insert key (value leaf) entries) entries

end Node

/-- The statements of a table: its header, and its entries in the order given. -/
def tableStatements (name : String) (values : List (String × Value)) : List Statement :=
  .header [name] :: values.map fun (key, leaf) => .entry [key] leaf

namespace Draft

open Node

/-- A header with a new name opens an empty table. -/
theorem add?_header {draft : Draft} {name : String} (hname : draft.root.lookup name = none) :
    draft.add? (.header [name]) =
      some ⟨insert name (table .header []) draft.root, [name]⟩ := by
  simp [add?, Node.change?, define?, hname]

/-- An entry with a new key goes to the table of the latest header. -/
theorem add?_entry {root inner : Entries} {name key : String} (origin : Origin) (leaf : Value)
    (hkey : inner.lookup key = none) :
    add? ⟨insert name (table origin inner) root, [name]⟩ (.entry [key] leaf) =
      some ⟨insert name (table origin (insert key (value leaf) inner)) root, [name]⟩ := by
  simp [add?, Node.change?, find_insert, assign?, hkey, insert_insert]

/-- Entries with keys of their own all go to the table of the latest header. -/
theorem foldlM_add?_entries {root inner : Entries} {name : String} (origin : Origin)
    {values : List (String × Value)} (hkeys : (values.map Prod.fst).Nodup)
    (hnew : ∀ key ∈ values.map Prod.fst, inner.lookup key = none) :
    (values.map fun (key, leaf) => Statement.entry [key] leaf).foldlM add?
        ⟨insert name (table origin inner) root, [name]⟩ =
      some ⟨insert name (table origin (insertAll inner values)) root, [name]⟩ := by
  induction values generalizing inner with
  | nil => rfl
  | cons entry values ih =>
    obtain ⟨key, leaf⟩ := entry
    rw [List.map_cons, List.nodup_cons] at hkeys
    have hnext : ∀ other ∈ values.map Prod.fst,
        (insert key (value leaf) inner).lookup other = none := by
      intro other hother
      have hne : other ≠ key := by
        rintro rfl
        exact hkeys.1 hother
      rw [lookup_insert_of_ne hne]
      exact hnew other (List.mem_cons_of_mem _ hother)
    rw [List.map_cons, List.foldlM_cons, add?_entry origin leaf (hnew key List.mem_cons_self)]
    exact ih hkeys.2 hnext

/-- A header and entries with keys of their own add one table. -/
theorem foldlM_add?_table (draft : Draft) (name : String) {values : List (String × Value)}
    (hname : draft.root.lookup name = none) (hkeys : (values.map Prod.fst).Nodup) :
    (tableStatements name values).foldlM add? draft =
      some ⟨insert name (table .header (insertAll [] values)) draft.root, [name]⟩ := by
  rw [tableStatements, List.foldlM_cons, add?_header hname]
  exact foldlM_add?_entries .header hkeys fun _ _ => rfl

end Draft

/-- The table of a document is the one that its statements build. -/
theorem parse?_of_spells {text : String} {lines : List String} {statements : List Statement}
    {draft : Draft} (htext : text.toList = textOf lines) (hlines : Spells lines statements)
    (hdraft : statements.foldlM Draft.add? {} = some draft) :
    Table.parse? text = some (Node.entryValues draft.root) := by
  simp [Table.parse?, htext, statements?_of_spells hlines, hdraft]

end Toml

end ArityLadder
