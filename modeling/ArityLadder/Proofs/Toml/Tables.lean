import ArityLadder.Toml.Document

/-!
# Order of keys

The tables that a document holds, at every depth, have their keys in ascending order and
each key once, in whatever order the document writes them.  The statements of a document
keep this order in the tree that they build, and so do the entries between braces.

Main results:

- Theorem `Toml.Node.OrderedEntries.insert`: an entry is put in its place.
- Theorem `Toml.Node.keeps_change?` and `Toml.Node.keeps_assign?`: what the statements of a
  document change stays in order.
- Theorem `Toml.ordered_of_valueUpTo?`: every value that is read is in order.
- Theorem `Toml.Draft.ordered_foldlM`: a list of statements builds a tree in order.
- Theorem `Toml.Table.ordered_of_parse?`: the table of a document is in order.
-/

namespace ArityLadder

namespace Toml

/-! ## Ascending keys -/

/-- Entries whose keys ascend, so that no key stands there twice. -/
def Ascending {α : Type} (entries : List (String × α)) : Prop :=
  (entries.map Prod.fst).Pairwise (· < ·)

/-- Of two keys that differ the first one is smaller, or else the second one. -/
theorem lt_of_not_lt_of_ne {key other : String} (hlt : ¬key < other) (hne : key ≠ other) :
    other < key := by
  rw [← String.not_le]
  intro hle
  exact hne (String.le_antisymm hle (String.not_lt.mp hlt))

/-- An entry in front of ascending ones ascends with them where its key is below theirs. -/
theorem ascending_cons {α : Type} {entry : String × α} {entries : List (String × α)} :
    Ascending (entry :: entries) ↔
      (∀ other ∈ entries, entry.1 < other.1) ∧ Ascending entries := by
  simp [Ascending]

/-- A value is in order when the keys of all tables in it ascend. -/
inductive Value.Ordered : Value → Prop where
  /-- A value that holds no others. -/
  | plain {value : Value} (harray : ∀ items, value ≠ .array items)
      (htable : ∀ entries, value ≠ .table entries) : Ordered value
  | array {items : List Value} (hitems : ∀ item ∈ items, Ordered item) : Ordered (.array items)
  | table {entries : List (String × Value)} (hkeys : Ascending entries)
      (hvalues : ∀ entry ∈ entries, Ordered entry.2) : Ordered (.table entries)

/-- The keys of a table in order ascend. -/
theorem Value.Ordered.ascending {entries : List (String × Value)}
    (hordered : Ordered (.table entries)) : Ascending entries := by
  cases hordered with
  | plain _ htable => exact absurd rfl (htable entries)
  | table hkeys _ => exact hkeys

namespace Node

/-- A node is in order when the keys of all tables in it ascend. -/
inductive Ordered : Node → Prop where
  | value {leaf : Value} (hleaf : leaf.Ordered) : Ordered (value leaf)
  | table (origin : Origin) {entries : Entries} (hkeys : Ascending entries)
      (hnodes : ∀ entry ∈ entries, Ordered entry.2) : Ordered (table origin entries)
  | tables {elements : List Entries} (hkeys : ∀ entries ∈ elements, Ascending entries)
      (hnodes : ∀ entries ∈ elements, ∀ entry ∈ entries, Ordered entry.2) :
      Ordered (tables elements)

/-- Entries in order: their keys ascend, and their nodes are in order. -/
structure OrderedEntries (entries : Entries) : Prop where
  keys : Ascending entries
  nodes : ∀ entry ∈ entries, Ordered entry.2

/-- No entries are in order. -/
theorem orderedEntries_nil : OrderedEntries [] := ⟨List.Pairwise.nil, by simp⟩

/-! ## Entries by key -/

/-- What stands among the entries behind an insertion is the new entry or an old one. -/
theorem mem_insert {key : String} {node : Node} {entries : Entries} {entry : String × Node}
    (hentry : entry ∈ insert key node entries) : entry = (key, node) ∨ entry ∈ entries := by
  induction entries with
  | nil => exact .inl (List.mem_singleton.mp hentry)
  | cons first rest ih =>
    obtain ⟨k, n⟩ := first
    unfold insert at hentry
    split at hentry
    · exact List.mem_cons.mp hentry
    split at hentry
    · rcases List.mem_cons.mp hentry with hnew | hold
      · exact .inl hnew
      · exact .inr (List.mem_cons_of_mem _ hold)
    · rcases List.mem_cons.mp hentry with hfirst | hlater
      · exact .inr (hfirst ▸ List.mem_cons_self)
      · exact (ih hlater).imp_right (List.mem_cons_of_mem _)

/-- Ascending keys ascend behind an insertion. -/
theorem ascending_insert {entries : Entries} (hkeys : Ascending entries) (key : String)
    (node : Node) : Ascending (insert key node entries) := by
  induction entries with
  | nil => exact List.pairwise_singleton _ _
  | cons first rest ih =>
    obtain ⟨k, n⟩ := first
    obtain ⟨hfirst, hrest⟩ := ascending_cons.mp hkeys
    unfold insert
    split
    next hbefore =>
      refine ascending_cons.mpr ⟨?_, hkeys⟩
      intro other hother
      rcases List.mem_cons.mp hother with rfl | hother
      · exact hbefore
      · exact String.lt_trans hbefore (hfirst other hother)
    next hbefore =>
      split
      next hsame => exact ascending_cons.mpr ⟨fun other hother => hsame ▸ hfirst other hother, hrest⟩
      next hother =>
        refine ascending_cons.mpr ⟨?_, ih hrest⟩
        intro other hmem
        rcases mem_insert hmem with rfl | hmem
        · exact lt_of_not_lt_of_ne hbefore hother
        · exact hfirst other hmem

namespace OrderedEntries

variable {entries : Entries} (hentries : OrderedEntries entries)
include hentries

/-- A node in order is put in its place. -/
theorem insert {node : Node} (hnode : node.Ordered) (key : String) :
    OrderedEntries (insert key node entries) where
  keys := ascending_insert hentries.keys key node
  nodes := by
    intro entry hentry
    rcases mem_insert hentry with rfl | hentry
    · exact hnode
    · exact hentries.nodes entry hentry

/-- A node that is found is in order. -/
theorem of_lookup {key : String} {node : Node} (hnode : entries.lookup key = some node) :
    node.Ordered := by
  obtain ⟨front, back, hsplit, -⟩ := List.lookup_eq_some_iff.mp hnode
  exact hentries.nodes (key, node) (by simp [hsplit])

/-- Entries in order make up a table in order. -/
theorem table (origin : Origin) : Ordered (.table origin entries) :=
  .table origin hentries.keys hentries.nodes

/-- Entries in order make up an element of an array. -/
theorem cons {earlier : List Entries} (hearlier : Ordered (.tables earlier)) :
    Ordered (.tables (entries :: earlier)) := by
  cases hearlier with
  | tables hkeys hnodes =>
    exact .tables (List.forall_mem_cons.mpr ⟨hentries.keys, hkeys⟩)
      (List.forall_mem_cons.mpr ⟨hentries.nodes, hnodes⟩)

end OrderedEntries

/-- The entries of a table in order are in order. -/
theorem Ordered.entries {origin : Origin} {entries : Entries}
    (hordered : Ordered (.table origin entries)) : OrderedEntries entries := by
  cases hordered with
  | table _ hkeys hnodes => exact ⟨hkeys, hnodes⟩

/-- Each element of an array in order is in order, and so are the others. -/
theorem Ordered.latest {latest : Entries} {earlier : List Entries}
    (hordered : Ordered (.tables (latest :: earlier))) :
    OrderedEntries latest ∧ Ordered (.tables earlier) := by
  cases hordered with
  | tables hkeys hnodes =>
    obtain ⟨hkey, hkeys⟩ := List.forall_mem_cons.mp hkeys
    obtain ⟨hnode, hnodes⟩ := List.forall_mem_cons.mp hnodes
    exact ⟨⟨hkey, hnode⟩, .tables hkeys hnodes⟩

/-! ## Changes -/

/-- A change keeps the order of entries. -/
def Keeps (action : Entries → Option Entries) : Prop :=
  ∀ {entries result : Entries}, OrderedEntries entries → action entries = some result →
    OrderedEntries result

/-- A change that keeps the order keeps it behind the path of a header. -/
theorem keeps_change? {action : Entries → Option Entries} (haction : Keeps action)
    (path : List String) : Keeps (change? action path) := by
  induction path with
  | nil =>
    intro entries result hentries hresult
    exact haction hentries hresult
  | cons key path ih =>
    intro entries result hentries hresult
    unfold change? at hresult
    split at hresult
    · obtain ⟨inner, hinner, rfl⟩ := Option.map_eq_some_iff.mp hresult
      exact hentries.insert ((ih orderedEntries_nil hinner).table .passed) key
    next origin inner hfound =>
      obtain ⟨changed, hchanged, rfl⟩ := Option.map_eq_some_iff.mp hresult
      have hinner := (hentries.of_lookup hfound).entries
      exact hentries.insert ((ih hinner hchanged).table origin) key
    next latest earlier hfound =>
      obtain ⟨changed, hchanged, rfl⟩ := Option.map_eq_some_iff.mp hresult
      obtain ⟨hlatest, hearlier⟩ := (hentries.of_lookup hfound).latest
      exact hentries.insert ((ih hlatest hchanged).cons hearlier) key
    · cases hresult

/-- The definition of a table keeps the order. -/
theorem keeps_define? (key : String) : Keeps (define? key) := by
  intro entries result hentries hresult
  unfold define? at hresult
  split at hresult
  · cases hresult
    exact hentries.insert (orderedEntries_nil.table .header) key
  next inner hfound =>
    cases hresult
    exact hentries.insert ((hentries.of_lookup hfound).entries.table .header) key
  · cases hresult

/-- A further table of an array keeps the order. -/
theorem keeps_extend? (key : String) : Keeps (extend? key) := by
  intro entries result hentries hresult
  unfold extend? at hresult
  split at hresult
  · cases hresult
    exact hentries.insert (orderedEntries_nil.cons (.tables (by simp) (by simp))) key
  next elements hfound =>
    cases hresult
    exact hentries.insert (orderedEntries_nil.cons (hentries.of_lookup hfound)) key
  · cases hresult

/-- A value in order under a path keeps the order. -/
theorem keeps_assign? {leaf : Value} (hleaf : leaf.Ordered) (path : List String) :
    Keeps (assign? leaf path) := by
  induction path with
  | nil =>
    intro entries result hentries hresult
    cases hresult
  | cons key path ih =>
    intro entries result hentries hresult
    cases path with
    | nil =>
      unfold assign? at hresult
      split at hresult
      · cases hresult
        exact hentries.insert (.value hleaf) key
      · cases hresult
    | cons next path =>
      unfold assign? at hresult
      split at hresult
      · obtain ⟨inner, hinner, rfl⟩ := Option.map_eq_some_iff.mp hresult
        exact hentries.insert ((ih orderedEntries_nil hinner).table .dotted) key
      next origin inner hfound =>
        split at hresult
        · obtain ⟨changed, hchanged, rfl⟩ := Option.map_eq_some_iff.mp hresult
          have hinner := (hentries.of_lookup hfound).entries
          exact hentries.insert ((ih hinner hchanged).table origin) key
        · cases hresult
      next latest earlier hfound =>
        split at hresult
        · obtain ⟨changed, hchanged, rfl⟩ := Option.map_eq_some_iff.mp hresult
          obtain ⟨hlatest, hearlier⟩ := (hentries.of_lookup hfound).latest
          exact hentries.insert ((ih hlatest hchanged).cons hearlier) key
        · cases hresult
      · cases hresult

/-! ## The values of nodes -/

/-- The values of entries are those of their nodes, under the same keys. -/
theorem entryValues_eq_map (entries : Entries) :
    entryValues entries = entries.map fun entry => (entry.1, entry.2.toValue) := by
  induction entries with
  | nil => rfl
  | cons entry rest ih => rw [entryValues, ih, List.map_cons]

/-- The values of the tables of an array are tables. -/
theorem elementValues_eq_map (elements : List Entries) :
    elementValues elements = elements.map fun entries => .table (entryValues entries) := by
  induction elements with
  | nil => rfl
  | cons entries rest ih => rw [elementValues, ih, List.map_cons]

/-- The values of entries have the same keys. -/
theorem ascending_entryValues {entries : Entries} (hkeys : Ascending entries) :
    Ascending (entryValues entries) := by
  unfold Ascending
  rw [entryValues_eq_map, List.map_map]
  exact hkeys

/-- Nodes in order make up a table in order. -/
theorem ordered_table_entryValues {entries : Entries} (hkeys : Ascending entries)
    (hvalues : ∀ entry ∈ entries, entry.2.toValue.Ordered) :
    (Value.table (entryValues entries)).Ordered := by
  refine .table (ascending_entryValues hkeys) ?_
  rw [entryValues_eq_map, List.forall_mem_map]
  exact hvalues

/-- The value of a node in order is in order. -/
theorem Ordered.toValue {node : Node} (hordered : node.Ordered) : node.toValue.Ordered := by
  induction hordered with
  | value hleaf => exact hleaf
  | table origin hkeys _ ih => exact ordered_table_entryValues hkeys ih
  | tables hkeys _ ih =>
    refine .array ?_
    intro item hitem
    rw [elementValues_eq_map, List.mem_reverse] at hitem
    obtain ⟨entries, hentries, rfl⟩ := List.mem_map.mp hitem
    exact ordered_table_entryValues (hkeys entries hentries) (ih entries hentries)

/-- The values of entries in order are in order. -/
theorem OrderedEntries.values {entries : Entries} (hentries : OrderedEntries entries) :
    (Value.table (entryValues entries)).Ordered :=
  ordered_table_entryValues hentries.keys fun entry hentry => (hentries.nodes entry hentry).toValue

/-- Entries with values in order keep the order, one after the other. -/
theorem keeps_foldlM_assign? {assignments : List (List String × Value)}
    (hvalues : ∀ assignment ∈ assignments, assignment.2.Ordered) :
    Keeps fun entries => assignments.foldlM
      (fun entries assignment => assign? assignment.2 assignment.1 entries) entries := by
  induction assignments with
  | nil =>
    intro entries result hentries hresult
    cases hresult
    exact hentries
  | cons assignment assignments ih =>
    intro entries result hentries hresult
    obtain ⟨hfirst, hrest⟩ := List.forall_mem_cons.mp hvalues
    dsimp only at hresult
    rw [List.foldlM_cons] at hresult
    obtain ⟨middle, hmiddle, hresult⟩ := Option.bind_eq_some_iff.mp hresult
    exact ih hrest (keeps_assign? hfirst _ hentries hmiddle) hresult

/-- The entries between braces make up a table in order. -/
theorem ordered_of_inlineTable? {assignments : List (List String × Value)} {value : Value}
    (hvalues : ∀ assignment ∈ assignments, assignment.2.Ordered)
    (hvalue : inlineTable? assignments = some value) : value.Ordered := by
  obtain ⟨entries, hentries, rfl⟩ := Option.map_eq_some_iff.mp hvalue
  exact (keeps_foldlM_assign? hvalues orderedEntries_nil hentries).values

end Node

/-! ## Values that are read -/

/-- What holds of every item that is read holds of all items of a list. -/
theorem forall_mem_of_items? {α : Type} {item? : List Char → Option (α × List Char)}
    {p : α → Prop} (hitem : ∀ {text item rest}, item? text = some (item, rest) → p item)
    {close : Char} {limit : Nat} {text : List Char} {items : List α} {rest : List Char}
    (hitems : itemsUpTo? item? close limit text = some (items, rest)) : ∀ item ∈ items, p item := by
  induction limit generalizing text items rest with
  | zero => cases hitems
  | succ limit ih =>
    unfold itemsUpTo? at hitems
    split at hitems
    · cases hitems
    split at hitems
    · cases hitems
      simp
    obtain ⟨⟨item, behind⟩, hfirst, hitems⟩ := Option.bind_eq_some_iff.mp hitems
    dsimp only at hitems
    split at hitems
    · cases hitems
    split at hitems
    · cases hitems
      simpa using hitem hfirst
    split at hitems
    · obtain ⟨⟨more, last⟩, hmore, hitems⟩ := Option.bind_eq_some_iff.mp hitems
      cases hitems
      exact List.forall_mem_cons.mpr ⟨hitem hfirst, ih hmore⟩
    · cases hitems

/-- An entry between braces has a value in order where values are read in order. -/
theorem ordered_of_assignment? {value? : List Char → Option (Value × List Char)}
    (hvalue : ∀ {text value rest}, value? text = some (value, rest) → value.Ordered)
    {text : List Char} {assignment : List String × Value} {rest : List Char}
    (hassignment : assignment? value? text = some (assignment, rest)) : assignment.2.Ordered := by
  unfold assignment? at hassignment
  obtain ⟨⟨path, behind⟩, -, hassignment⟩ := Option.bind_eq_some_iff.mp hassignment
  dsimp only at hassignment
  split at hassignment
  · obtain ⟨⟨value, last⟩, hfound, hassignment⟩ := Option.bind_eq_some_iff.mp hassignment
    cases hassignment
    exact hvalue hfound
  · cases hassignment

/-- An integer is in order, whether its type can hold it or not. -/
theorem ordered_ofInt (n : Int) : (Value.ofInt n).Ordered := by
  unfold Value.ofInt
  split
  · exact .plain (by simp) (by simp)
  · exact .plain (by simp) (by simp)

/-- A floating-point number is in order, whether its type can hold it or not. -/
theorem ordered_ofFloat (x : Float) : (Value.ofFloat x).Ordered := by
  unfold Value.ofFloat
  split
  · exact .plain (by simp) (by simp)
  · exact .plain (by simp) (by simp)

/-- An integer in a base is in order. -/
theorem ordered_of_integerInBase? {base : Nat} {text : List Char} {value : Value}
    (hvalue : integerInBase? base text = some value) : value.Ordered := by
  unfold integerInBase? at hvalue
  dsimp only at hvalue
  split at hvalue
  · cases hvalue
    exact .plain (by simp) (by simp)
  split at hvalue
  · cases hvalue
    exact ordered_ofInt _
  · cases hvalue

/-- A number behind its sign is in order. -/
theorem ordered_of_signed? {negative : Bool} {text : List Char} {value : Value}
    (hvalue : signed? negative text = some value) : value.Ordered := by
  rcases Option.or_eq_some_iff.mp hvalue with hword | ⟨-, hnumber⟩
  · unfold nonFinite? at hword
    split at hword
    · cases hword
      exact .plain (by simp) (by simp)
    split at hword
    · cases hword
      exact .plain (by simp) (by simp)
    · cases hword
  unfold unsigned? at hnumber
  dsimp only at hnumber
  split at hnumber
  · cases hnumber
  split at hnumber
  · split at hnumber
    · unfold unsignedFloat? at hnumber
      dsimp only at hnumber
      split at hnumber
      · obtain ⟨x, -, rfl⟩ := Option.map_eq_some_iff.mp hnumber
        exact ordered_ofFloat _
      · cases hnumber
    · cases hnumber
  split at hnumber
  · cases hnumber
    unfold unsignedInteger
    dsimp only
    split
    · exact ordered_ofInt _
    · exact .plain (by simp) (by simp)
  · cases hnumber

/-- A number is in order. -/
theorem ordered_of_number? {text : List Char} {value : Value}
    (hvalue : number? text = some value) : value.Ordered := by
  unfold number? at hvalue
  split at hvalue
  · exact ordered_of_signed? hvalue
  · exact ordered_of_signed? hvalue
  rcases Option.or_eq_some_iff.mp hvalue with hbased | ⟨-, hsigned⟩
  · unfold basedInteger? at hbased
    split at hbased
    · exact ordered_of_integerInBase? hbased
    · exact ordered_of_integerInBase? hbased
    · exact ordered_of_integerInBase? hbased
    · cases hbased
  · exact ordered_of_signed? hsigned

/-- A word without quotes is in order. -/
theorem ordered_of_wordValue? {text : List Char} {value : Value} {rest : List Char}
    (hvalue : wordValue? text = some (value, rest)) : value.Ordered := by
  obtain ⟨word, hword, hpair⟩ := Option.map_eq_some_iff.mp hvalue
  cases hpair
  unfold word? at hword
  split at hword
  · cases hword
    exact .plain (by simp) (by simp)
  split at hword
  · cases hword
    exact .plain (by simp) (by simp)
  split at hword
  · cases hword
    exact .plain (by simp) (by simp)
  · exact ordered_of_number? hword

/-- A value that is read is a string, a word, or an array or a table whose parts are read to a depth
that is smaller by one. -/
theorem valueUpTo?_cases {depth : Nat} {text : List Char} {value : Value} {rest : List Char}
    (hvalue : valueUpTo? depth text = some (value, rest)) :
    (∃ content, value = .string content) ∨
    wordValue? text = some (value, rest) ∨
    ∃ inner limit behind, depth = inner + 1 ∧
      ((∃ items, itemsUpTo? (valueUpTo? inner) ']' limit behind = some (items, rest) ∧
        value = .array items) ∨
      ∃ entries, itemsUpTo? (assignment? (valueUpTo? inner)) '\x7d' limit behind =
          some (entries, rest) ∧
        Node.inlineTable? entries = some value) := by
  cases text with
  | nil => cases depth <;> cases hvalue
  | cons c text =>
    unfold valueUpTo? at hvalue
    dsimp only at hvalue
    split at hvalue
    · obtain ⟨⟨content, behind⟩, -, hpair⟩ := Option.map_eq_some_iff.mp hvalue
      cases hpair
      exact .inl ⟨content, rfl⟩
    split at hvalue
    · cases depth with
      | zero => cases hvalue
      | succ inner =>
        obtain ⟨⟨items, behind⟩, hitems, hpair⟩ := Option.map_eq_some_iff.mp hvalue
        cases hpair
        exact .inr (.inr ⟨inner, _, text, rfl, .inl ⟨items, hitems, rfl⟩⟩)
    split at hvalue
    · cases depth with
      | zero => cases hvalue
      | succ inner =>
        obtain ⟨⟨entries, behind⟩, hentries, hvalue⟩ := Option.bind_eq_some_iff.mp hvalue
        obtain ⟨table, htable, hpair⟩ := Option.bind_eq_some_iff.mp hvalue
        cases hpair
        exact .inr (.inr ⟨inner, _, text, rfl, .inr ⟨entries, hentries, htable⟩⟩)
    · exact .inr (.inl hvalue)

/-- Every value that is read is in order. -/
theorem ordered_of_valueUpTo? {depth : Nat} {text : List Char} {value : Value}
    {rest : List Char} (hvalue : valueUpTo? depth text = some (value, rest)) : value.Ordered := by
  induction depth generalizing text value rest with
  | zero =>
    rcases valueUpTo?_cases hvalue with ⟨content, rfl⟩ | hword | ⟨inner, _, _, hdepth, -⟩
    · exact .plain (by simp) (by simp)
    · exact ordered_of_wordValue? hword
    · cases hdepth
  | succ depth ih =>
    rcases valueUpTo?_cases hvalue with ⟨content, rfl⟩ | hword | ⟨inner, _, _, hdepth, hparts⟩
    · exact .plain (by simp) (by simp)
    · exact ordered_of_wordValue? hword
    · cases hdepth
      rcases hparts with ⟨items, hitems, rfl⟩ | ⟨entries, hentries, htable⟩
      · exact .array (forall_mem_of_items? ih hitems)
      · have hvalues := forall_mem_of_items? (ordered_of_assignment? ih) hentries
        exact Node.ordered_of_inlineTable? hvalues htable

/-! ## Documents -/

/-- A statement is in order when the value in it is. -/
def Statement.Ordered : Statement → Prop
  | .entry _ value => value.Ordered
  | .header _ | .element _ => True

/-- The statement of a line is in order. -/
theorem ordered_of_statement? {text : List Char} {statement : Statement} {rest : List Char}
    (hstatement : statement? text = some (some statement, rest)) : statement.Ordered := by
  unfold statement? at hstatement
  split at hstatement
  · cases hstatement
  · obtain ⟨⟨path, behind⟩, -, hstatement⟩ := Option.bind_eq_some_iff.mp hstatement
    dsimp only at hstatement
    split at hstatement
    · cases hstatement
      trivial
    · cases hstatement
  · obtain ⟨⟨path, behind⟩, -, hstatement⟩ := Option.bind_eq_some_iff.mp hstatement
    dsimp only at hstatement
    split at hstatement
    · cases hstatement
      trivial
    · cases hstatement
  · split at hstatement
    · cases hstatement
    obtain ⟨⟨path, behind⟩, -, hstatement⟩ := Option.bind_eq_some_iff.mp hstatement
    dsimp only at hstatement
    split at hstatement
    · obtain ⟨⟨value, last⟩, hvalue, hstatement⟩ := Option.bind_eq_some_iff.mp hstatement
      cases hstatement
      exact ordered_of_valueUpTo? hvalue
    · cases hstatement

/-- The statements of a document are in order. -/
theorem ordered_of_statementsUpTo? {limit : Nat} {text : List Char} {statements : List Statement}
    (hstatements : statementsUpTo? limit text = some statements) :
    ∀ statement ∈ statements, statement.Ordered := by
  induction limit generalizing text statements with
  | zero =>
    cases text with
    | nil =>
      cases hstatements
      simp
    | cons c text => cases hstatements
  | succ limit ih =>
    cases text with
    | nil =>
      cases hstatements
      simp
    | cons c text =>
      unfold statementsUpTo? at hstatements
      obtain ⟨⟨first, behind⟩, hfirst, hstatements⟩ := Option.bind_eq_some_iff.mp hstatements
      obtain ⟨next, -, hstatements⟩ := Option.bind_eq_some_iff.mp hstatements
      obtain ⟨more, hmore, hstatements⟩ := Option.bind_eq_some_iff.mp hstatements
      cases hstatements
      cases first with
      | none => exact ih hmore
      | some statement => exact List.forall_mem_cons.mpr ⟨ordered_of_statement? hfirst, ih hmore⟩

namespace Draft

/-- A statement in order keeps the tree of a draft in order. -/
theorem ordered_add? {draft next : Draft} {statement : Statement} (hstatement : statement.Ordered)
    (hdraft : Node.OrderedEntries draft.root) (hnext : draft.add? statement = some next) :
    Node.OrderedEntries next.root := by
  unfold add? at hnext
  cases statement with
  | header path =>
    dsimp only at hnext
    split at hnext
    · cases hnext
    · obtain ⟨root, hroot, rfl⟩ := Option.map_eq_some_iff.mp hnext
      exact Node.keeps_change? (Node.keeps_define? _) _ hdraft hroot
  | element path =>
    dsimp only at hnext
    split at hnext
    · cases hnext
    · obtain ⟨root, hroot, rfl⟩ := Option.map_eq_some_iff.mp hnext
      exact Node.keeps_change? (Node.keeps_extend? _) _ hdraft hroot
  | entry path value =>
    obtain ⟨root, hroot, rfl⟩ := Option.map_eq_some_iff.mp hnext
    exact Node.keeps_change? (Node.keeps_assign? hstatement path) _ hdraft hroot

/-- Statements in order build a tree in order. -/
theorem ordered_foldlM {draft last : Draft} {statements : List Statement}
    (hstatements : ∀ statement ∈ statements, statement.Ordered)
    (hdraft : Node.OrderedEntries draft.root)
    (hlast : statements.foldlM add? draft = some last) : Node.OrderedEntries last.root := by
  induction statements generalizing draft with
  | nil =>
    cases hlast
    exact hdraft
  | cons statement statements ih =>
    obtain ⟨hfirst, hrest⟩ := List.forall_mem_cons.mp hstatements
    rw [List.foldlM_cons] at hlast
    obtain ⟨next, hnext, hlast⟩ := Option.bind_eq_some_iff.mp hlast
    exact ih hrest (ordered_add? hfirst hdraft hnext) hlast

end Draft

/-- The table of a document is in order, at every depth. -/
theorem Table.ordered_of_parse? {text : String} {table : Table}
    (htable : Table.parse? text = some table) : (Value.table table).Ordered := by
  obtain ⟨statements, hstatements, htable⟩ := Option.bind_eq_some_iff.mp htable
  obtain ⟨draft, hdraft, htable⟩ := Option.bind_eq_some_iff.mp htable
  cases htable
  have hordered := ordered_of_statementsUpTo? hstatements
  exact (Draft.ordered_foldlM hordered Node.orderedEntries_nil hdraft).values

end Toml

end ArityLadder
