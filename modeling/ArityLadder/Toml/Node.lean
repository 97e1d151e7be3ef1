import ArityLadder.Toml.Value

/-!
# Tables under construction

The tree that the statements of a document build.  A table remembers how it came
about, because that decides what may still be added to it: a header may define a
table that other headers only passed through, and the path of an entry may extend
only tables that such paths have made.

Main results:

- Theorem `Node.find_insert`: an inserted node is found under its key.
-/

namespace ArityLadder

namespace Toml

/-- How a table came about. -/
inductive Origin where
  /-- By a header of its own. -/
  | header
  /-- On the way to another header. -/
  | passed
  /-- On the way to an entry. -/
  | dotted
deriving DecidableEq

/-- A node of the tree. -/
inductive Node where
  /-- A value, to which nothing can be added. -/
  | value (leaf : Value)
  | table (origin : Origin) (entries : List (String × Node))
  /-- An array of tables, the latest first. -/
  | tables (elements : List (List (String × Node)))

/-- The entries of a table, ascending by key. -/
abbrev Entries := List (String × Node)

namespace Node

/-! ## Entries by key -/

/-- The entries with a node under a key, in place of the one before. -/
def insert (key : String) (node : Node) : Entries → Entries
  | [] => [(key, node)]
  | (k, n) :: rest =>
    if key < k then (key, node) :: (k, n) :: rest
    else if key = k then (key, node) :: rest
    else (k, n) :: insert key node rest

/-- An inserted node is found under its key. -/
theorem find_insert (key : String) (node : Node) (entries : Entries) :
    (insert key node entries).lookup key = some node := by
  induction entries with
  | nil => simp [insert]
  | cons entry rest ih =>
    obtain ⟨k, n⟩ := entry
    unfold insert
    split
    · simp
    · split
      · simp
      · next h =>
        have different : (key == k) = false := by simpa using h
        simp [List.lookup_cons, different, ih]

/-! ## The values that nodes stand for -/

mutual

/-- The value of a node. -/
def toValue : Node → Value
  | value leaf => leaf
  | table _ entries => .table (entryValues entries)
  | tables elements => .array (elementValues elements).reverse

/-- The values of entries. -/
def entryValues : List (String × Node) → List (String × Value)
  | [] => []
  | (key, node) :: rest => (key, node.toValue) :: entryValues rest

/-- The values of the tables of an array. -/
def elementValues : List (List (String × Node)) → List Value
  | [] => []
  | entries :: rest => .table (entryValues entries) :: elementValues rest

end

/-! ## Headers -/

/-- Changes the table that a path of a header leads to; of an array the latest table is meant. -/
def change? (action : Entries → Option Entries) : List String → Entries → Option Entries
  | [], entries => action entries
  | key :: path, entries =>
    match entries.lookup key with
    | none => (change? action path []).map fun inner => insert key (table .passed inner) entries
    | some (table origin inner) =>
      (change? action path inner).map fun inner => insert key (table origin inner) entries
    | some (tables (latest :: earlier)) =>
      (change? action path latest).map fun latest =>
        insert key (tables (latest :: earlier)) entries
    | some _ => none

/-- Defines the table of a key, which other headers may have passed through. -/
def define? (key : String) (entries : Entries) : Option Entries :=
  match entries.lookup key with
  | none => some (insert key (table .header []) entries)
  | some (table .passed inner) => some (insert key (table .header inner) entries)
  | some _ => none

/-- Adds a table to the array of a key. -/
def extend? (key : String) (entries : Entries) : Option Entries :=
  match entries.lookup key with
  | none => some (insert key (tables [[]]) entries)
  | some (tables elements) => some (insert key (tables ([] :: elements)) entries)
  | some _ => none

/-! ## Entries -/

/-- Puts a value under a path, which may extend only tables that such paths have made. -/
def assign? (leaf : Value) : List String → Entries → Option Entries
  | [], _ => none
  | [key], entries =>
    match entries.lookup key with
    | none => some (insert key (value leaf) entries)
    | some _ => none
  | key :: path, entries =>
    match entries.lookup key with
    | none => (assign? leaf path []).map fun inner => insert key (table .dotted inner) entries
    | some (table origin inner) =>
      if origin = .dotted ∨ (origin = .passed ∧ 2 ≤ path.length) then
        (assign? leaf path inner).map fun inner => insert key (table origin inner) entries
      else none
    | some (tables (latest :: earlier)) =>
      if 2 ≤ path.length then
        (assign? leaf path latest).map fun latest =>
          insert key (tables (latest :: earlier)) entries
      else none
    | some _ => none

/-- The table of a list of entries with paths, as between braces. -/
def inlineTable? (assignments : List (List String × Value)) : Option Value :=
  (assignments.foldlM (fun entries (path, leaf) => assign? leaf path entries) []).map
    fun entries => .table (entryValues entries)

end Node

end Toml

end ArityLadder
