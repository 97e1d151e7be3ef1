import ArityLadder.Toml.Expression

/-!
# Documents

A TOML document is a list of statements, one on a line: headers of tables, headers
of elements of arrays, and entries.  The statements build one table, or contradict
each other.
-/

namespace ArityLadder

namespace Toml

/-! ## Statements -/

/-- A statement of a document. -/
inductive Statement where
  /-- The header of a table. -/
  | header (path : List String)
  /-- The header of a further table of an array. -/
  | element (path : List String)
  /-- A value under a path. -/
  | entry (path : List String) (value : Value)

/-- The statement at the start of a line, if there is one, and the text behind it. -/
def statement? (text : List Char) : Option (Option Statement × List Char) :=
  match text with
  | [] => some (none, [])
  | '[' :: '[' :: rest => do
    let (path, rest) ← path? (skipBlanks rest)
    let ']' :: ']' :: rest := rest | none
    return (some (.element path), rest)
  | '[' :: rest => do
    let (path, rest) ← path? (skipBlanks rest)
    let ']' :: rest := rest | none
    return (some (.header path), rest)
  | c :: _ =>
    if c = '#' ∨ c = '\n' ∨ c = '\r' then some (none, text)
    else do
      let (path, rest) ← path? text
      let '=' :: rest := rest | none
      let (value, rest) ← value? (skipBlanks rest)
      return (some (.entry path value), rest)

/-- The statements of at most `limit` lines. -/
def statementsUpTo? : Nat → List Char → Option (List Statement)
  | _, [] => some []
  | 0, _ :: _ => none
  | limit + 1, c :: text => do
    let (statement, rest) ← statement? (skipBlanks (c :: text))
    let rest ← endLine? rest
    let statements ← statementsUpTo? limit rest
    return statement.toList ++ statements

/-- The text behind a byte order mark, where it starts with one. -/
def skipMark : List Char → List Char
  | '\ufeff' :: rest => rest
  | text => text

/-- The statements of a document. -/
def statements? (text : List Char) : Option (List Statement) :=
  statementsUpTo? (skipMark text).length (skipMark text)

/-! ## The table of a document -/

/-- A document under construction. -/
structure Draft where
  /-- The table of the document. -/
  root : Entries := []
  /-- The path of the latest header. -/
  path : List String := []

/-- The draft with one statement more, unless that contradicts it. -/
def Draft.add? (draft : Draft) : Statement → Option Draft
  | .header path =>
    match path.getLast? with
    | none => none
    | some key =>
      (Node.change? (Node.define? key) path.dropLast draft.root).map fun root => ⟨root, path⟩
  | .element path =>
    match path.getLast? with
    | none => none
    | some key =>
      (Node.change? (Node.extend? key) path.dropLast draft.root).map fun root => ⟨root, path⟩
  | .entry path value =>
    (Node.change? (Node.assign? value path) draft.path draft.root).map fun root =>
      { draft with root }

/-- The table of a document, if its text is well formed. -/
def Table.parse? (text : String) : Option Table := do
  let statements ← statements? text.toList
  let draft ← statements.foldlM Draft.add? {}
  return Node.entryValues draft.root

end Toml

end ArityLadder
