import ArityLadder.Settings
import ArityLadder.Toml.Document

/-!
# Reading settings

Settings from the text of a TOML document.  The keys of a table are taken in
ascending order and unknown ones are skipped, but a numeral out of range under one of
these is a fault.  A table may be written as a list of its values.
-/

namespace ArityLadder

namespace Settings

open Toml (Value Table)

/-! ## Single values -/

/-- The fault of a value of the wrong type. -/
def wrongType (value : Value) (expected : Expectation) : Mismatch :=
  match value with
  | .beyond type => .overflow type
  | value => .wrongType value.describe expected

/-- Accepts what stands under the name of a choice: an empty table or an empty array. -/
def readNothing : Value → Except Mismatch Unit
  | .table [] => .ok ()
  | .array [] => .ok ()
  | .table _ => .error .choiceTable
  | .array _ => .error .choiceArray
  | value => .error (.choiceValue value.typeName)

/-- A choice by its name. -/
def readName {α : Type} (names : List String) (ofName? : String → Option α) (name : String) :
    Except Mismatch α :=
  match ofName? name with
  | some a => .ok a
  | none => .error (.unknownChoice name names)

/-- A choice: its name, or a table with the name as its only key. -/
def readChoice {α : Type} (names : List String) (ofName? : String → Option α) :
    Value → Except Mismatch α
  | .string name => readName names ofName? name
  | .table [] => .error (.choiceCount false)
  | .table [(name, value)] => do
    let a ← readName names ofName? name
    readNothing value
    return a
  | .table _ => .error (.choiceCount true)
  | _ => .error .noChoice

/-- The style of an indentation. -/
def readIndent : Value → Except Mismatch IndentStyle :=
  readChoice (IndentStyle.all.map IndentStyle.name) IndentStyle.ofName?

/-- A section. -/
def readSection : Value → Except Mismatch Section :=
  readChoice (Section.all.map Section.name) Section.ofName?

/-- A count, which fits an unsigned 64-bit word.

A negative one is named as such where it fits a signed 64-bit word. -/
def readCount : Value → Except Mismatch UInt64
  | .integer value =>
    if 0 ≤ value ∧ value ≤ 18446744073709551615 then .ok (UInt64.ofNat value.toNat)
    else if -9223372036854775808 ≤ value ∧ value < 0 then .error (.negativeCount value)
    else .error (wrongType (.integer value) .count)
  | value => .error (wrongType value .count)

/-- A truth value. -/
def readFlag : Value → Except Mismatch Bool
  | .boolean value => .ok value
  | value => .error (wrongType value .flag)

/-- A list of sections. -/
def readSections : Value → Except Mismatch (List Section)
  | .array items => items.mapM readSection
  | value => .error (wrongType value .list)

/-- Skips a value that no setting stands for. -/
def skip (value : Value) : Except Mismatch Unit :=
  match value.beyond? with
  | some type => .error (.overflow type)
  | none => .ok ()

/-! ## Tables -/

/-- Takes one entry of the table of the output. -/
def addOutput (output : OutputSettings) : String × Value → Except Mismatch OutputSettings
  | (key, value) =>
    if key = "color" then do return { output with color := some (← readFlag value) }
    else if key = "indent" then do return { output with indent := some (← readIndent value) }
    else if key = "indent_width" then do
      return { output with indentWidth := some (← readCount value) }
    else do
      skip value
      return output

/-- The settings of the output: a table, or the list of its three values.

A date or a time counts as a table without any known key. -/
def readOutput : Value → Except Mismatch OutputSettings
  | .table entries => entries.foldlM addOutput {}
  | .moment => .ok {}
  | .array items => do
    let indent :: items := items | .error (.tooShort 0 .output)
    let indent ← readIndent indent
    let width :: items := items | .error (.tooShort 1 .output)
    let width ← readCount width
    let color :: _ := items | .error (.tooShort 2 .output)
    let color ← readFlag color
    return ⟨some indent, some width, some color⟩
  | value => .error (wrongType value .output)

/-- Takes one entry of the table of the sections. -/
def addSections (sections : SectionSettings) : String × Value → Except Mismatch SectionSettings
  | (key, value) =>
    if key = "kinds" then do return { sections with kinds := some (← readSections value) }
    else do
      skip value
      return sections

/-- The settings of the sections: a table, or the list of its one value.

A date or a time counts as a table without any known key. -/
def readSectionTable : Value → Except Mismatch SectionSettings
  | .table entries => entries.foldlM addSections {}
  | .moment => .ok {}
  | .array [] => .error (.tooShort 0 .sections)
  | .array (kinds :: _) => do return ⟨some (← readSections kinds)⟩
  | value => .error (wrongType value .sections)

/-- Takes one entry of a document. -/
def addEntry (settings : Settings) : String × Value → Except Mismatch Settings
  | (key, value) =>
    if key = "output" then do return { settings with output := some (← readOutput value) }
    else if key = "sections" then do
      return { settings with sections := some (← readSectionTable value) }
    else do
      skip value
      return settings

/-- The settings of a document. -/
def ofTable (table : Table) : Except Mismatch Settings := table.foldlM addEntry {}

/-! ## Texts -/

/-- The settings of a text, within their limits or not. -/
def parse (text : String) : Except Rejection Settings :=
  match Table.parse? text with
  | none => .error (.document .malformed)
  | some table => (ofTable table).mapError fun cause => .document (.mismatch cause)

/-- The settings of a text, which must be within their limits. -/
def read (text : String) : Except Rejection Settings := do
  let settings ← parse text
  settings.validate
  return settings

end Settings

end ArityLadder
