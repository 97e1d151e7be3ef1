import ArityLadder.Settings

/-!
# Writing settings

Settings as the text of a TOML document: a table for each part that is present, a
line for each key that is set, and an empty line between two tables.
-/

namespace ArityLadder

namespace Settings

/-- A text between the quotes of a TOML string; names need no escapes. -/
def quotedName (name : String) : String := "\"" ++ name ++ "\""

/-- The line of a key, where the key is set. -/
def keyLine (key : String) (value : Option String) : List String :=
  match value with
  | none => []
  | some text => [key ++ " = " ++ text]

/-- The lines of the table of the output. -/
def outputLines (output : OutputSettings) : List String :=
  "[output]" ::
    (keyLine "indent" (output.indent.map fun style => quotedName style.name) ++
      keyLine "indent_width" (output.indentWidth.map fun width => toString width.toNat) ++
      keyLine "color" (output.color.map fun color => toString color))

/-- The lines of the table of the sections. -/
def sectionLines (sections : SectionSettings) : List String :=
  "[sections]" ::
    keyLine "kinds" (sections.kinds.map fun kinds =>
      "[" ++ ", ".intercalate (kinds.map fun kind => quotedName kind.name) ++ "]")

/-- The tables of settings, each as its lines. -/
def tables (settings : Settings) : List (List String) :=
  (settings.output.map outputLines).toList ++ (settings.sections.map sectionLines).toList

/-- Settings as the text of a document. -/
def write (settings : Settings) : String :=
  "\n".intercalate (settings.tables.map fun lines => String.join (lines.map (· ++ "\n")))

end Settings

end ArityLadder
