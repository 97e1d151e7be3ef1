import ArityLadder.CommandLine
import ArityLadder.Text.Quoted

/-!
# Descriptions for the log

A command line and a rejection as the log shows them: every field by its name, and
texts between quotes.
-/

namespace ArityLadder

/-! ## Parts -/

/-- An optional value. -/
def describeOption {α : Type} (describe : α → String) : Option α → String
  | none => "None"
  | some a => "Some(" ++ describe a ++ ")"

/-- Named fields between braces. -/
def describeFields (name : String) (fields : List (String × String)) : String :=
  name ++ " \x7b " ++ ", ".intercalate (fields.map fun (field, value) => field ++ ": " ++ value) ++
    " \x7d"

/-- A section. -/
def Section.describe : Section → String
  | accessor => "Accessor"
  | extractor => "Extractor"
  | deserializer => "Deserializer"

/-- A style of indentation. -/
def IndentStyle.describe : IndentStyle → String
  | tab => "Tab"
  | spaces => "Spaces"

/-! ## Whole values -/

/-- A command line. -/
def CommandLine.describe (line : CommandLine) : String :=
  describeFields "CliConfig" [
    ("field_count", toString line.fieldCount.toInt),
    ("from", describeOption (fun n : Int64 => toString n.toInt) line.start),
    ("only", "[" ++ ", ".intercalate (line.only.map Section.describe) ++ "]"),
    ("indent", describeOption IndentStyle.describe line.indent),
    ("indent_width", describeOption (fun n : UInt64 => toString n.toNat) line.indentWidth),
    ("no_color", toString line.noColor),
    ("config", describeOption Text.quoted line.config),
    ("verbose", toString line.verbose)]

/-- A rejection. -/
def Rejection.describe : Rejection → String
  | arity value => describeFields "InvalidArity" [("value", toString value)]
  | range first last =>
    describeFields "InvalidRange" [("from", toString first), ("to", toString last)]
  | setting fault => describeFields "ConfigError" [("message", Text.quoted fault.message)]
  | document .malformed => "TomlError"
  | document (.mismatch cause) => "TomlError(" ++ Text.quoted cause.message ++ ")"
  | output reason => "IoError(" ++ Text.quoted reason ++ ")"

end ArityLadder
