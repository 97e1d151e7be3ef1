import ArityLadder.Toml.Value
import ArityLadder.Decimal.Shortest
import ArityLadder.Text.Quoted

/-!
# Mismatches between a document and the settings

Why a well-formed TOML document is no settings file, and how each cause is worded.
-/

namespace ArityLadder

/-- What a setting expects. -/
inductive Expectation where
  | count
  | flag
  | list
  | output
  | sections
deriving DecidableEq

namespace Expectation

/-- The name of what is expected. -/
def text : Expectation → String
  | count => "usize"
  | flag => "a boolean"
  | list => "a sequence"
  | output => "struct OutputConfig"
  | sections => "struct SectionsConfig"

/-- The number of elements with which a list may stand for what is expected. -/
def elements : Expectation → String
  | output => "3 elements"
  | _ => "1 element"

end Expectation

namespace Toml.Value

/-- The type of a value, as the fault of a choice names it. -/
def typeName : Value → String
  | string _ => "string"
  | integer _ => "integer"
  | float _ => "float"
  | beyond .integer => "integer"
  | beyond .float => "float"
  | boolean _ => "boolean"
  | moment => "datetime"
  | array _ => "array"
  | table _ => "table"

/-- A value as a mismatch names it; an integer that fits no 64-bit word is marked by its word. -/
def describe : Value → String
  | string text => "string " ++ Text.quoted text
  | integer value =>
    "integer `" ++ toString value ++ "`" ++
      (if -9223372036854775808 ≤ value ∧ value ≤ 18446744073709551615 then ""
      else if value ≤ 170141183460469231731687303715884105727 then " as i128"
      else " as u128")
  | float value => "floating point `" ++ Decimal.text ".0" value ++ "`"
  | boolean value => "boolean `" ++ toString value ++ "`"
  | array _ => "sequence"
  | beyond _ | moment | table _ => "map"

end Toml.Value

/-- Why a value is not the setting that it stands for. -/
inductive Mismatch where
  /-- A numeral is outside the range of its type. -/
  | overflow (type : Toml.NumeralType)
  /-- The value is of another type. -/
  | wrongType (found : String) (expected : Expectation)
  /-- A count is negative. -/
  | negativeCount (value : Int)
  /-- A list stands for a table and has too few elements. -/
  | tooShort (length : Nat) (expected : Expectation)
  /-- A choice is not among those that exist. -/
  | unknownChoice (text : String) (choices : List String)
  /-- A choice is neither a name nor a table. -/
  | noChoice
  /-- A table with other than one key stands for a choice. -/
  | choiceCount (several : Bool)
  /-- The value of a choice is neither a table nor an array. -/
  | choiceValue (type : String)
  /-- The table under a choice holds something. -/
  | choiceTable
  /-- The array under a choice holds something. -/
  | choiceArray
deriving DecidableEq

namespace Mismatch

/-- Names between backquotes, as a message lists the choices that exist. -/
def choiceList (choices : List String) : String :=
  match choices.map fun name => "`" ++ name ++ "`" with
  | [a, b] => a ++ " or " ++ b
  | names => "one of " ++ ", ".intercalate names

/-- The wording of a mismatch. -/
def message : Mismatch → String
  | overflow .integer => "integer number overflowed"
  | overflow .float => "floating-point number overflowed"
  | wrongType found expected => "invalid type: " ++ found ++ ", expected " ++ expected.text
  | negativeCount value => "invalid value: integer `" ++ toString value ++ "`, expected usize"
  | tooShort length expected =>
    "invalid length " ++ toString length ++ ", expected " ++ expected.text ++ " with " ++
      expected.elements
  | unknownChoice text choices =>
    "unknown variant `" ++ text ++ "`, expected " ++ choiceList choices
  | noChoice => "wanted string or table"
  | choiceCount false => "wanted exactly 1 element, found 0 elements"
  | choiceCount true => "wanted exactly 1 element, more than 1 element"
  | choiceValue type => "expected table, found " ++ type
  | choiceTable => "expected empty table"
  | choiceArray => "expected empty array"

end Mismatch

end ArityLadder
