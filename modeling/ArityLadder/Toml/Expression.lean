import ArityLadder.Toml.Key
import ArityLadder.Toml.Moment
import ArityLadder.Toml.Node
import ArityLadder.Toml.Numeral

/-!
# Expressions

The written form of a value: a string, a word without quotes, an array between
brackets or a table between braces.  Arrays and tables may hold each other to a
limited depth.
-/

namespace ArityLadder

namespace Toml

/-! ## Words -/

/-- A character of a word without quotes: all but blanks, line ends, and marks between values. -/
def isWordChar (c : Char) : Bool :=
  !(isBlank c || c == '\n' || c == '\r' || c == '#' || c == ',' || c == '=' || c == '[' || c == ']' ||
    c == '\x7b' || c == '\x7d')

/-- Whether a text goes on with another word behind its leading blanks. -/
def continues (text : List Char) : Bool :=
  match skipBlanks text with
  | [] => false
  | c :: _ => isWordChar c && c != '.' && c != '"' && c != '\''

/-- Words with blanks between them, at the start of a text, and the text behind them. -/
def splitWords : List Char → List Char × List Char
  | [] => ([], [])
  | c :: rest =>
    if isWordChar c || (isBlank c && continues rest) then
      let (words, rest) := splitWords rest
      (c :: words, rest)
    else ([], c :: rest)

/-- The value of a text without quotes. -/
def word? (text : List Char) : Option Value :=
  if text = ['t', 'r', 'u', 'e'] then some (.boolean true)
  else if text = ['f', 'a', 'l', 's', 'e'] then some (.boolean false)
  else if isMoment text then some .moment
  else number? text

/-- The value without quotes at the start of a text, and the text behind it. -/
def wordValue? (text : List Char) : Option (Value × List Char) :=
  let (words, rest) := splitWords text
  (word? words).map fun value => (value, rest)

/-! ## Lists between delimiters -/

/-- At most `limit` items with commas between them and after the last, up to a closing character. -/
def itemsUpTo? {α : Type} (item? : List Char → Option (α × List Char)) (close : Char) :
    Nat → List Char → Option (List α × List Char)
  | 0, _ => none
  | limit + 1, text =>
    match skipSpace false text with
    | [] => none
    | c :: rest =>
      if c = close then some ([], rest)
      else do
        let (item, rest) ← item? (c :: rest)
        match skipSpace false rest with
        | [] => none
        | d :: rest =>
          if d = close then some ([item], rest)
          else if d = ',' then do
            let (more, rest) ← itemsUpTo? item? close limit rest
            return (item :: more, rest)
          else none

/-- Items with commas between them, up to a closing character, and the text behind it. -/
def items? {α : Type} (item? : List Char → Option (α × List Char)) (close : Char)
    (text : List Char) : Option (List α × List Char) :=
  itemsUpTo? item? close (text.length + 1) text

/-- An entry of a table between braces. -/
def assignment? (value? : List Char → Option (Value × List Char)) (text : List Char) :
    Option ((List String × Value) × List Char) := do
  let (path, rest) ← path? text
  let '=' :: rest := skipSpace false rest | none
  let (value, rest) ← value? (skipSpace false rest)
  return ((path, value), rest)

/-! ## Values -/

/-- A value whose arrays and tables hold each other to a depth, and the text behind it. -/
def valueUpTo? : Nat → List Char → Option (Value × List Char)
  | _, [] => none
  | depth, c :: rest =>
    if c = '"' ∨ c = '\'' then
      (string? (c :: rest)).map fun (text, rest) => (.string text, rest)
    else if c = '[' then
      match depth with
      | 0 => none
      | depth + 1 =>
        (items? (valueUpTo? depth) ']' rest).map fun (items, rest) => (.array items, rest)
    else if c = '\x7b' then
      match depth with
      | 0 => none
      | depth + 1 => do
        let (entries, rest) ← items? (assignment? (valueUpTo? depth)) '\x7d' rest
        return (← Node.inlineTable? entries, rest)
    else wordValue? (c :: rest)

/-- A value and the text behind it. -/
def value? (text : List Char) : Option (Value × List Char) := valueUpTo? nestingLimit text

end Toml

end ArityLadder
