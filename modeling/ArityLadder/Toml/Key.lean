import ArityLadder.Toml.Quote

/-!
# Keys

A key is a run of letters, digits, dashes and underscores, or a string on one
line.  A path is a list of keys with points between them, of limited length.
-/

namespace ArityLadder

namespace Toml

/-- A character of a key without quotes. -/
def isBare (c : Char) : Bool := c.isAlphanum || c == '-' || c == '_'

/-- A key and the text behind it. -/
def key? (text : List Char) : Option (String × List Char) :=
  match text with
  | '"' :: rest => singleLine? '"' rest
  | '\'' :: rest => singleLine? '\'' rest
  | _ =>
    match text.takeWhile isBare with
    | [] => none
    | name => some (String.ofList name, text.dropWhile isBare)

/-- A path of at most `limit` keys, and the text behind it and its blanks. -/
def pathUpTo? : Nat → List Char → Option (List String × List Char)
  | 0, _ => none
  | limit + 1, text => do
    let (key, rest) ← key? text
    match skipBlanks rest with
    | '.' :: more =>
      let (keys, rest) ← pathUpTo? limit (skipBlanks more)
      return (key :: keys, rest)
    | rest => return ([key], rest)

/-- How deep values may hold each other, and how many keys a path may have. -/
def nestingLimit : Nat := 80

/-- A path, and the text behind it and its blanks. -/
def path? (text : List Char) : Option (List String × List Char) := pathUpTo? nestingLimit text

end Toml

end ArityLadder
