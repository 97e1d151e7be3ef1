/-!
# Blanks, line ends and comments

What may stand between the parts of a TOML document.

Main results:

- Theorem `Toml.skipBlanks_of_not_blank`: text that starts with another character
  is left as it is.
-/

namespace ArityLadder

namespace Toml

/-- A space or a tab. -/
def isBlank (c : Char) : Bool := c == ' ' || c == '\t'

/-- A character that may stand in a comment or a text: no control character but the tab. -/
def isPlain (c : Char) : Bool := c == '\t' || (0x20 ≤ c.toNat && c.toNat ≠ 0x7f)

/-- The text behind its leading blanks. -/
def skipBlanks (text : List Char) : List Char := text.dropWhile isBlank

/-- Text that starts with another character is left as it is. -/
theorem skipBlanks_of_not_blank {c : Char} {rest : List Char} (h : isBlank c = false) :
    skipBlanks (c :: rest) = c :: rest := by
  simp [skipBlanks, h]

/-- The text behind a comment, where it starts with one. -/
def skipComment : List Char → List Char
  | '#' :: rest => rest.dropWhile isPlain
  | text => text

/-- The text behind the end of a line, where it starts with nothing but blanks and a comment. -/
def endLine? (text : List Char) : Option (List Char) :=
  match skipComment (skipBlanks text) with
  | [] => some []
  | '\n' :: rest => some rest
  | '\r' :: '\n' :: rest => some rest
  | _ => none

/-- The text behind leading blanks, line ends and comments; `inComment` says that one has begun. -/
def skipSpace (inComment : Bool) : List Char → List Char
  | [] => []
  | '\n' :: rest => skipSpace false rest
  | '\r' :: '\n' :: rest => skipSpace false rest
  | c :: rest =>
    if inComment then if isPlain c then skipSpace true rest else c :: rest
    else if isBlank c then skipSpace false rest
    else if c = '#' then skipSpace true rest
    else c :: rest

end Toml

end ArityLadder
