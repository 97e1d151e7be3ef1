import ArityLadder.Toml.Blank

/-!
# Quoted texts

The four kinds of TOML strings.  Two of them are delimited by double quotes and
have escapes, two by apostrophes and have none, and of each pair one may run over
several lines.  A string is first cut off at its closing delimiter and then
decoded.
-/

namespace ArityLadder

namespace Toml

/-! ## Cutting off -/

/-- The text behind a closing delimiter of one quote. -/
def closeSingle? (quote : Char) : List Char → Option (List Char × List Char)
  | [] => none
  | c :: rest => if c = quote then some ([], rest) else none

/-- The text behind a closing delimiter of three quotes, before which up to two more may stand. -/
def closeTriple? (quote : Char) (text : List Char) : Option (List Char × List Char) :=
  if text.take 3 = [quote, quote, quote] then
    let extra := ((text.drop 3).take 2).takeWhile (· = quote)
    some (extra, text.drop (3 + extra.length))
  else none

/-- The content before a closing delimiter, and the text behind it.

Where a backslash escapes, the character behind one closes nothing; `escaped` says
that a backslash has just been passed. -/
def cutOff (close? : List Char → Option (List Char × List Char)) (escapes : Bool) :
    Bool → List Char → Option (List Char × List Char)
  | _, [] => none
  | true, c :: rest => (cutOff close? escapes false rest).map fun (body, rest) => (c :: body, rest)
  | false, c :: rest =>
    match close? (c :: rest) with
    | some found => some found
    | none =>
      (cutOff close? escapes (escapes && c == '\\') rest).map fun (body, rest) => (c :: body, rest)

/-- Whether a content has no control characters but tabs and, over several lines, line ends. -/
def isContent (multiline : Bool) : List Char → Bool
  | [] => true
  | '\n' :: rest => multiline && isContent multiline rest
  | '\r' :: '\n' :: rest => multiline && isContent multiline rest
  | c :: rest => isPlain c && isContent multiline rest

/-! ## Escapes -/

/-- What has been read of an escape. -/
inductive EscapeState where
  /-- Outside an escape. -/
  | outside
  /-- Behind the backslash. -/
  | backslash
  /-- Within the digits of a position. -/
  | digits (left value : Nat)
  /-- Behind a backslash and blanks, before the end of the line. -/
  | beforeLineEnd
  /-- Behind an escaped line end, where blanks and line ends are dropped. -/
  | afterLineEnd
deriving DecidableEq

/-- The character of an escape by one letter. -/
def letterEscape? : Char → Option Char
  | 'b' => some '\x08'
  | 't' => some '\t'
  | 'n' => some '\n'
  | 'f' => some '\x0c'
  | 'r' => some '\r'
  | 'e' => some '\x1b'
  | '"' => some '"'
  | '\\' => some '\\'
  | _ => none

/-- How many hexadecimal digits follow the letter of an escape by position. -/
def escapeDigits? : Char → Option Nat
  | 'x' => some 2
  | 'u' => some 4
  | 'U' => some 8
  | _ => none

/-- The value of a hexadecimal digit. -/
def hexValue? (c : Char) : Option Nat :=
  if c.isDigit then some (c.toNat - '0'.toNat)
  else if 'a' ≤ c ∧ c ≤ 'f' then some (c.toNat - 'a'.toNat + 10)
  else if 'A' ≤ c ∧ c ≤ 'F' then some (c.toNat - 'A'.toNat + 10)
  else none

/-- The character at a position, which must not be a surrogate. -/
def charAt? (position : Nat) : Option Char :=
  if h : position.isValidChar then some (Char.ofNatAux position h) else none

/-- A content with its escapes resolved. -/
def unescape (multiline : Bool) : EscapeState → List Char → Option (List Char)
  | .outside, [] => some []
  | .afterLineEnd, [] => some []
  | _, [] => none
  | .outside, c :: rest =>
    if c = '\\' then unescape multiline .backslash rest
    else (unescape multiline .outside rest).map (c :: ·)
  | .backslash, c :: rest =>
    match letterEscape? c, escapeDigits? c with
    | some char, _ => (unescape multiline .outside rest).map (char :: ·)
    | none, some count => unescape multiline (.digits count 0) rest
    | none, none =>
      if multiline ∧ isBlank c then unescape multiline .beforeLineEnd rest
      else if multiline ∧ c = '\r' then unescape multiline .beforeLineEnd rest
      else if multiline ∧ c = '\n' then unescape multiline .afterLineEnd rest
      else none
  | .digits left value, c :: rest =>
    match hexValue? c with
    | none => none
    | some digit =>
      let position := 16 * value + digit
      if left ≤ 1 then
        match charAt? position with
        | none => none
        | some char => (unescape multiline .outside rest).map (char :: ·)
      else unescape multiline (.digits (left - 1) position) rest
  | .beforeLineEnd, c :: rest =>
    if isBlank c ∨ c = '\r' then unescape multiline .beforeLineEnd rest
    else if c = '\n' then unescape multiline .afterLineEnd rest
    else none
  | .afterLineEnd, c :: rest =>
    if isBlank c ∨ c = '\r' ∨ c = '\n' then unescape multiline .afterLineEnd rest
    else if c = '\\' then unescape multiline .backslash rest
    else (unescape multiline .outside rest).map (c :: ·)

/-! ## Strings -/

/-- The content behind the line end that may follow an opening delimiter of three quotes. -/
def dropFirstLineEnd : List Char → List Char
  | '\n' :: rest => rest
  | '\r' :: '\n' :: rest => rest
  | text => text

/-- The text of a content, if it is one. -/
def decode? (multiline escapes : Bool) (content : List Char) : Option String :=
  if isContent multiline content then
    (if escapes then unescape multiline .outside content else some content).map String.ofList
  else none

/-- A string on one line, from behind its opening delimiter. -/
def singleLine? (quote : Char) (text : List Char) : Option (String × List Char) := do
  let (content, rest) ← cutOff (closeSingle? quote) (quote == '"') false text
  return (← decode? false (quote == '"') content, rest)

/-- A string over several lines, from behind its opening delimiter. -/
def multiLine? (quote : Char) (text : List Char) : Option (String × List Char) := do
  let (content, rest) ← cutOff (closeTriple? quote) (quote == '"') false text
  return (← decode? true (quote == '"') (dropFirstLineEnd content), rest)

/-- A string and the text behind it. -/
def string? (text : List Char) : Option (String × List Char) :=
  match text with
  | '"' :: '"' :: '"' :: rest => multiLine? '"' rest
  | '"' :: rest => singleLine? '"' rest
  | '\'' :: '\'' :: '\'' :: rest => multiLine? '\'' rest
  | '\'' :: rest => singleLine? '\'' rest
  | _ => none

end Toml

end ArityLadder
