import ArityLadder.Decimal.Numeral
import ArityLadder.Text.Alphanumeric
import ArityLadder.Text.Space
import ArityLadder.Trace.Event

/-!
# Directives

A directive gives a level to the events of some targets.  It is written as a level,
a target, or a target with a level behind an equals sign; a span and a field in it
may stand between brackets behind the target.

Main results:

- Theorem `Directive.read?_label`: the label of a level is read as that level for
  all targets.
-/

namespace ArityLadder

namespace Trace

/-- A level for the targets that start with a text; without a level nothing is allowed. -/
structure Directive where
  target : String := ""
  /-- The fields that an event must have. -/
  fields : List String := []
  /-- Whether it holds only inside a span or for a value of a field, and so for no event here. -/
  inert : Bool := false
  level : Option Level := some .trace
deriving DecidableEq

/-! ## Parts of a text by their bytes -/

/-- The number of bytes of a text in UTF-8. -/
def byteLength (text : List Char) : Nat := (String.ofList text).utf8ByteSize

/-- The text behind a number of bytes. -/
def dropBytes : Nat → List Char → List Char
  | 0, text => text
  | _, [] => []
  | count, c :: rest => dropBytes (count - c.utf8Size) rest

/-- The text in front of a number of bytes. -/
def takeBytes : Nat → List Char → List Char
  | 0, _ => []
  | _, [] => []
  | count, c :: rest => c :: takeBytes (count - c.utf8Size) rest

/-! ## Levels -/

/-- The level that a text names in letters of either case or by its rank; `off` allows nothing. -/
def readLevel? (text : List Char) : Option (Option Level) :=
  let word := text.map Char.toUpper
  match Decimal.readNat 18446744073709551615 text with
  | .ok 0 => some none
  | .ok rank => (Level.all.find? (·.rank == rank)).map some
  | .error _ =>
    if word = ['O', 'F', 'F'] then some none
    else (Level.all.find? fun level => word == level.label.toList).map some

namespace Directive

/-! ## Reading a directive -/

/-- A directive with the level behind a number of bytes of its text, where nothing is all. -/
def withLevel? (text : List Char) (start : Nat) (directive : Directive) : Option Directive :=
  match dropBytes start text with
  | [] => some directive
  | level => (readLevel? level).map fun level => { directive with level }

/-- A directive from behind its brackets, of which so many bytes have been read. -/
def afterSpan? (text : List Char) (read : Nat) (directive : Directive) :
    List Char → Option Directive
  | [] => some directive
  | '=' :: _ => directive.withLevel? text (read + 1)
  | _ => none

/-- A directive from behind its opening bracket, of which so many bytes have been read. -/
def inSpan? (text : List Char) (read : Nat) (directive : Directive) (rest : List Char) :
    Option Directive :=
  let isName (c : Char) : Bool := c != ']' && c != '\x7b'
  let name := rest.takeWhile isName
  let read := read + byteLength name + 1
  match rest.dropWhile isName with
  | [] => none
  | ']' :: rest => afterSpan? text read { directive with inert := true } rest
  | _ :: rest =>
    let length := byteLength (rest.takeWhile (· != '\x7d'))
    let field := takeBytes length (dropBytes read text)
    match rest.dropWhile (· != '\x7d') with
    | '\x7d' :: ']' :: rest =>
      if length = 0 then none
      else
        afterSpan? text (read + length + 2)
          { directive with
            fields := [String.ofList (field.takeWhile (· != '='))]
            inert := !name.isEmpty || field.contains '=' }
          rest
    | _ => none

/-- The directive of a text.

Its form is that of the text without the white space at its ends, but its parts
are cut from the whole text at the bytes where they stand in that form. -/
def read? (text : List Char) : Option Directive :=
  match Text.trim text with
  | [] => none
  | '[' :: rest => inSpan? text 1 {} rest
  | c :: rest =>
    if c = '-' ∨ c = ':' ∨ c = '_' ∨ Text.isAlphanumeric c then
      let isHead (c : Char) : Bool := c != '=' && c != '['
      let length := byteLength (c :: rest.takeWhile isHead)
      let target := String.ofList (takeBytes length text)
      match rest.dropWhile isHead with
      | [] =>
        match readLevel? text with
        | some level => some { level }
        | none => some { target := String.ofList text }
      | '=' :: _ => withLevel? text (length + 1) { target }
      | _ :: rest => inSpan? text (length + 1) { target } rest
    else none

/-- The label of a level is read as that level for all targets. -/
theorem read?_label (level : Level) :
    read? level.label.toList = some { level := some level } := by
  cases level <;> decide +kernel

/-! ## Deciding -/

/-- Whether a directive holds for an event. -/
def appliesTo (directive : Directive) (event : Event) : Bool :=
  !directive.inert && directive.target.toList.isPrefixOf event.target.toList &&
    directive.fields.all event.fields.contains

/-- Whether a directive says at least as exactly as another for which events it holds. -/
def isAsExactAs (directive other : Directive) : Bool :=
  other.target.utf8ByteSize < directive.target.utf8ByteSize ||
    (other.target.utf8ByteSize == directive.target.utf8ByteSize &&
      other.fields.length ≤ directive.fields.length)

end Directive

end Trace

end ArityLadder
