/-!
# Drawn text

What is left of a text when a terminal has obeyed its control characters: these
and the sequences that they begin are not drawn.  Tabs and line ends are kept.
Where one stands in a sequence the text behind it is drawn as well, and the
sequence either ends there or goes on behind the next control character.
-/

namespace ArityLadder

namespace Text

/-! ## Control characters -/

/-- A character that only moves the place of drawing within a page. -/
def isLayout (c : Char) : Bool := c == '\t' || c == '\n' || c == '\x0c' || c == '\r'

/-- A control character of ASCII. -/
def isControl (c : Char) : Bool := c.toNat < 0x20 || c.toNat == 0x7f

/-- Whether a character beyond ASCII has the byte `0x9c` in its UTF-8 form. -/
def hasTerminator (c : Char) : Bool :=
  (0x80 ≤ c.toNat && c.toNat % 64 == 0x1c) ||
    (0x800 ≤ c.toNat && c.toNat / 64 % 64 == 0x1c) ||
    (0x10000 ≤ c.toNat && c.toNat / 4096 % 64 == 0x1c)

/-! ## Sequences -/

/-- How far a control sequence has been read. -/
inductive Reading where
  /-- Outside of any sequence. -/
  | text
  /-- Behind the escape character. -/
  | escape
  /-- Behind the escape character and a mark. -/
  | escapeMarks
  /-- In a control sequence, which a letter ends. -/
  | control
  /-- In a command, which a bell ends. -/
  | command
  /-- At the start of a sequence for the device. -/
  | device
  /-- Among the parameters of a sequence for the device. -/
  | deviceParameters
  /-- Among the marks of a sequence for the device. -/
  | deviceMarks
  /-- In a string, which the byte `0x9c` ends. -/
  | string
deriving DecidableEq

namespace Reading

/-- The reading after one more character. -/
def next (reading : Reading) (c : Char) : Reading :=
  if c = '\x1b' then escape
  else if c = '\x18' ∨ c = '\x1a' then text
  else
    match reading with
    | text => text
    | escape =>
      if c < ' ' ∨ '~' < c then escape
      else if c < '0' then escapeMarks
      else if c = '[' then control
      else if c = ']' then command
      else if c = 'P' then device
      else if c = 'X' ∨ c = '^' ∨ c = '_' then string
      else text
    | escapeMarks => if '0' ≤ c ∧ c ≤ '~' then text else escapeMarks
    | control => if '@' ≤ c ∧ c ≤ '~' then text else control
    | command => if c = '\x07' then text else command
    | device =>
      if c < ' ' ∨ '~' < c then device
      else if c < '0' then deviceMarks
      else if c < '@' then deviceParameters
      else string
    | deviceParameters =>
      if c < ' ' ∨ '~' < c then deviceParameters
      else if c < '0' then deviceMarks
      else if c < '<' then deviceParameters
      else string
    | deviceMarks => if '0' ≤ c ∧ c ≤ '~' then string else deviceMarks
    | string => if hasTerminator c then text else string

/-- Whether a character is kept at a point of a reading. -/
def keeps (reading : Reading) (c : Char) : Bool :=
  match reading with
  | text => isLayout c || !isControl c
  | escape | escapeMarks | control => isLayout c
  | command | device | deviceParameters | deviceMarks | string => false

end Reading

/-! ## Whole texts -/

/-- What a layout character does to the sequence that it stands in. -/
inductive Interruption where
  /-- The sequence ends. -/
  | ends
  /-- The sequence goes on behind the next control character. -/
  | suspends
deriving DecidableEq

/-- A point on the way through a text. -/
structure Scan where
  /-- How far the present or the suspended sequence has been read. -/
  reading : Reading := .text
  /-- Whether the characters up to the next control character are drawn. -/
  drawing : Bool := true

namespace Scan

/-- Whether a character is drawn at a point. -/
def draws (scan : Scan) (c : Char) : Bool :=
  if scan.drawing then isLayout c || !isControl c else scan.reading.keeps c

/-- The point behind a character; one beyond ASCII leaves no sequence suspended. -/
def next (interruption : Interruption) (scan : Scan) (c : Char) : Scan :=
  if scan.draws c then
    match interruption with
    | .ends => {}
    | .suspends => ⟨if '~' < c then .text else scan.reading, true⟩
  else ⟨scan.reading.next c, false⟩

end Scan

/-- What is drawn of a text from a point on. -/
def drawnFrom (interruption : Interruption) : Scan → List Char → List Char
  | _, [] => []
  | scan, c :: rest =>
    if scan.draws c then c :: drawnFrom interruption (scan.next interruption c) rest
    else drawnFrom interruption (scan.next interruption c) rest

/-- What is drawn of a text. -/
def drawn (interruption : Interruption) (text : String) : String :=
  String.ofList (drawnFrom interruption {} text.toList)

end Text

end ArityLadder
