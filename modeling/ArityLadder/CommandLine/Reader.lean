import ArityLadder.CommandLine
import ArityLadder.CommandLine.Argument

/-!
# Reading a command line

A list of arguments is read from left to right.  The value of an argument is
converted only when the next known argument begins or the list ends, so a fault in
a value may be reported after a later argument that does not exist.

Main results:

- Theorem `Reading.settle_of_pending_none`: where no value is open, nothing is left
  to convert.
-/

namespace ArityLadder

/-! ## What has been read so far -/

/-- An argument whose value has not been converted yet. -/
inductive Pending where
  /-- The value is still to come. -/
  | awaiting (argument : Argument)
  /-- The value is there. -/
  | given (argument : Argument) (value : String)
deriving DecidableEq

/-- What has been read of a list of arguments. -/
structure Reading extends Options where
  fieldCount : Option Int64 := none
  /-- The argument whose value has not been converted yet. -/
  pending : Option Pending := none
  /-- Whether the place of the field count is taken. -/
  counted : Bool := false
  /-- Whether `--` has ended the options. -/
  optionsEnded : Bool := false
deriving DecidableEq

namespace Reading

/-! ## Converting values -/

/-- The number that a text denotes, or the fault of the argument that it was given to. -/
def number {α : Type} (argument : Argument) (value : String)
    (read : String → Except Decimal.NumeralFault α) : Except Stop α :=
  (read value).mapError fun cause => .fault (.notANumber value argument cause)

/-- The choice that a text names, or the fault of the argument that it was given to. -/
def choice {α : Type} (argument : Argument) (value : String) (ofName? : String → Option α) :
    Except Stop α :=
  if value = "" then .error (.fault (.noValue argument))
  else
    match ofName? value with
    | some a => .ok a
    | none => .error (.fault (.notAChoice value argument))

/-- Refuses an argument that was given before. -/
def once (argument : Argument) (before : Bool) : Except Stop Unit :=
  if before then .error (.fault (.repeated argument)) else .ok ()

/-- The items of a list with commas between them. -/
def items (value : String) : List String := (value.toList.splitOn ',').map String.ofList

/-- Gives a value to an argument. -/
def assign (reading : Reading) (value : String) : Argument → Except Stop Reading
  | .fieldCount => do
    let count ← number .fieldCount value Decimal.readInt64
    return { reading with fieldCount := some count }
  | .start => do
    once .start reading.start.isSome
    let start ← number .start value Decimal.readInt64
    return { reading with start := some start }
  | .only => do
    let kinds ← (items value).mapM fun item => choice .only item Section.ofName?
    return { reading with only := reading.only ++ kinds }
  | .indent => do
    once .indent reading.indent.isSome
    let style ← choice .indent value IndentStyle.ofName?
    return { reading with indent := some style }
  | .indentWidth => do
    once .indentWidth reading.indentWidth.isSome
    let width ← number .indentWidth value Decimal.readUInt64
    return { reading with indentWidth := some width }
  | .config => do
    once .config reading.config.isSome
    let path ← choice .config value some
    return { reading with config := some path }
  | .noColor => do
    once .noColor reading.noColor
    return { reading with noColor := true }
  | .verbose => do
    once .verbose reading.verbose
    return { reading with verbose := true }
  | .help => .error .help

/-- Converts the value that is still open, if there is one. -/
def settle (reading : Reading) : Except Stop Reading :=
  match reading.pending with
  | none => .ok reading
  | some (.awaiting argument) => .error (.fault (.noValue argument))
  | some (.given argument value) => { reading with pending := none }.assign value argument

/-- Where no value is open, nothing is left to convert. -/
theorem settle_of_pending_none {reading : Reading} (h : reading.pending = none) :
    reading.settle = .ok reading := by
  simp [settle, h]

/-! ## Reading one argument -/

/-- The digits of a number after the first: one point, then one exponent, with digits behind it. -/
def continuesNumber (point exponent : Bool) : List Char → Bool
  | [] => true
  | c :: rest =>
    if c.isDigit then continuesNumber point exponent rest
    else if c = '.' then point && continuesNumber false exponent rest
    else if c = 'e' ∨ c = 'E' then exponent && !rest.isEmpty && continuesNumber false false rest
    else false

/-- Whether what follows a dash looks like a number. -/
def looksNumeric : List Char → Bool
  | [] => false
  | c :: rest => c.isDigit && continuesNumber true true rest

/-- Whether a negative number may be a value here. -/
def acceptsNegative (reading : Reading) : Bool :=
  !reading.counted || reading.pending == some (.awaiting .start)

/-- Reads a text that is a value: of the option that waits for one, or else the field count. -/
def value (reading : Reading) (text : String) : Except Stop Reading :=
  match reading.optionsEnded, reading.pending with
  | false, some (.awaiting argument) =>
    .ok { reading with pending := some (.given argument text) }
  | _, _ =>
    if reading.counted then .error (.fault (.unexpected text))
    else do
      let settled ← reading.settle
      return { settled with pending := some (.given .fieldCount text), counted := true }

/-- Reads a flag. -/
def flag (reading : Reading) (argument : Argument) : Except Stop Reading := do
  (← reading.settle).assign "" argument

/-- Reads a long option from what follows its dashes, with or without a value behind `=`. -/
def longOption (reading : Reading) (body : List Char) : Except Stop Reading :=
  let name := String.ofList (body.takeWhile (· ≠ '='))
  match Argument.ofLong? name with
  | none => .error (.fault (.unexpected ("--" ++ name)))
  | some argument =>
    match body.dropWhile (· ≠ '=') with
    | [] =>
      if argument.takesValue then do
        return { ← reading.settle with pending := some (.awaiting argument) }
      else reading.flag argument
    | _ :: text =>
      if argument.takesValue then do
        (← reading.settle).assign (String.ofList text) argument
      else .error (.fault (.unexpectedValue (String.ofList text) argument))

/-- Reads one letter behind a single dash. -/
def letter (reading : Reading) (c : Char) : Except Stop Reading :=
  match Argument.ofShort? c with
  | some argument => reading.flag argument
  | none => .error (.fault (.unexpected (String.ofList ['-', c])))

/-- Reads one argument. -/
def next (reading : Reading) (text : String) : Except Stop Reading :=
  if reading.optionsEnded then reading.value text
  else
    match text.toList with
    | ['-', '-'] => .ok { reading with optionsEnded := true }
    | '-' :: '-' :: body => reading.longOption body
    | '-' :: c :: rest =>
      if reading.acceptsNegative ∧ looksNumeric (c :: rest) then reading.value text
      else (c :: rest).foldlM letter reading
    | _ => reading.value text

/-- The command line that has been read. -/
def finish (reading : Reading) : Except Stop CommandLine := do
  let settled ← reading.settle
  match settled.fieldCount with
  | none => .error (.fault .noFieldCount)
  | some fieldCount => return { settled.toOptions with fieldCount }

end Reading

/-- The command line of a list of arguments, which the program's name does not belong to. -/
def CommandLine.read (arguments : List String) : Except Stop CommandLine := do
  (← arguments.foldlM Reading.next {}).finish

end ArityLadder
