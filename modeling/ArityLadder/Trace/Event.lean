/-!
# Events

What the program reports about its own course: a message with a level and with the
part of the program that it comes from.

Main results:

- Theorem `Level.le_trace`: every level is within the most talkative one.
-/

namespace ArityLadder

namespace Trace

/-- How severe an event is. -/
inductive Level where
  | error
  | warn
  | info
  | debug
  | trace
deriving DecidableEq

namespace Level

/-- Every level, the most severe first. -/
def all : List Level := [error, warn, info, debug, trace]

/-- The place of a level, counted from one at the most severe. -/
def rank : Level → Nat
  | error => 1
  | warn => 2
  | info => 3
  | debug => 4
  | trace => 5

/-- The label of a level in the log. -/
def label : Level → String
  | error => "ERROR"
  | warn => "WARN"
  | info => "INFO"
  | debug => "DEBUG"
  | trace => "TRACE"

/-- Every level is within the most talkative one. -/
theorem le_trace (level : Level) : level.rank ≤ trace.rank := by cases level <;> decide

end Level

/-- A reported event. -/
structure Event where
  level : Level
  /-- The part of the program that reports. -/
  target : String
  message : String
deriving DecidableEq

namespace Event

/-- A character of a message, where one that controls a terminal is spelled out. -/
def showChar (c : Char) : List Char :=
  let byte (digits : List Char) : List Char := '\\' :: 'x' :: digits
  if c = '\x1b' then byte ['1', 'b']
  else if c = '\x07' then byte ['0', '7']
  else if c = '\x08' then byte ['0', '8']
  else if c = '\x0c' then byte ['0', 'c']
  else if c = '\x7f' then byte ['7', 'f']
  else if 0x80 ≤ c.toNat ∧ c.toNat ≤ 0x9f then
    '\\' :: 'u' :: '\x7b' :: (Nat.toDigits 16 c.toNat ++ ['\x7d'])
  else [c]

/-- The names of the fields of an event. -/
def fields (_ : Event) : List String := ["message"]

/-- The entry of an event in the log, of as many lines as its message has. -/
def entry (event : Event) : String :=
  event.level.label ++ " " ++ String.ofList (event.message.toList.flatMap showChar)

end Event

end Trace

end ArityLadder
