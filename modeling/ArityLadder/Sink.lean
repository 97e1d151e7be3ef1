import ArityLadder.Rejection

/-!
# Sinks

Where text is printed to: the bytes taken so far, and what happens when no more
fits.  A write that fits in part is taken in part before it fails.

Main results:

- Theorem `Sink.bytes_append`: the bytes of a text joined from two are those of the
  two in turn.
-/

namespace ArityLadder

/-- A receiver of bytes that may be limited. -/
structure Sink where
  /-- The bytes taken so far. -/
  accepted : List UInt8 := []
  /-- How often the sink was flushed. -/
  flushes : Nat := 0
  /-- How many bytes the sink takes in all, without limit where there is none. -/
  capacity : Option Nat := none
  /-- What the sink says when it is full; where it says nothing it just takes no byte. -/
  refusal : Option String := none
  /-- What the sink says when it is flushed, where that fails. -/
  flushFault : Option String := none
deriving DecidableEq

namespace Sink

/-- The bytes of a text. -/
def bytes (text : String) : List UInt8 := text.toUTF8.data.toList

/-- The bytes of a text joined from two are those of the two in turn. -/
@[simp]
theorem bytes_append (a b : String) : bytes (a ++ b) = bytes a ++ bytes b := by
  simp [bytes]

/-- How many more bytes the sink takes, of those offered. -/
def room (sink : Sink) (offered : Nat) : Nat :=
  match sink.capacity with
  | none => offered
  | some limit => min offered (limit - sink.accepted.length)

/-- The sink after a write, and the fault of the write if there is one. -/
def write (sink : Sink) (text : String) : Sink × Option Rejection :=
  let offered := bytes text
  let taken := offered.take (sink.room offered.length)
  ({ sink with accepted := sink.accepted ++ taken },
    if taken.length < offered.length then
      some (.output (sink.refusal.getD "failed to write whole buffer"))
    else none)

/-- The sink after writes in turn, up to the first that fails. -/
def writeAll (sink : Sink) : List String → Sink × Option Rejection
  | [] => (sink, none)
  | text :: rest =>
    match sink.write text with
    | (next, none) => next.writeAll rest
    | (next, some fault) => (next, some fault)

/-- The sink after a flush, and the fault of the flush if there is one. -/
def flush (sink : Sink) : Sink × Option Rejection :=
  ({ sink with flushes := sink.flushes + 1 }, sink.flushFault.map .output)

end Sink

end ArityLadder
