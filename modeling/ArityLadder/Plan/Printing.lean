import ArityLadder.Plan
import ArityLadder.Sink
import ArityLadder.Tone

/-!
# Printing a plan

A plan as one document, and the run that writes the document to a sink piece by
piece.  A section is a header, an empty line and its branches, and an empty line
stands between two sections.

Main results:

- Theorem `Plan.join_pieces`: the pieces that a run writes for a section make up the
  block of the section.
-/

namespace ArityLadder

namespace Plan

/-! ## The document -/

/-- The header of a section. -/
def header (plan : Plan) (kind : Section) : String :=
  Tone.heading.paint plan.color ("==== " ++ kind.label ++ " ====")

/-- A section with its header. -/
def block (plan : Plan) (kind : Section) : String :=
  plan.header kind ++ "\n" ++ "\n" ++ plan.sectionText kind ++ "\n"

/-- All that a plan prints. -/
def document (plan : Plan) : String := "\n".intercalate (plan.printed.map plan.block)

/-! ## The run -/

/-- What a run writes for one section, in pieces. -/
def pieces (plan : Plan) (kind : Section) : List String :=
  [plan.header kind, "\n", "\n", plan.sectionText kind, "\n"]

/-- The pieces that a run writes for a section make up the block of the section. -/
theorem join_pieces (plan : Plan) (kind : Section) :
    String.join (plan.pieces kind) = plan.block kind := by
  simp [pieces, block, String.join, String.append_assoc]

end Plan

/-- What is left after a run. -/
structure Printing where
  /-- The sink with what it took. -/
  sink : Sink
  /-- The sections that were begun, in order. -/
  begun : List Section
  /-- What ended the run before its time. -/
  fault : Option Rejection
deriving DecidableEq

namespace Printing

/-- Writes sections in turn, each behind `lead` or, from the second on, an empty line, and flushes. -/
def ofSections (plan : Plan) (lead : List String) (sink : Sink) : List Section → Printing
  | [] => ⟨sink.flush.1, [], sink.flush.2⟩
  | kind :: rest =>
    match sink.writeAll (lead ++ plan.pieces kind) with
    | (next, some fault) => ⟨next, [kind], some fault⟩
    | (next, none) =>
      let printing := ofSections plan ["\n"] next rest
      { printing with begun := kind :: printing.begun }

end Printing

/-- Prints a plan to a sink. -/
def Plan.print (plan : Plan) (sink : Sink) : Printing := .ofSections plan [] sink plan.printed

end ArityLadder
