import ArityLadder.Arity
import ArityLadder.Indent

/-!
# Branches

One rung of the ladder: an `if constexpr` with a condition and a body of lines at
given depths.  The rung for one field opens the chain, and every other rung
continues it with `else`.

Main results:

- Theorem `Branch.length_lines`: a branch has two lines more than its body.
-/

namespace ArityLadder

/-- A line of a branch body. -/
structure Line where
  /-- How many levels the line is indented. -/
  depth : UInt64
  /-- What the line says after its indentation. -/
  text : String
deriving DecidableEq

/-- The line as it is printed. -/
def Line.render (indent : Indent) (line : Line) : String := indent.text line.depth ++ line.text

/-- One rung of the ladder. -/
structure Branch where
  arity : Arity
  condition : String
  body : List Line
deriving DecidableEq

namespace Branch

/-- How the branch for an arity joins the chain. -/
def keyword (arity : Arity) : String := if arity.isFirst then "if" else "else if"

/-- The first line of a branch. -/
def opening (branch : Branch) : String :=
  keyword branch.arity ++ " constexpr (" ++ branch.condition ++ ") \x7b"

/-- The last line of a branch. -/
def closing : String := "\x7d"

/-- The printed lines of a branch. -/
def lines (indent : Indent) (branch : Branch) : List String :=
  branch.opening :: (branch.body.map (Line.render indent) ++ [closing])

/-- The printed text of a branch, without a final line end. -/
def text (indent : Indent) (branch : Branch) : String := "\n".intercalate (branch.lines indent)

/-- A branch has two lines more than its body. -/
@[simp]
theorem length_lines (indent : Indent) (branch : Branch) :
    (branch.lines indent).length = branch.body.length + 2 := by
  simp [lines]

/-- The last printed line of a branch closes it. -/
theorem getLast?_lines (indent : Indent) (branch : Branch) :
    (branch.lines indent).getLast? = some closing := by
  rw [lines, ← List.cons_append]
  exact List.getLast?_concat

end Branch

end ArityLadder
