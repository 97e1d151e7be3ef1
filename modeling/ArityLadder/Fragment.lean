import ArityLadder.Bindings
import ArityLadder.Branch
import ArityLadder.Section

/-!
# Fragments

The branch that a section prints for one arity: its guard, the statement that
binds the fields, and the statements that use them.

Main results:

- Theorem `Fragment.length_lines`: the number of lines of a fragment is the arity
  and a constant of its section.
-/

namespace ArityLadder

namespace Section

/-! ## The three bodies -/

/-- The condition under which a branch is taken. -/
def guard (arity : Arity) : Section → String
  | accessor => "has_n_fields<T, " ++ arity.text ++ ">"
  | extractor => "internal::has_n_fields<T, " ++ arity.text ++ ">"
  | deserializer => "fieldCount == " ++ arity.text

/-- The assertion that the index of an accessor stays below the arity. -/
def indexAssertion (arity : Arity) : String :=
  "static_assert(N < " ++ arity.text ++
    ", \"Cannot access a field beyond the number within the field. T has " ++ arity.text ++ " " ++
    (if arity.isFirst then "field" else "fields") ++ "\");"

/-- The statement that returns the field at `index`. -/
def accessStatement (index : Nat) (name : String) : String :=
  "if constexpr (N == " ++ toString index ++ ") return ptr<decltype(" ++ name ++ ")>\x7b&" ++
    name ++ "\x7d;"

/-- The field at `index` paired with its name, as one argument of the returned tuple. -/
def namedField (index : Nat) (name : String) : String :=
  "NamedField<decltype(" ++ name ++ ")>\x7b.name = getFieldName<T, " ++ toString index ++
    ">(), .value = " ++ name ++ "\x7d"

/-- The statement that assigns the field at `index`, or returns an error. -/
def assignStatement (index : Nat) (name : String) : String :=
  "if (internal::tryAssignFieldFromJsonObject(" ++ name ++ ", getFieldName<T, " ++
    toString index ++ ">(), jsonObject) == false) return ResultErr();"

/-- The body of the branch that a section prints for an arity. -/
def body (arity : Arity) : Section → List Line
  | accessor =>
    ⟨1, indexAssertion arity⟩ :: ⟨1, (Bindings.ofArity arity).destructure "t"⟩ ::
      (Bindings.ofArity arity).indexed.map fun (index, name) => ⟨1, accessStatement index name⟩
  | extractor =>
    let last := (Bindings.ofArity arity).lastIndex
    ⟨1, (Bindings.ofArity arity).destructure "t"⟩ :: ⟨1, "return std::tuple("⟩ ::
      (Bindings.ofArity arity).indexed.map fun (index, name) =>
        ⟨2, namedField index name ++ (if UInt64.ofNat index = last then ");" else ",")⟩
  | deserializer =>
    ⟨1, (Bindings.ofArity arity).destructure "out"⟩ ::
      (Bindings.ofArity arity).indexed.map fun (index, name) => ⟨1, assignStatement index name⟩

/-- The branch that a section prints for an arity. -/
def branch (kind : Section) (arity : Arity) : Branch :=
  ⟨arity, kind.guard arity, kind.body arity⟩

end Section

/-! ## Fragments as values -/

/-- A branch as text, with the section and the arity that it is for. -/
structure Fragment where
  kind : Section
  arity : Arity
  text : String
deriving DecidableEq

namespace Fragment

/-- The fragment of a section for an arity, in an indentation. -/
def make (indent : Indent) (kind : Section) (arity : Arity) : Fragment :=
  ⟨kind, arity, (kind.branch arity).text indent⟩

/-- The number of lines of a fragment that do not depend on its arity. -/
def frameLines : Section → Nat
  | .accessor => 4
  | .extractor => 4
  | .deserializer => 3

/-- The number of lines of a fragment is the arity and a constant of its section. -/
theorem length_lines (indent : Indent) (kind : Section) (arity : Arity) :
    ((kind.branch arity).lines indent).length = arity.count + frameLines kind := by
  cases kind <;> simp [Section.branch, Section.body, Bindings.indexed, frameLines]

end Fragment

end ArityLadder
