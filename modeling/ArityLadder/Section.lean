/-!
# Sections

The three sections of a ladder, in the order in which they are printed, with the
label of their header and the name by which they are chosen.

Main results:

- Theorem `Section.ofName?_name`: each section is found by its name.
- Theorem `Section.eq_name_of_ofName?`: no other text names a section.
-/

namespace ArityLadder

/-- A section of the ladder. -/
inductive Section where
  /-- Branches that return a pointer to the field of a chosen index. -/
  | accessor
  /-- Branches that return all fields together with their names. -/
  | extractor
  /-- Branches that assign all fields from a JSON object. -/
  | deserializer
deriving DecidableEq

namespace Section

/-- Every section, in print order. -/
def all : List Section := [accessor, extractor, deserializer]

/-- The label in the header of a section. -/
def label : Section → String
  | accessor => "nthPtr"
  | extractor => "fieldNames"
  | deserializer => "deserialize"

/-- The name by which a section is chosen. -/
def name : Section → String
  | accessor => "accessor"
  | extractor => "extractor"
  | deserializer => "deserializer"

/-- The section of a name, letter for letter. -/
def ofName? (text : String) : Option Section := all.find? (·.name == text)

/-- The section of a name, where the ASCII letters of the text may be of either case. -/
def ofNameAnyCase? (text : String) : Option Section :=
  all.find? (·.name.toList == text.toList.map Char.toLower)

theorem mem_all (s : Section) : s ∈ all := by cases s <;> decide

/-- Each section is found by its name. -/
theorem ofName?_name (s : Section) : ofName? s.name = some s := by cases s <;> decide

/-- No other text names a section. -/
theorem eq_name_of_ofName? {text : String} {s : Section} (h : ofName? text = some s) :
    text = s.name := by
  have := List.find?_some h
  simp_all

end Section

end ArityLadder
