/-!
# TOML values

The values of a TOML document, as far as a reader of settings can tell them apart.
A numeral that no machine number holds stays in the tree and is reported only by
the reader that meets it, and dates and times are all alike.

Main results:

- Theorem `Toml.Value.same_iff_eq`: values are compared part by part.
-/

namespace ArityLadder

namespace Toml

/-- The two types of numerals. -/
inductive NumeralType where
  | integer
  | float
deriving DecidableEq

/-- A TOML value; the entries of a table ascend by key. -/
inductive Value where
  | string (text : String)
  | integer (value : Int)
  | float (value : Float)
  /-- A numeral that is no value of its type, mostly because it is out of range. -/
  | beyond (type : NumeralType)
  | boolean (value : Bool)
  /-- A date, a time of day, or both. -/
  | moment
  | array (items : List Value)
  | table (entries : List (String × Value))

/-- A table: keys in ascending order, each once. -/
abbrev Table := List (String × Value)

namespace Value

/-! ## Equality -/

mutual

/-- Whether two values are the same. -/
def same : Value → Value → Bool
  | string a, string b => a == b
  | integer a, integer b => a == b
  | float a, float b => decide (a = b)
  | beyond a, beyond b => a == b
  | boolean a, boolean b => a == b
  | moment, moment => true
  | array as, array bs => sameItems as bs
  | table as, table bs => sameEntries as bs
  | _, _ => false

/-- Whether two arrays have the same items. -/
def sameItems : List Value → List Value → Bool
  | [], [] => true
  | a :: as, b :: bs => a.same b && sameItems as bs
  | _, _ => false

/-- Whether two tables have the same entries. -/
def sameEntries : List (String × Value) → List (String × Value) → Bool
  | [], [] => true
  | (k, a) :: as, (l, b) :: bs => k == l && a.same b && sameEntries as bs
  | _, _ => false

end

mutual

/-- Values are compared part by part. -/
theorem same_iff_eq (a b : Value) : a.same b = true ↔ a = b := by
  cases a <;> cases b <;> simp [same, sameItems_iff_eq, sameEntries_iff_eq]

/-- Arrays are compared item by item. -/
theorem sameItems_iff_eq (as bs : List Value) : sameItems as bs = true ↔ as = bs := by
  cases as <;> cases bs <;> simp [sameItems, same_iff_eq, sameItems_iff_eq]

/-- Tables are compared entry by entry. -/
theorem sameEntries_iff_eq (as bs : List (String × Value)) :
    sameEntries as bs = true ↔ as = bs := by
  cases as <;> cases bs <;>
    simp [sameEntries, same_iff_eq, sameEntries_iff_eq, Prod.ext_iff, and_assoc]

end

instance : DecidableEq Value := fun a b => decidable_of_iff _ (same_iff_eq a b)

/-! ## Numerals out of range -/

mutual

/-- The first numeral out of range inside a value. -/
def beyond? : Value → Option NumeralType
  | beyond type => some type
  | array items => beyondItems? items
  | table entries => beyondEntries? entries
  | _ => none

/-- The first numeral out of range among the items of an array. -/
def beyondItems? : List Value → Option NumeralType
  | [] => none
  | item :: rest => item.beyond?.or (beyondItems? rest)

/-- The first numeral out of range among the entries of a table. -/
def beyondEntries? : List (String × Value) → Option NumeralType
  | [] => none
  | (_, value) :: rest => value.beyond?.or (beyondEntries? rest)

end

end Value

/-! ## Entries by key -/

/-- The value of a key. -/
def Table.get? (table : Table) (key : String) : Option Value := table.lookup key

end Toml

end ArityLadder
