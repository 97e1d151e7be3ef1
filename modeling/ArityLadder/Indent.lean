/-!
# Indentation

One level of indentation is a tab or a number of spaces, which may be zero.  How often its
character is repeated at a depth is a product of machine words, and so it may wrap around.

Main results:

- Theorem `Indent.toList_text`: the text of a depth is one character, repeated.
- Theorem `Indent.toNat_width_mul_eq_iff`: the product is exact where it fits a machine word,
  and nowhere else.
-/

namespace ArityLadder

/-- How indentation is asked for, before its width is known. -/
inductive IndentStyle where
  | tab
  | spaces
deriving DecidableEq

namespace IndentStyle

/-- Every style. -/
def all : List IndentStyle := [tab, spaces]

/-- The name by which a style is chosen. -/
def name : IndentStyle → String
  | tab => "tab"
  | spaces => "spaces"

/-- The style of a name, letter for letter. -/
def ofName? (text : String) : Option IndentStyle := all.find? (·.name == text)

/-- The style of a name, where the ASCII letters of the text may be of either case. -/
def ofNameAnyCase? (text : String) : Option IndentStyle :=
  all.find? (·.name.toList == text.toList.map Char.toLower)

/-- Each style is found by its name. -/
theorem ofName?_name (s : IndentStyle) : ofName? s.name = some s := by cases s <;> decide

end IndentStyle

/-- One level of indentation. -/
inductive Indent where
  | tab
  | spaces (width : UInt64)
deriving DecidableEq

namespace Indent

/-- The number of spaces of a level where none is asked for. -/
def defaultWidth : UInt64 := 4

/-- A style together with a width, which matters for spaces only. -/
def ofStyle : IndentStyle → UInt64 → Indent
  | .tab, _ => tab
  | .spaces, width => spaces width

/-- The character that an indentation repeats. -/
def char : Indent → Char
  | tab => '\t'
  | spaces _ => ' '

/-- The number of characters of one level. -/
def width : Indent → UInt64
  | tab => 1
  | spaces width => width

/-- The indentation of a line at a depth.  The number of its characters is a word; a text may have
as many, whatever memory that takes. -/
def text (indent : Indent) (depth : UInt64) : String :=
  String.ofList (List.replicate (indent.width * depth).toNat indent.char)

/-- The text of a depth is one character, repeated. -/
@[simp]
theorem toList_text (indent : Indent) (depth : UInt64) :
    (indent.text depth).toList = List.replicate (indent.width * depth).toNat indent.char := by
  simp [text]

/-! ## Exact products -/

/-- A depth whose levels together are no wider than a machine word tells. -/
def Fits (indent : Indent) (depth : UInt64) : Prop :=
  indent.width.toNat * depth.toNat < UInt64.size

instance (indent : Indent) (depth : UInt64) : Decidable (indent.Fits depth) :=
  inferInstanceAs (Decidable (_ < _))

/-- The width of a depth is the product of the numbers where that fits a machine word, and nowhere
else. -/
theorem toNat_width_mul_eq_iff (indent : Indent) (depth : UInt64) :
    (indent.width * depth).toNat = indent.width.toNat * depth.toNat ↔ indent.Fits depth := by
  constructor
  · intro hexact
    rw [Fits, ← hexact]
    exact UInt64.toNat_lt_size _
  · intro hfits
    rw [UInt64.toNat_mul]
    exact Nat.mod_eq_of_lt hfits

/-- Tabs are as many as levels, so each depth fits. -/
theorem fits_tab (depth : UInt64) : tab.Fits depth := by
  have hone : tab.width.toNat = 1 := rfl
  rw [Fits, hone, Nat.one_mul]
  exact depth.toNat_lt_size

/-- Depths whose products are the same word are printed alike. -/
theorem text_eq_of_width_mul_eq {indent : Indent} {a b : UInt64}
    (hwidth : indent.width * a = indent.width * b) : indent.text a = indent.text b := by
  rw [text, text, hwidth]

/-- A depth that does not fit is printed as another one that does. -/
example : (spaces 16).text 1152921504606846977 = (spaces 16).text 1 :=
  text_eq_of_width_mul_eq (by decide)

end Indent

end ArityLadder
