import ArityLadder.Arity

/-!
# Bindings

The positional names `p1`, `p2`, … that a branch binds to the fields of an
aggregate, one name per field.

Main results:

- Theorem `Bindings.length_names`: there are as many names as fields.
- Theorem `Bindings.getElem?_names`: the name at a position carries the number of
  the position, counted from one.
- Theorem `Bindings.eq_lastIndex_iff`: the last position is computed on machine words
  without an underflow, and is that of one name only.
-/

namespace ArityLadder

/-- The names bound to the fields of an aggregate, in field order. -/
structure Bindings where
  names : List String
deriving DecidableEq

namespace Bindings

/-- The name bound to the field at a position counted from zero. -/
def nameAt (index : Nat) : String := "p" ++ toString (index + 1)

/-- One name per field. -/
def ofArity (arity : Arity) : Bindings := ⟨(List.range arity.count).map nameAt⟩

/-- The number of bound names. -/
def size (bindings : Bindings) : Nat := bindings.names.length

/-- The position of the last name, as a machine word; without a name it wraps around. -/
def lastIndex (bindings : Bindings) : UInt64 := UInt64.ofNat bindings.size - 1

/-- Whether nothing is bound. -/
def isEmpty (bindings : Bindings) : Bool := bindings.names.isEmpty

/-- The names with their positions, counted from zero. -/
def indexed (bindings : Bindings) : List (Nat × String) :=
  bindings.names.zipIdx.map Prod.swap

/-- The statement that binds the names to the fields of `source`. -/
def destructure (bindings : Bindings) (source : String) : String :=
  "auto&& [" ++ ", ".intercalate bindings.names ++ "] = " ++ source ++ ";"

/-- There are as many names as fields. -/
@[simp]
theorem length_names (arity : Arity) : (ofArity arity).names.length = arity.count := by
  simp [ofArity]

/-- The name at a position carries the number of the position, counted from one. -/
theorem getElem?_names {arity : Arity} {index : Nat} (h : index < arity.count) :
    (ofArity arity).names[index]? = some ("p" ++ toString (index + 1)) := by
  simp [ofArity, nameAt, h]

/-- The last position of the names of an arity is computed on machine words without an underflow. -/
theorem toNat_size_sub_one (arity : Arity) :
    (UInt64.ofNat (ofArity arity).size - 1).toNat + 1 = arity.count := by
  have hsize : UInt64.ofNat (ofArity arity).size = arity.word := by
    rw [size, length_names, Arity.word]
  have hpos := arity.pos
  have hle : (1 : UInt64) ≤ arity.word := by
    rw [UInt64.le_iff_toNat_le, UInt64.toNat_one, Arity.toNat_word]
    exact hpos
  rw [hsize, UInt64.toNat_sub_of_le _ _ hle, Arity.toNat_word, UInt64.toNat_one]
  omega

/-- A position is the last one exactly when the arity is the next number. -/
theorem eq_lastIndex_iff {arity : Arity} {index : Nat} (hindex : index < arity.count) :
    UInt64.ofNat index = (ofArity arity).lastIndex ↔ index + 1 = arity.count := by
  have hmax := arity.le_max
  have hlast : (ofArity arity).lastIndex.toNat + 1 = arity.count := toNat_size_sub_one arity
  have hword : (UInt64.ofNat index).toNat = index := by
    apply UInt64.toNat_ofNat_of_lt'
    simp only [UInt64.size]
    omega
  rw [← UInt64.toNat_inj, hword]
  omega

end Bindings

end ArityLadder
