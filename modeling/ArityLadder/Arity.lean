/-!
# Arities

The number of fields of an aggregate.  An arity is at least one and fits a
signed 64-bit word, so the two bounds are part of the type and every later
computation on arities is plain arithmetic on `count`.

Main results:

- Theorem `Arity.ofInt64?_eq_none_iff`: an integer is refused exactly when it is
  below one.
- Theorem `Arity.exists_ofWord?`: a machine word within the bounds keeps its value as
  a signed one, and so it is the count of its arity.
- Theorem `Arity.map_count_upTo`: an ascending run of arities counts without a gap.
-/

namespace ArityLadder

/-- The number of fields of an aggregate. -/
@[ext]
structure Arity where
  /-- How many fields there are. -/
  count : Nat
  /-- An aggregate has at least one field. -/
  pos : 1 ≤ count
  /-- A field count fits a signed 64-bit word. -/
  le_max : count ≤ 9223372036854775807
deriving DecidableEq

namespace Arity

/-! ## Making arities -/

/-- The smallest arity, which opens the ladder. -/
def one : Arity := ⟨1, by decide, by decide⟩

/-- The arity that an integer stands for, if it is at least one. -/
def ofInt64? (value : Int64) : Option Arity :=
  if h : value.toInt < 1 then none
  else some ⟨value.toInt.toNat, by omega, by have := value.toInt_lt; omega⟩

/-- An integer is refused exactly when it is below one. -/
theorem ofInt64?_eq_none_iff {value : Int64} : ofInt64? value = none ↔ value.toInt < 1 := by
  unfold ofInt64?
  split <;> simp_all

/-- An accepted integer is the count of its arity. -/
theorem count_of_ofInt64? {value : Int64} {arity : Arity} (h : ofInt64? value = some arity) :
    (arity.count : Int) = value.toInt := by
  unfold ofInt64? at h
  split at h
  · simp at h
  · injection h with h
    subst h
    dsimp only
    omega

/-! ## Order -/

instance : Ord Arity := ⟨fun a b => compare a.count b.count⟩

instance : LE Arity := ⟨fun a b => a.count ≤ b.count⟩

instance : LT Arity := ⟨fun a b => a.count < b.count⟩

instance (a b : Arity) : Decidable (a ≤ b) := inferInstanceAs (Decidable (a.count ≤ b.count))

instance (a b : Arity) : Decidable (a < b) := inferInstanceAs (Decidable (a.count < b.count))

theorem le_def {a b : Arity} : a ≤ b ↔ a.count ≤ b.count := Iff.rfl

theorem lt_def {a b : Arity} : a < b ↔ a.count < b.count := Iff.rfl

/-- The branch for one field opens the ladder and carries no `else`. -/
def isFirst (arity : Arity) : Bool := arity.count == 1

/-- The decimal text of an arity. -/
def text (arity : Arity) : String := toString arity.count

/-! ## Arities as machine words -/

/-- The count of an arity as a machine word. -/
def word (arity : Arity) : UInt64 := UInt64.ofNat arity.count

/-- A machine word holds every count. -/
@[simp]
theorem toNat_word (arity : Arity) : arity.word.toNat = arity.count := by
  have hmax := arity.le_max
  apply UInt64.toNat_ofNat_of_lt'
  simp only [UInt64.size]
  omega

/-- The arity that a machine word stands for, which is read as a signed one. -/
def ofWord? (word : UInt64) : Option Arity := ofInt64? word.toInt64

/-- A machine word that a signed one can hold keeps its value when it is read as one. -/
theorem toInt_toInt64 {word : UInt64} (hmax : word.toNat ≤ 9223372036854775807) :
    word.toInt64.toInt = word.toNat := by
  have hbits : word.toInt64.toBitVec.toNat = word.toNat := rfl
  rw [← Int64.toInt_toBitVec, BitVec.toInt_eq_toNat_of_lt (by omega), hbits]

/-- A machine word within both bounds is the count of its arity. -/
theorem exists_ofWord? {word : UInt64} (hpos : 1 ≤ word.toNat)
    (hmax : word.toNat ≤ 9223372036854775807) :
    ∃ arity, ofWord? word = some arity ∧ arity.count = word.toNat := by
  have hvalue := toInt_toInt64 hmax
  cases harity : ofWord? word with
  | none =>
    have hsmall := ofInt64?_eq_none_iff.mp harity
    omega
  | some arity =>
    have hcount := count_of_ofInt64? harity
    exact ⟨arity, rfl, by omega⟩

/-- Of machine words within both bounds none is lost, and each is the count of its arity. -/
theorem map_count_filterMap {words : List UInt64}
    (hwords : ∀ word ∈ words, 1 ≤ word.toNat ∧ word.toNat ≤ 9223372036854775807) :
    (words.filterMap ofWord?).map count = words.map UInt64.toNat := by
  induction words with
  | nil => rfl
  | cons word words ih =>
    obtain ⟨hfirst, hrest⟩ := List.forall_mem_cons.mp hwords
    obtain ⟨arity, harity, hcount⟩ := exists_ofWord? hfirst.1 hfirst.2
    rw [List.filterMap_cons_some harity, List.map_cons, List.map_cons, hcount, ih hrest]

/-! ## Runs of arities -/

/-- The first `limit` of the machine words from `first` to `last`, ascending.

Nothing is stepped beyond the last one, which may be the greatest there is. -/
def wordsUpTo (first last : UInt64) (limit : Nat) : List UInt64 :=
  match limit with
  | 0 => []
  | limit + 1 =>
    if last < first then []
    else if first = last then [first]
    else first :: wordsUpTo (first + 1) last limit

/-- An ascending run of machine words counts without a gap. -/
theorem map_toNat_wordsUpTo (first last : UInt64) (limit : Nat) :
    (wordsUpTo first last limit).map UInt64.toNat =
      List.range' first.toNat (min limit (last.toNat + 1 - first.toNat)) := by
  induction limit generalizing first with
  | zero => simp [wordsUpTo]
  | succ limit ih =>
    unfold wordsUpTo
    by_cases hbehind : last < first
    · rw [if_pos hbehind]
      rw [UInt64.lt_iff_toNat_lt] at hbehind
      have hnone : min (limit + 1) (last.toNat + 1 - first.toNat) = 0 := by omega
      rw [hnone]
      rfl
    · rw [if_neg hbehind]
      rw [UInt64.lt_iff_toNat_lt] at hbehind
      by_cases hend : first = last
      · have hone : min (limit + 1) (last.toNat + 1 - first.toNat) = 1 := by
          rw [hend]
          omega
        rw [if_pos hend, hone]
        rfl
      · -- Below the last word there is room for a step.
        have hbound := last.toNat_lt
        have hne : first.toNat ≠ last.toNat := mt UInt64.toNat_inj.mp hend
        have hnext : (first + 1).toNat = first.toNat + 1 := by
          rw [UInt64.toNat_add, UInt64.toNat_one, Nat.mod_eq_of_lt (by omega)]
        have hlength : min (limit + 1) (last.toNat + 1 - first.toNat) =
            min limit (last.toNat + 1 - (first.toNat + 1)) + 1 := by omega
        rw [if_neg hend, List.map_cons, ih, hnext, hlength, List.range'_succ]

/-- The first `limit` of the arities from `first` to `last`, ascending. -/
def upTo (first last : Arity) (limit : Nat) : List Arity :=
  (wordsUpTo first.word last.word limit).filterMap ofWord?

/-- Machine words between two arities lie within the bounds of arities. -/
theorem bounds_of_mem_wordsUpTo {first last : Arity} {limit : Nat} {word : UInt64}
    (hword : word ∈ wordsUpTo first.word last.word limit) :
    1 ≤ word.toNat ∧ word.toNat ≤ 9223372036854775807 := by
  have hcount : word.toNat ∈ (wordsUpTo first.word last.word limit).map UInt64.toNat :=
    List.mem_map_of_mem hword
  rw [map_toNat_wordsUpTo, toNat_word, toNat_word, List.mem_range'_1] at hcount
  have hpos := first.pos
  have hmax := last.le_max
  omega

/-- An ascending run of arities counts without a gap. -/
theorem map_count_upTo (first last : Arity) (limit : Nat) :
    (upTo first last limit).map count =
      List.range' first.count (min limit (last.count + 1 - first.count)) := by
  rw [upTo, map_count_filterMap fun _ => bounds_of_mem_wordsUpTo, map_toNat_wordsUpTo, toNat_word,
    toNat_word]

end Arity

end ArityLadder
