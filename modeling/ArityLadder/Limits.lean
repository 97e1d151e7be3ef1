import ArityLadder.Arity
import ArityLadder.Rejection

/-!
# Limits

The checks that a value passes before it is used.

Main results:

- Theorem `checkArity_eq_ok_iff`: a field count is accepted as the arity that counts it.
- Theorem `checkRange_eq_ok_iff`: a range is accepted exactly when it starts at one
  or above and does not start behind its end.
- Theorem `checkSections_eq_ok_iff`: a list of sections is accepted exactly when it is
  not empty and names no section twice.
- Theorems `checkArity_eq_error_iff`, `checkRange_eq_error_iff`, `checkWidth_eq_error_iff`
  and `checkSections_eq_error_iff`: what is refused, and what is blamed for it.
-/

namespace ArityLadder

/-- A check and what follows it succeed exactly when each of them does. -/
theorem bind_eq_ok_iff {α β : Type} {check : Except Rejection α} {next : α → Except Rejection β}
    {b : β} : check >>= next = .ok b ↔ ∃ a, check = .ok a ∧ next a = .ok b := by
  cases check <;> simp [bind, Except.bind]

/-- A check without a result and what follows it succeed exactly when both do. -/
theorem then_eq_ok_iff {β : Type} {check : Except Rejection Unit}
    {next : Unit → Except Rejection β} {b : β} :
    check >>= next = .ok b ↔ check = .ok () ∧ next () = .ok b := by
  cases check <;> simp [bind, Except.bind]

/-- A check and what follows it fail exactly when one of them does. -/
theorem bind_eq_error_iff {α β : Type} {check : Except Rejection α} {next : α → Except Rejection β}
    {fault : Rejection} :
    check >>= next = .error fault ↔
      check = .error fault ∨ ∃ a, check = .ok a ∧ next a = .error fault := by
  cases check <;> simp [bind, Except.bind]

/-! ## Arities and ranges -/

/-- The arity of a field count, if it is at least one. -/
def checkArity (value : Int64) : Except Rejection Arity :=
  match Arity.ofInt64? value with
  | some arity => .ok arity
  | none => .error (.arity value.toInt)

/-- A field count is accepted as the arity that counts it. -/
theorem checkArity_eq_ok_iff {value : Int64} {arity : Arity} :
    checkArity value = .ok arity ↔ (arity.count : Int) = value.toInt := by
  unfold checkArity
  cases hvalue : Arity.ofInt64? value with
  | none =>
    have hsmall := Arity.ofInt64?_eq_none_iff.mp hvalue
    have hpos := arity.pos
    simp only [reduceCtorEq, false_iff]
    omega
  | some counted =>
    have hcounted := Arity.count_of_ofInt64? hvalue
    simp only [Except.ok.injEq]
    constructor
    · rintro rfl
      exact hcounted
    · intro hcount
      apply Arity.ext
      omega

/-- A field count is accepted exactly when it is at least one. -/
theorem exists_checkArity_iff {value : Int64} :
    (∃ arity, checkArity value = .ok arity) ↔ 1 ≤ value.toInt := by
  simp only [checkArity_eq_ok_iff]
  constructor
  · rintro ⟨arity, hcount⟩
    have hpos := arity.pos
    omega
  · intro hvalue
    have hlimit := value.toInt_lt
    refine ⟨⟨value.toInt.toNat, by omega, by omega⟩, ?_⟩
    dsimp only
    omega

/-- A field count is refused exactly when it is below one, and is then blamed itself. -/
theorem checkArity_eq_error_iff {value : Int64} {fault : Rejection} :
    checkArity value = .error fault ↔ value.toInt < 1 ∧ fault = .arity value.toInt := by
  rw [← Arity.ofInt64?_eq_none_iff]
  unfold checkArity
  cases Arity.ofInt64? value with
  | none => simp [eq_comm]
  | some arity => simp

/-- Accepts a first arity that lies between one and the last. -/
def checkRange (first last : Int64) : Except Rejection Unit :=
  if first.toInt < 1 ∨ last.toInt < first.toInt then .error (.range first.toInt last.toInt)
  else .ok ()

/-- A range is accepted exactly when it starts at one or above and not behind its end. -/
theorem checkRange_eq_ok_iff {first last : Int64} :
    checkRange first last = .ok () ↔ 1 ≤ first.toInt ∧ first.toInt ≤ last.toInt := by
  unfold checkRange
  split
  · simp only [reduceCtorEq, false_iff]
    omega
  · simp only [true_iff]
    omega

/-- A range is refused exactly when it starts below one or behind its end, and is then blamed
itself. -/
theorem checkRange_eq_error_iff {first last : Int64} {fault : Rejection} :
    checkRange first last = .error fault ↔
      (first.toInt < 1 ∨ last.toInt < first.toInt) ∧ fault = .range first.toInt last.toInt := by
  unfold checkRange
  split
  · next hbad => simp [hbad, eq_comm]
  · next hgood => simp [hgood]

/-! ## Values between bounds -/

/-- Accepts a value that is neither below `least` nor above `greatest`.

A value that cannot be compared with its bounds is accepted. -/
def checkWithin {α : Type} [LT α] [DecidableLT α] (render : α → String) (field : String)
    (value least greatest : α) : Except Rejection Unit :=
  if value < least ∨ greatest < value then
    .error (.setting (.outOfRange field (render value) (render least) (render greatest)))
  else .ok ()

/-- The widths of an indentation that are accepted. -/
def checkWidth (field : String) (width : UInt64) : Except Rejection Unit :=
  checkWithin (fun w : Nat => toString w) field width.toNat 1 16

/-- A width is accepted exactly when it lies between 1 and 16. -/
theorem checkWidth_eq_ok_iff {field : String} {width : UInt64} :
    checkWidth field width = .ok () ↔ 1 ≤ width.toNat ∧ width.toNat ≤ 16 := by
  unfold checkWidth checkWithin
  split
  · simp only [reduceCtorEq, false_iff]
    omega
  · simp only [true_iff]
    omega

/-- A width is refused exactly when it does not lie between 1 and 16, and is then shown with these
bounds. -/
theorem checkWidth_eq_error_iff {field : String} {width : UInt64} {fault : Rejection} :
    checkWidth field width = .error fault ↔
      (width.toNat < 1 ∨ 16 < width.toNat) ∧
        fault = .setting (.outOfRange field (toString width.toNat) "1" "16") := by
  unfold checkWidth checkWithin
  split
  · next hbad =>
    have hleast : toString 1 = "1" := by decide
    have hgreatest : toString 16 = "16" := by decide
    rw [and_iff_right hbad, Except.error.injEq, ← hleast, ← hgreatest]
    exact eq_comm
  · next hgood =>
    simp only [reduceCtorEq, hgood, false_and]

/-! ## Lists of sections -/

/-- The first section that was seen before. -/
def firstRepeated? (seen : List Section) : List Section → Option Section
  | [] => none
  | kind :: rest => if kind ∈ seen then some kind else firstRepeated? (kind :: seen) rest

/-- No section is blamed exactly when none occurs twice, or was seen before. -/
theorem firstRepeated?_eq_none_iff {seen kinds : List Section} :
    firstRepeated? seen kinds = none ↔ kinds.Nodup ∧ ∀ kind ∈ kinds, kind ∉ seen := by
  induction kinds generalizing seen with
  | nil => simp [firstRepeated?]
  | cons kind rest ih =>
    by_cases h : kind ∈ seen
    · simp [firstRepeated?, h]
    · simp only [firstRepeated?, h, ↓reduceIte, ih, List.mem_cons, List.nodup_cons]
      grind

/-- Accepts a list of sections that is not empty and names none twice. -/
def checkSections (field : String) (kinds : List Section) : Except Rejection Unit :=
  if kinds = [] then .error (.setting (.noSections field))
  else
    match firstRepeated? [] kinds with
    | some kind => .error (.setting (.repeatedSection field kind))
    | none => .ok ()

/-- A list of sections is accepted exactly when it is not empty and names none twice. -/
theorem checkSections_eq_ok_iff {field : String} {kinds : List Section} :
    checkSections field kinds = .ok () ↔ kinds ≠ [] ∧ kinds.Nodup := by
  have hrepeated : firstRepeated? [] kinds = none ↔ kinds.Nodup := by
    simp [firstRepeated?_eq_none_iff]
  unfold checkSections
  by_cases hempty : kinds = []
  · simp [hempty]
  · rw [if_neg hempty, ← hrepeated]
    cases firstRepeated? [] kinds with
    | none => simp [hempty]
    | some kind => simp

/-- A list of sections is refused for being empty, or for the first section that it repeats. -/
theorem checkSections_eq_error_iff {field : String} {kinds : List Section} {fault : Rejection} :
    checkSections field kinds = .error fault ↔
      (kinds = [] ∧ fault = .setting (.noSections field)) ∨
        ∃ kind, firstRepeated? [] kinds = some kind ∧
          fault = .setting (.repeatedSection field kind) := by
  unfold checkSections
  by_cases hempty : kinds = []
  · simp [hempty, firstRepeated?, eq_comm]
  · rw [if_neg hempty]
    cases firstRepeated? [] kinds with
    | none => simp [hempty]
    | some kind => simp [hempty, eq_comm]

end ArityLadder
