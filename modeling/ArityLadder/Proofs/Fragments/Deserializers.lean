import ArityLadder.Proofs.Fragments.Statements

/-!
# Deserializers

The fragment of a deserializer attempts to assign the fields one after another.  An attempt
that fails ends it with an error, so that no field behind the first failing one is attempted.

Main results:

- Theorem `Section.execute?_append_of_succeeds`: attempts that do not fail are passed.
- Theorems `Section.execute?_of_first` and `Section.execute?_of_none`: what the attempts of a
  deserializer come to, with and without one that fails.
- Theorem `Fragment.deserializer_fails_fast`: the fragment of a deserializer attempts every
  field up to the first failing one, each with its own name, and then returns an error.
-/

namespace ArityLadder

open Text

/-- The name of a position below the arity is bound to the field at this position. -/
theorem Bindings.idxOf?_nameAt {arity : Arity} {index : Nat} (hindex : index < arity.count) :
    (ofArity arity).names.idxOf? (nameAt index) = some index := by
  have hlength := length_names arity
  rw [List.idxOf?, List.findIdx?_eq_some_iff_getElem]
  refine ⟨by omega, ?_, ?_⟩
  · simp [ofArity]
  · intro earlier hearlier hsame
    have hname : nameAt earlier = nameAt index := by
      simpa [ofArity] using hsame
    have hposition := nameAt_injective hname
    omega

/-! ## Executing attempts -/

namespace Section

namespace Statement

/-- An attempt to assign a field. -/
structure Attempt where
  /-- The position of the field to which the assigned name is bound. -/
  position : Nat
  /-- The name that is assigned. -/
  name : String
  /-- The position of the field whose own name is looked up. -/
  index : Nat
deriving DecidableEq

/-- What an execution does: the attempts that it makes, in turn, and whether it returns an error. -/
structure Execution where
  attempts : List Attempt
  returnsError : Bool
deriving DecidableEq

/-- An execution with other attempts before its own. -/
def Execution.behind (attempts : List Attempt) (execution : Execution) : Execution :=
  { execution with attempts := attempts ++ execution.attempts }

/-- The execution of statements from the first to the last, where names are bound to the fields of a
source and the attempts on some positions fail.

An attempt that fails returns an error at once.  What is no attempt on a bound name cannot be
executed. -/
def execute? (names : List String) (fails : Nat → Bool) : List Statement → Option Execution
  | [] => some ⟨[], false⟩
  | .attempt name index :: rest => do
    let position ← names.idxOf? name
    if fails position then return ⟨[⟨position, name, index⟩], true⟩
    return (← execute? names fails rest).behind [⟨position, name, index⟩]
  | _ :: _ => none

/-- An attempt that fails returns an error, and what stands behind it is not executed. -/
theorem execute?_cons_of_fails {names : List String} {fails : Nat → Bool} {name : String}
    {position : Nat} (hname : names.idxOf? name = some position) (hfails : fails position = true)
    (index : Nat) (rest : List Statement) :
    execute? names fails (.attempt name index :: rest) =
      some ⟨[⟨position, name, index⟩], true⟩ := by
  rw [execute?, hname]
  simp [hfails]

/-- An attempt that does not fail goes on to what stands behind it. -/
theorem execute?_cons_of_succeeds {names : List String} {fails : Nat → Bool} {name : String}
    {position : Nat} (hname : names.idxOf? name = some position) (hfails : fails position = false)
    (index : Nat) (rest : List Statement) :
    execute? names fails (.attempt name index :: rest) =
      (execute? names fails rest).map (Execution.behind [⟨position, name, index⟩]) := by
  rw [execute?, hname]
  cases execute? names fails rest with
  | none => simp [hfails]
  | some execution => simp [hfails]

end Statement

/-! ## The attempts of a deserializer -/

open Statement

/-- The statement that attempts the field at a position, by its own name. -/
def attemptAt (position : Nat) : Statement := .attempt (Bindings.nameAt position) position

/-- The attempt on the field at a position, by its own name. -/
def ownAttempt (position : Nat) : Attempt := ⟨position, Bindings.nameAt position, position⟩

/-- A deserializer binds names and attempts each field by its own name. -/
theorem statements_deserializer (arity : Arity) :
    deserializer.statements arity =
      .binding (Bindings.ofArity arity).names "out" ::
        (List.range arity.count).map attemptAt :=
  rfl

/-- Attempts on positions are made in the order of these. -/
theorem map_position_ownAttempt (positions : List Nat) :
    (positions.map ownAttempt).map Attempt.position = positions := by
  rw [List.map_map]
  exact List.map_id positions

section Attempts

variable {arity : Arity} {fails : Nat → Bool}

/-- Each attempt on a position below the arity assigns the name that is bound there, and looks up
the field name of the same position. -/
theorem own_of_mem_ownAttempts {positions : List Nat}
    (hbound : ∀ position ∈ positions, position < arity.count) :
    ∀ attempt ∈ positions.map ownAttempt,
      (Bindings.ofArity arity).names[attempt.position]? = some attempt.name ∧
        attempt.index = attempt.position := by
  intro attempt hattempt
  obtain ⟨position, hposition, rfl⟩ := List.mem_map.mp hattempt
  exact ⟨Bindings.getElem?_names_eq_some_iff.mpr ⟨rfl, hbound position hposition⟩, rfl⟩

/-- Attempts on positions that do not fail are passed, in their order. -/
theorem execute?_append_of_succeeds {positions : List Nat}
    (hbound : ∀ position ∈ positions, position < arity.count)
    (hsucceeds : ∀ position ∈ positions, fails position = false) (rest : List Statement) :
    execute? (Bindings.ofArity arity).names fails (positions.map attemptAt ++ rest) =
      (execute? (Bindings.ofArity arity).names fails rest).map
        (Execution.behind (positions.map ownAttempt)) := by
  induction positions with
  | nil =>
    have hsame : Execution.behind [] = id := rfl
    rw [List.map_nil, List.map_nil, List.nil_append, hsame, Option.map_id]
    rfl
  | cons position positions ih =>
    obtain ⟨hlt, hlater⟩ := List.forall_mem_cons.mp hbound
    obtain ⟨hfirst, hothers⟩ := List.forall_mem_cons.mp hsucceeds
    have hname := Bindings.idxOf?_nameAt hlt
    rw [List.map_cons, List.cons_append, attemptAt, execute?_cons_of_succeeds hname hfirst,
      ih hlater hothers, Option.map_map]
    rfl

/-- The attempts of a deserializer end with the first one that fails. -/
theorem execute?_of_first {position : Nat} (hlt : position < arity.count)
    (hfails : fails position = true) (hfirst : ∀ earlier < position, fails earlier = false) :
    execute? (Bindings.ofArity arity).names fails ((List.range arity.count).map attemptAt) =
      some ⟨(List.range (position + 1)).map ownAttempt, true⟩ := by
  obtain ⟨later, hcount⟩ : ∃ later, arity.count = position + 1 + later :=
    ⟨arity.count - (position + 1), by omega⟩
  have hbound : ∀ earlier ∈ List.range position, earlier < arity.count := by
    intro earlier hearlier
    have hbelow := List.mem_range.mp hearlier
    omega
  have hpassed : ∀ earlier ∈ List.range position, fails earlier = false :=
    fun earlier hearlier => hfirst earlier (List.mem_range.mp hearlier)
  have hname := Bindings.idxOf?_nameAt hlt
  rw [hcount, List.range_add, List.range_succ, List.append_assoc, List.map_append,
    execute?_append_of_succeeds hbound hpassed, List.singleton_append, List.map_cons, attemptAt,
    execute?_cons_of_fails hname hfails, List.map_append]
  rfl

/-- Without one that fails, a deserializer makes all of its attempts. -/
theorem execute?_of_none (hsucceeds : ∀ position < arity.count, fails position = false) :
    execute? (Bindings.ofArity arity).names fails ((List.range arity.count).map attemptAt) =
      some ⟨(List.range arity.count).map ownAttempt, false⟩ := by
  have hbound : ∀ position ∈ List.range arity.count, position < arity.count :=
    fun _ hposition => List.mem_range.mp hposition
  have hpassed : ∀ position ∈ List.range arity.count, fails position = false :=
    fun position hposition => hsucceeds position (hbound position hposition)
  have hall := execute?_append_of_succeeds hbound hpassed []
  rw [List.append_nil] at hall
  rw [hall, execute?, Option.map_some, Execution.behind, List.append_nil]

end Attempts

/-- However the attempts of a deserializer turn out, they are executed, from the first position on:
up to the first one that fails, or all of them where none fails. -/
theorem exists_execution (arity : Arity) (fails : Nat → Bool) :
    ∃ execution,
      execute? (Bindings.ofArity arity).names fails ((List.range arity.count).map attemptAt) =
        some execution ∧
      (∀ attempt ∈ execution.attempts,
        (Bindings.ofArity arity).names[attempt.position]? = some attempt.name ∧
          attempt.index = attempt.position) ∧
      ((∃ first < arity.count, fails first = true ∧
          (∀ earlier < first, fails earlier = false) ∧
          execution.attempts.map Attempt.position = List.range (first + 1) ∧
          execution.returnsError = true) ∨
        ((∀ position < arity.count, fails position = false) ∧
          execution.attempts.map Attempt.position = List.range arity.count ∧
          execution.returnsError = false)) := by
  cases hfound : (List.range arity.count).find? fails with
  | some first =>
    obtain ⟨hfails, hmem, hearlier⟩ := List.find?_range_eq_some.mp hfound
    have hlt := List.mem_range.mp hmem
    have hfirst : ∀ earlier < first, fails earlier = false := by
      intro earlier hbefore
      simpa using hearlier earlier hbefore
    have hbound : ∀ position ∈ List.range (first + 1), position < arity.count := by
      intro position hposition
      have hbelow := List.mem_range.mp hposition
      omega
    exact ⟨_, execute?_of_first hlt hfails hfirst, own_of_mem_ownAttempts hbound,
      .inl ⟨first, hlt, hfails, hfirst, map_position_ownAttempt _, rfl⟩⟩
  | none =>
    have hsucceeds : ∀ position < arity.count, fails position = false := by
      intro position hlt
      have hnot := List.find?_eq_none.mp hfound position (List.mem_range.mpr hlt)
      simpa using hnot
    exact ⟨_, execute?_of_none hsucceeds, own_of_mem_ownAttempts fun _ => List.mem_range.mp,
      .inr ⟨hsucceeds, map_position_ownAttempt _, rfl⟩⟩

end Section

/-! ## Deserializers as text -/

namespace Fragment

open Section Section.Statement

/-- The fragment of a deserializer has a guard for its arity, one binding of as many different
names, one attempt for each of them, and a closing brace.  However the attempts turn out, they are
executed: up to the first position that fails, in ascending order and each once, behind which an
error is returned, or all of them without an error where none fails.  Each attempt on a position
assigns the name at the position and looks up the field name of the same position. -/
theorem deserializer_fails_fast (indent : Indent) (arity : Arity) :
    let text := (make indent .deserializer arity).text
    (lines text).length = arity.count + 3 ∧
    (lines text).head? = some (Branch.keyword arity ++ " constexpr (" ++
      ("fieldCount == " ++ arity.text) ++ ") \x7b") ∧
    (lines text).getLast? = some "\x7d" ∧
    ∃ names attempts,
      (innerLines text).map read? = (.binding names "out" :: attempts).map some ∧
      names.length = arity.count ∧ names.Nodup ∧ attempts.length = arity.count ∧
      (∀ statement ∈ attempts, ∃ name index, statement = .attempt name index) ∧
      ∀ fails : Nat → Bool, ∃ execution, execute? names fails attempts = some execution ∧
        (∀ attempt ∈ execution.attempts,
          names[attempt.position]? = some attempt.name ∧ attempt.index = attempt.position) ∧
        ((∃ first < arity.count, fails first = true ∧
            (∀ earlier < first, fails earlier = false) ∧
            execution.attempts.map Attempt.position = List.range (first + 1) ∧
            execution.returnsError = true) ∨
          ((∀ position < arity.count, fails position = false) ∧
            execution.attempts.map Attempt.position = List.range arity.count ∧
            execution.returnsError = false)) := by
  intro text
  refine ⟨?_, head?_lines_text indent .deserializer arity,
    getLast?_lines_text indent .deserializer arity, (Bindings.ofArity arity).names,
    (List.range arity.count).map attemptAt, ?_, Bindings.length_names arity,
    Bindings.nodup_names arity, ?_, ?_, Section.exists_execution arity⟩
  · rw [lines_text indent .deserializer arity]
    exact length_lines indent .deserializer arity
  · rw [← statements_deserializer]
    exact map_read?_innerLines indent .deserializer arity
  · rw [List.length_map, List.length_range]
  · intro statement hstatement
    obtain ⟨position, -, rfl⟩ := List.mem_map.mp hstatement
    exact ⟨_, _, rfl⟩

end Fragment

end ArityLadder
