import ArityLadder.Proofs.Fragments.Statements

/-!
# Accessors

The fragment of an accessor is a dispatch on an index: it asserts a bound, binds one name
to each field, and returns, for each index that it tests, a pointer to one name.

Main results:

- Theorem `Section.returned_accesses`: each index below the arity is tested once, and
  returns the name of its own position.
- Theorem `Fragment.accessor_dispatches`: the fragment of an accessor reaches every field
  by its own index only, and no field by an index that is not below the bound.
-/

namespace ArityLadder

open Text

/-! ## Dispatching -/

namespace Section

namespace Statement

/-- The type and the address that a statement returns for an index. -/
def returned? (index : Nat) : Statement → Option (String × String)
  | access tested type address => if tested = index then some (type, address) else none
  | _ => none

/-- What statements return for an index: a type and an address for each that tests it. -/
def returned (statements : List Statement) (index : Nat) : List (String × String) :=
  statements.filterMap (returned? index)

/-- Whether no assertion among statements fails for an index. -/
def Admits (statements : List Statement) (index : Nat) : Prop :=
  ∀ bound stated noun, .assertion bound stated noun ∈ statements → index < bound

/-- Whether statements return, for an index, the address of the name that is bound to the field at
a position. -/
def Reaches (statements : List Statement) (index position : Nat) : Prop :=
  ∃ names source type address, .binding names source ∈ statements ∧
    (type, address) ∈ returned statements index ∧ names[position]? = some address

end Statement

/-! ## The conditionals of an accessor -/

open Statement

/-- The conditionals for the first positions. -/
def accesses (count : Nat) : List Statement :=
  (List.range count).map fun index =>
    .access index (Bindings.nameAt index) (Bindings.nameAt index)

/-- An accessor asserts a bound, binds names and has one conditional for each position. -/
theorem statements_accessor (arity : Arity) :
    accessor.statements arity =
      .assertion arity.count arity.count (if arity.count = 1 then "field" else "fields") ::
        .binding (Bindings.ofArity arity).names "t" :: accesses arity.count := by
  simp [statements, accesses, Arity.isFirst]

/-- One more conditional returns something for its own position only. -/
theorem returned_accesses_succ (count index : Nat) :
    returned (accesses (count + 1)) index =
      returned (accesses count) index ++
        if count = index then [(Bindings.nameAt index, Bindings.nameAt index)] else [] := by
  rw [accesses, List.range_succ, List.map_append, returned, List.filterMap_append]
  by_cases hindex : count = index
  · subst hindex
    simp [accesses, returned, returned?]
  · simp [accesses, returned, returned?, hindex]

/-- The conditionals for the first positions return the name of a position once for the position
itself, and nothing else. -/
theorem returned_accesses (count index : Nat) :
    returned (accesses count) index =
      if index < count then [(Bindings.nameAt index, Bindings.nameAt index)] else [] := by
  induction count with
  | zero => rfl
  | succ count ih =>
    rw [returned_accesses_succ, ih]
    rcases Nat.lt_trichotomy index count with h | h | h
    · rw [if_pos h, if_neg (by omega), if_pos (by omega), List.append_nil]
    · rw [if_neg (by omega), if_pos h.symm, if_pos (by omega), List.nil_append]
    · rw [if_neg (by omega), if_neg (by omega), if_neg (by omega), List.append_nil]

/-- The statements of an accessor return what its conditionals do. -/
theorem returned_accessor (arity : Arity) (index : Nat) :
    returned (accessor.statements arity) index =
      if index < arity.count then [(Bindings.nameAt index, Bindings.nameAt index)] else [] := by
  rw [← returned_accesses, statements_accessor]
  rfl

/-- The assertion of an accessor admits the indices below the arity. -/
theorem admits_accessor {arity : Arity} {index : Nat} :
    Admits (accessor.statements arity) index ↔ index < arity.count := by
  rw [statements_accessor]
  constructor
  · intro hadmits
    exact hadmits _ _ _ List.mem_cons_self
  · intro hindex bound stated noun hmem
    obtain ⟨rfl, -⟩ : bound = arity.count ∧ stated = arity.count ∧
        noun = if arity.count = 1 then "field" else "fields" := by
      simpa [accesses] using hmem
    exact hindex

/-- An accessor reaches the field at a position by the same index only. -/
theorem reaches_accessor {arity : Arity} {index position : Nat} :
    Reaches (accessor.statements arity) index position ↔
      position = index ∧ index < arity.count := by
  unfold Reaches
  rw [returned_accessor]
  constructor
  · rintro ⟨names, source, type, address, hbinding, hreturned, hname⟩
    obtain ⟨rfl, rfl⟩ : names = (Bindings.ofArity arity).names ∧ source = "t" := by
      rw [statements_accessor] at hbinding
      simpa [accesses] using hbinding
    split at hreturned
    · obtain ⟨rfl, rfl⟩ : type = _ ∧ address = _ := by simpa using hreturned
      exact Bindings.getElem?_names_eq_some_iff.mp hname
    · cases hreturned
  · rintro ⟨rfl, hlt⟩
    rw [if_pos hlt]
    refine ⟨(Bindings.ofArity arity).names, "t", _, _, ?_, List.mem_singleton_self _,
      Bindings.getElem?_names_eq_some_iff.mpr ⟨rfl, hlt⟩⟩
    rw [statements_accessor]
    simp

end Section

/-! ## Accessors as text -/

namespace Fragment

open Section.Statement

/-- The fragment of an accessor has a guard for its arity, the assertion that an index is below the
arity, one binding of as many names, one conditional return for each, and a closing brace.  Some
conditional tests an index exactly when the assertion admits it, and then exactly one does, whose
type and address are the name at the position of the index, which is bound once.  So each field is
reached by its own index only, and no field by an index that is not admitted. -/
theorem accessor_dispatches (indent : Indent) (arity : Arity) :
    let text := (make indent .accessor arity).text
    (lines text).length = arity.count + 4 ∧
    (lines text).head? = some (Branch.keyword arity ++ " constexpr (" ++
      ("has_n_fields<T, " ++ arity.text ++ ">") ++ ") \x7b") ∧
    (lines text).getLast? = some "\x7d" ∧
    ∃ statements names accesses,
      (innerLines text).map read? = statements.map some ∧
      statements =
        .assertion arity.count arity.count (if arity.count = 1 then "field" else "fields") ::
          .binding names "t" :: accesses ∧
      names.length = arity.count ∧ accesses.length = arity.count ∧
      (∀ statement ∈ accesses, ∃ index type address, statement = .access index type address) ∧
      (∀ index, Admits statements index ↔ index < arity.count) ∧
      (∀ index, returned statements index ≠ [] ↔ Admits statements index) ∧
      (∀ index, Admits statements index ↔ ∃ name, returned statements index = [(name, name)] ∧
        names[index]? = some name ∧ names.count name = 1) ∧
      ∀ index position, Reaches statements index position ↔
        position = index ∧ Admits statements index := by
  intro text
  refine ⟨?_, head?_lines_text indent .accessor arity, getLast?_lines_text indent .accessor arity,
    Section.accessor.statements arity, (Bindings.ofArity arity).names,
    Section.accesses arity.count, map_read?_innerLines indent .accessor arity,
    Section.statements_accessor arity, Bindings.length_names arity, ?_, ?_,
    fun _ => Section.admits_accessor, ?_, ?_, ?_⟩
  · rw [lines_text indent .accessor arity]
    exact length_lines indent .accessor arity
  · simp [Section.accesses]
  · intro statement hstatement
    obtain ⟨index, -, rfl⟩ := List.mem_map.mp hstatement
    exact ⟨index, _, _, rfl⟩
  · intro index
    rw [Section.returned_accessor, Section.admits_accessor]
    simp
  · intro index
    rw [Section.returned_accessor, Section.admits_accessor]
    constructor
    · intro hlt
      have hname : (Bindings.ofArity arity).names[index]? = some (Bindings.nameAt index) :=
        Bindings.getElem?_names_eq_some_iff.mpr ⟨rfl, hlt⟩
      have hnodup := Bindings.nodup_names arity
      exact ⟨Bindings.nameAt index, if_pos hlt, hname,
        List.count_eq_one_of_mem hnodup (List.mem_of_getElem? hname)⟩
    · rintro ⟨name, hreturned, -⟩
      by_contra hge
      simp [hge] at hreturned
  · intro index position
    rw [Section.reaches_accessor, Section.admits_accessor]

end Fragment

end ArityLadder
