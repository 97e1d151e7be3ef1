import ArityLadder.Limits
import ArityLadder.Proofs.Printing.Documents
import Mathlib.Data.List.Perm.Subperm

/-!
# Repeated sections

A list of sections is accepted if it is not empty and names no section twice, and so it is a
rearrangement of what is printed for it.  Otherwise the first section is blamed that was
listed before; it need not be the first one of the list that occurs twice.  Nothing behind it
matters.

Main results:

- Theorem `firstRepeated?_eq_some_iff`: the section that is blamed stands behind a list that
  holds it and repeats nothing itself.
- Theorems `exists_split_of_refused` and `checkSections_append_cons`: a list that is refused and not
  empty has such a front, and nothing behind the section that is blamed matters.
- Theorem `Section.not_repeatsAt_of_nodup`: a list that names no section twice repeats none at
  any position.
- Theorem `checkSections_blames_first`: which lists are accepted, and which section of any other
  list is blamed.
-/

namespace ArityLadder

/-! ## The section that is blamed -/

/-- The section that is blamed stands behind a list that holds it, or was seen before; the list
names no section twice and none that was seen before. -/
theorem firstRepeated?_eq_some_iff {seen kinds : List Section} {kind : Section} :
    firstRepeated? seen kinds = some kind ↔ ∃ front back, kinds = front ++ kind :: back ∧
      (kind ∈ seen ∨ kind ∈ front) ∧ front.Nodup ∧ ∀ earlier ∈ front, earlier ∉ seen := by
  induction kinds generalizing seen with
  | nil => simp [firstRepeated?]
  | cons first rest ih =>
    by_cases hseen : first ∈ seen
    · rw [firstRepeated?, if_pos hseen, Option.some.injEq]
      constructor
      · rintro rfl
        exact ⟨[], rest, rfl, .inl hseen, List.nodup_nil, by simp⟩
      · rintro ⟨front, back, hsplit, -, -, hfront⟩
        cases front with
        | nil => exact (List.cons.inj hsplit).1
        | cons earlier front =>
          obtain rfl := (List.cons.inj hsplit).1
          exact absurd hseen (hfront first List.mem_cons_self)
    · -- What is listed here counts as seen for the rest.
      have hmoved (front : List Section) : kind ∈ first :: seen ∨ kind ∈ front ↔
          kind ∈ seen ∨ kind ∈ first :: front := by
        rw [List.mem_cons, List.mem_cons, or_assoc, or_left_comm]
      rw [firstRepeated?, if_neg hseen, ih]
      constructor
      · rintro ⟨front, back, rfl, hkind, hnodup, hfront⟩
        have hfresh : first ∉ front := fun hmem => hfront first hmem List.mem_cons_self
        refine ⟨first :: front, back, rfl, (hmoved front).mp hkind,
          List.nodup_cons.mpr ⟨hfresh, hnodup⟩, List.forall_mem_cons.mpr ⟨hseen, ?_⟩⟩
        intro earlier hmem hbefore
        exact hfront earlier hmem (List.mem_cons_of_mem _ hbefore)
      · rintro ⟨front, back, hsplit, hkind, hnodup, hfront⟩
        cases front with
        | nil =>
          obtain rfl := (List.cons.inj hsplit).1
          simp [hseen] at hkind
        | cons earlier front =>
          obtain ⟨rfl, rfl⟩ := List.cons.inj hsplit
          obtain ⟨hfresh, hnodup⟩ := List.nodup_cons.mp hnodup
          refine ⟨front, back, rfl, (hmoved front).mpr hkind, hnodup, ?_⟩
          intro other hmem
          rw [List.mem_cons, not_or]
          exact ⟨ne_of_mem_of_not_mem hmem hfresh, hfront other (List.mem_cons_of_mem _ hmem)⟩

/-- A section is blamed behind a list that holds it and names none twice, whatever follows. -/
theorem checkSections_append_cons {front : List Section} {kind : Section} (hmem : kind ∈ front)
    (hnodup : front.Nodup) (field : String) (rest : List Section) :
    checkSections field (front ++ kind :: rest) =
      .error (.setting (.repeatedSection field kind)) := by
  refine checkSections_eq_error_iff.mpr (.inr ⟨kind, ?_, rfl⟩)
  exact firstRepeated?_eq_some_iff.mpr ⟨front, rest, rfl, .inr hmem, hnodup, by simp⟩

/-- A list that is refused and not empty has a section behind a list that holds it and names none
twice. -/
theorem exists_split_of_refused {field : String} {kinds : List Section} (hne : kinds ≠ [])
    (hrefused : checkSections field kinds ≠ .ok ()) :
    ∃ front kind back, kinds = front ++ kind :: back ∧ kind ∈ front ∧ front.Nodup := by
  cases hfirst : firstRepeated? [] kinds with
  | none =>
    have hnodup := (firstRepeated?_eq_none_iff.mp hfirst).1
    exact absurd (checkSections_eq_ok_iff.mpr ⟨hne, hnodup⟩) hrefused
  | some kind =>
    obtain ⟨front, back, hsplit, hkind, hnodup, -⟩ := firstRepeated?_eq_some_iff.mp hfirst
    exact ⟨front, kind, back, hsplit, hkind.resolve_left List.not_mem_nil, hnodup⟩

/-! ## Positions -/

/-- Whether the section at a position of a list stands at an earlier position, too. -/
def Section.RepeatsAt (kinds : List Section) (position : Nat) : Prop :=
  ∃ kind, kinds[position]? = some kind ∧ kind ∈ kinds.take position

/-- A list that names no section twice repeats none at any position. -/
theorem Section.not_repeatsAt_of_nodup {kinds : List Section} (hnodup : kinds.Nodup)
    (position : Nat) : ¬RepeatsAt kinds position := by
  rintro ⟨kind, hkind, hbefore⟩
  have hbehind : kind ∈ kinds.drop position := by
    apply List.mem_of_getElem? (i := 0)
    rw [List.getElem?_drop, Nat.add_zero, hkind]
  exact List.disjoint_take_drop hnodup (Nat.le_refl position) hbefore hbehind

/-- What stands behind a position does not matter for a repetition before it. -/
theorem Section.repeatsAt_append {front : List Section} {position : Nat}
    (hposition : position < front.length) (back : List Section) :
    RepeatsAt (front ++ back) position ↔ RepeatsAt front position := by
  rw [RepeatsAt, RepeatsAt, List.getElem?_append_left hposition,
    List.take_append_of_le_length (Nat.le_of_lt hposition)]

/-! ## Accepted lists -/

/-- A list that names no section twice is not longer than that of all sections. -/
theorem Section.length_le_of_nodup {kinds : List Section} (hnodup : kinds.Nodup) :
    kinds.length ≤ all.length :=
  (List.subperm_of_subset hnodup fun kind _ => mem_all kind).length_le

/-- A list of sections is accepted exactly when it is not empty and names no section twice.  So it
is not longer than that of all sections, and a rearrangement of those that are printed for it.  A
list that is refused and not empty has a first position whose section stands at an earlier one, too,
and the label of this section is named, whatever stands behind the position.  Listing more sections
behind it does not change what is said. -/
theorem checkSections_blames_first (field : String) (kinds : List Section) :
    (checkSections field kinds = .ok () ↔ kinds ≠ [] ∧ kinds.Nodup) ∧
    (Section.all.length < kinds.length → checkSections field kinds ≠ .ok ()) ∧
    (checkSections field kinds = .ok () →
      ∀ plan : Plan, plan.sections = kinds → plan.printed.Perm kinds) ∧
    (kinds ≠ [] → checkSections field kinds ≠ .ok () → ∃ position kind fault,
      kinds[position]? = some kind ∧ kind ∈ kinds.take position ∧
      (∀ earlier < position, ¬Section.RepeatsAt kinds earlier) ∧
      checkSections field kinds = .error fault ∧
      fault = .setting (.repeatedSection field kind) ∧
      (∀ words, fault.message words = "Configuration error: " ++
        (field ++ ": '" ++ kind.label ++ "' is listed more than once")) ∧
      (∀ rest, checkSections field (kinds.take (position + 1) ++ rest) = .error fault) ∧
      ∀ rest, checkSections field (kinds ++ rest) = .error fault) := by
  have haccepted := @checkSections_eq_ok_iff field kinds
  refine ⟨haccepted, ?_, ?_, ?_⟩
  · intro hlong hok
    have hlength := Section.length_le_of_nodup (haccepted.mp hok).2
    omega
  · intro hok plan hplan
    rw [← hplan]
    apply plan.printed_perm_of_nodup
    rw [hplan]
    exact (haccepted.mp hok).2
  · intro hne hrefused
    obtain ⟨front, kind, back, rfl, hmem, hnodup⟩ := exists_split_of_refused hne hrefused
    have hblamed := checkSections_append_cons hmem hnodup field
    refine ⟨front.length, kind, _, ?_, ?_, ?_, hblamed back, rfl, fun _ => rfl, ?_, ?_⟩
    · simp
    · rw [List.take_left]
      exact hmem
    · intro earlier hearlier hrepeats
      rw [Section.repeatsAt_append hearlier] at hrepeats
      exact Section.not_repeatsAt_of_nodup hnodup earlier hrepeats
    · intro rest
      have hcut : (front ++ kind :: back).take (front.length + 1) = front ++ [kind] := by
        rw [List.take_length_add_append]
        rfl
      rw [hcut, List.append_assoc]
      exact hblamed rest
    · intro rest
      rw [List.append_assoc]
      exact hblamed (back ++ rest)

/-- The accessor is listed again before the extractor is. -/
example :
    checkSections "--only" [.extractor, .accessor, .accessor, .extractor] =
      .error (.setting (.repeatedSection "--only" .accessor)) := by
  decide

end ArityLadder
