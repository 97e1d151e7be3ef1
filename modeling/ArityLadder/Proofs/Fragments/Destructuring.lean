import ArityLadder.Proofs.Fragments.Statements

/-!
# Destructuring

The statement that binds names to the fields of a source lists the names between brackets,
and the source stands behind them.  The list ends with the first closing bracket, since no
name holds one, so the names and the source are read from the statement alone, whatever the
source is.

Main results:

- Theorem `Bindings.destructured?_eq_some_iff`: names and a source are read from a text
  exactly when it is their statement, and the names can be told apart in their list.
- Theorem `Bindings.destructure_inj`: the statement determines the arity and the source.
- Theorem `Bindings.names_number_fields`: the names of an arity number its fields, and are
  read back from the statement that binds them.
-/

namespace ArityLadder

open Text

namespace Bindings

/-! ## Positions and names -/

/-- Each position stands beside the name at this position. -/
theorem getElem?_indexed (bindings : Bindings) (index : Nat) :
    bindings.indexed[index]? = bindings.names[index]?.map fun name => (index, name) := by
  rw [indexed, List.getElem?_map, List.getElem?_zipIdx, Option.map_map, Nat.zero_add]
  rfl

/-- The names beside the positions are all names, in their order. -/
theorem map_snd_indexed (bindings : Bindings) : bindings.indexed.map Prod.snd = bindings.names := by
  rw [indexed, List.map_map]
  exact List.zipIdx_map_fst 0 bindings.names

/-- An arity is determined by its names. -/
theorem arity_of_names_eq {a b : Arity} (hnames : (ofArity a).names = (ofArity b).names) :
    a = b := by
  have hlength := congrArg List.length hnames
  rw [length_names, length_names] at hlength
  exact Arity.ext hlength

/-! ## Reading the statement back -/

/-- What stands before and behind the list of names in the statement that binds them.  The source is
not in a gap, because a semicolon within it would end one. -/
def binder : Template := ⟨"auto&& [", ["] = "]⟩

/-- The names and the source of a text that binds names to the fields of a source. -/
def destructured? (text : String) : Option (List String × String) :=
  match binder.read? text.toList with
  | some ([list], rest) =>
    if rest.getLast? = some ';' then some (splitNames list, String.ofList rest.dropLast) else none
  | _ => none

/-- Names that can be told apart in their list, which ends with the first closing bracket behind
it. -/
structure IsListable (bindings : Bindings) : Prop where
  fits : Template.Fits (", ".intercalate bindings.names) "] = "
  split : splitNames (", ".intercalate bindings.names) = bindings.names

/-- The names of an arity can be told apart in their list. -/
theorem isListable_ofArity (arity : Arity) : (ofArity arity).IsListable :=
  ⟨fits_names arity, splitNames_names arity⟩

/-- The characters of the statement that binds names: the list between its brackets, and behind
it the source and a semicolon. -/
theorem toList_destructure (bindings : Bindings) (source : String) :
    (bindings.destructure source).toList =
      (binder.fill [", ".intercalate bindings.names]).toList ++ (source.toList ++ [';']) := by
  simp [destructure, binder, Template.fill]

/-- A text is read from the front: a list up to the first closing bracket, and what follows. -/
theorem binder_read?_eq_some_iff {text : List Char} {words : List String} {rest : List Char} :
    binder.read? text = some (words, rest) ↔
      ∃ list, words = [list] ∧ Template.Fits list "] = " ∧
        text = (binder.fill [list]).toList ++ rest := by
  rw [Template.read?_eq_some_iff (by decide)]
  constructor
  · rintro ⟨hfit, htext⟩
    obtain ⟨list, hlist, rfl⟩ : ∃ list, Template.Fits list "] = " ∧ words = [list] := by
      cases hfit with
      | cons hlist hnil =>
        cases hnil
        exact ⟨_, hlist, rfl⟩
    exact ⟨list, rfl, hlist, htext⟩
  · rintro ⟨list, rfl, hlist, htext⟩
    exact ⟨.cons hlist .nil, htext⟩

/-- Names and a source are read from a text exactly when it is their statement, and the names can
be told apart in their list. -/
theorem destructured?_eq_some_iff {text source : String} {bindings : Bindings} :
    destructured? text = some (bindings.names, source) ↔
      bindings.IsListable ∧ text = bindings.destructure source := by
  constructor
  · intro hread
    unfold destructured? at hread
    split at hread
    · next list rest htemplate =>
      split at hread
      · next hlast =>
        obtain ⟨front, rfl⟩ := List.getLast?_eq_some_iff.mp hlast
        obtain ⟨hnames, rfl⟩ := Prod.mk.inj (Option.some.inj hread)
        obtain ⟨_, hwords, hfits, htext⟩ := binder_read?_eq_some_iff.mp htemplate
        obtain rfl := List.singleton_inj.mp hwords
        have hlist : ", ".intercalate bindings.names = list := by
          rw [← hnames, intercalate_splitNames]
        refine ⟨⟨by rwa [hlist], by rw [hlist, hnames]⟩, ?_⟩
        rw [← String.toList_inj, toList_destructure, hlist, String.toList_ofList,
          List.dropLast_concat]
        exact htext
      · cases hread
    · cases hread
  · rintro ⟨hlistable, rfl⟩
    have htemplate := binder_read?_eq_some_iff.mpr
      ⟨_, rfl, hlistable.fits, toList_destructure bindings source⟩
    unfold destructured?
    rw [htemplate]
    simp [hlistable.split]

/-- The source may hold a closing bracket and a semicolon. -/
example : destructured? "auto&& [p1, p2] = a] = b;;" = some (["p1", "p2"], "a] = b;") := by
  decide +kernel

/-- The names of an arity and a source are read from their statement, and from no other text. -/
theorem destructured?_eq_names_iff {text source : String} {arity : Arity} :
    destructured? text = some ((ofArity arity).names, source) ↔
      text = (ofArity arity).destructure source := by
  rw [destructured?_eq_some_iff, and_iff_right (isListable_ofArity arity)]

/-- The statement determines the arity and the source. -/
theorem destructure_inj {a b : Arity} {s t : String} :
    (ofArity a).destructure s = (ofArity b).destructure t ↔ a = b ∧ s = t := by
  constructor
  · intro htext
    have hleft := destructured?_eq_names_iff.mpr (rfl : (ofArity a).destructure s = _)
    have hright := destructured?_eq_names_iff.mpr htext
    rw [hleft] at hright
    obtain ⟨hnames, hsource⟩ := Prod.mk.inj (Option.some.inj hright)
    exact ⟨arity_of_names_eq hnames, hsource⟩
  · rintro ⟨rfl, rfl⟩
    rfl

/-! ## The numbering -/

/-- The names of an arity are as many as its fields, and there is at least one.  Each stands beside
its position and tells its number, counted from one, and no two are equal.  The statement that binds
them holds them in a list with a comma and a blank between any two, from which they are taken apart
in their order.  They and the source are read from this statement and from no other text, so that
another arity or another source makes another statement. -/
theorem names_number_fields (arity : Arity) (source : String) :
    let bindings := ofArity arity
    let text := bindings.destructure source
    bindings.isEmpty = false ∧
    bindings.size = arity.count ∧
    bindings.indexed.length = arity.count ∧
    (∀ index < arity.count,
      bindings.indexed[index]? = some (index, "p" ++ toString (index + 1))) ∧
    bindings.indexed.map Prod.snd = bindings.names ∧
    bindings.names.Nodup ∧
    (∃ list, text = "auto&& [" ++ list ++ "] = " ++ source ++ ";" ∧
      splitNames list = bindings.names) ∧
    (∀ other : String, destructured? other = some (bindings.names, source) ↔ other = text) ∧
    ∀ (other : Arity) (target : String),
      (ofArity other).destructure target = text ↔ other = arity ∧ target = source := by
  intro bindings text
  have hsize : bindings.size = arity.count := length_names arity
  have hlength : bindings.indexed.length = arity.count := by
    rw [← hsize, size, ← map_snd_indexed, List.length_map]
  have hentry : ∀ index < arity.count,
      bindings.indexed[index]? = some (index, "p" ++ toString (index + 1)) := by
    intro index hindex
    rw [getElem?_indexed, getElem?_names hindex, Option.map_some]
  exact ⟨List.isEmpty_eq_false_iff.mpr (names_ne_nil arity), hsize, hlength, hentry,
    map_snd_indexed bindings, nodup_names arity, ⟨_, rfl, splitNames_names arity⟩,
    fun _ => destructured?_eq_names_iff, fun _ _ => destructure_inj⟩

end Bindings

end ArityLadder
