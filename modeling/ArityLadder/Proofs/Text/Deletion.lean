import Mathlib.Data.List.Infix

/-!
# Deleting words

All occurrences of some words are deleted from a list, from the front, and what stands
between them moves together.  Words that start with a mark can be told from what stands
beside them where the mark does not occur.

Main results:

- Theorem `Text.DeletesTo.append`: what is joined from parts is deleted part by part.
- Theorem `Text.AreMarked.deletesTo_self`: what has no mark is kept.
- Theorem `Text.AreMarked.deletesTo_nil`: a word is deleted as a whole.
-/

namespace ArityLadder

namespace Text

variable {α : Type} [BEq α]

/-! ## Deletion -/

/-- What is left of a list where every occurrence of each word is deleted, behind members that are
skipped since they belong to an occurrence before. -/
def deleteWordsFrom (words : List (List α)) : Nat → List α → List α
  | _, [] => []
  | skipped + 1, _ :: rest => deleteWordsFrom words skipped rest
  | 0, a :: rest =>
    match words.find? (·.isPrefixOf (a :: rest)) with
    | some word => deleteWordsFrom words (word.length - 1) rest
    | none => a :: deleteWordsFrom words 0 rest

/-- What is left of a list where every occurrence of each word is deleted. -/
def deleteWords (words : List (List α)) (as : List α) : List α := deleteWordsFrom words 0 as

/-- What is skipped may be dropped before. -/
theorem deleteWordsFrom_eq (words : List (List α)) (skipped : Nat) (as : List α) :
    deleteWordsFrom words skipped as = deleteWords words (as.drop skipped) := by
  induction as generalizing skipped with
  | nil =>
    rw [List.drop_nil]
    cases skipped <;> rfl
  | cons a as ih =>
    cases skipped with
    | zero => rfl
    | succ skipped =>
      rw [deleteWordsFrom, List.drop_succ_cons]
      exact ih skipped

/-- Where no word starts, the first member is kept. -/
theorem deleteWords_cons_of_none {words : List (List α)} {a : α} {rest : List α}
    (hnone : words.find? (·.isPrefixOf (a :: rest)) = none) :
    deleteWords words (a :: rest) = a :: deleteWords words rest := by
  rw [deleteWords, deleteWordsFrom, hnone]
  rfl

/-- Where a word starts, as many members as it has are deleted. -/
theorem deleteWords_cons_of_some {words : List (List α)} {a : α} {rest word : List α}
    (hsome : words.find? (·.isPrefixOf (a :: rest)) = some word) :
    deleteWords words (a :: rest) = deleteWords words (rest.drop (word.length - 1)) := by
  rw [deleteWords, deleteWordsFrom, hsome]
  exact deleteWordsFrom_eq words _ rest

/-! ## What is left -/

/-- One list is left of another where words are deleted, whatever follows both. -/
def DeletesTo (words : List (List α)) (marked plain : List α) : Prop :=
  ∀ rest, deleteWords words (marked ++ rest) = plain ++ deleteWords words rest

/-- What is left where nothing follows. -/
theorem DeletesTo.eq {words : List (List α)} {marked plain : List α}
    (hmarked : DeletesTo words marked plain) : deleteWords words marked = plain := by
  have halone := hmarked []
  rw [List.append_nil] at halone
  rw [halone]
  exact List.append_nil plain

/-- What is joined from parts is deleted part by part. -/
theorem DeletesTo.append {words : List (List α)} {as bs plain plain' : List α}
    (has : DeletesTo words as plain) (hbs : DeletesTo words bs plain') :
    DeletesTo words (as ++ bs) (plain ++ plain') := by
  intro rest
  rw [List.append_assoc, has, hbs, List.append_assoc]

/-! ## Words with a mark -/

/-- Words that start with a mark, of which none goes on where another ends. -/
structure AreMarked (mark : α) (words : List (List α)) : Prop where
  /-- Every word starts with the mark. -/
  head : ∀ word ∈ words, word.head? = some mark
  /-- No word is the start of another. -/
  alone : ∀ word ∈ words, ∀ other ∈ words, word <+: other → word = other

namespace AreMarked

/-- Some of the words that start with a mark are such words. -/
theorem of_subset {α : Type} {mark : α} {words fewer : List (List α)}
    (hwords : AreMarked mark words) (hfewer : fewer ⊆ words) : AreMarked mark fewer := by
  constructor
  · intro word hword
    exact hwords.head word (hfewer hword)
  · intro word hword other hother hprefix
    exact hwords.alone word (hfewer hword) other (hfewer hother) hprefix

variable [LawfulBEq α] {mark : α} {words : List (List α)}

/-- What has no mark is kept. -/
theorem deletesTo_self (hwords : AreMarked mark words) {as : List α} (has : mark ∉ as) :
    DeletesTo words as as := by
  intro rest
  induction as with
  | nil => rfl
  | cons a as ih =>
    rw [List.mem_cons, not_or] at has
    have hnone : words.find? (·.isPrefixOf (a :: (as ++ rest))) = none := by
      rw [List.find?_eq_none]
      intro word hword hprefix
      obtain ⟨tail, rfl⟩ := List.head?_eq_some_iff.mp (hwords.head word hword)
      have hstarts := List.isPrefixOf_iff_prefix.mp hprefix
      exact has.1 (List.cons_prefix_cons.mp hstarts).1
    rw [List.cons_append, deleteWords_cons_of_none hnone, ih has.2, List.cons_append]

/-- Where a word starts, it is found. -/
theorem find?_append (hwords : AreMarked mark words) {word : List α} (hword : word ∈ words)
    (rest : List α) : words.find? (·.isPrefixOf (word ++ rest)) = some word := by
  have hstarts := List.prefix_append word rest
  cases hfind : words.find? (·.isPrefixOf (word ++ rest)) with
  | none =>
    have hno := List.find?_eq_none.mp hfind word hword
    exact absurd (List.isPrefixOf_iff_prefix.mpr hstarts) hno
  | some other =>
    have hother := List.mem_of_find?_eq_some hfind
    have hfound : other.isPrefixOf (word ++ rest) = true := by
      simpa using List.find?_some hfind
    -- Of two words that start at one place, one would be the start of the other.
    rcases List.prefix_or_prefix_of_prefix (List.isPrefixOf_iff_prefix.mp hfound) hstarts with
      hshort | hlong
    · rw [hwords.alone other hother word hword hshort]
    · rw [hwords.alone word hword other hother hlong]

/-- A word is deleted as a whole. -/
theorem deletesTo_nil (hwords : AreMarked mark words) {word : List α} (hword : word ∈ words) :
    DeletesTo words word [] := by
  intro rest
  have hfound := hwords.find?_append hword rest
  obtain ⟨tail, rfl⟩ := List.head?_eq_some_iff.mp (hwords.head word hword)
  rw [List.cons_append] at hfound ⊢
  rw [deleteWords_cons_of_some hfound, List.length_cons, Nat.add_sub_cancel, List.drop_left]
  rfl

/-- A mark alone is kept where no word goes on from it. -/
example : deleteWords [[1, 2], [1, 0]] [0, 1, 2, 1, 0, 1] = [0, 1] := by decide

end AreMarked

end Text

end ArityLadder
