import ArityLadder.Proofs.Text.Lines
import Mathlib.Data.List.Forall2
import Mathlib.Data.List.TakeWhile

/-!
# Templates

A template is a fixed text with gaps for words.  A text is read by a template from the
front: a gap takes everything before the first character of the fixed part behind it.
So the words can be read back unless one of them holds the character that ends its gap.

Main results:

- Theorem `Text.Template.read?_eq_some_iff`: a text is read exactly when it is the template
  filled with fitting words, and something behind it.
- Theorem `Text.Template.read?_eq_none`: a template reads no text that begins in another way.
- Theorems `Text.splitNames_intercalate` and `Text.intercalate_splitNames`: names that are
  joined by commas can be told apart, and the names in a list are joined to the list again.
-/

namespace ArityLadder

namespace Text

/-! ## Filling and reading -/

/-- What stands before the first gap of a text, and what stands behind each of its gaps. -/
structure Template where
  front : String
  later : List String
deriving DecidableEq

namespace Template

/-- Words in gaps, each before what stands behind its gap. -/
def fillGaps (words later : List String) : String :=
  String.join (List.zipWith (· ++ ·) words later)

/-- A template with words in its gaps. -/
def fill (template : Template) (words : List String) : String :=
  template.front ++ fillGaps words template.later

/-- Whether a character does not end a gap: the first one of the fixed text behind it does. -/
def inGap (fixed : String) (c : Char) : Bool := fixed.toList.head? != some c

/-- Whether a word does not hold the character that ends its gap. -/
def Fits (word fixed : String) : Prop := ∀ c ∈ word.toList, inGap fixed c = true

/-- The words in gaps, given what stands behind each gap, and what follows. -/
def readGaps? : List String → List Char → Option (List String × List Char)
  | [], text => some ([], text)
  | fixed :: later, text => do
    let rest ← fixed.toList.isPrefixOf? (text.dropWhile (inGap fixed))
    let found ← readGaps? later rest
    return (String.ofList (text.takeWhile (inGap fixed)) :: found.1, found.2)

/-- The words in the gaps of a text that begins with a template, and what follows. -/
def read? (template : Template) (text : List Char) : Option (List String × List Char) := do
  let rest ← template.front.toList.isPrefixOf? text
  readGaps? template.later rest

/-! ## Laws of gaps -/

@[simp]
theorem fillGaps_nil (later : List String) : fillGaps [] later = "" := by
  simp [fillGaps]

@[simp]
theorem fillGaps_cons (word : String) (words : List String) (fixed : String)
    (later : List String) :
    fillGaps (word :: words) (fixed :: later) = word ++ (fixed ++ fillGaps words later) := by
  rw [fillGaps, List.zipWith_cons_cons, String.join_cons, String.append_assoc]
  rfl

/-- A gap ends before the fixed text behind it, and no sooner. -/
theorem takeWhile_gap {word fixed : String} (hword : Fits word fixed) (hfixed : fixed ≠ "")
    (rest : List Char) :
    (word.toList ++ (fixed.toList ++ rest)).takeWhile (inGap fixed) = word.toList ∧
      (word.toList ++ (fixed.toList ++ rest)).dropWhile (inGap fixed) = fixed.toList ++ rest := by
  rw [List.takeWhile_append_of_pos hword, List.dropWhile_append_of_pos hword]
  cases hchars : fixed.toList with
  | nil => exact absurd (String.toList_eq_nil_iff.mp hchars) hfixed
  | cons c cs => simp [inGap, hchars]

/-- What gaps are filled with is read back, where the words fit. -/
theorem readGaps?_eq_some_iff {later : List String} (hlater : ∀ fixed ∈ later, fixed ≠ "")
    {words : List String} {text rest : List Char} :
    readGaps? later text = some (words, rest) ↔
      List.Forall₂ Fits words later ∧ text = (fillGaps words later).toList ++ rest := by
  induction later generalizing words text with
  | nil =>
    cases words <;> simp [readGaps?]
  | cons fixed later ih =>
    obtain ⟨hfixed, hrest⟩ := List.forall_mem_cons.mp hlater
    constructor
    · intro hread
      rw [readGaps?] at hread
      obtain ⟨behind, hprefix, hread⟩ := Option.bind_eq_some_iff.mp hread
      obtain ⟨⟨found, left⟩, hfound, hpair⟩ := Option.bind_eq_some_iff.mp hread
      obtain ⟨rfl, rfl⟩ := Prod.mk.inj (Option.some.inj hpair)
      obtain ⟨hfit, hbehind⟩ := (ih hrest).mp hfound
      have hdrop := List.isPrefixOf?_eq_some_iff_append_eq.mp hprefix
      refine ⟨.cons ?_ hfit, ?_⟩
      · intro c hc
        rw [String.toList_ofList] at hc
        exact List.mem_takeWhile_imp hc
      · rw [fillGaps_cons, String.toList_append, String.toList_append, String.toList_ofList,
          List.append_assoc, List.append_assoc, ← hbehind, hdrop, List.takeWhile_append_dropWhile]
    · rintro ⟨hfit, rfl⟩
      cases hfit with
      | @cons word _ words _ hword hwords =>
        obtain ⟨htake, hdrop⟩ := takeWhile_gap hword hfixed ((fillGaps words later).toList ++ rest)
        have hprefix := List.isPrefixOf?_eq_some_iff_append_eq.mpr
          (rfl : fixed.toList ++ ((fillGaps words later).toList ++ rest) = _)
        have hlast := (ih hrest).mpr ⟨hwords, rfl⟩
        rw [fillGaps_cons, String.toList_append, String.toList_append, List.append_assoc,
          List.append_assoc, readGaps?]
        simp only [hdrop, hprefix, hlast, htake, String.ofList_toList, Option.bind_eq_bind,
          Option.bind_some]
        rfl

/-! ## Laws of templates -/

/-- A text is read by a template exactly when it is the template filled with fitting words, and
something behind it. -/
theorem read?_eq_some_iff {template : Template} (hlater : ∀ fixed ∈ template.later, fixed ≠ "")
    {words : List String} {text rest : List Char} :
    template.read? text = some (words, rest) ↔
      List.Forall₂ Fits words template.later ∧ text = (template.fill words).toList ++ rest := by
  rw [read?, fill, String.toList_append, List.append_assoc, Option.bind_eq_bind,
    Option.bind_eq_some_iff]
  constructor
  · rintro ⟨behind, hprefix, hread⟩
    obtain ⟨hfit, hbehind⟩ := (readGaps?_eq_some_iff hlater).mp hread
    rw [← hbehind]
    exact ⟨hfit, (List.isPrefixOf?_eq_some_iff_append_eq.mp hprefix).symm⟩
  · rintro ⟨hfit, rfl⟩
    exact ⟨_, List.isPrefixOf?_eq_some_iff_append_eq.mpr rfl,
      (readGaps?_eq_some_iff hlater).mpr ⟨hfit, rfl⟩⟩

/-- A template reads no text that begins in another way. -/
theorem read?_eq_none {template : Template} {other : String} {text : List Char}
    (htext : other.toList <+: text) (hfront : ¬template.front.toList <+: other.toList)
    (hother : ¬other.toList <+: template.front.toList) : template.read? text = none := by
  rw [read?, Option.bind_eq_bind, Option.bind_eq_none_iff]
  intro behind hprefix
  have hbegins : template.front.toList <+: text :=
    ⟨behind, List.isPrefixOf?_eq_some_iff_append_eq.mp hprefix⟩
  rcases List.prefix_or_prefix_of_prefix hbegins htext with h | h
  · exact absurd h hfront
  · exact absurd h hother

end Template

/-! ## Words -/

/-- A text of letters and digits only. -/
def IsWord (text : String) : Prop := ∀ c ∈ text.toList, c.isAlphanum = true

instance (text : String) : Decidable (IsWord text) :=
  decidable_of_iff (text.toList.all Char.isAlphanum = true) List.all_eq_true

/-- A decimal text is a word. -/
@[simp]
theorem isWord_repr (n : Nat) : IsWord n.repr := by
  intro c hc
  rw [Nat.toList_repr] at hc
  exact Bool.or_eq_true_iff.mpr (.inr (Decimal.isDigit_of_mem_toDigits hc))

/-- A word holds letters and digits only. -/
theorem IsWord.notMem {word : String} (hword : IsWord word) {c : Char}
    (hc : c.isAlphanum = false) : c ∉ word.toList := by
  intro hmem
  rw [hword c hmem] at hc
  cases hc

/-- A word fits before a text that does not begin with a letter or a digit. -/
theorem IsWord.fits {word fixed : String} (hword : IsWord word)
    (hfixed : fixed.toList.head?.any Char.isAlphanum = false) : Template.Fits word fixed := by
  intro c hc
  unfold Template.inGap
  rw [bne_iff_ne]
  intro hhead
  rw [hhead, Option.any_some, hword c hc] at hfixed
  cases hfixed

/-! ## Names in a list -/

/-- The parts of a text between a comma with a blank behind it and the next one. -/
def splitParts : List Char → List (List Char)
  | [] => [[]]
  | ',' :: ' ' :: rest => [] :: splitParts rest
  | c :: rest => (splitParts rest).modifyHead (c :: ·)

/-- The names in a list with a comma and a blank between any two of them. -/
def splitNames (text : String) : List String := (splitParts text.toList).map String.ofList

/-- A character that is no comma belongs to the first part. -/
theorem splitParts_cons_of_ne {c : Char} (hc : c ≠ ',') (rest : List Char) :
    splitParts (c :: rest) = (splitParts rest).modifyHead (c :: ·) := by
  rw [splitParts]
  rintro _ rfl
  exact absurd rfl hc

/-- A text without a comma is one part. -/
theorem splitParts_of_notMem {cs : List Char} (hcs : ',' ∉ cs) : splitParts cs = [cs] := by
  induction cs with
  | nil => rfl
  | cons c cs ih =>
    rw [List.mem_cons, not_or] at hcs
    obtain ⟨hc, hrest⟩ := hcs
    rw [splitParts_cons_of_ne (Ne.symm hc), ih hrest, List.modifyHead_cons]

/-- The first part ends before the first comma with a blank behind it. -/
theorem splitParts_append {cs : List Char} (hcs : ',' ∉ cs) (rest : List Char) :
    splitParts (cs ++ ',' :: ' ' :: rest) = cs :: splitParts rest := by
  induction cs with
  | nil => rfl
  | cons c cs ih =>
    rw [List.mem_cons, not_or] at hcs
    obtain ⟨hc, hrest⟩ := hcs
    rw [List.cons_append, splitParts_cons_of_ne (Ne.symm hc), ih hrest, List.modifyHead_cons]

/-- Names without a comma that are joined by commas and blanks can be told apart. -/
theorem splitNames_intercalate {names : List String} (hne : names ≠ [])
    (hnames : ∀ name ∈ names, ',' ∉ name.toList) :
    splitNames (", ".intercalate names) = names := by
  induction names with
  | nil => exact absurd rfl hne
  | cons name names ih =>
    obtain ⟨hname, hrest⟩ := List.forall_mem_cons.mp hnames
    cases names with
    | nil => simp [splitNames, splitParts_of_notMem hname]
    | cons next names =>
      have hlater := ih (by simp) hrest
      have hchars : (", ".intercalate (name :: next :: names)).toList =
          name.toList ++ ',' :: ' ' :: (", ".intercalate (next :: names)).toList := by
        rw [String.intercalate_cons_cons, String.toList_append, String.toList_append,
          List.append_assoc]
        rfl
      rw [splitNames, hchars, splitParts_append hname, List.map_cons, String.ofList_toList]
      exact congrArg (name :: ·) hlater

/-- Every text has a first part. -/
theorem splitParts_ne_nil (cs : List Char) : splitParts cs ≠ [] := by
  fun_induction splitParts cs with
  | case1 => exact List.cons_ne_nil _ _
  | case2 rest ih => exact List.cons_ne_nil _ _
  | case3 c rest hnone ih => exact mt List.modifyHead_eq_nil_iff.mp ih

/-- The parts of a text are joined to the text again. -/
theorem intercalate_splitParts (cs : List Char) : [',', ' '].intercalate (splitParts cs) = cs := by
  fun_induction splitParts cs with
  | case1 => rfl
  | case2 rest ih =>
    rw [List.intercalate_cons_of_ne_nil (splitParts_ne_nil rest), ih]
    rfl
  | case3 c rest hnone ih =>
    -- The character is put in front of the first part, whatever stands behind that part.
    cases hparts : splitParts rest with
    | nil => exact absurd hparts (splitParts_ne_nil rest)
    | cons part parts =>
      rw [hparts] at ih
      rw [List.modifyHead_cons, ← ih]
      cases parts with
      | nil => simp
      | cons next parts => simp [List.intercalate_cons_cons]

/-- The names of a list are joined to the list again. -/
theorem intercalate_splitNames (text : String) : ", ".intercalate (splitNames text) = text := by
  have hchars : (splitNames text).map String.toList = splitParts text.toList := by
    simp [splitNames, Function.comp_def]
  rw [← String.toList_inj, String.toList_intercalate, hchars]
  exact intercalate_splitParts text.toList

end Text

end ArityLadder
