import ArityLadder.Proofs.Numerals

/-!
# Lines of text

Texts without a line end are lines, and lines that are joined can be told apart again.
Printable ASCII text is a line.

Main results:

- Theorem `Text.eq_of_intercalate_eq`: a joined text determines its lines, where it is
  not a single empty one.
- Theorem `Text.intercalate_flatMap`: groups of lines may be joined first.
- Theorems `Text.notMem_intercalate`, `Text.count_intercalate` and
  `Text.filter_lines_intercalate`: what is looked for in a joined text is looked for in
  its parts.
- Theorem `Text.eq_of_flatMap_eq`: a run of groups determines the groups when the first
  member of a group does.
- Theorems `Text.IsPrintable.notMem` and `Text.IsPrintable.isLine`: a printable text has
  no control characters, and so it is a line.
-/

namespace ArityLadder

namespace Text

/-! ## Joined texts -/

/-- A joined text is its first part and, behind each separator, another one. -/
theorem intercalate_cons_eq_join (separator text : String) (texts : List String) :
    separator.intercalate (text :: texts) =
      text ++ String.join (texts.map fun next => separator ++ next) := by
  induction texts generalizing text with
  | nil => simp
  | cons next texts ih =>
    rw [String.intercalate_cons_cons, ih, List.map_cons, String.join_cons]
    simp only [String.append_assoc]

/-- What holds of every character of a separator and of the texts holds of every character of the
joined text. -/
theorem forall_mem_intercalate {p : Char → Prop} {separator : String} {texts : List String}
    (hseparator : ∀ c ∈ separator.toList, p c)
    (htexts : ∀ text ∈ texts, ∀ c ∈ text.toList, p c) :
    ∀ c ∈ (separator.intercalate texts).toList, p c := by
  induction texts with
  | nil =>
    intro c hc
    simp at hc
  | cons text texts ih =>
    have htext := htexts text List.mem_cons_self
    have hrest := ih fun t ht => htexts t (List.mem_cons_of_mem _ ht)
    cases texts with
    | nil => rwa [String.intercalate_singleton]
    | cons next texts =>
      rw [String.intercalate_cons_cons]
      simp only [String.toList_append, List.forall_mem_append]
      exact ⟨⟨htext, hseparator⟩, hrest⟩

/-- What does not occur in a separator and in texts does not occur in the joined text. -/
theorem notMem_intercalate {c : Char} {separator : String} {texts : List String}
    (hseparator : c ∉ separator.toList) (htexts : ∀ text ∈ texts, c ∉ text.toList) :
    c ∉ (separator.intercalate texts).toList := by
  simp only [← List.forall_mem_ne] at hseparator htexts ⊢
  exact forall_mem_intercalate hseparator htexts

/-- A character that does not occur in a separator, and equally often in each of some texts, occurs
that often for each of them in the joined text. -/
theorem count_intercalate {c : Char} {separator : String} {texts : List String} {n : Nat}
    (hseparator : c ∉ separator.toList) (htexts : ∀ text ∈ texts, text.toList.count c = n) :
    (separator.intercalate texts).toList.count c = n * texts.length := by
  induction texts with
  | nil => rfl
  | cons text texts ih =>
    have htext := htexts text List.mem_cons_self
    have hrest := ih fun t ht => htexts t (List.mem_cons_of_mem text ht)
    cases texts with
    | nil => simpa using htext
    | cons next texts =>
      rw [String.intercalate_cons_cons, String.toList_append, String.toList_append,
        List.count_append, List.count_append, List.count_eq_zero_of_not_mem hseparator, htext,
        hrest, @List.length_cons _ text, Nat.mul_succ, Nat.add_zero, Nat.add_comm]

/-! ## Lines -/

/-- A text without a line end. -/
def IsLine (text : String) : Prop := '\n' ∉ text.toList

instance (text : String) : Decidable (IsLine text) :=
  inferInstanceAs (Decidable ('\n' ∉ text.toList))

/-- Lines are joined to a line. -/
theorem isLine_append {a b : String} : IsLine (a ++ b) ↔ IsLine a ∧ IsLine b := by
  simp only [IsLine, String.toList_append, List.mem_append, not_or]

/-- Lines are joined to a line behind a separator that is one. -/
theorem isLine_intercalate {separator : String} {texts : List String}
    (hseparator : IsLine separator) (htexts : ∀ text ∈ texts, IsLine text) :
    IsLine (separator.intercalate texts) :=
  notMem_intercalate hseparator htexts

/-- A joined text determines its lines, where it is not a single empty one. -/
theorem eq_of_intercalate_eq {as bs : List String} (has : as ≠ [""]) (hbs : bs ≠ [""])
    (hasLines : ∀ line ∈ as, IsLine line) (hbsLines : ∀ line ∈ bs, IsLine line)
    (htext : "\n".intercalate as = "\n".intercalate bs) : as = bs := by
  have hasSplit := String.toList_split_intercalate (c := '\n') hasLines
  have hbsSplit := String.toList_split_intercalate (c := '\n') hbsLines
  have hsplit : (if as = [] then [""] else as) = if bs = [] then [""] else bs := by
    rw [← hasSplit, ← hbsSplit]
    exact congrArg (fun text => ((text.split '\n').toList.map (·.copy))) htext
  by_cases hasNil : as = [] <;> by_cases hbsNil : bs = []
  · rw [hasNil, hbsNil]
  · rw [if_pos hasNil, if_neg hbsNil] at hsplit
    exact absurd hsplit.symm hbs
  · rw [if_neg hasNil, if_pos hbsNil] at hsplit
    exact absurd hsplit has
  · rw [if_neg hasNil, if_neg hbsNil] at hsplit
    exact hsplit

/-- The lines of a text, which stand between its line ends. -/
def lines (text : String) : List String := (text.split '\n').toList.map (·.copy)

/-- The lines of a joined text are those that were joined. -/
theorem lines_intercalate {as : List String} (hne : as ≠ [])
    (hlines : ∀ line ∈ as, IsLine line) : lines ("\n".intercalate as) = as := by
  have hsplit := String.toList_split_intercalate (c := '\n') hlines
  rw [if_neg hne] at hsplit
  exact hsplit

/-- What is looked for in lines, and is not empty, can be looked for in the joined text. -/
theorem filter_lines_intercalate {as : List String} (hlines : ∀ line ∈ as, IsLine line)
    {p : String → Bool} (hempty : p "" = false) :
    (lines ("\n".intercalate as)).filter p = as.filter p := by
  by_cases hnil : as = []
  · have hsplit := String.toList_split_intercalate (c := '\n') hlines
    rw [if_pos hnil] at hsplit
    rw [show lines ("\n".intercalate as) = [""] from hsplit, hnil]
    simp [hempty]
  · rw [lines_intercalate hnil hlines]

/-- A text that begins in one way does not begin in another one. -/
theorem startsWith_eq_false {text front other : String} (htext : other.toList <+: text.toList)
    (hfront : ¬front.toList <+: other.toList) (hother : ¬other.toList <+: front.toList) :
    text.startsWith front = false := by
  rw [← Bool.not_eq_true, String.startsWith_string_iff]
  intro hbegins
  rcases List.prefix_or_prefix_of_prefix hbegins htext with h | h
  · exact hfront h
  · exact hother h

/-- Groups of lines may be joined first. -/
theorem intercalate_flatMap {α : Type} {f : α → List String} (hf : ∀ a, f a ≠ []) (as : List α) :
    "\n".intercalate (as.map fun a => "\n".intercalate (f a)) =
      "\n".intercalate (as.flatMap f) := by
  induction as with
  | nil => rfl
  | cons a as ih =>
    cases as with
    | nil => simp
    | cons b as =>
      have hrest : (b :: as).flatMap f ≠ [] := by simp [hf b]
      rw [List.map_cons, String.intercalate_cons_of_ne_nil (by simp), ih,
        ← String.intercalate_append_of_ne_nil (hf a) hrest, ← List.flatMap_cons]

/-! ## Runs of groups -/

/-- What stands before the first of a separator is determined. -/
theorem append_cons_inj {α : Type} {x : α} {as bs s t : List α} (has : x ∉ as) (hbs : x ∉ bs)
    (happend : as ++ x :: s = bs ++ x :: t) : as = bs ∧ s = t := by
  induction as generalizing bs with
  | nil =>
    cases bs with
    | nil => exact ⟨rfl, (List.cons.inj happend).2⟩
    | cons b bs =>
      have hhead : x = b := (List.cons.inj happend).1
      exact absurd (hhead ▸ List.mem_cons_self) hbs
  | cons a as ih =>
    cases bs with
    | nil =>
      have hhead : a = x := (List.cons.inj happend).1
      exact absurd (hhead ▸ List.mem_cons_self) has
    | cons b bs =>
      obtain ⟨hhead, htail⟩ := List.cons.inj happend
      have hrest := ih (fun h => has (List.mem_cons_of_mem _ h))
        (fun h => hbs (List.mem_cons_of_mem _ h)) htail
      exact ⟨by rw [hhead, hrest.1], hrest.2⟩

/-- A run of groups determines the groups when the first member of a group does. -/
theorem eq_of_flatMap_eq {α β : Type} {f : α → List β} {key : α → β}
    (hhead : ∀ a, (f a).head? = some (key a)) (hkey : ∀ a b, key a = key b → a = b)
    {as bs : List α} (hrun : as.flatMap f = bs.flatMap f) : as = bs := by
  have hne : ∀ a, f a ≠ [] := by
    intro a hnil
    have hkeyed := hhead a
    simp [hnil] at hkeyed
  induction as generalizing bs with
  | nil =>
    cases bs with
    | nil => rfl
    | cons b bs => simp [hne] at hrun
  | cons a as ih =>
    cases bs with
    | nil => simp [hne] at hrun
    | cons b bs =>
      rw [List.flatMap_cons, List.flatMap_cons] at hrun
      have hfirst := congrArg List.head? hrun
      rw [List.head?_append, List.head?_append, hhead, hhead] at hfirst
      have hab : a = b := hkey a b (Option.some.inj hfirst)
      rw [hab] at hrun
      rw [hab, ih (List.append_cancel_left hrun)]

/-! ## Printable text -/

/-- A text of printable ASCII characters and blanks. -/
def IsPrintable (text : String) : Prop := ∀ c ∈ text.toList, 32 ≤ c.toNat ∧ c.toNat ≤ 126

instance (text : String) : Decidable (IsPrintable text) :=
  decidable_of_decidable_of_iff
    (p := text.toList.all (fun c => decide (32 ≤ c.toNat ∧ c.toNat ≤ 126)) = true)
    (by simp [IsPrintable])

/-- Printable texts are joined to a printable text. -/
theorem isPrintable_append {a b : String} :
    IsPrintable (a ++ b) ↔ IsPrintable a ∧ IsPrintable b := by
  simp only [IsPrintable, String.toList_append, List.forall_mem_append]

/-- Printable texts are joined to a printable text behind a printable separator. -/
theorem isPrintable_intercalate {separator : String} {texts : List String}
    (hseparator : IsPrintable separator) (htexts : ∀ text ∈ texts, IsPrintable text) :
    IsPrintable (separator.intercalate texts) :=
  forall_mem_intercalate hseparator htexts

/-- A decimal text is printable. -/
theorem isPrintable_repr (n : Nat) : IsPrintable n.repr := by
  intro c hc
  rw [Nat.toList_repr] at hc
  have hdigit := Char.isDigit_iff_toNat.mp (Decimal.isDigit_of_mem_toDigits hc)
  have hzero : '0'.toNat = 48 := rfl
  have hnine : '9'.toNat = 57 := rfl
  omega

/-- The decimal text of an integer is printable. -/
theorem isPrintable_toString_int (n : Int) : IsPrintable (toString n) := by
  rw [Int.toString_eq_repr]
  unfold IsPrintable
  cases n with
  | ofNat n =>
    rw [Decimal.toList_repr_ofNat, ← Nat.toList_repr]
    exact isPrintable_repr n
  | negSucc n =>
    rw [Decimal.toList_repr_negSucc, ← Nat.toList_repr, List.forall_mem_cons]
    exact ⟨by decide, isPrintable_repr (n + 1)⟩

/-- Whether a text starts with a letter. -/
def StartsWithLetter (text : String) : Prop := text.toList.head?.any Char.isAlpha = true

/-- A printable text has no control characters. -/
theorem IsPrintable.notMem {text : String} (htext : IsPrintable text) {c : Char}
    (hc : c.toNat < 32) : c ∉ text.toList := by
  intro hmem
  have hrange := htext c hmem
  omega

/-- A printable text is a line. -/
theorem IsPrintable.isLine {text : String} (htext : IsPrintable text) : IsLine text :=
  htext.notMem (by decide)

end Text

end ArityLadder
