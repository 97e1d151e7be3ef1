import ArityLadder.Fragment
import ArityLadder.Proofs.Text.Lines

/-!
# Lines of fragments

Every line that a section prints for an arity is printable behind its indentation and
not empty, and the first lines of the branches differ for different arities.

Main results:

- Theorem `Section.bodyLine_of_mem`: the lines of a body have one of six forms.
- Theorem `Section.BodyLine.depth_le`: these lines are indented by two levels at most.
- Theorems `Section.BodyLine.isPrintable` and `Section.BodyLine.startsWithLetter`: what a
  line of a body says is printable and starts with a letter.
- Theorem `Section.notMem_of_mem_lines`: the lines of a branch hold no control character
  apart from tabs, and so no line end.
- Theorems `Section.arity_of_opening_eq` and `Indent.eq_of_text_eq`: the opening of a
  branch determines its arity, and an indented line the indentation.
-/

namespace ArityLadder

open Text

/-! ## Printable parts -/

/-- The decimal text of an arity is printable. -/
theorem Arity.isPrintable_text (arity : Arity) : IsPrintable arity.text :=
  isPrintable_repr arity.count

namespace Bindings

/-- A bound name is printable. -/
theorem isPrintable_nameAt (index : Nat) : IsPrintable (nameAt index) :=
  isPrintable_append.mpr ⟨by decide, isPrintable_repr _⟩

/-- The statement that binds the names of an arity is printable. -/
theorem isPrintable_destructure (arity : Arity) {source : String} (hsource : IsPrintable source) :
    IsPrintable ((ofArity arity).destructure source) := by
  have hnames : IsPrintable (", ".intercalate (ofArity arity).names) := by
    refine isPrintable_intercalate (by decide) ?_
    intro name hname
    obtain ⟨index, -, rfl⟩ := List.mem_map.mp hname
    exact isPrintable_nameAt index
  unfold destructure
  simp only [isPrintable_append, hnames, hsource, and_true]
  decide +kernel

/-- Each name stands beside the position that its number tells. -/
theorem indexed_ofArity (arity : Arity) :
    (ofArity arity).indexed =
      (List.range arity.count).map fun index => (index, nameAt index) := by
  apply List.ext_getElem
  · simp [indexed, ofArity]
  · intro index hleft hright
    simp [indexed, ofArity]

/-- What is made of every position and its name is made of a position and its name. -/
theorem exists_of_mem_map_indexed {α : Type} {arity : Arity} {f : Nat × String → α} {x : α}
    (hmem : x ∈ (ofArity arity).indexed.map f) : ∃ index, x = f (index, nameAt index) := by
  rw [indexed_ofArity, List.map_map] at hmem
  obtain ⟨index, -, hindex⟩ := List.mem_map.mp hmem
  exact ⟨index, hindex.symm⟩

end Bindings

namespace Section

/-- The condition of a branch is printable. -/
theorem isPrintable_guard (arity : Arity) (kind : Section) : IsPrintable (kind.guard arity) := by
  have htext := arity.isPrintable_text
  unfold guard
  cases kind <;> simp only [isPrintable_append, htext, and_true] <;> decide +kernel

/-- The assertion that an index stays below the arity is printable. -/
theorem isPrintable_indexAssertion (arity : Arity) : IsPrintable (indexAssertion arity) := by
  have htext := arity.isPrintable_text
  have hfields : IsPrintable (if arity.isFirst then "field" else "fields") := by
    split <;> decide
  unfold indexAssertion
  -- Only the literals are left, and these are evaluated.
  simp only [isPrintable_append, htext, hfields, and_true]
  decide +kernel

/-- The statement that returns a field is printable. -/
theorem isPrintable_accessStatement (index : Nat) :
    IsPrintable (accessStatement index (Bindings.nameAt index)) := by
  have hindex : IsPrintable (toString index) := isPrintable_repr index
  have hname := Bindings.isPrintable_nameAt index
  unfold accessStatement
  simp only [isPrintable_append, hindex, hname, and_true]
  decide +kernel

/-- A field paired with its name is printable. -/
theorem isPrintable_namedField (index : Nat) :
    IsPrintable (namedField index (Bindings.nameAt index)) := by
  have hindex : IsPrintable (toString index) := isPrintable_repr index
  have hname := Bindings.isPrintable_nameAt index
  unfold namedField
  simp only [isPrintable_append, hindex, hname, and_true]
  decide +kernel

/-- The statement that assigns a field is printable. -/
theorem isPrintable_assignStatement (index : Nat) :
    IsPrintable (assignStatement index (Bindings.nameAt index)) := by
  have hindex : IsPrintable (toString index) := isPrintable_repr index
  have hname := Bindings.isPrintable_nameAt index
  unfold assignStatement
  simp only [isPrintable_append, hindex, hname, and_true]
  decide +kernel

/-! ## The lines of a body -/

/-- The line of an extractor for the field at an index. -/
def pairLine (arity : Arity) (index : Nat) : Line :=
  ⟨2, namedField index (Bindings.nameAt index) ++
    (if index + 1 = arity.count then ");" else ",")⟩

/-- The body of an extractor binds the names, opens a list of arguments and pairs each field with
its name. -/
theorem body_extractor (arity : Arity) :
    extractor.body arity =
      ⟨1, (Bindings.ofArity arity).destructure "t"⟩ :: ⟨1, "return std::tuple("⟩ ::
        (List.range arity.count).map (pairLine arity) := by
  unfold body pairLine
  dsimp only
  rw [Bindings.indexed_ofArity, List.map_map]
  congr 2
  apply List.map_congr_left
  intro index hindex
  have hlast := Bindings.eq_lastIndex_iff (List.mem_range.mp hindex)
  simp only [Function.comp_apply, hlast]

/-- The forms of the lines in the body of a branch for an arity. -/
inductive BodyLine (arity : Arity) : Line → Prop where
  | assertion : BodyLine arity ⟨1, indexAssertion arity⟩
  | binding (source : String) (hsource : source = "t" ∨ source = "out") :
      BodyLine arity ⟨1, (Bindings.ofArity arity).destructure source⟩
  | access (index : Nat) : BodyLine arity ⟨1, accessStatement index (Bindings.nameAt index)⟩
  | tuple : BodyLine arity ⟨1, "return std::tuple("⟩
  | pair (index : Nat) :
      BodyLine arity ⟨2, namedField index (Bindings.nameAt index) ++
        (if index + 1 = arity.count then ");" else ",")⟩
  | assign (index : Nat) : BodyLine arity ⟨1, assignStatement index (Bindings.nameAt index)⟩

/-- Every line of a body has one of these forms. -/
theorem bodyLine_of_mem {arity : Arity} {kind : Section} {line : Line}
    (hline : line ∈ kind.body arity) : BodyLine arity line := by
  cases kind with
  | accessor =>
    rcases List.mem_cons.mp hline with rfl | hline
    · exact .assertion
    rcases List.mem_cons.mp hline with rfl | hline
    · exact .binding "t" (.inl rfl)
    · obtain ⟨index, rfl⟩ := Bindings.exists_of_mem_map_indexed hline
      exact .access index
  | extractor =>
    rw [body_extractor] at hline
    rcases List.mem_cons.mp hline with rfl | hline
    · exact .binding "t" (.inl rfl)
    rcases List.mem_cons.mp hline with rfl | hline
    · exact .tuple
    · obtain ⟨index, -, rfl⟩ := List.mem_map.mp hline
      exact .pair index
  | deserializer =>
    rcases List.mem_cons.mp hline with rfl | hline
    · exact .binding "out" (.inr rfl)
    · obtain ⟨index, rfl⟩ := Bindings.exists_of_mem_map_indexed hline
      exact .assign index

/-- The lines of a body are indented by two levels at most. -/
theorem BodyLine.depth_le {arity : Arity} {line : Line} (hline : BodyLine arity line) :
    line.depth.toNat ≤ 2 := by
  cases hline with
  | pair => exact Nat.le_refl 2
  | assertion | binding | access | tuple | assign => exact Nat.le_succ 1

/-- What a line of a body says is printable. -/
theorem BodyLine.isPrintable {arity : Arity} {line : Line} (hline : BodyLine arity line) :
    IsPrintable line.text := by
  cases hline with
  | assertion => exact isPrintable_indexAssertion arity
  | binding source hsource =>
    have hprintable : IsPrintable source := by
      rcases hsource with rfl | rfl <;> decide
    exact Bindings.isPrintable_destructure arity hprintable
  | access index => exact isPrintable_accessStatement index
  | tuple => decide
  | pair index =>
    refine isPrintable_append.mpr ⟨isPrintable_namedField index, ?_⟩
    split <;> decide
  | assign index => exact isPrintable_assignStatement index

/-- What a line of a body says starts with a letter. -/
theorem BodyLine.startsWithLetter {arity : Arity} {line : Line} (hline : BodyLine arity line) :
    StartsWithLetter line.text := by
  unfold StartsWithLetter
  cases hline with
  | assertion =>
    unfold indexAssertion
    simp
  | binding source => simp [Bindings.destructure]
  | access index =>
    unfold accessStatement
    simp
  | tuple => simp
  | pair index =>
    unfold namedField
    simp
  | assign index =>
    unfold assignStatement
    simp

end Section

/-! ## Lines -/

/-- An indentation consists of tabs or of spaces. -/
theorem Indent.notMem_text {c : Char} (htab : c ≠ '\t') (hspace : c ≠ ' ') (indent : Indent)
    (depth : UInt64) : c ∉ (indent.text depth).toList := by
  intro hmem
  rw [toList_text] at hmem
  have hchar := List.eq_of_mem_replicate hmem
  cases indent with
  | tab => exact htab hchar
  | spaces width => exact hspace hchar

/-- The opening of a branch is printable. -/
theorem Section.isPrintable_opening (kind : Section) (arity : Arity) :
    IsPrintable (kind.branch arity).opening := by
  have hkeyword : IsPrintable (Branch.keyword arity) := by
    unfold Branch.keyword
    split <;> decide
  have hguard := kind.isPrintable_guard arity
  unfold Branch.opening branch
  simp only [isPrintable_append, hkeyword, hguard, true_and, and_true]
  decide +kernel

/-- The lines of a branch hold no control character apart from tabs. -/
theorem Section.notMem_of_mem_lines {kind : Section} {arity : Arity} {indent : Indent}
    {line : String} (hline : line ∈ (kind.branch arity).lines indent) {c : Char}
    (hc : c.toNat < 32) (htab : c ≠ '\t') : c ∉ line.toList := by
  rcases List.mem_cons.mp hline with rfl | hline
  · exact (kind.isPrintable_opening arity).notMem hc
  rcases List.mem_append.mp hline with hline | hline
  · obtain ⟨said, hsaid, rfl⟩ := List.mem_map.mp hline
    have hspace : c ≠ ' ' := by
      rintro rfl
      exact absurd hc (by decide)
    have htext := (bodyLine_of_mem hsaid).isPrintable.notMem hc
    have hindent := indent.notMem_text htab hspace said.depth
    rw [Line.render, String.toList_append, List.mem_append, not_or]
    exact ⟨hindent, htext⟩
  · rw [List.mem_singleton.mp hline]
    exact (by decide : IsPrintable Branch.closing).notMem hc

/-- The lines of a branch hold no line end. -/
theorem Section.isLine_of_mem_lines {kind : Section} {arity : Arity} {indent : Indent}
    {line : String} (hline : line ∈ (kind.branch arity).lines indent) : IsLine line :=
  notMem_of_mem_lines hline (by decide) (by decide)

/-- The text of a branch consists of its printed lines. -/
theorem Branch.lines_text {indent : Indent} {branch : Branch}
    (hlines : ∀ line ∈ branch.lines indent, IsLine line) :
    Text.lines (branch.text indent) = branch.lines indent :=
  lines_intercalate (List.cons_ne_nil _ _) hlines

/-- The lines of a fragment are those of its branch. -/
theorem Fragment.lines_text (indent : Indent) (kind : Section) (arity : Arity) :
    lines (make indent kind arity).text = (kind.branch arity).lines indent :=
  Branch.lines_text fun _ => Section.isLine_of_mem_lines

/-- The first line of a body is indented by one level, and what it says does not depend on
the indentation. -/
theorem Section.exists_body_eq_cons (kind : Section) (arity : Arity) :
    ∃ said rest, kind.body arity = ⟨1, said⟩ :: rest := by
  cases kind with
  | accessor => exact ⟨_, _, rfl⟩
  | extractor => exact ⟨_, _, rfl⟩
  | deserializer => exact ⟨_, _, rfl⟩

/-- No line of a branch is empty. -/
theorem Section.ne_empty_of_mem_lines {kind : Section} {arity : Arity} {indent : Indent} {line : String}
    (hline : line ∈ (kind.branch arity).lines indent) : line ≠ "" := by
  rcases List.mem_cons.mp hline with rfl | hline
  · unfold Branch.opening
    simp
  rcases List.mem_append.mp hline with hline | hline
  · obtain ⟨said, hsaid, rfl⟩ := List.mem_map.mp hline
    have hletter := (bodyLine_of_mem hsaid).startsWithLetter
    intro hempty
    have hsaidEmpty : said.text = "" := by
      unfold Line.render at hempty
      exact (String.append_eq_empty_iff.mp hempty).2
    simp [StartsWithLetter, hsaidEmpty] at hletter
  · rw [List.mem_singleton.mp hline]
    decide

/-- Every line of a branch starts with a letter, with its indentation or with the closing brace. -/
theorem Section.head?_ne_of_mem_lines {kind : Section} {arity : Arity} {indent : Indent}
    {line : String} (hline : line ∈ (kind.branch arity).lines indent) {c : Char}
    (hletter : c.isAlpha = false) (htab : c ≠ '\t') (hspace : c ≠ ' ') (hclosing : c ≠ '\x7d') :
    line.toList.head? ≠ some c := by
  rcases List.mem_cons.mp hline with rfl | hline
  · intro hhead
    have hopening : (kind.branch arity).opening.toList.head?.any Char.isAlpha = true := by
      unfold Branch.opening Branch.keyword
      split <;> simp
    simp [hhead, hletter] at hopening
  rcases List.mem_append.mp hline with hline | hline
  · obtain ⟨said, hsaid, rfl⟩ := List.mem_map.mp hline
    have hstarts := (bodyLine_of_mem hsaid).startsWithLetter
    have hindent := indent.notMem_text htab hspace said.depth
    intro hhead
    rw [Line.render, String.toList_append, List.head?_append] at hhead
    cases hfirst : (indent.text said.depth).toList.head? with
    | none =>
      rw [hfirst, Option.none_or] at hhead
      simp [StartsWithLetter, hhead, hletter] at hstarts
    | some d =>
      rw [hfirst, Option.some_or, Option.some.injEq] at hhead
      rw [hhead] at hfirst
      exact hindent (List.mem_of_head? hfirst)
  · rw [List.mem_singleton.mp hline]
    intro hhead
    exact hclosing (Option.some.inj hhead).symm

/-! ## Reading lines back -/

/-- An indentation by one level determines the indentation. -/
theorem Indent.eq_of_text_eq {a b : Indent} (htext : a.text 1 = b.text 1) : a = b := by
  have hchars := congrArg String.toList htext
  rw [toList_text, toList_text, UInt64.mul_one, UInt64.mul_one] at hchars
  have hlength := congrArg List.length hchars
  rw [List.length_replicate, List.length_replicate] at hlength
  have hwidth : a.width = b.width := UInt64.toNat_inj.mp hlength
  cases a with
  | tab =>
    cases b with
    | tab => rfl
    | spaces n =>
      rw [← hwidth] at hchars
      simp [width, char] at hchars
  | spaces n =>
    cases b with
    | tab =>
      rw [hwidth] at hchars
      simp [width, char] at hchars
    | spaces m => exact congrArg spaces hwidth

/-- The decimal text of an arity determines it. -/
theorem Arity.eq_of_text_eq {a b : Arity} (htext : a.text = b.text) : a = b := by
  apply Arity.ext
  exact Decimal.eq_of_repr_eq htext

/-- The condition of a branch determines its arity. -/
theorem Section.arity_of_guard_eq {kind : Section} {a b : Arity}
    (hguard : kind.guard a = kind.guard b) : a = b := by
  apply Arity.eq_of_text_eq
  unfold guard at hguard
  cases kind with
  | accessor => exact (String.append_right_inj _).mp ((String.append_left_inj _).mp hguard)
  | extractor => exact (String.append_right_inj _).mp ((String.append_left_inj _).mp hguard)
  | deserializer => exact (String.append_right_inj _).mp hguard

/-- The keyword of a branch tells whether it opens the chain. -/
theorem Branch.isFirst_of_keyword_append {a b : Arity} {s t : String}
    (hkeyword : keyword a ++ s = keyword b ++ t) : a.isFirst = b.isFirst := by
  have hhead := congrArg (fun text => text.toList.head?) hkeyword
  unfold keyword at hhead
  by_cases ha : a.isFirst <;> by_cases hb : b.isFirst <;> simp [ha, hb] at hhead ⊢

/-- The opening of a branch tells its condition, and whether it opens the chain, and no more. -/
theorem Branch.opening_eq_iff {a b : Branch} :
    a.opening = b.opening ↔ a.arity.isFirst = b.arity.isFirst ∧ a.condition = b.condition := by
  unfold opening
  constructor
  · intro hopening
    have hcondition := (String.append_left_inj _).mp hopening
    rw [String.append_assoc, String.append_assoc] at hcondition
    have hfirst := isFirst_of_keyword_append hcondition
    unfold keyword at hcondition
    rw [hfirst] at hcondition
    exact ⟨hfirst, (String.append_right_inj _).mp ((String.append_right_inj _).mp hcondition)⟩
  · rintro ⟨hfirst, hcondition⟩
    unfold keyword
    rw [hfirst, hcondition]

/-- The opening of a branch determines its arity. -/
theorem Section.arity_of_opening_eq {kind : Section} {a b : Arity}
    (hopening : (kind.branch a).opening = (kind.branch b).opening) : a = b :=
  arity_of_guard_eq (Branch.opening_eq_iff.mp hopening).2

end ArityLadder
