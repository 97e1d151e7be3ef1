import ArityLadder.Proofs.Printing.Documents

/-!
# Chains of branches

A section is one chain of branches that can be cut apart again: every branch ends at the
first line that is a closing brace alone, and only its first line opens a block.

Main results:

- Theorem `Text.cutBehind_flatMap`: joined groups are cut apart again, where only the last
  member of a group ends it.
- Theorem `Section.BodyLine.getLast?_text`: a line of a body ends in one of three marks, and
  so not in a brace.
- Theorem `Plan.cut_sectionText`: a section is cut into its branches.
- Theorem `Plan.sectionText_chain`: the branches of a section ascend in arity, and only
  their first lines open a block.
-/

namespace ArityLadder

namespace Text

/-! ## Cutting lists -/

section Cutting

variable {α β : Type} (p : α → Prop) [DecidablePred p]

/-- Cuts a list behind each member that ends a group: the groups, and what is left over. -/
def cutBehind : List α → List (List α) × List α
  | [] => ([], [])
  | a :: rest =>
    match cutBehind rest with
    | (groups, left) =>
      if p a then ([a] :: groups, left)
      else
        match groups with
        | [] => ([], a :: left)
        | group :: groups => ((a :: group) :: groups, left)

/-- Nothing is lost by cutting. -/
theorem flatten_cutBehind (as : List α) :
    (cutBehind p as).1.flatten ++ (cutBehind p as).2 = as := by
  induction as with
  | nil => rfl
  | cons a rest ih =>
    rw [cutBehind]
    by_cases ha : p a
    · simp [ha, ih]
    · cases hgroups : (cutBehind p rest).1 with
      | nil => simp_all
      | cons group groups => simp_all

variable {p}

/-- The first group ends at the first member that ends one. -/
theorem cutBehind_append_cons {front : List α} {last : α} (hfront : ∀ a ∈ front, ¬p a)
    (hlast : p last) (rest : List α) :
    cutBehind p (front ++ last :: rest) =
      ((front ++ [last]) :: (cutBehind p rest).1, (cutBehind p rest).2) := by
  induction front with
  | nil => simp [cutBehind, hlast]
  | cons a front ih =>
    have ha := hfront a List.mem_cons_self
    have hrest := ih fun b hb => hfront b (List.mem_cons_of_mem _ hb)
    rw [List.cons_append, cutBehind, hrest]
    simp [ha]

/-- Joined groups are cut apart again, where only the last member of a group ends it. -/
theorem cutBehind_flatMap (front : β → List α) {last : α}
    (hfront : ∀ b, ∀ a ∈ front b, ¬p a) (hlast : p last) (bs : List β) :
    cutBehind p (bs.flatMap fun b => front b ++ [last]) =
      (bs.map fun b => front b ++ [last], []) := by
  induction bs with
  | nil => rfl
  | cons b bs ih =>
    rw [List.flatMap_cons, List.append_assoc, List.singleton_append,
      cutBehind_append_cons (hfront b) hlast, ih, List.map_cons]

end Cutting

/-- A joined text ends in the last character of its second part, if that has one. -/
theorem getLast?_append {a b : String} {c : Char} (hlast : b.toList.getLast? = some c) :
    (a ++ b).toList.getLast? = some c := by
  rw [String.toList_append, List.getLast?_append, hlast]
  rfl

end Text

/-! ## Lines that open and close a branch -/

namespace Branch

/-- Whether a line opens a block. -/
def Opens (line : String) : Prop := [' ', '\x7b'] <:+ line.toList

instance (line : String) : Decidable (Opens line) :=
  inferInstanceAs (Decidable ([' ', '\x7b'] <:+ line.toList))

/-- The branches of a text, each as its lines, and the lines left over behind the last. -/
def cut (text : String) : List (List String) × List String :=
  Text.cutBehind (· = closing) (Text.lines text)

/-- A line that opens a block ends in an opening brace. -/
theorem Opens.getLast?_eq {line : String} (hopens : Opens line) :
    line.toList.getLast? = some '\x7b' := by
  obtain ⟨front, hfront⟩ := hopens
  rw [← hfront]
  simp

/-- The first line of a branch opens a block. -/
theorem opens_opening (branch : Branch) : Opens branch.opening := by
  refine ⟨(keyword branch.arity ++ " constexpr (" ++ branch.condition ++ ")").toList, ?_⟩
  unfold opening
  simp

/-- The last line of a branch ends in a closing brace. -/
theorem getLast?_closing : closing.toList.getLast? = some '\x7d' := rfl

/-- The last line of a branch opens no block. -/
theorem not_opens_closing : ¬Opens closing := by
  intro hopens
  have hlast := hopens.getLast?_eq
  rw [getLast?_closing] at hlast
  simp at hlast

/-- The first line of a branch does not close it. -/
theorem opening_ne_closing (branch : Branch) : branch.opening ≠ closing := by
  intro heq
  have hopens := branch.opens_opening
  rw [heq] at hopens
  exact not_opens_closing hopens

end Branch

open Text

namespace Section

/-- A line of a body ends in a semicolon, in a comma or in an opening parenthesis. -/
theorem BodyLine.getLast?_text {arity : Arity} {line : Line} (hline : BodyLine arity line) :
    ∃ c ∈ [';', ',', '('], line.text.toList.getLast? = some c := by
  cases hline with
  | assertion => exact ⟨';', by simp, getLast?_append rfl⟩
  | binding source => exact ⟨';', by simp, getLast?_append rfl⟩
  | access index => exact ⟨';', by simp, getLast?_append rfl⟩
  | tuple => exact ⟨'(', by simp, rfl⟩
  | pair index =>
    by_cases hend : index + 1 = arity.count
    · refine ⟨';', by simp, ?_⟩
      rw [if_pos hend]
      exact getLast?_append rfl
    · refine ⟨',', by simp, ?_⟩
      rw [if_neg hend]
      exact getLast?_append rfl
  | assign index => exact ⟨';', by simp, getLast?_append rfl⟩

/-- A printed line of a body neither opens a block nor closes the branch. -/
theorem BodyLine.render_inner {arity : Arity} {line : Line} (hline : BodyLine arity line)
    (indent : Indent) :
    ¬Branch.Opens (line.render indent) ∧ line.render indent ≠ Branch.closing := by
  obtain ⟨c, hc, hlast⟩ := hline.getLast?_text
  have hrender : (line.render indent).toList.getLast? = some c := by
    rw [Line.render]
    exact getLast?_append hlast
  constructor
  · intro hopens
    rw [hopens.getLast?_eq] at hrender
    rw [← Option.some.inj hrender] at hc
    simp at hc
  · intro heq
    rw [heq, Branch.getLast?_closing] at hrender
    rw [← Option.some.inj hrender] at hc
    simp at hc

/-- Behind its first line a branch opens no block. -/
theorem not_opens_of_mem_tail {kind : Section} {arity : Arity} {indent : Indent} {line : String}
    (hline : line ∈ ((kind.branch arity).lines indent).tail) : ¬Branch.Opens line := by
  rw [Branch.lines, List.tail_cons] at hline
  rcases List.mem_append.mp hline with hline | hline
  · obtain ⟨said, hsaid, rfl⟩ := List.mem_map.mp hline
    exact ((bodyLine_of_mem hsaid).render_inner indent).1
  · rw [List.mem_singleton.mp hline]
    exact Branch.not_opens_closing

/-- Before its last line a branch is not closed. -/
theorem ne_closing_of_mem {kind : Section} {arity : Arity} {indent : Indent} {line : String}
    (hline : line ∈ (kind.branch arity).opening ::
      (kind.branch arity).body.map (Line.render indent)) : line ≠ Branch.closing := by
  rcases List.mem_cons.mp hline with rfl | hline
  · exact Branch.opening_ne_closing _
  · obtain ⟨said, hsaid, rfl⟩ := List.mem_map.mp hline
    exact ((bodyLine_of_mem hsaid).render_inner indent).2

/-- Some lines are the branch of a section for an arity: their text is its fragment, and the
first of them, which joins the chain, is the only one that opens a block. -/
structure IsPiece (kind : Section) (indent : Indent) (arity : Arity) (piece : List String) :
    Prop where
  text_eq : "\n".intercalate piece = (Fragment.make indent kind arity).text
  head?_eq : piece.head? = some
    ((if arity.count = 1 then "if" else "else if") ++ " constexpr (" ++ kind.guard arity ++
      ") \x7b")
  opens_head : ∀ line ∈ piece.head?, Branch.Opens line
  not_opens : ∀ line ∈ piece.tail, ¬Branch.Opens line

/-- The opening of a branch carries an `else` unless it is for one field. -/
theorem opening_eq (kind : Section) (arity : Arity) :
    (kind.branch arity).opening =
      (if arity.count = 1 then "if" else "else if") ++ " constexpr (" ++ kind.guard arity ++
        ") \x7b" := by
  simp only [Branch.opening, branch, Branch.keyword, Arity.isFirst, beq_iff_eq]

/-- The lines of a branch are its piece. -/
theorem isPiece_lines (kind : Section) (indent : Indent) (arity : Arity) :
    kind.IsPiece indent arity ((kind.branch arity).lines indent) where
  text_eq := rfl
  head?_eq := congrArg some (kind.opening_eq arity)
  opens_head := by
    intro line hline
    rw [← Option.some.inj hline]
    exact Branch.opens_opening _
  not_opens := fun _ => not_opens_of_mem_tail

end Section

namespace Plan

/-! ## Sections as chains -/

/-- The branch of an arity within the range stands at its distance from the first. -/
theorem getElem?_arities {plan : Plan} {arity : Arity} (hfirst : plan.first ≤ arity)
    (hlast : arity ≤ plan.last) :
    plan.arities[arity.count - plan.first.count]? = some arity := by
  rw [Arity.le_def] at hfirst hlast
  have hcount : (plan.arities.map Arity.count)[arity.count - plan.first.count]? =
      some arity.count := by
    rw [map_count_arities, List.getElem?_range' (by omega)]
    congr 1
    omega
  rw [List.getElem?_map] at hcount
  obtain ⟨found, hfound, heq⟩ := Option.map_eq_some_iff.mp hcount
  rw [hfound, Arity.ext heq]

/-- Behind the first arity of a plan there is none for one field. -/
theorem one_lt_of_mem_tail_arities {plan : Plan} {arity : Arity}
    (harity : arity ∈ plan.arities.tail) : 1 < arity.count := by
  have hmem : arity.count ∈ (plan.arities.map Arity.count).tail := by
    rw [← List.map_tail]
    exact List.mem_map_of_mem harity
  have hpos := plan.first.pos
  rw [map_count_arities, List.tail_range'] at hmem
  have hrange := List.mem_range'_1.mp hmem
  omega

/-- A section with branches consists of their lines. -/
theorem lines_sectionText {plan : Plan} (hne : plan.arities ≠ []) (kind : Section) :
    Text.lines (plan.sectionText kind) = plan.branchLines kind := by
  have hlines : plan.branchLines kind ≠ [] := mt (plan.branchLines_eq_nil_iff kind).mp hne
  rw [sectionText_eq_intercalate, sectionLines, if_neg hlines]
  apply lines_intercalate hlines
  intro line hline
  obtain ⟨arity, -, hmem⟩ := List.mem_flatMap.mp hline
  exact Section.isLine_of_mem_lines hmem

/-- A section is cut into its branches, and nothing is left over. -/
theorem cut_sectionText {plan : Plan} (hne : plan.arities ≠ []) (kind : Section) :
    Branch.cut (plan.sectionText kind) =
      (plan.arities.map fun arity => (kind.branch arity).lines plan.indent, []) := by
  rw [Branch.cut, lines_sectionText hne]
  exact cutBehind_flatMap
    (fun arity => (kind.branch arity).opening ::
      (kind.branch arity).body.map (Line.render plan.indent))
    (fun _ _ => Section.ne_closing_of_mem) rfl plan.arities

/-- Behind the first line of a section, a line that opens a block continues the chain. -/
theorem continues_of_mem_tail_branchLines {plan : Plan} {kind : Section} {line : String}
    (hline : line ∈ (plan.branchLines kind).tail) (hopens : Branch.Opens line) :
    "else if constexpr (".toList <+: line.toList := by
  rw [branchLines] at hline
  cases harities : plan.arities with
  | nil => simp [harities] at hline
  | cons first rest =>
    rw [harities, List.flatMap_cons, Branch.lines, List.cons_append, List.tail_cons,
      List.mem_append] at hline
    rcases hline with hline | hline
    · exact absurd hopens (Section.not_opens_of_mem_tail hline)
    · obtain ⟨arity, harity, hmem⟩ := List.mem_flatMap.mp hline
      have htail : arity ∈ plan.arities.tail := by
        rw [harities]
        exact harity
      have hcount := one_lt_of_mem_tail_arities htail
      rcases List.mem_cons.mp hmem with rfl | hmem
      · rw [Section.opening_eq, if_neg (by omega)]
        simp
      · exact absurd hopens (Section.not_opens_of_mem_tail hmem)

/-- Where the first arity of a plan does not lie behind the last, a section is cut into as many
pieces as there are arities, and these are its branches in ascending order: nothing is left
over, only the first line of a piece opens a block, and all but the first line of the section
that do so continue the chain.  Otherwise the section is empty. -/
theorem sectionText_chain (plan : Plan) (kind : Section) :
    (plan.first ≤ plan.last → ∃ pieces,
      Branch.cut (plan.sectionText kind) = (pieces, []) ∧
      pieces.length = plan.last.count - plan.first.count + 1 ∧
      "\n".intercalate (pieces.map ("\n".intercalate ·)) = plan.sectionText kind ∧
      pieces.flatten = Text.lines (plan.sectionText kind) ∧
      (∀ arity, plan.first ≤ arity → arity ≤ plan.last → ∃ piece,
        pieces[arity.count - plan.first.count]? = some piece ∧
          kind.IsPiece plan.indent arity piece) ∧
      ∀ line ∈ (Text.lines (plan.sectionText kind)).tail, Branch.Opens line →
        "else if constexpr (".toList <+: line.toList) ∧
    (plan.last < plan.first → plan.sectionText kind = "") := by
  constructor
  · intro hle
    have hne : plan.arities ≠ [] := by
      rw [ne_eq, arities_eq_nil_iff, Arity.lt_def]
      rw [Arity.le_def] at hle
      omega
    have hlines := lines_sectionText hne kind
    refine ⟨_, cut_sectionText hne kind, ?_, ?_, ?_, ?_, ?_⟩
    · rw [List.length_map, ← List.length_map (f := Arity.count), map_count_arities,
        List.length_range']
      rw [Arity.le_def] at hle
      omega
    · rw [List.map_map]
      rfl
    · have hflatten := flatten_cutBehind (· = Branch.closing) (Text.lines (plan.sectionText kind))
      rw [← Branch.cut, cut_sectionText hne, List.append_nil] at hflatten
      exact hflatten
    · intro arity hfirst hlast
      refine ⟨_, ?_, kind.isPiece_lines plan.indent arity⟩
      rw [List.getElem?_map, getElem?_arities hfirst hlast]
      rfl
    · intro line hline hopens
      rw [hlines] at hline
      exact continues_of_mem_tail_branchLines hline hopens
  · intro hlt
    rw [sectionText, (arities_eq_nil_iff plan).mpr hlt]
    rfl

/-- At a width of zero, two accessors are told apart, and a range the wrong way round is empty. -/
theorem sectionText_chain_two :
    let plan : Plan := ⟨.one, ⟨2, by decide, by decide⟩, [], .spaces 0, false⟩
    (∃ pieces, Branch.cut (plan.sectionText .accessor) = (pieces, []) ∧ pieces.length = 2 ∧
      ∃ piece, pieces[1]? = some piece ∧ Section.accessor.IsPiece (.spaces 0) plan.last piece) ∧
    { plan with first := plan.last, last := plan.first }.sectionText .extractor = "" := by
  intro plan
  obtain ⟨pieces, hcut, hlength, -, -, hpieces, -⟩ :=
    (plan.sectionText_chain .accessor).1 (by decide)
  have hempty :=
    (sectionText_chain { plan with first := plan.last, last := plan.first } .extractor).2 (by decide)
  exact ⟨⟨pieces, hcut, hlength, hpieces plan.last (by decide) (by decide)⟩, hempty⟩

end Plan

end ArityLadder
