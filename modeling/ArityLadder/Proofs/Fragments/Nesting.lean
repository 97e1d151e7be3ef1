import ArityLadder.Plan
import ArityLadder.Proofs.Fragments.Lines
import ArityLadder.Proofs.Text.Brackets

/-!
# Nesting of fragments

Every fragment is one block of properly nested brackets.  Only the extractor has lines
that are not nested in themselves: it opens the list of arguments on one line, and the
last of its pairs closes the list.

Main results:

- Theorem `Section.leads_pairLines`: the list of arguments of an extractor stays open
  up to its last pair.
- Theorem `Section.isNested_inner`: what stands between the braces of a branch is nested.
- Theorem `Fragment.nested_text`: fragments and sections are nested, and a fragment is
  one block.
-/

namespace ArityLadder

open ArityLadder.Bracket

/-! ## Parts of lines -/

/-- An indentation has no brackets. -/
theorem Indent.isNested_text (indent : Indent) (depth : UInt64) : IsNested (indent.text depth) := by
  apply leads_of_plain
  intro c hc pair
  rw [Indent.toList_text] at hc
  obtain rfl := List.eq_of_mem_replicate hc
  cases indent <;> cases pair <;> simp [char, opening, closing]

/-- A printed line leads where what it says leads. -/
theorem Line.leads_render {line : Line} {before after : List Bracket} (indent : Indent)
    (hline : Leads line.text before after) :
    Leads ("\n" ++ line.render indent) before after := by
  have hend : IsNested "\n" := by decide
  have hindent := indent.isNested_text line.depth
  exact (hend.leads before).append ((hindent.leads before).append hline)

/-- The decimal text of an arity has no brackets. -/
theorem Arity.leads_text (arity : Arity) (pending : List Bracket) :
    Leads arity.text pending pending :=
  leads_repr arity.count pending

namespace Bindings

/-- A bound name has no brackets. -/
theorem leads_nameAt (index : Nat) (pending : List Bracket) :
    Leads (nameAt index) pending pending := by
  have hletter : IsNested "p" := by decide
  exact (hletter.leads pending).append (leads_repr (index + 1) pending)

/-- The statement that binds the names of an arity is nested. -/
theorem isNested_destructure (arity : Arity) {source : String} (hsource : IsNested source) :
    IsNested ((ofArity arity).destructure source) := by
  have hnames : IsNested (", ".intercalate (ofArity arity).names) := by
    apply IsNested.intercalate (by decide)
    intro name hname
    obtain ⟨index, -, rfl⟩ := List.mem_map.mp hname
    exact leads_nameAt index []
  have hopen : Leads "auto&& [" [] [.square] := by decide
  have hclose : Leads "] = " [.square] [] := by decide
  have hend : IsNested ";" := by decide
  exact (((hopen.append (hnames.leads _)).append hclose).append hsource).append hend

end Bindings

namespace Section

/-! ## Lines that are nested in themselves -/

/-- The condition of a branch is nested. -/
theorem isNested_guard (arity : Arity) (kind : Section) : IsNested (kind.guard arity) := by
  have htext := arity.leads_text []
  have hend : IsNested ">" := by decide
  cases kind with
  | accessor =>
    have hlead : IsNested "has_n_fields<T, " := by decide
    exact (hlead.append htext).append hend
  | extractor =>
    have hlead : IsNested "internal::has_n_fields<T, " := by decide
    exact (hlead.append htext).append hend
  | deserializer =>
    have hlead : IsNested "fieldCount == " := by decide
    exact hlead.append htext

/-- The assertion that an index stays below the arity is nested. -/
theorem isNested_indexAssertion (arity : Arity) : IsNested (indexAssertion arity) := by
  have hopen : Leads "static_assert(N < " [] [.round] := by decide
  have htext := arity.leads_text [.round]
  have hmessage : Leads ", \"Cannot access a field beyond the number within the field. T has "
      [.round] [.round] := by decide
  have hblank : Leads " " [.round] [.round] := by decide
  have hfields : Leads (if arity.isFirst then "field" else "fields") [.round] [.round] := by
    split <;> decide
  have hclose : Leads "\");" [.round] [] := by decide
  exact (((((hopen.append htext).append hmessage).append htext).append hblank).append
    hfields).append hclose

/-- The statement that returns a field is nested. -/
theorem isNested_accessStatement (index : Nat) :
    IsNested (accessStatement index (Bindings.nameAt index)) := by
  have hopen : Leads "if constexpr (N == " [] [.round] := by decide
  have hindex : Leads (toString index) [.round] [.round] := leads_repr index [.round]
  have htype : Leads ") return ptr<decltype(" [.round] [.round] := by decide
  have hname := Bindings.leads_nameAt index
  have haddress : Leads ")>\x7b&" [.round] [.curly] := by decide
  have hclose : Leads "\x7d;" [.curly] [] := by decide
  exact (((((hopen.append hindex).append htype).append (hname _)).append haddress).append
    (hname _)).append hclose

/-- A field paired with its name is nested. -/
theorem isNested_namedField (index : Nat) :
    IsNested (namedField index (Bindings.nameAt index)) := by
  have hopen : Leads "NamedField<decltype(" [] [.round] := by decide
  have hname := Bindings.leads_nameAt index
  have hfield : Leads ")>\x7b.name = getFieldName<T, " [.round] [.curly] := by decide
  have hindex : Leads (toString index) [.curly] [.curly] := leads_repr index [.curly]
  have hvalue : Leads ">(), .value = " [.curly] [.curly] := by decide
  have hclose : Leads "\x7d" [.curly] [] := by decide
  exact (((((hopen.append (hname _)).append hfield).append hindex).append hvalue).append
    (hname _)).append hclose

/-- The statement that assigns a field is nested. -/
theorem isNested_assignStatement (index : Nat) :
    IsNested (assignStatement index (Bindings.nameAt index)) := by
  have hopen : Leads "if (internal::tryAssignFieldFromJsonObject(" [] [.round, .round] := by decide
  have hname := Bindings.leads_nameAt index [.round, .round]
  have hfield : Leads ", getFieldName<T, " [.round, .round] [.round, .round] := by decide
  have hindex : Leads (toString index) [.round, .round] [.round, .round] := leads_repr index _
  have hclose : Leads ">(), jsonObject) == false) return ResultErr();" [.round, .round] [] := by
    decide
  exact (((hopen.append hname).append hfield).append hindex).append hclose

/-! ## The list of arguments -/

/-- A pair leaves the list of arguments open, and the last one closes it. -/
theorem leads_pairLine (arity : Arity) (index : Nat) :
    Leads (pairLine arity index).text [.round]
      (if index + 1 = arity.count then [] else [.round]) := by
  have hpair := (isNested_namedField index).leads [.round]
  unfold pairLine
  by_cases hlast : index + 1 = arity.count
  · rw [if_pos hlast, if_pos hlast]
    have hclose : Leads ");" [.round] [] := by decide
    exact hpair.append hclose
  · rw [if_neg hlast, if_neg hlast]
    have hcomma : Leads "," [.round] [.round] := by decide
    exact hpair.append hcomma

/-- The list of arguments stays open behind the first pairs, and is closed behind all of them. -/
theorem leads_pairLines (arity : Arity) (indent : Indent) {count : Nat}
    (hcount : count ≤ arity.count) :
    Leads (String.join (((List.range count).map (pairLine arity)).map fun line =>
        "\n" ++ line.render indent)) [.round]
      (if count = arity.count then [] else [.round]) := by
  induction count with
  | zero =>
    have hpos := arity.pos
    rw [if_neg (by omega)]
    rfl
  | succ count ih =>
    have hfront := ih (by omega)
    rw [if_neg (by omega)] at hfront
    have hlast := Line.leads_render indent (leads_pairLine arity count)
    rw [List.range_succ, List.map_append, List.map_append, String.join_append]
    apply hfront.append
    rw [List.map_singleton, List.map_singleton, String.join_cons, String.join_nil,
      String.append_empty]
    exact hlast

end Section

/-! ## Blocks -/

namespace Branch

/-- What stands before the opening brace of a branch. -/
def head (branch : Branch) : String :=
  keyword branch.arity ++ " constexpr (" ++ branch.condition ++ ") "

/-- What stands between the braces of a branch. -/
def inner (indent : Indent) (branch : Branch) : String :=
  String.join (branch.body.map fun line => "\n" ++ line.render indent) ++ "\n"

/-- A branch is its head and a block. -/
theorem text_eq (indent : Indent) (branch : Branch) :
    branch.text indent = branch.head ++ "\x7b" ++ branch.inner indent ++ "\x7d" := by
  have hbrace : ") \x7b" = ") " ++ "\x7b" := by decide
  rw [text, lines, Text.intercalate_cons_eq_join, opening, hbrace, List.map_append,
    String.join_append, List.map_map]
  simp only [head, inner, closing, List.map_singleton, String.join_cons, String.join_nil,
    String.append_empty, String.append_assoc]
  rfl

end Branch

namespace Section

/-- What stands before the block of a branch is nested. -/
theorem isNested_head (kind : Section) (arity : Arity) : IsNested (kind.branch arity).head := by
  have hkeyword : IsNested (Branch.keyword arity) := by
    unfold Branch.keyword
    split <;> decide
  have hopen : Leads " constexpr (" [] [.round] := by decide
  have hguard := (kind.isNested_guard arity).leads [.round]
  have hclose : Leads ") " [.round] [] := by decide
  exact ((Leads.append hkeyword hopen).append hguard).append hclose

/-- What stands before the block of a branch has no braces. -/
theorem brace_notMem_head (kind : Section) (arity : Arity) :
    '\x7b' ∉ (kind.branch arity).head.toList := by
  have hkeyword : '\x7b' ∉ (Branch.keyword arity).toList := by
    unfold Branch.keyword
    split <;> decide
  have htext : '\x7b' ∉ arity.text.toList := by
    intro hmem
    rw [Arity.text, Nat.toString_eq_repr, Nat.toList_repr] at hmem
    exact absurd (Decimal.isDigit_of_mem_toDigits hmem) (by decide)
  unfold Branch.head branch guard
  cases kind <;> simp [hkeyword, htext]

/-- What stands between the braces of a branch is nested. -/
theorem isNested_inner (kind : Section) (arity : Arity) (indent : Indent) :
    IsNested ((kind.branch arity).inner indent) := by
  have hend : IsNested "\n" := by decide
  have htarget : IsNested "t" := by decide
  apply IsNested.append _ hend
  cases kind with
  | accessor =>
    apply IsNested.join
    intro text htext
    obtain ⟨line, hline, rfl⟩ := List.mem_map.mp htext
    apply Line.leads_render
    rcases List.mem_cons.mp hline with rfl | hline
    · exact isNested_indexAssertion arity
    rcases List.mem_cons.mp hline with rfl | hline
    · exact Bindings.isNested_destructure arity htarget
    · obtain ⟨index, rfl⟩ := Bindings.exists_of_mem_map_indexed hline
      exact isNested_accessStatement index
  | extractor =>
    have hbinding := Bindings.isNested_destructure arity htarget
    have hopen : Leads "return std::tuple(" [] [.round] := by decide
    have hpairs := leads_pairLines arity indent (Nat.le_refl arity.count)
    rw [if_pos rfl] at hpairs
    rw [branch, body_extractor]
    exact Leads.join_cons (Line.leads_render indent hbinding)
      (Leads.join_cons (Line.leads_render indent hopen) hpairs)
  | deserializer =>
    have htarget : IsNested "out" := by decide
    apply IsNested.join
    intro text htext
    obtain ⟨line, hline, rfl⟩ := List.mem_map.mp htext
    apply Line.leads_render
    rcases List.mem_cons.mp hline with rfl | hline
    · exact Bindings.isNested_destructure arity htarget
    · obtain ⟨index, rfl⟩ := Bindings.exists_of_mem_map_indexed hline
      exact isNested_assignStatement index

/-- The text of a branch is nested. -/
theorem isNested_text (kind : Section) (arity : Arity) (indent : Indent) :
    IsNested ((kind.branch arity).text indent) := by
  have hopen : Leads "\x7b" [] [.curly] := by decide
  have hinner := (kind.isNested_inner arity indent).leads [.curly]
  have hclose : Leads "\x7d" [.curly] [] := by decide
  rw [Branch.text_eq]
  exact ((Leads.append (kind.isNested_head arity) hopen).append hinner).append hclose

end Section

namespace Fragment

/-- Every fragment is nested and is one block: it ends in a closing brace, and everywhere between
its first opening brace and that one the depth of braces is at least one.  The sections of every
plan are nested as well. -/
theorem nested_text :
    (∀ (indent : Indent) (kind : Section) (arity : Arity),
      let text := (make indent kind arity).text
      IsNested text ∧ '\x7b' ∈ text.toList ∧ text.toList.getLast? = some '\x7d' ∧
        ∀ front back, text.toList = front ++ back → '\x7b' ∈ front → '\x7d' ∈ back →
          1 ≤ curly.depth front) ∧
    ∀ (plan : Plan) (kind : Section), IsNested (plan.sectionText kind) := by
  constructor
  · intro indent kind arity text
    have htext : text = (kind.branch arity).head ++ "\x7b" ++ (kind.branch arity).inner indent ++
        "\x7d" := Branch.text_eq indent _
    refine ⟨kind.isNested_text arity indent, ?_, ?_, ?_⟩
    · rw [htext]
      simp
    · rw [htext, String.toList_append]
      exact List.getLast?_concat
    · intro front back hsplit hfront hback
      rw [htext] at hsplit
      exact one_le_depth (kind.isNested_head arity) (kind.brace_notMem_head arity)
        (kind.isNested_inner arity indent) hsplit hfront (List.ne_nil_of_mem hback)
  · intro plan kind
    apply IsNested.intercalate (by decide)
    intro text htext
    obtain ⟨arity, -, rfl⟩ := List.mem_map.mp htext
    exact kind.isNested_text arity plan.indent

/-- Where the extractor for one field, at a width of zero, opens its list of arguments, its block
is open. -/
theorem nested_text_one :
    let front := "if constexpr (internal::has_n_fields<T, 1>) \x7b\nauto&& [p1] = t;\nreturn std::tuple("
    let back := "\nNamedField<decltype(p1)>\x7b.name = getFieldName<T, 0>(), .value = p1\x7d);\n\x7d"
    (make (.spaces 0) .extractor .one).text = front ++ back ∧ 1 ≤ curly.depth front.toList := by
  intro front back
  have htext : (make (.spaces 0) .extractor .one).text = front ++ back := by decide +kernel
  obtain ⟨-, -, -, hdepth⟩ := nested_text.1 (.spaces 0) .extractor .one
  rw [htext, String.toList_append] at hdepth
  exact ⟨htext, hdepth _ _ rfl (by decide +kernel) (by decide +kernel)⟩

end Fragment

end ArityLadder
