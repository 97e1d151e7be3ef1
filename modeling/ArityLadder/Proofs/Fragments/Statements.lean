import ArityLadder.Proofs.Fragments.Lines
import ArityLadder.Proofs.Text.Templates
import Mathlib.Data.List.Nodup

/-!
# Statements of fragments

What the lines between the first and the last one of a fragment say.  Each is read from
its text alone: its indentation is skipped, and the rest is read by the one template that
it begins like.

Main results:

- Theorem `Section.Statement.read?_fill`: a filled template is read by no other template.
- Theorem `Fragment.map_read?_innerLines`: the lines of a fragment say what its section
  has to say for its arity.
- Theorems `Bindings.nodup_names` and `Bindings.splitNames_names`: the names of an arity
  differ, and their list can be taken apart again.
-/

namespace ArityLadder

open Text

namespace Section

/-! ## Reading statements -/

/-- What a line in the body of a branch says. -/
inductive Statement where
  /-- An index is asserted to be below a bound, in a message that states a number of fields. -/
  | assertion (bound stated : Nat) (noun : String)
  /-- Names are bound to the fields of a source. -/
  | binding (names : List String) (source : String)
  /-- For one index a pointer is returned, with the type of a name and the address of a name. -/
  | access (index : Nat) (type address : String)
  /-- A list of arguments begins. -/
  | tuple
  /-- A field has the type of a name, the name at a position and the value of a name, and something
  follows it. -/
  | pair (type : String) (index : Nat) (value : String) (closing : String)
  /-- A name is assigned by the field name at a position, or an error is returned. -/
  | attempt (name : String) (index : Nat)
deriving DecidableEq

namespace Statement

/-- The forms of statements. -/
inductive Form where
  | assertion
  | binding
  | access
  | tuple
  | pair
  | attempt
deriving DecidableEq

namespace Form

/-- Every form. -/
def all : List Form := [assertion, binding, access, tuple, pair, attempt]

/-- What is fixed in the statements of a form. -/
def template : Form → Template
  | assertion => ⟨"static_assert(N < ",
      [", \"Cannot access a field beyond the number within the field. T has ", " ", "\");"]⟩
  | binding => ⟨"auto&& [", ["] = ", ";"]⟩
  | access => ⟨"if constexpr (N == ", [") return ptr<decltype(", ")>\x7b&", "\x7d;"]⟩
  | tuple => ⟨"return std::tuple(", []⟩
  | pair => ⟨"NamedField<decltype(", [")>\x7b.name = getFieldName<T, ", ">(), .value = ", "\x7d"]⟩
  | attempt => ⟨"if (internal::tryAssignFieldFromJsonObject(",
      [", getFieldName<T, ", ">(), jsonObject) == false) return ResultErr();"]⟩

/-- The statement that has some words in its gaps, and what follows it. -/
def statement? : Form → List String → List Char → Option Statement
  | assertion, [bound, stated, noun], [] => do
    let bound ← Decimal.number? bound
    let stated ← Decimal.number? stated
    return .assertion bound stated noun
  | binding, [names, source], [] => some (.binding (splitNames names) source)
  | access, [index, type, address], [] => (Decimal.number? index).map (.access · type address)
  | tuple, [], [] => some .tuple
  | pair, [type, index, value], closing =>
    (Decimal.number? index).map (.pair type · value (String.ofList closing))
  | attempt, [name, index], [] => (Decimal.number? index).map (.attempt name)
  | _, _, _ => none

theorem mem_all (form : Form) : form ∈ all := by cases form <;> decide

/-- A template does not begin with a blank. -/
theorem front_eq_cons (form : Form) :
    ∃ c cs, form.template.front.toList = c :: cs ∧ c.isWhitespace = false := by
  cases form <;> exact ⟨_, _, rfl, by decide⟩

/-- No template begins like another one. -/
theorem not_prefix {a b : Form} (hne : a ≠ b) :
    ¬a.template.front.toList <+: b.template.front.toList := by
  cases a <;> cases b <;> first | exact absurd rfl hne | decide

/-- Every gap is followed by a fixed text, which does not begin with a letter or a digit. -/
theorem later_ne_empty (form : Form) : ∀ fixed ∈ form.template.later,
    fixed ≠ "" ∧ fixed.toList.head?.any Char.isAlphanum = false := by
  cases form <;> decide

end Form

/-- What a line says behind its indentation. -/
def read? (line : String) : Option Statement :=
  Form.all.findSome? fun form =>
    (form.template.read? (line.toList.dropWhile Char.isWhitespace)).bind fun found =>
      form.statement? found.1 found.2

/-- Words fit into the gaps of every form. -/
theorem Form.forall₂_fits {form : Form} {words : List String}
    (hlength : words.length = form.template.later.length) (hwords : ∀ word ∈ words, IsWord word) :
    List.Forall₂ Template.Fits words form.template.later := by
  refine List.forall₂_iff_zip.mpr ⟨hlength, ?_⟩
  intro word fixed hpair
  obtain ⟨hword, hfixed⟩ := List.of_mem_zip hpair
  exact (hwords word hword).fits (form.later_ne_empty fixed hfixed).2

/-- Where no other form finds something, what one form finds is found. -/
theorem Form.findSome?_all {α : Type} {f : Form → Option α} (form : Form)
    (hother : ∀ other, other ≠ form → f other = none) : all.findSome? f = f form := by
  have hnone : ∀ forms : List Form, form ∉ forms → forms.findSome? f = none := by
    intro forms hforms
    rw [List.findSome?_eq_none_iff]
    exact fun other hmem => hother other (ne_of_mem_of_not_mem hmem hforms)
  obtain ⟨front, back, hsplit⟩ := List.append_of_mem (mem_all form)
  have hnodup : all.Nodup := by decide
  rw [hsplit, List.nodup_middle, List.nodup_cons, List.mem_append, not_or] at hnodup
  obtain ⟨⟨hfront, hback⟩, -⟩ := hnodup
  rw [hsplit, List.findSome?_append, hnone front hfront, Option.none_or, List.findSome?_cons]
  cases hform : f form with
  | none => exact hnone back hback
  | some a => rfl

/-- An indentation is skipped. -/
theorem read?_blank_append {blank : String} (hblank : ∀ c ∈ blank.toList, c.isWhitespace = true)
    (line : String) : read? (blank ++ line) = read? line := by
  rw [read?, read?, String.toList_append, List.dropWhile_append_of_pos hblank]

/-- A filled template is read by its own form only. -/
theorem read?_fill {form : Form} {words : List String}
    (hwords : List.Forall₂ Template.Fits words form.template.later) (rest : String) :
    read? (form.template.fill words ++ rest) = form.statement? words rest.toList := by
  have hbegins : form.template.front.toList <+: (form.template.fill words ++ rest).toList := by
    rw [Template.fill, String.append_assoc, String.toList_append]
    exact List.prefix_append _ _
  have hstart : (form.template.fill words ++ rest).toList.dropWhile Char.isWhitespace =
      (form.template.fill words ++ rest).toList := by
    obtain ⟨c, cs, hfront, hc⟩ := form.front_eq_cons
    obtain ⟨behind, hbehind⟩ := hbegins
    rw [← hbehind, hfront, List.cons_append, List.dropWhile_cons_of_neg (by simp [hc])]
  have hself : form.template.read? (form.template.fill words ++ rest).toList =
      some (words, rest.toList) :=
    (Template.read?_eq_some_iff fun fixed hfixed => (form.later_ne_empty fixed hfixed).1).mpr
      ⟨hwords, String.toList_append⟩
  rw [read?, hstart, form.findSome?_all, hself]
  · rfl
  · intro other hne
    rw [Template.read?_eq_none hbegins (Form.not_prefix hne) (Form.not_prefix hne.symm)]
    rfl

/-- The names and the position of a pair are read as they stand, whether they agree or not. -/
example : read? "\t\tNamedField<decltype(p1)>\x7b.name = getFieldName<T, 3>(), .value = p2\x7d);" =
    some (.pair "p1" 3 "p2" ");") := by decide +kernel

end Statement

end Section

/-! ## Names -/

namespace Bindings

/-- A bound name is a word. -/
@[simp]
theorem isWord_nameAt (index : Nat) : IsWord (nameAt index) := by
  intro c hc
  rw [nameAt, String.toList_append, List.mem_append] at hc
  rcases hc with hc | hc
  · obtain rfl : c = 'p' := by simpa using hc
    decide
  · exact isWord_repr (index + 1) c hc

/-- A bound name determines its position. -/
theorem nameAt_injective : Function.Injective nameAt := by
  intro a b hname
  have hnumber := Decimal.eq_of_repr_eq ((String.append_right_inj _).mp hname)
  omega

/-- The names of an arity differ. -/
theorem nodup_names (arity : Arity) : (ofArity arity).names.Nodup :=
  List.Nodup.map nameAt_injective List.nodup_range

/-- The name of one position stands at this position only. -/
theorem getElem?_names_eq_some_iff {arity : Arity} {position index : Nat} :
    (ofArity arity).names[position]? = some (nameAt index) ↔
      position = index ∧ index < arity.count := by
  rw [ofArity, List.getElem?_map, Option.map_eq_some_iff]
  constructor
  · rintro ⟨found, hfound, hname⟩
    obtain ⟨hlt, rfl⟩ := List.getElem?_eq_some_iff.mp hfound
    have hindex := nameAt_injective hname
    rw [List.getElem_range] at hindex
    rw [List.length_range] at hlt
    exact ⟨hindex, by omega⟩
  · rintro ⟨rfl, hlt⟩
    exact ⟨position, List.getElem?_range hlt, rfl⟩

/-- The names of an arity are words. -/
theorem isWord_of_mem_names {arity : Arity} {name : String}
    (hname : name ∈ (ofArity arity).names) : IsWord name := by
  obtain ⟨index, -, rfl⟩ := List.mem_map.mp hname
  exact isWord_nameAt index

/-- An arity has a name. -/
theorem names_ne_nil (arity : Arity) : (ofArity arity).names ≠ [] := by
  have hpos := arity.pos
  rw [← List.length_pos_iff_ne_nil, length_names]
  omega

/-- The list of the names of an arity can be taken apart again. -/
theorem splitNames_names (arity : Arity) :
    splitNames (", ".intercalate (ofArity arity).names) = (ofArity arity).names := by
  refine splitNames_intercalate (names_ne_nil arity) ?_
  exact fun name hname => (isWord_of_mem_names hname).notMem (by decide)

/-- The list of the names of an arity ends with the first closing bracket behind it. -/
theorem fits_names (arity : Arity) :
    Template.Fits (", ".intercalate (ofArity arity).names) "] = " := by
  refine forall_mem_intercalate (List.all_eq_true.mp (by decide)) ?_
  exact fun name hname => (isWord_of_mem_names hname).fits (by decide)

end Bindings

/-! ## What a section says -/

/-- Whether a line says something, in every indentation. -/
def Line.Says (line : Line) (statement : Section.Statement) : Prop :=
  ∀ indent, Section.Statement.read? (line.render indent) = some statement

/-- A line says what is made of what fits in the gaps of its template. -/
theorem Line.says_of_fill (form : Section.Statement.Form) (words : List String) (rest : String)
    {text : String} {statement : Section.Statement} (htext : text = form.template.fill words ++ rest)
    (hwords : List.Forall₂ Template.Fits words form.template.later)
    (hstatement : form.statement? words rest.toList = some statement) (depth : UInt64) :
    Says ⟨depth, text⟩ statement := by
  intro indent
  have hblank : ∀ c ∈ (indent.text depth).toList, c.isWhitespace = true := by
    intro c hc
    rw [Indent.toList_text] at hc
    obtain rfl := List.eq_of_mem_replicate hc
    cases indent <;> rfl
  rw [Line.render, htext, Section.Statement.read?_blank_append hblank,
    Section.Statement.read?_fill hwords, hstatement]

/-- A line says what is made of the words in the gaps of its template. -/
theorem Line.says_of_words (form : Section.Statement.Form) (words : List String) (rest : String)
    {text : String} {statement : Section.Statement} (htext : text = form.template.fill words ++ rest)
    (hwords : ∀ word ∈ words, IsWord word) (hlength : words.length = form.template.later.length)
    (hstatement : form.statement? words rest.toList = some statement) (depth : UInt64) :
    Says ⟨depth, text⟩ statement :=
  says_of_fill form words rest htext (Section.Statement.Form.forall₂_fits hlength hwords)
    hstatement depth

namespace Section

open Statement

/-- What the lines of a body have to say for an arity. -/
def statements (arity : Arity) : Section → List Statement
  | accessor =>
    .assertion arity.count arity.count (if arity.isFirst then "field" else "fields") ::
      .binding (Bindings.ofArity arity).names "t" ::
      (List.range arity.count).map fun index =>
        .access index (Bindings.nameAt index) (Bindings.nameAt index)
  | extractor =>
    .binding (Bindings.ofArity arity).names "t" :: .tuple ::
      (List.range arity.count).map fun index =>
        .pair (Bindings.nameAt index) index (Bindings.nameAt index)
          (if index + 1 = arity.count then ");" else ",")
  | deserializer =>
    .binding (Bindings.ofArity arity).names "out" ::
      (List.range arity.count).map fun index => .attempt (Bindings.nameAt index) index

/-- The assertion says the arity twice. -/
theorem says_indexAssertion (arity : Arity) :
    Line.Says ⟨1, indexAssertion arity⟩
      (.assertion arity.count arity.count (if arity.isFirst then "field" else "fields")) := by
  have hnoun : IsWord (if arity.isFirst then "field" else "fields") := by
    split <;> decide
  refine Line.says_of_words .assertion
    [arity.text, arity.text, if arity.isFirst then "field" else "fields"] "" ?_ ?_ rfl ?_ 1
  · unfold indexAssertion Template.fill Form.template
    simp only [Template.fillGaps_cons, Template.fillGaps_nil, String.append_assoc,
      String.append_empty]
  · simp [Arity.text, hnoun]
  · simp [Form.statement?, Arity.text]

/-- The binding says the names of the arity. -/
theorem says_destructure (arity : Arity) {source : String} (hsource : IsWord source) :
    Line.Says ⟨1, (Bindings.ofArity arity).destructure source⟩
      (.binding (Bindings.ofArity arity).names source) := by
  refine Line.says_of_fill .binding
    [", ".intercalate (Bindings.ofArity arity).names, source] "" ?_ ?_ ?_ 1
  · unfold Bindings.destructure Template.fill Form.template
    simp only [Template.fillGaps_cons, Template.fillGaps_nil, String.append_assoc,
      String.append_empty]
  · exact .cons (Bindings.fits_names arity) (.cons (hsource.fits (by decide)) .nil)
  · simp [Form.statement?, Bindings.splitNames_names]

/-- The conditional for a position says the position, and its name twice. -/
theorem says_accessStatement (index : Nat) :
    Line.Says ⟨1, accessStatement index (Bindings.nameAt index)⟩
      (.access index (Bindings.nameAt index) (Bindings.nameAt index)) := by
  refine Line.says_of_words .access
    [toString index, Bindings.nameAt index, Bindings.nameAt index] "" ?_ ?_ rfl ?_ 1
  · unfold accessStatement Template.fill Form.template
    simp only [Template.fillGaps_cons, Template.fillGaps_nil, String.append_assoc,
      String.append_empty]
  · simp
  · simp [Form.statement?]

/-- The line that opens the list of arguments says no more than that. -/
theorem says_tuple : Line.Says ⟨1, "return std::tuple("⟩ .tuple :=
  Line.says_of_fill .tuple [] "" rfl .nil rfl 1

/-- The pair of a position says the position, its name twice and what follows. -/
theorem says_namedField (index : Nat) (depth : UInt64) (closing : String) :
    Line.Says ⟨depth, namedField index (Bindings.nameAt index) ++ closing⟩
      (.pair (Bindings.nameAt index) index (Bindings.nameAt index) closing) := by
  refine Line.says_of_words .pair
    [Bindings.nameAt index, toString index, Bindings.nameAt index] closing ?_ ?_ rfl ?_ depth
  · unfold namedField Template.fill Form.template
    simp only [Template.fillGaps_cons, Template.fillGaps_nil, String.append_assoc,
      String.append_empty]
  · simp
  · simp [Form.statement?]

/-- The assignment of a position says its name and the position. -/
theorem says_assignStatement (index : Nat) :
    Line.Says ⟨1, assignStatement index (Bindings.nameAt index)⟩
      (.attempt (Bindings.nameAt index) index) := by
  refine Line.says_of_words .attempt [Bindings.nameAt index, toString index] "" ?_ ?_ rfl ?_ 1
  · unfold assignStatement Template.fill Form.template
    simp only [Template.fillGaps_cons, Template.fillGaps_nil, String.append_assoc,
      String.append_empty]
  · simp
  · simp [Form.statement?]

/-- The lines of a body say what its section has to say. -/
theorem forall₂_says (arity : Arity) (kind : Section) :
    List.Forall₂ Line.Says (kind.body arity) (kind.statements arity) := by
  cases kind with
  | accessor =>
    rw [body, Bindings.indexed_ofArity, List.map_map]
    refine .cons (says_indexAssertion arity) (.cons (says_destructure arity (by decide)) ?_)
    rw [List.forall₂_map_left_iff, List.forall₂_map_right_iff, List.forall₂_same]
    exact fun index _ => says_accessStatement index
  | extractor =>
    rw [body_extractor]
    refine .cons (says_destructure arity (by decide)) (.cons says_tuple ?_)
    rw [List.forall₂_map_left_iff, List.forall₂_map_right_iff, List.forall₂_same]
    exact fun index _ => says_namedField index 2 _
  | deserializer =>
    rw [body, Bindings.indexed_ofArity, List.map_map]
    refine .cons (says_destructure arity (by decide)) ?_
    rw [List.forall₂_map_left_iff, List.forall₂_map_right_iff, List.forall₂_same]
    exact fun index _ => says_assignStatement index

end Section

/-! ## What a fragment says -/

/-- The lines of a text between its first and its last one. -/
def Text.innerLines (text : String) : List String := (lines text).tail.dropLast

namespace Branch

variable {indent : Indent} {branch : Branch}
  (hlines : ∀ line ∈ branch.lines indent, IsLine line)
include hlines

/-- The inner lines of a branch are those of its body. -/
theorem innerLines_text :
    innerLines (branch.text indent) = branch.body.map (Line.render indent) := by
  rw [innerLines, lines_text hlines, lines, List.tail_cons, List.dropLast_concat]

end Branch

namespace Fragment

/-- The first line of a fragment has the guard of its section. -/
theorem head?_lines_text (indent : Indent) (kind : Section) (arity : Arity) :
    (lines (make indent kind arity).text).head? =
      some (Branch.keyword arity ++ " constexpr (" ++ kind.guard arity ++ ") \x7b") := by
  rw [lines_text]
  rfl

/-- The last line of a fragment is a closing brace. -/
theorem getLast?_lines_text (indent : Indent) (kind : Section) (arity : Arity) :
    (lines (make indent kind arity).text).getLast? = some "\x7d" := by
  rw [lines_text]
  exact Branch.getLast?_lines indent (kind.branch arity)

/-- The inner lines of a fragment are those of its body. -/
theorem innerLines_text (indent : Indent) (kind : Section) (arity : Arity) :
    innerLines (make indent kind arity).text = (kind.body arity).map (Line.render indent) :=
  Branch.innerLines_text fun _ => Section.isLine_of_mem_lines

/-- The inner lines of a fragment say what its section has to say for its arity. -/
theorem map_read?_innerLines (indent : Indent) (kind : Section) (arity : Arity) :
    (innerLines (make indent kind arity).text).map Section.Statement.read? =
      (kind.statements arity).map some := by
  have hsays : ∀ {said : List Line} {statements : List Section.Statement},
      List.Forall₂ Line.Says said statements →
        (said.map (Line.render indent)).map Section.Statement.read? = statements.map some := by
    intro said statements hsays
    induction hsays with
    | nil => rfl
    | cons hline _ ih => simp only [List.map_cons, hline indent, ih]
  rw [innerLines_text]
  exact hsays (kind.forall₂_says arity)

end Fragment

end ArityLadder
