import ArityLadder.Proofs.Printing.Documents
import ArityLadder.Proofs.Text.Bytes

/-!
# Indentation by spaces

A plan that is indented by spaces prints what the plan indented by tabs prints, with each
tab replaced by as many spaces as a level is wide.  Tabs stand in indentations only: what
headers and lines say is printable.  The number of spaces in front of a line is a product of
machine words, so all of this holds for widths whose products do not wrap around.

Main results:

- Theorem `Text.bytes_expandTabs`: the tabs of a text may be replaced in its bytes.
- Theorem `Fragment.text_make_spaces_eq_iff`: the tabs of a fragment may be replaced where its
  lines fit the width, and nowhere else.
- Theorem `Plan.print_spaces`: so may those in fragments, in sections and in all that a
  plan prints, where two levels fit.
-/

namespace ArityLadder

namespace Text

/-! ## Replacing -/

section Replacing

variable {α : Type} [DecidableEq α]

/-- A list with other members in place of each occurrence of one. -/
def replaceEach (a : α) (others as : List α) : List α :=
  as.flatMap fun b => if b = a then others else [b]

/-- Occurrences are replaced part by part. -/
theorem replaceEach_append (a : α) (others as bs : List α) :
    replaceEach a others (as ++ bs) = replaceEach a others as ++ replaceEach a others bs := by
  simp [replaceEach]

/-- Where a member does not occur, nothing is replaced. -/
theorem replaceEach_of_notMem {a : α} {as : List α} (has : a ∉ as) (others : List α) :
    replaceEach a others as = as := by
  induction as with
  | nil => rfl
  | cons b as ih =>
    have hb : b ≠ a := fun hba => has (hba ▸ List.mem_cons_self)
    have hrest := ih fun hmem => has (List.mem_cons_of_mem b hmem)
    unfold replaceEach at hrest ⊢
    rw [List.flatMap_cons, if_neg hb, hrest]
    rfl

/-- Where a member is repeated, so is what replaces it. -/
theorem replaceEach_replicate (a : α) (others : List α) (count : Nat) :
    replaceEach a others (List.replicate count a) = (List.replicate count others).flatten := by
  simp [replaceEach, List.flatMap_replicate]

end Replacing

/-! ## Tabs -/

/-- A text with spaces in place of each tab. -/
def expandTabs (width : Nat) (text : String) : String :=
  String.ofList (replaceEach '\t' (List.replicate width ' ') text.toList)

/-- Tabs are replaced part by part. -/
theorem expandTabs_append (width : Nat) (a b : String) :
    expandTabs width (a ++ b) = expandTabs width a ++ expandTabs width b := by
  simp [expandTabs, replaceEach_append]

/-- A text without tabs stays as it is. -/
theorem expandTabs_of_notMem {text : String} (htext : '\t' ∉ text.toList) (width : Nat) :
    expandTabs width text = text := by
  rw [expandTabs, replaceEach_of_notMem htext, String.ofList_toList]

/-- A printable text has no tabs. -/
theorem IsPrintable.expandTabs_eq {text : String} (htext : IsPrintable text) (width : Nat) :
    expandTabs width text = text :=
  expandTabs_of_notMem (htext.notMem (by decide)) width

/-- The tabs of a joined text are those of its parts where the separator has none. -/
theorem expandTabs_intercalate {separator : String} (hseparator : '\t' ∉ separator.toList)
    (width : Nat) (texts : List String) :
    expandTabs width (separator.intercalate texts) =
      separator.intercalate (texts.map (expandTabs width)) := by
  induction texts with
  | nil => rfl
  | cons text texts ih =>
    cases texts with
    | nil => simp
    | cons next texts =>
      rw [String.intercalate_cons_cons, expandTabs_append, expandTabs_append,
        expandTabs_of_notMem hseparator, ih]
      simp only [List.map_cons, String.intercalate_cons_cons]

/-- Where tabs are replaced, no line is broken. -/
theorem isLine_expandTabs {text : String} (htext : IsLine text) (width : Nat) :
    IsLine (expandTabs width text) := by
  unfold IsLine expandTabs replaceEach
  rw [String.toList_ofList]
  intro hmem
  obtain ⟨c, hc, hend⟩ := List.mem_flatMap.mp hmem
  split at hend
  · exact absurd (List.eq_of_mem_replicate hend) (by decide)
  · exact htext (List.mem_singleton.mp hend ▸ hc)

/-- The tabs of a text may be replaced in its bytes. -/
theorem bytes_expandTabs (width : Nat) (text : String) :
    Sink.bytes (expandTabs width text) =
      replaceEach 9 (List.replicate width 32) (Sink.bytes text) := by
  rw [Sink.bytes_eq_flatMap, Sink.bytes_eq_flatMap, expandTabs, String.toList_ofList]
  unfold replaceEach
  rw [List.flatMap_assoc, List.flatMap_assoc]
  -- Character by character, the bytes are the same on both sides.
  apply congrArg (text.toList.flatMap ·)
  funext c
  by_cases hc : c = '\t'
  · have htab : String.utf8EncodeChar '\t' = [9] := by decide
    have hspace : String.utf8EncodeChar ' ' = [32] := by decide
    rw [if_pos hc, hc, htab, List.flatMap_replicate, hspace]
    simp
  · have hfree : 9 ∉ String.utf8EncodeChar c :=
      mt (mem_utf8EncodeChar_iff (by decide : '\t'.toNat < 128)).mp (Ne.symm hc)
    have hbytes := replaceEach_of_notMem hfree (List.replicate width 32)
    rw [if_neg hc, List.flatMap_singleton]
    exact hbytes.symm

end Text

open Text

/-! ## Lines and fragments -/

/-- Spaces stand for tabs, for each as many as a level is wide, where their number fits a machine
word, and nowhere else. -/
theorem Indent.text_spaces_eq_iff (width depth : UInt64) :
    (spaces width).text depth = expandTabs width.toNat (tab.text depth) ↔
      (spaces width).Fits depth := by
  have htabs : (tab.text depth).toList = List.replicate depth.toNat '\t' := by
    rw [toList_text, (toNat_width_mul_eq_iff tab depth).mpr (fits_tab depth)]
    exact congrArg (List.replicate · '\t') (Nat.one_mul depth.toNat)
  have hexpanded : (expandTabs width.toNat (tab.text depth)).toList =
      List.replicate ((spaces width).width.toNat * depth.toNat) (spaces width).char := by
    rw [expandTabs, String.toList_ofList, htabs, replaceEach_replicate,
      List.flatten_replicate_replicate, Nat.mul_comm]
    rfl
  rw [← String.toList_inj, toList_text, hexpanded, ← toNat_width_mul_eq_iff]
  exact ⟨fun hsame => (List.replicate_inj.mp hsame).1, fun hcount => by rw [hcount]⟩

/-- A printable line is indented by spaces as by tabs where they fit, and nowhere else. -/
theorem Line.render_spaces_eq_iff {line : Line} (hline : IsPrintable line.text) (width : UInt64) :
    line.render (.spaces width) = expandTabs width.toNat (line.render .tab) ↔
      (Indent.spaces width).Fits line.depth := by
  rw [render, render, expandTabs_append, hline.expandTabs_eq, String.append_left_inj,
    Indent.text_spaces_eq_iff]

/-- The lines of a branch are indented by spaces as by tabs where all of them fit, and nowhere
else. -/
theorem Section.lines_branch_spaces_eq_iff (kind : Section) (arity : Arity) (width : UInt64) :
    (kind.branch arity).lines (.spaces width) =
        ((kind.branch arity).lines .tab).map (expandTabs width.toNat) ↔
      ∀ line ∈ kind.body arity, (Indent.spaces width).Fits line.depth := by
  have hopening := (kind.isPrintable_opening arity).expandTabs_eq width.toNat
  have hclosing := (by decide : IsPrintable Branch.closing).expandTabs_eq width.toNat
  have hbody : (kind.body arity).map (Line.render (.spaces width)) =
        ((kind.body arity).map (Line.render .tab)).map (expandTabs width.toNat) ↔
      ∀ line ∈ kind.body arity, (Indent.spaces width).Fits line.depth := by
    rw [List.map_map, List.map_inj_left]
    exact forall₂_congr fun line hline =>
      Line.render_spaces_eq_iff (bodyLine_of_mem hline).isPrintable width
  rw [← hbody, Branch.lines, Branch.lines, List.map_cons, List.map_append, List.map_singleton,
    hopening, hclosing, List.cons_inj_right, List.append_left_inj]
  rfl

/-- A fragment is indented by spaces as by tabs where all of its lines fit, and nowhere else. -/
theorem Fragment.text_make_spaces_eq_iff (kind : Section) (arity : Arity) (width : UInt64) :
    (make (.spaces width) kind arity).text = expandTabs width.toNat (make .tab kind arity).text ↔
      ∀ line ∈ kind.body arity, (Indent.spaces width).Fits line.depth := by
  rw [← Section.lines_branch_spaces_eq_iff]
  constructor
  · intro htext
    have hlines : ∀ line ∈ ((kind.branch arity).lines .tab).map (expandTabs width.toNat),
        IsLine line := by
      intro line hline
      obtain ⟨tabbed, htabbed, rfl⟩ := List.mem_map.mp hline
      exact isLine_expandTabs (Section.isLine_of_mem_lines htabbed) width.toNat
    have hne : ((kind.branch arity).lines .tab).map (expandTabs width.toNat) ≠ [] :=
      List.cons_ne_nil _ _
    have htabs : lines (expandTabs width.toNat (make .tab kind arity).text) =
        ((kind.branch arity).lines .tab).map (expandTabs width.toNat) := by
      unfold make Branch.text
      rw [expandTabs_intercalate (by decide), lines_intercalate hne hlines]
    rw [← lines_text, htext, htabs]
  · intro hlines
    unfold make Branch.text
    rw [expandTabs_intercalate (by decide), hlines]

/-- Where two levels fit, so does every line of a body. -/
theorem Section.fits_of_mem_body {kind : Section} {arity : Arity} {line : Line}
    (hline : line ∈ kind.body arity) {indent : Indent}
    (hindent : 2 * indent.width.toNat < UInt64.size) : indent.Fits line.depth := by
  have hdepth := (bodyLine_of_mem hline).depth_le
  calc
    indent.width.toNat * line.depth.toNat ≤ indent.width.toNat * 2 :=
      Nat.mul_le_mul_left _ hdepth
    _ = 2 * indent.width.toNat := Nat.mul_comm _ _
    _ < UInt64.size := hindent

/-- Where two levels fit, a fragment is indented by spaces as by tabs. -/
theorem Fragment.text_make_spaces (kind : Section) (arity : Arity) {width : UInt64}
    (hwidth : 2 * width.toNat < UInt64.size) :
    (make (.spaces width) kind arity).text = expandTabs width.toNat (make .tab kind arity).text :=
  (text_make_spaces_eq_iff kind arity width).mpr fun _ hline =>
    Section.fits_of_mem_body hline hwidth

namespace Plan

/-! ## Plans -/

section Spaces

variable (plan : Plan) {width : UInt64} (hwidth : 2 * width.toNat < UInt64.size)
include hwidth

/-- A section is indented by spaces as by tabs. -/
theorem sectionText_spaces (kind : Section) :
    { plan with indent := .spaces width }.sectionText kind =
      expandTabs width.toNat ({ plan with indent := .tab }.sectionText kind) := by
  have hfragments :
      (plan.arities.map fun arity => (Fragment.make (.spaces width) kind arity).text) =
        (plan.arities.map fun arity => (Fragment.make .tab kind arity).text).map
          (expandTabs width.toNat) := by
    rw [List.map_map]
    apply List.map_congr_left
    intro arity _
    exact Fragment.text_make_spaces kind arity hwidth
  unfold sectionText
  rw [expandTabs_intercalate (by decide)]
  exact congrArg "\n".intercalate hfragments

/-- A section with its header is indented by spaces as by tabs. -/
theorem block_spaces (kind : Section) :
    { plan with indent := .spaces width }.block kind =
      expandTabs width.toNat ({ plan with indent := .tab }.block kind) := by
  have hheader : expandTabs width.toNat ({ plan with indent := .tab }.header kind) =
      { plan with indent := .spaces width }.header kind :=
    expandTabs_of_notMem (plan.notMem_header kind (by decide) (by decide)) width.toNat
  have hend : expandTabs width.toNat "\n" = "\n" := expandTabs_of_notMem (by decide) width.toNat
  unfold block
  simp only [expandTabs_append, hend, hheader, plan.sectionText_spaces hwidth]

/-- A document is indented by spaces as by tabs. -/
theorem document_spaces :
    { plan with indent := .spaces width }.document =
      expandTabs width.toNat { plan with indent := .tab }.document := by
  have hblocks : plan.printed.map { plan with indent := .spaces width }.block =
      (plan.printed.map { plan with indent := .tab }.block).map (expandTabs width.toNat) := by
    rw [List.map_map]
    apply List.map_congr_left
    intro kind _
    exact plan.block_spaces hwidth kind
  unfold document
  rw [expandTabs_intercalate (by decide)]
  exact congrArg "\n".intercalate hblocks

end Spaces

end Plan

end ArityLadder
