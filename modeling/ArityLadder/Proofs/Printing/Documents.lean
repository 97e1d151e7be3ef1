import ArityLadder.Proofs.Fragments.Lines
import ArityLadder.Proofs.Printing.Sinks

/-!
# Reading documents back

A document consists of lines: for each section a header, an empty line, the lines of
its branches and an empty line.  Only a section without branches has a further empty
line, so a document can be cut into its sections, and a section into its branches.

Main results:

- Theorem `Plan.document_eq_intercalate`: a document is made of its lines.
- Theorems `Plan.notMem_header` and `Plan.notMem_of_mem_sectionLines`: its lines hold no
  control characters apart from escapes in headers and tabs in sections.
- Theorems `Plan.filter_lines_document_eq` and `Plan.filter_isHeaderLike`: the headers are
  found among the lines of a document by their form.
- Theorem `Plan.eq_of_flatMap_blockLines_eq`: the lines of a document determine the
  sections, the color and the lines of each section.
- Theorem `Plan.accepted_print_eq_iff`: two plans print the same exactly when they have
  the same sections and, where there are some, the same color and the same branches.
-/

namespace ArityLadder

open Text

/-- Painting adds no control character apart from escapes. -/
theorem Tone.notMem_paint (tone : Tone) (enabled : Bool) {text : String} {c : Char}
    (hc : c.toNat < 32) (hescape : c ≠ '\x1b') (htext : c ∉ text.toList) :
    c ∉ (tone.paint enabled text).toList := by
  have hcode (code said : String) (heq : code = "\x1b" ++ said) (hsaid : IsPrintable said) :
      c ∉ code.toList := by
    rw [heq, String.toList_append, List.mem_append, not_or]
    exact ⟨by simpa using hescape, hsaid.notMem hc⟩
  have hstart : c ∉ tone.code.toList := by
    cases tone with
    | heading => exact hcode _ "[96m" (by decide) (by decide)
    | failure => exact hcode _ "[91m" (by decide) (by decide)
  have hend : c ∉ reset.toList := hcode _ "[0m" (by decide) (by decide)
  unfold paint
  cases enabled with
  | false => exact htext
  | true =>
    simp only [if_true, String.toList_append, List.mem_append, hstart, htext, hend, or_self,
      not_false_eq_true]

namespace Section

/-- A label determines its section. -/
theorem eq_of_label_eq {a b : Section} (hlabel : a.label = b.label) : a = b := by
  cases a <;> cases b <;> first | rfl | exact absurd hlabel (by decide)

/-- What the header of a section says is printable. -/
theorem isPrintable_title (kind : Section) : IsPrintable ("==== " ++ kind.label ++ " ====") := by
  cases kind <;> decide +kernel

end Section

namespace Plan

/-! ## The lines of a document -/

/-- The lines of the branches of a section. -/
def branchLines (plan : Plan) (kind : Section) : List String :=
  plan.arities.flatMap fun arity => (kind.branch arity).lines plan.indent

/-- The lines of a section, a single empty one where it has no branches. -/
def sectionLines (plan : Plan) (kind : Section) : List String :=
  if plan.branchLines kind = [] then [""] else plan.branchLines kind

/-- The lines of a section with its header, up to an empty one. -/
def blockLines (plan : Plan) (kind : Section) : List String :=
  plan.header kind :: "" :: (plan.sectionLines kind ++ [""])

/-- The lines of a document, up to an empty one. -/
def lines (plan : Plan) : List String := plan.printed.flatMap plan.blockLines

/-- A section has lines, also where it has no branches. -/
theorem sectionLines_ne_nil (plan : Plan) (kind : Section) : plan.sectionLines kind ≠ [] := by
  unfold sectionLines
  split
  · exact List.cons_ne_nil _ _
  · assumption

/-- The text of a section is made of its lines. -/
theorem sectionText_eq_intercalate (plan : Plan) (kind : Section) :
    plan.sectionText kind = "\n".intercalate (plan.sectionLines kind) := by
  have hbranches : plan.sectionText kind = "\n".intercalate (plan.branchLines kind) :=
    intercalate_flatMap (fun _ => List.cons_ne_nil _ _) plan.arities
  rw [hbranches, sectionLines]
  split
  · next hnil =>
    rw [hnil]
    rfl
  · rfl

/-- A section with its header is made of its lines. -/
theorem block_eq_intercalate (plan : Plan) (kind : Section) :
    plan.block kind = "\n".intercalate (plan.blockLines kind) := by
  have hne := plan.sectionLines_ne_nil kind
  rw [blockLines, String.intercalate_cons_cons, String.intercalate_cons_of_ne_nil (by simp),
    String.intercalate_append_of_ne_nil hne (by simp), ← sectionText_eq_intercalate,
    String.intercalate_singleton]
  simp only [block, String.append_assoc, String.empty_append, String.append_empty]

/-- A document is made of its lines. -/
theorem document_eq_intercalate (plan : Plan) :
    plan.document = "\n".intercalate plan.lines := by
  have hblocks : plan.block = fun kind => "\n".intercalate (plan.blockLines kind) :=
    funext plan.block_eq_intercalate
  rw [document, hblocks]
  exact intercalate_flatMap (fun _ => List.cons_ne_nil _ _) plan.printed

/-! ## The lines of a document are lines -/

/-- A header holds no control character apart from escapes. -/
theorem notMem_header (plan : Plan) (kind : Section) {c : Char} (hc : c.toNat < 32)
    (hescape : c ≠ '\x1b') : c ∉ (plan.header kind).toList :=
  Tone.notMem_paint _ _ hc hescape (kind.isPrintable_title.notMem hc)

/-- A header holds no line end. -/
theorem isLine_header (plan : Plan) (kind : Section) : IsLine (plan.header kind) :=
  plan.notMem_header kind (by decide) (by decide)

/-- The lines of a section hold no control character apart from tabs. -/
theorem notMem_of_mem_sectionLines {plan : Plan} {kind : Section} {line : String}
    (hline : line ∈ plan.sectionLines kind) {c : Char} (hc : c.toNat < 32) (htab : c ≠ '\t') :
    c ∉ line.toList := by
  unfold sectionLines at hline
  split at hline
  · rw [List.mem_singleton.mp hline]
    exact List.not_mem_nil
  · obtain ⟨arity, -, hmem⟩ := List.mem_flatMap.mp hline
    exact Section.notMem_of_mem_lines hmem hc htab

/-- The lines of a block hold no line end. -/
theorem isLine_of_mem_blockLines {plan : Plan} {kind : Section} {line : String}
    (hline : line ∈ plan.blockLines kind) : IsLine line := by
  have hempty : IsLine "" := List.not_mem_nil
  rcases List.mem_cons.mp hline with rfl | hline
  · exact plan.isLine_header kind
  rcases List.mem_cons.mp hline with rfl | hline
  · exact hempty
  rcases List.mem_append.mp hline with hline | hline
  · exact notMem_of_mem_sectionLines hline (by decide) (by decide)
  · rw [List.mem_singleton.mp hline]
    exact hempty

/-- The lines of a document hold no line end. -/
theorem isLine_of_mem_lines {plan : Plan} {line : String} (hline : line ∈ plan.lines) :
    IsLine line := by
  obtain ⟨kind, -, hmem⟩ := List.mem_flatMap.mp hline
  exact isLine_of_mem_blockLines hmem

/-! ## Looking for headers -/

/-- A search among the lines of a document that finds headers, but no empty line and no line of a
section, finds the headers of the sections that are printed. -/
theorem filter_lines_document_eq {plan : Plan} {p : String → Bool} (hempty : p "" = false)
    (hheader : ∀ kind, p (plan.header kind) = true)
    (hsection : ∀ kind, ∀ line ∈ plan.sectionLines kind, p line = false) :
    (Text.lines plan.document).filter p = plan.printed.map plan.header := by
  have hblock : ∀ kind, (plan.blockLines kind).filter p = [plan.header kind] := by
    intro kind
    have hnone : (plan.sectionLines kind).filter p = [] := by
      rw [List.filter_eq_nil_iff]
      intro line hline
      simp [hsection kind line hline]
    unfold blockLines
    rw [List.filter_cons_of_pos (hheader kind), List.filter_cons_of_neg (by simp [hempty]),
      List.filter_append, hnone, List.filter_cons_of_neg (by simp [hempty])]
    rfl
  rw [document_eq_intercalate, filter_lines_intercalate (fun _ => isLine_of_mem_lines) hempty]
  rw [lines, List.filter_flatMap, List.map_eq_flatMap, funext hblock]

/-- Whether a line has the form of a header, painted or not. -/
def isHeaderLike (line : String) : Bool :=
  line.startsWith "====" || line.startsWith (Tone.heading.code ++ "====")

/-- A header has the form of one. -/
theorem isHeaderLike_header (plan : Plan) (kind : Section) :
    isHeaderLike (plan.header kind) = true := by
  unfold isHeaderLike header Tone.paint
  simp only [Bool.or_eq_true, String.startsWith_string_iff]
  cases plan.color with
  | false =>
    left
    simp
  | true =>
    right
    simp

/-- No line of a section has the form of a header. -/
theorem isHeaderLike_of_mem_sectionLines {plan : Plan} {kind : Section} {line : String}
    (hline : line ∈ plan.sectionLines kind) : isHeaderLike line = false := by
  have hescape := notMem_of_mem_sectionLines hline (by decide : '\x1b'.toNat < 32) (by decide)
  have hhead : line.toList.head? ≠ some '=' := by
    unfold sectionLines at hline
    split at hline
    · rw [List.mem_singleton.mp hline]
      simp
    · obtain ⟨arity, -, hmem⟩ := List.mem_flatMap.mp hline
      exact Section.head?_ne_of_mem_lines hmem (by decide) (by decide) (by decide) (by decide)
  unfold isHeaderLike
  rw [Bool.or_eq_false_iff]
  constructor
  · rw [← Bool.not_eq_true, String.startsWith_string_iff]
    rintro ⟨rest, hrest⟩
    rw [← hrest] at hhead
    exact hhead rfl
  · rw [← Bool.not_eq_true, String.startsWith_string_iff]
    rintro ⟨rest, hrest⟩
    rw [← hrest] at hescape
    exact hescape (by simp [Tone.code])

/-- The lines of a document that have the form of a header are the headers of the sections that are
printed. -/
theorem filter_isHeaderLike (plan : Plan) :
    (Text.lines plan.document).filter isHeaderLike = plan.printed.map plan.header :=
  filter_lines_document_eq (by decide) plan.isHeaderLike_header
    fun _ _ => isHeaderLike_of_mem_sectionLines

/-! ## Reading the lines back -/

/-- A document has more lines than a single one, unless it has none. -/
theorem lines_ne_singleton (plan : Plan) : plan.lines ≠ [""] := by
  unfold lines
  cases plan.printed with
  | nil => simp
  | cons kind rest => simp [blockLines]

/-- A document determines its lines. -/
theorem lines_eq_of_document_eq {p q : Plan} (hdocument : p.document = q.document) :
    p.lines = q.lines := by
  rw [document_eq_intercalate, document_eq_intercalate] at hdocument
  exact eq_of_intercalate_eq p.lines_ne_singleton q.lines_ne_singleton
    (fun _ => isLine_of_mem_lines) (fun _ => isLine_of_mem_lines) hdocument

/-- A header determines its section and whether it is painted. -/
theorem header_inj {p q : Plan} {kind kind' : Section} (hheader : p.header kind = q.header kind') :
    kind = kind' ∧ p.color = q.color := by
  have hlabels : "==== " ++ kind.label ++ " ====" = "==== " ++ kind'.label ++ " ====" →
      kind = kind' := by
    intro htext
    apply Section.eq_of_label_eq
    exact (String.append_right_inj _).mp ((String.append_left_inj _).mp htext)
  have hhead := congrArg (fun text => text.toList.head?) hheader
  unfold header Tone.paint at hheader hhead
  cases hp : p.color <;> cases hq : q.color
  · rw [hp, hq] at hheader
    exact ⟨hlabels hheader, rfl⟩
  · simp [hp, hq, Tone.code] at hhead
  · simp [hp, hq, Tone.code] at hhead
  · rw [hp, hq] at hheader
    have htext := (String.append_right_inj _).mp ((String.append_left_inj _).mp hheader)
    exact ⟨hlabels htext, rfl⟩

/-- No line of a branch is empty. -/
theorem empty_notMem_branchLines (plan : Plan) (kind : Section) : "" ∉ plan.branchLines kind := by
  intro hmem
  obtain ⟨arity, -, hline⟩ := List.mem_flatMap.mp hmem
  exact Section.ne_empty_of_mem_lines hline rfl

/-- The lines of a section end where an empty line follows. -/
theorem sectionLines_append_inj {p q : Plan} {kind kind' : Section} {s t : List String}
    (happend : p.sectionLines kind ++ "" :: s = q.sectionLines kind' ++ "" :: t) :
    p.sectionLines kind = q.sectionLines kind' ∧ s = t := by
  have hp := p.empty_notMem_branchLines kind
  have hq := q.empty_notMem_branchLines kind'
  unfold sectionLines at happend ⊢
  by_cases hpnil : p.branchLines kind = [] <;> by_cases hqnil : q.branchLines kind' = []
  · rw [if_pos hpnil, if_pos hqnil] at happend ⊢
    exact ⟨rfl, (List.cons.inj (List.cons.inj happend).2).2⟩
  · rw [if_pos hpnil, if_neg hqnil] at happend
    exact absurd (append_cons_inj List.not_mem_nil hq happend).1.symm hqnil
  · rw [if_neg hpnil, if_pos hqnil] at happend
    exact absurd (append_cons_inj hp List.not_mem_nil happend).1 hpnil
  · rw [if_neg hpnil, if_neg hqnil] at happend ⊢
    exact append_cons_inj hp hq happend

/-- The lines of a document determine the sections, the color and the lines of each section. -/
theorem eq_of_flatMap_blockLines_eq {p q : Plan} {kinds kinds' : List Section}
    (hlines : kinds.flatMap p.blockLines = kinds'.flatMap q.blockLines) :
    kinds = kinds' ∧
      ∀ kind ∈ kinds, p.color = q.color ∧ p.sectionLines kind = q.sectionLines kind := by
  induction kinds generalizing kinds' with
  | nil =>
    cases kinds' with
    | nil => simp
    | cons kind' rest' => simp [blockLines] at hlines
  | cons kind rest ih =>
    cases kinds' with
    | nil => simp [blockLines] at hlines
    | cons kind' rest' =>
      simp only [List.flatMap_cons, blockLines, List.cons_append, List.append_assoc,
        List.nil_append, List.cons.injEq, true_and] at hlines
      obtain ⟨hheader, hbody⟩ := hlines
      obtain ⟨rfl, hcolor⟩ := header_inj hheader
      obtain ⟨hsection, hrest⟩ := sectionLines_append_inj hbody
      obtain ⟨rfl, hkinds⟩ := ih hrest
      refine ⟨rfl, ?_⟩
      intro k hk
      rcases List.mem_cons.mp hk with rfl | hk
      · exact ⟨hcolor, hsection⟩
      · exact hkinds k hk

/-! ## Reading the branches back -/

/-- A section starts with the opening for its first arity. -/
theorem head?_branchLines (plan : Plan) (kind : Section) :
    (plan.branchLines kind).head? =
      plan.arities.head?.map fun arity => (kind.branch arity).opening := by
  unfold branchLines
  cases plan.arities with
  | nil => rfl
  | cons arity rest => rfl

/-- The line behind the first opening is indented by one level, and what it says depends on
the arity only. -/
theorem exists_branchLines_eq_cons (kind : Section) (arity : Arity) :
    ∃ said, ∀ plan : Plan, plan.arities.head? = some arity →
      ∃ opening more, plan.branchLines kind = opening :: (plan.indent.text 1 ++ said) :: more := by
  obtain ⟨said, rest, hbody⟩ := kind.exists_body_eq_cons arity
  refine ⟨said, ?_⟩
  intro plan hhead
  obtain ⟨arities, harities⟩ := List.head?_eq_some_iff.mp hhead
  unfold branchLines Branch.lines
  rw [harities, List.flatMap_cons]
  rw [show (kind.branch arity).body = ⟨1, said⟩ :: rest from hbody]
  exact ⟨_, _, rfl⟩

/-- The branches of a section determine the indentation. -/
theorem indent_eq_of_branchLines_eq {p q : Plan} {kind : Section}
    (hlines : p.branchLines kind = q.branchLines kind) (hne : p.arities ≠ []) :
    p.indent = q.indent := by
  obtain ⟨arity, rest, harities⟩ := List.exists_cons_of_ne_nil hne
  have hp : p.arities.head? = some arity := by
    rw [harities]
    rfl
  have hq : q.arities.head? = some arity := by
    have hheads := congrArg List.head? hlines
    rw [head?_branchLines, head?_branchLines, hp] at hheads
    obtain ⟨other, hother, hopening⟩ := Option.map_eq_some_iff.mp hheads.symm
    rw [hother, Section.arity_of_opening_eq hopening]
  obtain ⟨said, hcons⟩ := exists_branchLines_eq_cons kind arity
  obtain ⟨opening, more, hpLines⟩ := hcons p hp
  obtain ⟨opening', more', hqLines⟩ := hcons q hq
  rw [hpLines, hqLines] at hlines
  have hsecond := (List.cons.inj (List.cons.inj hlines).2).1
  exact Indent.eq_of_text_eq ((String.append_left_inj _).mp hsecond)

/-- The branches of a section determine the arities and the indentation. -/
theorem eq_of_branchLines_eq {p q : Plan} {kind : Section}
    (hlines : p.branchLines kind = q.branchLines kind) (hne : p.arities ≠ []) :
    p.arities = q.arities ∧ p.indent = q.indent := by
  have hindent := indent_eq_of_branchLines_eq hlines hne
  have hhead (arity : Arity) : ((kind.branch arity).lines q.indent).head? =
      some (kind.branch arity).opening := rfl
  unfold branchLines at hlines
  rw [hindent] at hlines
  exact ⟨eq_of_flatMap_eq hhead (fun _ _ => Section.arity_of_opening_eq) hlines, hindent⟩

/-- A plan has no arities exactly when the first lies behind the last. -/
theorem arities_eq_nil_iff (plan : Plan) : plan.arities = [] ↔ plan.last < plan.first := by
  have hcounts := plan.map_count_arities
  rw [← List.map_eq_nil_iff (f := Arity.count), hcounts, List.range'_eq_nil_iff, Arity.lt_def]
  omega

/-- The arities of a plan, where there are some, determine the first and the last. -/
theorem range_eq_of_arities_eq {p q : Plan} (harities : p.arities = q.arities)
    (hne : p.arities ≠ []) : p.first = q.first ∧ p.last = q.last := by
  have hcounts := congrArg (List.map Arity.count) harities
  rw [map_count_arities, map_count_arities, List.range'_inj] at hcounts
  have hp := mt p.arities_eq_nil_iff.mpr hne
  rw [Arity.lt_def] at hp
  obtain ⟨hlength, hfirst⟩ := hcounts
  constructor
  · apply Arity.ext
    omega
  · apply Arity.ext
    omega

/-- A section has no branches exactly when its plan has no arities. -/
theorem branchLines_eq_nil_iff (plan : Plan) (kind : Section) :
    plan.branchLines kind = [] ↔ plan.arities = [] := by
  unfold branchLines
  rw [List.flatMap_eq_nil_iff]
  constructor
  · intro hlines
    exact List.eq_nil_iff_forall_not_mem.mpr fun arity harity =>
      List.cons_ne_nil _ _ (hlines arity harity)
  · intro hnil arity harity
    rw [hnil] at harity
    exact absurd harity List.not_mem_nil

/-- Two plans have the same lines in a section exactly when neither has arities or both have
the same arities and indentation. -/
theorem sectionLines_eq_iff (p q : Plan) (kind : Section) :
    p.sectionLines kind = q.sectionLines kind ↔
      (p.arities = [] ∧ q.arities = []) ∨
        (p.arities ≠ [] ∧ p.arities = q.arities ∧ p.indent = q.indent) := by
  have hp := p.empty_notMem_branchLines kind
  have hq := q.empty_notMem_branchLines kind
  have hbranches : p.arities = q.arities → p.indent = q.indent →
      p.branchLines kind = q.branchLines kind := by
    intro harities hindent
    unfold branchLines
    rw [harities, hindent]
  have hpIff := p.branchLines_eq_nil_iff kind
  have hqIff := q.branchLines_eq_nil_iff kind
  unfold sectionLines
  by_cases hpnil : p.arities = [] <;> by_cases hqnil : q.arities = []
  · rw [if_pos (hpIff.mpr hpnil), if_pos (hqIff.mpr hqnil)]
    simp [hpnil, hqnil]
  · rw [if_pos (hpIff.mpr hpnil), if_neg (mt hqIff.mp hqnil)]
    have hne : [""] ≠ q.branchLines kind := fun h => hq (h ▸ List.mem_singleton_self "")
    simp [hne, hpnil, hqnil]
  · rw [if_neg (mt hpIff.mp hpnil), if_pos (hqIff.mpr hqnil)]
    have hne : p.branchLines kind ≠ [""] := fun h => hp (h ▸ List.mem_singleton_self "")
    simp [hne, hpnil, hqnil]
  · rw [if_neg (mt hpIff.mp hpnil), if_neg (mt hqIff.mp hqnil)]
    constructor
    · intro hlines
      exact .inr ⟨hpnil, eq_of_branchLines_eq hlines hpnil⟩
    · rintro (⟨hnil, -⟩ | ⟨-, harities, hindent⟩)
      · exact absurd hnil hpnil
      · exact hbranches harities hindent

/-! ## How a document starts -/

/-- The sections of a plan that are printed are those that it lists. -/
theorem mem_printed {plan : Plan} {kind : Section} :
    kind ∈ plan.printed ↔ kind ∈ plan.sections := by
  simp [printed, Section.mem_all]

/-- The sections that are printed are those of a list that names none twice, rearranged. -/
theorem printed_perm_of_nodup {plan : Plan} (hsections : plan.sections.Nodup) :
    plan.printed.Perm plan.sections := by
  have hprinted : plan.printed.Nodup := (by decide : Section.all.Nodup).filter _
  rw [List.perm_ext_iff_of_nodup hprinted hsections]
  exact fun _ => mem_printed

/-- A document starts with the header of its first section. -/
theorem exists_document_eq {plan : Plan} {kind : Section} {rest : List Section}
    (hprinted : plan.printed = kind :: rest) :
    ∃ more, plan.document = plan.header kind ++ more := by
  have hblock : ∃ more, plan.block kind = plan.header kind ++ more := by
    refine ⟨"\n" ++ ("\n" ++ (plan.sectionText kind ++ "\n")), ?_⟩
    simp only [block, String.append_assoc]
  obtain ⟨blockRest, hblock⟩ := hblock
  rw [document, hprinted, List.map_cons]
  cases rest with
  | nil => exact ⟨blockRest, by rw [List.map_nil, String.intercalate_singleton, hblock]⟩
  | cons next rest =>
    rw [List.map_cons, String.intercalate_cons_cons, hblock, String.append_assoc,
      String.append_assoc]
    exact ⟨_, rfl⟩

/-- A header is not empty. -/
theorem header_ne_empty (plan : Plan) (kind : Section) : plan.header kind ≠ "" := by
  unfold header
  cases plan.color <;> cases kind <;> decide

/-- A plan with sections prints the header of one of them first. -/
theorem exists_header_isPrefix {plan : Plan} (hsections : plan.sections ≠ []) :
    ∃ kind ∈ plan.sections, Sink.bytes (plan.header kind) <+: Sink.bytes plan.document := by
  obtain ⟨listed, hlisted⟩ := List.exists_mem_of_ne_nil _ hsections
  obtain ⟨kind, rest, hprinted⟩ :=
    List.exists_cons_of_ne_nil (List.ne_nil_of_mem (mem_printed.mpr hlisted))
  have hkind : kind ∈ plan.printed := by
    rw [hprinted]
    exact List.mem_cons_self
  obtain ⟨more, hdocument⟩ := exists_document_eq hprinted
  refine ⟨kind, mem_printed.mp hkind, ?_⟩
  rw [hdocument, Sink.bytes_append]
  exact List.prefix_append _ _

/-- A plan with sections prints something. -/
theorem bytes_document_ne_nil {plan : Plan} (hsections : plan.sections ≠ []) :
    Sink.bytes plan.document ≠ [] := by
  intro hempty
  obtain ⟨kind, -, hheader⟩ := exists_header_isPrefix hsections
  rw [hempty, List.prefix_nil, ← Sink.bytes_empty, Sink.bytes_inj] at hheader
  exact plan.header_ne_empty kind hheader

/-! ## Plans that print the same -/

/-- Two plans have the same document exactly when they print the same sections with the same
color and the same lines. -/
theorem document_eq_iff (p q : Plan) :
    p.document = q.document ↔ p.printed = q.printed ∧
      ∀ kind ∈ p.printed, p.color = q.color ∧ p.sectionLines kind = q.sectionLines kind := by
  constructor
  · intro hdocument
    exact eq_of_flatMap_blockLines_eq (lines_eq_of_document_eq hdocument)
  · rintro ⟨hprinted, hkinds⟩
    have hblocks : ∀ kind ∈ p.printed, p.blockLines kind = q.blockLines kind := by
      intro kind hkind
      obtain ⟨hcolor, hlines⟩ := hkinds kind hkind
      unfold blockLines header
      rw [hcolor, hlines]
    rw [document_eq_intercalate, document_eq_intercalate, lines, lines, ← hprinted,
      List.flatMap_def, List.flatMap_def, List.map_congr_left hblocks]

/-- Two plans print the same sections exactly when they list the same sections. -/
theorem printed_eq_iff (p q : Plan) :
    p.printed = q.printed ↔ ∀ kind, kind ∈ p.sections ↔ kind ∈ q.sections := by
  constructor
  · intro hprinted kind
    rw [← mem_printed, hprinted, mem_printed]
  · intro hsections
    unfold printed
    refine List.filter_congr fun kind _ => ?_
    exact decide_eq_decide.mpr (hsections kind)

/-- Two plans have no arities, or the same arities and indentation, exactly when both have their
first arity behind their last, or agree on the first, the last and the indentation. -/
theorem ranges_eq_iff (p q : Plan) :
    ((p.arities = [] ∧ q.arities = []) ∨
        (p.arities ≠ [] ∧ p.arities = q.arities ∧ p.indent = q.indent)) ↔
      ((p.last < p.first ∧ q.last < q.first) ∨
        (p.first ≤ p.last ∧ q.first ≤ q.last ∧
          p.first = q.first ∧ p.last = q.last ∧ p.indent = q.indent)) := by
  have hle (plan : Plan) : plan.arities ≠ [] ↔ plan.first ≤ plan.last := by
    rw [ne_eq, arities_eq_nil_iff, Arity.lt_def, Arity.le_def]
    omega
  constructor
  · rintro (⟨hp, hq⟩ | ⟨hne, harities, hindent⟩)
    · exact .inl ⟨p.arities_eq_nil_iff.mp hp, q.arities_eq_nil_iff.mp hq⟩
    · obtain ⟨hfirst, hlast⟩ := range_eq_of_arities_eq harities hne
      have hq : q.arities ≠ [] := by
        rw [← harities]
        exact hne
      exact .inr ⟨(hle p).mp hne, (hle q).mp hq, hfirst, hlast, hindent⟩
  · rintro (⟨hp, hq⟩ | ⟨hp, -, hfirst, hlast, hindent⟩)
    · exact .inl ⟨p.arities_eq_nil_iff.mpr hp, q.arities_eq_nil_iff.mpr hq⟩
    · refine .inr ⟨(hle p).mpr hp, ?_, hindent⟩
      unfold arities firstArities
      rw [hfirst, hlast]

/-- Two plans print the same exactly when they list the same sections and, if they list any,
agree on the color and, unless both have their first arity behind their last, on the first
arity, the last and the indentation. -/
theorem accepted_print_eq_iff (p q : Plan) (sink : Sink) :
    (p.print { sink with capacity := none }).sink.accepted =
        (q.print { sink with capacity := none }).sink.accepted ↔
      (∀ kind, kind ∈ p.sections ↔ kind ∈ q.sections) ∧
        (p.sections ≠ [] → p.color = q.color ∧
          ((p.last < p.first ∧ q.last < q.first) ∨
            (p.first ≤ p.last ∧ q.first ≤ q.last ∧
              p.first = q.first ∧ p.last = q.last ∧ p.indent = q.indent))) := by
  rw [accepted_print_unlimited, accepted_print_unlimited, List.append_right_inj, Sink.bytes_inj,
    document_eq_iff, printed_eq_iff, ← ranges_eq_iff]
  simp only [mem_printed, sectionLines_eq_iff]
  refine and_congr_right fun _ => ?_
  constructor
  · intro hkinds hne
    obtain ⟨kind, hkind⟩ := List.exists_mem_of_ne_nil _ hne
    exact hkinds kind hkind
  · intro hplans kind hkind
    exact hplans (List.ne_nil_of_mem hkind)

end Plan

end ArityLadder
