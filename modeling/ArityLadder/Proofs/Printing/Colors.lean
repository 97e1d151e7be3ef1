import ArityLadder.Proofs.Printing.Documents
import ArityLadder.Proofs.Text.Bytes
import ArityLadder.Proofs.Text.Deletion

/-!
# Painted headers

A painted text is the text between two escapes.  Only headers are painted, and nothing
that a plan prints holds an escape of its own, so that a plan prints the same with and
without color once the escapes are deleted.

Main results:

- Theorem `Tone.deletesTo_paint`: the text is left of a painted text.
- Theorem `Plan.deletesTo_document`: what is printed without color is left of what is
  printed with it.
- Theorem `Plan.print_painted`: so it is where the output takes everything or nothing.
- Theorems `Plan.count_document` and `Plan.filter_lines_document`: how many escapes a
  painted document holds, and in which of its lines.
-/

namespace ArityLadder

open Text

/-! ## Painted texts -/

namespace Tone

/-- The bytes of the escapes that start some tones and of the one that ends them. -/
def codes (tones : List Tone) : List (List UInt8) :=
  (tones.map fun tone => Sink.bytes tone.code) ++ [Sink.bytes reset]

/-- Every escape starts with the same byte, and none is the start of another. -/
theorem areMarked_codes (tones : List Tone) : AreMarked 27 (codes tones) := by
  have hall : AreMarked 27 (codes [heading, failure]) := ⟨by decide, by decide⟩
  apply hall.of_subset
  intro code hcode
  rcases List.mem_append.mp hcode with hcode | hcode
  · obtain ⟨tone, -, rfl⟩ := List.mem_map.mp hcode
    cases tone <;> decide
  · exact List.mem_append_right _ hcode

/-- A text without escapes is left as it is. -/
theorem deletesTo_self (tones : List Tone) {text : String} (htext : '\x1b' ∉ text.toList) :
    DeletesTo (codes tones) (Sink.bytes text) (Sink.bytes text) :=
  (areMarked_codes tones).deletesTo_self
    (mt (Sink.mem_bytes_iff (by decide : '\x1b'.toNat < 128)).mp htext)

/-- The text is left of a painted text, and of one that is not painted. -/
theorem deletesTo_paint {tones : List Tone} {tone : Tone} (htone : tone ∈ tones) {text : String}
    (htext : '\x1b' ∉ text.toList) (enabled : Bool) :
    DeletesTo (codes tones) (Sink.bytes (tone.paint enabled text)) (Sink.bytes text) := by
  have hself := deletesTo_self tones htext
  unfold paint
  cases enabled with
  | false => exact hself
  | true =>
    have hcodes := areMarked_codes tones
    have hstart : Sink.bytes tone.code ∈ codes tones :=
      List.mem_append_left _ (List.mem_map_of_mem htone)
    have hend : Sink.bytes reset ∈ codes tones :=
      List.mem_append_right _ (List.mem_singleton_self _)
    have hpainted := ((hcodes.deletesTo_nil hstart).append hself).append (hcodes.deletesTo_nil hend)
    rw [List.nil_append, List.append_nil] at hpainted
    rw [if_pos rfl, Sink.bytes_append, Sink.bytes_append]
    exact hpainted

/-- Texts are left of others also where both are joined behind a separator without escapes. -/
theorem deletesTo_intercalate {tones : List Tone} {separator : String}
    (hseparator : '\x1b' ∉ separator.toList) {α : Type} {painted plain : α → String} {as : List α}
    (has : ∀ a ∈ as,
      DeletesTo (codes tones) (Sink.bytes (painted a)) (Sink.bytes (plain a))) :
    DeletesTo (codes tones) (Sink.bytes (separator.intercalate (as.map painted)))
      (Sink.bytes (separator.intercalate (as.map plain))) := by
  induction as with
  | nil => exact deletesTo_self tones List.not_mem_nil
  | cons a as ih =>
    have hfirst := has a List.mem_cons_self
    have hrest := ih fun b hb => has b (List.mem_cons_of_mem a hb)
    cases as with
    | nil => simpa using hfirst
    | cons b as =>
      simp only [List.map_cons, String.intercalate_cons_cons, Sink.bytes_append] at hrest ⊢
      exact (hfirst.append (deletesTo_self tones hseparator)).append hrest

end Tone

/-! ## Painted documents -/

namespace Plan

/-- The text of a section has no escapes. -/
theorem escape_notMem_sectionText (plan : Plan) (kind : Section) :
    '\x1b' ∉ (plan.sectionText kind).toList := by
  rw [sectionText_eq_intercalate]
  apply notMem_intercalate (by decide)
  intro line hline
  exact notMem_of_mem_sectionLines hline (by decide) (by decide)

/-- The plain header is left of a painted one. -/
theorem deletesTo_header {tones : List Tone} (htones : .heading ∈ tones) (plan : Plan)
    (color : Bool) (kind : Section) :
    DeletesTo (Tone.codes tones) (Sink.bytes ({ plan with color }.header kind))
      (Sink.bytes ({ plan with color := false }.header kind)) :=
  Tone.deletesTo_paint htones (kind.isPrintable_title.notMem (by decide)) color

/-- What is printed without color is left of what is printed with it. -/
theorem deletesTo_document {tones : List Tone} (htones : .heading ∈ tones) (plan : Plan)
    (color : Bool) :
    DeletesTo (Tone.codes tones) (Sink.bytes { plan with color }.document)
      (Sink.bytes { plan with color := false }.document) := by
  have hend := Tone.deletesTo_self tones (by decide : '\x1b' ∉ "\n".toList)
  apply Tone.deletesTo_intercalate (by decide)
  intro kind _
  have hheader := plan.deletesTo_header htones color kind
  have hsection := Tone.deletesTo_self tones (plan.escape_notMem_sectionText kind)
  unfold block
  simp only [Sink.bytes_append]
  exact (((hheader.append hend).append hend).append hsection).append hend

/-- On an output that takes everything, or nothing at all, a painted plan ends as it ends unpainted,
and what is left of its output is what it prints unpainted. -/
theorem print_painted {tones : List Tone} (htones : .heading ∈ tones) {plan : Plan}
    (hsections : plan.sections ≠ []) {capacity : Option Nat}
    (hcapacity : capacity = none ∨ capacity = some 0) (refusal flushFault : Option String)
    (color : Bool) :
    let painted := { plan with color }.print { capacity, refusal, flushFault }
    let plain := { plan with color := false }.print { capacity, refusal, flushFault }
    painted.fault = plain.fault ∧
      deleteWords (Tone.codes tones) painted.sink.accepted = plain.sink.accepted := by
  intro painted plain
  rcases hcapacity with rfl | rfl
  · have hpainted := accepted_print_unlimited { plan with color } { refusal, flushFault }
    have hplain := accepted_print_unlimited { plan with color := false } { refusal, flushFault }
    constructor
    · exact (fault_print_unlimited _ refusal flushFault).trans
        (fault_print_unlimited _ refusal flushFault).symm
    · rw [hpainted, hplain]
      exact (plan.deletesTo_document htones color).eq
  · have hdocument (color : Bool) : Sink.bytes { plan with color }.document ≠ [] :=
      bytes_document_ne_nil hsections
    obtain ⟨hpainted, hpaintedFault⟩ := print_closed (hdocument color) refusal flushFault
    obtain ⟨hplain, hplainFault⟩ := print_closed (hdocument false) refusal flushFault
    rw [hpainted, hplain, hpaintedFault, hplainFault]
    exact ⟨rfl, rfl⟩

/-! ## Where the escapes are -/

/-- A document without color holds no escapes. -/
theorem escape_notMem_document {plan : Plan} (hcolor : plan.color = false) :
    '\x1b' ∉ plan.document.toList := by
  apply notMem_intercalate (by decide)
  rw [List.forall_mem_map]
  intro kind _
  have hheader : '\x1b' ∉ (plan.header kind).toList := by
    unfold header
    rw [hcolor]
    exact kind.isPrintable_title.notMem (by decide)
  have hsection := plan.escape_notMem_sectionText kind
  have hend : '\x1b' ∉ "\n".toList := by decide
  unfold block
  simp only [String.toList_append, List.mem_append, hheader, hsection, hend, or_self,
    not_false_eq_true]

section Painted

variable {plan : Plan} (hcolor : plan.color = true)
include hcolor

/-- A painted header holds two escapes. -/
theorem count_header (kind : Section) : (plan.header kind).toList.count '\x1b' = 2 := by
  unfold header
  rw [hcolor]
  cases kind <;> decide +kernel

/-- The escapes of a painted section are those of its header. -/
theorem count_block (kind : Section) : (plan.block kind).toList.count '\x1b' = 2 := by
  have hheader := count_header hcolor kind
  have hsection := List.count_eq_zero_of_not_mem (plan.escape_notMem_sectionText kind)
  have hend : "\n".toList.count '\x1b' = 0 := by decide
  unfold block
  simp only [String.toList_append, List.count_append, hheader, hsection, hend]

/-- A painted document holds two escapes for each section that is printed. -/
theorem count_document : plan.document.toList.count '\x1b' = 2 * plan.printed.length := by
  have hblocks : ∀ block ∈ plan.printed.map plan.block, block.toList.count '\x1b' = 2 := by
    rw [List.forall_mem_map]
    intro kind _
    exact count_block hcolor kind
  unfold document
  rw [count_intercalate (by decide) hblocks, List.length_map]

/-- Of the lines of a painted document the headers of the sections that are printed hold escapes,
and no other line does. -/
theorem filter_lines_document :
    (Text.lines plan.document).filter (fun line : String => '\x1b' ∈ line.toList) =
      plan.printed.map plan.header := by
  apply filter_lines_document_eq (by decide)
  · intro kind
    have hescape : 0 < (plan.header kind).toList.count '\x1b' := by
      rw [count_header hcolor]
      decide
    simpa using List.count_pos_iff.mp hescape
  · intro kind line hline
    simpa using notMem_of_mem_sectionLines hline (by decide : '\x1b'.toNat < 32) (by decide)

end Painted

end Plan

end ArityLadder
