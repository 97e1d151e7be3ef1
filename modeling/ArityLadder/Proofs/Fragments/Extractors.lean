import ArityLadder.Proofs.Fragments.Nesting
import ArityLadder.Proofs.Fragments.Statements
import ArityLadder.Proofs.Text.Arguments

/-!
# Extractors

The fragment of an extractor returns one list of arguments, which pairs each field with
its name in the order of the fields.  The list is printed line by line, and only its
last line closes it.

Main results:

- Theorem `Section.passes_namedField`: a pair is one argument.
- Theorem `Section.join_pairLines`: the lines of the pairs are one list of arguments.
- Theorem `Fragment.extractor_pairs`: the fragment of an extractor pairs every name of its
  binding with its own position, in one list of arguments that is closed behind the last.
-/

namespace ArityLadder

open Text ArityLadder.Bracket

/-! ## Pairs as arguments -/

namespace Bindings

/-- A bound name belongs to one argument. -/
theorem passes_nameAt (index : Nat) (pending : List Bracket) :
    Passes (nameAt index) pending pending :=
  (leads_nameAt index pending).passes ((isWord_nameAt index).notMem (by decide))

/-- Each name stands before the position that its number tells. -/
theorem zipIdx_names (arity : Arity) :
    (ofArity arity).names.zipIdx =
      (List.range arity.count).map fun index => (nameAt index, index) := by
  apply List.ext_getElem
  · simp [ofArity]
  · intro index hleft hright
    simp [ofArity]

end Bindings

namespace Section

/-- A field paired with its name is one argument. -/
theorem passes_namedField (index : Nat) :
    Passes (namedField index (Bindings.nameAt index)) [] [] := by
  have hname := Bindings.passes_nameAt index
  have hopen : Passes "NamedField<decltype(" [] [.round] := by decide
  have hfield : Passes ")>\x7b.name = getFieldName<T, " [.round] [.curly] := by decide
  have hindex : Passes (toString index) [.curly] [.curly] :=
    (leads_repr index [.curly]).passes ((isWord_repr index).notMem (by decide))
  have hvalue : Passes ">(), .value = " [.curly] [.curly] := by decide
  have hclose : Passes "\x7d" [.curly] [] := by decide
  exact (((((hopen.append (hname _)).append hfield).append hindex).append hvalue).append
    (hname _)).append hclose

/-- The pair of a position behind a line end, as it stands in the list of arguments. -/
def argument (indent : Indent) (index : Nat) : String :=
  "\n" ++ (indent.text 2 ++ namedField index (Bindings.nameAt index))

/-- A pair behind a line end and its indentation is one argument. -/
theorem passes_argument (indent : Indent) (index : Nat) : Passes (argument indent index) [] [] := by
  have hend : Passes "\n" [] [] := by decide
  have hindent : Passes (indent.text 2) [] [] :=
    Leads.passes (indent.isNested_text 2) (indent.notMem_text (by decide) (by decide) 2)
  exact hend.append (hindent.append (passes_namedField index))

/-- What is said in an argument is its pair. -/
theorem read?_argument (indent : Indent) (index : Nat) :
    Statement.read? (argument indent index) =
      some (.pair (Bindings.nameAt index) index (Bindings.nameAt index) "") := by
  have hsays := says_namedField index 2 "" indent
  rw [Line.render, String.append_empty] at hsays
  rw [argument, Statement.read?_blank_append (List.all_eq_true.mp (by decide))]
  exact hsays

/-- The lines of the pairs are one list of arguments, which the last line closes. -/
theorem join_pairLines (arity : Arity) (indent : Indent) :
    String.join (((List.range arity.count).map (pairLine arity)).map fun line =>
        "\n" ++ line.render indent) =
      ",".intercalate ((List.range arity.count).map (argument indent)) ++ (")" ++ ";") := by
  obtain ⟨last, hcount⟩ : ∃ last, arity.count = last + 1 :=
    ⟨arity.count - 1, by have hpos := arity.pos; omega⟩
  have hfront : ∀ index ∈ List.range last,
      "\n" ++ (pairLine arity index).render indent = argument indent index ++ "," := by
    intro index hindex
    have hne : index + 1 ≠ arity.count := by
      have hlt := List.mem_range.mp hindex
      omega
    rw [Line.render, pairLine, if_neg hne]
    simp only [argument, String.append_assoc]
  have hlast : "\n" ++ (pairLine arity last).render indent =
      argument indent last ++ (")" ++ ";") := by
    rw [Line.render, pairLine, if_pos hcount.symm]
    simp only [argument, String.append_assoc]
    rfl
  rw [hcount, List.range_succ, List.map_append, List.map_append, List.map_append,
    String.join_append, List.map_singleton, List.map_singleton, List.map_singleton,
    Text.intercalate_concat_eq_join, hlast, List.map_map, List.map_map]
  simp only [Function.comp_def]
  rw [List.map_congr_left hfront]
  simp [String.append_assoc]

end Section

/-! ## Extractors as text -/

namespace Fragment

open Section

/-- The fragment of an extractor has a guard for its arity, one binding of as many different names,
the line that opens the list of arguments, one line for each pair, and a closing brace.  The pairs
stand in the order of the names, each with the position of its name, and name it as type and as
value; all of them but the last end with a comma, and the last one closes the list.  So the lines of
the pairs are one list of as many arguments, closed once, without a comma behind the last.  The
position of the last pair is computed on machine words without an underflow. -/
theorem extractor_pairs (indent : Indent) (arity : Arity) :
    let text := (make indent .extractor arity).text
    (lines text).length = arity.count + 4 ∧
    (lines text).head? = some (Branch.keyword arity ++ " constexpr (" ++
      ("internal::has_n_fields<T, " ++ arity.text ++ ">") ++ ") \x7b") ∧
    (lines text).getLast? = some "\x7d" ∧
    (∃ names pairs items,
      (innerLines text).map Statement.read? = (.binding names "t" :: .tuple :: pairs).map some ∧
      names.length = arity.count ∧ names.Nodup ∧
      pairs = (names.zipIdx.map fun entry =>
        .pair entry.1 entry.2 entry.1 (if entry.2 + 1 = arity.count then ");" else ",")) ∧
      arguments? (String.join (((innerLines text).drop 2).map fun line => "\n" ++ line)) =
        some (items, ";") ∧
      items.map Statement.read? =
        names.zipIdx.map fun entry => some (.pair entry.1 entry.2 entry.1 "")) ∧
    1 ≤ (Bindings.ofArity arity).size ∧
    (Bindings.ofArity arity).lastIndex.toNat + 1 = (Bindings.ofArity arity).size := by
  intro text
  have hsize : (Bindings.ofArity arity).size = arity.count := Bindings.length_names arity
  have hinner : (innerLines text).drop 2 =
      ((List.range arity.count).map (Section.pairLine arity)).map (Line.render indent) := by
    rw [innerLines_text, Section.body_extractor]
    rfl
  refine ⟨?_, head?_lines_text indent .extractor arity, getLast?_lines_text indent .extractor arity,
    ⟨(Bindings.ofArity arity).names, _,
      (List.range arity.count).map (Section.argument indent),
      map_read?_innerLines indent .extractor arity, Bindings.length_names arity,
      Bindings.nodup_names arity, ?_, ?_, ?_⟩, ?_, ?_⟩
  · rw [lines_text indent .extractor arity]
    exact length_lines indent .extractor arity
  · rw [Bindings.zipIdx_names, List.map_map]
    rfl
  · have hne : (List.range arity.count).map (Section.argument indent) ≠ [] := by
      have hpos := arity.pos
      rw [ne_eq, List.map_eq_nil_iff, List.range_eq_nil]
      omega
    rw [hinner, List.map_map]
    refine (congrArg arguments? (Section.join_pairLines arity indent)).trans
      (arguments?_intercalate hne ?_ ";")
    intro item hitem
    obtain ⟨index, -, rfl⟩ := List.mem_map.mp hitem
    exact Section.passes_argument indent index
  · rw [Bindings.zipIdx_names, List.map_map, List.map_map]
    exact List.map_congr_left fun index _ => Section.read?_argument indent index
  · rw [hsize]
    exact arity.pos
  · rw [hsize]
    exact Bindings.toNat_size_sub_one arity

end Fragment

end ArityLadder
