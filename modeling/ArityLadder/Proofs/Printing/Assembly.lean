import ArityLadder.Proofs.CommandLine.Plans
import ArityLadder.Proofs.Printing.Documents

/-!
# Ladders in parts

A ladder for a range of arities may be printed in two runs, one up to a cut and one
behind it: pasted together with a line end, the sections of the parts are those of the
whole.

Main results:

- Theorem `Plan.arities_eq_append`: the arities of a plan are those up to a cut and
  those behind it.
- Theorem `Plan.sectionText_eq_append`: so are its sections, with a line end between.
- Theorem `CommandLine.sectionText_of_parts`: the command lines of the parts have plans
  whose sections make up those of the whole.
-/

namespace ArityLadder

namespace Plan

/-! ## Cutting a range -/

/-- The arities of a plan are those up to a cut and those behind it. -/
theorem arities_eq_append (plan : Plan) {cut next : Arity} (hfirst : plan.first ≤ cut)
    (hnext : next.count = cut.count + 1) (hlast : next ≤ plan.last) :
    plan.arities =
      { plan with last := cut }.arities ++ { plan with first := next }.arities := by
  rw [Arity.le_def] at hfirst hlast
  have hstart : cut.count + 1 = plan.first.count + (cut.count + 1 - plan.first.count) := by omega
  have hlength : plan.last.count + 1 - plan.first.count =
      (cut.count + 1 - plan.first.count) + (plan.last.count + 1 - (cut.count + 1)) := by omega
  -- An arity is determined by its count, and the counts make up two adjacent ranges.
  apply (List.map_inj_right fun _ _ => Arity.ext).mp
  rw [List.map_append, map_count_arities, map_count_arities, map_count_arities]
  dsimp only
  rw [hnext, hlength, ← List.range'_append_1, ← hstart]

/-- The branches of a section are those up to a cut and those behind it. -/
theorem sectionText_eq_append (plan : Plan) {cut next : Arity} (hfirst : plan.first ≤ cut)
    (hnext : next.count = cut.count + 1) (hlast : next ≤ plan.last) (kind : Section) :
    plan.sectionText kind =
      { plan with last := cut }.sectionText kind ++ "\n" ++
        { plan with first := next }.sectionText kind := by
  have hlow : { plan with last := cut }.arities ≠ [] := by
    rw [ne_eq, arities_eq_nil_iff, Arity.lt_def]
    rw [Arity.le_def] at hfirst
    dsimp only
    omega
  have hhigh : { plan with first := next }.arities ≠ [] := by
    rw [ne_eq, arities_eq_nil_iff, Arity.lt_def]
    rw [Arity.le_def] at hlast
    dsimp only
    omega
  unfold sectionText
  rw [plan.arities_eq_append hfirst hnext hlast, List.map_append,
    String.intercalate_append_of_ne_nil (by simpa using hlow) (by simpa using hhigh)]

end Plan

namespace CommandLine

/-! ## Command lines of parts -/

/-- The number behind one that has a greater one is one more. -/
theorem toInt_add_one {value greater : Int64} (hless : value.toInt < greater.toInt) :
    (value + 1).toInt = value.toInt + 1 := by
  have hleast := value.le_toInt
  have hlimit := greater.toInt_lt
  rw [Int64.toInt_add]
  apply Int.bmod_eq_of_le
  · simp
    omega
  · simp
    omega

/-- A range that ends where it starts is no other than the field count alone. -/
theorem plan_start_fieldCount {line : CommandLine} (settings : Settings)
    (hcount : 1 ≤ line.fieldCount.toInt) :
    ∃ plan, ({ line with start := some line.fieldCount } : CommandLine).plan settings = .ok plan ∧
      ({ line with start := none } : CommandLine).plan settings = .ok plan := by
  obtain ⟨last, hlast⟩ := exists_checkArity_iff.mpr hcount
  rw [checkArity_eq_ok_iff] at hlast
  have hle : last ≤ last := Nat.le_refl _
  refine ⟨{ line.planFor settings last with first := last }, ?_, ?_⟩
  · exact plan_eq_ok_iff.mpr ⟨last, last, hlast, hlast, hle, rfl⟩
  · exact plan_eq_ok_iff.mpr ⟨last, last, hlast, hlast, hle, rfl⟩

/-- A ladder may be printed in parts: wherever the range is cut, the part up to the cut and the
part behind it have plans, and pasted with a line end their sections are those of the whole.  A
range of one arity is no other than the arity alone. -/
theorem sectionText_of_parts {line : CommandLine} {start cut : Int64} (settings : Settings)
    (hline : line.validate = .ok ()) (hstart : line.start = some start)
    (hlow : start.toInt ≤ cut.toInt) (hhigh : cut.toInt < line.fieldCount.toInt) :
    (∃ whole low high,
      line.plan settings = .ok whole ∧
      ({ line with fieldCount := cut } : CommandLine).plan settings = .ok low ∧
      ({ line with start := some (cut + 1) } : CommandLine).plan settings = .ok high ∧
      ∀ kind, whole.sectionText kind = low.sectionText kind ++ "\n" ++ high.sectionText kind) ∧
    ∃ single,
      ({ line with start := some line.fieldCount } : CommandLine).plan settings = .ok single ∧
      ({ line with start := none } : CommandLine).plan settings = .ok single := by
  have hvalid := validate_eq_ok_iff.mp hline
  refine ⟨?_, plan_start_fieldCount settings hvalid.fieldCount⟩
  have hpos := (hvalid.start start hstart).1
  have hbehind := toInt_add_one hhigh
  -- The four arities at which the parts start and end.
  obtain ⟨first, last, hfirst, hlast, hle⟩ := hvalid.exists_counts
  obtain ⟨mid, hmid⟩ := exists_checkArity_iff.mpr (show 1 ≤ cut.toInt by omega)
  obtain ⟨next, hnext⟩ := exists_checkArity_iff.mpr (show 1 ≤ (cut + 1).toInt by omega)
  rw [checkArity_eq_ok_iff] at hmid hnext
  have hfirstMid : first ≤ mid := by
    rw [Arity.le_def]
    rw [startCount, hstart, Option.getD_some] at hfirst
    omega
  have hmidNext : next.count = mid.count + 1 := by omega
  have hnextLast : next ≤ last := by
    rw [Arity.le_def]
    omega
  have hfirstLow :
      (first.count : Int) = ({ line with fieldCount := cut } : CommandLine).startCount.toInt := by
    rw [hfirst, startCount, startCount, hstart, Option.getD_some, Option.getD_some]
  refine ⟨{ line.planFor settings last with first }, { line.planFor settings mid with first },
    { line.planFor settings last with first := next }, ?_, ?_, ?_, ?_⟩
  · exact plan_eq_ok_iff.mpr ⟨first, last, hfirst, hlast, hle, rfl⟩
  · exact plan_eq_ok_iff.mpr ⟨first, mid, hfirstLow, hmid, hfirstMid, rfl⟩
  · exact plan_eq_ok_iff.mpr ⟨next, last, hnext, hlast, hnextLast, rfl⟩
  · intro kind
    exact Plan.sectionText_eq_append { line.planFor settings last with first } hfirstMid hmidNext
      hnextLast kind

/-- A ladder for one to four fields is cut behind two. -/
theorem sectionText_of_parts_four :
    let line : CommandLine := ⟨{ start := some 1, only := [.extractor] }, 4⟩
    ∃ whole low high,
      line.plan {} = .ok whole ∧
      ({ line with fieldCount := 2 } : CommandLine).plan {} = .ok low ∧
      ({ line with start := some (2 + 1) } : CommandLine).plan {} = .ok high ∧
      ∀ kind, whole.sectionText kind = low.sectionText kind ++ "\n" ++ high.sectionText kind :=
  (sectionText_of_parts {} rfl rfl (by decide) (by decide)).1

end CommandLine

end ArityLadder
