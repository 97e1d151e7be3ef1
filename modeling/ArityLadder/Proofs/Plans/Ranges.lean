import ArityLadder.Plan.Editing
import ArityLadder.Proofs.Printing.Documents

/-!
# Ranges of edited plans

However a plan is edited, its first and its last arity come from integers that were given
for them, so that both stay within a signed machine word.  The range between them is
passed word by word, and each word is read as a signed one to become an arity again: no
word changes its value on the way and none is lost, also where the range ends at the
greatest signed word.

Main results:

- Theorem `Plan.givenBy_editedBy`: edits bring no arity into a plan but those that they
  give.
- Theorem `Plan.exists_edits`: every plan is reached by edits.
- Theorem `Plan.arities_of_edits`: the arities of an edited plan are the integers from its
  first to its last, each once.
-/

namespace ArityLadder

/-! ## Integers that are given for arities -/

/-- An arity that was there at the start, or comes from one of the integers that were given. -/
def Arity.IsGiven (start : Arity) (values : List Int64) (arity : Arity) : Prop :=
  arity = start ∨ ∃ value ∈ values, checkArity value = .ok arity

/-- Further integers may be given. -/
theorem Arity.IsGiven.mono {start arity : Arity} {values more : List Int64}
    (harity : IsGiven start values arity) (hvalues : values ⊆ more) :
    IsGiven start more arity := by
  rcases harity with hstart | ⟨value, hmem, hvalue⟩
  · exact .inl hstart
  · exact .inr ⟨value, hvalues hmem, hvalue⟩

/-- The word of an arity keeps its count when it is read as a signed one. -/
theorem Arity.toInt_word (arity : Arity) : arity.word.toInt64.toInt = arity.count := by
  have hmax : arity.word.toNat ≤ 9223372036854775807 := by
    rw [toNat_word]
    exact arity.le_max
  rw [toInt_toInt64 hmax, toNat_word]

/-- Every arity comes from its own count, read as a signed machine word. -/
theorem checkArity_word (arity : Arity) : checkArity arity.word.toInt64 = .ok arity := by
  rw [checkArity_eq_ok_iff, Arity.toInt_word]

namespace Plan

/-! ## What an edit does to the range -/

/-- The first and the last arity of a plan were there at the start, or come from integers that
were given. -/
structure GivenBy (start : Arity) (values : List Int64) (plan : Plan) : Prop where
  first : Arity.IsGiven start values plan.first
  last : Arity.IsGiven start values plan.last

/-- An edit leaves the first and the last arity, or replaces them by the one that it gives. -/
theorem bounds_of_edit {plan next : Plan} {edit : Edit} (hedit : plan.edit edit = .ok next) :
    (next.first = plan.first ∨ ∃ value ∈ edit.value?, checkArity value = .ok next.first) ∧
      (next.last = plan.last ∨ ∃ value ∈ edit.value?, checkArity value = .ok next.last) := by
  cases edit with
  | single value =>
    obtain ⟨arity, harity, hnext⟩ := bind_eq_ok_iff.mp hedit
    obtain rfl := Except.ok.inj hnext
    exact ⟨.inr ⟨value, rfl, harity⟩, .inr ⟨value, rfl, harity⟩⟩
  | withRange value =>
    obtain ⟨first, hfirst, hnext⟩ := bind_eq_ok_iff.mp hedit
    obtain ⟨-, rfl⟩ := withRange_eq_ok_iff.mp hnext
    exact ⟨.inr ⟨value, rfl, hfirst⟩, .inl rfl⟩
  | first value =>
    obtain ⟨first, hfirst, hnext⟩ := bind_eq_ok_iff.mp hedit
    obtain rfl := Except.ok.inj hnext
    exact ⟨.inr ⟨value, rfl, hfirst⟩, .inl rfl⟩
  | last value =>
    obtain ⟨last, hlast, hnext⟩ := bind_eq_ok_iff.mp hedit
    obtain rfl := Except.ok.inj hnext
    exact ⟨.inl rfl, .inr ⟨value, rfl, hlast⟩⟩
  | sections sections | indent indent | color color =>
    obtain rfl := Except.ok.inj hedit
    exact ⟨.inl rfl, .inl rfl⟩

/-- An edit brings no arity into a plan but one that it gives. -/
theorem givenBy_edited {start : Arity} {values : List Int64} {plan : Plan}
    (hplan : plan.GivenBy start values) (edit : Edit) :
    (plan.edited edit).GivenBy start (values ++ edit.value?.toList) := by
  have hbefore := List.subset_append_left values edit.value?.toList
  have hgiven {old new : Arity} (hold : Arity.IsGiven start values old)
      (hnew : new = old ∨ ∃ value ∈ edit.value?, checkArity value = .ok new) :
      Arity.IsGiven start (values ++ edit.value?.toList) new := by
    rcases hnew with rfl | ⟨value, hmem, hvalue⟩
    · exact hold.mono hbefore
    · exact .inr ⟨value, List.mem_append_right _ (Option.mem_toList.mpr hmem), hvalue⟩
  rcases plan.edited_cases edit with hedit | ⟨fault, -, hsame⟩
  · obtain ⟨hfirst, hlast⟩ := bounds_of_edit hedit
    exact ⟨hgiven hplan.first hfirst, hgiven hplan.last hlast⟩
  · rw [hsame]
    exact ⟨hplan.first.mono hbefore, hplan.last.mono hbefore⟩

/-- Edits in turn bring no arity into a plan but those that they give. -/
theorem givenBy_editedBy {start : Arity} {values : List Int64} {plan : Plan}
    (hplan : plan.GivenBy start values) (edits : List Edit) :
    (plan.editedBy edits).GivenBy start (values ++ edits.filterMap Edit.value?) := by
  induction edits generalizing plan values with
  | nil => simpa [editedBy] using hplan
  | cons edit edits ih =>
    have hvalues : edit.value?.toList ++ edits.filterMap Edit.value? =
        (edit :: edits).filterMap Edit.value? := by
      cases hvalue : edit.value? <;> simp [hvalue]
    have hrest := ih (givenBy_edited hplan edit)
    rwa [List.append_assoc, hvalues] at hrest

/-- Every plan is reached from every other by edits. -/
theorem exists_edits (plan target : Plan) : ∃ edits, plan.editedBy edits = target := by
  have hfirst := checkArity_word target.first
  have hlast := checkArity_word target.last
  refine ⟨[.first target.first.word.toInt64, .last target.last.word.toInt64,
    .sections target.sections, .indent target.indent, .color target.color], ?_⟩
  simp only [editedBy, List.foldl_cons, List.foldl_nil, edited, edit, hfirst, hlast, bind,
    Except.bind, pure, Except.pure]

/-! ## The arities of a range -/

/-- The arities that are taken first are the first ones of all. -/
theorem firstArities_eq_take (plan : Plan) (limit : Nat) :
    plan.firstArities limit = plan.arities.take limit := by
  apply (List.map_inj_right fun _ _ => Arity.ext).mp
  rw [List.map_take, map_count_arities, firstArities, Arity.map_count_upTo]
  apply List.ext_getElem
  · simp
  · intro index _ _
    simp

/-- A machine word that is passed between the first and the last arity keeps its value as a signed
one, and so it is the count of one of the arities. -/
theorem exists_mem_arities {plan : Plan} {word : UInt64}
    (hword : word ∈ Arity.wordsUpTo plan.first.word plan.last.word plan.last.count) :
    word.toInt64.toInt = word.toNat ∧
      ∃ arity ∈ plan.arities, Arity.ofWord? word = some arity ∧ arity.count = word.toNat := by
  obtain ⟨hpos, hmax⟩ := Arity.bounds_of_mem_wordsUpTo hword
  obtain ⟨arity, harity, hcount⟩ := Arity.exists_ofWord? hpos hmax
  have hmem : arity ∈ plan.arities := List.mem_filterMap.mpr ⟨word, hword, harity⟩
  exact ⟨Arity.toInt_toInt64 hmax, arity, hmem, harity, hcount⟩

/-- However a plan is edited, its first and its last arity come from integers that were given, and
lie between one and the greatest signed word.  Its arities are the integers from the first to the
last in ascending order, each once, and none where the first lies behind the last.  Every machine
word that is passed between the two keeps its value as a signed one and is the count of an arity, so
that none is lost.  Every plan is reached in this way. -/
theorem arities_of_edits (start : Arity) :
    (∀ edits : List Edit,
      let plan := (single start).editedBy edits
      let words := Arity.wordsUpTo plan.first.word plan.last.word plan.last.count
      plan.GivenBy start (edits.filterMap Edit.value?) ∧
      (∀ arity ∈ [plan.first, plan.last],
        1 ≤ arity.count ∧ arity.count ≤ 9223372036854775807) ∧
      plan.arities.map Arity.count =
        List.range' plan.first.count (plan.last.count + 1 - plan.first.count) ∧
      (plan.arities = [] ↔ plan.last < plan.first) ∧
      (∀ limit, plan.firstArities limit = plan.arities.take limit) ∧
      words.map UInt64.toNat = plan.arities.map Arity.count ∧
      ∀ word ∈ words, word.toInt64.toInt = word.toNat ∧
        ∃ arity ∈ plan.arities, Arity.ofWord? word = some arity ∧ arity.count = word.toNat) ∧
    ∀ plan : Plan, ∃ edits, (single start).editedBy edits = plan := by
  refine ⟨?_, (single start).exists_edits⟩
  intro edits plan words
  have hsingle : (single start).GivenBy start [] := ⟨.inl rfl, .inl rfl⟩
  have hgiven := givenBy_editedBy hsingle edits
  have hwords : words.map UInt64.toNat = plan.arities.map Arity.count := by
    have hpassed (word : UInt64) (hword : word ∈ words) := Arity.bounds_of_mem_wordsUpTo hword
    exact (Arity.map_count_filterMap hpassed).symm
  refine ⟨hgiven, fun arity _ => ⟨arity.pos, arity.le_max⟩, plan.map_count_arities,
    plan.arities_eq_nil_iff, plan.firstArities_eq_take, hwords, ?_⟩
  intro word hword
  exact exists_mem_arities hword

end Plan

/-- The last two arities there are make up a range that is edited to its end. -/
example :
    let plan := (Plan.single .one).editedBy
      [.last 9223372036854775807, .withRange 0, .first 9223372036854775806]
    plan.arities.map Arity.count = [9223372036854775806, 9223372036854775807] := by
  decide +kernel

end ArityLadder
