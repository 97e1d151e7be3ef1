import ArityLadder.Proofs.Text.Brackets

/-!
# Lists of arguments

Behind the parenthesis that opens a list of arguments, a comma outside of all brackets
ends an argument, and the first parenthesis that closes more than was opened ends the list.

Main results:

- Theorem `Bracket.readArguments?_append`: what has no such comma belongs to one argument.
- Theorem `Bracket.Leads.passes`: a text without a comma belongs to one argument.
- Theorem `Bracket.arguments?_intercalate`: arguments that are joined by commas are read
  back, where the list is closed behind the last of them.
-/

namespace ArityLadder

namespace Bracket

/-! ## Reading arguments -/

/-- The pairs that are open behind a character of an argument, latest first: no comma outside of all
brackets belongs to it. -/
def argumentStep (pending : List Bracket) (c : Char) : Option (List Bracket) :=
  if pending = [] ∧ c = ',' then none else step pending c

/-- The arguments in what remains of a list, and what stands behind its closing parenthesis, where
some pairs are open in the first argument. -/
def readArguments? : List Bracket → List Char → Option (List (List Char) × List Char)
  | _, [] => none
  | pending, c :: rest =>
    match argumentStep pending c with
    | some next =>
      (readArguments? next rest).map fun found => (found.1.modifyHead (c :: ·), found.2)
    | none =>
      if pending = [] ∧ c = ',' then
        (readArguments? [] rest).map fun found => ([] :: found.1, found.2)
      else if pending = [] ∧ c = ')' then some ([[]], rest)
      else none

/-- The arguments of a list that was opened before a text, and what stands behind its closing
parenthesis. -/
def arguments? (text : String) : Option (List String × String) :=
  (readArguments? [] text.toList).map fun found =>
    (found.1.map String.ofList, String.ofList found.2)

/-! ## Texts that belong to one argument -/

/-- Whether a text belongs to one argument, and leads from some open pairs to others. -/
def Passes (text : String) (before after : List Bracket) : Prop :=
  text.toList.foldlM argumentStep before = some after

instance (text : String) (before after : List Bracket) : Decidable (Passes text before after) :=
  inferInstanceAs (Decidable (_ = _))

/-- A joined text belongs to one argument where its parts do. -/
theorem Passes.append {a b : String} {before middle after : List Bracket}
    (ha : Passes a before middle) (hb : Passes b middle after) : Passes (a ++ b) before after := by
  unfold Passes at ha hb ⊢
  rw [String.toList_append, List.foldlM_append, ha]
  exact hb

/-- A text without a comma belongs to one argument. -/
theorem Leads.passes {text : String} {before after : List Bracket}
    (hlead : Leads text before after) (hcomma : ',' ∉ text.toList) : Passes text before after := by
  unfold Leads at hlead
  unfold Passes
  generalize text.toList = cs at hlead hcomma
  induction cs generalizing before with
  | nil => exact hlead
  | cons c cs ih =>
    rw [List.mem_cons, not_or] at hcomma
    rw [List.foldlM_cons] at hlead ⊢
    obtain ⟨next, hstep, hrest⟩ := Option.bind_eq_some_iff.mp hlead
    rw [argumentStep, if_neg fun h => hcomma.1 h.2.symm, hstep]
    exact ih hrest hcomma.2

/-! ## Lists -/

/-- What belongs to one argument is the front of the first one. -/
theorem readArguments?_append {cs : List Char} {before after : List Bracket}
    (hread : cs.foldlM argumentStep before = some after) (rest : List Char) :
    readArguments? before (cs ++ rest) =
      (readArguments? after rest).map fun found => (found.1.modifyHead (cs ++ ·), found.2) := by
  induction cs generalizing before with
  | nil =>
    obtain rfl : before = after := Option.some.inj hread
    have hsame : (fun found : List (List Char) × List Char =>
        (found.1.modifyHead ([] ++ ·), found.2)) = id := by
      funext found
      exact Prod.ext (congrFun List.modifyHead_id found.1) rfl
    rw [hsame, Option.map_id]
    rfl
  | cons c cs ih =>
    rw [List.foldlM_cons] at hread
    obtain ⟨next, hstep, hrest⟩ := Option.bind_eq_some_iff.mp hread
    rw [List.cons_append, readArguments?, hstep]
    dsimp only
    rw [ih hrest, Option.map_map]
    congr 1
    funext found
    simp [Function.comp_def]

/-- Outside of all brackets a comma ends an argument. -/
theorem readArguments?_comma (rest : List Char) :
    readArguments? [] (',' :: rest) =
      (readArguments? [] rest).map fun found => ([] :: found.1, found.2) :=
  rfl

/-- Outside of all brackets a closing parenthesis ends the list. -/
theorem readArguments?_closing (rest : List Char) :
    readArguments? [] (')' :: rest) = some ([[]], rest) :=
  rfl

/-- The characters of arguments that are joined by commas are read back. -/
theorem readArguments?_intercalate {texts : List String} (hne : texts ≠ [])
    (htexts : ∀ text ∈ texts, Passes text [] []) (rest : List Char) :
    readArguments? [] ((",".intercalate texts).toList ++ ')' :: rest) =
      some (texts.map String.toList, rest) := by
  induction texts with
  | nil => exact absurd rfl hne
  | cons text texts ih =>
    obtain ⟨htext, hlater⟩ := List.forall_mem_cons.mp htexts
    cases texts with
    | nil =>
      rw [String.intercalate_singleton, readArguments?_append htext, readArguments?_closing]
      simp
    | cons next texts =>
      have hchars : (",".intercalate (text :: next :: texts)).toList =
          text.toList ++ ',' :: (",".intercalate (next :: texts)).toList := by
        rw [String.intercalate_cons_cons, String.toList_append, String.toList_append,
          List.append_assoc]
        rfl
      rw [hchars, List.append_assoc, readArguments?_append htext, List.cons_append,
        readArguments?_comma, ih (by simp) hlater]
      simp

/-- Arguments that are joined by commas are read back, where the list is closed behind the last. -/
theorem arguments?_intercalate {texts : List String} (hne : texts ≠ [])
    (htexts : ∀ text ∈ texts, Passes text [] []) (rest : String) :
    arguments? (",".intercalate texts ++ (")" ++ rest)) = some (texts, rest) := by
  have hchars : (",".intercalate texts ++ (")" ++ rest)).toList =
      (",".intercalate texts).toList ++ ')' :: rest.toList := by
    rw [String.toList_append, String.toList_append]
    rfl
  rw [arguments?, hchars, readArguments?_intercalate hne htexts]
  simp [Function.comp_def]

/-- A comma behind the last argument makes an empty one. -/
example : arguments? "f(a, b), c\x7bd,\x7d,);" = some (["f(a, b)", " c\x7bd,\x7d", ""], ";") := by
  decide +kernel

end Bracket

/-- A joined text is its last part behind the others, each of which has a separator behind it. -/
theorem Text.intercalate_concat_eq_join (separator : String) (texts : List String)
    (text : String) :
    separator.intercalate (texts ++ [text]) =
      String.join (texts.map fun front => front ++ separator) ++ text := by
  induction texts with
  | nil => simp
  | cons front texts ih =>
    rw [List.cons_append, String.intercalate_cons_of_ne_nil (by simp), ih, List.map_cons,
      String.join_cons, String.append_assoc, String.append_assoc, String.append_assoc]

end ArityLadder
