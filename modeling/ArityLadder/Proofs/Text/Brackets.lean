import ArityLadder.Proofs.Text.Lines

/-!
# Nested brackets

A text is read character by character with the pairs of brackets that are still open,
the latest first.  A text is nested when every closing bracket matches the latest open
one and none is left open.

Main results:

- Theorem `Bracket.Leads.frame`: what is open before a text that leads from some open
  pairs to others stays open behind it.
- Theorem `Bracket.IsNested.leads`: a nested text leaves the open pairs as they are.
- Theorem `Bracket.depth_eq_of_foldlM`: the depth of a pair behind a text is the number
  of its brackets that are open.
- Theorem `Bracket.one_le_depth`: within a nested text between braces the depth of
  braces is at least one.
-/

namespace ArityLadder

/-- A pair of brackets. -/
inductive Bracket where
  | round
  | square
  | curly
deriving DecidableEq

namespace Bracket

/-! ## Reading brackets -/

/-- Every pair. -/
def all : List Bracket := [round, square, curly]

/-- The character that opens a pair. -/
def opening : Bracket → Char
  | round => '('
  | square => '['
  | curly => '\x7b'

/-- The character that closes a pair. -/
def closing : Bracket → Char
  | round => ')'
  | square => ']'
  | curly => '\x7d'

/-- The pair that a character opens. -/
def opened? (c : Char) : Option Bracket := all.find? (·.opening = c)

/-- The pair that a character closes. -/
def closed? (c : Char) : Option Bracket := all.find? (·.closing = c)

/-- The pairs that are open behind a character, the latest first, where a closing bracket must
match the latest. -/
def step (pending : List Bracket) (c : Char) : Option (List Bracket) :=
  match opened? c, closed? c with
  | some pair, _ => some (pair :: pending)
  | none, some pair => if pending.head? = some pair then some pending.tail else none
  | none, none => some pending

/-- Whether a text leads from some open pairs to others. -/
def Leads (text : String) (before after : List Bracket) : Prop :=
  text.toList.foldlM step before = some after

instance (text : String) (before after : List Bracket) : Decidable (Leads text before after) :=
  inferInstanceAs (Decidable (_ = _))

/-- Whether each closing bracket of a text matches the latest open one and none is left open. -/
def IsNested (text : String) : Prop := Leads text [] []

instance (text : String) : Decidable (IsNested text) :=
  inferInstanceAs (Decidable (Leads text [] []))

/-! ## Steps -/

/-- A character opens a pair exactly when it is the opening bracket of the pair. -/
theorem opened?_eq_some_iff {c : Char} {pair : Bracket} :
    opened? c = some pair ↔ c = pair.opening := by
  constructor
  · intro hopened
    have hfound := List.find?_some hopened
    exact (decide_eq_true_eq.mp hfound).symm
  · rintro rfl
    cases pair <;> decide

/-- A character closes a pair exactly when it is the closing bracket of the pair. -/
theorem closed?_eq_some_iff {c : Char} {pair : Bracket} :
    closed? c = some pair ↔ c = pair.closing := by
  constructor
  · intro hclosed
    have hfound := List.find?_some hclosed
    exact (decide_eq_true_eq.mp hfound).symm
  · rintro rfl
    cases pair <;> decide

/-- No bracket both opens and closes. -/
theorem opening_ne_closing (a b : Bracket) : a.opening ≠ b.closing := by
  cases a <;> cases b <;> decide

/-- Different pairs open with different brackets. -/
theorem opening_inj {a b : Bracket} : a.opening = b.opening ↔ a = b := by
  cases a <;> cases b <;> decide

/-- Different pairs close with different brackets. -/
theorem closing_inj {a b : Bracket} : a.closing = b.closing ↔ a = b := by
  cases a <;> cases b <;> decide

/-- A character opens a pair, or closes the latest one, or is no bracket. -/
theorem step_cases {before after : List Bracket} {c : Char} (hstep : step before c = some after) :
    (∃ pair : Bracket, c = pair.opening ∧ after = pair :: before) ∨
    (∃ pair : Bracket, c = pair.closing ∧ before = pair :: after) ∨
    ((∀ pair : Bracket, c ≠ pair.opening ∧ c ≠ pair.closing) ∧ after = before) := by
  unfold step at hstep
  cases hopened : opened? c with
  | some pair =>
    rw [hopened] at hstep
    exact .inl ⟨pair, opened?_eq_some_iff.mp hopened, (Option.some.inj hstep).symm⟩
  | none =>
    cases hclosed : closed? c with
    | some pair =>
      rw [hopened, hclosed] at hstep
      dsimp only at hstep
      split at hstep
      · next hhead =>
        rcases before with _ | ⟨latest, rest⟩
        · cases hhead
        · obtain rfl : latest = pair := Option.some.inj hhead
          obtain rfl : rest = after := Option.some.inj hstep
          exact .inr (.inl ⟨latest, closed?_eq_some_iff.mp hclosed, rfl⟩)
      · cases hstep
    | none =>
      rw [hopened, hclosed] at hstep
      refine .inr (.inr ⟨?_, (Option.some.inj hstep).symm⟩)
      intro pair
      constructor
      · intro hc
        rw [opened?_eq_some_iff.mpr hc] at hopened
        cases hopened
      · intro hc
        rw [closed?_eq_some_iff.mpr hc] at hclosed
        cases hclosed

/-- An opening bracket opens its pair. -/
theorem step_opening (pair : Bracket) (before : List Bracket) :
    step before pair.opening = some (pair :: before) := by
  rw [step, opened?_eq_some_iff.mpr rfl]

/-- A closing bracket closes its pair where that is the latest. -/
theorem step_closing (pair : Bracket) (after : List Bracket) :
    step (pair :: after) pair.closing = some after := by
  have hopened : opened? pair.closing = none := by
    cases pair <;> decide
  rw [step, hopened, closed?_eq_some_iff.mpr rfl]
  simp

/-- Another character leaves the open pairs as they are. -/
theorem step_plain {c : Char} (hc : ∀ pair : Bracket, c ≠ pair.opening ∧ c ≠ pair.closing)
    (before : List Bracket) : step before c = some before := by
  have hopened : opened? c = none :=
    Option.eq_none_iff_forall_ne_some.mpr fun pair h => (hc pair).1 (opened?_eq_some_iff.mp h)
  have hclosed : closed? c = none :=
    Option.eq_none_iff_forall_ne_some.mpr fun pair h => (hc pair).2 (closed?_eq_some_iff.mp h)
  rw [step, hopened, hclosed]

/-- What is open before a character that can be read stays open. -/
theorem step_append {before after : List Bracket} {c : Char} (hstep : step before c = some after)
    (outer : List Bracket) : step (before ++ outer) c = some (after ++ outer) := by
  rcases step_cases hstep with ⟨pair, rfl, rfl⟩ | ⟨pair, rfl, rfl⟩ | ⟨hc, rfl⟩
  · exact step_opening pair _
  · exact step_closing pair _
  · exact step_plain hc _

/-! ## Texts -/

/-- What is open before a run of characters that can be read stays open. -/
theorem foldlM_append {before after : List Bracket} {cs : List Char}
    (hread : cs.foldlM step before = some after) (outer : List Bracket) :
    cs.foldlM step (before ++ outer) = some (after ++ outer) := by
  induction cs generalizing before with
  | nil =>
    obtain rfl : before = after := Option.some.inj hread
    rfl
  | cons c cs ih =>
    rw [List.foldlM_cons] at hread ⊢
    obtain ⟨next, hstep, hrest⟩ := Option.bind_eq_some_iff.mp hread
    apply Option.bind_eq_some_iff.mpr
    exact ⟨next ++ outer, step_append hstep outer, ih hrest⟩

namespace Leads

variable {a b : String} {before middle after : List Bracket}

/-- What is open before a text that leads from some open pairs to others stays open behind it. -/
theorem frame (hlead : Leads a before after) (outer : List Bracket) :
    Leads a (before ++ outer) (after ++ outer) :=
  foldlM_append hlead outer

/-- A joined text leads where its parts lead in turn. -/
theorem append (ha : Leads a before middle) (hb : Leads b middle after) :
    Leads (a ++ b) before after := by
  unfold Leads at ha hb ⊢
  rw [String.toList_append, List.foldlM_append, ha]
  exact hb

/-- Texts lead where the first and then the others lead. -/
theorem join_cons {text : String} {texts : List String} (htext : Leads text before middle)
    (htexts : Leads (String.join texts) middle after) :
    Leads (String.join (text :: texts)) before after := by
  rw [String.join_cons]
  exact htext.append htexts

end Leads

/-- A text without brackets leaves the open pairs as they are. -/
theorem leads_of_plain {text : String}
    (hplain : ∀ c ∈ text.toList, ∀ pair : Bracket, c ≠ pair.opening ∧ c ≠ pair.closing)
    (pending : List Bracket) : Leads text pending pending := by
  unfold Leads
  generalize text.toList = cs at hplain
  induction cs with
  | nil => rfl
  | cons c cs ih =>
    have hc := hplain c List.mem_cons_self
    rw [List.foldlM_cons, step_plain hc]
    exact ih fun d hd => hplain d (List.mem_cons_of_mem c hd)

/-- A decimal text has no brackets. -/
theorem leads_repr (n : Nat) (pending : List Bracket) : Leads n.repr pending pending := by
  apply leads_of_plain
  intro c hc pair
  rw [Nat.toList_repr] at hc
  have hdigit := Decimal.isDigit_of_mem_toDigits hc
  constructor
  · rintro rfl
    cases pair <;> simp [opening] at hdigit
  · rintro rfl
    cases pair <;> simp [closing] at hdigit

namespace IsNested

variable {a b : String}

/-- A nested text leaves the open pairs as they are. -/
theorem leads (ha : IsNested a) (pending : List Bracket) : Leads a pending pending :=
  Leads.frame ha pending

/-- Nested texts are joined to a nested text. -/
theorem append (ha : IsNested a) (hb : IsNested b) : IsNested (a ++ b) :=
  Leads.append ha hb

/-- Nested texts make up a nested text. -/
theorem join {texts : List String} (htexts : ∀ text ∈ texts, IsNested text) :
    IsNested (String.join texts) := by
  induction texts with
  | nil => exact (by decide : IsNested "")
  | cons text texts ih =>
    have htext := htexts text List.mem_cons_self
    have hrest := ih fun t ht => htexts t (List.mem_cons_of_mem text ht)
    exact Leads.join_cons htext hrest

/-- Nested texts are joined to a nested text behind a separator that is nested. -/
theorem intercalate {separator : String} {texts : List String} (hseparator : IsNested separator)
    (htexts : ∀ text ∈ texts, IsNested text) : IsNested (separator.intercalate texts) := by
  cases texts with
  | nil => exact (by decide : IsNested "")
  | cons text texts =>
    have htext := htexts text List.mem_cons_self
    rw [Text.intercalate_cons_eq_join]
    apply htext.append (join _)
    intro piece hpiece
    obtain ⟨next, hnext, rfl⟩ := List.mem_map.mp hpiece
    exact hseparator.append (htexts next (List.mem_cons_of_mem text hnext))

end IsNested

/-! ## Depths -/

/-- How many brackets of a pair are opened more often than closed. -/
def depth (pair : Bracket) (text : List Char) : Int :=
  text.count pair.opening - text.count pair.closing

/-- The depths of two runs of characters add up. -/
theorem depth_append (pair : Bracket) (front back : List Char) :
    pair.depth (front ++ back) = pair.depth front + pair.depth back := by
  simp only [depth, List.count_append]
  omega

/-- A character changes the depth of a pair by as much as the number of its open brackets. -/
theorem depth_of_step {before after : List Bracket} {c : Char} (pair : Bracket)
    (hstep : step before c = some after) :
    (after.count pair : Int) = before.count pair + pair.depth [c] := by
  unfold depth
  rcases step_cases hstep with ⟨other, rfl, rfl⟩ | ⟨other, rfl, rfl⟩ | ⟨hc, rfl⟩
  · have hne := opening_ne_closing other pair
    simp only [List.count_cons, List.count_nil, beq_iff_eq, opening_inj, hne, if_false]
    split <;> omega
  · have hne := (opening_ne_closing pair other).symm
    simp only [List.count_cons, List.count_nil, beq_iff_eq, closing_inj, hne, if_false]
    split <;> omega
  · simp [hc pair]

/-- The depth of a pair behind a text is the number of its brackets that are open. -/
theorem depth_eq_of_foldlM {before after : List Bracket} {cs : List Char} (pair : Bracket)
    (hread : cs.foldlM step before = some after) :
    (after.count pair : Int) = before.count pair + pair.depth cs := by
  induction cs generalizing before with
  | nil =>
    obtain rfl : before = after := Option.some.inj hread
    simp [depth]
  | cons c cs ih =>
    rw [List.foldlM_cons] at hread
    obtain ⟨next, hstep, hrest⟩ := Option.bind_eq_some_iff.mp hread
    have hfirst := depth_of_step pair hstep
    have hcs := ih hrest
    have hsum := pair.depth_append [c] cs
    rw [List.singleton_append] at hsum
    omega

/-- At no place of a nested text is a pair closed more often than opened. -/
theorem IsNested.depth_nonneg {text : String} (htext : IsNested text) (pair : Bracket)
    {front back : List Char} (hsplit : text.toList = front ++ back) : 0 ≤ pair.depth front := by
  unfold IsNested Leads at htext
  rw [hsplit, List.foldlM_append] at htext
  obtain ⟨middle, hfront, -⟩ := Option.bind_eq_some_iff.mp htext
  have hcount := depth_eq_of_foldlM pair hfront
  rw [List.count_nil] at hcount
  omega

/-- In the whole of a nested text a pair is closed as often as opened. -/
theorem IsNested.depth_eq_zero {text : String} (htext : IsNested text) (pair : Bracket) :
    pair.depth text.toList = 0 := by
  have hcount := depth_eq_of_foldlM pair htext
  rw [List.count_nil] at hcount
  omega

/-- Within a nested text between braces the depth of braces is at least one: everywhere behind the
first opening brace, and before the last closing one. -/
theorem one_le_depth {head inner : String} (hhead : IsNested head)
    (hfree : '\x7b' ∉ head.toList) (hinner : IsNested inner) {front back : List Char}
    (hsplit : (head ++ "\x7b" ++ inner ++ "\x7d").toList = front ++ back)
    (hfront : '\x7b' ∈ front) (hback : back ≠ []) : 1 ≤ curly.depth front := by
  have hchars : head.toList ++ '\x7b' :: (inner.toList ++ ['\x7d']) = front ++ back := by
    rw [← hsplit]
    simp
  -- The opening brace is behind the head, so the head is a part of the front.
  rcases List.append_eq_append_iff.mp hchars with ⟨more, rfl, hmore⟩ | ⟨more, hmore, -⟩
  · rcases more with _ | ⟨c, read⟩
    · rw [List.append_nil] at hfront
      exact absurd hfront hfree
    · obtain ⟨rfl, hrest : inner.toList ++ ['\x7d'] = read ++ back⟩ := List.cons.inj hmore
      have hread : inner.toList = read ++ back.dropLast := by
        rw [← List.dropLast_append_of_ne_nil hback, ← hrest, List.dropLast_concat]
      have hdepth := hinner.depth_nonneg curly hread
      have hzero := hhead.depth_eq_zero curly
      have hbrace : curly.depth ['\x7b'] = 1 := by decide
      rw [← List.singleton_append, depth_append, depth_append]
      omega
  · rw [hmore] at hfree
    exact absurd (List.mem_append_left more hfront) hfree

end Bracket

end ArityLadder
