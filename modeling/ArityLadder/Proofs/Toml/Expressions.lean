import ArityLadder.Proofs.Numerals
import ArityLadder.Toml.Expression
import Mathlib.Data.List.TakeWhile

/-!
# Reading written expressions

What a reader of expressions makes of the plain forms in which settings are
written: names between double quotes, decimal numbers, truth values, and lists of
names.

Main results:

- Theorem `Toml.string?_of_bare`: a quoted name is cut off and decoded.
- Theorem `Toml.word?_toDigits`: the decimal text of a number is read as the number.
- Theorems `Toml.writes_toDigits`, `Toml.writes_bool`, `Toml.writes_quote` and
  `Toml.writes_quotes`: each plain form is read as its value up to the end of its line.
-/

namespace ArityLadder

namespace Toml

/-! ## Bare characters -/

/-- A bare character differs from every character that is not bare. -/
theorem ne_of_isBare {c d : Char} (hc : isBare c = true) (hd : isBare d = false) : c ≠ d := by
  rintro rfl
  rw [hc] at hd
  exact Bool.noConfusion hd

/-- The positions of bare characters lie between those of the dash and of the last letter. -/
theorem toNat_of_isBare {c : Char} (hc : isBare c = true) : 45 ≤ c.toNat ∧ c.toNat ≤ 122 := by
  delta isBare Char.isAlphanum Char.isAlpha Char.isUpper Char.isLower Char.isDigit at hc
  simp only [Bool.or_eq_true, Bool.and_eq_true, decide_eq_true_eq, beq_iff_eq, ge_iff_le,
    UInt32.le_iff_toNat_le] at hc
  rcases hc with (((⟨hlow, hhigh⟩ | ⟨hlow, hhigh⟩) | ⟨hlow, hhigh⟩) | rfl) | rfl
  · simp at hlow hhigh
    omega
  · simp at hlow hhigh
    omega
  · simp at hlow hhigh
    omega
  · decide
  · decide

/-- A bare character may stand in a text. -/
theorem isPlain_of_isBare {c : Char} (hc : isBare c = true) : isPlain c = true := by
  have hrange := toNat_of_isBare hc
  simp only [isPlain, Bool.or_eq_true, beq_iff_eq, Bool.and_eq_true, decide_eq_true_eq]
  right
  constructor <;> omega

/-- A bare character is no blank. -/
theorem isBlank_of_isBare {c : Char} (hc : isBare c = true) : isBlank c = false := by
  have hspace : c ≠ ' ' := ne_of_isBare hc (by decide)
  have htab : c ≠ '\t' := ne_of_isBare hc (by decide)
  simp [isBlank, hspace, htab]

/-- A bare character is part of a word. -/
theorem isWordChar_of_isBare {c : Char} (hc : isBare c = true) : isWordChar c = true := by
  have hne (d : Char) (hd : isBare d = false) : c ≠ d := ne_of_isBare hc hd
  simp [isWordChar, isBlank_of_isBare hc, hne '\n' (by decide), hne '\r' (by decide),
    hne '#' (by decide), hne ',' (by decide), hne '=' (by decide), hne '[' (by decide),
    hne ']' (by decide), hne '\x7b' (by decide), hne '\x7d' (by decide)]

/-- A digit is a bare character. -/
theorem isBare_of_isDigit {c : Char} (hc : c.isDigit = true) : isBare c = true := by
  simp [isBare, Char.isAlphanum, hc]

/-! ## Quoted names -/

/-- A name in double quotes ends at the quote behind it. -/
theorem cutOff_of_bare {name : List Char} (hname : ∀ c ∈ name, isBare c = true)
    (rest : List Char) :
    cutOff (closeSingle? '"') true false (name ++ '"' :: rest) = some (name, rest) := by
  induction name with
  | nil => simp [cutOff, closeSingle?]
  | cons c name ih =>
    have hc := hname c List.mem_cons_self
    have hquote : c ≠ '"' := ne_of_isBare hc (by decide)
    have hslash : (c == '\\') = false := by simpa using ne_of_isBare hc (by decide)
    have htail := ih fun d hd => hname d (List.mem_cons_of_mem c hd)
    simp [cutOff, closeSingle?, hquote, hslash, htail]

/-- A name consists of characters that may stand in a string. -/
theorem isContent_of_bare {name : List Char} (hname : ∀ c ∈ name, isBare c = true) :
    isContent false name = true := by
  induction name with
  | nil => rfl
  | cons c name ih =>
    have hc := hname c List.mem_cons_self
    have hfeed : c ≠ '\n' := ne_of_isBare hc (by decide)
    have hreturn : c ≠ '\r' := ne_of_isBare hc (by decide)
    have htail := ih fun d hd => hname d (List.mem_cons_of_mem c hd)
    simp [isContent, hreturn, isPlain_of_isBare hc, htail]

/-- A name has no escapes. -/
theorem unescape_of_bare {name : List Char} (hname : ∀ c ∈ name, isBare c = true) :
    unescape false .outside name = some name := by
  induction name with
  | nil => rfl
  | cons c name ih =>
    have hslash : c ≠ '\\' := ne_of_isBare (hname c List.mem_cons_self) (by decide)
    have htail := ih fun d hd => hname d (List.mem_cons_of_mem c hd)
    simp [unescape, hslash, htail]

/-- A name in double quotes is read as the name. -/
theorem string?_of_bare {name : List Char} (hne : name ≠ [])
    (hname : ∀ c ∈ name, isBare c = true) (rest : List Char) :
    string? ('"' :: (name ++ '"' :: rest)) = some (String.ofList name, rest) := by
  have hcut := cutOff_of_bare hname rest
  have hdecode : decode? false true name = some (String.ofList name) := by
    simp [decode?, isContent_of_bare hname, unescape_of_bare hname]
  cases name with
  | nil => exact absurd rfl hne
  | cons c name =>
    have hquote : c ≠ '"' := ne_of_isBare (hname c List.mem_cons_self) (by decide)
    rw [List.cons_append] at hcut ⊢
    simp [string?, hquote, singleLine?, hcut, hdecode]

/-! ## Numbers -/

/-- What stands behind two digits is a part of the text. -/
theorem mem_of_mem_twoDigits? {text rest : List Char} {n : Nat}
    (h : twoDigits? text = some (n, rest)) {c : Char} (hc : c ∈ rest) : c ∈ text := by
  unfold twoDigits? at h
  split at h
  · split at h
    · simp only [Option.some.injEq, Prod.mk.injEq] at h
      obtain ⟨-, rfl⟩ := h
      exact List.mem_cons_of_mem _ (List.mem_cons_of_mem _ hc)
    · cases h
  · cases h

/-- A run of digits is no time of day, because it has no colon. -/
theorem time?_of_isDigit {text : List Char} (htext : ∀ c ∈ text, c.isDigit = true) :
    time? text = none := by
  unfold time?
  cases hhour : twoDigits? text with
  | none => rfl
  | some found =>
    obtain ⟨hour, rest⟩ := found
    cases rest with
    | nil => rfl
    | cons c rest =>
      have hc := htext c (mem_of_mem_twoDigits? hhour List.mem_cons_self)
      have hcolon : c ≠ ':' := by rintro rfl; simp at hc
      simp [hcolon]

/-- A run of digits is no date, because it has no dash. -/
theorem date?_of_isDigit {text : List Char} (htext : ∀ c ∈ text, c.isDigit = true) :
    date? text = none := by
  unfold date?
  cases hcentury : twoDigits? text with
  | none => rfl
  | some found =>
    obtain ⟨century, middle⟩ := found
    cases hdecade : twoDigits? middle with
    | none => simp [hdecade]
    | some found =>
      obtain ⟨decade, rest⟩ := found
      cases rest with
      | nil => simp [hdecade]
      | cons c rest =>
        have hmiddle := mem_of_mem_twoDigits? hdecade List.mem_cons_self
        have hc := htext c (mem_of_mem_twoDigits? hcentury hmiddle)
        have hdash : c ≠ '-' := by rintro rfl; simp at hc
        simp [hdecade, hdash]

/-- A run of digits is neither a date nor a time of day. -/
theorem isMoment_of_isDigit {text : List Char} (htext : ∀ c ∈ text, c.isDigit = true) :
    isMoment text = false := by
  simp [isMoment, time?_of_isDigit htext, date?_of_isDigit htext]

/-- A run of digits names no base. -/
theorem basedInteger?_of_isDigit {text : List Char} (htext : ∀ c ∈ text, c.isDigit = true) :
    basedInteger? text = none := by
  have hbase {c : Char} {rest : List Char} (hc : c.isDigit = false) :
      text ≠ '0' :: c :: rest := by
    rintro rfl
    have hdigit := htext c (by simp)
    rw [hc] at hdigit
    exact Bool.noConfusion hdigit
  unfold basedInteger?
  split
  · exact absurd rfl (hbase (by decide))
  · exact absurd rfl (hbase (by decide))
  · exact absurd rfl (hbase (by decide))
  · rfl

/-- The decimal text of a number has no leading zero. -/
theorem isTrimmed_toDigits (n : Nat) : isTrimmed (Nat.toDigits 10 n) = true := by
  rcases Nat.eq_zero_or_pos n with rfl | hpos
  · decide
  · have hhead := Decimal.head?_toDigits_ne_zero hpos
    unfold isTrimmed
    split
    · next heq =>
      rw [heq] at hhead
      simp at hhead
    · rfl

/-- The decimal text of a number that fits an unsigned 128-bit word is read as the number. -/
theorem unsigned?_toDigits {n : Nat} (hn : n ≤ 340282366920938463463374607431768211455) :
    unsigned? false (Nat.toDigits 10 n) = some (.integer n) := by
  have hdigit (c : Char) (hc : c ∈ Nat.toDigits 10 n) : c.isDigit = true :=
    Decimal.isDigit_of_mem_toDigits hc
  have hrun (c : Char) (hc : c ∈ Nat.toDigits 10 n) : isRunChar c = true := by
    simp [isRunChar, hdigit c hc]
  have hplain : digitsOf (Nat.toDigits 10 n) = Nat.toDigits 10 n := by
    refine List.filter_eq_self.mpr fun c hc => ?_
    have hunderscore : c ≠ '_' := by
      rintro rfl
      exact Nat.underscore_not_in_toDigits hc
    simpa using hunderscore
  have hvalue : unsignedInteger false (Nat.toDigits 10 n) = .integer n := by
    have hall : (Nat.toDigits 10 n).all Char.isDigit = true := List.all_eq_true.mpr hdigit
    have hlow : -170141183460469231731687303715884105728 ≤ (n : Int) := by omega
    have hhigh : (n : Int) ≤ 340282366920938463463374607431768211455 := by omega
    simp [unsignedInteger, hplain, hall, Decimal.natOfDigits, Value.ofInt, hlow, hhigh]
  have hwhole : (Nat.toDigits 10 n).takeWhile Char.isDigit = Nat.toDigits 10 n :=
    List.takeWhile_eq_self_iff.mpr hdigit
  have hrest : (Nat.toDigits 10 n).dropWhile Char.isDigit = [] :=
    List.dropWhile_eq_nil_iff.mpr hdigit
  have htrimmed : isTrimmed ((Nat.toDigits 10 n).takeWhile isRunChar) = true := by
    rw [List.takeWhile_eq_self_iff.mpr hrun]
    exact isTrimmed_toDigits n
  simp [unsigned?, hwhole, hrest, htrimmed, hvalue]

/-- The decimal text of a number that fits an unsigned 128-bit word is read as the number. -/
theorem word?_toDigits {n : Nat} (hn : n ≤ 340282366920938463463374607431768211455) :
    word? (Nat.toDigits 10 n) = some (.integer n) := by
  have hdigit (c : Char) (hc : c ∈ Nat.toDigits 10 n) : c.isDigit = true :=
    Decimal.isDigit_of_mem_toDigits hc
  have hmoment := isMoment_of_isDigit hdigit
  have hbased := basedInteger?_of_isDigit hdigit
  have hread := unsigned?_toDigits hn
  obtain ⟨c, rest, hdigits, hc⟩ := Decimal.exists_toDigits_eq_cons n
  rw [hdigits] at hmoment hbased hread ⊢
  have hne (d : Char) (hd : d.isDigit = false) : c ≠ d := by
    rintro rfl
    rw [hc] at hd
    exact Bool.noConfusion hd
  have hplus : c ≠ '+' := hne '+' (by decide)
  have hminus : c ≠ '-' := hne '-' (by decide)
  simp [word?, hne 't' (by decide), hne 'f' (by decide), hmoment, number?, hplus, hminus, hbased,
    signed?, nonFinite?, hne 'i' (by decide), hne 'n' (by decide), hread]

/-! ## Values on a line -/

/-- A text writes a value when it is read as the value up to the end of its line. -/
def Writes (text : List Char) (value : Value) : Prop :=
  ∀ rest, value? (skipBlanks (text ++ '\n' :: rest)) = some (value, '\n' :: rest)

/-- A text behind a double quote is read as a string. -/
theorem valueUpTo?_string (depth : Nat) (rest : List Char) :
    valueUpTo? depth ('"' :: rest) =
      (string? ('"' :: rest)).map fun (text, rest) => (.string text, rest) := by
  cases depth <;> simp [valueUpTo?]

/-- A text behind an opening bracket is read as an array. -/
theorem valueUpTo?_array (depth : Nat) (rest : List Char) :
    valueUpTo? (depth + 1) ('[' :: rest) =
      (items? (valueUpTo? depth) ']' rest).map fun (items, rest) => (.array items, rest) := by
  simp [valueUpTo?]

/-- A text that starts with a bare character is read as a word. -/
theorem valueUpTo?_word (depth : Nat) {c : Char} (hc : isBare c = true) (rest : List Char) :
    valueUpTo? depth (c :: rest) = wordValue? (c :: rest) := by
  have hmark (d : Char) (hd : isBare d = false) : c ≠ d := ne_of_isBare hc hd
  have hdouble := hmark '"' (by decide)
  have hsingle := hmark '\'' (by decide)
  have hbracket := hmark '[' (by decide)
  have hbrace := hmark '\x7b' (by decide)
  cases depth <;> simp [valueUpTo?, hdouble, hsingle, hbracket, hbrace]

/-- A word of bare characters ends where its line ends. -/
theorem splitWords_of_bare {word : List Char} (hword : ∀ c ∈ word, isBare c = true)
    (rest : List Char) : splitWords (word ++ '\n' :: rest) = (word, '\n' :: rest) := by
  induction word with
  | nil => simp [splitWords, isWordChar, isBlank]
  | cons c word ih =>
    have hc := isWordChar_of_isBare (hword c List.mem_cons_self)
    have htail := ih fun d hd => hword d (List.mem_cons_of_mem c hd)
    simp [splitWords, hc, htail]

/-- A word of bare characters writes the value that it denotes. -/
theorem writes_word {word : List Char} {value : Value} (hne : word ≠ [])
    (hword : ∀ c ∈ word, isBare c = true) (hvalue : word? word = some value) :
    Writes word value := by
  intro rest
  have hsplit := splitWords_of_bare hword rest
  cases word with
  | nil => exact absurd rfl hne
  | cons c word =>
    have hc := hword c List.mem_cons_self
    rw [List.cons_append] at hsplit ⊢
    rw [skipBlanks_of_not_blank (isBlank_of_isBare hc), value?, valueUpTo?_word _ hc]
    simp [wordValue?, hsplit, hvalue]

/-- The decimal text of a number writes the number. -/
theorem writes_toDigits {n : Nat} (hn : n ≤ 340282366920938463463374607431768211455) :
    Writes (Nat.toDigits 10 n) (.integer n) :=
  writes_word Nat.toDigits_ne_nil
    (fun _ hc => isBare_of_isDigit (Decimal.isDigit_of_mem_toDigits hc)) (word?_toDigits hn)

/-- The name of a truth value writes the truth value. -/
theorem writes_bool (b : Bool) : Writes (toString b).toList (.boolean b) := by
  cases b with
  | false => exact writes_word (by decide) (List.all_eq_true.mp (by decide)) rfl
  | true => exact writes_word (by decide) (List.all_eq_true.mp (by decide)) rfl

/-! ## Lists of names -/

/-- A text is a name when it is a key that needs no quotes. -/
def IsName (text : String) : Prop := text.toList ≠ [] ∧ ∀ c ∈ text.toList, isBare c = true

instance (text : String) : Decidable (IsName text) :=
  decidable_of_decidable_of_iff (p := text.toList.isEmpty = false ∧ text.toList.all isBare = true)
    (by simp [IsName])

/-- A name between double quotes. -/
def quote (name : String) : List Char := '"' :: (name.toList ++ ['"'])

/-- A quoted name is read at every depth and before every text. -/
theorem valueUpTo?_quote {name : String} (hname : IsName name) (depth : Nat) (rest : List Char) :
    valueUpTo? depth (quote name ++ rest) = some (.string name, rest) := by
  have hread := string?_of_bare hname.1 hname.2 rest
  rw [String.ofList_toList] at hread
  simp [quote, valueUpTo?_string, hread]

/-- A quoted name writes the name. -/
theorem writes_quote {name : String} (hname : IsName name) :
    Writes (quote name) (.string name) := by
  intro rest
  have hread := valueUpTo?_quote hname nestingLimit ('\n' :: rest)
  have hblank : isBlank '"' = false := by decide
  rw [← hread]
  simp [value?, quote, skipBlanks_of_not_blank hblank]

/-- Quoted names with commas and blanks between them. -/
def quotes (names : List String) : List Char := [',', ' '].intercalate (names.map quote)

/-- A blank before the items of a list is skipped. -/
theorem itemsUpTo?_blank {α : Type} (item? : List Char → Option (α × List Char)) (close : Char)
    (limit : Nat) (text : List Char) :
    itemsUpTo? item? close limit (' ' :: text) = itemsUpTo? item? close limit text := by
  cases limit with
  | zero => rfl
  | succ limit => simp [itemsUpTo?, skipSpace, isBlank]

/-- A list of quoted names is read in its order, up to the bracket that closes it. -/
theorem itemsUpTo?_quotes {names : List String} (hnames : ∀ name ∈ names, IsName name)
    {depth limit : Nat} (hlimit : names.length < limit) (rest : List Char) :
    itemsUpTo? (valueUpTo? depth) ']' limit (quotes names ++ ']' :: rest) =
      some (names.map Value.string, rest) := by
  induction names generalizing limit with
  | nil =>
    obtain ⟨limit, rfl⟩ := Nat.exists_eq_add_one.mpr hlimit
    simp [itemsUpTo?, quotes, skipSpace, isBlank]
  | cons name names ih =>
    have hname := hnames name List.mem_cons_self
    have htail (other : String) (hother : other ∈ names) : IsName other :=
      hnames other (List.mem_cons_of_mem name hother)
    rw [List.length_cons] at hlimit
    obtain ⟨limit, rfl⟩ := Nat.exists_eq_add_one.mpr (Nat.zero_lt_of_lt hlimit)
    have hshorter : names.length < limit := by omega
    -- The first name is cut off whatever stands behind it; what stands there decides how to go on.
    have hstep (behind : List Char) := valueUpTo?_quote hname depth behind
    cases names with
    | nil =>
      have hread := hstep (']' :: rest)
      simp only [quote, List.cons_append, List.append_assoc, List.nil_append] at hread
      simp [itemsUpTo?, quotes, quote, skipSpace, isBlank, hread]
    | cons other names =>
      have hmore := ih htail hshorter
      have hread := hstep (',' :: ' ' :: (quotes (other :: names) ++ ']' :: rest))
      simp only [quote, List.cons_append, List.append_assoc, List.nil_append] at hread
      have hsplit : quotes (name :: other :: names) ++ ']' :: rest =
          '"' :: (name.toList ++
            '"' :: ',' :: ' ' :: (quotes (other :: names) ++ ']' :: rest)) := by
        simp [quotes, quote, List.intercalate_cons_cons]
      rw [hsplit]
      simp [itemsUpTo?, skipSpace, isBlank, hread, itemsUpTo?_blank, hmore]

/-- The bound on the number of items leaves room for every list of quoted names. -/
theorem length_le_length_quotes (names : List String) : names.length ≤ (quotes names).length := by
  induction names with
  | nil => exact Nat.zero_le _
  | cons name names ih =>
    cases names with
    | nil => simp [quotes, quote]
    | cons other names =>
      have hsplit : quotes (name :: other :: names) =
          quote name ++ [',', ' '] ++ quotes (other :: names) := by
        simp [quotes, List.intercalate_cons_cons]
      rw [hsplit]
      simp only [List.length_cons, List.length_append] at ih ⊢
      omega

/-- A list of quoted names between brackets writes the list. -/
theorem writes_quotes {names : List String} (hnames : ∀ name ∈ names, IsName name) :
    Writes ('[' :: (quotes names ++ [']'])) (.array (names.map Value.string)) := by
  intro rest
  have hroom := length_le_length_quotes names
  have hlimit : names.length < (quotes names ++ ']' :: '\n' :: rest).length + 1 := by
    rw [List.length_append]
    omega
  have hread : itemsUpTo? (valueUpTo? 79) ']' _ _ = _ :=
    itemsUpTo?_quotes hnames hlimit ('\n' :: rest)
  have hblank : isBlank '[' = false := by decide
  rw [List.cons_append, List.append_assoc, List.cons_append, List.nil_append,
    skipBlanks_of_not_blank hblank, value?, nestingLimit, valueUpTo?_array, items?, hread]
  rfl

end Toml

end ArityLadder
