import ArityLadder.CommandLine.Reader
import ArityLadder.CommandLine.Token
import ArityLadder.Proofs.Numerals
import Mathlib.Data.List.TakeWhile

/-!
# Reading tokens

What the reader of a command line makes of tokens.  A field count stays open until
the next argument is known, so what was read is compared with the state in which no
value is open; on these states a token changes one field and nothing else.

Main results:

- Theorem `Reading.next_text`: one token, which does not repeat an argument, changes
  the field that belongs to it.
- Theorem `Reading.foldlM_next_text`: tokens in turn change their fields in turn.
-/

namespace ArityLadder

namespace Token

/-- The argument that a token gives. -/
def argument : Token → Argument
  | fieldCount _ => .fieldCount
  | start _ => .start
  | only _ => .only
  | indent _ => .indent
  | indentWidth _ => .indentWidth
  | noColor => .noColor
  | config _ => .config
  | verbose _ => .verbose

/-- The value of a token as it is written. -/
def value : Token → String
  | fieldCount value => toString value.toInt
  | start value => toString value.toInt
  | only kinds => ",".intercalate (kinds.map Section.name)
  | indent style => style.name
  | indentWidth value => toString value.toNat
  | config path => path
  | noColor | verbose _ => ""

/-- Whether the value of a token can be told from no value at all. -/
def HasValue : Token → Prop
  | only kinds => kinds ≠ []
  | config path => path ≠ ""
  | _ => True

end Token

namespace Reading

/-! ## States without an open value -/

/-- A reading and what it is once its open value has been converted. -/
structure Settles (reading settled : Reading) : Prop where
  settle_eq : reading.settle = .ok settled
  pending_eq : settled.pending = none
  counted_eq : reading.counted = settled.counted
  options_open : reading.optionsEnded = false
  settled_open : settled.optionsEnded = false

/-- Where no value is open, a reading is settled. -/
theorem settles_self {reading : Reading} (hpending : reading.pending = none)
    (hopen : reading.optionsEnded = false) : Settles reading reading where
  settle_eq := settle_of_pending_none hpending
  pending_eq := hpending
  counted_eq := rfl
  options_open := hopen
  settled_open := hopen

/-- What settles waits for no value. -/
theorem Settles.not_awaiting {reading settled : Reading} (h : Settles reading settled)
    (argument : Argument) : reading.pending ≠ some (.awaiting argument) := by
  intro hpending
  have hsettle := h.settle_eq
  simp [settle, hpending] at hsettle

/-- The reading with the value of a token. -/
def put (reading : Reading) : Token → Reading
  | .fieldCount value => { reading with fieldCount := some value, counted := true }
  | .start value => { reading with start := some value }
  | .only kinds => { reading with only := reading.only ++ kinds }
  | .indent style => { reading with indent := some style }
  | .indentWidth value => { reading with indentWidth := some value }
  | .noColor => { reading with noColor := true }
  | .config path => { reading with config := some path }
  | .verbose _ => { reading with verbose := true }

/-- Whether an argument that may be given only once has been given. -/
def has (reading : Reading) : Argument → Bool
  | .fieldCount => reading.counted
  | .start => reading.start.isSome
  | .indent => reading.indent.isSome
  | .indentWidth => reading.indentWidth.isSome
  | .noColor => reading.noColor
  | .config => reading.config.isSome
  | .verbose => reading.verbose
  | .only | .help => false

/-- A token leaves no value open that was not. -/
@[simp]
theorem pending_put (reading : Reading) (token : Token) :
    (reading.put token).pending = reading.pending := by
  cases token <;> rfl

/-- A token does not end the options. -/
@[simp]
theorem optionsEnded_put (reading : Reading) (token : Token) :
    (reading.put token).optionsEnded = reading.optionsEnded := by
  cases token <;> rfl

/-- A token gives its own argument only. -/
theorem has_put_of_ne {token : Token} {argument : Argument} (hne : token.argument ≠ argument)
    (reading : Reading) : (reading.put token).has argument = reading.has argument := by
  cases token <;> cases argument <;> first | rfl | exact absurd rfl hne

/-! ## Converting the value of a token -/

/-- The items of names with commas between them are the names. -/
theorem items_intercalate {names : List String} (hne : names ≠ [])
    (hcomma : ∀ name ∈ names, ',' ∉ name.toList) : items (",".intercalate names) = names := by
  have hparts : ∀ part ∈ names.map String.toList, ',' ∉ part := by
    intro part hpart
    obtain ⟨name, hname, rfl⟩ := List.mem_map.mp hpart
    exact hcomma name hname
  have hsplit := List.splitOn_intercalate ',' hparts (by simpa using hne)
  rw [items, String.toList_intercalate]
  change (([','].intercalate (names.map String.toList)).splitOn ',').map String.ofList = names
  rw [hsplit, List.map_map]
  simp [Function.comp_def]

/-- No name of a section has a comma. -/
theorem comma_notMem_name (kind : Section) : ',' ∉ kind.name.toList := by
  cases kind <;> decide

/-- The choice of a section by its name. -/
theorem choice_section (kind : Section) :
    choice .only kind.name Section.ofName? = .ok kind := by
  cases kind <;> rfl

/-- The choice of a style by its name. -/
theorem choice_indentStyle (style : IndentStyle) :
    choice .indent style.name IndentStyle.ofName? = .ok style := by
  cases style <;> rfl

/-- The choices of sections by their names, in their order. -/
theorem mapM_choice_sections (kinds : List Section) :
    (kinds.map Section.name).mapM (fun item => choice .only item Section.ofName?) =
      .ok kinds := by
  induction kinds with
  | nil => rfl
  | cons kind kinds ih =>
    rw [List.map_cons, List.mapM_cons, choice_section, ih]
    rfl

/-- The written value of an option is converted to the value of the option. -/
theorem assign_value {reading : Reading} {token : Token} (hoption : token.argument ≠ .fieldCount)
    (hnew : reading.has token.argument = false) (hvalue : token.HasValue) :
    reading.assign token.value token.argument = .ok (reading.put token) := by
  cases token with
  | fieldCount value => exact absurd rfl hoption
  | start value =>
    have honce : reading.start.isSome = false := hnew
    simp only [assign, Token.argument, Token.value, number, Decimal.readInt64_repr, once, honce]
    rfl
  | only kinds =>
    have hkinds : kinds ≠ [] := hvalue
    have hnames : kinds.map Section.name ≠ [] := by simpa using hkinds
    have hcomma : ∀ name ∈ kinds.map Section.name, ',' ∉ name.toList := by
      intro name hname
      obtain ⟨kind, -, rfl⟩ := List.mem_map.mp hname
      exact comma_notMem_name kind
    simp only [assign, Token.argument, Token.value, items_intercalate hnames hcomma,
      mapM_choice_sections]
    rfl
  | indent style =>
    have honce : reading.indent.isSome = false := hnew
    simp only [assign, Token.argument, Token.value, once, honce, choice_indentStyle]
    rfl
  | indentWidth value =>
    have honce : reading.indentWidth.isSome = false := hnew
    simp only [assign, Token.argument, Token.value, number, Decimal.readUInt64_repr, once, honce]
    rfl
  | noColor =>
    have honce : reading.noColor = false := hnew
    simp only [assign, Token.argument, once, honce]
    rfl
  | config path =>
    have honce : reading.config.isSome = false := hnew
    have hpath : path ≠ "" := hvalue
    simp only [assign, Token.argument, Token.value, once, honce, choice, hpath]
    rfl
  | verbose short =>
    have honce : reading.verbose = false := hnew
    simp only [assign, Token.argument, once, honce]
    rfl

/-! ## Reading one token -/

/-- An option with a value behind an equals sign is converted at once. -/
theorem next_long {reading : Reading} (hopen : reading.optionsEnded = false) {argument : Argument}
    (hoption : argument ≠ .fieldCount) (htakes : argument.takesValue = true)
    {text value : String}
    (htext : text.toList = '-' :: '-' :: (argument.long.toList ++ '=' :: value.toList)) :
    reading.next text = reading.settle >>= fun settled => settled.assign value argument := by
  have hname : ∀ c ∈ argument.long.toList, decide (c ≠ '=') = true :=
    List.all_eq_true.mp (by cases argument <;> decide)
  have htake : (argument.long.toList ++ '=' :: value.toList).takeWhile (· ≠ '=') =
      argument.long.toList := by
    rw [List.takeWhile_append_of_pos hname]
    simp
  have hdrop : (argument.long.toList ++ '=' :: value.toList).dropWhile (· ≠ '=') =
      '=' :: value.toList := by
    rw [List.dropWhile_append_of_pos hname]
    simp
  have hlong : reading.longOption (argument.long.toList ++ '=' :: value.toList) =
      reading.settle >>= fun settled => settled.assign value argument := by
    simp only [longOption, htake, hdrop, String.ofList_toList,
      Argument.ofLong?_long argument hoption, htakes]
    rfl
  rw [← hlong, next, hopen, htext]
  cases argument.long.toList <;> rfl

/-- A flag by its long spelling takes effect at once. -/
theorem next_flag {reading : Reading} (hopen : reading.optionsEnded = false) {argument : Argument}
    (hoption : argument ≠ .fieldCount) (htakes : argument.takesValue = false) {text : String}
    (htext : text.toList = '-' :: '-' :: argument.long.toList) :
    reading.next text = reading.settle >>= fun settled => settled.assign "" argument := by
  have hname : ∀ c ∈ argument.long.toList, decide (c ≠ '=') = true :=
    List.all_eq_true.mp (by cases argument <;> decide)
  have hlong : reading.longOption argument.long.toList =
      reading.settle >>= fun settled => settled.assign "" argument := by
    simp only [longOption, List.takeWhile_eq_self_iff.mpr hname,
      List.dropWhile_eq_nil_iff.mpr hname, String.ofList_toList,
      Argument.ofLong?_long argument hoption, htakes]
    rfl
  have hne : argument.long.toList ≠ [] := by cases argument <;> decide
  rw [← hlong, next, hopen, htext]
  cases hchars : argument.long.toList with
  | nil => exact absurd hchars hne
  | cons c chars => rfl

/-- The short flag for more output takes effect at once. -/
theorem next_short {reading : Reading} (hopen : reading.optionsEnded = false) :
    reading.next "-v" = reading.settle >>= fun settled => settled.assign "" .verbose := by
  have htext : "-v".toList = ['-', 'v'] := rfl
  have hletters : reading.next "-v" = ['v'].foldlM letter reading := by
    rw [next, hopen, htext]
    simp [looksNumeric]
  rw [hletters]
  simp [letter, Argument.ofShort?, flag]

/-- A text that looks like a number is kept open as the field count. -/
theorem value_settles {reading settled : Reading} (h : Settles reading settled)
    (hcounted : settled.counted = false) (value : Int64) :
    ∃ reading', reading.value (toString value.toInt) = .ok reading' ∧
      Settles reading' (settled.put (.fieldCount value)) := by
  have hreading : reading.counted = false := h.counted_eq.trans hcounted
  refine ⟨{ settled with
    pending := some (.given .fieldCount (toString value.toInt)), counted := true }, ?_, ?_⟩
  · unfold Reading.value
    split
    · next argument _ hawaiting => exact absurd hawaiting (h.not_awaiting argument)
    · rw [hreading, h.settle_eq]
      rfl
  · refine ⟨?_, h.pending_eq, rfl, h.settled_open, h.settled_open⟩
    have hpending := h.pending_eq
    simp only [settle, assign, number, Decimal.readInt64_repr]
    cases settled
    simp_all [put, bind, Except.bind, pure, Except.pure, Except.mapError]

/-- Digits continue a number. -/
theorem continuesNumber_of_isDigit {digits : List Char} (hdigits : ∀ c ∈ digits, c.isDigit = true)
    (point exponent : Bool) : continuesNumber point exponent digits = true := by
  induction digits with
  | nil => rfl
  | cons c digits ih =>
    have hc := hdigits c List.mem_cons_self
    have htail := ih fun d hd => hdigits d (List.mem_cons_of_mem c hd)
    simp [continuesNumber, hc, htail]

/-- The decimal text of a number looks like one. -/
theorem looksNumeric_toDigits (n : Nat) : looksNumeric (Nat.toDigits 10 n) = true := by
  have hdigit (c : Char) (hc : c ∈ Nat.toDigits 10 n) : c.isDigit = true :=
    Decimal.isDigit_of_mem_toDigits hc
  obtain ⟨c, rest, hdigits, hc⟩ := Decimal.exists_toDigits_eq_cons n
  rw [hdigits] at hdigit ⊢
  have hrest := continuesNumber_of_isDigit
    (fun d hd => hdigit d (List.mem_cons_of_mem c hd)) true true
  simp [looksNumeric, hc, hrest]

/-- Before a field count is given, every integer is taken as a value. -/
theorem next_integer {reading : Reading} (hopen : reading.optionsEnded = false)
    (hcounted : reading.counted = false) (value : Int) :
    reading.next (toString value) = reading.value (toString value) := by
  rw [Int.toString_eq_repr]
  cases value with
  | ofNat n =>
    obtain ⟨c, rest, hdigits, hc⟩ := Decimal.exists_toDigits_eq_cons n
    have hdash : c ≠ '-' := by rintro rfl; simp at hc
    rw [next, hopen, Decimal.toList_repr_ofNat, hdigits]
    simp [hdash]
  | negSucc n =>
    have hnumeric := looksNumeric_toDigits (n + 1)
    obtain ⟨c, rest, hdigits, hc⟩ := Decimal.exists_toDigits_eq_cons (n + 1)
    have hdash : c ≠ '-' := by rintro rfl; simp at hc
    rw [hdigits] at hnumeric
    rw [next, hopen, Decimal.toList_repr_negSucc, hdigits]
    simp [hdash, acceptsNegative, hcounted, hnumeric]

/-- Every token but the field count is an option, whose value is converted at once. -/
theorem next_option {reading : Reading} (hopen : reading.optionsEnded = false) {token : Token}
    (hoption : token.argument ≠ .fieldCount) :
    reading.next token.text =
      reading.settle >>= fun settled => settled.assign token.value token.argument := by
  cases token with
  | fieldCount value => exact absurd rfl hoption
  | start _ | only _ | indent _ | indentWidth _ | config _ =>
    refine next_long hopen hoption rfl ?_
    simp [Token.text, Token.value, Token.argument, Argument.long]
  | noColor =>
    refine next_flag hopen hoption rfl ?_
    simp [Token.text, Token.argument, Argument.long]
  | verbose short =>
    cases short with
    | true => exact next_short hopen
    | false =>
      refine next_flag hopen hoption rfl ?_
      simp [Token.text, Token.argument, Argument.long]

/-- A token that repeats no argument changes the field that belongs to it. -/
theorem next_text {reading settled : Reading} (h : Settles reading settled) {token : Token}
    (hnew : settled.has token.argument = false) (hvalue : token.HasValue) :
    ∃ reading', reading.next token.text = .ok reading' ∧ Settles reading' (settled.put token) := by
  by_cases hoption : token.argument = .fieldCount
  · obtain ⟨value, rfl⟩ : ∃ value, token = .fieldCount value := by
      cases token <;> first | exact ⟨_, rfl⟩ | cases hoption
    have hcounted : settled.counted = false := hnew
    obtain ⟨reading', hread, hsettles⟩ := value_settles h hcounted value
    refine ⟨reading', ?_, hsettles⟩
    rw [Token.text, next_integer h.options_open (h.counted_eq.trans hcounted), hread]
  · refine ⟨settled.put token, ?_, ?_⟩
    · rw [next_option h.options_open hoption, h.settle_eq]
      exact assign_value hoption hnew hvalue
    · exact settles_self (by simp [h.pending_eq]) (by simp [h.settled_open])

/-! ## Reading tokens in turn -/

/-- Two tokens may stand in one command line: if they give the same argument, it is one that
may be given repeatedly. -/
def Compatible (first second : Token) : Prop :=
  first.argument = second.argument → first.argument = .only

/-- An argument that may be given repeatedly is never in the way. -/
theorem has_put_of_compatible {reading : Reading} {first second : Token}
    (hcompatible : Compatible first second) (hnew : reading.has second.argument = false) :
    (reading.put first).has second.argument = false := by
  by_cases hsame : first.argument = second.argument
  · have honly : second.argument = .only := hsame ▸ hcompatible hsame
    rw [honly]
    rfl
  · rw [has_put_of_ne hsame, hnew]

/-- Tokens that repeat no argument change the fields that belong to them, in turn. -/
theorem foldlM_next_text {tokens : List Token} {reading settled : Reading}
    (h : Settles reading settled) (hcompatible : tokens.Pairwise Compatible)
    (hnew : ∀ token ∈ tokens, settled.has token.argument = false)
    (hvalue : ∀ token ∈ tokens, token.HasValue) :
    ∃ reading', (tokens.map Token.text).foldlM next reading = .ok reading' ∧
      Settles reading' (tokens.foldl put settled) := by
  induction tokens generalizing reading settled with
  | nil => exact ⟨reading, rfl, h⟩
  | cons token tokens ih =>
    rw [List.pairwise_cons] at hcompatible
    obtain ⟨next', hread, hsettles⟩ :=
      next_text h (hnew token List.mem_cons_self) (hvalue token List.mem_cons_self)
    have hnew' : ∀ other ∈ tokens, (settled.put token).has other.argument = false := by
      intro other hother
      exact has_put_of_compatible (hcompatible.1 other hother)
        (hnew other (List.mem_cons_of_mem token hother))
    obtain ⟨reading', hrest, hsettles'⟩ := ih hsettles hcompatible.2 hnew'
      fun other hother => hvalue other (List.mem_cons_of_mem token hother)
    refine ⟨reading', ?_, hsettles'⟩
    rw [List.map_cons, List.foldlM_cons, hread]
    exact hrest

/-- A command line is what was read once a field count is there. -/
theorem finish_of_settles {reading settled : Reading} (h : Settles reading settled)
    {fieldCount : Int64} (hcount : settled.fieldCount = some fieldCount) :
    reading.finish = .ok { settled.toOptions with fieldCount } := by
  rw [finish, h.settle_eq]
  simp only [bind, Except.bind, hcount]
  rfl

end Reading

end ArityLadder
