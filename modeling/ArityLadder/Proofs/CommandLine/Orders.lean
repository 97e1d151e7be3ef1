import ArityLadder.Proofs.CommandLine.Reading
import Mathlib.Data.List.Pairwise

/-!
# Command lines in any order

A command line can be asked for by its tokens in any order.  Only the lists of
sections must keep theirs, because they are appended as they come.

Main results:

- Theorem `Reading.foldl_put_of_perm`: what tokens add up to does not depend on their
  order, as long as the lists of sections keep theirs.
- Theorem `CommandLine.read_of_perm`: the tokens of a command line are read back in
  every such order.
-/

namespace ArityLadder

/-! ## Orders of tokens -/

/-- Whether a token is a list of sections. -/
def Token.isOnly (token : Token) : Bool := token.argument = .only

namespace Reading

/-- Compatible tokens are compatible in the other order. -/
instance : Std.Symm Compatible where
  symm first second h := by
    intro hsame
    rw [hsame]
    exact h hsame.symm

/-- Tokens that give different arguments may change places. -/
theorem put_comm {first second : Token} (hne : first.argument ≠ second.argument)
    (reading : Reading) :
    (reading.put first).put second = (reading.put second).put first := by
  cases first <;> cases second <;> first | rfl | exact absurd rfl hne

/-- A token may be put behind tokens that give other arguments. -/
theorem foldl_put_comm {token : Token} {tokens : List Token}
    (hne : ∀ other ∈ tokens, token.argument ≠ other.argument) (reading : Reading) :
    tokens.foldl put (reading.put token) = (tokens.foldl put reading).put token := by
  induction tokens generalizing reading with
  | nil => rfl
  | cons other tokens ih =>
    rw [List.foldl_cons, List.foldl_cons, put_comm (hne other List.mem_cons_self)]
    exact ih (fun another hanother => hne another (List.mem_cons_of_mem other hanother)) _

/-- The lists of sections may be put before all other tokens. -/
theorem foldl_put_filter (tokens : List Token) (reading : Reading) :
    tokens.foldl put reading =
      (tokens.filter fun token => !token.isOnly).foldl put
        ((tokens.filter Token.isOnly).foldl put reading) := by
  induction tokens generalizing reading with
  | nil => rfl
  | cons token tokens ih =>
    rw [List.foldl_cons, ih]
    by_cases honly : token.isOnly = true
    · rw [List.filter_cons_of_pos honly, List.filter_cons_of_neg (by simp [honly])]
      rfl
    · have hne : ∀ other ∈ tokens.filter Token.isOnly, token.argument ≠ other.argument := by
        intro other hother hsame
        have hother' : other.argument = .only := by
          simpa [Token.isOnly] using (List.mem_filter.mp hother).2
        exact honly (by simp [Token.isOnly, hsame, hother'])
      rw [List.filter_cons_of_neg honly, List.filter_cons_of_pos (by simpa using honly),
        foldl_put_comm hne]
      rfl

/-- Compatible tokens add up to the same in every order that keeps the lists of sections
in theirs. -/
theorem foldl_put_of_perm {tokens tokens' : List Token} (hperm : tokens.Perm tokens')
    (horder : tokens.filter Token.isOnly = tokens'.filter Token.isOnly)
    (hcompatible : tokens.Pairwise Compatible) (reading : Reading) :
    tokens.foldl put reading = tokens'.foldl put reading := by
  rw [foldl_put_filter, foldl_put_filter tokens', horder]
  refine (hperm.filter _).foldl_eq' ?_ _
  intro first hfirst second hsecond reading
  by_cases hsame : first = second
  · rw [hsame]
  · have hpair := hcompatible.forall (List.mem_filter.mp hfirst).1 (List.mem_filter.mp hsecond).1
      hsame
    have honly : first.argument ≠ .only := by
      simpa [Token.isOnly] using (List.mem_filter.mp hfirst).2
    exact put_comm (fun hargument => honly (hpair hargument)) reading

end Reading

/-! ## The tokens of a command line -/

namespace CommandLine

open Reading

/-- Lists that are added up one after the other. -/
theorem foldl_put_only (lists : List (List Section)) (reading : Reading) :
    (lists.map Token.only).foldl put reading =
      { reading with only := reading.only ++ lists.flatten } := by
  induction lists generalizing reading with
  | nil => simp
  | cons kinds lists ih => simp [ih, put, List.append_assoc]

/-- The tokens of a command line add up to it. -/
theorem foldl_put_tokensWith {line : CommandLine} {lists : List (List Section)}
    (hlists : lists.flatten = line.only) (short : Bool) :
    (line.tokensWith lists short).foldl put {} =
      { line.toOptions with fieldCount := some line.fieldCount, counted := true } := by
  obtain ⟨⟨start, only, indent, indentWidth, noColor, config, verbose⟩, fieldCount⟩ := line
  cases start <;> cases indent <;> cases indentWidth <;> cases noColor <;> cases config <;>
    cases verbose <;> simp_all [tokensWith, List.foldl_append, foldl_put_only, put]

/-- An optional token is in no other's way. -/
theorem pairwise_toList (token : Option Token) : token.toList.Pairwise Compatible := by
  cases token <;> simp

/-- No two tokens of a command line are in each other's way. -/
theorem pairwise_tokensWith (line : CommandLine) (lists : List (List Section)) (short : Bool) :
    (line.tokensWith lists short).Pairwise Compatible := by
  have honly : (lists.map Token.only).Pairwise Compatible :=
    List.pairwise_map.mpr (List.pairwise_of_forall fun _ _ _ => rfl)
  have hcolor : (if line.noColor then [Token.noColor] else []).Pairwise Compatible := by
    split <;> simp
  have hverbose : (if line.verbose then [Token.verbose short] else []).Pairwise Compatible := by
    split <;> simp
  simp only [tokensWith, List.pairwise_cons, List.pairwise_append, pairwise_toList, honly, hcolor,
    hverbose]
  simp [or_imp, forall_and, Compatible, Token.argument]

/-- The lists of sections are the only tokens of their kind. -/
theorem filter_tokensWith (line : CommandLine) (lists : List (List Section)) (short : Bool) :
    (line.tokensWith lists short).filter Token.isOnly = lists.map Token.only := by
  have hlists : (lists.map Token.only).filter Token.isOnly = lists.map Token.only := by
    refine List.filter_eq_self.mpr fun token htoken => ?_
    obtain ⟨kinds, -, rfl⟩ := List.mem_map.mp htoken
    rfl
  have hother {α : Type} (token : α → Token) (htoken : ∀ a, (token a).isOnly = false)
      (setting : Option α) : (setting.map token).toList.filter Token.isOnly = [] := by
    cases setting <;> simp [htoken]
  have hflag (token : Token) (htoken : token.isOnly = false) (given : Bool) :
      (if given then [token] else []).filter Token.isOnly = [] := by
    cases given <;> simp [htoken]
  have hcount : ¬(Token.fieldCount line.fieldCount).isOnly = true := Bool.false_ne_true
  rw [tokensWith, List.filter_cons_of_neg hcount]
  simp only [List.filter_append, hlists, hother Token.start (fun _ => rfl),
    hother Token.indent (fun _ => rfl), hother Token.indentWidth (fun _ => rfl),
    hother Token.config (fun _ => rfl), hflag .noColor rfl, hflag (.verbose short) rfl,
    List.nil_append, List.append_nil]

/-- Every token of a command line can be told from one without a value. -/
theorem hasValue_of_mem_tokensWith {line : CommandLine} {lists : List (List Section)}
    (hpath : line.config ≠ some "") (hlists : [] ∉ lists) {short : Bool} {token : Token}
    (htoken : token ∈ line.tokensWith lists short) : token.HasValue := by
  cases token with
  | only kinds =>
    have hkinds : kinds ∈ lists := by simpa [tokensWith] using htoken
    rintro rfl
    exact hlists hkinds
  | config path =>
    have hconfig : line.config = some path := by simpa [tokensWith] using htoken
    rintro rfl
    exact hpath hconfig
  | _ => trivial

/-! ## Reading the tokens in any order -/

/-- The tokens of a command line are read back in every order in which its lists of
sections follow each other as they should. -/
theorem read_of_perm (line : CommandLine) (lists : List (List Section)) (short : Bool)
    (tokens : List Token) (hpath : line.config ≠ some "") (hsections : lists.flatten = line.only)
    (hlists : [] ∉ lists) (hperm : tokens.Perm (line.tokensWith lists short))
    (horder : tokens.filter Token.isOnly = lists.map Token.only) :
    CommandLine.read (tokens.map Token.text) = .ok line := by
  have hcompatible : tokens.Pairwise Compatible :=
    hperm.symm.pairwise (line.pairwise_tokensWith lists short) fun h => Std.Symm.symm _ _ h
  have hvalue : ∀ token ∈ tokens, token.HasValue := by
    intro token htoken
    exact hasValue_of_mem_tokensWith hpath hlists (hperm.mem_iff.mp htoken)
  have honly := line.filter_tokensWith lists short
  have hnew : ∀ token ∈ tokens, ({} : Reading).has token.argument = false := by
    intro token _
    cases token <;> rfl
  obtain ⟨reading, hread, hsettles⟩ :=
    foldlM_next_text (settles_self rfl rfl) hcompatible hnew hvalue
  rw [foldl_put_of_perm hperm (horder.trans honly.symm) hcompatible,
    foldl_put_tokensWith hsections] at hsettles
  rw [CommandLine.read, hread]
  exact finish_of_settles hsettles rfl

/-- The least field count behind options, with the extreme numbers, a path full of marks and
the sections in two lists. -/
theorem read_of_perm_mixed :
    CommandLine.read ["--only=accessor", "-v", "--config=-a=b,c", "--from=9223372036854775807",
        "-9223372036854775808", "--only=deserializer,accessor",
        "--indent-width=18446744073709551615", "--no-color", "--indent=spaces"] =
      .ok ⟨⟨some 9223372036854775807, [.accessor, .deserializer, .accessor], some .spaces,
        some 18446744073709551615, true, some "-a=b,c", true⟩, -9223372036854775808⟩ :=
  read_of_perm
    ⟨⟨some 9223372036854775807, [.accessor, .deserializer, .accessor], some .spaces,
      some 18446744073709551615, true, some "-a=b,c", true⟩, -9223372036854775808⟩
    [[.accessor], [.deserializer, .accessor]] true
    [.only [.accessor], .verbose true, .config "-a=b,c", .start 9223372036854775807,
      .fieldCount (-9223372036854775808), .only [.deserializer, .accessor],
      .indentWidth 18446744073709551615, .noColor, .indent .spaces]
    (by decide) rfl (by decide) (by decide) (by decide)

end CommandLine

end ArityLadder
