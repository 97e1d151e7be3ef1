import ArityLadder.Proofs.Printing.Documents
import ArityLadder.Proofs.Program.Runs

/-!
# Well-formed plans

A plan is put together from flags, from the settings of a file and from defaults, each of
which is within its limits, whichever of them an item is taken from.  So is the plan, and
the numbers that are computed when it is printed are far below the end of a machine word.

Main results:

- Theorem `Settings.Loaded.valid`: settings are within their limits wherever they come from.
- Theorem `CommandLine.Valid.wellFormed`: a valid command line and valid settings make a
  well-formed plan.
- Theorem `Plan.WellFormed.printed_perm`: a well-formed plan prints each of its sections once.
- Theorem `CommandLine.exists_plan_wellFormed`: a command line that passes its checks has a
  plan for its range that is well formed and is printed without an overflow.
-/

namespace ArityLadder

/-! ## Settings -/

/-- Settings that a run can have: those of no file, of a text, or of a file. -/
inductive Settings.Loaded : Settings → Prop where
  | none : Loaded {}
  | text {text : String} {settings : Settings} (hread : Settings.read text = .ok settings) :
      Loaded settings
  | file {files : FileReader} {path : String} {settings : Settings}
      (hload : Settings.load files path = .ok settings) : Loaded settings

/-- Settings are within their limits wherever they come from. -/
theorem Settings.Loaded.valid {settings : Settings} (hloaded : settings.Loaded) :
    settings.Valid := by
  cases hloaded with
  | none => exact validate_eq_ok_iff.mp rfl
  | text hread => exact validate_eq_ok_iff.mp (validate_of_read hread)
  | file hload => exact valid_of_load hload

/-! ## Plans -/

/-- A plan whose range, sections and indentation are within their limits. -/
structure Plan.WellFormed (plan : Plan) : Prop where
  first_le_last : plan.first ≤ plan.last
  sections_ne_nil : plan.sections ≠ []
  nodup_sections : plan.sections.Nodup
  indent : plan.indent = .tab ∨
    ∃ width, 1 ≤ width.toNat ∧ width.toNat ≤ 16 ∧ plan.indent = .spaces width

namespace CommandLine

section Limits

variable {line : CommandLine} {settings : Settings} (hline : line.Valid)
  (hsettings : settings.Valid)
include hline hsettings

/-- No section is asked for twice, whether by a flag, by a file or by neither. -/
theorem Valid.nodup_kinds : (line.kinds settings).Nodup := by
  unfold kinds
  by_cases honly : line.only = []
  · rw [if_pos honly]
    cases hkinds : settings.kinds? with
    | none => exact (by decide : Section.all.Nodup)
    | some kinds => exact (hsettings.kinds kinds hkinds).2
  · rw [if_neg honly]
    exact hline.only

/-- The width of an indentation lies between 1 and 16, whether it comes from a flag, from a file or
from neither. -/
theorem Valid.width_bounds :
    1 ≤ (line.width settings).toNat ∧ (line.width settings).toNat ≤ 16 := by
  unfold width
  cases hflag : line.indentWidth with
  | some width => exact hline.indentWidth width hflag
  | none =>
    cases hfile : settings.indentWidth? with
    | some width => exact hsettings.indentWidth width hfile
    | none => exact (by decide : 1 ≤ Indent.defaultWidth.toNat ∧ Indent.defaultWidth.toNat ≤ 16)

/-- A valid command line and valid settings make a well-formed plan. -/
theorem Valid.wellFormed {plan : Plan} (hplan : line.plan settings = .ok plan) :
    plan.WellFormed := by
  obtain ⟨first, last, -, -, hle, rfl⟩ := plan_eq_ok_iff.mp hplan
  refine ⟨hle, line.kinds_ne_nil hsettings, hline.nodup_kinds hsettings, ?_⟩
  obtain ⟨hleast, hgreatest⟩ := hline.width_bounds hsettings
  unfold planFor
  cases line.indentStyle settings with
  | tab => exact .inl rfl
  | spaces => exact .inr ⟨line.width settings, hleast, hgreatest, rfl⟩

end Limits

end CommandLine

/-! ## Printing on machine words -/

namespace Plan

/-- A well-formed plan prints each of its sections, and each once. -/
theorem WellFormed.printed_perm {plan : Plan} (hplan : plan.WellFormed) :
    plan.printed.Perm plan.sections :=
  printed_perm_of_nodup hplan.nodup_sections

/-- The indentation of a well-formed plan is 16 characters wide at most. -/
theorem WellFormed.width_le {plan : Plan} (hplan : plan.WellFormed) :
    plan.indent.width.toNat ≤ 16 := by
  rcases hplan.indent with htab | ⟨width, -, hwidth, hspaces⟩
  · rw [htab]
    decide
  · rw [hspaces]
    exact hwidth

/-- A line of a well-formed plan is indented by 32 characters at most, which a product of machine
words tells without an overflow. -/
theorem WellFormed.indent_le {plan : Plan} (hplan : plan.WellFormed) {kind : Section}
    {arity : Arity} {said : Line} (hsaid : said ∈ kind.body arity) :
    plan.indent.width.toNat * said.depth.toNat ≤ 32 ∧
      (plan.indent.width * said.depth).toNat = plan.indent.width.toNat * said.depth.toNat := by
  have hdepth := (Section.bodyLine_of_mem hsaid).depth_le
  have hle : plan.indent.width.toNat * said.depth.toNat ≤ 32 :=
    Nat.mul_le_mul hplan.width_le hdepth
  have hfits : plan.indent.Fits said.depth := Nat.lt_of_le_of_lt hle (by decide)
  exact ⟨hle, (Indent.toNat_width_mul_eq_iff plan.indent said.depth).mpr hfits⟩

end Plan

/-- A command line that passes its checks has a plan with all settings that a run can have.  The
plan goes from the first arity, or else from the field count, to the field count; it names some
section and none twice; and it is indented by tabs or by 1 to 16 spaces.  Each line in the body of
a fragment that is printed for it is indented by 32 characters at most, and neither this product
nor the last position of the names leaves the range of a machine word. -/
theorem CommandLine.exists_plan_wellFormed {line : CommandLine} {settings : Settings}
    (hline : line.validate = .ok ()) (hsettings : settings.Loaded) :
    ∃ plan, line.plan settings = .ok plan ∧
      (plan.last.count : Int) = line.fieldCount.toInt ∧
      (plan.first.count : Int) = (line.start.getD line.fieldCount).toInt ∧
      1 ≤ plan.first.count ∧ plan.WellFormed ∧
      ∀ arity ∈ plan.arities,
        (∀ kind, ∀ said ∈ Section.body arity kind,
          plan.indent.width.toNat * said.depth.toNat ≤ 32 ∧
          (plan.indent.width * said.depth).toNat =
            plan.indent.width.toNat * said.depth.toNat) ∧
        1 ≤ (Bindings.ofArity arity).size ∧
        (UInt64.ofNat (Bindings.ofArity arity).size - 1).toNat + 1 =
          (Bindings.ofArity arity).size := by
  have hvalid := validate_eq_ok_iff.mp hline
  obtain ⟨plan, hplan⟩ := hvalid.exists_plan settings
  have hwell := hvalid.wellFormed hsettings.valid hplan
  obtain ⟨first, last, hfirst, hlast, -, rfl⟩ := plan_eq_ok_iff.mp hplan
  refine ⟨_, hplan, hlast, hfirst, first.pos, hwell, ?_⟩
  intro arity _
  have hsize : (Bindings.ofArity arity).size = arity.count := Bindings.length_names arity
  refine ⟨fun kind said hsaid => hwell.indent_le hsaid, ?_, ?_⟩
  · rw [hsize]
    exact arity.pos
  · rw [Bindings.toNat_size_sub_one, hsize]

/-- The style comes from a file that has no width, the width from a flag, and the sections from
neither. -/
theorem CommandLine.exists_plan_wellFormed_mixed :
    let line : CommandLine := ⟨{ start := some 2, indentWidth := some 16 }, 3⟩
    let settings : Settings := { output := some { indent := some .spaces } }
    ∃ plan, line.plan settings = .ok plan ∧ plan.first.count = 2 ∧ plan.last.count = 3 ∧
      plan.indent = .spaces 16 ∧ plan.WellFormed := by
  intro line settings
  have hread : Settings.read "[output]\nindent = \"spaces\"\n" = .ok settings := by decide +kernel
  have hline : line.validate = .ok () := by decide +kernel
  have hindent : (line.plan settings).map Plan.indent = .ok (.spaces 16) := by decide +kernel
  obtain ⟨plan, hplan, hlast, hfirst, -, hwell, -⟩ := exists_plan_wellFormed hline (.text hread)
  rw [hplan] at hindent
  exact ⟨plan, hplan, Int.ofNat.inj hfirst, Int.ofNat.inj hlast, Except.ok.inj hindent, hwell⟩

end ArityLadder
