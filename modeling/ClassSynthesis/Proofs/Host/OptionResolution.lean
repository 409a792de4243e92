import ClassSynthesis.Proofs.Host.Settings

/-!
# The Options of a Run

Options come from the project file and from the command line. They are resolved if every value
that is given is valid, also one that is overridden; otherwise the first value that is not valid
is reported, those of the project file coming before those of the command line
(`RenderOptions.resolve_precedence`).

A computation that looks at values one after the other settles them (`Settles`): it succeeds if
all of them are valid, and it fails with what the first other one reports. Two such computations
in a row settle the values of both (`Settles.bind`).
-/

namespace ClassSynthesis

/-- A value that is given for an option. -/
inductive OptionValue
  /-- A name for the generated class. -/
  | className (setting : String)
  /-- An indentation. -/
  | indent (setting : IndentSetting)
  /-- A line ending. -/
  | newLine (setting : String)

namespace OptionValue

/-- The value stands for something. -/
def IsValid : OptionValue → Prop
  | className setting => ∃ name, ClassName.Written setting name
  | indent setting => ∃ unit, setting.Gives unit
  | newLine setting => ∃ lineEnding, LineEnding.Written setting lineEnding

/-- The error for a value that stands for nothing. A class name is shown without the blanks around
it, the other values are shown as they are. -/
inductive Reports : OptionValue → OptionError → Prop
  | notIdentifier {setting : String} (h : ¬ Identifier.IsIdentifier (Text.trim setting)) :
    Reports (className setting) (.invalidClassName (Text.trim setting))
  | reserved {setting : String} (h : Identifier.IsIdentifier (Text.trim setting))
      (hreserved : Text.trim setting ∈ Identifier.reservedWords) :
    Reports (className setting) (.reservedClassName (Text.trim setting))
  | noIndent {setting : IndentSetting} (h : ¬ ∃ unit, setting.Gives unit) :
    Reports (indent setting) (.invalidIndent setting.setting)
  | noLineEnding {setting : String} (h : ¬ ∃ lineEnding, LineEnding.Written setting lineEnding) :
    Reports (newLine setting) (.invalidNewLine setting)

theorem Reports.not_isValid {value : OptionValue} {e : OptionError} (h : value.Reports e) :
    ¬ value.IsValid := by
  cases h with
  | notIdentifier h =>
    rintro ⟨name, ⟨rfl, hname, -⟩⟩
    exact h hname
  | reserved h hreserved =>
    rintro ⟨name, ⟨rfl, -, hfree⟩⟩
    exact hfree hreserved
  | noIndent h => exact h
  | noLineEnding h => exact h

/-- The error is that for the first value that is not valid. -/
def FirstReports (values : List OptionValue) (e : OptionError) : Prop :=
  ∃ before value after, values = before ++ value :: after ∧
    (∀ earlier ∈ before, earlier.IsValid) ∧ value.Reports e

end OptionValue

open OptionValue

/-! ## Computations that look at values -/

/-- The computation succeeds, with a result that has the property, if all the values are valid; it
fails with the error for the first one that is not. -/
inductive Settles {α : Type} (values : List OptionValue) (holds : α → Prop) :
    Except OptionError α → Prop
  | ok {a : α} (hvalid : ∀ value ∈ values, value.IsValid) (h : holds a) :
    Settles values holds (.ok a)
  | error {e : OptionError} (h : FirstReports values e) : Settles values holds (.error e)

namespace Settles

variable {α β : Type} {first second : List OptionValue} {holds : α → Prop} {wanted : β → Prop}
  {x : Except OptionError α} {f : α → Except OptionError β}

theorem pure {a : α} (h : holds a) : Settles [] holds (.ok a) := .ok (by simp) h

theorem success {value : OptionValue} {a : α} (hvalid : value.IsValid) (h : holds a) :
    Settles [value] holds (.ok a) :=
  .ok (List.forall_mem_singleton.2 hvalid) h

theorem failure {value : OptionValue} {e : OptionError} (h : value.Reports e) :
    Settles [value] holds (.error e) :=
  .error ⟨[], value, [], rfl, by simp, h⟩

/-- A setting that is read as what it stands for is settled, if the error is that for a setting that
stands for nothing. -/
theorem ofOption {o : Option α} {e : OptionError} (value : OptionValue)
    (hsome : ∀ a, o = some a → x = .ok a) (hnone : o = none → x = .error e)
    (hread : ∀ a, o = some a ↔ holds a) (hvalid : ∀ a, holds a → value.IsValid)
    (hreport : (¬ ∃ a, holds a) → value.Reports e) : Settles [value] holds x := by
  cases o with
  | some a =>
    have ha := (hread a).1 rfl
    rw [hsome a rfl]
    exact .success (hvalid a ha) ha
  | none =>
    rw [hnone rfl]
    refine .failure (hreport ?_)
    rintro ⟨a, ha⟩
    cases (hread a).2 ha

theorem imp {implied : α → Prop} (h : Settles first holds x) (himp : ∀ a, holds a → implied a) :
    Settles first implied x := by
  cases h with
  | ok hvalid ha => exact .ok hvalid (himp _ ha)
  | error h => exact .error h

/-- Two computations in a row settle the values of the first one and then those of the second. -/
theorem bind (hx : Settles first holds x) (hf : ∀ a, holds a → Settles second wanted (f a)) :
    Settles (first ++ second) wanted (x >>= f) := by
  cases hx with
  | error h =>
    -- The second computation is not run, and its values come after the one reported.
    obtain ⟨before, value, after, rfl, hbefore, hvalue⟩ := h
    exact .error ⟨before, value, after ++ second, by simp, hbefore, hvalue⟩
  | @ok a hfirst ha =>
    -- All of the first values are valid, so they come before what the second one reports.
    show Settles (first ++ second) wanted (f a)
    have hnext := hf a ha
    generalize f a = y at hnext ⊢
    cases hnext with
    | ok hsecond hb => exact .ok (List.forall_mem_append.2 ⟨hfirst, hsecond⟩) hb
    | error h =>
      obtain ⟨before, value, after, rfl, hbefore, hvalue⟩ := h
      exact .error ⟨first ++ before, value, after, by simp,
        List.forall_mem_append.2 ⟨hfirst, hbefore⟩, hvalue⟩

/-- It succeeds exactly if all the values are valid. -/
theorem exists_ok_iff (h : Settles first holds x) :
    (∃ a, x = .ok a) ↔ ∀ value ∈ first, value.IsValid := by
  cases h with
  | @ok a hvalid ha => exact ⟨fun _ => hvalid, fun _ => ⟨a, rfl⟩⟩
  | error h =>
    obtain ⟨before, value, after, rfl, -, hvalue⟩ := h
    constructor
    · rintro ⟨a, ⟨⟩⟩
    · intro hvalid
      exact absurd (hvalid value (by simp)) hvalue.not_isValid

theorem of_ok {a : α} (h : Settles first holds (.ok a)) : holds a := by
  cases h with
  | ok hvalid ha => exact ha

theorem of_error {e : OptionError} (h : Settles first holds (.error e)) : FirstReports first e := by
  cases h with
  | error h => exact h

end Settles

/-! ## Single values -/

theorem settles_classNameOfSetting (setting : String) :
    Settles [.className setting] (ClassName.Written setting) (classNameOfSetting setting) := by
  unfold classNameOfSetting
  dsimp only
  split
  · rename_i hformed
    have hname : ¬ Identifier.IsIdentifier (Text.trim setting) := by
      intro h
      rw [Identifier.isWellFormed_iff.2 h] at hformed
      cases hformed
    exact .failure (.notIdentifier hname)
  · rename_i hformed
    have hname : Identifier.IsIdentifier (Text.trim setting) :=
      Identifier.isWellFormed_iff.1 (by simpa using hformed)
    split
    · rename_i hreserved
      exact .failure (.reserved hname (Identifier.isReserved_iff.1 hreserved))
    · rename_i hfree
      have hwritten : ClassName.Written setting (Text.trim setting) :=
        ⟨rfl, hname, fun h => hfree (Identifier.isReserved_iff.2 h)⟩
      exact .success ⟨_, hwritten⟩ hwritten

theorem settles_indentOfSetting (setting : IndentSetting) :
    Settles [.indent setting] setting.Gives (Indent.ofSetting setting.setting) := by
  have hread (unit : Indent) : Indent.ofSetting? setting.setting = some unit ↔
      setting.Gives unit :=
    Indent.ofSetting?_eq_some_iff.trans setting.written_setting_iff
  refine .ofOption (.indent setting) (fun unit h => ?_) (fun h => ?_) hread
    (fun unit h => ⟨unit, h⟩) .noIndent
  · rw [Indent.ofSetting, h]
  · rw [Indent.ofSetting, h]

theorem settles_lineEndingOfSetting (setting : String) :
    Settles [.newLine setting] (LineEnding.Written setting) (LineEnding.ofSetting setting) := by
  refine .ofOption (.newLine setting) (fun lineEnding h => ?_) (fun h => ?_)
    (fun _ => LineEnding.ofSetting?_eq_some_iff) (fun lineEnding h => ⟨lineEnding, h⟩)
    .noLineEnding
  · rw [LineEnding.ofSetting, h]
  · rw [LineEnding.ofSetting, h]

/-- A value is what the setting says, if there is one, and else the default. -/
def Chosen {σ α : Type} (gives : σ → α → Prop) (setting : Option σ) (default value : α) : Prop :=
  match setting with
  | some setting => gives setting value
  | none => value = default

/-- What overrides a value that has been chosen is chosen before it. -/
theorem Chosen.override {σ α : Type} {gives : σ → α → Prop} {first second : Option σ}
    {default middle value : α} (hfirst : Chosen gives first default middle)
    (hsecond : Chosen gives second middle value) :
    Chosen gives (second.or first) default value := by
  cases second with
  | some setting => exact hsecond
  | none =>
    cases hsecond
    exact hfirst

/-- A setting that may be missing is settled as it is settled when it is there. -/
theorem settles_choose {σ α : Type} {toValue : σ → OptionValue} {gives : σ → α → Prop}
    (read : String → Except OptionError α) (toText : σ → String)
    (h : ∀ setting, Settles [toValue setting] (gives setting) (read (toText setting)))
    (setting : Option σ) (current : α) :
    Settles (setting.map toValue).toList (Chosen gives setting current)
      (RenderOptions.choose read (setting.map toText) current) := by
  cases setting with
  | some setting => exact h setting
  | none => exact .pure rfl

/-! ## Sources of options -/

/-- The values that are given, in the order in which they are looked at. -/
def EmitSettings.values (settings : EmitSettings) : List OptionValue :=
  (settings.className.map .className).toList ++ (settings.indent.map .indent).toList ++
    (settings.newLine.map .newLine).toList

/-- The options of a command line as a project file would write them. -/
def Arguments.settings (arguments : Arguments) : EmitSettings where
  className := arguments.className
  indent := arguments.indent.map .name
  newLine := arguments.newLine
  autoGeneratedHeader := if arguments.noHeader then some false else none

theorem Arguments.optionSource_settings (arguments : Arguments) :
    arguments.settings.optionSource = arguments.optionSource := by
  have hindent : (arguments.indent.map IndentSetting.name).map IndentSetting.setting =
      arguments.indent := by
    cases arguments.indent <;> rfl
  rw [EmitSettings.optionSource, optionSource, settings, hindent]

namespace RenderOptions

/-- Options are those that there were, except for what the settings say. -/
structure Overrides (settings : EmitSettings) (current options : RenderOptions) : Prop where
  className : Chosen ClassName.Written settings.className current.className options.className
  indent : Chosen IndentSetting.Gives settings.indent current.indent options.indent
  lineEnding : Chosen LineEnding.Written settings.newLine current.lineEnding options.lineEnding
  header : options.header = settings.autoGeneratedHeader.getD current.header

theorem settles_override (settings : EmitSettings) (current : RenderOptions) :
    Settles settings.values (Overrides settings current)
      (override current settings.optionSource) := by
  -- Only indentations are made into texts before they are read.
  have hclassName := settles_choose classNameOfSetting id settles_classNameOfSetting
    settings.className current.className
  have hindent := settles_choose Indent.ofSetting IndentSetting.setting settles_indentOfSetting
    settings.indent current.indent
  have hlineEnding := settles_choose LineEnding.ofSetting id settles_lineEndingOfSetting
    settings.newLine current.lineEnding
  rw [Option.map_id_apply] at hclassName hlineEnding
  have hvalues : settings.values = (settings.className.map .className).toList ++
      ((settings.indent.map .indent).toList ++ ((settings.newLine.map .newLine).toList ++ [])) := by
    rw [EmitSettings.values, List.append_nil, List.append_assoc]
  rw [hvalues]
  exact hclassName.bind fun className hname => hindent.bind fun indent hunit =>
    hlineEnding.bind fun lineEnding hend => .pure ⟨hname, hunit, hend, rfl⟩

/-- Every value that is given is looked at, those of the project file before those of the command
line, and what the command line says wins. -/
theorem settles_resolve (project : Option EmitSettings) (arguments : Arguments) :
    Settles ((project.getD {}).values ++ arguments.settings.values)
      (fun options => ∃ middle, Overrides (project.getD {}) {} middle ∧
        Overrides arguments.settings middle options)
      (resolve project arguments) := by
  -- A missing project file is one that gives no values.
  have hproject : (project.map EmitSettings.optionSource).getD {} =
      (project.getD {}).optionSource := by
    cases project <;> rfl
  rw [resolve, hproject, ← arguments.optionSource_settings]
  refine .bind (settles_override _ _) fun middle hmiddle => ?_
  exact (settles_override _ middle).imp fun options hoptions => ⟨middle, hmiddle, hoptions⟩

/-- Options are resolved exactly if all values that are given are valid, also those of the project
file that the command line overrides. Each option is then what the command line says, or else what
the project file says, or else the default, and the header is off exactly if one of the two turns
it off. If a value is not valid, the first such value is reported, those of the project file
coming before those of the command line. -/
theorem resolve_precedence (project : Option EmitSettings) (arguments : Arguments) :
    ((∃ options, resolve project arguments = .ok options) ↔
      ∀ value ∈ (project.getD {}).values ++ arguments.settings.values, value.IsValid) ∧
    (∀ options, resolve project arguments = .ok options →
      Chosen ClassName.Written (arguments.className.or (project.getD {}).className)
        defaultClassName options.className ∧
      Chosen IndentSetting.Gives ((arguments.indent.map .name).or (project.getD {}).indent)
        .tabs options.indent ∧
      Chosen LineEnding.Written (arguments.newLine.or (project.getD {}).newLine)
        .lineFeed options.lineEnding ∧
      (options.header = false ↔
        arguments.noHeader = true ∨ (project.getD {}).autoGeneratedHeader = some false)) ∧
    ∀ e, resolve project arguments = .error e →
      FirstReports ((project.getD {}).values ++ arguments.settings.values) e := by
  have hsettles := settles_resolve project arguments
  refine ⟨hsettles.exists_ok_iff, fun options hoptions => ?_, fun e he => ?_⟩
  · rw [hoptions] at hsettles
    obtain ⟨middle, hmiddle, hfinal⟩ := hsettles.of_ok
    refine ⟨hmiddle.className.override hfinal.className, hmiddle.indent.override hfinal.indent,
      hmiddle.lineEnding.override hfinal.lineEnding, ?_⟩
    -- The command line can turn the header off, and cannot turn it on again.
    rw [hfinal.header, hmiddle.header, Arguments.settings]
    cases arguments.noHeader <;> cases (project.getD {}).autoGeneratedHeader <;> simp
  · rw [he] at hsettles
    exact hsettles.of_error

theorem resolve_precedence_overridden :
    resolve (some { newLine := some "cr" }) { newLine := some "lf" } =
      .error (.invalidNewLine "cr") ∧
    FirstReports [.newLine "cr", .newLine "lf"] (.invalidNewLine "cr") ∧
    resolve (some { indent := some (.width 2), newLine := some " CrLf" })
        { indent := some "+0004 ", noHeader := true } =
      .ok { indent := .spaces 4, lineEnding := .carriageReturnLineFeed, header := false } ∧
    Chosen IndentSetting.Gives (some (.name "+0004 ")) .tabs (.spaces 4) :=
  ⟨by decide, (resolve_precedence (some { newLine := some "cr" }) { newLine := some "lf" }).2.2 _
      (by decide),
    by decide, ((resolve_precedence (some { indent := some (.width 2), newLine := some " CrLf" })
      { indent := some "+0004 ", noHeader := true }).2.1
        { indent := .spaces 4, lineEnding := .carriageReturnLineFeed, header := false }
        (by decide)).2.1⟩

end RenderOptions

end ClassSynthesis
