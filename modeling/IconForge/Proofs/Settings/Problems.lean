import IconForge.Discovery
import IconForge.Proofs.Naming
import IconForge.Settings.Validation

/-!
# What settings are found to have wrong

Each problem that is found names the setting it is about, and the fields of settings are told apart
by their text. So the fields that are named say exactly which settings are unsound: of the exclude
patterns, just the ones that cannot be read, by their numbers.

## Main statements

- `isOk_compileExcludes`: patterns are read together if each of them can be read.
- `SettingName.field_injective`: each setting has a field of its own.
- `Settings.mem_problems_iff`: the problems of some settings.
- `Settings.names_iff`: whether a setting is named, and `Settings.names_exclude_iff`,
  `Settings.names_identifierSuffix_iff`, `Settings.names_outputFileName_iff` when it is.
- `Settings.relied_on_of_problems_eq_nil`: what sound settings are known to satisfy.
-/

namespace IconForge

open IconForge.Text IconForge.Glob

/-! ## Patterns -/

/-- Patterns are read together if and only if each of them can be read. -/
theorem isOk_compileExcludes (texts : List String) :
    (compileExcludes texts).isOk = texts.all fun text => (Pattern.parse text).isOk := by
  induction texts with
  | nil => rfl
  | cons text texts ih =>
    rw [compileExcludes] at ih ⊢
    rw [List.mapM_cons, List.all_cons, ← ih]
    cases Pattern.parse text with
    | error e => rfl
    | ok pattern =>
      simp only [Except.mapError, bind, Except.bind]
      split <;> simp_all [Except.isOk, Except.toBool, pure, Except.pure]

/-- A pattern is refused on its own if it cannot be read. -/
theorem isOk_compileExcludes_singleton (text : String) :
    (compileExcludes [text]).isOk = (Pattern.parse text).isOk := by
  simp [isOk_compileExcludes]

/-! ## Fields -/

namespace SettingName

theorem field_exclude (index : Nat) :
    (exclude index).field = "generate.exclude[" ++ toString index ++ "]" := rfl

/-- The letter after the group tells the exclude patterns from the other settings. -/
theorem head?_drop_field_exclude (index : Nat) :
    ((exclude index).field.toList.drop 9).head? = some 'e' := by
  have chars : "generate.exclude[".toList = "generate.".toList ++ 'e' :: "xclude[".toList := rfl
  rw [field_exclude, String.append_assoc, String.toList_append, chars, List.append_assoc,
    List.drop_left' (by decide), List.cons_append, List.head?_cons]

/-- Each setting has a field of its own. -/
theorem field_injective : Function.Injective field := by
  intro name name' eq
  have letter := congrArg (fun text : String => (text.toList.drop 9).head?) eq
  cases name with
  | exclude index =>
    rw [head?_drop_field_exclude] at letter
    cases name' with
    | exclude index' =>
      -- the number stands between the same texts
      have numbers :
          "generate.exclude[" ++ toString index = "generate.exclude[" ++ toString index' :=
        (String.append_left_inj _).mp eq
      rw [Registry.append_toString_injective _ numbers]
    | defaultWidth | defaultHeight | identifierSuffix | outputFileName =>
      exact absurd letter (by decide)
  | defaultWidth | defaultHeight | identifierSuffix | outputFileName =>
    cases name' with
    | exclude index' =>
      rw [head?_drop_field_exclude] at letter
      exact absurd letter (by decide)
    | defaultWidth | defaultHeight | identifierSuffix | outputFileName =>
      first
      | rfl
      | exact absurd eq (by decide)

end SettingName

/-! ## Problems -/

namespace Settings

variable {s : Settings}

theorem mem_patternProblems_iff {patterns : List String} {p : Problem} :
    p ∈ patternProblems patterns ↔
      ∃ index text error, patterns[index]? = some text ∧ Pattern.parse text = .error error ∧
        p = ⟨.exclude index, .badPattern error⟩ := by
  unfold patternProblems
  rw [List.mem_filterMap]
  constructor
  · rintro ⟨⟨text, index⟩, mem, eq⟩
    rw [List.mem_zipIdx_iff_getElem?] at mem
    cases parsed : Pattern.parse text with
    | error e =>
      simp only [parsed] at eq
      exact ⟨index, text, e, mem, parsed, (Option.some.inj eq).symm⟩
    | ok pattern => simp [parsed] at eq
  · rintro ⟨index, text, error, here, parsed, rfl⟩
    exact ⟨(text, index), List.mem_zipIdx_iff_getElem?.mpr here, by simp [parsed]⟩

/-- The problems of some settings. -/
theorem mem_problems_iff {p : Problem} :
    p ∈ s.problems ↔
      (isAllBlank s.generate.defaultWidth = true ∧ p = ⟨.defaultWidth, .blank⟩) ∨
      (isAllBlank s.generate.defaultHeight = true ∧ p = ⟨.defaultHeight, .blank⟩) ∨
      (isWord s.generate.identifierSuffix = false ∧ p = ⟨.identifierSuffix, .notAlphanumeric⟩) ∨
      (s.generate.outputFileName.all isPlainFileName = false ∧
        p = ⟨.outputFileName, .notPlainName⟩) ∨
      p ∈ patternProblems s.generate.exclude := by
  have listed {condition : Bool} {problem : Problem} :
      p ∈ (if condition then [problem] else []) ↔ condition = true ∧ p = problem := by
    cases condition <;> simp
  have listedElse {condition : Bool} {problem : Problem} :
      p ∈ (if condition then [] else [problem]) ↔ condition = false ∧ p = problem := by
    cases condition <;> simp
  simp only [problems, List.mem_append, listed, listedElse, or_assoc, isWord]

/-- One of the problems of some settings is about this one, by the field that it shows. -/
def Names (s : Settings) (name : SettingName) : Prop := ∃ p ∈ s.problems, p.field = name.field

theorem names_iff {name : SettingName} : s.Names name ↔ ∃ p ∈ s.problems, p.setting = name :=
  exists_congr fun _ => and_congr_right fun _ => SettingName.field_injective.eq_iff

/-- An exclude pattern is named if and only if it is refused. -/
theorem names_exclude_iff (index : Nat) :
    s.Names (.exclude index) ↔
      ∃ text, s.generate.exclude[index]? = some text ∧ (compileExcludes [text]).isOk = false := by
  have refused (text : String) : (compileExcludes [text]).isOk = false ↔
      ∃ e, Pattern.parse text = .error e := by
    rw [isOk_compileExcludes_singleton]
    cases Pattern.parse text <;> simp [Except.isOk, Except.toBool]
  simp [names_iff, mem_problems_iff, mem_patternProblems_iff, or_and_right, exists_or, refused,
    and_assoc]

theorem names_identifierSuffix_iff :
    s.Names .identifierSuffix ↔ isWord s.generate.identifierSuffix = false := by
  simp [names_iff, mem_problems_iff, mem_patternProblems_iff, or_and_right, exists_or, and_assoc]

theorem names_outputFileName_iff :
    s.Names .outputFileName ↔ s.generate.outputFileName.all isPlainFileName = false := by
  simp [names_iff, mem_problems_iff, mem_patternProblems_iff, or_and_right, exists_or, and_assoc]

/-- Sound settings name nothing. -/
theorem not_names_of_problems_eq_nil (sound : s.problems = []) (name : SettingName) :
    ¬ s.Names name := by
  rintro ⟨p, mem, -⟩
  simp [sound] at mem

/-- Patterns are refused if and only if one of them is named. -/
theorem exists_names_exclude_iff :
    (∃ index, s.Names (.exclude index)) ↔ (compileExcludes s.generate.exclude).isOk = false := by
  simp only [names_exclude_iff, isOk_compileExcludes_singleton]
  rw [isOk_compileExcludes, List.all_eq_false]
  constructor
  · rintro ⟨index, text, here, refused⟩
    exact ⟨text, List.mem_of_getElem? here, by simp [refused]⟩
  · rintro ⟨text, mem, refused⟩
    obtain ⟨index, here⟩ := List.getElem?_of_mem mem
    exact ⟨index, text, here, by simpa using refused⟩

/-- What a run can rely on under sound settings. -/
theorem relied_on_of_problems_eq_nil (sound : s.problems = []) :
    (compileExcludes s.generate.exclude).isOk = true ∧
      isWord s.generate.identifierSuffix = true ∧
      s.generate.outputFileName.all isPlainFileName = true := by
  have unnamed := not_names_of_problems_eq_nil sound
  refine ⟨?_, ?_, ?_⟩
  · by_contra refused
    obtain ⟨index, named⟩ := exists_names_exclude_iff.mpr (by simpa using refused)
    exact unnamed _ named
  · by_contra noWord
    exact unnamed _ (names_identifierSuffix_iff.mpr (by simpa using noWord))
  · by_contra notPlain
    exact unnamed _ (names_outputFileName_iff.mpr (by simpa using notPlain))

end Settings

end IconForge
