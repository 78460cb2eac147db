import IconForge.CommandLine.Arguments
import Mathlib

/-!
# Arguments that are written

What `generate` is told can be written as a command line: the options with their values behind an
equals sign and the flags, in any order in which the exclude patterns keep theirs, and then, after
two dashes, the paths. Such a command line says what was written, whatever the values are. A value
that looks like an option is still a value, since it stands behind an equals sign, and so does a
path, since it stands after the dashes.

A command line is read one setting after the other. `given` is the view in which this is stated:
what arguments say under a name. Reading a setting adds it there and changes nothing else.

## Main statements

- `take_text`: one written setting is taken note of.
- `takeAll_texts`: so are all of them, one after the other.
- `parse_written`: what is written is what is read.
-/

namespace IconForge.CommandLine

/-! ## Settings -/

/-- An option with its value, or a flag. -/
inductive Setting where
  | config (path : Path)
  | width (text : String)
  | height (text : String)
  | suffix (text : String)
  | format (f : OutputFormat)
  | outputFile (name : String)
  | exclude (pattern : String)
  | useFileNames
  | strict
  | dryRun
  | json
  | verbose
  deriving DecidableEq, Repr

namespace Setting

/-- What a setting is called on a command line, and its value if it has one. -/
def spelling : Setting → String × Option String
  | config path => ("config", some path.text)
  | width text => ("width", some text)
  | height text => ("height", some text)
  | suffix text => ("suffix", some text)
  | format f => ("format", some f.extension)
  | outputFile name => ("output-file", some name)
  | exclude pattern => ("exclude", some pattern)
  | useFileNames => ("use-file-names", none)
  | strict => ("strict", none)
  | dryRun => ("dry-run", none)
  | json => ("json", none)
  | verbose => ("verbose", none)

/-- A setting as an argument. -/
def text (s : Setting) : String :=
  match s.spelling with
  | (name, some value) => "--" ++ name ++ "=" ++ value
  | (name, none) => "--" ++ name

/-- What a setting is a setting of. -/
def name : Setting → Name
  | config _ => .valued .config
  | width _ => .valued .width
  | height _ => .valued .height
  | suffix _ => .valued .suffix
  | format _ => .valued .format
  | outputFile _ => .valued .outputFile
  | exclude _ => .valued .exclude
  | useFileNames => .switch .useFileNames
  | strict => .switch .strict
  | dryRun => .switch .dryRun
  | json => .switch .json
  | verbose => .switch .verbose

/-- The pattern of a setting that excludes files. -/
def pattern? : Setting → Option String
  | exclude pattern => some pattern
  | _ => none

/-- A setting can be written if it does not ask for a path that is empty. -/
def Writable : Setting → Prop
  | config path => path.text ≠ ""
  | _ => True

/-- Arguments with one more setting. -/
def apply (s : Setting) (a : GenerateArguments) : GenerateArguments :=
  match s with
  | config path => { a with config := some path }
  | width text => { a with width := some text }
  | height text => { a with height := some text }
  | suffix text => { a with suffix := some text }
  | format f => { a with format := some f }
  | outputFile name => { a with outputFile := some name }
  | exclude pattern => { a with exclude := a.exclude ++ [pattern] }
  | useFileNames => { a with useFileNames := true }
  | strict => { a with strict := true }
  | dryRun => { a with dryRun := true }
  | json => { a with json := true }
  | verbose => { a with verbose := true }

end Setting

namespace GenerateArguments

/-- The settings that arguments have under a name. -/
def given (a : GenerateArguments) : Name → List Setting
  | .valued .config => (a.config.map .config).toList
  | .valued .width => (a.width.map .width).toList
  | .valued .height => (a.height.map .height).toList
  | .valued .suffix => (a.suffix.map .suffix).toList
  | .valued .format => (a.format.map .format).toList
  | .valued .outputFile => (a.outputFile.map .outputFile).toList
  | .valued .exclude => a.exclude.map .exclude
  | .switch .useFileNames => if a.useFileNames then [.useFileNames] else []
  | .switch .strict => if a.strict then [.strict] else []
  | .switch .dryRun => if a.dryRun then [.dryRun] else []
  | .switch .json => if a.json then [.json] else []
  | .switch .verbose => if a.verbose then [.verbose] else []
  | _ => []

/-- What arguments can have settings of. -/
def settingNames : List Name :=
  [.valued .config, .valued .width, .valued .height, .valued .suffix, .valued .format,
    .valued .outputFile, .valued .exclude, .switch .useFileNames, .switch .strict,
    .switch .dryRun, .switch .json, .switch .verbose]

/-- All settings of arguments. -/
def settings (a : GenerateArguments) : List Setting := settingNames.flatMap a.given

/-- The paths of arguments as they are written. -/
def paths (a : GenerateArguments) : List String :=
  (a.input.toList ++ a.output.toList).map Path.text

/-- Arguments can be written if no path among them is empty, and none is left out before another. -/
structure Writable (a : GenerateArguments) : Prop where
  config : ∀ path ∈ a.config, path.text ≠ ""
  input : ∀ path ∈ a.input, path.text ≠ ""
  output : ∀ path ∈ a.output, path.text ≠ ""
  outputAfterInput : a.output.isSome = true → a.input.isSome = true

variable {a b : GenerateArguments} {s : Setting} {n : Name}

/-! ## What arguments say under a name -/

theorem name_of_mem_given (given : s ∈ a.given n) : s.name = n := by
  cases n with
  | valued v =>
    cases v <;> grind [GenerateArguments.given, Setting.name, Option.map_eq_some_iff]
  | switch w => cases w <;> grind [GenerateArguments.given, Setting.name]

/-- Except for exclude patterns there is at most one setting under a name. -/
theorem length_given_le (other : n ≠ .valued .exclude) : (a.given n).length ≤ 1 := by
  cases n with
  | valued v => cases v <;> grind [given, Option.length_toList_le]
  | switch w => cases w <;> grind [given]

theorem given_apply_of_ne (other : s.name ≠ n) : (s.apply a).given n = a.given n := by
  -- a setting of another name changes none of the fields that are looked at
  cases n with
  | valued v => cases v <;> cases s <;> first | rfl | exact absurd rfl other
  | switch w => cases w <;> cases s <;> first | rfl | exact absurd rfl other

/-- There is room for a setting if there is none of its name, or if it excludes files. -/
def HasRoom (a : GenerateArguments) (s : Setting) : Prop :=
  a.given s.name = [] ∨ s.name = .valued .exclude

theorem given_apply_self (room : a.HasRoom s) :
    (s.apply a).given s.name = a.given s.name ++ [s] := by
  rcases room with none | excludes
  · rw [none]
    cases s <;> simp_all [given, Setting.apply, Setting.name]
  · cases s <;> simp_all [given, Setting.apply, Setting.name]

theorem option_eq {α : Type} {setting : α → Setting}
    (injective : ∀ x y, setting x = setting y → x = y) {o o' : Option α}
    (same : (o.map setting).toList = (o'.map setting).toList) : o = o' := by
  apply Option.map_injective fun x y => injective x y
  simpa using congrArg List.head? same

theorem flag_eq {s : Setting} {on on' : Bool}
    (same : (if on then [s] else []) = if on' then [s] else []) : on = on' := by
  cases on <;> cases on' <;> simp_all

/-- Arguments with the same settings and the same paths are the same. -/
theorem eq_of_given (given : ∀ n, a.given n = b.given n) (input : a.input = b.input)
    (output : a.output = b.output) : a = b := by
  have exclude : a.exclude = b.exclude :=
    List.map_injective_iff.mpr (fun _ _ => Setting.exclude.inj) (given (.valued .exclude))
  cases a
  cases b
  rw [mk.injEq]
  exact ⟨input, output, option_eq (fun _ _ => Setting.config.inj) (given (.valued .config)),
    option_eq (fun _ _ => Setting.width.inj) (given (.valued .width)),
    option_eq (fun _ _ => Setting.height.inj) (given (.valued .height)),
    option_eq (fun _ _ => Setting.suffix.inj) (given (.valued .suffix)),
    option_eq (fun _ _ => Setting.format.inj) (given (.valued .format)),
    option_eq (fun _ _ => Setting.outputFile.inj) (given (.valued .outputFile)), exclude,
    flag_eq (given (.switch .useFileNames)), flag_eq (given (.switch .strict)),
    flag_eq (given (.switch .dryRun)), flag_eq (given (.switch .json)),
    flag_eq (given (.switch .verbose))⟩

/-- The settings of a name are all in one place. -/
theorem filter_settings (a : GenerateArguments) (n : Name) :
    a.settings.filter (fun s => s.name = n) = a.given n := by
  have ofName (m : Name) :
      (a.given m).filter (fun s => s.name = n) = if m = n then a.given n else [] := by
    split
    · rename_i same
      subst same
      rw [List.filter_eq_self]
      intro s isGiven
      simpa using name_of_mem_given isGiven
    · rename_i other
      rw [List.filter_eq_nil_iff]
      intro s isGiven
      simpa [name_of_mem_given isGiven] using other
  rw [settings, List.filter_flatMap]
  simp only [ofName]
  cases n with
  | valued v => cases v <;> simp [settingNames, given]
  | switch w => cases w <;> simp [settingNames, given]

/-- Settings in another order, in which the exclude patterns keep theirs, are under each name those
of the arguments. -/
theorem filter_eq_given {order : List Setting} (anyOrder : order.Perm a.settings)
    (inOrder : order.filterMap Setting.pattern? = a.exclude) (n : Name) :
    order.filter (fun s => s.name = n) = a.given n := by
  by_cases excludes : n = .valued .exclude
  · subst excludes
    show _ = a.exclude.map Setting.exclude
    rw [← inOrder, List.map_filterMap, ← List.filterMap_eq_filter]
    apply List.filterMap_congr
    intro s _
    cases s <;> rfl
  · have perm : (order.filter fun s => s.name = n).Perm (a.given n) := by
      rw [← filter_settings]
      exact anyOrder.filter _
    -- one setting has only one order
    match rest : a.given n, length_given_le (a := a) excludes with
    | [], _ => exact List.perm_nil.mp (rest ▸ perm)
    | [s], _ => exact List.perm_singleton.mp (rest ▸ perm)

end GenerateArguments

/-! ## Reading one setting -/

theorem pathValue_text {path : Path} (filled : path.text ≠ "") :
    pathValue path.text = .ok path := by
  simp [pathValue, filled]

theorem formatValue_extension (f : OutputFormat) : formatValue f.extension = .ok f := by
  cases f <;> rfl

namespace State

variable {st : State} {names : Names} {name : String}

/-- The name of an option ends at the first equals sign. -/
theorem forall_mem_ne_equals (plain : '=' ∉ name.toList) :
    ∀ c ∈ name.toList, (c != '=') = true := by
  intro c inName
  rw [bne_iff_ne]
  rintro rfl
  exact plain inName

/-- An option with its value behind an equals sign. -/
theorem takeLong_option (plain : '=' ∉ name.toList) {v : Valued}
    (known : names.long.lookup name = some (.valued v)) (value : String) :
    st.takeLong names (name.toList ++ '=' :: value.toList) = st.assign v value := by
  have before := forall_mem_ne_equals plain
  have first : (name.toList ++ '=' :: value.toList).takeWhile (fun c => c != '=') =
      name.toList := by
    rw [List.takeWhile_append_of_pos before]
    simp
  have rest : (name.toList ++ '=' :: value.toList).dropWhile (fun c => c != '=') =
      '=' :: value.toList := by
    rw [List.dropWhile_append_of_pos before]
    simp
  simp only [takeLong, first, rest, String.ofList_toList, known, List.tail?_cons, Option.map_some]

/-- A flag. -/
theorem takeLong_flag (plain : '=' ∉ name.toList) {w : Switch}
    (known : names.long.lookup name = some (.switch w)) :
    st.takeLong names name.toList = st.turnOn w := by
  have before := forall_mem_ne_equals plain
  have first : name.toList.takeWhile (fun c => c != '=') = name.toList :=
    List.takeWhile_eq_self_iff.mpr before
  have rest : name.toList.dropWhile (fun c => c != '=') = [] :=
    List.dropWhile_eq_nil_iff.mpr before
  simp only [takeLong, first, rest, String.ofList_toList, known, List.tail?_nil, Option.map_none]

/-- An option is taken note of at once. -/
theorem assign_eq {a : GenerateArguments} {paths : List Valued} {v : Valued} {value : String}
    {a' : GenerateArguments} (set : a.set value v = .ok a') :
    ({ arguments := a, paths := paths } : State).assign v value =
      .ok { arguments := a', paths := paths } := by
  show ((a.set value v).map _ : Except UsageError State) = _
  rw [set]
  rfl

end State

namespace Setting

variable {s : Setting} {a : GenerateArguments} {paths : List Valued}

theorem toList_text (s : Setting) :
    s.text.toList = '-' :: '-' ::
      (s.spelling.1.toList ++ s.spelling.2.elim [] fun value => '=' :: value.toList) := by
  cases s <;> simp [text, spelling]

theorem lookup_spelling (s : Setting) : generateNames.long.lookup s.spelling.1 = some s.name := by
  cases s <;> rfl

theorem not_mem_spelling (s : Setting) : '=' ∉ s.spelling.1.toList := by
  cases s <;> simp [spelling]

/-- An option can be set where there is room for it. -/
theorem set_eq (room : a.HasRoom s) (writable : s.Writable) {v : Valued}
    (valued : s.name = .valued v) {value : String} (hasValue : s.spelling.2 = some value) :
    a.set value v = .ok (s.apply a) := by
  -- the field of the option is empty, and so it is not set twice
  cases s <;> cases valued <;> cases hasValue <;>
    simp_all [GenerateArguments.HasRoom, GenerateArguments.given, GenerateArguments.set, name,
      setOnce, pathValue_text, formatValue_extension, Writable] <;>
    rfl

/-- So can a flag. -/
theorem turnOn_eq (room : a.HasRoom s) {w : Switch} (switch : s.name = .switch w) :
    ({ arguments := a, paths := paths } : State).turnOn w =
      .ok { arguments := s.apply a, paths := paths } := by
  cases s <;> cases switch <;>
    simp_all [GenerateArguments.HasRoom, GenerateArguments.given, State.turnOn, State.settle, name,
      switchOnce, bind, Except.bind] <;>
    rfl

/-- One written setting is taken note of. -/
theorem take_text (room : a.HasRoom s) (writable : s.Writable) :
    ({ arguments := a, paths := paths } : State).take generateNames s.text =
      .ok { arguments := s.apply a, paths := paths } := by
  have known := lookup_spelling s
  have plain := not_mem_spelling s
  rw [State.take, toList_text]
  cases kind : s.name with
  | valued v =>
    obtain ⟨value, hasValue⟩ : ∃ value, s.spelling.2 = some value := by
      cases s <;> cases kind <;> exact ⟨_, rfl⟩
    rw [kind] at known
    rw [hasValue]
    exact (State.takeLong_option plain known value).trans
      (State.assign_eq (set_eq room writable kind hasValue))
  | switch w =>
    have noValue : s.spelling.2 = none := by
      cases s <;> cases kind <;> rfl
    rw [kind] at known
    rw [noValue, Option.elim_none, List.append_nil]
    exact (State.takeLong_flag plain known).trans (turnOn_eq room kind)

/-- A written setting is not the two dashes before the paths. -/
theorem text_ne_dashes (s : Setting) : s.text ≠ "--" := by
  intro dashes
  have nothingElse := toList_text s
  rw [dashes] at nothingElse
  cases s <;> simp [spelling] at nothingElse

end Setting

/-! ## Reading them all -/

namespace State

variable {a b : GenerateArguments}

/-- Settings in a row are taken note of one after the other: of the arguments `b`, which have them
after those that have been read, the rest of the command line is read next. -/
theorem takeAll_texts {order : List Setting} (writable : ∀ s ∈ order, s.Writable)
    (given : ∀ n, b.given n = a.given n ++ order.filter fun s => s.name = n)
    (input : b.input = a.input) (output : b.output = a.output) (paths : List Valued)
    (more : List String) :
    ({ arguments := a, paths := paths } : State).takeAll generateNames
        (order.map Setting.text ++ more) =
      ({ arguments := b, paths := paths } : State).takeAll generateNames more := by
  induction order generalizing a with
  | nil =>
    obtain rfl : b = a :=
      GenerateArguments.eq_of_given (fun n => by simpa using given n) input output
    rfl
  | cons s order ih =>
    rw [List.forall_mem_cons] at writable
    -- under its name there is nothing before it, or it excludes files
    have room : a.HasRoom s := by
      by_cases excludes : s.name = .valued .exclude
      · exact Or.inr excludes
      · left
        have few := GenerateArguments.length_given_le (a := b) excludes
        rw [given, List.filter_cons_of_pos (by simp), List.length_append, List.length_cons] at few
        exact List.length_eq_zero_iff.mp (by omega)
    have given' (n : Name) :
        b.given n = (s.apply a).given n ++ order.filter fun s => s.name = n := by
      rw [given n]
      by_cases same : s.name = n
      · subst same
        rw [GenerateArguments.given_apply_self room, List.filter_cons_of_pos (by simp)]
        simp
      · rw [GenerateArguments.given_apply_of_ne same, List.filter_cons_of_neg (by simpa using same)]
    rw [List.map_cons, List.cons_append, takeAll, if_neg s.text_ne_dashes,
      Setting.take_text room writable.1]
    refine ih writable.2 given' ?_ ?_
    · rw [input]
      cases s <;> rfl
    · rw [output]
      cases s <;> rfl

theorem set_input (vacant : a.input = none) {path : Path} (filled : path.text ≠ "") :
    a.set path.text .input = .ok { a with input := some path } := by
  simp only [GenerateArguments.set, vacant, setOnce, pathValue_text filled]
  rfl

theorem set_output (vacant : a.output = none) {path : Path} (filled : path.text ≠ "") :
    a.set path.text .output = .ok { a with output := some path } := by
  simp only [GenerateArguments.set, vacant, setOnce, pathValue_text filled]
  rfl

/-- What has been named last is settled by what it is set to. -/
theorem settle_of_set {v : Valued} {value : String} (set : a.set value v = .ok b)
    (paths : List Valued) :
    ({ arguments := a, pending := some (v, some value), paths := paths } : State).settle =
      .ok { arguments := b, paths := paths } := by
  simp only [settle, set]
  rfl

/-- A path is what is named last, and settles what came before it. -/
theorem takePath_of_settle {st : State} {v : Valued} {paths : List Valued}
    (settled : st.settle = .ok { arguments := a, paths := st.paths })
    (next : st.paths = v :: paths) (text : String) :
    st.takePath text =
      .ok { arguments := a, pending := some (v, some text), paths := paths } := by
  simp only [takePath, next, settled]
  rfl

/-- Arguments with the paths that they have. -/
theorem with_paths {input output : Option Path} (isInput : a.input = input)
    (isOutput : a.output = output) : { a with input := input, output := output } = a := by
  cases a
  cases isInput
  cases isOutput
  rfl

/-- The paths after the dashes are all that remains. -/
theorem takeAll_paths (writable : b.Writable) :
    (({ arguments := { b with input := none, output := none }, paths := [.input, .output] } :
        State).takeAll generateNames ("--" :: b.paths)).map State.arguments = .ok b := by
  obtain ⟨-, input, output, outputAfterInput⟩ := writable
  let before : GenerateArguments := { b with input := none, output := none }
  have reads (texts : List String) :
      ({ arguments := before, paths := [.input, .output] } : State).takeAll generateNames
          ("--" :: texts) =
        (texts.foldlM takePath { arguments := before, paths := [.input, .output] }) >>= settle :=
    rfl
  rw [reads, GenerateArguments.paths]
  cases source : b.input with
  | none =>
    have target : b.output = none := by simpa [source] using outputAfterInput
    rw [target]
    exact congrArg Except.ok (with_paths source target)
  | some path =>
    have readInput : ({ arguments := before, paths := [.input, .output] } : State).takePath
        path.text = _ := takePath_of_settle rfl rfl path.text
    have setInput := settle_of_set (set_input (a := before) rfl (input path source)) [.output]
    cases target : b.output with
    | none =>
      simp only [Option.toList_some, Option.toList_none, List.append_nil, List.map_cons,
        List.map_nil, List.foldlM_cons, List.foldlM_nil, bind_pure]
      simp only [bind, Except.bind, readInput, setInput]
      exact congrArg Except.ok (with_paths source target)
    | some path' =>
      have readOutput := takePath_of_settle setInput rfl path'.text
      have setOutput := settle_of_set
        (set_output (a := { before with input := some path }) rfl (output path' target)) []
      simp only [Option.toList_some, List.cons_append, List.nil_append, List.map_cons,
        List.map_nil, List.foldlM_cons, List.foldlM_nil, bind_pure]
      simp only [bind, Except.bind, readInput, readOutput, setOutput]
      exact congrArg Except.ok (with_paths source target)

end State

/-! ## Reading what is written -/

/-- The settings of arguments that can be written can be written. -/
theorem GenerateArguments.Writable.of_mem {a : GenerateArguments} (writable : a.Writable)
    {s : Setting} (mem : s ∈ a.settings) : s.Writable := by
  have given : s ∈ a.given s.name := by
    rw [← filter_settings]
    exact List.mem_filter.mpr ⟨mem, by simp⟩
  cases s with
  | config path =>
    apply writable.config
    simpa [GenerateArguments.given, Setting.name] using given
  | _ => trivial

/-- What `generate` is told, written as settings in any order in which the exclude patterns keep
theirs, and after two dashes as paths, is what the command line says, whatever the values are. -/
theorem parse_written {a : GenerateArguments} (writable : a.Writable) {order : List Setting}
    (anyOrder : order.Perm a.settings)
    (inOrder : order.filterMap Setting.pattern? = a.exclude) :
    parse ("generate" :: (order.map Setting.text ++ "--" :: a.paths)) = .ok (.generate a) := by
  have settings : ∀ n, ({ a with input := none, output := none } : GenerateArguments).given n =
      ({} : GenerateArguments).given n ++ order.filter fun s => s.name = n := by
    intro n
    rw [GenerateArguments.filter_eq_given anyOrder inOrder]
    -- where nothing has been read there is nothing under a name, and paths are not settings
    cases n with
    | valued v => cases v <;> rfl
    | switch w => cases w <;> rfl
  have read := State.takeAll_texts (fun s mem => writable.of_mem (anyOrder.subset mem)) settings
    rfl rfl [.input, .output] ("--" :: a.paths)
  have rest := State.takeAll_paths writable
  rw [← read] at rest
  show Except.map (fun s : State => Command.generate s.arguments)
    (State.takeAll _ generateNames (order.map Setting.text ++ "--" :: a.paths)) = _
  cases answer : ({ paths := [.input, .output] } : State).takeAll generateNames
      (order.map Setting.text ++ "--" :: a.paths) with
  | error e => simp [answer, Except.map] at rest
  | ok s =>
    obtain rfl : s.arguments = a := by simpa [answer, Except.map] using rest
    rfl

/-- The values look like other options, like the dashes or like a command, and some are empty. -/
theorem parse_written_of_lookalikes :
    let a : GenerateArguments := {
      input := some ⟨"--json"⟩, output := some ⟨"generate"⟩, config := some ⟨"-"⟩
      width := some "--height=3", suffix := some "", format := some .tsx
      outputFile := some "--", exclude := ["=", "", "--exclude=a"], strict := true, json := true }
    let order : List Setting := [.exclude "=", .strict, .width "--height=3", .exclude "",
      .outputFile "--", .suffix "", .json, .config ⟨"-"⟩, .exclude "--exclude=a", .format .tsx]
    a.Writable ∧ order.Perm a.settings ∧ order.filterMap Setting.pattern? = a.exclude ∧
      parse ["generate", "--exclude==", "--strict", "--width=--height=3", "--exclude=",
        "--output-file=--", "--suffix=", "--json", "--config=-", "--exclude=--exclude=a",
        "--format=tsx", "--", "--json", "generate"] = .ok (.generate a) := by
  intro a order
  have writable : a.Writable := {
    config := by simp [a]
    input := by simp [a]
    output := by simp [a]
    outputAfterInput := fun _ => rfl }
  have anyOrder : order.Perm a.settings := by decide
  exact ⟨writable, anyOrder, rfl, parse_written writable anyOrder rfl⟩

end IconForge.CommandLine
