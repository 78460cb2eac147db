import IconForge.Component.Module
import IconForge.Proofs.Identifier
import IconForge.Proofs.Occurrences
import IconForge.Proofs.Progress.Lines

/-!
# What a module exports

A module is a row of parts, each followed by one blank line, and one line more: the statement that
exports the names of its components. That line is read back without a look at the parts, which may
hold any text, also lines like it.

## Main definitions

- `lastLine?`: the last line of a text, and what is before it.
- `exported?`: the names in an export statement.
- `FirstOccurrences`: a row with all but the first of its repetitions left out.

## Main statements

- `firstOccurrences_eraseDups`: what is left of the names of components.
- `exported?_exportStatement`: an export statement is read back.
- `aggregate_eq`: a module as a row of parts.
- `aggregate_exports`: modules.
-/

namespace IconForge.Component

open IconForge.Text

/-! ## First occurrences -/

/-- The members of a row in the order in which they first occur there, each once. -/
structure FirstOccurrences (row names : List String) : Prop where
  nodup : names.Nodup
  mem_iff : ∀ name, name ∈ names ↔ name ∈ row
  inOrder : names.Pairwise fun a b => row.idxOf a < row.idxOf b

theorem firstOccurrences_eraseDups (row : List String) : FirstOccurrences row row.eraseDups := by
  have inOrder : row.eraseDups.Pairwise fun a b => row.idxOf a < row.idxOf b := by
    induction row using List.reverseRecOn with
    | nil => simp
    | append_singleton row name ih =>
      -- names that have been there before stay where they are
      have before {a : String} (mem : a ∈ row.eraseDups) :
          (row ++ [name]).idxOf a = row.idxOf a :=
        List.idxOf_append_of_mem (List.mem_eraseDups.mp mem)
      have earlier : row.eraseDups.Pairwise fun a b =>
          (row ++ [name]).idxOf a < (row ++ [name]).idxOf b :=
        ih.imp_of_mem fun memA memB less => by rwa [before memA, before memB]
      rw [eraseDups_concat]
      split
      · rwa [List.append_nil]
      · rename_i new
        have alone := List.pairwise_singleton (fun a b => (row ++ [name]).idxOf a <
          (row ++ [name]).idxOf b) name
        refine List.pairwise_append.mpr ⟨earlier, alone, fun a mem b last => ?_⟩
        obtain rfl := List.mem_singleton.mp last
        rw [before mem, List.idxOf_append_of_notMem new]
        exact Nat.lt_add_right _ (List.idxOf_lt_length_iff.mpr (List.mem_eraseDups.mp mem))
  exact
    { nodup := inOrder.imp fun less => by
        rintro rfl
        exact absurd less (Nat.lt_irrefl _)
      mem_iff := fun name => List.mem_eraseDups
      inOrder := inOrder }

/-! ## Export statements -/

/-- Reads on in an export statement where a name begins. -/
def namesFrom? (cs : List Char) : Option (List String) :=
  let name := cs.takeWhile isWordChar
  if name.isEmpty then none
  else
    match h : cs.dropWhile isWordChar with
    | ',' :: ' ' :: rest =>
      have : rest.length < cs.length := Nat.lt_of_succ_lt (length_lt_of_dropWhile_eq h)
      (namesFrom? rest).map (String.ofList name :: ·)
    | [' ', '\x7d', ';'] => some [String.ofList name]
    | _ => none
termination_by cs.length

/-- The names in an export statement, which are letters and digits with a comma and a blank between
any two. -/
def exported? (line : String) : Option (List String) :=
  if line = "export \x7b\x7d;" then some []
  else (line.toList.dropPrefix? "export \x7b ".toList).bind namesFrom?

/-- A name that can stand in an export statement. -/
def IsName (name : String) : Prop := name ≠ "" ∧ ∀ c ∈ name.toList, isWordChar c = true

/-- A name goes up to the next character that is no letter or digit. -/
theorem span_name {name : String} (isName : IsName name) {c : Char} (stops : isWordChar c = false)
    (rest : List Char) :
    (name.toList ++ c :: rest).takeWhile isWordChar = name.toList ∧
      (name.toList ++ c :: rest).dropWhile isWordChar = c :: rest := by
  simp [List.takeWhile_append_of_pos isName.2, List.dropWhile_append_of_pos isName.2, stops]

theorem namesFrom?_last {name : String} (isName : IsName name) :
    namesFrom? (name.toList ++ " \x7d;".toList) = some [name] := by
  obtain ⟨front, back⟩ := span_name isName (show isWordChar ' ' = false by decide) ['\x7d', ';']
  have filled : ¬ name.toList.isEmpty = true := by simpa using isName.1
  show namesFrom? (name.toList ++ [' ', '\x7d', ';']) = some [name]
  rw [namesFrom?]
  simp only [front, if_neg filled]
  split
  · rename_i rest eq
    simp [back] at eq
  · rw [String.ofList_toList]
  · rename_i other
    exact absurd back other

theorem namesFrom?_next {name : String} (isName : IsName name) (rest : List Char) :
    namesFrom? (name.toList ++ ", ".toList ++ rest) = (namesFrom? rest).map (name :: ·) := by
  obtain ⟨front, back⟩ := span_name isName (show isWordChar ',' = false by decide) (' ' :: rest)
  have filled : ¬ name.toList.isEmpty = true := by simpa using isName.1
  have text : name.toList ++ ", ".toList ++ rest = name.toList ++ ',' :: ' ' :: rest := by simp
  rw [text, namesFrom?]
  simp only [front, if_neg filled]
  split
  · rename_i rest' eq
    obtain rfl : rest' = rest := by simpa [back] using eq.symm
    rw [String.ofList_toList]
  · rename_i eq
    simp [back] at eq
  · rename_i other _
    exact absurd back (other rest)

theorem namesFrom?_intercalate {names : List String} (filled : names ≠ [])
    (areNames : ∀ name ∈ names, IsName name) :
    namesFrom? ((", ".intercalate names).toList ++ " \x7d;".toList) = some names := by
  induction names with
  | nil => contradiction
  | cons name names ih =>
    obtain ⟨isName, areNames⟩ := List.forall_mem_cons.mp areNames
    cases names with
    | nil =>
      rw [String.intercalate_singleton]
      exact namesFrom?_last isName
    | cons next names =>
      rw [String.intercalate_cons_cons, String.toList_append, String.toList_append,
        List.append_assoc, namesFrom?_next isName, ih (by simp) areNames, Option.map_some]

theorem toList_exportStatement {names : List String} (filled : names ≠ []) :
    (exportStatement names).toList =
      "export \x7b ".toList ++ ((", ".intercalate names).toList ++ " \x7d;".toList) := by
  simp [exportStatement, filled]

/-- A statement with names has a blank where the other one ends. -/
theorem exportStatement_eq_iff (names : List String) :
    exportStatement names = "export \x7b\x7d;" ↔ names = [] := by
  constructor
  · intro eq
    by_contra filled
    have chars := congrArg String.toList eq
    rw [toList_exportStatement filled] at chars
    simp at chars
  · rintro rfl
    rfl

/-- An export statement is read back. -/
theorem exported?_exportStatement {names : List String}
    (areNames : ∀ name ∈ names, IsName name) : exported? (exportStatement names) = some names := by
  by_cases filled : names = []
  · subst filled
    rfl
  · have other := (exportStatement_eq_iff names).not.mpr filled
    rw [exported?, if_neg other, toList_exportStatement filled,
      List.dropPrefix?_append_of_beq _ (by simp), Option.bind_some,
      namesFrom?_intercalate filled areNames]

/-- An export statement stands on one line. -/
theorem newline_not_mem_exportStatement {names : List String}
    (areNames : ∀ name ∈ names, IsName name) : '\n' ∉ (exportStatement names).toList := by
  by_cases filled : names = []
  · subst filled
    decide
  · have inside : '\n' ∉ (", ".intercalate names).toList := by
      rw [String.toList_intercalate]
      refine newline_not_mem_intercalate (by decide) fun row mem newline => ?_
      obtain ⟨name, isIn, rfl⟩ := List.mem_map.mp mem
      exact absurd ((areNames name isIn).2 _ newline) (by decide)
    rw [toList_exportStatement filled]
    simpa using inside

/-! ## Modules -/

/-- What a module holds before its export statement. -/
def parts (components : List Component) (format : OutputFormat) : List String :=
  format.prelude?.toList ++ components.map Component.source

/-- The last line of a text, if it is ended by a line feed, and what is before it. -/
def lastLine? (text : String) : Option (String × String) :=
  match text.toList.reverse with
  | '\n' :: cs =>
    some (String.ofList (cs.dropWhile fun c => c != '\n').reverse,
      String.ofList (cs.takeWhile fun c => c != '\n').reverse)
  | _ => none

/-- A text that ends with a line feed. -/
def EndsLine (text : String) : Prop := text = "" ∨ ∃ before, text = before ++ "\n"

theorem lastLine?_append {before line : String} (ends : EndsLine before)
    (single : '\n' ∉ line.toList) : lastLine? (before ++ line ++ "\n") = some (before, line) := by
  have inLine : ∀ c ∈ line.toList.reverse, (c != '\n') = true := by
    intro c mem
    rw [bne_iff_ne]
    rintro rfl
    exact single (List.mem_reverse.mp mem)
  have text : (before ++ line ++ "\n").toList.reverse =
      '\n' :: (line.toList.reverse ++ before.toList.reverse) := by
    simp
  rw [lastLine?, text]
  simp only [List.takeWhile_append_of_pos inLine, List.dropWhile_append_of_pos inLine]
  rcases ends with rfl | ⟨front, rfl⟩
  · simp
  · simp

/-- Parts with something between any two of them and after the last one. -/
theorem intercalate_append_of_ne_nil {rows : List String} (filled : rows ≠ []) (between : String) :
    between.intercalate rows ++ between = String.join (rows.map (· ++ between)) := by
  induction rows with
  | nil => contradiction
  | cons row rows ih =>
    cases rows with
    | nil => simp [String.join_cons]
    | cons next rows =>
      rw [String.intercalate_cons_cons, List.map_cons, String.join_cons, String.append_assoc,
        ih (by simp)]

theorem intercalate_eq_empty_iff {rows : List String} (filled : ∀ row ∈ rows, row ≠ "")
    (between : String) : between.intercalate rows = "" ↔ rows = [] := by
  cases rows with
  | nil => simp
  | cons row rows =>
    have first := filled row List.mem_cons_self
    cases rows with
    | nil => simpa using first
    | cons next rows =>
      rw [String.intercalate_cons_cons]
      simp [first]

theorem parts_ne_empty {components : List Component} (filled : ∀ c ∈ components, c.source ≠ "")
    (format : OutputFormat) : ∀ part ∈ parts components format, part ≠ "" := by
  intro part mem
  rcases List.mem_append.mp mem with mem | mem
  · cases format with
    | jsx => simp [OutputFormat.prelude?] at mem
    | tsx =>
      obtain rfl : part = _ := by simpa [OutputFormat.prelude?] using mem
      decide
  · obtain ⟨c, isIn, rfl⟩ := List.mem_map.mp mem
    exact filled c isIn

/-- A module is its parts, each with one blank line after it, and the export statement. -/
theorem aggregate_eq {components : List Component} (filled : ∀ c ∈ components, c.source ≠ "")
    (format : OutputFormat) :
    aggregate components format = String.join ((parts components format).map (· ++ "\n\n")) ++
      exportStatement (exportedNames components) ++ "\n" := by
  have body : declarations components format = "\n\n".intercalate (parts components format) := rfl
  have empty := intercalate_eq_empty_iff (parts_ne_empty filled format) "\n\n"
  rw [aggregate, body]
  by_cases none : parts components format = []
  · simp [none]
  · have isFilled : ¬ ("\n\n".intercalate (parts components format)).isEmpty = true := by
      simpa [empty] using none
    simp only [if_neg isFilled, intercalate_append_of_ne_nil none]

theorem endsLine_join (rows : List String) :
    EndsLine (String.join (rows.map (· ++ "\n\n"))) := by
  induction rows with
  | nil => exact Or.inl rfl
  | cons row rows ih =>
    have blankLine : "\n\n" = "\n" ++ "\n" := rfl
    rw [List.map_cons, String.join_cons]
    rcases ih with none | ⟨before, ends⟩
    · refine Or.inr ⟨row ++ "\n", ?_⟩
      rw [none, String.append_empty, blankLine, String.append_assoc]
    · refine Or.inr ⟨row ++ "\n\n" ++ before, ?_⟩
      simp only [ends, String.append_assoc]

theorem isName_text (id : Identifier) : IsName id.text := by
  refine ⟨fun empty => ?_, word_of_isIdentifier id.isIdentifier_text⟩
  have isIdentifier := id.isIdentifier_text
  rw [empty] at isIdentifier
  exact absurd isIdentifier (by decide)

/-- The names that a module exports can stand in an export statement. -/
theorem isName_exportedNames (components : List Component) :
    ∀ name ∈ exportedNames components, IsName name := by
  intro name mem
  obtain ⟨c, -, rfl⟩ := List.mem_map.mp (List.mem_eraseDups.mp mem)
  exact isName_text c.identifier

/-- The last line of a module exports the names of its components, each once and in the order in
which they first occur, and has a form of its own if there are none. What is before that line are
the declarations of the format, if it has any, and the sources of all components in order, each
followed by one blank line. -/
theorem aggregate_exports {components : List Component} (filled : ∀ c ∈ components, c.source ≠ "")
    (format : OutputFormat) :
    (format.prelude?.isSome ↔ format = .tsx) ∧
    ∃ line names,
      lastLine? (aggregate components format) =
        some (String.join ((parts components format).map (· ++ "\n\n")), line) ∧
      exported? line = some names ∧
      FirstOccurrences (components.map fun c => c.identifier.text) names ∧
      (line = "export \x7b\x7d;" ↔ components = []) := by
  have areNames := isName_exportedNames components
  have empty : exportedNames components = [] ↔ components = [] := by
    simp [List.eq_nil_iff_forall_not_mem, exportedNames]
  refine ⟨by cases format <;> simp [OutputFormat.prelude?],
    exportStatement (exportedNames components), exportedNames components, ?_,
    exported?_exportStatement areNames, firstOccurrences_eraseDups _, ?_⟩
  · rw [aggregate_eq filled]
    exact lastLine?_append (endsLine_join _) (newline_not_mem_exportStatement areNames)
  · rw [exportStatement_eq_iff, empty]

/-- Three components of two names. The source of one looks like a module that has ended, and that of
another has a blank line at its end. -/
theorem aggregate_exports_of_repeated :
    let home : Identifier := ⟨"Home", by decide⟩
    let bell : Identifier := ⟨"Bell", by decide⟩
    let ended := "a\n\nexport \x7b Other \x7d;\n"
    let components : List Component := [⟨home, ended⟩, ⟨bell, "b\n\n"⟩, ⟨home, "c"⟩]
    (∀ c ∈ components, c.source ≠ "") ∧
      aggregate components .jsx = ended ++ "\n\nb\n\n\n\nc\n\nexport \x7b Home, Bell \x7d;\n" ∧
      ∃ line names,
        lastLine? (aggregate components .jsx) =
          some (String.join ((parts components .jsx).map (· ++ "\n\n")), line) ∧
        exported? line = some names ∧
        FirstOccurrences ["Home", "Bell", "Home"] names ∧
        (line = "export \x7b\x7d;" ↔ components = []) := by
  intro home bell ended components
  have filled : ∀ c ∈ components, c.source ≠ "" := by decide
  exact ⟨filled, by decide +kernel, (aggregate_exports filled .jsx).2⟩

end IconForge.Component
