import IconForge.Path
import IconForge.Proofs.Text.Pieces

/-!
# Components of paths

A path is compared by its components, and it is built as a text. Here the two are brought together:
a name that follows a directory adds one component at the end, whatever slashes and dots the
directory is written with, and every name among the components of a path is a plain one.

## Main statements

- `components_join_of_relative`: a path that is seen from a directory has its components too.
- `components_join`: a name in a directory is one more component.
- `Same.join`: what is seen does not depend on how a directory is written.
- `plainName_of_mem_components`: the names among components are plain.
- `components_eq_nil_iff`: only the empty path has no components.
-/

namespace IconForge

open IconForge.Text

namespace Path

/-! ## Names -/

/-- A name that is one component of a path: it is not empty, holds no slash and is not made of one
or two dots. -/
structure PlainName (name : String) : Prop where
  ne_nil : name.toList ≠ []
  noSlash : '/' ∉ name.toList
  ne_dot : name.toList ≠ ['.']
  ne_dots : name.toList ≠ ['.', '.']

/-- What the pieces of a text between slashes stand for. -/
def componentsOf (cs : List Char) : List Component :=
  (splitWhere (fun c => c == '/') cs).filterMap componentOf?

theorem componentsOf_append_slash (before after : List Char) :
    componentsOf (before ++ '/' :: after) = componentsOf before ++ componentsOf after := by
  rw [componentsOf, splitWhere_append_cons (by simp), List.filterMap_append]
  rfl

/-- What a path begins with is nothing between its slashes. -/
theorem componentsOf_drop_lead (cs : List Char) :
    componentsOf (cs.drop (lead cs).length) = componentsOf cs := by
  unfold lead
  split
  · rename_i cs
    exact (componentsOf_append_slash [] cs).symm
  · rfl
  · rename_i cs
    exact (componentsOf_append_slash [] cs).trans (componentsOf_append_slash ['.'] cs).symm
  · rfl

theorem components_eq (p : Path) :
    p.components = leadComponents (lead p.text.toList) ++ componentsOf p.text.toList := by
  rw [← componentsOf_drop_lead]
  rfl

theorem componentsOf_name {name : String} (plain : PlainName name) :
    componentsOf name.toList = [.name name] := by
  have whole : ∀ c ∈ name.toList, (c == '/') = false := by
    intro c mem
    have : c ≠ '/' := by
      rintro rfl
      exact plain.noSlash mem
    simpa using this
  simp [componentsOf, splitWhere_of_forall whole, componentOf?, plain.ne_nil, plain.ne_dot,
    plain.ne_dots, String.ofList_toList]

/-- A piece stands for a name only if the name is plain. -/
theorem plainName_of_mem_componentsOf {cs : List Char} {name : String}
    (mem : .name name ∈ componentsOf cs) : PlainName name := by
  obtain ⟨piece, isPiece, stands⟩ := List.mem_filterMap.mp mem
  have noSlash : '/' ∉ piece := fun slash => by
    simpa using not_of_mem_splitWhere isPiece '/' slash
  unfold componentOf? at stands
  split at stands
  · simp at stands
  · rename_i something
    obtain ⟨ne_nil, ne_dot⟩ := not_or.mp something
    split at stands
    · simp at stands
    · rename_i ne_dots
      obtain rfl : String.ofList piece = name := by simpa using stands
      exact ⟨by simpa using ne_nil, by simpa using noSlash, by simpa using ne_dot,
        by simpa using ne_dots⟩

/-- The names among the components of a path are plain. -/
theorem plainName_of_mem_components {p : Path} {name : String}
    (mem : .name name ∈ p.components) : PlainName name := by
  rw [components_eq, List.mem_append] at mem
  rcases mem with first | later
  · -- a slash or a dot at the beginning is no name
    unfold leadComponents at first
    split at first <;> simp at first
  · exact plainName_of_mem_componentsOf later

/-! ## Names in a directory -/

/-- What a path begins with is decided before its first slash ends. -/
theorem lead_append_slash (before after : List Char) :
    lead (before ++ '/' :: after) = lead (before ++ ['/']) := by
  match before with
  | [] => rfl
  | [c] => by_cases slash : c = '/' <;> by_cases dot : c = '.' <;> simp_all [lead]
  | c :: d :: before =>
    by_cases slash : c = '/' <;> by_cases dot : c = '.' <;> by_cases next : d = '/' <;>
      simp_all [lead]

/-- A slash at the end does not change what a path begins with. -/
theorem lead_concat_slash {cs : List Char} (given : cs ≠ []) : lead (cs ++ ['/']) = lead cs := by
  match cs with
  | [c] => by_cases slash : c = '/' <;> by_cases dot : c = '.' <;> simp_all [lead]
  | c :: d :: cs =>
    by_cases slash : c = '/' <;> by_cases dot : c = '.' <;> by_cases next : d = '/' <;>
      simp_all [lead]

/-- A plain name does not begin at the root. -/
theorem PlainName.isAbsolute {name : String} (plain : PlainName name) :
    (⟨name⟩ : Path).isAbsolute = false := by
  cases first : name.toList with
  | nil => exact absurd first plain.ne_nil
  | cons c cs =>
    have : c ≠ '/' := by
      rintro rfl
      exact plain.noSlash (by simp [first])
    simp [Path.isAbsolute, first, this]

/-- The text of a path seen from a directory, whether the directory ends with a slash or not. -/
theorem join_text (dir : Path) {path : Path} (relative : path.isAbsolute = false) :
    ∃ before, (dir.join path).text.toList = before ++ path.text.toList ∧
      (before = dir.text.toList ∧ (dir.text = "" ∨ ∃ cs, before = cs ++ ['/']) ∨
        before = dir.text.toList ++ ['/']) := by
  unfold join
  simp only [relative, Bool.false_eq_true, if_false]
  by_cases slash : (dir.isEmpty || dir.text.toList.getLast? == some '/') = true
  · refine ⟨dir.text.toList, by simp [slash], Or.inl ⟨rfl, ?_⟩⟩
    rw [Bool.or_eq_true] at slash
    refine slash.imp (by simp [isEmpty]) fun ends => ?_
    exact List.getLast?_eq_some_iff.mp (by simpa using ends)
  · exact ⟨dir.text.toList ++ ['/'], by simp [slash], Or.inr rfl⟩

theorem join_of_isAbsolute (dir : Path) {path : Path} (absolute : path.isAbsolute = true) :
    dir.join path = path := if_pos absolute

/-- A relative path seen from a directory begins where the directory does. -/
theorem isAbsolute_join_of_relative {dir path : Path} (given : dir.text ≠ "")
    (relative : path.isAbsolute = false) : (dir.join path).isAbsolute = dir.isAbsolute := by
  unfold isAbsolute
  cases chars : dir.text.toList with
  | nil => exact absurd (String.toList_inj.mp chars) given
  | cons c cs =>
    obtain ⟨before, text, ⟨rfl, -⟩ | rfl⟩ := join_text dir relative <;> simp [text, chars]

/-- What is seen from an absolute path is absolute. -/
theorem isAbsolute_join {dir : Path} (absolute : dir.isAbsolute = true) (path : Path) :
    (dir.join path).isAbsolute = true := by
  cases relative : path.isAbsolute with
  | true => rw [join_of_isAbsolute dir relative, relative]
  | false =>
    have given : dir.text ≠ "" := by
      intro empty
      simp [isAbsolute, empty] at absolute
    rw [isAbsolute_join_of_relative given relative, absolute]

/-- What is seen from a directory has a text. -/
theorem join_text_ne_empty {dir : Path} (given : dir.text ≠ "") (path : Path) :
    (dir.join path).text ≠ "" := by
  unfold join
  split
  · rename_i absolute
    intro empty
    simp [isAbsolute, empty] at absolute
  · simp [given]

/-- A path seen from a directory has the components of the directory, and then its own. -/
theorem components_join_of_relative {dir path : Path} (given : dir.text ≠ "")
    (relative : path.isAbsolute = false) :
    (dir.join path).components = dir.components ++ componentsOf path.text.toList := by
  have chars : dir.text.toList ≠ [] := by simpa using given
  -- in both cases there is a slash in between, and it adds nothing to the directory
  obtain ⟨cs, joined, same⟩ : ∃ cs,
      (dir.join path).text.toList = cs ++ '/' :: path.text.toList ∧
        leadComponents (lead (cs ++ ['/'])) ++ componentsOf cs = dir.components := by
    obtain ⟨before, text, ⟨rfl, empty | ⟨cs, ends⟩⟩ | rfl⟩ := join_text dir relative
    · exact absurd empty given
    · refine ⟨cs, by simp [text, ends], ?_⟩
      rw [components_eq, ends, componentsOf_append_slash]
      simp [componentsOf, splitWhere, componentOf?]
    · refine ⟨dir.text.toList, by simp [text], ?_⟩
      rw [components_eq, lead_concat_slash chars]
  rw [components_eq, joined, lead_append_slash, componentsOf_append_slash, ← List.append_assoc,
    same]

/-- A name in a directory is one more component. -/
theorem components_join {dir : Path} {name : String} (given : dir.text ≠ "")
    (plain : PlainName name) : (dir.join ⟨name⟩).components = dir.components ++ [.name name] := by
  rw [components_join_of_relative given plain.isAbsolute, componentsOf_name plain]

/-- A text that does not begin with a slash, nor with a dot on its own, has components. -/
theorem componentsOf_ne_nil {c : Char} {cs : List Char} (noSlash : c ≠ '/')
    (noDot : c = '.' → ∃ d ds, cs = d :: ds ∧ d ≠ '/') : componentsOf (c :: cs) ≠ [] := by
  obtain ⟨piece, pieces, eq⟩ :=
    List.exists_cons_of_ne_nil (splitWhere_ne_nil (fun c => c == '/') cs)
  have first : splitWhere (fun c => c == '/') (c :: cs) = (c :: piece) :: pieces := by
    simp [splitWhere, noSlash, eq]
  -- the first piece is more than a dot
  have more : c = '.' → piece ≠ [] := by
    intro dot
    obtain ⟨d, ds, rfl, next⟩ := noDot dot
    rintro rfl
    rw [splitWhere] at eq
    simp only [beq_iff_eq, next, if_false] at eq
    split at eq <;> simp at eq
  have stands : (componentOf? (c :: piece)).isSome = true := by
    unfold componentOf?
    split
    · simp_all
    · split <;> rfl
  obtain ⟨component, stands⟩ := Option.isSome_iff_exists.mp stands
  simp [componentsOf, first, stands]

/-- Only the empty path has no components. -/
theorem components_eq_nil_iff (p : Path) : p.components = [] ↔ p.text = "" := by
  constructor
  · intro none
    rw [components_eq, List.append_eq_nil_iff] at none
    obtain ⟨noLead, noPieces⟩ := none
    cases text : p.text.toList with
    | nil => simpa using text
    | cons c cs =>
      exfalso
      rw [text] at noLead noPieces
      by_cases slash : c = '/'
      · simp [slash, lead, leadComponents] at noLead
      · have noDot : c = '.' → ∃ d ds, cs = d :: ds ∧ d ≠ '/' := by
          rintro rfl
          match cs with
          | [] => simp [lead, leadComponents] at noLead
          | d :: ds =>
            refine ⟨d, ds, rfl, ?_⟩
            rintro rfl
            simp [lead, leadComponents] at noLead
        exact componentsOf_ne_nil slash noDot noPieces
  · intro empty
    simp [components_eq, empty, lead, leadComponents, componentsOf, splitWhere, componentOf?]

/-- Directories with the same components see the same. -/
theorem Same.join {dir dir' : Path} (same : Same dir dir') (path : Path) :
    Same (dir.join path) (dir'.join path) := by
  by_cases absolute : path.isAbsolute = true
  · simp [Path.join, absolute, Same]
  have relative : path.isAbsolute = false := by simpa using absolute
  by_cases empty : dir.text = ""
  · -- only the empty path has no components
    have empty' : dir'.text = "" :=
      (components_eq_nil_iff dir').mp (same.symm.trans ((components_eq_nil_iff dir).mpr empty))
    obtain rfl : dir = dir' := by
      cases dir
      cases dir'
      simp_all
    rfl
  · have given : dir'.text ≠ "" := fun empty' =>
      empty ((components_eq_nil_iff dir).mp (same.trans ((components_eq_nil_iff dir').mpr empty')))
    unfold Same
    rw [components_join_of_relative empty relative, components_join_of_relative given relative, same]

/-- The ancestors of a path begin with the path itself. -/
theorem exists_ancestors (p : Path) : ∃ above, p.ancestors = p :: above := by
  unfold ancestors ancestorsUpTo
  split <;> exact ⟨_, rfl⟩

end Path

end IconForge
