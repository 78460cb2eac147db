import IconForge.Proofs.Path

/-!
# Parents of paths

The parent of a path is taken from its text: the pieces at the end that stand for nothing are cut
off, then one more, then again those that stand for nothing. In the view of components that is the
path without its last component, so that a name in a directory leads back to the directory.

## Main statements

- `parent?_cases`: the parent of a path, by its components.
- `parent_induction`: what goes from parents to paths.
- `getElem?_ancestors`, `exists_mem_ancestors_iff`: the ancestors of a path, in order and by its
  components.
- `parent?_join`, `fileName?_join`: a name in a directory leads to the directory and the name.
- `Canonical.parent?_join`: it leads back to the very text of a directory whose path is canonical.
-/

namespace IconForge

open IconForge.Text

namespace Path

/-! ## Pieces and their text -/

/-- Slashes put back between the pieces of a text give the text. -/
theorem intercalate_splitWhere (cs : List Char) :
    ['/'].intercalate (splitWhere (fun c => c == '/') cs) = cs := by
  rw [splitWhere_eq_splitOnP]
  exact List.intercalate_splitOn '/'

theorem intercalate_append {front back : List (List Char)} (filled : front ≠ [])
    (filled' : back ≠ []) :
    ['/'].intercalate (front ++ back) =
      ['/'].intercalate front ++ '/' :: ['/'].intercalate back := by
  induction front with
  | nil => exact absurd rfl filled
  | cons piece front ih =>
    by_cases last : front = []
    · subst last
      rw [List.singleton_append, List.intercalate_cons_of_ne_nil filled']
      simp
    · rw [List.cons_append, List.intercalate_cons_of_ne_nil (by simp [last]), ih last,
        List.intercalate_cons_of_ne_nil last]
      simp

/-- The text of some pieces has their components. -/
theorem componentsOf_intercalate {row : List (List Char)} (noSlash : ∀ piece ∈ row, '/' ∉ piece) :
    componentsOf (['/'].intercalate row) = row.filterMap componentOf? := by
  by_cases none : row = []
  · subst none
    rfl
  · rw [componentsOf, splitWhere_eq_splitOnP]
    exact congrArg _ (List.splitOn_intercalate '/' noSlash none)

/-! ## Trimming -/

theorem trimPieces_concat (row : List (List Char)) (piece : List Char) :
    trimPieces (row ++ [piece]) =
      if (componentOf? piece).isNone then trimPieces row else row ++ [piece] :=
  List.rdropWhile_concat _ _ _

theorem trimPieces_isPrefix (row : List (List Char)) : trimPieces row <+: row :=
  List.rdropWhile_prefix _ row

/-- What is trimmed stands for nothing. -/
theorem filterMap_trimPieces (row : List (List Char)) :
    (trimPieces row).filterMap componentOf? = row.filterMap componentOf? := by
  induction row using List.reverseRecOn with
  | nil => rfl
  | append_singleton row piece ih =>
    rw [trimPieces_concat]
    split
    · rename_i nothing
      rw [ih, List.filterMap_append]
      simp [Option.isNone_iff_eq_none.mp nothing]
    · rfl

/-- What is left ends with a piece that stands for something. -/
theorem componentOf?_of_trimPieces {row before : List (List Char)} {last : List Char}
    (h : trimPieces row = before ++ [last]) : ∃ component, componentOf? last = some component := by
  induction row using List.reverseRecOn with
  | nil => simp [trimPieces] at h
  | append_singleton row piece ih =>
    rw [trimPieces_concat] at h
    split at h
    · exact ih h
    · rename_i something
      obtain ⟨-, same⟩ := List.append_inj' h rfl
      obtain rfl := (List.cons.inj same).1
      exact Option.ne_none_iff_exists'.mp (by simpa using something)

/-! ## What a path begins with -/

theorem lead_append_drop (cs : List Char) : lead cs ++ cs.drop (lead cs).length = cs := by
  unfold lead
  split <;> rfl

theorem lead_lead (cs : List Char) : lead (lead cs) = lead cs := by
  rw [lead.eq_def cs]
  split <;> rfl

/-- The beginning of a path stays when whole pieces are cut off its end. -/
theorem lead_append_intercalate {cs : List Char} {front back : List (List Char)}
    (row : pieces cs = front ++ back) (cut : back ≠ []) :
    lead (lead cs ++ ['/'].intercalate front) = lead cs := by
  by_cases none : front = []
  · subst none
    simpa using lead_lead cs
  · let kept := lead cs ++ ['/'].intercalate front
    have text : cs = kept ++ '/' :: ['/'].intercalate back := by
      have rest := intercalate_splitWhere (cs.drop (lead cs).length)
      rw [← pieces, row, intercalate_append none cut] at rest
      rw [List.append_assoc, rest, lead_append_drop]
    by_cases filled : kept = []
    · -- a path that begins with a slash keeps it
      have noLead : lead cs = [] := (List.append_eq_nil_iff.mp filled).1
      rw [filled, List.nil_append] at text
      rw [text] at noLead
      simp [lead] at noLead
    · calc lead kept = lead (kept ++ ['/']) := (lead_concat_slash filled).symm
        _ = lead cs := by rw [← lead_append_slash kept (['/'].intercalate back), ← text]

/-- The components of a path from which whole pieces are cut off. -/
theorem components_append_intercalate {cs : List Char} {front back : List (List Char)}
    (row : pieces cs = front ++ back) (cut : back ≠ []) :
    (Path.mk (String.ofList (lead cs ++ ['/'].intercalate front))).components =
      leadComponents (lead cs) ++ front.filterMap componentOf? := by
  have noSlash : ∀ piece ∈ front, '/' ∉ piece := fun piece mem slash => by
    have isPiece : piece ∈ splitWhere (fun c => c == '/') (cs.drop (lead cs).length) := by
      rw [← pieces, row]
      exact List.mem_append_left _ mem
    simpa using not_of_mem_splitWhere isPiece '/' slash
  rw [components_eq, ← componentsOf_drop_lead, String.toList_ofList,
    lead_append_intercalate row cut, List.drop_left, componentsOf_intercalate noSlash]

theorem componentOf?_ne_root (piece : List Char) : componentOf? piece ≠ some .root := by
  unfold componentOf?
  split_ifs <;> simp

/-! ## Parents -/

/-- The parent of a path has all of its components but the last. Only the root and the empty path
have none. -/
theorem parent?_cases (p : Path) :
    (p.parent? = none ∧ (p.components = [] ∨ p.components = [.root])) ∨
      ∃ q last, p.parent? = some q ∧ last ≠ .root ∧ p.components = q.components ++ [last] := by
  let cs := p.text.toList
  have components : p.components =
      leadComponents (lead cs) ++ (trimPieces (pieces cs)).filterMap componentOf? := by
    rw [filterMap_trimPieces]
    rfl
  cases trimmed : (trimPieces (pieces cs)).reverse with
  | nil =>
    -- there is nothing but what the path begins with
    have parent : p.parent? = if lead cs = ['.'] then some ⟨""⟩ else none := by
      rw [parent?, trimmed]
    rw [List.reverse_eq_nil_iff.mp trimmed, List.filterMap_nil, List.append_nil] at components
    by_cases dot : lead cs = ['.']
    · refine Or.inr ⟨⟨""⟩, .here, by simp [parent, dot], by simp, ?_⟩
      rw [components, dot, (components_eq_nil_iff ⟨""⟩).mpr rfl]
      rfl
    · refine Or.inl ⟨by simp [parent, dot], ?_⟩
      rw [components]
      unfold leadComponents
      split <;> simp_all
  | cons last before =>
    have parent : p.parent? =
        some ⟨String.ofList (lead cs ++ ['/'].intercalate (trimPieces before.reverse))⟩ := by
      rw [parent?, trimmed]
    have row : trimPieces (pieces cs) = before.reverse ++ [last] := by
      simpa using congrArg List.reverse trimmed
    obtain ⟨component, stands⟩ := componentOf?_of_trimPieces row
    -- what is cut off are whole pieces, the last of those that stand for something among them
    obtain ⟨tail, rest⟩ := trimPieces_isPrefix before.reverse
    obtain ⟨behind, all⟩ := trimPieces_isPrefix (pieces cs)
    have cut : pieces cs = trimPieces before.reverse ++ (tail ++ [last] ++ behind) :=
      calc pieces cs = before.reverse ++ [last] ++ behind := by rw [← row, all]
        _ = trimPieces before.reverse ++ tail ++ [last] ++ behind := by rw [rest]
        _ = trimPieces before.reverse ++ (tail ++ [last] ++ behind) := by simp
    refine Or.inr ⟨_, component, parent, ?_, ?_⟩
    · rintro rfl
      exact componentOf?_ne_root last stands
    · rw [components_append_intercalate cut (by simp), filterMap_trimPieces, components, row,
        List.filterMap_append]
      simp [stands]

theorem components_of_parent? {p q : Path} (parent : p.parent? = some q) :
    ∃ last, last ≠ .root ∧ p.components = q.components ++ [last] := by
  rcases parent?_cases p with ⟨none, -⟩ | ⟨q', last, parent', notRoot, components⟩
  · rw [parent] at none
    contradiction
  · obtain rfl : q = q' := Option.some.inj (parent.symm.trans parent')
    exact ⟨last, notRoot, components⟩

/-- What holds of paths without a parent, and of a path if it holds of its parent, holds of all
paths. -/
@[elab_as_elim]
theorem parent_induction {motive : Path → Prop} (top : ∀ p, p.parent? = none → motive p)
    (below : ∀ p q, p.parent? = some q → motive q → motive p) (p : Path) : motive p := by
  induction length : p.components.length using Nat.strongRecOn generalizing p with
  | ind n ih =>
    cases parent : p.parent? with
    | none => exact top p parent
    | some q =>
      obtain ⟨last, -, components⟩ := components_of_parent? parent
      refine below p q parent (ih _ ?_ q rfl)
      rw [← length, components, List.length_append]
      exact Nat.lt_succ_self _

/-! ## Ancestors -/

theorem ancestors_of_top {p : Path} (top : p.parent? = none) : p.ancestors = [p] := by
  rw [ancestors, ancestorsUpTo, top]

/-- The ancestors of a path are the path itself and those of its parent. -/
theorem ancestors_of_parent? {p q : Path} (parent : p.parent? = some q) :
    p.ancestors = p :: q.ancestors := by
  obtain ⟨last, -, components⟩ := components_of_parent? parent
  rw [ancestors, ancestorsUpTo, parent, components, List.length_append]
  rfl

/-- The path so many steps above a path, if there is one. -/
def above? (p : Path) : Nat → Option Path
  | 0 => some p
  | n + 1 => p.parent?.bind fun q => q.above? n

/-- The ancestors of a path are all the paths above it, in order. -/
theorem getElem?_ancestors (p : Path) (n : Nat) : p.ancestors[n]? = p.above? n := by
  induction n generalizing p with
  | zero =>
    obtain ⟨above, eq⟩ := exists_ancestors p
    rw [eq]
    rfl
  | succ n ih =>
    rw [above?]
    cases parent : p.parent? with
    | none => rw [ancestors_of_top parent]; rfl
    | some q => rw [ancestors_of_parent? parent, List.getElem?_cons_succ, ih]; rfl


/-- The ancestors of a path, the empty one apart, are what its components begin with. -/
theorem exists_mem_ancestors_iff (p : Path) {front : List Component} (given : front ≠ []) :
    (∃ above ∈ p.ancestors, above.components = front) ↔ front <+: p.components := by
  induction p using parent_induction with
  | top p top =>
    -- the root or the empty path, which has no other beginning
    have components : p.components = [] ∨ p.components = [.root] := by
      rcases parent?_cases p with ⟨-, components⟩ | ⟨q, last, parent, -⟩
      · exact components
      · simp [top] at parent
    simp only [ancestors_of_top top, List.mem_singleton, exists_eq_left]
    constructor
    · rintro rfl
      exact List.prefix_refl _
    · intro below
      rcases components with none | root
      · exact absurd (List.prefix_nil.mp (none ▸ below)) given
      · rw [root] at below ⊢
        exact (below.eq_of_length_le (List.length_pos_of_ne_nil given)).symm
  | below p q parent ih =>
    obtain ⟨last, -, components⟩ := components_of_parent? parent
    rw [ancestors_of_parent? parent, List.exists_mem_cons_iff, ih, components,
      List.prefix_concat_iff, eq_comm (a := front)]

/-! ## Names in a directory -/

variable {name : String}

theorem PlainName.lead_eq_nil (plain : PlainName name) : lead name.toList = [] := by
  have := plain.noSlash
  have := plain.ne_dot
  unfold lead
  split <;> simp_all

/-- A name in a directory that is not written out is that name. -/
theorem components_join_of_empty {dir : Path} (empty : dir.text = "") (plain : PlainName name) :
    (dir.join ⟨name⟩).components = [.name name] := by
  have text : (dir.join ⟨name⟩).text = name := by
    unfold join
    split <;> simp [empty, isEmpty]
  rw [components_eq, text, plain.lead_eq_nil, componentsOf_name plain]
  rfl

/-- A name in a directory is one more component, also if the directory is empty. -/
theorem components_join_name (dir : Path) (plain : PlainName name) :
    (dir.join ⟨name⟩).components = dir.components ++ [.name name] := by
  by_cases empty : dir.text = ""
  · rw [components_join_of_empty empty plain, (components_eq_nil_iff dir).mpr empty]
    rfl
  · exact components_join empty plain

theorem parent?_join (dir : Path) (plain : PlainName name) :
    ∃ q, (dir.join ⟨name⟩).parent? = some q ∧ q.Same dir := by
  have components := components_join_name dir plain
  rcases parent?_cases (dir.join ⟨name⟩) with ⟨-, none | root⟩ | ⟨q, last, parent, -, eq⟩
  · simp [components] at none
  · simp [components, List.append_eq_singleton_iff] at root
  · exact ⟨q, parent, (List.append_inj' (eq.symm.trans components) rfl).1⟩

/-- A path that ends with a name has a parent, and the name in it. -/
theorem parent?_of_fileName? {p : Path} (named : p.fileName? = some name) :
    ∃ q, p.parent? = some q ∧ p.components = q.components ++ [.name name] := by
  have last : p.components.getLast? = some (.name name) := by
    unfold fileName? at named
    split at named
    · rename_i last
      rw [last, Option.some.inj named]
    · contradiction
  rcases parent?_cases p with ⟨-, none | root⟩ | ⟨q, _, parent, -, components⟩
  · simp [none] at last
  · simp [root] at last
  · rw [components, List.getLast?_concat] at last
    exact ⟨q, parent, Option.some.inj last ▸ components⟩

theorem fileName?_join (dir : Path) (plain : PlainName name) :
    (dir.join ⟨name⟩).fileName? = some name := by
  rw [fileName?, components_join_name dir plain, List.getLast?_concat]

/-! ## Canonical paths -/

/-- The path from the root by some names, with one slash between them and none at the end. -/
def rooted (names : List String) : Path := ⟨"/" ++ "/".intercalate names⟩

/-- A path from the root by plain names, as a system gives the path of a directory. -/
def Canonical (p : Path) : Prop := ∃ names, (∀ name ∈ names, PlainName name) ∧ p = rooted names

variable {names : List String}

theorem toList_rooted (names : List String) :
    (rooted names).text.toList = '/' :: ['/'].intercalate (names.map String.toList) := by
  rw [rooted, String.toList_append, String.toList_intercalate]
  rfl

theorem rooted_text_ne_empty (names : List String) : (rooted names).text ≠ "" := by
  simp [← String.toList_inj, toList_rooted]

/-- Only the root ends with a slash. -/
theorem getLast?_rooted (plains : ∀ name ∈ names, PlainName name) :
    (rooted names).text.toList.getLast? = some '/' ↔ names = [] := by
  constructor
  · intro slash
    rcases List.eq_nil_or_concat names with root | ⟨front, last, rfl⟩
    · exact root
    · rw [List.concat_eq_append] at slash plains
      have plain := plains last (by simp)
      -- the text ends as the last name does
      obtain ⟨before, text⟩ : ∃ before,
          (rooted (front ++ [last])).text.toList = before ++ last.toList := by
        rw [toList_rooted, List.map_append]
        by_cases none : front.map String.toList = []
        · rw [none]
          exact ⟨['/'], by simp⟩
        · rw [intercalate_append none (by simp)]
          exact ⟨'/' :: (['/'].intercalate (front.map String.toList) ++ ['/']), by simp⟩
      rw [text, List.getLast?_append_of_ne_nil _ plain.ne_nil] at slash
      exact absurd (List.mem_of_getLast? slash) plain.noSlash
  · rintro rfl
    rfl

/-- One more name goes to the end. -/
theorem rooted_join (plains : ∀ name ∈ names, PlainName name) (plain : PlainName name) :
    (rooted names).join ⟨name⟩ = rooted (names ++ [name]) := by
  have slash := getLast?_rooted plains
  rw [toList_rooted] at slash
  have given : (rooted names).isEmpty = false := by
    simp [isEmpty, rooted_text_ne_empty]
  have text : ((rooted names).join ⟨name⟩).text.toList =
      (rooted (names ++ [name])).text.toList := by
    unfold join
    rw [plain.isAbsolute, given, toList_rooted]
    by_cases root : names = []
    · simp [root, rooted]
    · have filled : names.map String.toList ≠ [] := by simpa using root
      rw [if_neg (by decide)]
      simp [mt slash.mp root, toList_rooted, intercalate_append filled]
  exact congrArg Path.mk (String.toList_inj.mp text)

theorem pieces_rooted (plains : ∀ name ∈ names, PlainName name) (notRoot : names ≠ []) :
    pieces (rooted names).text.toList = names.map String.toList := by
  have noSlash : ∀ piece ∈ names.map String.toList, '/' ∉ piece := by
    intro piece isIn
    obtain ⟨name, isName, rfl⟩ := List.mem_map.mp isIn
    exact (plains name isName).noSlash
  rw [toList_rooted]
  show splitWhere (fun c => c == '/') (['/'].intercalate (names.map String.toList)) = _
  rw [splitWhere_eq_splitOnP]
  exact List.splitOn_intercalate '/' noSlash (by simpa using notRoot)

/-- Names stand for something, so none of them is trimmed. -/
theorem trimPieces_names (plains : ∀ name ∈ names, PlainName name) :
    trimPieces (names.map String.toList) = names.map String.toList := by
  rcases List.eq_nil_or_concat names with rfl | ⟨front, last, rfl⟩
  · rfl
  · rw [List.concat_eq_append] at plains ⊢
    have plain := plains last (by simp)
    rw [List.map_append, List.map_singleton, trimPieces_concat, if_neg]
    simp [componentOf?, plain.ne_nil, plain.ne_dot, plain.ne_dots]

/-- A name in a directory leads back to the directory, text by text, if its path is canonical. -/
theorem Canonical.parent?_join {dir : Path} (canonical : dir.Canonical) (plain : PlainName name) :
    (dir.join ⟨name⟩).parent? = some dir := by
  obtain ⟨names, plains, rfl⟩ := canonical
  have plains' : ∀ other ∈ names ++ [name], PlainName other := by
    intro other isIn
    rcases List.mem_append.mp isIn with isIn | isLast
    · exact plains other isIn
    · rwa [List.mem_singleton.mp isLast]
  rw [rooted_join plains plain, parent?, pieces_rooted plains' (by simp), trimPieces_names plains',
    List.map_append, List.map_singleton, List.reverse_append, List.reverse_singleton,
    List.singleton_append]
  dsimp only
  rw [List.reverse_reverse, trimPieces_names plains, toList_rooted]
  show some (Path.mk (String.ofList ('/' :: ['/'].intercalate (names.map String.toList)))) = _
  rw [← toList_rooted, String.ofList_toList]

end Path

end IconForge
