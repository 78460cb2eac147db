import IconForge.Proofs.Answers
import IconForge.Proofs.Path
import IconForge.Proofs.Store.Disk.Changes

/-!
# Names in directories

The path of a name in a directory goes the way of the directory and then on to the name, whether the
directory is written with a slash at its end or not. So it has that directory around its last name,
and leads to what the directory holds under that name.

## Main statements

- `piecesOf_join`: the pieces of the path of a name in a directory.
- `fileName?_of_readText`: a file that can be read is at a path that ends with a name.
- `around_join_iff`, `lastName_join`: the directory around it.
- `resolve_join`: where it leads.
-/

namespace IconForge.Disk

open IconForge.Text

variable {d : Disk} {dir : Path} {name : String} {number : Nat}

theorem isName_of_plain (plain : Path.PlainName name) : IsName name := by
  refine ⟨?_, ?_, ?_⟩
  · rintro rfl
    exact plain.ne_nil rfl
  · rintro rfl
    exact plain.ne_dot rfl
  · rintro rfl
    exact plain.ne_dots rfl

/-! ## Paths that go on with a name -/

/-- A slash at the end of a directory is an empty piece, which is not there when a name follows. -/
theorem piecesOf_join (given : dir.text ≠ "") (plain : Path.PlainName name) :
    ∃ front, (piecesOf dir.text = front ∨ piecesOf dir.text = front ++ [""]) ∧
      piecesOf (dir.join ⟨name⟩).text = front ++ [name] := by
  have whole : splitWhere (fun c => c == '/') name.toList = [name.toList] := by
    apply splitWhere_of_forall
    intro c isIn
    simpa using fun slash : c = '/' => plain.noSlash (slash ▸ isIn)
  have joined (cs : List Char) : splitWhere (fun c => c == '/') (cs ++ ['/'] ++ name.toList) =
      splitWhere (fun c => c == '/') cs ++ [name.toList] := by
    rw [List.append_assoc, List.singleton_append, splitWhere_append_cons (by simp), whole]
  obtain ⟨before, text, ⟨rfl, empty | ⟨cs, ends⟩⟩ | rfl⟩ := Path.join_text dir plain.isAbsolute
  · exact absurd empty given
  · refine ⟨(splitWhere (fun c => c == '/') cs).map String.ofList, Or.inr ?_, ?_⟩
    · rw [piecesOf, ends, splitWhere_append_cons (by simp), List.map_append]
      rfl
    · rw [piecesOf, text, ends, joined]
      simp
  · refine ⟨piecesOf dir.text, Or.inl rfl, ?_⟩
    rw [piecesOf, text, joined]
    simp [piecesOf]

theorem exists_text_join (dir : Path) (plain : Path.PlainName name) :
    ∃ more, (dir.join ⟨name⟩).text = dir.text ++ more := by
  obtain ⟨before, text, ⟨rfl, -⟩ | rfl⟩ := Path.join_text dir plain.isAbsolute
  · exact ⟨name, String.toList_inj.mp (by simp [text])⟩
  · exact ⟨"/" ++ name, String.toList_inj.mp (by simp [text])⟩

/-- What is in a directory starts where the directory does. -/
theorem start_join (d : Disk) (given : dir.text ≠ "") (plain : Path.PlainName name) :
    d.start (dir.join ⟨name⟩) = d.start dir := by
  rw [Disk.start, Path.isAbsolute_join_of_relative given plain.isAbsolute, Disk.start]

theorem checkPath_eq_ok_iff {path : Path} :
    checkPath path = .ok () ↔ '\x00' ∉ path.text.toList ∧ path.text ≠ "" ∧
      path.text.utf8ByteSize < pathSizeLimit := by
  unfold checkPath
  split
  · simp_all
  · split
    · simp_all [Path.isEmpty]
    · split <;> simp_all [Path.isEmpty]

/-- A path that is taken with a name at its end is also taken without it. -/
theorem checkPath_of_join (given : dir.text ≠ "") (plain : Path.PlainName name)
    (h : checkPath (dir.join ⟨name⟩) = .ok ()) : checkPath dir = .ok () := by
  obtain ⟨more, text⟩ := exists_text_join dir plain
  rw [checkPath_eq_ok_iff, text] at h
  obtain ⟨noZero, -, short⟩ := h
  rw [String.utf8ByteSize_append] at short
  refine checkPath_eq_ok_iff.mpr ⟨?_, given, by omega⟩
  intro zero
  exact noZero (by simp [zero])

/-! ## Paths that end with a name -/

theorem fileName?_of_piecesOf {path : Path} {front : List String}
    (pieces : piecesOf path.text = front ++ [name]) (named : IsName name) :
    path.fileName? = some name := by
  obtain ⟨row, last, all, -, lastly⟩ := List.map_eq_append_iff.mp pieces
  obtain ⟨piece, rfl, rfl⟩ := List.map_eq_singleton_iff.mp lastly
  obtain ⟨notEmpty, notDot, notDots⟩ := named
  have stands : Path.componentOf? piece = some (.name (String.ofList piece)) := by
    unfold Path.componentOf?
    rw [if_neg, if_neg]
    · rintro rfl
      exact notDots rfl
    · rintro (rfl | rfl)
      · exact notEmpty rfl
      · exact notDot rfl
  rw [Path.fileName?, Path.components_eq, Path.componentsOf, all, List.filterMap_append,
    ← List.append_assoc]
  simp [stands]

/-- A file that can be read is at a path that ends with a name. -/
theorem fileName?_of_readText {path : Path} {text : String} (read : d.readText path = .ok text) :
    ∃ name, path.fileName? = some name := by
  obtain ⟨target, resolved, isText⟩ := bind_eq_ok.mp read
  obtain ⟨-, -, walked⟩ := bind_eq_ok.mp resolved
  cases target with
  | directory | vacant => contradiction
  | file around name bytes =>
    obtain ⟨front, last, pieces, named⟩ := (walk_eq_iff.mp walked).ends_with_name rfl
    exact ⟨last, fileName?_of_piecesOf pieces named⟩

/-! ## The directory around a name -/

theorem trimmed_join {front : List String} (plain : Path.PlainName name)
    (pieces : piecesOf (dir.join ⟨name⟩).text = front ++ [name]) :
    trimmed (dir.join ⟨name⟩) = front ++ [name] := by
  rw [trimmed, pieces]
  simp [(isName_of_plain plain).1]

/-- The way to a directory does not depend on a slash at its end. -/
theorem way_slash_iff {links start : Nat} {front : List String} :
    Way d .look links start (front ++ [""]) (.ok (.directory number)) ↔
      Way d .look links start front (.ok (.directory number)) := by
  have stays (left there : Nat) : Way d .look left there [""] (.ok (.directory there)) :=
    .stay (Or.inl rfl) .done
  constructor
  · intro way
    obtain ⟨there, left, first, second⟩ := way.of_append (by simp)
    obtain rfl : number = there := by simpa using second.unique (stays left there)
    exact first
  · intro way
    have more : [""] ≠ ([] : List String) := by simp
    rcases way.append more with ⟨e, failed, -⟩ | ⟨there, left, eq, leads⟩
    · contradiction
    · obtain rfl : number = there := by simpa using eq
      exact leads _ (stays left number)

/-- What is in a directory has that directory around it. -/
theorem around_join_iff (given : dir.text ≠ "") (plain : Path.PlainName name)
    (checked : checkPath dir = .ok ()) :
    d.around (dir.join ⟨name⟩) = .ok number ↔ d.findDirectory dir = .ok number := by
  obtain ⟨front, pieces, joined⟩ := piecesOf_join given plain
  rw [around_eq_ok_iff, trimmed_join plain joined, List.dropLast_concat, start_join d given plain,
    findDirectory_eq_ok_iff, resolve_eq_ok_iff, and_iff_right checked]
  rcases pieces with eq | eq
  · rw [eq]
  · rw [eq, way_slash_iff]

theorem lastPiece?_join (given : dir.text ≠ "") (plain : Path.PlainName name) :
    lastPiece? (dir.join ⟨name⟩) = some name := by
  obtain ⟨front, -, joined⟩ := piecesOf_join given plain
  obtain ⟨-, noDot, noDots⟩ := isName_of_plain plain
  rw [lastPiece?, trimmed_join plain joined, List.getLast?_concat]
  simp [Option.filter, noDot, noDots]

/-- The last name of a path of a name in a directory. -/
theorem lastName_join (plain : Path.PlainName name) (short : name.utf8ByteSize ≤ maxNameSize)
    (checked : checkPath (dir.join ⟨name⟩) = .ok ()) (found : d.findDirectory dir = .ok number) :
    d.lastName (dir.join ⟨name⟩) = .ok ⟨number, some name, false⟩ := by
  have checkedDir := (resolve_eq_ok_iff.mp (findDirectory_eq_ok_iff.mp found)).1
  have given := (checkPath_eq_ok_iff.mp checkedDir).2.1
  have isLast := lastPiece?_join given plain
  obtain ⟨front, -, joined⟩ := piecesOf_join given plain
  refine lastName_eq_ok_iff.mpr ⟨checked, (around_join_iff given plain checkedDir).mpr found, ?_,
    isLast.symm, ?_⟩
  · intro other isOther
    obtain rfl : name = other := Option.some.inj (isLast.symm.trans isOther)
    exact short
  · rw [trimmed_join plain joined, joined]
    simp

/-- The path of a name in a directory leads to what the directory holds under that name, if that is
a file or nothing. -/
theorem resolve_join (plain : Path.PlainName name) (short : name.utf8ByteSize ≤ maxNameSize)
    (checked : checkPath (dir.join ⟨name⟩) = .ok ()) (found : d.findDirectory dir = .ok number) :
    (d.child? number name = none →
      d.resolve .look (dir.join ⟨name⟩) = .ok (.vacant number name)) ∧
    ∀ bytes, d.child? number name = some (.file bytes) →
      d.resolve .look (dir.join ⟨name⟩) = .ok (.file number name bytes) := by
  obtain ⟨named, passes, left, slashes, -, noSlash, leads⟩ :=
    resolve_of_lastName (lastName_join plain short checked found)
  obtain rfl := noSlash rfl
  exact ⟨fun free => leads _ (.vacant named passes free),
    fun bytes isThere => leads _ (.file named passes isThere)⟩

/-- A path of a name in a directory that leads somewhere leads through that directory. -/
theorem findDirectory_of_resolve_join (given : dir.text ≠ "") (plain : Path.PlainName name)
    {target : Target} (h : d.resolve .look (dir.join ⟨name⟩) = .ok target) :
    ∃ number, d.findDirectory dir = .ok number := by
  obtain ⟨checked, way⟩ := resolve_eq_ok_iff.mp h
  have checkedDir := checkPath_of_join given plain checked
  obtain ⟨front, -, joined⟩ := piecesOf_join given plain
  rw [joined] at way
  obtain ⟨number, left, first, -⟩ := way.of_append (by simp)
  refine ⟨number, (around_join_iff given plain checkedDir).mp ?_⟩
  rw [around_eq_ok_iff, trimmed_join plain joined, List.dropLast_concat]
  exact first

/-- Nothing can be written in a file. -/
theorem isOk_replaceFile_of_file (wf : d.WellFormed) (given : dir.text ≠ "")
    (plain : Path.PlainName name) {around : Nat} {other : String} {bytes : ByteArray}
    (isFile : d.resolve .look dir = .ok (.file around other bytes)) (text : String) :
    (d.replaceFile (dir.join ⟨name⟩) text).isOk = false := by
  cases written : d.replaceFile (dir.join ⟨name⟩) text with
  | error e => rfl
  | ok d' =>
    obtain ⟨number, last, isLast, -⟩ := replaceFile_ok wf written
    have found := (around_join_iff given plain (resolve_eq_ok_iff.mp isFile).1).mp
      (lastName_eq_ok_iff.mp isLast).2.1
    rw [findDirectory_eq_ok_iff, isFile] at found
    simp at found

end IconForge.Disk
