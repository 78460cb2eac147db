import IconForge.Proofs.Store.Disk.Rearranged
import IconForge.Proofs.Text.ByteOrder

/-!
# Listings

A directory is listed by the names of its files that are texts, in ascending order. The system gives
its entries in an order of its own: with distinct names there is only one row of them that ascends,
so that order is not seen in the listing.

## Main statements

- `mem_fileNames`: what is listed.
- `fileNames_perm`: the order of the entries does not matter.
- `ascends_fileNames`: names that are distinct ascend strictly, byte by byte.
- `SameEntries.listed`: what two disks with rearranged entries give.
-/

namespace IconForge.Disk

open IconForge.Text

variable {d d' : Disk} {entries entries' : List Listed} {name : String}

/-! ## Names -/

theorem fromUTF8?_eq_some_iff {bytes : ByteArray} :
    String.fromUTF8? bytes = some name ↔ bytes = name.toUTF8 := by
  constructor
  · intro isText
    unfold String.fromUTF8? at isText
    split at isText
    · obtain rfl := Option.some.inj isText
      rfl
    · contradiction
  · rintro rfl
    exact fromUTF8?_toUTF8 name

/-- What is listed are the files whose names are texts. -/
theorem mem_fileNames :
    name ∈ fileNames entries ↔ ∃ e ∈ entries, e.isFile = true ∧ e.name = name.toUTF8 := by
  simp only [fileNames, List.mem_mergeSort, List.mem_filterMap, List.mem_filter,
    fromUTF8?_eq_some_iff, and_assoc]

/-! ## Order -/

theorem pairwise_fileNames (entries : List Listed) :
    (fileNames entries).Pairwise fun a b => a ≤ b := by
  have sorted : (fileNames entries).Pairwise fun a b => decide (a ≤ b) = true := by
    apply List.pairwise_mergeSort
    · intro a b c first second
      rw [decide_eq_true_eq] at first second ⊢
      exact String.le_trans first second
    · intro a b
      rw [Bool.or_eq_true, decide_eq_true_eq, decide_eq_true_eq]
      exact String.le_total a b
  exact sorted.imp of_decide_eq_true

/-- There is one ascending row of some names. -/
theorem eq_of_perm_of_ascending {names names' : List String} (perm : names.Perm names')
    (ascending : names.Pairwise fun a b => a ≤ b) (ascending' : names'.Pairwise fun a b => a ≤ b) :
    names = names' :=
  perm.eq_of_pairwise (fun _ _ _ _ => String.le_antisymm) ascending ascending'

/-- The order in which the entries are given does not matter. -/
theorem fileNames_perm (perm : entries.Perm entries') : fileNames entries' = fileNames entries := by
  apply eq_of_perm_of_ascending _ (pairwise_fileNames entries') (pairwise_fileNames entries)
  -- both are sorted from the same names
  refine (List.mergeSort_perm _ _).trans (List.Perm.trans ?_ (List.mergeSort_perm _ _).symm)
  exact ((perm.filter _).filterMap _).symm

/-- Distinct entries are listed once. -/
theorem nodup_fileNames (distinct : (entries.map Listed.name).Nodup) :
    (fileNames entries).Nodup := by
  rw [fileNames, (List.mergeSort_perm _ _).nodup_iff]
  have ofNames (es : List Listed) : es.filterMap (fun e => String.fromUTF8? e.name) =
      (es.map Listed.name).filterMap String.fromUTF8? := by
    rw [List.filterMap_map]
    rfl
  rw [ofNames]
  apply List.Nodup.filterMap
  · -- different bytes are no bytes of one text
    intro bytes bytes' text isText isText'
    rw [Option.mem_def, fromUTF8?_eq_some_iff] at isText isText'
    rw [isText, isText']
  · exact distinct.sublist (List.filter_sublist.map _)

/-- Distinct names ascend strictly, byte by byte. -/
theorem ascends_fileNames (distinct : (entries.map Listed.name).Nodup) :
    (fileNames entries).Pairwise fun a b => utf8Bytes a < utf8Bytes b := by
  -- what ascends and does not repeat ascends strictly
  have strict := (pairwise_fileNames entries).and (nodup_fileNames distinct)
  apply strict.imp
  rintro a b ⟨below, differ⟩
  exact utf8Bytes_lt_iff.mpr (lt_of_le_of_ne below differ)

/-! ## Entries in two orders -/

/-- Two orders in which a system gives the entries of one directory, which have distinct names; or
it does not give them, either time for the same reason. -/
inductive SameEntries : Except Failure (List Listed) → Except Failure (List Listed) → Prop
  | refused (failure : Failure) : SameEntries (.error failure) (.error failure)
  | given {entries entries' : List Listed} (perm : entries.Perm entries')
      (distinct : (entries.map Listed.name).Nodup) : SameEntries (.ok entries) (.ok entries')

theorem SameEntries.distinct {given given' : Except Failure (List Listed)}
    (same : SameEntries given given') (isGiven : given = .ok entries) :
    (entries.map Listed.name).Nodup := by
  cases same with
  | refused => contradiction
  | given _ distinct =>
    obtain rfl := Except.ok.inj isGiven
    exact distinct

/-- The entries of a directory, as the system gives them. -/
def Listed.of : String × DiskEntry → Listed := fun (name, e) => ⟨name.toUTF8, e matches .file _⟩

theorem listed_eq (d : Disk) (dir : Path) :
    d.listed dir = (d.findDirectory dir).map fun number => (d.entries number).map Listed.of := by
  rw [listed]
  cases d.findDirectory dir <;> rfl

theorem Rearranged.listed (same : Rearranged d d') (dir : Path) :
    SameEntries (d.listed dir) (d'.listed dir) := by
  rw [listed_eq, listed_eq, same.findDirectory]
  cases d.findDirectory dir with
  | error failure => exact .refused failure
  | ok number =>
    apply SameEntries.given ((same.entries number).map Listed.of)
    -- texts with the same bytes are the same
    have ofKeys : ((d.entries number).map Listed.of).map Listed.name =
        ((d.entries number).map Prod.fst).map String.toUTF8 := by
      rw [List.map_map, List.map_map]
      rfl
    rw [ofKeys]
    exact (same.distinct number).map fun _ _ => String.toByteArray_inj.mp

/-- The listing does not depend on the order in which the entries are given. -/
theorem SameEntries.map_fileNames {given given' : Except Failure (List Listed)}
    (same : SameEntries given given') : given'.map fileNames = given.map fileNames := by
  cases same with
  | refused failure => rfl
  | given perm distinct => exact congrArg Except.ok (fileNames_perm perm)

end IconForge.Disk
