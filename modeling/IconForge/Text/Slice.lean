/-!
# Byte offsets into a text

Places in a document are byte offsets into its UTF-8 form. `slice?` cuts a text between two of
them and refuses a cut that leaves the text or falls inside a character; `slice?_eq_some_iff` says
that it gives just the middle part wherever the text has parts that meet at the offsets.

A program that takes a slice where there is none does not go on: it is a `Crash`.
-/

namespace IconForge

/-- The program breaks off, because it takes a slice of a text where there is none. -/
structure Crash where
  start : Nat
  stop : Nat
  deriving DecidableEq, Repr

end IconForge

namespace IconForge.Text

/-- The number of bytes of a text in UTF-8. -/
def byteSize : List Char → Nat
  | [] => 0
  | c :: cs => c.utf8Size + byteSize cs

/-- The text between the byte offsets `start` and `stop`, if they are in order, inside the text and
between characters. -/
def slice? (text : String) (start stop : Nat) : Option String :=
  if h : start ≤ stop ∧
      String.Pos.Raw.IsValid text ⟨start⟩ ∧ String.Pos.Raw.IsValid text ⟨stop⟩ then
    some (String.extract ⟨⟨start⟩, h.2.1⟩ ⟨⟨stop⟩, h.2.2⟩)
  else none

/-! ## Sizes add up -/

@[simp] theorem byteSize_nil : byteSize [] = 0 := rfl

@[simp] theorem byteSize_cons (c : Char) (cs : List Char) :
    byteSize (c :: cs) = c.utf8Size + byteSize cs := rfl

@[simp] theorem byteSize_append (a b : List Char) :
    byteSize (a ++ b) = byteSize a + byteSize b := by
  induction a with
  | nil => simp
  | cons c cs ih => simp [ih, Nat.add_assoc]

/-- The size of a text is that of its characters. -/
theorem utf8ByteSize_ofList (cs : List Char) :
    (String.ofList cs).utf8ByteSize = byteSize cs := by
  induction cs with
  | nil => rfl
  | cons c cs ih =>
    rw [← List.singleton_append, String.ofList_append, String.utf8ByteSize_append, ih]
    simp

/-! ## Cutting where a part begins or ends -/

/-- An offset after a first part is between characters. -/
theorem isValid_utf8ByteSize (before after : String) :
    String.Pos.Raw.IsValid (before ++ after) ⟨before.utf8ByteSize⟩ :=
  String.Pos.Raw.isValid_iff_exists_append.mpr ⟨before, after, rfl, rfl⟩

/-- A slice is the part of the text that lies between two others. -/
theorem slice?_eq_some_iff {text middle : String} {start stop : Nat} :
    slice? text start stop = some middle ↔
      ∃ before after, text = before ++ middle ++ after ∧ start = before.utf8ByteSize ∧
        stop = start + middle.utf8ByteSize := by
  unfold slice?
  constructor
  · intro h
    split at h
    · rename_i valid
      obtain ⟨le, hstart, hstop⟩ := valid
      simp only [Option.some.injEq] at h
      obtain ⟨before, rest, hb, hstart⟩ := String.Pos.Raw.isValid_iff_exists_append.mp hstart
      obtain ⟨upTo, after, ha, hstop⟩ := String.Pos.Raw.isValid_iff_exists_append.mp hstop
      have hstart : start = before.utf8ByteSize := congrArg String.Pos.Raw.byteIdx hstart
      have hstop : stop = upTo.utf8ByteSize := congrArg String.Pos.Raw.byteIdx hstop
      have hm : middle.toByteArray = text.toByteArray.extract start stop := by
        rw [← h, String.toByteArray_extract]
      have hsize : text.utf8ByteSize = upTo.utf8ByteSize + after.utf8ByteSize := by
        rw [ha, String.utf8ByteSize_append]
      have hbefore : before.toByteArray = text.toByteArray.extract 0 start := by
        rw [hb, String.toByteArray_append, ByteArray.extract_append_eq_left]
        exact hstart
      have hafter : after.toByteArray = text.toByteArray.extract stop text.utf8ByteSize := by
        rw [hsize, ha, String.toByteArray_append, ByteArray.extract_append_eq_right]
        · exact hstop
        · rfl
      refine ⟨before, after, ?_, hstart, ?_⟩
      · apply String.toByteArray_inj.mp
        rw [String.toByteArray_append, String.toByteArray_append, hbefore, hm, hafter,
          ← ByteArray.extract_eq_extract_append_extract start (Nat.zero_le _) le,
          ← ByteArray.extract_eq_extract_append_extract stop (Nat.zero_le _) (by omega)]
        exact ByteArray.extract_zero_size.symm
      · have := congrArg ByteArray.size hm
        simp only [ByteArray.size_extract, String.size_toByteArray] at this
        omega
    · simp at h
  · rintro ⟨before, after, rfl, rfl, rfl⟩
    have hstart := isValid_utf8ByteSize before (middle ++ after)
    have hstop := isValid_utf8ByteSize (before ++ middle) after
    rw [← String.append_assoc] at hstart
    rw [String.utf8ByteSize_append] at hstop
    rw [dif_pos ⟨Nat.le_add_right _ _, hstart, hstop⟩, Option.some.injEq]
    apply String.toByteArray_inj.mp
    have first : (before.toByteArray ++ middle.toByteArray).extract before.utf8ByteSize
        (before.utf8ByteSize + middle.utf8ByteSize) = middle.toByteArray :=
      ByteArray.extract_append_eq_right rfl rfl
    have parts : (before ++ middle ++ after).toByteArray.extract before.utf8ByteSize
        (before.utf8ByteSize + middle.utf8ByteSize) = middle.toByteArray := by
      rw [String.toByteArray_append, String.toByteArray_append, ByteArray.extract_append, first]
      simp [String.size_toByteArray]
    exact parts

end IconForge.Text
