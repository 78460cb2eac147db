import Mathlib

/-!
# The order of texts by their bytes

Texts are compared character by character. UTF-8 is made so that comparing their bytes comes to the
same: a smaller character differs from a greater one at some byte, and the first such byte is the
smaller one. So it does not matter what follows either character.

## Main statements

- `encodes_utf8EncodeChar`: the bytes of a character.
- `Encodes.append_lt`: the bytes of a smaller character, whatever follows.
- `utf8Bytes_lt_iff`: the two orders are the same.
-/

namespace IconForge.Text

open String (utf8EncodeChar)

/-! ## Bytes -/

variable {m n : Nat}

theorem ofNat_lt_ofNat (hm : m < 256) (hn : n < 256) :
    UInt8.ofNat m < UInt8.ofNat n ↔ m < n := by
  rw [UInt8.lt_iff_toNat_lt, UInt8.toNat_ofNat_of_lt' hm, UInt8.toNat_ofNat_of_lt' hn]

theorem ofNat_eq_ofNat (hm : m < 256) (hn : n < 256) :
    UInt8.ofNat m = UInt8.ofNat n ↔ m = n := by
  rw [← UInt8.toNat_inj, UInt8.toNat_ofNat_of_lt' hm, UInt8.toNat_ofNat_of_lt' hn]

/-! ## Characters -/

/-- The bytes of the character with a number. The first byte tells how many there are, the others
have six bits of the number each, and no character takes more bytes than it needs. -/
inductive Encodes : Nat → List UInt8 → Prop
  | one {n : Nat} (short : n < 0x80) : Encodes n [.ofNat n]
  | two {n : Nat} (long : 0x80 ≤ n) (short : n < 0x800) :
      Encodes n [.ofNat (n / 64 + 0xc0), .ofNat (n % 64 + 0x80)]
  | three {n : Nat} (long : 0x800 ≤ n) (short : n < 0x10000) :
      Encodes n [.ofNat (n / 4096 + 0xe0), .ofNat (n / 64 % 64 + 0x80), .ofNat (n % 64 + 0x80)]
  | four {n : Nat} (long : 0x10000 ≤ n) (short : n < 0x110000) :
      Encodes n [.ofNat (n / 262144 + 0xf0), .ofNat (n / 4096 % 64 + 0x80),
        .ofNat (n / 64 % 64 + 0x80), .ofNat (n % 64 + 0x80)]

theorem val_lt (c : Char) : c.val.toNat < 0x110000 := by
  rcases c.valid with below | ⟨-, below⟩
  · exact below.trans (by decide)
  · exact below

theorem encodes_utf8EncodeChar (c : Char) : Encodes c.val.toNat (utf8EncodeChar c) := by
  have top := val_lt c
  -- the first byte has room for all that is left of the number, so that nothing is cut off
  fun_cases utf8EncodeChar c with
  | case1 v one => exact .one (by omega)
  | case2 v one two =>
    rw [Nat.mod_eq_of_lt (a := v / 64) (by omega)]
    exact .two (by omega) (by omega)
  | case3 v one two three =>
    rw [Nat.mod_eq_of_lt (a := v / 4096) (by omega)]
    exact .three (by omega) (by omega)
  | case4 v one two three =>
    rw [Nat.mod_eq_of_lt (a := v / 262144) (by omega)]
    exact .four (by omega) (by omega)

/-- The bytes of a smaller character are smaller, whatever follows. -/
theorem Encodes.append_lt {bytes bytes' : List UInt8} (encodes : Encodes m bytes)
    (encodes' : Encodes n bytes') (less : m < n) (rest rest' : List UInt8) :
    bytes ++ rest < bytes' ++ rest' := by
  -- with as many bytes the first that differs decides, and else the first byte of all
  cases encodes <;> cases encodes' <;>
    simp (disch := omega) only [List.cons_append, List.nil_append, List.cons_lt_cons_iff,
      ofNat_lt_ofNat, ofNat_eq_ofNat] <;>
    omega

/-! ## Texts -/

/-- The bytes of a text. -/
def utf8Bytes (text : String) : List UInt8 := text.toUTF8.data.toList

theorem utf8Bytes_eq (text : String) : utf8Bytes text = text.toList.flatMap utf8EncodeChar := by
  have isEncoded : text.toUTF8 = text.toList.utf8Encode := by
    rw [String.toUTF8_eq_toByteArray, ← String.toByteArray_ofList, String.ofList_toList]
  rw [utf8Bytes, isEncoded, List.utf8Encode, List.data_toByteArray]

theorem flatMap_utf8EncodeChar_lt {chars chars' : List Char} (less : chars < chars') :
    chars.flatMap utf8EncodeChar < chars'.flatMap utf8EncodeChar := by
  -- on the order of the characters: at the first that differs, what follows does not matter
  induction less with
  | nil =>
    rename_i c chars'
    rw [List.flatMap_nil, List.flatMap_cons]
    cases bytes : utf8EncodeChar c with
    | nil => exact absurd bytes String.utf8EncodeChar_ne_nil
    | cons => exact List.nil_lt_cons _ _
  | rel smaller =>
    rw [List.flatMap_cons, List.flatMap_cons]
    exact (encodes_utf8EncodeChar _).append_lt (encodes_utf8EncodeChar _) smaller _ _
  | cons _ ih =>
    rw [List.flatMap_cons, List.flatMap_cons]
    exact List.append_left_lt ih

theorem utf8Bytes_lt {a b : String} (less : a < b) : utf8Bytes a < utf8Bytes b := by
  rw [utf8Bytes_eq, utf8Bytes_eq]
  exact flatMap_utf8EncodeChar_lt (String.lt_iff.mp less)

/-- A text comes before another if its bytes do. -/
theorem utf8Bytes_lt_iff {a b : String} : utf8Bytes a < utf8Bytes b ↔ a < b := by
  refine ⟨fun less => ?_, utf8Bytes_lt⟩
  rcases lt_trichotomy a b with before | rfl | after
  · exact before
  · exact absurd less (List.lt_irrefl _)
  · exact absurd less (List.lt_asymm (utf8Bytes_lt after))

end IconForge.Text
