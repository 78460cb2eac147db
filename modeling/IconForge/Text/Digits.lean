/-!
# Reading digits

Values of digit strings in bases up to sixteen, and fixed-width hexadecimal writing.
-/

namespace IconForge.Text

/-- The value of a digit, in either letter case, whatever the base. -/
def digitValue? (c : Char) : Option Nat :=
  if '0' ≤ c ∧ c ≤ '9' then some (c.toNat - '0'.toNat)
  else if 'a' ≤ c ∧ c ≤ 'f' then some (c.toNat - 'a'.toNat + 10)
  else if 'A' ≤ c ∧ c ≤ 'F' then some (c.toNat - 'A'.toNat + 10)
  else none

/-- The value of a character as a digit of `base`. -/
def digitOf? (base : Nat) (c : Char) : Option Nat :=
  (digitValue? c).filter (· < base)

/-- The number that a non-empty string of digits of `base` writes. -/
def readDigits? (base : Nat) (cs : List Char) : Option Nat :=
  if cs.isEmpty then none
  else cs.foldlM (fun value c => (digitOf? base c).map fun digit => value * base + digit) 0

/-- The lower-case hexadecimal digit for a number below sixteen. -/
def hexDigit (n : Nat) : Char := "0123456789abcdef".toList.getD n '0'

/-- The last `width` hexadecimal digits of a number. -/
def hexPadded : (width : Nat) → Nat → List Char
  | 0, _ => []
  | width + 1, n => hexPadded width (n / 16) ++ [hexDigit (n % 16)]

theorem length_hexPadded (width n : Nat) : (hexPadded width n).length = width := by
  induction width generalizing n with
  | zero => rfl
  | succ width ih => simp [hexPadded, ih]

/-- What is true of all digits is true of the characters that a number is written with. -/
theorem forall_mem_hexPadded {p : Char → Prop} (digits : ∀ k < 16, p (hexDigit k))
    (width n : Nat) : ∀ c ∈ hexPadded width n, p c := by
  induction width generalizing n with
  | zero => simp [hexPadded]
  | succ width ih =>
    intro c mem
    rw [hexPadded] at mem
    rcases List.mem_append.mp mem with mem | mem
    · exact ih _ c mem
    · rw [List.mem_singleton.mp mem]
      exact digits _ (Nat.mod_lt _ (by decide))

end IconForge.Text
