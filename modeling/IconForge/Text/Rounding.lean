/-!
# Rounding quotients

Quotients of natural numbers rounded to whole numbers, to binary fractions of 53 significant bits,
and to tenths. A quotient exactly between two neighbours goes to the even one.
-/

namespace IconForge.Text

/-- The whole number nearest to `num / den`, the even one of two. -/
def roundDiv (num den : Nat) : Nat :=
  let quotient := num / den
  let twice := 2 * (num % den)
  if twice < den ∨ (twice = den ∧ quotient % 2 = 0) then quotient else quotient + 1

/-- The number of binary places that leave 53 significant bits of a quotient that is at least one
and below `2 ^ 53`. -/
def binaryPlaces (num den : Nat) : Nat := 52 - (num / den).log2

/-- A quotient that is at least one and below `2 ^ 53`, in tenths, rounded after it has been rounded
to 53 significant bits. -/
def roundedTenths (num den : Nat) : Nat :=
  let scale := Nat.pow 2 (binaryPlaces num den)
  roundDiv (roundDiv (num * scale) den * 10) scale

end IconForge.Text
