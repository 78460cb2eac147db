import IconForge.Text.Rounding

/-!
# Binary floating point numbers

Numbers with 53 significant bits and eleven bits of exponent, as exact fractions. `ofDecimal` gives
the number nearest to a decimal one, and `shortestDigits` the shortest decimal number that it is
nearest to.
-/

namespace IconForge.Text

/-- A floating point number; a finite one is `mantissa * 2 ^ exponent` with its sign. -/
inductive Binary where
  | finite (negative : Bool) (mantissa : Nat) (exponent : Int)
  | infinite (negative : Bool)
  | nan
  deriving DecidableEq, Repr

namespace Binary

/-- `base ^ n` for a natural `n`, and 1 for a negative one. -/
def power (base : Nat) (n : Int) : Nat := base.pow n.toNat

/-! ## Nearest numbers -/

/-- The first number that is too large for a mantissa. -/
def mantissaLimit : Nat := Nat.pow 2 53

/-- The smallest exponent of a finite number. -/
def minExponent : Int := -1074

/-- The exponent with which the mantissa of `num / den` has 53 bits, but no less than the
smallest. -/
def exponentOf (num den : Nat) : Int :=
  let low : Int := (num.log2 : Int) - (den.log2 : Int) - 53
  let floor := num * power 2 (-low) / (den * power 2 low)
  let exponent := if floor < mantissaLimit then low else low + 1
  if exponent < minExponent then minExponent else exponent

/-- The number nearest to `num / den`, of two the one with the even mantissa. -/
def ofFraction (negative : Bool) (num den : Nat) : Binary :=
  if num = 0 then .finite negative 0 minExponent
  else
    let exponent := exponentOf num den
    let mantissa := roundDiv (num * power 2 (-exponent)) (den * power 2 exponent)
    let (mantissa, exponent) :=
      if mantissa = mantissaLimit then (mantissa / 2, exponent + 1) else (mantissa, exponent)
    if 971 < exponent then .infinite negative else .finite negative mantissa exponent

/-- The number nearest to `digits * 10 ^ exponent`. Exponents at which it can only be infinite or
zero are not computed with. -/
def ofDecimal (negative : Bool) (digits : Nat) (exponent : Int) : Binary :=
  let magnitude : Int := (toString digits).length + exponent
  if digits = 0 ∨ magnitude < -400 then .finite negative 0 minExponent
  else if 400 < magnitude then .infinite negative
  else ofFraction negative (digits * power 10 exponent) (power 10 (-exponent))

/-! ## Shortest digits -/

/-- Whether `decimal * 10 ^ place` rounds to `mantissa * 2 ^ exponent`, for a mantissa that is not
zero: it lies between the middles to the neighbouring numbers, or on one if the mantissa is even.
Below a power of two the neighbour is twice as near. -/
def roundsTo (mantissa : Nat) (exponent : Int) (decimal : Nat) (place : Int) : Bool :=
  let down := if 2 * mantissa = mantissaLimit ∧ minExponent < exponent then 1 else 2
  let value := 4 * decimal * power 10 place * power 2 (-exponent)
  let unit := power 10 (-place) * power 2 exponent
  let (low, high) := ((4 * mantissa - down) * unit, (4 * mantissa + 2) * unit)
  if mantissa % 2 = 0 then low ≤ value && value ≤ high else low < value && value < high

/-- How many decimal digits stand before the point of `mantissa * 2 ^ exponent`, or how many zeros,
counted negatively, after it. -/
def decimalMagnitude (mantissa : Nat) (exponent : Int) : Int :=
  if 0 ≤ exponent then (toString (mantissa * power 2 exponent)).length
  else
    -- counted in units of `10 ^ -400`, which leaves digits of every number that is not zero
    (toString (mantissa * power 10 400 / power 2 (-exponent))).length - 400

/-- The decimal with `count` digits, or the power of ten after them, that is nearest to a number and
rounds to it, if one does. -/
def digitsWith? (mantissa : Nat) (exponent : Int) (count : Nat) : Option (Nat × Int) :=
  let place := decimalMagnitude mantissa exponent - count
  let num := mantissa * power 2 exponent * power 10 (-place)
  let den := power 2 (-exponent) * power 10 place
  let floor := num / den
  let nearest := if 2 * (num % den) < den then [floor, floor + 1] else [floor + 1, floor]
  (nearest.find? fun decimal => roundsTo mantissa exponent decimal place).map fun decimal =>
    if decimal = power 10 count then (1, place + count) else (decimal, place)

/-- The fewest decimal digits that round to a number that is not zero, and the place of the last.
Seventeen are always enough. -/
def shortestDigits (mantissa : Nat) (exponent : Int) : Nat × Int :=
  ((List.range' 1 17).findSome? (digitsWith? mantissa exponent)).getD (mantissa, exponent)

/-! ## Text -/

/-- `digits * 10 ^ place` with a point, and at least one digit on either side of it. -/
def positional (digits : Nat) (place : Int) : String :=
  if 0 ≤ place then toString (digits * power 10 place) ++ ".0"
  else
    let fraction := place.natAbs
    let ds := (toString digits).toList
    let ds := List.replicate (fraction + 1 - ds.length) '0' ++ ds
    String.ofList (ds.take (ds.length - fraction) ++ '.' :: ds.drop (ds.length - fraction))

/-- A number in words: the fewest digits that read back, never with an exponent. -/
def describe : Binary → String
  | nan => "NaN"
  | infinite negative => if negative then "-inf" else "inf"
  | finite negative mantissa exponent =>
    let (digits, place) :=
      if mantissa = 0 then (0, 0) else shortestDigits mantissa exponent
    (if negative then "-" else "") ++ positional digits place

end Binary

end IconForge.Text
