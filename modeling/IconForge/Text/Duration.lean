import IconForge.Text.Rounding

/-!
# Durations

The time between two readings of a clock, and two ways to show a duration: milliseconds in rounded
form for people to watch, and nanoseconds exactly, in the largest unit of which there is at least
one.
-/

namespace IconForge

/-- The readings of a clock in nanoseconds, in the order in which they are taken. -/
abbrev Clock := Nat → Nat

end IconForge

namespace IconForge.Text

/-- The whole milliseconds between two readings of a clock. -/
def milliseconds (begun ended : Nat) : Nat := (ended - begun) / 1000000

/-- Milliseconds below a second as they are, below a minute in seconds with one decimal, and from
then on in minutes and whole seconds. The seconds are rounded to 53 bits before they are rounded to
tenths. -/
def durationText (ms : Nat) : String :=
  if ms < 1000 then toString ms ++ "ms"
  else if ms < 60000 then
    let tenths := roundedTenths ms 1000
    toString (tenths / 10) ++ "." ++ toString (tenths % 10) ++ "s"
  else toString (ms / 60000) ++ "m " ++ toString (ms % 60000 / 1000) ++ "s"

/-- The last `width` decimal digits of a number. -/
def digitsPadded : (width : Nat) → Nat → List Char
  | 0, _ => []
  | width + 1, n => digitsPadded width (n / 10) ++ [Char.ofNat ('0'.toNat + n % 10)]

/-- `n` parts of which `10 ^ places` make a unit, in that unit, without zeros at the end. -/
def inUnit (places n : Nat) : String :=
  let unit := Nat.pow 10 places
  let fraction := (digitsPadded places (n % unit)).reverse.dropWhile fun c => c == '0'
  toString (n / unit) ++
    if fraction.isEmpty then "" else "." ++ String.ofList fraction.reverse

/-- Nanoseconds exactly, in the largest unit of which there is at least one. -/
def exactDurationText (ns : Nat) : String :=
  if 1000000000 ≤ ns then inUnit 9 ns ++ "s"
  else if 1000000 ≤ ns then inUnit 6 ns ++ "ms"
  else if 1000 ≤ ns then inUnit 3 ns ++ "µs"
  else toString ns ++ "ns"

end IconForge.Text
