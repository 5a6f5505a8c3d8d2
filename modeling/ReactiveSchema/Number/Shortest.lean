import ReactiveSchema.Number.Binary

/-!
# Decimal digits of floating point numbers

Digits come in two ways: the fewest that read back as the same number, the
nearest of those; or a stated count, rounded with halves to the even digit.
Both work on exact fractions.
-/

namespace ReactiveSchema.Number

/-- Decimal digits and the power of ten of the first one. -/
structure Digits where
  digits : List Nat
  exponent : Int

/-- The decimal digits of a number, most significant first. -/
def decimalDigits (n : Nat) : List Nat :=
  (Nat.toDigits 10 n).map fun c => c.toNat - '0'.toNat

/-- `numerator / denominator * 10 ^ power` as one fraction. -/
def scaleByTen (numerator denominator : Nat) (power : Int) : Nat × Nat :=
  if 0 ≤ power then (numerator * Nat.pow 10 power.toNat, denominator)
  else (numerator, denominator * Nat.pow 10 (-power).toNat)

/-- Is `10 ^ power` at most the fraction? -/
def powerFits (numerator denominator : Nat) (power : Int) : Bool :=
  let (high, low) := scaleByTen numerator denominator (-power)
  low ≤ high

/--
The power of ten of the first digit of a positive fraction.  The logarithm to
base two gives a first guess, which is at most one off.
-/
def leadingPower (numerator denominator : Nat) : Int :=
  let bits : Int := Int.ofNat numerator.log2 - Int.ofNat denominator.log2
  let guess := Int.fdiv (bits * 1233) 4096
  if powerFits numerator denominator (guess + 1) then guess + 1
  else if powerFits numerator denominator guess then guess
  else if powerFits numerator denominator (guess - 1) then guess - 1
  else guess - 2

/-- Drop zeros at the end. -/
def dropTrailingZeros (digits : List Nat) : List Nat :=
  (digits.reverse.dropWhile (· == 0)).reverse

/--
The reals that round to a floating point number: its value and both ends, over
one denominator.  The ends belong to the range when the mantissa is even.
-/
structure Rounding where
  low : Nat
  value : Nat
  high : Nat
  denominator : Nat
  closed : Bool

namespace Rounding

/-- The range of a positive finite number.  Below a power of two it is half as wide. -/
def ofParts (mantissa : Nat) (exponent : Int) : Rounding :=
  let narrow := mantissa == fullMantissa && leastExponent < exponent
  let below := if narrow then 4 * mantissa - 1 else 4 * mantissa - 2
  let scale (n : Nat) : Nat := (scaleByTwo n 1 (exponent - 2)).1
  ⟨scale below, scale (4 * mantissa), scale (4 * mantissa + 2),
    (scaleByTwo 1 1 (exponent - 2)).2, mantissa % 2 == 0⟩

/-- Does the multiple `count` of `10 ^ power` round to the number? -/
def holds (range : Rounding) (power : Int) (count : Nat) : Bool :=
  let (low, unit) := scaleByTen range.low range.denominator (-power)
  let (high, _) := scaleByTen range.high range.denominator (-power)
  if range.closed then low ≤ count * unit && count * unit ≤ high
  else low < count * unit && count * unit < high

/-- The multiple of `10 ^ power` that reads back and lies nearest to the value. -/
def onGrid? (range : Rounding) (power : Int) : Option Nat :=
  let (high, low) := scaleByTen range.value range.denominator (-power)
  let under := high / low
  match range.holds power under, range.holds power (under + 1) with
  | true, true => some (roundDiv high low)
  | true, false => some under
  | false, true => some (under + 1)
  | false, false => none

end Rounding

/-- The first grid with a hit, from `count` digits on; seventeen digits always hit. -/
def shortestFrom (range : Rounding) (lead : Int) : Nat → Nat → Nat × Int
  | 0, _ => (0, 0)
  | fuel + 1, count =>
      let power := lead - Int.ofNat count + 1
      match range.onGrid? power with
      | some multiple => (multiple, power)
      | none => shortestFrom range lead fuel (count + 1)

/-- The fewest digits that read back as the positive number `mantissa * 2 ^ exponent`. -/
def shortest (mantissa : Nat) (exponent : Int) : Digits :=
  if mantissa = 0 then ⟨[0], 0⟩
  else
    let range := Rounding.ofParts mantissa exponent
    let lead := leadingPower range.value range.denominator
    let (multiple, power) := shortestFrom range lead 20 1
    let digits := decimalDigits multiple
    ⟨dropTrailingZeros digits, power + Int.ofNat digits.length - 1⟩

/-- A positive fraction to `count + 1` digits. -/
def significant (numerator denominator count : Nat) : Digits :=
  if numerator = 0 then ⟨List.replicate (count + 1) 0, 0⟩
  else
    let lead := leadingPower numerator denominator
    let (high, low) := scaleByTen numerator denominator (Int.ofNat count - lead)
    let rounded := roundDiv high low
    if Nat.pow 10 (count + 1) ≤ rounded then ⟨decimalDigits (rounded / 10), lead + 1⟩
    else ⟨decimalDigits rounded, lead⟩

/-- A positive fraction to a number of places: the whole digits and the places. -/
def places (numerator denominator count : Nat) : List Nat × List Nat :=
  let rounded := roundDiv (numerator * Nat.pow 10 count) denominator
  let digits := decimalDigits rounded
  let padded := List.replicate (count + 1 - digits.length) 0 ++ digits
  (padded.take (padded.length - count), padded.drop (padded.length - count))

end ReactiveSchema.Number
