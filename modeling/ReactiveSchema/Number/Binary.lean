/-!
# Binary floating point numbers as exact fractions

A finite floating point number is a whole number times a power of two.  This
module reads one as such, and rounds any fraction to the nearest one, a half
going to the even neighbour.
-/

namespace ReactiveSchema.Number

/-- A floating point number, taken apart. -/
inductive Parts where
  | nan
  | infinite (negative : Bool)
  /-- The number `mantissa * 2 ^ exponent`, with its sign. -/
  | finite (negative : Bool) (mantissa : Nat) (exponent : Int)
  deriving DecidableEq

/-- Half the range of mantissas: the first mantissa of full length. -/
def fullMantissa : Nat := Nat.pow 2 52

/-- The place of the sign among the bits. -/
def signBit : Nat := Nat.pow 2 63

/-- The exponent of the smallest numbers. -/
def leastExponent : Int := -1074

/-- Take the bits of a floating point number apart. -/
def partsOfBits (bits : Nat) : Parts :=
  let negative := decide (signBit ≤ bits)
  let field := bits / fullMantissa % 2048
  let fraction := bits % fullMantissa
  if field = 2047 then
    if fraction = 0 then .infinite negative else .nan
  else if field = 0 then .finite negative fraction leastExponent
  else .finite negative (fullMantissa + fraction) (Int.ofNat field - 1075)

/-- Take a floating point number apart. -/
def parts (x : Float) : Parts :=
  partsOfBits x.toBits.toNat

/-- The sign bit. -/
def isNegative (x : Float) : Bool :=
  match parts x with
  | .finite negative _ _ => negative
  | .infinite negative => negative
  | .nan => false

/-- Infinity of either sign. -/
def infinity (negative : Bool) : Float :=
  Float.ofBits (if negative then 0xfff0000000000000 else 0x7ff0000000000000)

/-- Not a number. -/
def notANumber : Float :=
  Float.ofBits 0x7ff8000000000000

/--
The floating point number `mantissa * 2 ^ exponent`, where the mantissa is at
most `2 ^ 53` and below `2 ^ 52` only at the least exponent.  A number beyond
the range is infinite.
-/
def assemble (negative : Bool) (mantissa : Nat) (exponent : Int) : Float :=
  let magnitude := (exponent - leastExponent).toNat * fullMantissa + mantissa
  let bounded := if magnitude < 2047 * fullMantissa then magnitude else 2047 * fullMantissa
  Float.ofBits (UInt64.ofNat (if negative then bounded + signBit else bounded))

/-- The quotient rounded to the nearest whole number, a half to the even one. -/
def roundDiv (numerator denominator : Nat) : Nat :=
  let quotient := numerator / denominator
  let twice := 2 * (numerator % denominator)
  if twice < denominator then quotient
  else if denominator < twice then quotient + 1
  else if quotient % 2 = 0 then quotient else quotient + 1

theorem roundDiv_within_half (numerator denominator : Nat) (h : 0 < denominator) :
    2 * numerator ≤ 2 * (roundDiv numerator denominator * denominator) + denominator ∧
      2 * (roundDiv numerator denominator * denominator) ≤ 2 * numerator + denominator := by
  have division := Nat.div_add_mod numerator denominator
  have below := Nat.mod_lt numerator h
  have swap : denominator * (numerator / denominator) =
      numerator / denominator * denominator := Nat.mul_comm _ _
  unfold roundDiv
  simp only
  have grown : (numerator / denominator + 1) * denominator =
      numerator / denominator * denominator + denominator := by
    rw [Nat.add_mul, Nat.one_mul]
  split
  · omega
  · split
    · rw [grown]; omega
    · split
      · omega
      · rw [grown]; omega

/-- `numerator / denominator * 2 ^ shift` as one fraction. -/
def scaleByTwo (numerator denominator : Nat) (shift : Int) : Nat × Nat :=
  if 0 ≤ shift then (numerator * Nat.pow 2 shift.toNat, denominator)
  else (numerator, denominator * Nat.pow 2 (-shift).toNat)

/-- The floating point number nearest to a fraction. -/
def nearest (negative : Bool) (numerator denominator : Nat) : Float :=
  if numerator = 0 then assemble negative 0 leastExponent
  else
    let guess : Int := Int.ofNat numerator.log2 - Int.ofNat denominator.log2 - 53
    let start := max guess leastExponent
    let (high, low) := scaleByTwo numerator denominator (-start)
    let exponent := if 2 * fullMantissa ≤ high / low then start + 1 else start
    let (high, low) := scaleByTwo numerator denominator (-exponent)
    assemble negative (roundDiv high low) exponent

/-- The floating point number nearest to a whole number. -/
def ofInt (n : Int) : Float :=
  nearest (n < 0) n.natAbs 1

/-- Is this neither infinite nor not-a-number? -/
def isFinite (x : Float) : Bool :=
  match parts x with
  | .finite .. => true
  | _ => false

/-- A finite number as a signed fraction with a positive denominator. -/
def ratio? (x : Float) : Option (Int × Nat) :=
  match parts x with
  | .finite negative mantissa exponent =>
      let (high, low) := scaleByTwo mantissa 1 exponent
      some (if negative then -Int.ofNat high else Int.ofNat high, low)
  | _ => none

/-- The whole part of a finite number, toward zero. -/
def truncate? (x : Float) : Option Int :=
  (ratio? x).map fun (high, low) => high.tdiv low

/-- The order of a whole number and a floating point number, if there is one. -/
def compareInt (n : Int) (x : Float) : Option Ordering :=
  match parts x with
  | .nan => none
  | .infinite negative => some (if negative then .gt else .lt)
  | .finite .. =>
      match ratio? x with
      | some (high, low) => some (compare (n * low) high)
      | none => none

end ReactiveSchema.Number
