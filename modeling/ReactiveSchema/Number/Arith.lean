import ReactiveSchema.Number.Binary

/-!
# Arithmetic on mixed numbers

Whole numbers are unbounded, and an operation on two of them is exact except
for division.  As soon as one operand is a floating point number the other is
rounded to one, and as soon as one is complex both are.
-/

namespace ReactiveSchema.Number

/-- A number of one of the three kinds. -/
inductive Num where
  | int (n : Int)
  | float (x : Float)
  | complex (re im : Float)
  deriving DecidableEq

/-- Why an operation on numbers has no result. -/
inductive ArithFault where
  | intDivisionByZero
  | intModuloByZero
  | floatDivisionByZero
  | floatModuloByZero
  | complexDivisionByZero
  | zeroToNegativePower
  | complexZeroToPower
  | quotientTooLarge
  | intTooLarge
  | powerOutOfRange
  | complexPowerOutOfRange
  /-- The operation does not exist for numbers of these kinds. -/
  | unsupported
  deriving DecidableEq

namespace Num

/-- A whole number as a floating point number, unless it is beyond the range. -/
def floatOfInt (n : Int) : Except ArithFault Float :=
  let x := ofInt n
  if isFinite x then .ok x else .error .intTooLarge

/-- The floating point number a real operand stands for. -/
def toFloat : Num → Except ArithFault Float
  | .int n => floatOfInt n
  | .float x => .ok x
  | .complex re _ => .ok re

/-- Both parts of an operand taken as a complex number. -/
def toComplex : Num → Except ArithFault (Float × Float)
  | .int n => (floatOfInt n).map fun x => (x, 0.0)
  | .float x => .ok (x, 0.0)
  | .complex re im => .ok (re, im)

/-- Is the operand complex? -/
def isComplex : Num → Bool
  | .complex .. => true
  | _ => false

/-- Does the number count as zero? -/
def isZero : Num → Bool
  | .int n => n == 0
  | .float x => x == 0.0
  | .complex re im => re == 0.0 && im == 0.0

/-- Apply the operation that suits the kinds of both operands. -/
def lift (onInt : Int → Int → Except ArithFault Num)
    (onFloat : Float → Float → Except ArithFault Num)
    (onComplex : Float × Float → Float × Float → Except ArithFault Num) :
    Num → Num → Except ArithFault Num
  | .int a, .int b => onInt a b
  | a, b =>
      if a.isComplex || b.isComplex then do
        let left ← a.toComplex
        let right ← b.toComplex
        onComplex left right
      else do
        let left ← a.toFloat
        let right ← b.toFloat
        onFloat left right

/-- The complex number of a pair. -/
def ofPair (z : Float × Float) : Num :=
  .complex z.1 z.2

/-- The sum. -/
def add : Num → Num → Except ArithFault Num :=
  lift (fun a b => .ok (.int (a + b))) (fun a b => .ok (.float (a + b)))
    fun a b => .ok (.complex (a.1 + b.1) (a.2 + b.2))

/-- The difference. -/
def sub : Num → Num → Except ArithFault Num :=
  lift (fun a b => .ok (.int (a - b))) (fun a b => .ok (.float (a - b)))
    fun a b => .ok (.complex (a.1 - b.1) (a.2 - b.2))

/-- The product of two complex numbers. -/
def complexMul (a b : Float × Float) : Float × Float :=
  (a.1 * b.1 - a.2 * b.2, a.1 * b.2 + a.2 * b.1)

/-- The product. -/
def mul : Num → Num → Except ArithFault Num :=
  lift (fun a b => .ok (.int (a * b))) (fun a b => .ok (.float (a * b)))
    fun a b => .ok (ofPair (complexMul a b))

/-- The quotient of two complex numbers, scaled by the larger part of the divisor. -/
def complexDiv (a b : Float × Float) : Except ArithFault (Float × Float) :=
  let re := b.1.abs
  let im := b.2.abs
  if re >= im then
    if re == 0.0 then .error .complexDivisionByZero
    else
      let ratio := b.2 / b.1
      let scale := b.1 + b.2 * ratio
      .ok ((a.1 + a.2 * ratio) / scale, (a.2 - a.1 * ratio) / scale)
  else if im >= re then
    let ratio := b.1 / b.2
    let scale := b.1 * ratio + b.2
    .ok ((a.1 * ratio + a.2) / scale, (a.2 * ratio - a.1) / scale)
  else .ok (notANumber, notANumber)

/-- The quotient of two whole numbers, rounded once. -/
def intDiv (a b : Int) : Except ArithFault Num :=
  if b = 0 then .error .intDivisionByZero
  else
    let x := nearest ((a < 0) != (b < 0)) a.natAbs b.natAbs
    if isFinite x then .ok (.float x) else .error .quotientTooLarge

/-- The quotient. -/
def div : Num → Num → Except ArithFault Num :=
  lift intDiv
    (fun a b => if b == 0.0 then .error .floatDivisionByZero else .ok (.float (a / b)))
    fun a b => (complexDiv a b).map ofPair

/-- The remainder of the magnitudes, with the sign of the first operand. -/
def truncatedRemainder (a b : Float) : Float :=
  match parts a, parts b with
  | .finite negative m e, .finite _ n f =>
      let least := min e f
      let left := m * Nat.pow 2 (e - least).toNat
      let right := n * Nat.pow 2 (f - least).toNat
      let rest := left % right
      let (high, low) := scaleByTwo rest 1 least
      nearest negative high low
  | .finite .., .infinite _ => a
  | _, _ => notANumber

/-- The remainder that takes the sign of the divisor. -/
def floatMod (a b : Float) : Float :=
  let rest := truncatedRemainder a b
  if rest == 0.0 then if isNegative b then -0.0 else 0.0
  else if (b < 0.0) != (rest < 0.0) then rest + b
  else rest

/-- The remainder, of the sign of the divisor. -/
def mod : Num → Num → Except ArithFault Num :=
  lift (fun a b => if b = 0 then .error .intModuloByZero else .ok (.int (a.fmod b)))
    (fun a b => if b == 0.0 then .error .floatModuloByZero else .ok (.float (floatMod a b)))
    fun _ _ => .error .unsupported

/-- Is the number whole? -/
def isWhole (x : Float) : Bool :=
  x.floor == x

/-- Repeated multiplication, by the bits of the exponent. -/
def complexPowNat : Nat → Nat → Float × Float → Float × Float → Float × Float
  | 0, _, result, _ => result
  | fuel + 1, n, result, square =>
      if n = 0 then result
      else
        let result := if n % 2 = 1 then complexMul result square else result
        complexPowNat fuel (n / 2) result (complexMul square square)

/--
The hypotenuse over two sides, the longer one first: the square root of the sum
of the squares, and one step of Newton's method with the exact remainder.
-/
def hypotenuse (long short : Float) : Float :=
  let guess := (long * long + short * short).sqrt
  let remainder :=
    if guess <= 2.0 * short then
      let excess := guess - short
      long * (2.0 * excess - long) + (excess - 2.0 * (long - short)) * excess
    else
      let excess := guess - long
      2.0 * excess * (long - 2.0 * short) +
        ((4.0 * excess - short) * short + excess * excess)
  guess - remainder / (2.0 * guess)

/-- The length of a complex number; sides near the ends of the range are scaled. -/
def length (z : Float × Float) : Float :=
  let long := if z.1.abs < z.2.abs then z.2.abs else z.1.abs
  let short := if z.1.abs < z.2.abs then z.1.abs else z.2.abs
  if long.isInf || short.isInf then infinity false
  else if !(long > short * (2.0 : Float).pow 54.0) then
    let scale := (2.0 : Float).pow 600.0
    if long > (2.0 : Float).pow 511.0 then hypotenuse (long / scale) (short / scale) * scale
    else if short < (2.0 : Float).pow (-459.0) then
      hypotenuse (long * scale) (short * scale) / scale
    else hypotenuse long short
  else long + short

/-- A complex power by length and angle. -/
def complexPowPolar (a b : Float × Float) : Except ArithFault (Float × Float) :=
  if b.1 == 0.0 && b.2 == 0.0 then .ok (1.0, 0.0)
  else if a.1 == 0.0 && a.2 == 0.0 then
    if b.2 != 0.0 || b.1 < 0.0 then .error .complexZeroToPower else .ok (0.0, 0.0)
  else
    let size := length a
    let angle := Float.atan2 a.2 a.1
    let scaled := size.pow b.1
    let turned := angle * b.1
    let (scaled, turned) :=
      if b.2 != 0.0 then (scaled / (angle * b.2).exp, turned + b.2 * size.log)
      else (scaled, turned)
    if turned.isInf then .error .complexZeroToPower
    else .ok (scaled * turned.cos, scaled * turned.sin)

/-- A complex power; small whole exponents multiply. -/
def complexPow (a b : Float × Float) : Except ArithFault Num := do
  let result ←
    if b.2 == 0.0 && isWhole b.1 && b.1.abs <= 100.0 then
      match truncate? b.1 with
      | some (.ofNat (n + 1)) => pure (complexPowNat 64 (n + 1) (1.0, 0.0) a)
      | some n =>
          (complexDiv (1.0, 0.0) (complexPowNat 64 n.natAbs (1.0, 0.0) a)).mapError
            fun _ => .complexZeroToPower
      | none => pure (notANumber, notANumber)
    else complexPowPolar a b
  if result.1.isInf || result.2.isInf then .error .complexPowerOutOfRange
  else .ok (ofPair result)

/-- A power of floating point numbers, complex when a negative number takes a broken exponent. -/
def floatPow (a b : Float) : Except ArithFault Num :=
  if b == 0.0 then .ok (.float 1.0)
  else if a.isNaN then .ok (.float a)
  else if b.isNaN then .ok (.float (if a == 1.0 then 1.0 else b))
  else if b.isInf then
    let size := a.abs
    if size == 1.0 then .ok (.float 1.0)
    else if (b > 0.0) == (size > 1.0) then .ok (.float b.abs)
    else .ok (.float 0.0)
  else if a.isInf then
    let odd := isWhole b && (truncatedRemainder b.abs 2.0 == 1.0)
    if b > 0.0 then .ok (.float (if odd then a else a.abs))
    else .ok (.float (if odd && isNegative a then -0.0 else 0.0))
  else if a == 0.0 then
    let odd := isWhole b && (truncatedRemainder b.abs 2.0 == 1.0)
    if b < 0.0 then .error .zeroToNegativePower
    else .ok (.float (if odd then a else 0.0))
  else if a < 0.0 && !isWhole b then complexPow (a, 0.0) (b, 0.0)
  else
    let negate := a < 0.0 && (truncatedRemainder b.abs 2.0 == 1.0)
    let size := a.abs
    if size == 1.0 then .ok (.float (if negate then -1.0 else 1.0))
    else
      let result := size.pow b
      if result.isInf then .error .powerOutOfRange
      else .ok (.float (if negate then -result else result))

/-- An exact power; of the powers of one, zero and minus one none takes any work. -/
def intPowNat (a : Int) (n : Nat) : Int :=
  if a = 1 then 1
  else if a = 0 then if n = 0 then 1 else 0
  else if a = -1 then if n % 2 = 0 then 1 else -1
  else Int.pow a n

theorem pow_step (a : Int) (n : Nat) : Int.pow a (n + 1) = Int.pow a n * a :=
  Int.pow_succ a n

theorem one_pow (n : Nat) : Int.pow 1 n = 1 := by
  induction n with
  | zero => exact Int.pow_zero 1
  | succ n ih => rw [pow_step, ih, Int.one_mul]

theorem zero_pow_succ (n : Nat) : Int.pow 0 (n + 1) = 0 := by
  rw [pow_step, Int.mul_zero]

/-- The powers of minus one alternate. -/
theorem neg_one_pow (n : Nat) : Int.pow (-1) n = if n % 2 = 0 then 1 else -1 := by
  induction n with
  | zero => exact Int.pow_zero (-1)
  | succ n ih =>
      rw [pow_step, ih]
      rcases Nat.mod_two_eq_zero_or_one n with even | odd
      · rw [if_pos even, if_neg (by omega), Int.one_mul]
      · rw [if_neg (by omega), if_pos (by omega)]
        rfl

theorem intPowNat_eq (a : Int) (n : Nat) : intPowNat a n = Int.pow a n := by
  unfold intPowNat
  split
  case isTrue one => rw [one, one_pow]
  case isFalse =>
    split
    case isTrue zero =>
      subst zero
      cases n with
      | zero => exact (Int.pow_zero 0).symm
      | succ n => rw [zero_pow_succ, if_neg (Nat.succ_ne_zero n)]
    case isFalse =>
      split
      case isTrue minus => rw [minus, neg_one_pow]
      case isFalse => rfl

/-- The power of two whole numbers: exact, unless the exponent is negative. -/
def intPow (a b : Int) : Except ArithFault Num :=
  match b with
  | .ofNat n => .ok (.int (intPowNat a n))
  | .negSucc _ => do
      let left ← floatOfInt a
      let right ← floatOfInt b
      floatPow left right

/-- The power. -/
def pow : Num → Num → Except ArithFault Num :=
  lift intPow floatPow complexPow

/-- The number with the opposite sign. -/
def neg : Num → Num
  | .int n => .int (-n)
  | .float x => .float (-x)
  | .complex re im => .complex (-re) (-im)

/-- Exact equality across kinds; not-a-number equals nothing. -/
def eq : Num → Num → Bool
  | .int a, .int b => a == b
  | .int a, .float y => compareInt a y == some .eq
  | .float x, .int b => compareInt b x == some .eq
  | .float x, .float y => x == y
  | .complex re im, .complex re' im' => re == re' && im == im'
  | .complex re im, .int b => im == 0.0 && compareInt b re == some .eq
  | .int a, .complex re im => im == 0.0 && compareInt a re == some .eq
  | .complex re im, .float y => im == 0.0 && re == y
  | .float x, .complex re im => im == 0.0 && re == x

/-- The order of two real numbers; none beside not-a-number and for complex numbers. -/
def order? : Num → Num → Option Ordering
  | .int a, .int b => some (compare a b)
  | .int a, .float y => compareInt a y
  | .float x, .int b => (compareInt b x).map Ordering.swap
  | .float x, .float y =>
      if x < y then some .lt else if y < x then some .gt
      else if x == y then some .eq else none
  | _, _ => none

end Num

end ReactiveSchema.Number
