import ReactiveSchema.Number.Text
import ReactiveSchema.Text.Letter

/-!
# Numbers read from text

Blanks at both ends are skipped, a sign may come first, the digits may be of
any script, and single underscores may stand between digits.
-/

namespace ReactiveSchema.Number

open ReactiveSchema.Text

/-- A blank beside a number; the separators of ASCII are none. -/
def isNumberBlank (c : Char) : Bool :=
  isBlank c && !(28 ≤ c.toNat && c.toNat ≤ 31)

/-- Drop the blanks at both ends of a number. -/
def trimNumber (text : List Char) : List Char :=
  ((text.dropWhile isNumberBlank).reverse.dropWhile isNumberBlank).reverse

/-- Split a leading sign off; `true` stands for minus. -/
def splitSign : List Char → Bool × List Char
  | '-' :: rest => (true, rest)
  | '+' :: rest => (false, rest)
  | text => (false, text)

/-- Decimal digits of any script as ASCII digits; other characters stay. -/
def plainDigits (text : List Char) : List Char :=
  text.map fun c =>
    match decimalValue? c with
    | some value => Char.ofNat ('0'.toNat + value)
    | none => c

/-- Remove underscores, each of which must stand between two digits. -/
def dropUnderscores? : Bool → List Char → Option (List Char)
  | _, [] => some []
  | afterDigit, '_' :: next :: rest =>
      if afterDigit && isAsciiDigit next then
        (dropUnderscores? true rest).map (next :: ·)
      else none
  | _, '_' :: [] => none
  | _, c :: rest => (dropUnderscores? (isAsciiDigit c) rest).map (c :: ·)

/-- The value of ASCII digits. -/
def digitsValue (digits : List Char) : Nat :=
  digits.foldl (fun value c => value * 10 + (c.toNat - '0'.toNat)) 0

/-- A non-empty run of digits that fits the limit. -/
def readDigits? (text : List Char) : Option Nat :=
  if text.isEmpty || !text.all isAsciiDigit || digitLimit < text.length then none
  else some (digitsValue text)

/-- A whole number. -/
def readInt? (text : List Char) : Option Int :=
  let (negative, rest) := splitSign (plainDigits (trimNumber text))
  match (dropUnderscores? false rest).bind readDigits? with
  | some n => some (if negative then -Int.ofNat n else Int.ofNat n)
  | none => none

/-- An optional exponent at the end of a number. -/
def readExponent? : List Char → Option Int
  | [] => some 0
  | letter :: rest =>
      if letter = 'e' ∨ letter = 'E' then
        let (negative, digits) := splitSign rest
        if digits.isEmpty || !digits.all isAsciiDigit then none
        else
          let n := Int.ofNat (digitsValue digits)
          some (if negative then -n else n)
      else none

/--
The floating point number nearest to `digits * 10 ^ power`.  Powers far
outside the range are infinite or zero whatever the digits are.
-/
def ofDecimal (negative : Bool) (digits : List Char) (power : Int) : Float :=
  let kept := digits.dropWhile (· == '0')
  let lead := Int.ofNat kept.length + power
  if kept.isEmpty || lead < -400 then assemble negative 0 leastExponent
  else if 400 < lead then infinity negative
  else
    let n := digitsValue kept
    if 0 ≤ power then nearest negative (n * Nat.pow 10 power.toNat) 1
    else nearest negative n (Nat.pow 10 (-power).toNat)

/-- Digits with an optional point and an optional exponent. -/
def readDecimal? (negative : Bool) (text : List Char) : Option Float :=
  let whole := text.takeWhile isAsciiDigit
  let rest := text.dropWhile isAsciiDigit
  let (fraction, tail) :=
    match rest with
    | '.' :: after => (after.takeWhile isAsciiDigit, after.dropWhile isAsciiDigit)
    | _ => ([], rest)
  if whole.isEmpty && fraction.isEmpty then none
  else
    (readExponent? tail).map fun exponent =>
      ofDecimal negative (whole ++ fraction) (exponent - Int.ofNat fraction.length)

/-- A floating point number, or one of the names of infinity and not-a-number. -/
def readFloat? (text : List Char) : Option Float :=
  match dropUnderscores? false (plainDigits (trimNumber text)) with
  | none => none
  | some plain =>
      let (negative, rest) := splitSign plain
      let name := String.ofList (rest.map Char.toLower)
      if name = "inf" ∨ name = "infinity" then some (infinity negative)
      else if name = "nan" then some notANumber
      else readDecimal? negative rest

end ReactiveSchema.Number
