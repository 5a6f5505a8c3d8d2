import ReactiveSchema.Number.Shortest

/-!
# How numbers are written

The plain text of a floating point number has the fewest digits that read
back.  It is positional while the first digit stands between the fourth place
after the point and the sixteenth before it, and otherwise has an exponent of
two digits or more.  Fixed, scientific and general layouts take a digit count.
-/

namespace ReactiveSchema.Number

/-- Digits as characters. -/
def digitChars (digits : List Nat) : List Char :=
  digits.map fun d => Char.ofNat ('0'.toNat + d)

/-- The digits of a natural number. -/
def natChars (n : Nat) : List Char :=
  digitChars (decimalDigits n)

/-- The text of a whole number. -/
def intChars (n : Int) : List Char :=
  if n < 0 then '-' :: natChars n.natAbs else natChars n.natAbs

/-- An exponent: its letter, its sign and at least two digits. -/
def exponentChars (letter : Char) (exponent : Int) : List Char :=
  let digits := natChars exponent.natAbs
  letter :: (if exponent < 0 then '-' else '+') ::
    (if digits.length < 2 then '0' :: digits else digits)

/-- Digits with a point after the first one, and an exponent. -/
def scientificChars (letter : Char) (keepPoint : Bool) (number : Digits) : List Char :=
  match digitChars number.digits with
  | [] => []
  | [first] =>
      first :: (if keepPoint then ['.'] else []) ++ exponentChars letter number.exponent
  | first :: rest => first :: '.' :: rest ++ exponentChars letter number.exponent

/-- Digits in positional notation, without a point after a whole number. -/
def positionalChars (number : Digits) : List Char :=
  let digits := digitChars number.digits
  if number.exponent < 0 then
    '0' :: '.' :: List.replicate (number.exponent.natAbs - 1) '0' ++ digits
  else
    let whole := number.exponent.toNat + 1
    let padded := digits ++ List.replicate (whole - digits.length) '0'
    match padded.drop whole with
    | [] => padded
    | rest => padded.take whole ++ '.' :: rest

/-- The first digit positions that are written positionally. -/
def isPositional (exponent : Int) : Bool :=
  -4 ≤ exponent && exponent < 16

/-- A positive finite number with the fewest digits, `point` telling whether a whole number ends in `.0`. -/
def magnitudeChars (point : Bool) (mantissa : Nat) (exponent : Int) : List Char :=
  let number := shortest mantissa exponent
  if isPositional number.exponent then
    let chars := positionalChars number
    if point && !chars.contains '.' then chars ++ ['.', '0'] else chars
  else scientificChars 'e' false number

/-- The text of a floating point number, `point` telling whether a whole number ends in `.0`. -/
def floatChars (point : Bool) (x : Float) : List Char :=
  match parts x with
  | .nan => ['n', 'a', 'n']
  | .infinite negative => if negative then ['-', 'i', 'n', 'f'] else ['i', 'n', 'f']
  | .finite negative mantissa exponent =>
      let chars := magnitudeChars point mantissa exponent
      if negative then '-' :: chars else chars

/-- The plain text of a floating point number. -/
def floatText (x : Float) : String :=
  String.ofList (floatChars true x)

/-- The plain text of a whole number. -/
def intText (n : Int) : String :=
  String.ofList (intChars n)

/-- The most digits a whole number is written with or read from. -/
def digitLimit : Nat := 4300

/-- Has a whole number too many digits to be written? -/
def isTooLong (n : Int) : Bool :=
  Nat.pow 10 digitLimit ≤ n.natAbs

/-- The plain text of a whole number that does not have too many digits. -/
def intText? (n : Int) : Option String :=
  if isTooLong n then none else some (intText n)

/--
The plain text of a complex number: a lone imaginary part when the real part
is positive zero, and otherwise both parts in parentheses.
-/
def complexText (re im : Float) : String :=
  let imaginary := floatChars false im
  if re == 0.0 && !isNegative re then String.ofList (imaginary ++ ['j'])
  else
    let signed := if imaginary.head? == some '-' then imaginary else '+' :: imaginary
    String.ofList ('(' :: floatChars false re ++ signed ++ ['j', ')'])

/-- A layout with a stated number of digits. -/
inductive Layout where
  | fixed
  | scientific
  | general
  deriving DecidableEq

/-- A number with stated places; `keepPoint` keeps the point of a whole number. -/
def fixedChars (keepPoint : Bool) (numerator denominator count : Nat) : List Char :=
  match places numerator denominator count with
  | (whole, []) => digitChars whole ++ (if keepPoint then ['.'] else [])
  | (whole, rest) => digitChars whole ++ '.' :: digitChars rest

/-- Drop zeros at the end of a fraction, and a point that then ends the text. -/
def dropFractionZeros (chars : List Char) : List Char :=
  if chars.contains '.' then
    match (chars.reverse.dropWhile (· == '0')) with
    | '.' :: rest => rest.reverse
    | rest => rest.reverse
  else chars

/-- The general layout: positional while the exponent is small, without idle zeros. -/
def generalChars (letter : Char) (keepPoint : Bool) (numerator denominator count : Nat) :
    List Char :=
  let wanted := if count = 0 then 1 else count
  let number := significant numerator denominator (wanted - 1)
  if -4 ≤ number.exponent && number.exponent < Int.ofNat wanted then
    let chars := fixedChars keepPoint numerator denominator
      (Int.ofNat wanted - 1 - number.exponent).toNat
    if keepPoint then chars else dropFractionZeros chars
  else
    let digits := if keepPoint then number.digits else
      match dropTrailingZeros number.digits with
      | [] => [0]
      | kept => kept
    scientificChars letter keepPoint ⟨digits, number.exponent⟩

/-- The magnitude of a floating point number in a layout, with its exponent letter. -/
def layoutChars (layout : Layout) (letter : Char) (keepPoint : Bool) (count : Nat)
    (x : Float) : List Char :=
  match parts x with
  | .nan => ['n', 'a', 'n']
  | .infinite _ => ['i', 'n', 'f']
  | .finite _ mantissa exponent =>
      let (numerator, denominator) := scaleByTwo mantissa 1 exponent
      match layout with
      | .fixed => fixedChars keepPoint numerator denominator count
      | .scientific =>
          scientificChars letter keepPoint (significant numerator denominator count)
      | .general => generalChars letter keepPoint numerator denominator count

end ReactiveSchema.Number
