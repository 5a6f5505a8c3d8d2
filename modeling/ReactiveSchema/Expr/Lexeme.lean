import ReactiveSchema.Number.Read
import ReactiveSchema.Text.CharacterName
import ReactiveSchema.Text.Composition
import ReactiveSchema.Text.Surrogate

/-!
# Lexemes of the expression grammar

The plain text of an expression falls into numbers, string literals, names,
keywords and signs.  Blanks, comments and joined lines separate them.  A line
ends a sentence only outside of brackets, and the next one must not be
indented.
-/

namespace ReactiveSchema

open ReactiveSchema.Text
open ReactiveSchema.Number

/-- A literal of the grammar. -/
inductive Constant where
  | none
  | true
  | false
  | ellipsis
  | int (n : Nat)
  | float (x : Float)
  | imaginary (x : Float)
  | str (s : String)
  deriving DecidableEq

/-- The words that the grammar gives a meaning of their own. -/
inductive Keyword where
  | and
  | or
  | not
  | in
  | is
  | if
  | else
  | for
  /-- A word that is kept for other uses and fits nowhere. -/
  | reserved
  deriving DecidableEq

/-- One lexeme. -/
inductive Lexeme where
  | constant (c : Constant)
  | string (s : List Char)
  | name (id : List Char)
  | keyword (k : Keyword)
  | sign (chars : List Char)
  | newline
  deriving DecidableEq

/-- Words without a use in expressions. -/
def reservedWords : List String :=
  ["as", "assert", "async", "await", "break", "class", "continue", "def", "del",
    "elif", "except", "finally", "from", "global", "import", "lambda", "nonlocal",
    "pass", "raise", "return", "try", "while", "with", "yield"]

/-- The lexeme of a run of name characters. -/
def Lexeme.ofWord (chars : List Char) : Lexeme :=
  match String.ofList chars with
  | "and" => .keyword .and
  | "or" => .keyword .or
  | "not" => .keyword .not
  | "in" => .keyword .in
  | "is" => .keyword .is
  | "if" => .keyword .if
  | "else" => .keyword .else
  | "for" => .keyword .for
  | "True" => .constant .true
  | "False" => .constant .false
  | "None" => .constant .none
  | word =>
      if reservedWords.contains word then .keyword .reserved
      else .name (compatibilityForm chars)

/-- Line ends of all conventions as one character. -/
def unifyLineEnds : List Char → List Char
  | [] => []
  | '\r' :: '\n' :: rest => '\n' :: unifyLineEnds rest
  | '\r' :: rest => '\n' :: unifyLineEnds rest
  | c :: rest => c :: unifyLineEnds rest

/-! ## Numbers -/

/-- A character that cannot follow a number directly. -/
def isNameChar (c : Char) : Bool :=
  isAsciiLetter c || isAsciiDigit c || c == '_' || 128 ≤ c.toNat

/-- Does a text start with a word that ends there? -/
def startsWithWord (word text : List Char) : Bool :=
  word.isPrefixOf text && !((text.drop word.length).head?.any isNameChar)

/--
May a number end before this text?  No name may follow directly, but a keyword
that can stand after a number may.
-/
def numberMayEnd (text : List Char) : Bool :=
  startsWithWord ['a', 'n', 'd'] text || startsWithWord ['e', 'l', 's', 'e'] text ||
    startsWithWord ['f', 'o', 'r'] text || startsWithWord ['o', 'r'] text ||
    startsWithWord ['n', 'o', 't'] text ||
    ['i', 'f'].isPrefixOf text || ['i', 'n'].isPrefixOf text ||
    ['i', 's'].isPrefixOf text || !(text.head?.any isNameChar)

/-- The value of a digit in a base of at most sixteen. -/
def digitIn? (base : Nat) (c : Char) : Option Nat :=
  let value? :=
    if isAsciiDigit c then some (c.toNat - '0'.toNat)
    else if 'a' ≤ c ∧ c ≤ 'f' then some (c.toNat - 'a'.toNat + 10)
    else if 'A' ≤ c ∧ c ≤ 'F' then some (c.toNat - 'A'.toNat + 10)
    else none
  value?.filter (· < base)

/-- A number of a stated base, after its mark. -/
def lexBased (base : Nat) (text : List Char) : Option (Constant × List Char) :=
  let digits := text.takeWhile fun c => (digitIn? base c).isSome
  let rest := text.dropWhile fun c => (digitIn? base c).isSome
  if digits.isEmpty || rest.head?.any isAsciiDigit || !numberMayEnd rest then none
  else
    let value := digits.foldl (fun n c => n * base + (digitIn? base c).getD 0) 0
    some (.int value, rest)

/-- The exponent of a number: its value and what follows; a letter alone is no exponent. -/
def lexExponent (text : List Char) : Option (Option Int × List Char) :=
  match text with
  | letter :: rest =>
      if letter = 'e' ∨ letter = 'E' then
        match rest with
        | sign :: digits =>
            if sign = '+' ∨ sign = '-' then
              let run := digits.takeWhile isAsciiDigit
              if run.isEmpty then none
              else
                let n := Int.ofNat (digitsValue run)
                some (some (if sign = '-' then -n else n), digits.dropWhile isAsciiDigit)
            else
              let run := rest.takeWhile isAsciiDigit
              if run.isEmpty then some (none, text)
              else some (some (Int.ofNat (digitsValue run)), rest.dropWhile isAsciiDigit)
        | [] => some (none, text)
      else some (none, text)
  | [] => some (none, text)

/-- Do digits other than zero come after an idle zero in front? -/
def hasIdleZero (whole : List Char) : Bool :=
  whole.head? == some '0' && whole.any (· != '0')

/--
The whole number of some digits.  Unless it is zero it has no zero in front and
at most as many digits as a whole number is read from.
-/
def wholeConstant? (whole : List Char) : Option Constant :=
  if hasIdleZero whole || (whole.any (· != '0') && digitLimit < whole.length) then none
  else some (.int (digitsValue whole))

/--
A number with digits before and after its point, from the point or exponent on.
A zero may lead a whole number other than zero only before a word in `e`, which
makes the number a floating point number.
-/
def lexDecimalTail (whole : List Char) (text : List Char) : Option (Constant × List Char) := do
  let (point, fraction, rest) :=
    match text with
    | '.' :: after =>
        (true, after.takeWhile isAsciiDigit, after.dropWhile isAsciiDigit)
    | _ => (false, [], text)
  let (exponent, rest) ← lexExponent rest
  let isFloat := point || exponent.isSome
  let value := ofDecimal false (whole ++ fraction)
    (exponent.getD 0 - Int.ofNat fraction.length)
  match rest with
  | letter :: after =>
      if letter = 'j' ∨ letter = 'J' then
        if numberMayEnd after then some (.imaginary value, after) else none
      else if !numberMayEnd rest then none
      else if isFloat || (letter = 'e' && hasIdleZero whole) then some (.float value, rest)
      else (wholeConstant? whole).map fun constant => (constant, rest)
  | [] =>
      if isFloat then some (.float value, [])
      else (wholeConstant? whole).map fun constant => (constant, [])

/-- A number at the front of a text that starts with a digit or a point. -/
def lexNumber (text : List Char) : Option (Constant × List Char) :=
  match text with
  | '0' :: letter :: rest =>
      if letter = 'x' ∨ letter = 'X' then lexBased 16 rest
      else if letter = 'o' ∨ letter = 'O' then lexBased 8 rest
      else if letter = 'b' ∨ letter = 'B' then lexBased 2 rest
      else lexDecimalTail (text.takeWhile isAsciiDigit) (text.dropWhile isAsciiDigit)
  | _ => lexDecimalTail (text.takeWhile isAsciiDigit) (text.dropWhile isAsciiDigit)

/-! ## String literals -/

/-- The value of exactly `count` hexadecimal digits, and what follows. -/
def hexRun? (count : Nat) (text : List Char) : Option (Nat × List Char) :=
  let run := text.take count
  if run.length = count ∧ run.all (fun c => (digitIn? 16 c).isSome) then
    some (run.foldl (fun n c => n * 16 + (digitIn? 16 c).getD 0) 0, text.drop count)
  else none

/-- The character that a one-letter escape stands for. -/
def simpleEscape? : Char → Option Char
  | '\\' => some '\\'
  | '\'' => some '\''
  | '"' => some '"'
  | 'a' => some '\x07'
  | 'b' => some '\x08'
  | 'f' => some '\x0c'
  | 'n' => some '\n'
  | 'r' => some '\r'
  | 't' => some '\t'
  | 'v' => some '\x0b'
  | _ => none

/-- The character of an escape with `count` hexadecimal digits, and what follows. -/
def hexEscape? (count : Nat) (text : List Char) : Option (Char × List Char) :=
  (hexRun? count text).bind fun (code, after) =>
    if 0x110000 ≤ code then none else some (charOfCode code, after)

/-- The character whose name follows in braces, and what follows after that. -/
def namedEscape? (text : List Char) : Option (Char × List Char) :=
  match text with
  | '\x7b' :: rest =>
      let name := rest.takeWhile (· != '\x7d')
      if name.length < rest.length then
        (namedCode? name).map fun code => (charOfCode code, rest.drop (name.length + 1))
      else none
  | _ => none

/-- The characters of a literal's body; `fuel` is at least its length. -/
def unescape : Nat → List Char → Option (List Char)
  | 0, _ => some []
  | _ + 1, [] => some []
  | fuel + 1, '\\' :: '\n' :: rest => unescape fuel rest
  | fuel + 1, '\\' :: 'x' :: rest => do
      let (c, after) ← hexEscape? 2 rest
      return c :: (← unescape fuel after)
  | fuel + 1, '\\' :: 'u' :: rest => do
      let (c, after) ← hexEscape? 4 rest
      return c :: (← unescape fuel after)
  | fuel + 1, '\\' :: 'U' :: rest => do
      let (c, after) ← hexEscape? 8 rest
      return c :: (← unescape fuel after)
  | fuel + 1, '\\' :: 'N' :: rest => do
      let (c, after) ← namedEscape? rest
      return c :: (← unescape fuel after)
  | fuel + 1, '\\' :: c :: rest =>
      match simpleEscape? c with
      | some meant => (unescape fuel rest).map (meant :: ·)
      | none =>
          if (digitIn? 8 c).isSome then
            let run := (c :: rest.take 2).takeWhile fun d => (digitIn? 8 d).isSome
            let code := run.foldl (fun n d => n * 8 + (digitIn? 8 d).getD 0) 0
            (unescape fuel (rest.drop (run.length - 1))).map (Char.ofNat code :: ·)
          else (unescape fuel rest).map fun body => '\\' :: c :: body
  | fuel + 1, c :: rest => (unescape fuel rest).map (c :: ·)

/-- The body of a literal in single quotes, after the opening one, and what follows. -/
def shortBody (quote : Char) : List Char → Option (List Char × List Char)
  | [] => none
  | ['\\'] => none
  | '\\' :: c :: rest =>
      (shortBody quote rest).map fun (body, after) => ('\\' :: c :: body, after)
  | c :: rest =>
      if c = quote then some ([], rest)
      else if c = '\n' then none
      else (shortBody quote rest).map fun (body, after) => (c :: body, after)

/-- The body of a literal in triple quotes, after the opening ones, and what follows. -/
def longBody (quote : Char) : List Char → Option (List Char × List Char)
  | [] => none
  | ['\\'] => none
  | '\\' :: c :: rest =>
      (longBody quote rest).map fun (body, after) => ('\\' :: c :: body, after)
  | c :: rest =>
      if [quote, quote, quote].isPrefixOf (c :: rest) then some ([], rest.drop 2)
      else (longBody quote rest).map fun (body, after) => (c :: body, after)

/-- A string literal after its first quote. -/
def lexString (quote : Char) (text : List Char) : Option (List Char × List Char) := do
  let (body, after) ←
    if [quote, quote].isPrefixOf text then longBody quote (text.drop 2)
    else shortBody quote text
  return (← unescape body.length body, after)

/-! ## Signs, blanks and lines -/

/-- The signs of more than one character, longest first. -/
def longSigns : List (List Char) :=
  [['*', '*', '='], ['/', '/', '='], ['<', '<', '='], ['>', '>', '='], ['.', '.', '.'],
    ['!', '='], ['%', '='], ['&', '='], ['*', '*'], ['*', '='], ['+', '='], ['-', '='],
    ['-', '>'], ['/', '/'], ['/', '='], [':', '='], ['<', '<'], ['<', '='], ['<', '>'],
    ['=', '='], ['>', '='], ['>', '>'], ['@', '='], ['^', '='], ['|', '=']]

/-- The signs of one character. -/
def shortSigns : List Char :=
  ['%', '&', '(', ')', '*', '+', ',', '-', '.', '/', ':', ';', '<', '=', '>', '@', '[',
    ']', '^', '\x7b', '|', '\x7d', '~']

/-- The sign at the front of a text. -/
def lexSign (text : List Char) : Option (List Char × List Char) :=
  match longSigns.find? (·.isPrefixOf text) with
  | some sign => some (sign, text.drop sign.length)
  | none =>
      match text with
      | c :: rest => if shortSigns.contains c then some ([c], rest) else none
      | [] => none

/-- The bracket that closes another one. -/
def closing? : List Char → Option Char
  | ['('] => some ')'
  | ['['] => some ']'
  | ['\x7b'] => some '\x7d'
  | _ => none

/-- The deepest nesting of brackets. -/
def bracketLimit : Nat := 200

/-- The brackets that are open after a sign, if the sign fits. -/
def afterBracket (brackets : List Char) (sign : List Char) : Option (List Char) :=
  match closing? sign with
  | some close => if brackets.length < bracketLimit then some (close :: brackets) else none
  | none =>
      match sign with
      | [c] =>
          if c = ')' ∨ c = ']' ∨ c = '\x7d' then
            match brackets with
            | top :: rest => if top = c then some rest else none
            | [] => none
          else some brackets
      | _ => some brackets

/-- Blanks inside a line. -/
def isLineBlank (c : Char) : Bool :=
  c == ' ' || c == '\t' || c == '\x0c'

/--
The indentation of a line and the text after it.  A form feed starts the count
again, and a joined line goes on with the column it was joined at, if that is
not the first one.
-/
def indentation : Nat → Nat → Nat → List Char → Option (Nat × List Char)
  | 0, _, _, _ => none
  | fuel + 1, joined, column, text =>
      match text with
      | ' ' :: rest => indentation fuel joined (column + 1) rest
      | '\t' :: rest => indentation fuel joined (column + 8) rest
      | '\x0c' :: rest => indentation fuel joined 0 rest
      | '\\' :: '\n' :: rest =>
          if rest.isEmpty then none
          else indentation fuel (if joined = 0 then column else joined) column rest
      | '\\' :: _ => none
      | _ => some (if joined = 0 then column else joined, text)

/-- Drop the rest of a line. -/
def dropLine (text : List Char) : List Char :=
  text.dropWhile (· != '\n')

/--
Lexemes of a text whose last line is closed.  `brackets` are the closing
brackets still due, `fresh` tells that a line starts here.
-/
def lexFrom : Nat → List Char → Bool → List Char → Option (List Lexeme)
  | 0, _, _, _ => none
  | fuel + 1, brackets, true, text =>
      match indentation (text.length + 1) 0 0 text with
      | none => none
      | some (column, rest) =>
          match rest with
          | [] => some []
          | '#' :: _ =>
              match dropLine rest with
              | [] => some []
              | _ :: after => lexFrom fuel brackets true after
          | '\n' :: after => lexFrom fuel brackets true after
          | _ => if column = 0 then lexFrom fuel brackets false rest else none
  | fuel + 1, brackets, false, text =>
      match text with
      | [] => if brackets.isEmpty then some [] else none
      | '#' :: _ => lexFrom fuel brackets false (dropLine text)
      | '\n' :: rest =>
          if brackets.isEmpty then (lexFrom fuel brackets true rest).map (.newline :: ·)
          else lexFrom fuel brackets false rest
      | '\\' :: '\n' :: rest =>
          if rest.isEmpty then none else lexFrom fuel brackets false rest
      | c :: rest =>
          if isLineBlank c then lexFrom fuel brackets false rest
          else if isAsciiDigit c || (c == '.' && rest.head?.any isAsciiDigit) then do
            let (value, after) ← lexNumber text
            return .constant value :: (← lexFrom fuel brackets false after)
          else if c = '\'' ∨ c = '"' then do
            let (value, after) ← lexString c rest
            return .string value :: (← lexFrom fuel brackets false after)
          else if isAsciiLetter c || c == '_' || 128 ≤ c.toNat then
            let run := text.takeWhile isNameChar
            if isIdentifierStart c && run.all isIdentifierPart then
              (lexFrom fuel brackets false (text.dropWhile isNameChar)).map
                (Lexeme.ofWord run :: ·)
            else none
          else do
            let (sign, after) ← lexSign text
            let open' ← afterBracket brackets sign
            return .sign sign :: (← lexFrom fuel open' false after)

/-- The lexemes of a text, if it has any reading. -/
def lexemes (text : List Char) : Option (List Lexeme) :=
  let lines := unifyLineEnds text ++ ['\n']
  lexFrom (2 * lines.length + 2) [] true lines

end ReactiveSchema
