import ReactiveSchema.Text.Letter
import ReactiveSchema.Fault

/-!
# Expression source

The source of an expression is cut into pieces: string literals, tokens after
the sigil, numbers, words and signs.  Each piece has a spelling in the plain
expression grammar, where a token is a numbered placeholder and the word and
sign forms of the logical operators are one.  The spelled text is what the
grammar reads; the pieces keep what belongs together.
-/

namespace ReactiveSchema

open ReactiveSchema.Text

/-- The sign that starts a token. -/
def sigil : Char := '$'

/-- Is this text an expression rather than a literal?  A lone sigil is a literal. -/
def isDynamicText (text : String) : Bool :=
  match text.toList with
  | first :: _ :: _ => first == sigil
  | _ => false

/-- Is this value text that is compiled rather than taken literally? -/
def Value.isDynamic : Value → Bool
  | .str s => isDynamicText s
  | _ => false

/-- Why the source of an expression is refused. -/
inductive SourceFault where
  | unterminated (column : Nat)
  | expectedName (column : Nat)
  | unknownWord (word : List Char) (column : Nat)
  | empty
  /-- The grammar rejects the text. -/
  | ungrammatical
  /-- The text holds a NUL character, which the grammar does not even read. -/
  | nulCharacter
  /-- The text holds a lone surrogate, which the grammar cannot read either. -/
  | loneSurrogate
  | unsupported (construct : String)
  | unknownName (name : List Char)
  | keywordArguments
  deriving DecidableEq

namespace SourceFault

/-- The message of a refusal. -/
def message : SourceFault → String
  | unterminated _ => "Unterminated string literal"
  | expectedName _ => "Expected a name after '$'"
  | unknownWord word _ =>
      let word := String.ofList word
      "Unknown identifier '" ++ word ++ "' (did you mean '$" ++ word ++ "'?)"
  | empty => "Empty expression"
  | ungrammatical => "<parser>"
  | nulCharacter => "source code string cannot contain null bytes"
  | loneSurrogate => Cause.loneSurrogate.message
  | unsupported construct => "Unsupported syntax: " ++ construct
  | unknownName name => "Unknown identifier '" ++ String.ofList name ++ "'"
  | keywordArguments => "Keyword arguments are not supported"

/-- Where in the source a refusal points. -/
def column? : SourceFault → Option Nat
  | unterminated column => some column
  | expectedName column => some column
  | unknownWord _ column => some column
  | _ => none

/-- The code of a refusal. -/
def code : SourceFault → ErrorCode
  | unknownWord .. => .unknownIdentifier
  | unknownName _ => .unknownIdentifier
  | unsupported _ => .unsupportedSyntax
  | keywordArguments => .unsupportedSyntax
  | _ => .expressionSyntax

/-- A refusal of the given source as a fault. -/
def toFault (colors : Bool) (source : String) (fault : SourceFault) : Fault :=
  match fault with
  | nulCharacter => .failure (.badValue fault.message)
  | loneSurrogate => .failure .loneSurrogate
  | _ => .syntaxFault colors fault.message (some source) fault.column? fault.code

end SourceFault

/-- The words of the language. -/
inductive Word where
  | true
  | false
  | null
  | undefined
  | and
  | or
  | not
  | in
  | if
  | else
  deriving DecidableEq

namespace Word

/-- Every word. -/
def all : List Word :=
  [true, false, null, undefined, and, or, not, .in, .if, .else]

/-- A word as the source has it. -/
def name : Word → String
  | true => "true"
  | false => "false"
  | null => "null"
  | undefined => "undefined"
  | and => "and"
  | or => "or"
  | not => "not"
  | .in => "in"
  | .if => "if"
  | .else => "else"

/-- A word as the grammar has it; `undefined` reads as `null`. -/
def spelling : Word → String
  | true => "True"
  | false => "False"
  | null => "None"
  | undefined => "None"
  | and => "and"
  | or => "or"
  | not => "not"
  | .in => "in"
  | .if => "if"
  | .else => "else"

/-- The word that a run of letters is. -/
def ofChars? (chars : List Char) : Option Word :=
  all.find? fun word => word.name.toList == chars

end Word

/-- One piece of the source of an expression. -/
inductive Piece where
  /-- A string literal, quotes included. -/
  | quoted (chars : List Char)
  | token (name : List Char)
  | number (chars : List Char)
  | word (word : Word)
  /-- A sign, in the grammar's spelling. -/
  | sign (chars : List Char)
  deriving DecidableEq

/-- A character of a token's path. -/
def isPathChar (c : Char) : Bool :=
  isLetterOrNumeral c || c == '_' || c == '.'

/-- A character of a word. -/
def isWordChar (c : Char) : Bool :=
  isLetterOrNumeral c || c == '_'

/-- A character of a number: letters and numerals of any script, and points. -/
def isNumberChar (c : Char) : Bool :=
  isLetterOrNumeral c || c == '.'

/--
The rest of a string literal after its opening quote, closing quote included,
and what follows.  A backslash takes the next character along.
-/
def splitQuoted (quote : Char) : List Char → Option (List Char × List Char)
  | [] => none
  | ['\\'] => none
  | '\\' :: c :: rest =>
      (splitQuoted quote rest).map fun (body, after) => ('\\' :: c :: body, after)
  | c :: rest =>
      if c = quote then some ([c], rest)
      else (splitQuoted quote rest).map fun (body, after) => (c :: body, after)

theorem splitQuoted_append {quote : Char} {text body after : List Char}
    (h : splitQuoted quote text = some (body, after)) : text = body ++ after := by
  fun_induction splitQuoted quote text generalizing body after with
  | case1 => simp at h
  | case2 => simp at h
  | case3 c rest ih =>
      obtain ⟨⟨inner, tail⟩, found, same⟩ := Option.map_eq_some_iff.1 h
      obtain ⟨rfl, rfl⟩ := Prod.mk.inj same
      simp [ih found]
  | case4 rest =>
      obtain ⟨rfl, rfl⟩ := Prod.mk.inj (Option.some.inj h)
      rfl
  | case5 c rest _ _ _ ih =>
      obtain ⟨⟨inner, tail⟩, found, same⟩ := Option.map_eq_some_iff.1 h
      obtain ⟨rfl, rfl⟩ := Prod.mk.inj same
      simp [ih found]

theorem splitQuoted_length {quote : Char} {text body after : List Char}
    (h : splitQuoted quote text = some (body, after)) :
    after.length ≤ text.length := by
  have whole := splitQuoted_append h
  simp [whole]

/-- A path without points at its end. -/
def trimPoints (path : List Char) : List Char :=
  (path.reverse.dropWhile (· == '.')).reverse

theorem trimPoints_length (path : List Char) :
    (trimPoints path).length ≤ path.length := by
  have bound := (List.dropWhile_suffix (· == '.') (l := path.reverse)).length_le
  simpa [trimPoints] using bound

/-- The signs that are spelled differently, longest first, with their spellings. -/
def signSpellings : List (List Char × List Char) :=
  [(['=', '=', '='], ['=', '=']),
    (['!', '=', '='], ['!', '=']),
    (['&', '&'], [' ', 'a', 'n', 'd', ' ']),
    (['|', '|'], [' ', 'o', 'r', ' ']),
    (['!', '='], ['!', '=']),
    (['!'], [' ', 'n', 'o', 't', ' '])]

/-- The sign at the front of a text: its spelling and its length. -/
def signAt (c : Char) (rest : List Char) : List Char × Nat :=
  match signSpellings.find? fun row => row.1.isPrefixOf (c :: rest) with
  | some (sign, spelling) => (spelling, sign.length)
  | none => ([c], 1)

theorem signAt_length (c : Char) (rest : List Char) : 0 < (signAt c rest).2 := by
  unfold signAt
  split
  · rename_i sign spelling found
    have member := List.mem_of_find?_eq_some found
    simp [signSpellings] at member
    rcases member with h | h | h | h | h | h <;> simp [h.1]
  · simp

/-- Cut a text into pieces; `column` is the place of its first character. -/
def pieces (column : Nat) : List Char → Except SourceFault (List Piece)
  | [] => .ok []
  | c :: rest =>
      if c = '\'' ∨ c = '"' then
        match _found : splitQuoted c rest with
        | none => .error (.unterminated column)
        | some (body, after) =>
            (pieces (column + 1 + body.length) after).map (.quoted (c :: body) :: ·)
      else if c = sigil then
        let name := trimPoints (rest.takeWhile isPathChar)
        if name.isEmpty || name.head? == some '.' then .error (.expectedName column)
        else
          (pieces (column + 1 + name.length) (rest.drop name.length)).map (.token name :: ·)
      else if isDigit c then
        let run := rest.takeWhile isNumberChar
        (pieces (column + 1 + run.length) (rest.drop run.length)).map
          (.number (c :: run) :: ·)
      else if isLetter c || c == '_' then
        let run := rest.takeWhile isWordChar
        match Word.ofChars? (c :: run) with
        | none => .error (.unknownWord (c :: run) column)
        | some word =>
            (pieces (column + 1 + run.length) (rest.drop run.length)).map (.word word :: ·)
      else
        let (spelling, length) := signAt c rest
        (pieces (column + length) (rest.drop (length - 1))).map (.sign spelling :: ·)
termination_by text => text.length
decreasing_by
  · have := splitQuoted_length _found
    simp only [List.length_cons]
    omega
  all_goals
    simp only [List.length_cons, List.length_drop]
    omega

/-- The distinct tokens of some pieces, in the order of first use. -/
def tokensOf (found : List Piece) : List (List Char) :=
  found.foldl (fun tokens piece =>
    match piece with
    | .token name => if tokens.contains name then tokens else tokens ++ [name]
    | _ => tokens) []

/-- The name that stands for the token of an index. -/
def placeholder (index : Nat) : List Char :=
  '_' :: 's' :: 'k' :: Nat.toDigits 10 index

/-- The spelling of a piece, given the tokens in order. -/
def Piece.spell (tokens : List (List Char)) : Piece → List Char
  | quoted chars => chars
  | token name => ' ' :: placeholder (tokens.idxOf name) ++ [' ']
  | number chars => chars
  | word w => ' ' :: w.spelling.toList ++ [' ']
  | sign chars => chars

/-- What the grammar reads, and the tokens its placeholders stand for. -/
structure Spelled where
  text : List Char
  tokens : List (List Char)

/-- Spell pieces out. -/
def spell (found : List Piece) : Spelled :=
  let tokens := tokensOf found
  ⟨trimBlanks (found.flatMap (Piece.spell tokens)), tokens⟩

end ReactiveSchema
