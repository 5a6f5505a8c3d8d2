import ReactiveSchema.Value.Access

/-!
# Filling texts in

The remainder of a text fills values in: a directive, led by a percent sign,
takes the next value, or the entry of a named key, and lays it out with flags,
a width, places and a letter.
-/

namespace ReactiveSchema.Template

open ReactiveSchema.Text
open ReactiveSchema.Number
open ReactiveSchema.Observe

/-! ## Reading a template -/

/-- A width or a number of places. -/
inductive Amount where
  | absent
  | given (n : Nat)
  /-- Taken from the values. -/
  | taken
  deriving DecidableEq

/-- The flags of a directive. -/
structure Flags where
  left : Bool
  plus : Bool
  blank : Bool
  alternate : Bool
  zero : Bool
  deriving DecidableEq

/-- A directive; without a letter the template ends too early. -/
structure Directive where
  key : Option String
  flags : Flags
  width : Amount
  places : Amount
  letter : Option Char
  /-- Where in the template the letter stands. -/
  position : Nat
  deriving DecidableEq

/-- A part of a template. -/
inductive Part where
  | plain (c : Char)
  /-- Two percent signs, which stand for one. -/
  | percent
  | directive (d : Directive)
  /-- A key that is not closed. -/
  | openKey
  deriving DecidableEq

/-- Split a key off up to the parenthesis that closes it, `openCount` of them being open. -/
def splitKey (openCount : Nat) : List Char → Option (List Char × List Char)
  | [] => none
  | c :: rest =>
      if c = ')' then
        if openCount ≤ 1 then some ([], rest)
        else (splitKey (openCount - 1) rest).map fun (key, after) => (c :: key, after)
      else
        let inner := if c = '(' then openCount + 1 else openCount
        (splitKey inner rest).map fun (key, after) => (c :: key, after)

/-- Is this a flag? -/
def isFlag (c : Char) : Bool :=
  c == '-' || c == '+' || c == ' ' || c == '#' || c == '0'

/-- The flags that a run of signs sets. -/
def Flags.ofChars (signs : List Char) : Flags :=
  ⟨signs.contains '-', signs.contains '+', signs.contains ' ', signs.contains '#',
    signs.contains '0'⟩

/-- Split a width or a number of places off. -/
def splitAmount (text : List Char) : Amount × List Char :=
  match text with
  | '*' :: rest => (.taken, rest)
  | _ =>
      let digits := text.takeWhile isAsciiDigit
      if digits.isEmpty then (.absent, text)
      else
        (.given (digits.foldl (fun n c => n * 10 + (c.toNat - '0'.toNat)) 0),
          text.dropWhile isAsciiDigit)

/-- Split the places off, which a point leads; a lone point stands for none. -/
def splitPlaces (text : List Char) : Amount × List Char :=
  match text with
  | '.' :: rest =>
      match splitAmount rest with
      | (.absent, after) => (.given 0, after)
      | found => found
  | _ => (.absent, text)

/-- Drop a size letter, which means nothing. -/
def dropSize : List Char → List Char
  | c :: rest => if c == 'h' || c == 'l' || c == 'L' then rest else c :: rest
  | [] => []

/-- Read a directive after its key; `total` is the length of the template. -/
def readDirective (total : Nat) (key : Option String) (text : List Char) :
    Directive × List Char :=
  let flags := Flags.ofChars (text.takeWhile isFlag)
  let (width, text) := splitAmount (text.dropWhile isFlag)
  let (places, text) := splitPlaces text
  match dropSize text with
  | [] => (⟨key, flags, width, places, none, total⟩, [])
  | letter :: rest =>
      (⟨key, flags, width, places, some letter, total - rest.length - 1⟩, rest)

/-- The parts of a template; each takes at least one character. -/
def partsWithin (total : Nat) : Nat → List Char → List Part
  | 0, _ => []
  | _ + 1, [] => []
  | fuel + 1, '%' :: '%' :: rest => .percent :: partsWithin total fuel rest
  | fuel + 1, '%' :: '(' :: rest =>
      match splitKey 1 rest with
      | none => [.openKey]
      | some (key, after) =>
          let (directive, after) := readDirective total (some (String.ofList key)) after
          .directive directive :: partsWithin total fuel after
  | fuel + 1, '%' :: rest =>
      let (directive, after) := readDirective total none rest
      .directive directive :: partsWithin total fuel after
  | fuel + 1, c :: rest => .plain c :: partsWithin total fuel rest

/-- The parts of a template. -/
def parts (template : List Char) : List Part :=
  partsWithin template.length template.length template

/-! ## Values to fill in -/

/-- The values that are left. -/
inductive Supply where
  | many (rest : List Value)
  | one (value : Value)
  | used
  deriving Inhabited

/-- What a template is filled from: values, and a mapping for keys. -/
structure Source where
  supply : Supply
  mapping : Option Value

/-- The source that an operand is. -/
def Source.of (operand : Value) : Source :=
  match operand with
  | .tuple items => ⟨.many items, none⟩
  | .list _ | .map _ | .liveList _ | .liveMap _ => ⟨.one operand, some operand⟩
  | _ => ⟨.one operand, none⟩

/-- Take the next value. -/
def next (source : Source) : Observe (Value × Source) :=
  match source.supply with
  | .many (value :: rest) => pure (value, { source with supply := .many rest })
  | .one value => pure (value, { source with supply := .used })
  | _ => fail (.template .tooFew)

/-- Take the entry of a key as the next value. -/
def choose (source : Source) : Option String → Observe Source
  | none => pure source
  | some key =>
      match source.mapping with
      | none => fail (.template .needsMapping)
      | some mapping => do
          let value ← getItem mapping (.str key)
          return { source with supply := .one value }

/-- Must every value be used, and is one left? -/
def Source.leavesOver (source : Source) : Bool :=
  match source.mapping, source.supply with
  | some _, _ => false
  | none, .many rest => !rest.isEmpty
  | none, .one _ => true
  | none, .used => false

/-! ## Layout -/

/-- The text of a value, in the pieces that padding goes between. -/
structure Piece where
  sign : List Char
  /-- The mark of a number's base. -/
  base : List Char
  body : List Char

/-- Pad a piece to a width. -/
def Piece.pad (piece : Piece) (left zero : Bool) (width : Nat) : List Char :=
  let front := piece.sign ++ piece.base
  let missing := width - (front.length + piece.body.length)
  if left then front ++ piece.body ++ List.replicate missing ' '
  else if zero then front ++ List.replicate missing '0' ++ piece.body
  else List.replicate missing ' ' ++ front ++ piece.body

/-- The sign of a number under the flags. -/
def signChars (flags : Flags) (negative : Bool) : List Char :=
  if negative then ['-'] else if flags.plus then ['+'] else if flags.blank then [' '] else []

/-- Digits of a base, lower case, with zeros in front up to a count. -/
def baseDigits (base count n : Nat) : List Char :=
  let digits := Nat.toDigits base n
  List.replicate (count - digits.length) '0' ++ digits

/-- A whole number under a letter. -/
def intPiece (flags : Flags) (letter : Char) (places : Nat) (n : Int) : Piece :=
  let sign := signChars flags (n < 0)
  if letter = 'o' then
    ⟨sign, if flags.alternate then ['0', 'o'] else [], baseDigits 8 places n.natAbs⟩
  else if letter = 'x' then
    ⟨sign, if flags.alternate then ['0', 'x'] else [], baseDigits 16 places n.natAbs⟩
  else if letter = 'X' then
    ⟨sign, if flags.alternate then ['0', 'X'] else [],
      (baseDigits 16 places n.natAbs).map Char.toUpper⟩
  else ⟨sign, [], baseDigits 10 places n.natAbs⟩

/-- The whole number that a value gives under a letter. -/
def wholeOf (letter : Char) (value : Value) : Observe Int :=
  match value.index? with
  | some n => pure n
  | none =>
      if letter = 'o' ∨ letter = 'x' ∨ letter = 'X' then
        fail (.template (.needsInteger letter value.typeName))
      else
        match value with
        | .float x =>
            match truncate? x with
            | some n => pure n
            | none => fail (.template .infinityToInt)
        | .nan _ => fail (.template .nanToInt)
        | _ => fail (.template (.needsReal letter value.typeName))

/-- The floating point number that a value gives. -/
def realOf (value : Value) : Observe Float :=
  match value.num? with
  | some (.int n) =>
      let x := ofInt n
      if isFinite x then pure x else fail (.arithmetic .intTooLarge)
  | some (.float x) => pure x
  | _ => fail (.wrongType ("must be real number, not " ++ value.typeName))

/-- The layout of a letter. -/
def layoutOf (letter : Char) : Layout :=
  if letter = 'e' ∨ letter = 'E' then .scientific
  else if letter = 'f' ∨ letter = 'F' then .fixed
  else .general

/-- A floating point number under a letter. -/
def realPiece (flags : Flags) (letter : Char) (places : Nat) (x : Float) : Piece :=
  let chars := layoutChars (layoutOf letter) 'e' flags.alternate places x
  let chars := if letter.isUpper then chars.map Char.toUpper else chars
  ⟨signChars flags (isNegative x), [], chars⟩

/-- The character that a value is or is the code of. -/
def charOf : Value → Observe Char
  | .str s =>
      match s.toList with
      | [c] => pure c
      | _ => fail (.template .needsChar)
  | value =>
      match value.index? with
      | some n =>
          if 0 ≤ n ∧ n < 0x110000 then pure (charOfCode n.toNat)
          else fail (.template .charOutOfRange)
      | none => fail (.template .needsChar)

/-- The largest width. -/
def widthLimit : Nat := Nat.pow 2 63 - 1

/-- The largest number of places. -/
def placesLimit : Nat := Nat.pow 2 31 - 1

/--
A whole number of at most `limit`, of either sign, that a width or a number of
places is taken from.
-/
def takeAmount (limit : Nat) (fault : TemplateFault) (source : Source) :
    Observe (Int × Source) := do
  let (value, source) ← next source
  match value.index? with
  | some n =>
      if n < -Int.ofNat limit - 1 ∨ Int.ofNat limit < n then fail (.template fault)
      else return (n, source)
  | none => fail (.template .starNeedsInt)

/-- The width of a directive; a negative one stands for the left flag. -/
def widthOf (amount : Amount) (source : Source) : Observe (Int × Source) :=
  match amount with
  | .absent => pure (0, source)
  | .given n =>
      if widthLimit < n then fail (.template .tooWide) else pure (Int.ofNat n, source)
  | .taken => takeAmount widthLimit .takenWidthOutOfRange source

/-- The places of a directive. -/
def placesOf (amount : Amount) (source : Source) : Observe (Option Nat × Source) :=
  match amount with
  | .absent => pure (none, source)
  | .given n =>
      if placesLimit < n then fail (.template .tooPrecise) else pure (some n, source)
  | .taken => do
      let (n, source) ← takeAmount placesLimit .takenPlacesOutOfRange source
      return (some n.toNat, source)

/-- A text cut to a number of places. -/
def textPiece (places : Option Nat) (text : String) : Piece :=
  match places with
  | none => ⟨[], [], text.toList⟩
  | some count => ⟨[], [], text.toList.take count⟩

/-- Lay a value out under a letter; numbers may be padded with zeros. -/
def layOut (flags : Flags) (places : Option Nat) (letter : Char) (position : Nat)
    (value : Value) : Observe (Piece × Bool) := do
  if letter = 's' then return (textPiece places (← textOf value), false)
  else if letter = 'r' then return (textPiece places (← shown value), false)
  else if letter = 'a' then return (textPiece places (asciiOnly (← shown value)), false)
  else if ['d', 'i', 'u'].contains letter then
    let n ← wholeOf letter value
    if isTooLong n then fail .tooManyDigits
    else return (intPiece flags letter (places.getD 0) n, flags.zero)
  else if ['o', 'x', 'X'].contains letter then
    return (intPiece flags letter (places.getD 0) (← wholeOf letter value), flags.zero)
  else if ['e', 'E', 'f', 'F', 'g', 'G'].contains letter then
    return (realPiece flags letter (places.getD 6) (← realOf value), flags.zero)
  else if letter = 'c' then return (⟨[], [], [← charOf value]⟩, false)
  else fail (.template (.unknownLetter letter position))

/-- Fill a directive in. -/
def fillDirective (directive : Directive) (source : Source) :
    Observe (List Char × Source) := do
  let source ← choose source directive.key
  let (width, source) ← widthOf directive.width source
  let (places, source) ← placesOf directive.places source
  match directive.letter with
  | none => fail (.template .incomplete)
  | some letter =>
      let (value, source) ← next source
      let (piece, zero) ← layOut directive.flags places letter directive.position value
      let left := directive.flags.left || width < 0
      return (piece.pad left zero width.natAbs, source)

/-- Fill parts in, one after another. -/
def fillParts : List Part → Source → Observe (List Char)
  | [], source =>
      if source.leavesOver then fail (.template .leftOver) else pure []
  | .plain c :: rest, source => do return c :: (← fillParts rest source)
  | .percent :: rest, source => do return '%' :: (← fillParts rest source)
  | .openKey :: _, source =>
      fail (.template (if source.mapping.isSome then .incompleteKey else .needsMapping))
  | .directive directive :: rest, source => do
      let (chars, source) ← fillDirective directive source
      return chars ++ (← fillParts rest source)

/-- Fill a template in from an operand. -/
def fill (template : String) (operand : Value) : Observe String := do
  return String.ofList (← fillParts (parts template.toList) (.of operand))

end ReactiveSchema.Template
