import ReactiveSchema.Text.Decomposition
import ReactiveSchema.Text.NameTable

/-!
# Characters by name

Every character has a name, most of them a name in a table.  Hangul syllables
are named by their sounds, and ideographs by their codes.  Capitals and small
letters are alike in a name, except where a rule makes it.
-/

namespace ReactiveSchema.Text

/-! ## Names in the table -/

/-- Words separated by blanks. -/
def wordsOf (text : String) : Array String :=
  let close (done : Array String) (open' : String) : Array String :=
    if open'.isEmpty then done else done.push open'
  let (done, last) := text.foldl (fun (done, open') c =>
    if c.isWhitespace then (close done open', "") else (done, open'.push c)) (#[], "")
  close done last

/-- The list of common words. -/
def commonWordList : Array String :=
  wordsOf commonWords

/-- The place in the list that small letters name, once there are enough of them. -/
def wordPlace? : List Nat → Option Nat
  | [a] => if a < 10 then some a else none
  | [a, b] => if a < 23 then some (10 + (a - 10) * 26 + b) else none
  | [a, b, c] => some (10 + 13 * 26 + (a - 23) * 676 + b * 26 + c)
  | _ => none

/-- How many words a name shares with the one before, by the sign it starts with. -/
def sharedWords? (sign : Char) : Option Nat :=
  ['!', '#', '$', '%', '&', '*', '+', ',', '.', ':'].idxOf? sign

/-- Where a reader of packed names stands. -/
structure NameReader where
  /-- The code of the name that was found. -/
  found : Option Nat
  code : Nat
  /-- The words of the name so far, newest first. -/
  words : List String
  /-- The word that is being spelled out. -/
  spelled : String
  /-- The small letters of a word that is not complete. -/
  letters : List Nat
  /-- The code of the next name, while it is being read. -/
  jump : Option Nat

namespace NameReader

/-- A reader at the start. -/
def start : NameReader :=
  ⟨none, 0, [], "", [], none⟩

/-- End a word that was spelled out. -/
def closeWord (reader : NameReader) : NameReader :=
  if reader.spelled.isEmpty then reader
  else { reader with words := reader.spelled :: reader.words, spelled := "" }

/-- End a name: is it the wanted one, its words being given newest first? -/
def closeName (wanted : List String) (reader : NameReader) : NameReader :=
  let reader := reader.closeWord
  if reader.found.isNone && reader.jump.isNone && reader.words == wanted then
    { reader with found := some reader.code }
  else reader

/-- Start a name that shares words with the one before. -/
def startName (shared : Nat) (reader : NameReader) : NameReader :=
  { reader with
    code := reader.jump.getD (reader.code + 1)
    jump := none
    words := reader.words.drop (reader.words.length - shared) }

/-- Read a small letter: of a code, or of a place in the list of words. -/
def readLetter (letter : Nat) (reader : NameReader) : NameReader :=
  match reader.jump with
  | some code => { reader with jump := some (code * 26 + letter) }
  | none =>
      let reader := reader.closeWord
      let letters := reader.letters ++ [letter]
      match wordPlace? letters with
      | none => { reader with letters }
      | some place =>
          { reader with
            words := commonWordList.getD place "" :: reader.words
            letters := [] }

/-- Read one character. -/
def read (wanted : List String) (reader : NameReader) (c : Char) : NameReader :=
  if reader.found.isSome then reader
  else if c.isWhitespace then reader.closeWord
  else if c = '=' then { reader.closeName wanted with jump := some 0 }
  else if 'a' ≤ c ∧ c ≤ 'z' then reader.readLetter (c.toNat - 'a'.toNat)
  else
    match sharedWords? c with
    | some shared => (reader.closeName wanted).startName shared
    | none => { reader with spelled := reader.spelled.push c }

end NameReader

/-- The code of a name in packed ones. -/
def findName? (packed : String) (name : List String) : Option Nat :=
  let wanted := name.reverse
  ((packed.foldl (NameReader.read wanted) .start).closeName wanted).found

/-- The words of a name between single blanks. -/
def nameWords : List Char → List String
  | [] => [""]
  | ' ' :: rest => "" :: nameWords rest
  | c :: rest =>
      match nameWords rest with
      | word :: others => (c.toString ++ word) :: others
      | [] => [c.toString]

/-- The code of a name that stands in the tables, in capitals. -/
def listedName? (name : List Char) : Option Nat :=
  let words := nameWords name
  match findName? packedAliases words with
  | some code => some code
  | none => findName? packedNames words

/-! ## Names by rule -/

/-- What follows a start, if a text has it. -/
def dropStart? (start text : List Char) : Option (List Char) :=
  if start.isPrefixOf text then some (text.drop start.length) else none

/-- The value of a hexadecimal digit in capitals. -/
def capitalHexValue? (c : Char) : Option Nat :=
  if '0' ≤ c ∧ c ≤ '9' then some (c.toNat - '0'.toNat)
  else if 'A' ≤ c ∧ c ≤ 'F' then some (c.toNat - 'A'.toNat + 10)
  else none

/-- The code that four or five hexadecimal digits spell. -/
def spelledCode? (digits : List Char) : Option Nat :=
  if digits.length = 4 ∨ digits.length = 5 then
    (digits.mapM capitalHexValue?).map fun values =>
      values.foldl (fun n value => n * 16 + value) 0
  else none

/-- The unified ideographs. -/
def ideographs : CodeSet := .ofPacked
    "a9s 533 1t g73 1xj5 wyn x 37c 8 65 3 4g1 f 5rk 3z4 3t6"

/-- The starts of other names that end in their codes, with the characters they name. -/
def codedNames : List (String × CodeSet) :=
  [("CJK COMPATIBILITY IDEOGRAPH-", .ofPacked "1d6o a5 3 2x 2skn f1"),
    ("KHITAN SMALL SCRIPT CHARACTER-", .ofPacked "260w d1"),
    ("NUSHU CHARACTER-", .ofPacked "2dm8 az")]

/-- The code of a name that ends in it, spelled without idle zeros. -/
def codedName? (name : List Char) : Option Nat :=
  codedNames.findSome? fun (start, codes) =>
    (dropStart? start.toList name).bind fun digits =>
      (spelledCode? digits).filter fun code =>
        codes.contains code && (code < 0x10000 || digits.length == 5) &&
          (0x10000 ≤ code || digits.length == 4)

/-- The leads of Hangul syllables, by name. -/
def leadNames : List String :=
  ["G", "GG", "N", "D", "DD", "R", "M", "B", "BB", "S", "SS", "", "J", "JJ", "C", "K",
    "T", "P", "H"]

/-- The vowels of Hangul syllables, by name. -/
def vowelNames : List String :=
  ["A", "AE", "YA", "YAE", "EO", "E", "YEO", "YE", "O", "WA", "WAE", "OE", "YO", "U",
    "WEO", "WE", "WI", "YU", "EU", "YI", "I"]

/-- The tails of Hangul syllables, by name. -/
def tailNames : List String :=
  ["", "G", "GG", "GS", "N", "NJ", "NH", "D", "L", "LG", "LM", "LB", "LS", "LT", "LP",
    "LH", "M", "B", "BS", "S", "SS", "NG", "J", "C", "K", "T", "P", "H"]

/-- The place of the longest of some names that a text starts with, and what follows. -/
def longestStart? (names : List String) (text : List Char) : Option (Nat × List Char) :=
  let fitting := names.zipIdx.filter fun (name, _) => name.toList.isPrefixOf text
  let longest := fitting.foldl (fun best (name, place) =>
    match best with
    | some (length, _) => if length < name.length then some (name.length, place) else best
    | none => some (name.length, place)) none
  longest.map fun (length, place) => (place, text.drop length)

/-- The syllable of its sounds. -/
def syllableName? (sounds : List Char) : Option Nat := do
  let (lead, rest) ← longestStart? leadNames sounds
  let (vowel, rest) ← longestStart? vowelNames rest
  let (tail, rest) ← longestStart? tailNames rest
  if rest.isEmpty then some (firstSyllable + (lead * 21 + vowel) * 28 + tail) else none

/-- The code of a name. -/
def namedCode? (name : List Char) : Option Nat :=
  match dropStart? "HANGUL SYLLABLE ".toList name with
  | some sounds => syllableName? sounds
  | none =>
      match dropStart? "CJK UNIFIED IDEOGRAPH-".toList name with
      | some digits => (spelledCode? digits).filter ideographs.contains
      | none =>
          let capitals := name.map Char.toUpper
          match codedName? capitals with
          | some code => some code
          | none => listedName? capitals

end ReactiveSchema.Text
