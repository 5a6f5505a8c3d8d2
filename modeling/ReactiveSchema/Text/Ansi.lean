/-!
# Terminal colours

A coloured text is the text between escape sequences.  Colours are a switch:
off, every function below returns its text unchanged.  `strip` removes the
escape sequences again, and any other sequence of the same shape.
-/

namespace ReactiveSchema.Text.Ansi

/-- The styles that messages use. -/
inductive Style where
  | reset
  | bold
  | dim
  | green
  | cyan
  | brightRed
  | brightBlue
  deriving DecidableEq

namespace Style

/-- The name a style is asked for by. -/
def name : Style → String
  | reset => "reset"
  | bold => "bold"
  | dim => "dim"
  | green => "green"
  | cyan => "cyan"
  | brightRed => "bright_red"
  | brightBlue => "bright_blue"

/-- Every style. -/
def all : List Style :=
  [reset, bold, dim, green, cyan, brightRed, brightBlue]

/-- The style of a name. -/
def ofName? (text : String) : Option Style :=
  all.find? fun style => style.name == text

/-- The number in the escape sequence of a style. -/
def number : Style → String
  | reset => "0"
  | bold => "1"
  | dim => "2"
  | green => "32"
  | cyan => "36"
  | brightRed => "91"
  | brightBlue => "94"

/-- The escape sequence that switches a style on. -/
def sequence (style : Style) : String :=
  "\x1b[" ++ style.number ++ "m"

end Style

/-- Wrap a text in styles when colours are on. -/
def paint (colors : Bool) (styles : List Style) (text : String) : String :=
  if !colors || styles.isEmpty then text
  else String.join (styles.map Style.sequence) ++ text ++ Style.reset.sequence

theorem paint_off (styles : List Style) (text : String) :
    paint false styles text = text := by
  simp [paint]

/-- An error code. -/
def errorCode (colors : Bool) (text : String) : String :=
  paint colors [.brightRed, .bold] text

/-- The source of an expression. -/
def source (colors : Bool) (text : String) : String :=
  paint colors [.cyan] text

/-- A mark below a source. -/
def caret (colors : Bool) (text : String) : String :=
  paint colors [.brightRed] text

/-- The label of a hint. -/
def hint (colors : Bool) (text : String) : String :=
  paint colors [.green] text

/-- Text of little weight. -/
def faint (colors : Bool) (text : String) : String :=
  paint colors [.dim] text

/-- A link to the documentation. -/
def link (colors : Bool) (text : String) : String :=
  paint colors [.brightBlue] text

/-- A message after its error code, if it has one. -/
def header (colors : Bool) (code message : String) : String :=
  if code.isEmpty then message else errorCode colors code ++ ": " ++ message

/-- Does a character fall between two codes? -/
def between (low high : Nat) (c : Char) : Bool :=
  low ≤ c.toNat && c.toNat ≤ high

/--
What is left after one escape sequence, without its escape character: a lone
letter or one of four signs, or a bracket, parameters, fillers and a final
character.
-/
def afterSequence? : List Char → Option (List Char)
  | [] => none
  | c :: rest =>
      if between 0x40 0x5a c || between 0x5c 0x5f c then some rest
      else if c = '[' then
        match (rest.dropWhile (between 0x30 0x3f)).dropWhile (between 0x20 0x2f) with
        | final :: after => if between 0x40 0x7e final then some after else none
        | [] => none
      else none

theorem afterSequence?_length {text rest : List Char}
    (h : afterSequence? text = some rest) : rest.length < text.length := by
  unfold afterSequence? at h
  split at h
  · simp at h
  · rename_i c tail
    split at h
    · simp_all
    · split at h
      · split at h
        · rename_i final after found
          split at h
          · obtain rfl := Option.some.inj h
            have inner := congrArg List.length found
            have first := (List.dropWhile_suffix (between 0x20 0x2f)
              (l := tail.dropWhile (between 0x30 0x3f))).length_le
            have second := (List.dropWhile_suffix (between 0x30 0x3f)
              (l := tail)).length_le
            simp at inner ⊢
            omega
          · simp at h
        · simp at h
      · simp at h

/-- Remove escape sequences from characters. -/
def stripChars : List Char → List Char
  | [] => []
  | c :: rest =>
      if c = '\x1b' then
        match _h : afterSequence? rest with
        | some after => stripChars after
        | none => c :: stripChars rest
      else c :: stripChars rest
termination_by text => text.length
decreasing_by
  all_goals simp_wf
  have := afterSequence?_length _h
  omega

/-- Remove escape sequences from a text. -/
def strip (text : String) : String :=
  String.ofList (stripChars text.toList)

/--
Are colours wanted?  A request for them wins over a request against them;
without either, the output decides.
-/
def wanted (force off : Option String) (terminal : Bool) : Bool :=
  match force with
  | some value => if value.isEmpty then refused else true
  | none => refused
where
  /-- The choice when colours are not forced. -/
  refused : Bool :=
    match off with
    | some value => if value.isEmpty then terminal else false
    | none => terminal

end ReactiveSchema.Text.Ansi
