import ReactiveSchema.Value.Basic
import ReactiveSchema.Text.Ansi
import ReactiveSchema.Text.Search

/-!
# Faults

Everything that can go wrong, by cause.  A cause has a kind, which handlers
tell faults apart by, and a message.  Faults of the library itself carry an
error code and a documentation link as well.
-/

namespace ReactiveSchema

/-- The codes that messages can be searched by. -/
inductive ErrorCode where
  | expressionSyntax
  | unsupportedSyntax
  | unknownIdentifier
  | expressionRuntime
  | unbalancedFrames
  deriving DecidableEq

namespace ErrorCode

/-- Every code. -/
def all : List ErrorCode :=
  [expressionSyntax, unsupportedSyntax, unknownIdentifier, expressionRuntime,
    unbalancedFrames]

/-- The searchable text of a code: family, category and number. -/
def value : ErrorCode → String
  | expressionSyntax => "SK-EXP-001"
  | unsupportedSyntax => "SK-EXP-002"
  | unknownIdentifier => "SK-EXP-003"
  | expressionRuntime => "SK-RUN-001"
  | unbalancedFrames => "SK-SCP-001"

/-- The name of a code. -/
def name : ErrorCode → String
  | expressionSyntax => "EXPRESSION_SYNTAX"
  | unsupportedSyntax => "UNSUPPORTED_SYNTAX"
  | unknownIdentifier => "UNKNOWN_IDENTIFIER"
  | expressionRuntime => "EXPRESSION_RUNTIME"
  | unbalancedFrames => "UNBALANCED_FRAMES"

/-- The category of a code. -/
def category : ErrorCode → String
  | expressionSyntax => "expression"
  | unsupportedSyntax => "expression"
  | unknownIdentifier => "expression"
  | expressionRuntime => "runtime"
  | unbalancedFrames => "scope"

/-- The page that explains a code. -/
def docsUrl (code : ErrorCode) : String :=
  "https://skema.readthedocs.io/en/latest/errors/#" ++ code.value.toLower

/-- The code with the given text. -/
def ofValue? (text : String) : Option ErrorCode :=
  all.find? fun code => code.value == text

theorem ofValue?_value (code : ErrorCode) : ofValue? code.value = some code := by
  cases code <;> decide

end ErrorCode

/-- The kinds of failure that handlers tell apart. -/
inductive FailureKind where
  | type
  | value
  | key
  | index
  | attributes
  | runtime
  | assertion
  | zeroDivision
  | overflow
  | memory
  /-- Text that cannot be encoded. -/
  | encoding
  deriving DecidableEq

namespace FailureKind

/-- The name of a kind. -/
def name : FailureKind → String
  | type => "TypeError"
  | value => "ValueError"
  | key => "KeyError"
  | index => "IndexError"
  | attributes => "AttributeError"
  | runtime => "RuntimeError"
  | assertion => "AssertionError"
  | zeroDivision => "ZeroDivisionError"
  | overflow => "OverflowError"
  | memory => "MemoryError"
  | encoding => "UnicodeEncodeError"

end FailureKind

/-- Why a text with places for values cannot be filled in. -/
inductive TemplateFault where
  | leftOver
  | tooFew
  | needsMapping
  | incomplete
  | incompleteKey
  | unknownLetter (letter : Char) (position : Nat)
  | needsReal (letter : Char) (type : String)
  | needsInteger (letter : Char) (type : String)
  | needsChar
  | charOutOfRange
  | starNeedsInt
  | takenWidthOutOfRange
  | takenPlacesOutOfRange
  | infinityToInt
  | nanToInt
  | tooWide
  | tooPrecise
  deriving DecidableEq

/-- Why an ordinary operation failed. -/
inductive Cause where
  | unsupportedOperands (operator left right : String)
  | badOperand (operator type : String)
  | repeatByNonInt (type : String)
  | countOutOfRange
  /-- A text repeated beyond what can be counted. -/
  | textTooLong
  | outOfMemory
  /-- A whole number with too many digits to be written. -/
  | tooManyDigits
  /-- A text with a lone surrogate. -/
  | loneSurrogate
  | concatenate (left right : String)
  | notCallable (type : String)
  | arithmetic (fault : Number.ArithFault)
  | template (fault : TemplateFault)
  | unhashable (type : String)
  | notIterable (type : String)
  | notSized (type : String)
  | notSubscriptable (type : String)
  | badIndex (container type : String)
  /-- Two values of which neither is below the other. -/
  | unordered (left right : String)
  | wrongType (what : String)
  | noAttribute (type name : String)
  | missingKey (shown : String)
  | outOfRange (what : String)
  | badValue (what : String)
  /-- A data function or component that refuses to work. -/
  | refused
  /-- A comparison with a value that cannot be compared. -/
  | notComparable
  /-- A program that gives up, with its own message. -/
  | raised (message : String)
  /-- Iteration frames that were not closed in the order they were opened. -/
  | frameOrder
  deriving DecidableEq

namespace TemplateFault

/-- The kind of a fault in filling a text. -/
def kind : TemplateFault → FailureKind
  | leftOver => .type
  | tooFew => .type
  | needsMapping => .type
  | incomplete => .value
  | incompleteKey => .value
  | unknownLetter .. => .value
  | needsReal .. => .type
  | needsInteger .. => .type
  | needsChar => .type
  | charOutOfRange => .overflow
  | starNeedsInt => .type
  | takenWidthOutOfRange => .overflow
  | takenPlacesOutOfRange => .overflow
  | infinityToInt => .overflow
  | nanToInt => .value
  | tooWide => .value
  | tooPrecise => .value

/-- The lower-case hexadecimal digits of a number. -/
def hex (n : Nat) : String :=
  String.ofList (Nat.toDigits 16 n)

/-- The message of a fault in filling a text. -/
def message : TemplateFault → String
  | leftOver => "not all arguments converted during string formatting"
  | tooFew => "not enough arguments for format string"
  | needsMapping => "format requires a mapping"
  | incomplete => "incomplete format"
  | incompleteKey => "incomplete format key"
  | unknownLetter letter position =>
      let shown := if 31 ≤ letter.toNat && letter.toNat < 127 then letter else '?'
      "unsupported format character '" ++ shown.toString ++ "' (0x" ++
        hex letter.toNat ++ ") at index " ++ toString position
  | needsReal letter type =>
      "%" ++ letter.toString ++ " format: a real number is required, not " ++ type
  | needsInteger letter type =>
      "%" ++ letter.toString ++ " format: an integer is required, not " ++ type
  | needsChar => "%c requires int or char"
  | charOutOfRange => "%c arg not in range(0x110000)"
  | starNeedsInt => "* wants int"
  | takenWidthOutOfRange => "Python int too large to convert to C ssize_t"
  | takenPlacesOutOfRange => "Python int too large to convert to C int"
  | infinityToInt => "cannot convert float infinity to integer"
  | nanToInt => "cannot convert float NaN to integer"
  | tooWide => "width too big"
  | tooPrecise => "precision too big"

end TemplateFault

namespace Cause

/-- The kind of an arithmetic fault. -/
def arithmeticKind : Number.ArithFault → FailureKind
  | .intDivisionByZero => .zeroDivision
  | .intModuloByZero => .zeroDivision
  | .floatDivisionByZero => .zeroDivision
  | .floatModuloByZero => .zeroDivision
  | .complexDivisionByZero => .zeroDivision
  | .zeroToNegativePower => .zeroDivision
  | .complexZeroToPower => .zeroDivision
  | .quotientTooLarge => .overflow
  | .intTooLarge => .overflow
  | .powerOutOfRange => .overflow
  | .complexPowerOutOfRange => .overflow
  | .unsupported => .type

/-- The message of an arithmetic fault. -/
def arithmeticMessage : Number.ArithFault → String
  | .intDivisionByZero => "division by zero"
  | .intModuloByZero => "integer modulo by zero"
  | .floatDivisionByZero => "float division by zero"
  | .floatModuloByZero => "float modulo"
  | .complexDivisionByZero => "complex division by zero"
  | .zeroToNegativePower => "0.0 cannot be raised to a negative power"
  | .complexZeroToPower => "0.0 to a negative or complex power"
  | .quotientTooLarge => "integer division result too large for a float"
  | .intTooLarge => "int too large to convert to float"
  | .powerOutOfRange => "(34, 'Numerical result out of range')"
  | .complexPowerOutOfRange => "complex exponentiation"
  | .unsupported => "unsupported operand types"

/-- The kind of a cause. -/
def kind : Cause → FailureKind
  | unsupportedOperands .. => .type
  | badOperand .. => .type
  | repeatByNonInt _ => .type
  | countOutOfRange => .overflow
  | textTooLong => .overflow
  | outOfMemory => .memory
  | tooManyDigits => .value
  | loneSurrogate => .encoding
  | concatenate .. => .type
  | notCallable _ => .type
  | arithmetic fault => arithmeticKind fault
  | template fault => fault.kind
  | unhashable _ => .type
  | notIterable _ => .type
  | notSized _ => .type
  | notSubscriptable _ => .type
  | badIndex .. => .type
  | unordered .. => .type
  | wrongType _ => .type
  | noAttribute .. => .attributes
  | missingKey _ => .key
  | outOfRange _ => .index
  | badValue _ => .value
  | refused => .value
  | notComparable => .runtime
  | raised _ => .runtime
  | frameOrder => .assertion

/-- The message of a cause. -/
def message : Cause → String
  | unsupportedOperands operator left right =>
      "unsupported operand type(s) for " ++ operator ++ ": '" ++ left ++ "' and '" ++
        right ++ "'"
  | badOperand operator type =>
      "bad operand type for unary " ++ operator ++ ": '" ++ type ++ "'"
  | repeatByNonInt type =>
      "can't multiply sequence by non-int of type '" ++ type ++ "'"
  | countOutOfRange => "cannot fit 'int' into an index-sized integer"
  | textTooLong => "repeated string is too long"
  | outOfMemory => ""
  | tooManyDigits =>
      "Exceeds the limit (4300 digits) for integer string conversion; " ++
        "use sys.set_int_max_str_digits() to increase the limit"
  | loneSurrogate => "surrogates not allowed"
  | concatenate left right =>
      "can only concatenate " ++ left ++ " (not \"" ++ right ++ "\") to " ++ left
  | notCallable type => "'" ++ type ++ "' object is not callable"
  | arithmetic fault => arithmeticMessage fault
  | template fault => fault.message
  | unhashable type => "unhashable type: '" ++ type ++ "'"
  | notIterable type => "'" ++ type ++ "' object is not iterable"
  | notSized type => "object of type '" ++ type ++ "' has no len()"
  | notSubscriptable type => "'" ++ type ++ "' object is not subscriptable"
  | badIndex container type =>
      container ++ " indices must be integers or slices, not " ++ type
  | unordered left right =>
      "'<' not supported between instances of '" ++ left ++ "' and '" ++ right ++ "'"
  | wrongType what => what
  | noAttribute type name =>
      "'" ++ type ++ "' object has no attribute '" ++ name ++ "'"
  | missingKey shown => shown
  | outOfRange what => what ++ " index out of range"
  | badValue what => what
  | refused => "boom"
  | notComparable => "no eq"
  | raised message => message
  | frameOrder => "iteration frame stack out of balance"

end Cause

/-- A fault. -/
inductive Fault where
  /-- The source of an expression cannot be compiled. -/
  | syntaxError (message : String) (source : Option String) (column : Option Int)
      (code : ErrorCode) (text : String)
  /-- An expression failed while it was evaluated; `values` are the tokens' values. -/
  | evaluation (source : String) (values : List (String × Except Fault Value))
      (cause : String) (text : String)
  /-- A render pass left iteration frames behind. -/
  | unbalanced (depth expected : Int)
  /-- An ordinary failure. -/
  | failure (cause : Cause)
  /-- The step budget of a run is used up. -/
  | exhausted

namespace Fault

/-- The name of a fault's kind. -/
def name : Fault → String
  | syntaxError .. => "ExpressionSyntaxError"
  | evaluation .. => "ExpressionRuntimeError"
  | unbalanced .. => "ScopeStackError"
  | failure cause => cause.kind.name
  | exhausted => "RecursionError"

/-- The code of a fault of the library itself. -/
def code? : Fault → Option ErrorCode
  | syntaxError _ _ _ code _ => some code
  | evaluation .. => some .expressionRuntime
  | unbalanced .. => some .unbalancedFrames
  | failure _ => none
  | exhausted => none

/-- Is this a fault of the library itself, which passes expressions unchanged? -/
def isSchemaFault (fault : Fault) : Bool :=
  fault.code?.isSome

/-- The full text of a fault. -/
def text : Fault → String
  | syntaxError _ _ _ _ text => text
  | evaluation _ _ _ text => text
  | unbalanced depth expected =>
      "Iteration scope stack has depth " ++ toString depth ++
        " after render pass (expected " ++ toString expected ++ ")"
  | failure cause => cause.message
  | exhausted => "maximum recursion depth exceeded"

/-- Is this an ordinary failure of the given kind? -/
def isKind (kind : FailureKind) : Fault → Bool
  | failure cause => cause.kind == kind
  | _ => false

/-- May a handler for any failure take this fault? -/
def isCatchable : Fault → Bool
  | exhausted => false
  | _ => true

end Fault

/-- Text put together by lines. -/
def joinLines (lines : List String) : String :=
  "\n".intercalate lines

/--
The text of a syntax error: its message, the source and a mark below the column.  A column
before the source has its mark below the label, or at the start of the line.
-/
def syntaxText (colors : Bool) (message : String) (source : Option String)
    (column : Option Int) : String :=
  match source with
  | none => "Expression Error: " ++ message
  | some source =>
      let lines :=
        ["Expression Error: " ++ message, "  Expression: " ++ Text.Ansi.source colors source]
      match column with
      | none => joinLines lines
      | some column =>
          let pointer := String.ofList (List.replicate (14 + column).toNat ' ' ++ ['^'])
          joinLines (lines ++ [Text.Ansi.caret colors pointer])

/-- A value as a runtime error lists it: its token, its shown text and its type. -/
structure Listed where
  token : String
  shown : String
  typeName : String

/-- The longest shown text that is listed whole. -/
def listedLimit : Nat := 80

/-- Cut a shown text that is too long. -/
def abridge (shown : String) : String :=
  if listedLimit < shown.length then
    String.ofList (shown.toList.take (listedLimit - 3)) ++ "..."
  else shown

/-- The text of a runtime error. -/
def evaluationText (colors : Bool) (message : String) (source : String)
    (values : List Listed) (suggestion : String) : String :=
  let sourceLines :=
    if source.isEmpty then [] else ["  Expression: " ++ Text.Ansi.source colors source]
  let valueLines :=
    if values.isEmpty then []
    else "  Values:" :: values.map fun value =>
      "    " ++ value.token ++ " = " ++ abridge value.shown ++ " (" ++ value.typeName ++ ")"
  let hintLines :=
    if suggestion.isEmpty then []
    else ["\n  " ++ Text.Ansi.hint colors "Suggestion:" ++ " " ++ suggestion]
  joinLines (["Runtime Error: " ++ message] ++ sourceLines ++ valueLines ++ hintLines)

/--
A short diagnostic: the text, led by its code unless the text names the code
already, and a line with the documentation link.
-/
def compactText (colors : Bool) (code : Option ErrorCode) (text : String) : String :=
  match code with
  | none => text
  | some code =>
      let header :=
        if Text.standsIn code.value.toList text.toList then text
        else Text.Ansi.header colors code.value text
      joinLines [header, "  " ++ Text.Ansi.faint colors "Docs:" ++ " " ++
        Text.Ansi.link colors code.docsUrl]

namespace Fault

/-- A syntax error with its text. -/
def syntaxErrorOf (colors : Bool) (message : String) (source : Option String)
    (column : Option Int) (code : ErrorCode) : Fault :=
  .syntaxError message source column code (syntaxText colors message source column)

/-- A syntax error at a place in its source, if at any. -/
def syntaxFault (colors : Bool) (message : String) (source : Option String)
    (column : Option Nat) (code : ErrorCode) : Fault :=
  syntaxErrorOf colors message source (column.map Int.ofNat) code

/-- A fault as a short diagnostic. -/
def compact (colors : Bool) (fault : Fault) : String :=
  compactText colors fault.code? fault.text

end Fault

end ReactiveSchema
