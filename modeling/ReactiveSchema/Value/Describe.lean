import ReactiveSchema.Memory
import ReactiveSchema.Number.Text
import ReactiveSchema.Text.Quoted

/-!
# Values as text

A value is shown in the notation of its literals, containers with all their
contents; a container inside itself is shown as dots.  As text, a string
stands for itself and an undefined value for nothing.  There is no text for a
value that holds a whole number with too many digits.
-/

namespace ReactiveSchema

open ReactiveSchema.Text
open ReactiveSchema.Number

/-- How a scope is shown. -/
def ScopeId.shown (scope : ScopeId) : String :=
  if scope.label.isEmpty then "<ScopeId #" ++ intText scope.serial ++ ">"
  else "<ScopeId " ++ scope.label ++ "#" ++ intText scope.serial ++ ">"

namespace Memory

/-- Is a container being shown already? -/
def isOpen (outer : List Value) (self : Value) : Bool :=
  outer.any (·.identical self)

/-- The parts of a tuple in parentheses; a lone part has a comma after it. -/
def tupleText : List String → String
  | [single] => "(" ++ single ++ ",)"
  | parts => "(" ++ ", ".intercalate parts ++ ")"

/--
The shown text of a value, given how the contents of containers are shown.
`outer` are the containers that are being shown.
-/
def showStep (memory : Memory) (deeper : List Value → Value → Option String)
    (outer : List Value) : Value → Option String
  | .none => some "None"
  | .undefined => some "UNDEFINED"
  | .missing => some "MISSING"
  | .ellipsis => some "Ellipsis"
  | .bool b => some (if b then "True" else "False")
  | .int n => intText? n
  | .float x => some (floatText x)
  | .nan _ => some "nan"
  | .complex re im => some (complexText re im)
  | .str s => some (quoted s)
  | .tuple items =>
      if isOpen outer (.tuple items) then some "(...)"
      else (showTuple memory deeper (.tuple items :: outer) items).map tupleText
  | .list id =>
      if isOpen outer (.list id) then some "[...]"
      else do
        let parts ← (memory.listAt id).mapM (deeper (.list id :: outer))
        return "[" ++ ", ".intercalate parts ++ "]"
  | .map id =>
      if isOpen outer (.map id) then some "\x7b...\x7d"
      else do
        let inner := deeper (.map id :: outer)
        let parts ← (memory.mapAt id).mapM fun (key, value) => do
          return (← inner key) ++ ": " ++ (← inner value)
        return "\x7b" ++ ", ".intercalate parts ++ "\x7d"
  | .liveList id => do
      return "ReactiveList(" ++ (← deeper outer (.list (memory.rawList id))) ++ ")"
  | .liveMap id => do
      return "ReactiveDict(" ++ (← deeper outer (.map (memory.rawMap id))) ++ ")"
  | .text content => some ("TextVNode(text=" ++ quoted content ++ ")")
  | .node id =>
      if isOpen outer (.node id) then some "..."
      else do
        let inner := deeper (.node id :: outer)
        let node := memory.nodeAt id
        return "VNode(type=" ++ (← inner node.type) ++ ", props=" ++ (← inner node.props) ++
          ", children=" ++ (← inner node.children) ++ ")"
  | .function f => some ("<fn " ++ f.name ++ ">")
  | .component c => some ("<comp " ++ c.name ++ ">")
  | .object _ => some "<obj>"
  | .incomparable _ => some "<badeq>"
  | .ref id => do return "Ref(" ++ (← deeper outer (memory.refAt id)) ++ ")"
  | .scope id => some id.shown
  | .handle kind id => some (memory.outlook kind id).shown
  | .method owner name => do
      return "<bound method " ++ owner.typeName ++ "." ++ name ++ " of " ++
        (← showStep memory deeper outer owner) ++ ">"
  | .other typeName => some ("<" ++ typeName ++ ">")
where
  /-- The items of a tuple, shown one by one. -/
  showTuple (memory : Memory) (deeper : List Value → Value → Option String)
      (outer : List Value) : List Value → Option (List String)
    | [] => some []
    | item :: rest => do
        let first ← showStep memory deeper outer item
        return first :: (← showTuple memory deeper outer rest)

/-- The shown text of a value that is at most so deep. -/
def showWithin (memory : Memory) : Nat → List Value → Value → Option String
  | 0, _, _ => some "..."
  | depth + 1, outer, value => memory.showStep (memory.showWithin depth) outer value

/-- The shown text of a value. -/
def shown? (memory : Memory) (value : Value) : Option String :=
  memory.showWithin memory.levels [] value

/-- A value as text. -/
def textOf? (memory : Memory) : Value → Option String
  | .str s => some s
  | .undefined => some ""
  | value => memory.shown? value

/-- The failure of asking for a key that is not there. -/
def missingKey (memory : Memory) (key : Value) : Cause :=
  .missingKey ((memory.shown? key).getD "")

end Memory

namespace Observe

/-- A text, or the failure of writing a whole number that is too long. -/
def written (text : Option String) : Observe String :=
  match text with
  | some text => pure text
  | none => fail .tooManyDigits

/-- The shown text of a value. -/
def shown (value : Value) : Observe String := do
  written ((← get).shown? value)

/-- A value as text. -/
def textOf (value : Value) : Observe String := do
  written ((← get).textOf? value)

/-- The text that a value contributes to output: nothing for no value. -/
def stringify : Value → Observe String
  | .none => pure ""
  | value => textOf value

end Observe

end ReactiveSchema
