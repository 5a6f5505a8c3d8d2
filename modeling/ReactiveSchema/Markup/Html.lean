import ReactiveSchema.Expr.Function
import ReactiveSchema.Markup.Node
import ReactiveSchema.Text.Escape

/-!
# Markup text

A tree of nodes is written as markup.  Components are expanded, text and
attribute values escaped, attributes without a value dropped, and elements
that have no content written without an end tag.
-/

namespace ReactiveSchema.Observe

open ReactiveSchema.Text

/-- The elements that have neither children nor an end tag. -/
def voidElements : List String :=
  ["area", "base", "br", "col", "embed", "hr", "img", "input", "link", "meta", "source",
    "track", "wbr"]

/-! ## Attributes -/

/-- Is a part of an attribute left out?  Nothing, false and what equals false are. -/
def isOmitted (value : Value) : Observe Bool :=
  isAmong value [.none, .bool false]

/-- The declarations of a map of styles. -/
def styleText (entries : List (Value × Value)) : Observe String := do
  let parts ← entries.filterMapM fun (key, value) => do
    if ← isOmitted value then return none
    else return some ((← textOf key) ++ ": " ++ (← textOf value))
  return "; ".intercalate parts

/-- The keys of a map whose values are true. -/
def keyText (entries : List (Value × Value)) : Observe String := do
  let parts ← entries.filterMapM fun (key, value) => do
    if ← isTrue value then return some (← textOf key) else return none
  return " ".intercalate parts

/-- The items of a list that are not left out. -/
def itemText (items : List Value) : Observe String := do
  let parts ← items.filterMapM fun value => do
    if ← isOmitted value then return none else return some (← textOf value)
  return " ".intercalate parts

/-- The text of an attribute's value. -/
def attributeText (name value : Value) : Observe String := do
  match value with
  | .map _ | .liveMap _ =>
      let entries ← entriesOf value
      if name.identical (.str "style") then styleText entries else keyText entries
  | .list id => itemText ((← get).listAt id)
  | .tuple items => itemText items
  | other => textOf other

/-- What an attribute is written as; a bare name may be any value. -/
def writtenAttribute (name value : Value) : Observe Value := do
  match value with
  | .none | .undefined | .bool false => return .none
  | .bool true => return name
  | _ =>
      let text ← attributeText name value
      return .str ((← textOf name) ++ "=\"" ++ escapeAttribute text ++ "\"")

/-- A written attribute as text. -/
def writtenText : Value → Observe String
  | .str s => pure s
  | other => fail (.wrongType
      ("sequence item: expected str instance, " ++ other.typeName ++ " found"))

/-- The attributes of a start tag, each led by a blank. -/
def attributesText (props : Value) : Observe String := do
  let written ← (← entriesOf props).mapM fun (name, value) => writtenAttribute name value
  let kept ← written.filterM isTrue
  let texts ← kept.mapM writtenText
  return String.join (texts.map (" " ++ ·))

/-! ## Trees -/

/-- The markup of one flat child, given how what is inside is written. -/
def htmlItem (inner : Value → Observe String) : Value → Observe String
  | .text content => pure (escapeText content)
  | .undefined => pure ""
  | .node id => do
      let node := (← get).nodeAt id
      match node.type with
      | .str tag =>
          let start := "<" ++ tag ++ (← attributesText node.props) ++ ">"
          if voidElements.contains tag then return start
          else return start ++ (← inner node.children) ++ "</" ++ tag ++ ">"
      | component => inner (← call component [node.props, node.children])
  | other => do return escapeText (← textOf other)

/-- The markup of what is at most so deep. -/
def htmlWithin : Nat → Value → Observe String
  | 0, _ => throw .exhausted
  | depth + 1, renderable => do
      let parts ← (← flatten renderable).mapM (htmlItem (htmlWithin depth))
      return String.join parts

/-- How many levels a component may add to what it is given. -/
def levelsPerNode : Nat := 8

/-- The markup of nodes, text or lists of these. -/
def html (renderable : Value) : Observe String := do
  htmlWithin (levelsPerNode * (← get).depth) renderable

end ReactiveSchema.Observe
