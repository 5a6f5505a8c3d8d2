import ReactiveSchema.Value.Access

/-!
# Schema nodes

Raw schema data is sorted into four kinds of nodes: text, elements, components
and conditionals.  Elements and components may carry a guard, bindings and a
loop.  Data of no such shape is no node.
-/

namespace ReactiveSchema

/-- A loop: the names that an iteration binds, and where the values come from. -/
structure Loop where
  valueName : String
  keyName : Option String
  values : Value

/-- What elements and components have in common. -/
structure NodeParts where
  /-- The attributes of an element, the properties of a component. -/
  attributes : Value
  children : Value
  guard : Option Value
  bindings : Option Value
  loop : Option Loop

/-- A schema node. -/
inductive SchemaNode where
  | text (content : String)
  | element (tag : String) (parts : NodeParts)
  /-- A component by name, or a component itself. -/
  | component (ref : Value) (parts : NodeParts)
  | conditional (condition body : Value) (otherwise : Option Value)

/-- The tag of text elements. -/
def textTag : String := "text"

namespace Observe

/-- Does a mapping have a key? -/
def hasKey (mapping : Value) (key : String) : Observe Bool :=
  contains (.str key) mapping

/-- The value of a key of a mapping, or none. -/
def entryOf (mapping : Value) (key : String) : Observe Value :=
  getEntry mapping (.str key) .none

/-- The value of a key, if the mapping has it. -/
def entryOf? (mapping : Value) (key : String) : Observe (Option Value) := do
  if ← hasKey mapping key then return some (← getItem mapping (.str key)) else return none

/-- Is this a mapping with a condition and a branch? -/
def isConditional (raw : Value) : Observe Bool := do
  if !raw.isMapping then return false
  else if ← hasKey raw "if" then hasKey raw "then"
  else return false

/-- The loop of its parts. -/
def loopOf (parts : List Value) : Observe (Option Loop) := do
  match parts with
  | [.str valueName, values] => return some ⟨valueName, none, values⟩
  | [.str valueName, keyName, values] =>
      return some ⟨valueName, some (← textOf keyName), values⟩
  | _ => return none

/-- Read a loop; other shapes are no loop. -/
def parseLoop (raw : Value) : Observe (Option Loop) := do
  match raw with
  | .tuple items => loopOf items
  | .list id => loopOf ((← get).listAt id)
  | _ => return none

/-- Read bindings, of which there must be some. -/
def parseBindings (raw : Value) : Observe (Option Value) := do
  let bindings ← entryOf raw "let"
  if bindings.isMapping then
    if ← isTrue bindings then return some bindings else return none
  else return none

/-- Read what elements and components have in common. -/
def parseParts (attributesKey : String) (raw : Value) : Observe NodeParts := do
  let attributes ← entryOf raw attributesKey
  let children ← entryOf raw "children"
  let guard ← entryOf? raw "if"
  let bindings ← parseBindings raw
  let loop ← parseLoop (← entryOf raw "for")
  return ⟨attributes, children, guard, bindings, loop⟩

/-- Read an element of the given tag, which must be text of some length. -/
def parseElement (raw tag : Value) : Observe (Option SchemaNode) := do
  match tag with
  | .str tag =>
      if tag.isEmpty then return none
      else return some (.element tag (← parseParts "attrs" raw))
  | _ => return none

/-- Read a component of the given reference, which must be given. -/
def parseComponent (raw ref : Value) : Observe (Option SchemaNode) := do
  match ref with
  | .none => return none
  | _ =>
      if ← equal ref (.str "") then return none
      else return some (.component ref (← parseParts "props" raw))

/-- Read a mapping as a node. -/
def parseMapping (raw : Value) : Observe (Option SchemaNode) := do
  match ← entryOf? raw "$el" with
  | some tag => parseElement raw tag
  | none =>
      match ← entryOf? raw "$cmp" with
      | some ref => parseComponent raw ref
      | none =>
          if ← isConditional raw then
            let condition ← getItem raw (.str "if")
            let body ← getItem raw (.str "then")
            return some (.conditional condition body (← entryOf? raw "else"))
          else return none

/-- Read a node. -/
def parseNode (raw : Value) : Observe (Option SchemaNode) :=
  match raw with
  | .str content => pure (some (.text content))
  | _ => if raw.isMapping then parseMapping raw else pure none

end Observe

end ReactiveSchema
