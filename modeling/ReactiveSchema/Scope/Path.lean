import ReactiveSchema.Value.Access
import ReactiveSchema.Number.Read

/-!
# Looking a path up

A token is a path of segments.  A mapping owns its keys, a sequence the whole
numbers within its length on either side, and any other object its public
attributes; scalars own nothing.  The first candidate that owns every step of
the path answers, whatever the value is.
-/

namespace ReactiveSchema

/-- The segments of a token. -/
def splitToken (token : String) : List String :=
  (split token.toList).map String.ofList
where
  /-- Split characters at points. -/
  split : List Char → List (List Char)
    | [] => [[]]
    | c :: rest =>
        match c, split rest with
        | '.', parts => [] :: parts
        | c, part :: parts => (c :: part) :: parts
        | c, [] => [[c]]

namespace Observe

/-! ## Attributes -/

/-- Texts one after another; nothing else may be among them. -/
def joinTexts (parts : List Value) : Observe Value := do
  let texts ← parts.mapM fun part =>
    match part with
    | .str s => pure s
    | other => fail (.wrongType
        ("sequence item: expected str instance, " ++ other.typeName ++ " found"))
  return .str (String.join texts)

/-- The text of a value that is at most so deep: of a node, the texts of its children. -/
def textWithin : Nat → Value → Observe Value
  | 0, _ => throw .exhausted
  | _ + 1, .text content => pure (.str content)
  | depth + 1, .node node => do
      let children ← iterate ((← get).nodeAt node).children
      joinTexts (← children.mapM (textWithin depth))
  | _ + 1, value => do
      let own ← match value with
        | .object object => pure (((← get).objectAt object).lookup "text")
        | _ => pure none
      match own with
      | some text => return text
      | none => fail (.noAttribute value.typeName "text")

/-- The text of a node, or what else a value has for its text. -/
def nodeText (value : Value) : Observe Value := do
  textWithin (← get).levels value

/-- The text of a node, unless something below it has none. -/
def nodeText? (node : Value) : Observe (Option Value) :=
  tryCatch (do return some (← nodeText node)) fun fault =>
    if fault.isKind .attributes then pure none else throw fault

/-- The attribute of a node. -/
def nodeAttribute? (id : NodeId) (name : String) : Observe (Option Value) := do
  let node := (← get).nodeAt id
  match name with
  | "type" => return some node.type
  | "props" => return some node.props
  | "children" => return some node.children
  | "is_component" => return some (.bool !node.type.isStr)
  | "text" => nodeText? (.node id)
  | "find_all" | "iter_nodes" => return some (.method (.node id) name)
  | _ => return none

/-- The attribute of a cell. -/
def refAttribute? (id : RefId) (name : String) : Observe (Option Value) := do
  match name with
  | "value" => return some (← refGet id)
  | "peek" => return some (.method (.ref id) name)
  | _ => return none

/-- The attribute of a handled thing. -/
def handleAttribute? (kind : HandleKind) (id : Nat) (name : String) :
    Observe (Option Value) := do
  match ((← get).outlook kind id).attributes.lookup name with
  | none => return none
  | some (.plain value) => return some value
  | some (.content cell) => return some (← refPeek cell)
  | some (.group items) => return some (← newList items)
  | some .method => return some (.method (.handle kind id) name)

/-- The public attribute of an object. -/
def attribute? (object : Value) (name : String) : Observe (Option Value) := do
  match object with
  | .object id => return ((← get).objectAt id).lookup name
  | .text content => return if name = "text" then some (.str content) else none
  | .node id => nodeAttribute? id name
  | .ref id => refAttribute? id name
  | .scope id =>
      match name with
      | "label" => return some (.str id.label)
      | "serial" => return some (.int id.serial)
      | _ => return none
  | .handle kind id => handleAttribute? kind id name
  | _ => return none

/-! ## Paths -/

/-- The value of a segment in an object, if the object owns the segment. -/
def segment? (object : Value) (segment : String) : Observe (Option Value) := do
  match object with
  | .map id => return ((← get).mapAt id).find? (.str segment)
  | .liveMap id =>
      if ← liveMapHas id (.str segment) then return some (← liveMapGet id (.str segment))
      else return none
  | .tuple _ | .list _ | .liveList _ => ofSequence
  | .str _ | .int _ | .float _ | .nan _ | .complex _ _ | .bool _ | .none => return none
  | other =>
      if segment.toList.head? == some '_' then return none
      else attribute? other segment
where
  /-- The item of a sequence, by the whole number that the segment spells. -/
  ofSequence : Observe (Option Value) := do
    match Number.readInt? segment.toList with
    | none => return none
    | some index =>
        let length ← lengthOf object
        if -Int.ofNat length ≤ index ∧ index < Int.ofNat length then
          return some (← getItem object (.int index))
        else return none

/-- Follow the segments of a path from an object. -/
def follow (object : Value) : List String → Observe (Option Value)
  | [] => pure (some object)
  | segment :: rest => do
      match ← segment? object segment with
      | none => return none
      | some .missing => if rest.isEmpty then return some .missing else return none
      | some next => follow next rest

/-- The value at a path in the first candidate that owns it. -/
def findValue (candidates : List Value) (path : List String) : Observe Value :=
  match path with
  | [] => pure .missing
  | path => search path candidates
where
  /-- Search the candidates in order. -/
  search (path : List String) : List Value → Observe Value
    | [] => pure .missing
    | candidate :: rest => do
        match ← follow candidate path with
        | some value => return value
        | none => search path rest

end Observe

end ReactiveSchema
