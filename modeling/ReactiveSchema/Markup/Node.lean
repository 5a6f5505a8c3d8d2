import ReactiveSchema.Scope.Path

/-!
# Nodes

Children come nested and with gaps; a node holds them flat, as nodes and text
nodes only.
-/

namespace ReactiveSchema.Observe

/-! ## Flat children -/

/-- Nested children in order, without the gaps, given how inner lists are flattened. -/
def flattenStep (deeper : Value → Observe (List Value)) : Value → Observe (List Value)
  | .none => pure []
  | .tuple items => flattenTuple deeper items
  | .list id => do
      let memory ← get
      return (← (memory.listAt id).mapM deeper).flatten
  | other => pure [other]
where
  /-- The items of a tuple, flattened one after another. -/
  flattenTuple (deeper : Value → Observe (List Value)) : List Value → Observe (List Value)
    | [] => pure []
    | item :: rest => do
        let first ← flattenStep deeper item
        return first ++ (← flattenTuple deeper rest)

/-- Nested children that are at most so deep, flattened. -/
def flattenWithin : Nat → Value → Observe (List Value)
  | 0, _ => throw .exhausted
  | depth + 1, children => flattenStep (flattenWithin depth) children

/-- Nested children in order, without the gaps. -/
def flatten (children : Value) : Observe (List Value) := do
  flattenWithin (← get).depth children

/-- The nested children of a node that is built, flattened. -/
def flatChildren (children : Value) : Observe (List Value) := do
  flattenWithin (← get).levels children

/-! ## Building nodes -/

/-- A child as a node: anything else becomes a text node. -/
def toChild : Value → Observe Value
  | .node id => pure (.node id)
  | .text content => pure (.text content)
  | other => do return .text (← textOf other)

/-- A new node with its own map of properties and flat children. -/
def makeNode (type attributes children : Value) : Observe Value := do
  let entries ← if ← isTrue attributes then copyMap attributes else pure []
  let props ← newMap entries
  let items ← (← flatChildren children).mapM toChild
  newNode type props (← newList items)

/-! ## Walking nodes -/

/--
Walk over the nodes at and below a value that is at most so deep, each before
its children, and keep what `visit` gives for each of them.
-/
def walkWithin {α : Type} (visit : NodeCell → Value → Observe (List α)) :
    Nat → Value → Observe (List α)
  | 0, _ => throw .exhausted
  | depth + 1, .node id => do
      let node := (← get).nodeAt id
      let own ← visit node (.node id)
      let children ← iterate node.children
      return own ++ (← children.mapM (walkWithin visit depth)).flatten
  | _ + 1, _ => pure []

/-- Walk over a node and all nodes below it; `name` is what the walk is asked for as. -/
def walk {α : Type} (name : String) (visit : NodeCell → Value → Observe (List α))
    (node : Value) : Observe (List α) := do
  match node with
  | .node _ => walkWithin visit (← get).levels node
  | other => fail (.noAttribute other.typeName name)

/-- The types of a node and of all nodes below it, each before its children. -/
def nodeTypes (node : Value) : Observe (List Value) :=
  walk "iter_nodes" (fun cell _ => pure [cell.type]) node

/-- The nodes of a type at and below a node. -/
def findAll (node type : Value) : Observe (List Value) :=
  walk "find_all" (fun cell self => do
    return if ← equal cell.type type then [self] else []) node

/-- The type of a node. -/
def typeOf (node : Value) : Observe Value := do
  match node with
  | .node id => return ((← get).nodeAt id).type
  | other => fail (.noAttribute other.typeName "type")

end ReactiveSchema.Observe
