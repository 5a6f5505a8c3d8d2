import ReactiveSchema.Schema.Node
import ReactiveSchema.Scope.Store

/-!
# Compiling schemas

A schema is walked once, from the outside in.  Every node gets a scope of its
own, and every token of its expressions a cell that follows the token's value
in the scopes around the node.
-/

namespace ReactiveSchema

/-- A compiled loop. -/
structure CompiledLoop where
  values : Thunk
  valueName : String
  keyName : Option String

/-- What a node is compiled to, part by part. -/
structure CompiledNode where
  condition : Option Thunk
  /-- A tag or a component; conditionals have none. -/
  element : Option Value
  attributes : Thunk
  children : Option Thunk
  alternate : Option Thunk
  scopes : ScopePath
  loop : Option CompiledLoop

namespace CompiledNode

/-- The part that builds the node itself. -/
def elementThunk (recorder : Recorder) (node : CompiledNode) (element : Value) : Thunk :=
  if element.identical (.str textTag) then
    .textNode recorder (node.children.getD (.constant (.str "")))
  else .node recorder element node.attributes (node.children.getD (.all []))

/-- The part that renders the node once. -/
def once (recorder : Recorder) (node : CompiledNode) : Thunk :=
  let otherwise := node.alternate.getD .nothing
  match node.element, node.condition, node.children with
  | some element, none, _ => node.elementThunk recorder element
  | some element, some condition, _ =>
      .choose condition (node.elementThunk recorder element) otherwise
  | none, some condition, some children => .choose condition children otherwise
  | none, _, _ => otherwise

/-- The part that renders the node. -/
def thunk (recorder : Recorder) (node : CompiledNode) : Thunk :=
  match node.loop with
  | none => node.once recorder
  | some loop => .repeated loop.values loop.valueName loop.keyName (node.once recorder)

end CompiledNode

namespace Act

/-- The compiler of a number. -/
def compilerAt (id : CompilerId) : Act Compiler := do
  match (← get).compilers[id]? with
  | some compiler => return compiler
  | none => return ⟨.none, 0, [], 0, none, [], 0⟩

/-! ## Expressions -/

/-- Cells that follow the values of tokens. -/
def resolveAll (runner : Runner) (compiler : Compiler) (scopes : ScopePath) :
    List String → Act (List RefId)
  | [] => pure []
  | token :: rest => do
      let cell ← resolve runner compiler.data compiler.store scopes token
      return cell :: (← resolveAll runner compiler scopes rest)

/-- Compile the source of an expression. -/
def compileExpression (runner : Runner) (id : CompilerId) (scopes : ScopePath)
    (source : String) : Act Thunk := do
  let expression ← observe (Observe.compileSource source)
  let compiler ← compilerAt id
  let cells ← resolveAll runner compiler scopes expression.tokens
  return .expression ⟨expression, cells⟩

/-- Compile a condition: text is always an expression, anything else a constant. -/
def compileCondition (runner : Runner) (id : CompilerId) (scopes : ScopePath)
    (condition : Value) : Act Thunk :=
  match condition with
  | .str source => compileExpression runner id scopes source
  | constant => pure (.constant constant)

/-! ## Attributes -/

/-- Compile a conditional among attributes, given how its branches are compiled. -/
def compileChoice (runner : Runner) (id : CompilerId) (scopes : ScopePath)
    (branch : Value → Act Thunk) (raw : Value) (otherwise : Thunk) : Act Thunk := do
  let condition ← observe (Observe.getItem raw (.str "if"))
  let condition ← compileCondition runner id scopes condition
  let body ← branch (← observe (Observe.getItem raw (.str "then")))
  match ← observe (Observe.entryOf? raw "else") with
  | none => return .choose condition body otherwise
  | some other => return .choose condition body (← branch other)

/-- Compile the values of attributes one after another. -/
def compileSlots (slot : Value → Act Thunk) :
    List (Value × Value) → Act (List (Value × Thunk))
  | [] => pure []
  | (name, value) :: rest => do
      let part ← if value.isDynamic || value.isMapping then slot value
        else pure (.constant value)
      return (name, part) :: (← compileSlots slot rest)

/-- Compile a map of attributes, given how their values are compiled. -/
def compileMap (runner : Runner) (id : CompilerId) (scopes : ScopePath)
    (slot : Value → Act Thunk) (raw : Value) : Act Thunk := do
  if ← observe (Observe.isConditional raw) then
    compileChoice runner id scopes slot raw (.attributes [])
  else
    let entries ← observe (Observe.entriesOf raw)
    return .attributes (← compileSlots slot entries)

/-- Compile the value of an attribute, given how what is inside is compiled. -/
def compileSlotStep (runner : Runner) (id : CompilerId) (scopes : ScopePath)
    (deeper : Value → Act Thunk) (value : Value) : Act Thunk := do
  match value with
  | .str source =>
      if value.isDynamic then compileExpression runner id scopes source
      else return .constant value
  | _ =>
      if ← observe (Observe.isConditional value) then
        compileChoice runner id scopes deeper value .nothing
      else if value.isMapping then compileMap runner id scopes deeper value
      else return .constant value

/-- Compile the value of an attribute that is at most so deep. -/
def compileSlotWithin (runner : Runner) (id : CompilerId) (scopes : ScopePath) :
    Nat → Value → Act Thunk
  | 0, _ => throw .exhausted
  | depth + 1, value =>
      compileSlotStep runner id scopes (compileSlotWithin runner id scopes depth) value

/-- Compile attributes; what is not a mapping gives none. -/
def compileAttributes (runner : Runner) (id : CompilerId) (scopes : ScopePath)
    (raw : Value) : Act Thunk := do
  if raw.isMapping then
    let depth := (← get).memory.depth
    compileMap runner id scopes (compileSlotWithin runner id scopes depth) raw
  else return .nothing

/-! ## Nodes -/

/-- How a schema is compiled below the scopes of a place. -/
abbrev CompileSchema := ScopePath → Value → Act Thunk

/-- The component of a name: a local one, a global one, or a plain tag of the name. -/
def componentOf (compiler : Compiler) (name : String) : Act Value := do
  match compiler.library.lookup name with
  | some component => return component
  | none => do
      let world ← get
      let components := (world.environments[compiler.environment]?.map (·.components)).getD 0
      match ((world.memory.mapAt components).find? (.str name)).getD .none with
      | .none => do
          observe (Observe.log ("WARNING skema.rendering: Failed to resolve component " ++
            Text.quoted name ++ "; rendering it as a tag"))
          return .str name
      | component => return component

/-- The element of a reference to a component. -/
def elementOf (compiler : Compiler) (ref : Value) : Act Value :=
  match ref with
  | .str name => componentOf compiler name
  | component => pure component

/-- Compile the condition and the branches of a conditional. -/
def compileConditional (runner : Runner) (id : CompilerId) (deeper : CompileSchema)
    (scopes : ScopePath) (condition body : Value) (otherwise : Option Value) :
    Act (Thunk × Thunk × Option Thunk) := do
  let condition ← compileCondition runner id scopes condition
  let body ← deeper scopes body
  match otherwise with
  | none => return (condition, body, none)
  | some .none => return (condition, body, none)
  | some other => return (condition, body, some (← deeper scopes other))

/-- Compile children that are given as a mapping. -/
def compileMappedChildren (runner : Runner) (id : CompilerId) (deeper : CompileSchema)
    (scopes : ScopePath) (children : Value) : Act Thunk := do
  let node ← if ← observe (Observe.isConditional children) then
      observe (Observe.parseNode children)
    else pure none
  match node with
  | some (.conditional condition body otherwise) =>
      let (condition, body, otherwise) ←
        compileConditional runner id deeper scopes condition body otherwise
      return .choose condition body (otherwise.getD .nothing)
  | _ => deeper scopes children

/-- Compile children. -/
def compileChildren (runner : Runner) (id : CompilerId) (deeper : CompileSchema)
    (scopes : ScopePath) (children : Value) : Act Thunk := do
  match children with
  | .str source =>
      if children.isDynamic then
        return .text (← compileExpression runner id scopes source)
      else return .constant children
  | .list _ | .tuple _ => deeper scopes children
  | .map _ | .liveMap _ => compileMappedChildren runner id deeper scopes children
  | other => return .constant (.str (← observe (Observe.stringify other)))

/-- Compile a loop. -/
def compileLoop (runner : Runner) (id : CompilerId) (scopes : ScopePath) (loop : Loop) :
    Act CompiledLoop := do
  let values ←
    match loop.values with
    | .str source =>
        if loop.values.isDynamic then compileExpression runner id scopes source
        else pure (.constant loop.values)
    | constant => pure (.constant constant)
  return ⟨values, loop.valueName, loop.keyName⟩

/-- Compile what is given at most. -/
def compileGiven {α γ : Type} (compile : α → Act γ) : Option α → Act (Option γ)
  | none => pure none
  | some given => do return some (← compile given)

/-- Compile the guard, the bindings, the children and the loop of a node. -/
def compileParts (runner : Runner) (id : CompilerId) (deeper : CompileSchema)
    (scopes : ScopePath) (element : Value) (attributes : Thunk) (parts : NodeParts) :
    Act CompiledNode := do
  let condition ← compileGiven (compileCondition runner id scopes) parts.guard
  let compiler ← compilerAt id
  match parts.bindings with
  | none => pure ()
  | some bindings => bind runner compiler.store scopes (Observe.copyMap bindings)
  let children ←
    if ← observe (Observe.isTrue parts.children) then
      pure (some (← compileChildren runner id deeper scopes parts.children))
    else pure none
  let loop ← compileGiven (compileLoop runner id scopes) parts.loop
  return ⟨condition, some element, attributes, children, none, scopes, loop⟩

/-- Compile a node within its own scope. -/
def compileNodeAt (runner : Runner) (id : CompilerId) (deeper : CompileSchema)
    (scopes : ScopePath) (node : SchemaNode) : Act CompiledNode := do
  match node with
  | .text content =>
      let children ← compileChildren runner id deeper scopes (.str content)
      return ⟨none, some (.str textTag), .nothing, some children, none, scopes, none⟩
  | .conditional condition body otherwise =>
      let (condition, body, otherwise) ←
        compileConditional runner id deeper scopes condition body otherwise
      return ⟨some condition, none, .nothing, some body, otherwise, scopes, none⟩
  | .element tag parts =>
      let attributes ← if tag = textTag then pure .nothing
        else compileAttributes runner id scopes parts.attributes
      compileParts runner id deeper scopes (.str tag) attributes parts
  | .component ref parts =>
      let element ← elementOf (← compilerAt id) ref
      let attributes ← compileAttributes runner id scopes parts.attributes
      compileParts runner id deeper scopes element attributes parts

/-- Count a node that a compiler has begun. -/
def countNode (id : CompilerId) : Act Unit :=
  modify fun world =>
    { world with
      compilers := world.compilers.modify id fun compiler =>
        { compiler with nodeCount := compiler.nodeCount + 1 } }

/-- Compile a node below the scopes of its place; `raw` is named in the log if it is none. -/
def compileNode? (runner : Runner) (id : CompilerId) (deeper : CompileSchema)
    (around : ScopePath) (raw : Value) (node : Option SchemaNode) :
    Act (Option CompiledNode) := do
  match node with
  | none => do
      observe (Observe.log ("DEBUG skema.compiler.elements: Ignoring malformed schema node: " ++
        ((← get).memory.shown? raw).getD ""))
      return none
  | some node => do
      countNode id
      let scope ← observe (Observe.newScope "")
      return some (← compileNodeAt runner id deeper (around ++ [scope]) node)

/-- The part that renders a compiled node, or nothing. -/
def nodeThunk (id : CompilerId) (node : Option CompiledNode) : Act Thunk := do
  match node with
  | none => return .nothing
  | some node => return node.thunk (← compilerAt id).recorder

/-- Compile one raw node. -/
def compileRaw (runner : Runner) (id : CompilerId) (deeper : CompileSchema)
    (around : ScopePath) (raw : Value) : Act Thunk := do
  let node ← observe (Observe.parseNode raw)
  nodeThunk id (← compileNode? runner id deeper around raw node)

/-- Compile raw nodes one after another. -/
def compileRawAll (runner : Runner) (id : CompilerId) (deeper : CompileSchema)
    (around : ScopePath) : List Value → Act (List Thunk)
  | [] => pure []
  | raw :: rest => do
      let first ← compileRaw runner id deeper around raw
      return first :: (← compileRawAll runner id deeper around rest)

/-- Compile a schema that is at most so deep: a node, or a list of nodes. -/
def compileWithin (runner : Runner) (id : CompilerId) : Nat → CompileSchema
  | 0, _, _ => throw .exhausted
  | depth + 1, around, schema => do
      let deeper := compileWithin runner id depth
      match schema with
      | .tuple items => return .all (← compileRawAll runner id deeper around items)
      | .list list =>
          let items := (← get).memory.listAt list
          return .all (← compileRawAll runner id deeper around items)
      | node => compileRaw runner id deeper around node

/-- How a compiler compiles schemas. -/
def compiling (runner : Runner) (id : CompilerId) : Act CompileSchema := do
  return compileWithin runner id (← get).memory.depth

/-- Compile a schema below the scopes of a place. -/
def compileSchema (runner : Runner) (id : CompilerId) (around : ScopePath) (schema : Value) :
    Act Thunk := do
  (← compiling runner id) around schema

end Act

end ReactiveSchema
