import ReactiveSchema.Script.Containers
import ReactiveSchema.View

/-!
# Operations

What an operation of a program does with the values of its operands.  An
operation that has nothing to tell gives no value.
-/

namespace ReactiveSchema.Act

open Observe (unknown)

/-! ## Operands -/

/-- An operand; one that is not given counts as no value. -/
def operand (operands : List Value) (index : Nat) : Value :=
  operands[index]?.getD .none

/-- Do something and give no value. -/
def silently (action : Act Unit) : Act Value := do
  action
  return .none

/-- A new list as the value of an operation. -/
def listed (items : Observe (List Value)) : Act Value :=
  observe do Observe.newList (← items)

/-! ## Cells and effects -/

/-- The content of a cell. -/
def contentOf (value : Value) : Act Value :=
  match value with
  | .ref id => observe (Observe.refGet id)
  | other => observe (unknown other "value")

/-- Write the content of a cell. -/
def setContent (runner : Runner) (target content : Value) : Act Unit :=
  match target with
  | .ref id => refSet runner id content
  | other => observe (unknown other "value")

/-- The content of a cell, untracked. -/
def peekContent (value : Value) : Act Value :=
  match value with
  | .ref id => observe (Observe.refPeek id)
  | other => observe (unknown other "peek")

/-- How many effects have read a cell or a list. -/
def subscriberCount (value : Value) : Act Value := do
  let world ← get
  match value with
  | .ref id =>
      let dep := (world.memory.refs[id]?.map (·.dep)).getD 0
      return .int (world.reactor.subscribersOf dep).length
  | .liveList id => return .int (world.reactor.subscribersOf (world.memory.liveListAt id).dep).length
  | other => observe (unknown other "_dep")

/-- Run an effect. -/
def runHandle (runner : Runner) (value : Value) : Act Value :=
  match value with
  | .handle .effect id => runEffect runner id
  | other => observe (unknown other "run")

/-- Stop an effect or a group of effects. -/
def stopHandle (value : Value) : Act Unit :=
  match value with
  | .handle .effect id => stopEffect id
  | .handle .effectScope id => stopEffectScope id
  | other => observe (unknown other "stop")

/-- Whether an effect is active, how often it has run and how much state it has read. -/
def effectState (value : Value) : Act Value := do
  match value with
  | .handle .effect id =>
      let reactor := (← get).reactor
      let runs := (reactor.effects[id]?.map (·.runs)).getD 0
      listed (pure [.bool (reactor.isActive id), .int runs, .int (reactor.depsOf id).length])
  | other => observe (unknown other "active")

/-- Whether a group of effects is active, and how many effects it has. -/
def effectScopeState (value : Value) : Act Value := do
  match value with
  | .handle .effectScope id =>
      let active := (← get).reactor.scopes[id]?.any (·.active)
      let size ← observe (Observe.lengthOf value)
      listed (pure [.bool active, .int size])
  | other => observe (unknown other "active")

/-! ## Scopes -/

/-- The store that a value is. -/
def storeOf (value : Value) : Act LiveMapId :=
  match value with
  | .handle .store id => pure id
  | other => observe (unknown other "chain")

/-- The scopes of a tuple. -/
def scopesOf (value : Value) : ScopePath :=
  match value with
  | .tuple items => items.filterMap fun item =>
      match item with
      | .scope id => some id
      | _ => none
  | .scope id => [id]
  | _ => []

/-- Bind a value to a name, or every entry of a mapping. -/
def bindValue (runner : Runner) (store scopes key value : Value) : Act Unit := do
  bind runner (← storeOf store) (scopesOf scopes) <|
    match key with
    | .str _ => pure [(key, value)]
    | mapping => Observe.copyMap mapping

/-- The bindings of a scope, or none. -/
def storedBindings (store scope : Value) : Act Value := do
  let id ← storeOf store
  match scope with
  | .scope scope => observe do return (← Observe.bindingsOf id scope).getD .none
  | _ => return .none

/-- Does a store know a scope? -/
def isStored (store scope : Value) : Act Value := do
  let id ← storeOf store
  observe do return .bool (← Observe.liveMapHas id scope)

/-- A text operand. -/
def textOperand (value : Value) : String :=
  match value with
  | .str s => s
  | _ => ""

/-! ## Evaluation contexts -/

/-- The number of frames of the pass under way, and the most there were. -/
def contextState : Act Value := do
  match (← get).memory.context with
  | none => return .none
  | some context => listed (pure [.int context.frames.length, .int context.maxDepth])

/-- Refuse to go on without a pass under way. -/
def needContext (name : String) : Act Unit := do
  match (← get).memory.context with
  | none => observe (unknown .none name)
  | some _ => return ()

/-- The value of a token in the frames of the pass under way. -/
def lookupToken (token : String) : Act Value := do
  needContext "lookup"
  observe do
    match ← Observe.context? with
    | none => return .missing
    | some context => Observe.lookupFrames context.frames token

/-! ## Compilers -/

/-- The components of a mapping, by name. -/
def libraryOf (value : Value) : Act (List (String × Value)) := do
  match value with
  | .map id =>
      return ((← get).memory.mapAt id).filterMap fun (name, component) =>
        match name with
        | .str name => some (name, component)
        | _ => none
  | _ => return []

/-- The entries of a mapping that may be missing. -/
def entriesOperand (value : Value) : Act (Entries Value) := do
  match value with
  | .map id => return (← get).memory.mapAt id
  | _ => return []

/-- A new place for a renderer's record of its calls. -/
def newRecording : Act Nat :=
  modifyGet fun world =>
    (world.memory.recordings.size,
      { world with
        memory := { world.memory with recordings := world.memory.recordings.push [] } })

/-- A new compiler below one scope, whose renderer keeps record. -/
def recordingCompiler (data library components : Value) : Act Value := do
  let store ← newStore
  let environment ← newEnvironment (← entriesOperand components) true
  let recorder ← newRecording
  let scope ← observe (Observe.newScope "root")
  let library ← libraryOf library
  return .handle .compiler
    (← newCompiler ⟨data, store, library, environment, some recorder, [scope], 0⟩)

/-- A new compiler below no scope. -/
def plainCompiler (data : Value) : Act Value := do
  let store ← newStore
  let environment ← newEnvironment [] true
  return .handle .compiler (← newCompiler ⟨data, store, [], environment, none, [], 0⟩)

/-- The compiler that a value is. -/
def compilerOf (value : Value) : Act CompilerId :=
  match value with
  | .handle .compiler id => pure id
  | other => observe (unknown other "compile")

/-- A closure of a compiled part. -/
def closureOf (part : Act Thunk) : Act Value := do
  newClosure (.thunk (← part))

/-- Compile a schema. -/
def compileOperand (runner : Runner) (compiler schema : Value) : Act Value := do
  let id ← compilerOf compiler
  closureOf do compileSchema runner id (← compilerAt id).path schema

/-- Compile a node that is read before it is compiled. -/
def compileNodeOperand (runner : Runner) (compiler raw : Value) : Act Value := do
  let id ← compilerOf compiler
  let node ← observe (Observe.parseNode raw)
  closureOf do
    let path := (← compilerAt id).path
    nodeThunk id (← compileNode? runner id (← compiling runner id) path .none node)

/-- Compile attributes. -/
def compileAttributesOperand (runner : Runner) (compiler raw : Value) : Act Value := do
  let id ← compilerOf compiler
  closureOf do compileAttributes runner id (← compilerAt id).path raw

/-- Compile a condition. -/
def compileConditionOperand (runner : Runner) (compiler condition : Value) : Act Value := do
  let id ← compilerOf compiler
  closureOf do compileCondition runner id (← compilerAt id).path condition

/-- Compile the source of an expression. -/
def compileSourceOperand (runner : Runner) (compiler source : Value) : Act Value := do
  let id ← compilerOf compiler
  closureOf do compileExpression runner id (← compilerAt id).path (textOperand source)

/-- The name of the keys of a loop, or none. -/
def nameOrNone (name : Option String) : Value :=
  (name.map .str).getD .none

/-- The parts of a compiled node, each run once. -/
def compiledNodeState (node : CompiledNode) : Act Value := do
  let condition ← observe <| match node.condition with
    | none => pure .none
    | some condition => do Observe.newList [← condition.run]
  let attributes ← observe node.attributes.run
  let loop ← observe <| match node.loop with
    | none => pure .none
    | some loop => do
        Observe.newList [← loop.values.run, .str loop.valueName, nameOrNone loop.keyName]
  listed (pure [condition, node.element.getD .none, attributes,
    .bool node.children.isSome, .bool node.alternate.isSome, .int node.scopes.length, loop])

/-- Compile a raw node and tell its parts. -/
def parseOperand (runner : Runner) (compiler raw : Value) : Act Value := do
  let id ← compilerOf compiler
  let path := (← compilerAt id).path
  let node ← observe (Observe.parseNode raw)
  match ← compileNode? runner id (← compiling runner id) path raw node with
  | none => return .none
  | some compiled => compiledNodeState compiled

/-- Call a value without arguments. -/
def callOperand (runner : Runner) (value : Value) : Act Value :=
  match value with
  | .handle .closure id => callClosure id
  | .method (.handle .effect id) "run" => runEffect runner id
  | .method (.handle .effect id) "stop" => silently (stopEffect id)
  | .method (.handle .effectScope id) "stop" => silently (stopEffectScope id)
  | .method (.handle .store id) "clear" => silently (clearStore runner id)
  | .method (.handle .view id) "render" => renderNow id
  | .method (.handle .view id) "unmount" => silently (unmount id)
  | other =>
      if Observe.isCallable other then observe (Observe.call other [])
      else fail (.notCallable other.typeName)

/-- What a compiler's renderer has been asked for since this was asked last. -/
def takeCalls (compiler : Value) : Act Value := do
  match (← compilerAt (← compilerOf compiler)).recorder with
  | none => observe (unknown compiler "calls")
  | some recorder =>
      let world ← get
      let calls := (world.memory.recordings[recorder]?.getD []).reverse
      modify fun world =>
        { world with
          memory := { world.memory with
            recordings := world.memory.recordings.modify recorder fun _ => [] } }
      listed (calls.mapM fun call => do Observe.newList (← call.mapM Datum.build))

/-- How many nodes a compiler has begun, and how many scopes have bindings. -/
def compilerState (compiler : Value) : Act Value := do
  let compiler ← compilerAt (← compilerOf compiler)
  let length ← observe (Observe.liveMapLength compiler.store)
  listed (pure [.int compiler.nodeCount, .int length])

/-! ## Views -/

/-- The environment that a value is, or a new one. -/
def environmentOr (value : Value) : Act EnvironmentId :=
  match value with
  | .handle .environment id => pure id
  | .none => newEnvironment [] true
  | other => observe (unknown other "mount")

/-- The view that a value is. -/
def viewOf (value : Value) : Act ViewId :=
  match value with
  | .handle .view id => pure id
  | other => observe (unknown other "output")

/-- Mount a schema. -/
def mountOperands (runner : Runner) (schema data environment library : Value) : Act ViewId := do
  let environment ← environmentOr environment
  mount runner environment schema data (← libraryOf library)

/-- Whether a view is mounted, its counts, the size of its store and its text. -/
def viewState (value : Value) : Act Value := do
  let id ← viewOf value
  let view ← viewAt id
  let mounted ← isMounted id
  let length ← observe (Observe.liveMapLength view.store)
  let text ← observe (Observe.shown value)
  listed (pure [.bool mounted, .int view.renderCount, .int view.compileCount, .int length,
    .str text])

/-- Put so many frames on the stack and leave them there. -/
def leaveFrames : Nat → Observe Unit
  | 0 => pure ()
  | count + 1 => do
      Observe.pushFrame (← Observe.newMap [])
      leaveFrames count

/-- Render a root that leaves frames behind, as a view would. -/
def leak (value count : Value) : Act Value := do
  let view ← viewAt (← viewOf value)
  let count := ((count.index?).getD 0).toNat
  observe (Observe.evaluatePass (← isChecked view) do
    leaveFrames count
    return .text "leaky")

/-! ## Global components -/

/-- The environment that a value is. -/
def environmentOf (value : Value) : Act EnvironmentId :=
  match value with
  | .handle .environment id => pure id
  | other => observe (unknown other "components")

/-- The map of the global components of an environment. -/
def registryMap (environment : Value) : Act Value := do
  return .map (← componentsOf (← environmentOf environment))

/-- Change the global components of an environment. -/
def changeRegistry (environment : Value) (change : MapId → Observe Unit) : Act Unit := do
  changeComponents (← environmentOf environment) change

/-- The number, the names and the entries of the global components. -/
def registryEntries (environment : Value) : Act Value := do
  let map ← registryMap environment
  let keys ← listed (Observe.keysOf map)
  let entries ← listed (Observe.pairsOf map)
  let size ← observe (Observe.lengthOf map)
  listed (pure [.int size, keys, entries])

/-! ## All operations -/

/-- Carry out an operation. -/
def operate (runner : Runner) (operation : Operation) (operands : List Value) : Act Value :=
  let a := operand operands 0
  let b := operand operands 1
  let c := operand operands 2
  let d := operand operands 3
  match operation with
  | .same => pure (.bool (a.identical b))
  | .equal => observe do return .bool (← Observe.equal a b)
  | .add => observe (Observe.sum a b)
  | .multiply => observe (Observe.mul a b)
  | .less => observe do return .bool (← Observe.less a b)
  | .shown => observe do return .str (← Observe.shown a)
  | .text => observe do return .str (← Observe.textOf a)
  | .truth => observe do return .bool (← Observe.isTrue a)
  | .newRef => observe do return .ref (← Observe.newRef a)
  | .makeLive => observe (Observe.makeLive a)
  | .newLiveMap => observe do Observe.makeLive (← Observe.newMap [])
  | .newLiveList => observe do Observe.makeLive (← Observe.newList [])
  | .raw => do return (← get).memory.toRaw a
  | .isLive => pure (.bool a.isLive)
  | .getRef => contentOf a
  | .setRef => silently (setContent runner b a)
  | .peekRef => peekContent a
  | .subscriberCount => subscriberCount a
  | .at => observe (Observe.getPath a operands.tail)
  | .slice => observe (Observe.getSlice a b c d)
  | .has => observe do return .bool (← Observe.contains a b)
  | .length => observe do return .int (← Observe.lengthOf a)
  | .list => listed (Observe.iterate a)
  | .reversed => listed (Observe.reversedItems a)
  | .keys => listed (Observe.keysOf a)
  | .values => listed (Observe.valuesOf a)
  | .entries => listed (Observe.pairsOf a)
  | .get => observe (Observe.getEntry a b c)
  | .set => silently (setItem runner b c a)
  | .delete => silently (deleteItem runner a b)
  | .setSlice => silently (setSlice runner b c d a)
  | .deleteSlice => silently (deleteSlice runner a b c)
  | .update => silently (updateMap runner a b)
  | .pop => popItem runner a operands[1]? operands[2]?
  | .popEntry => popEntry runner a
  | .clear => silently (clear runner a)
  | .setDefault => setDefault runner a b c
  | .append => silently (append runner a b)
  | .insert => silently (insertItem runner a b c)
  | .extend => silently (extend runner a b)
  | .extendInPlace => silently (extendInPlace runner a b)
  | .remove => silently (removeItem runner a b)
  | .reverse => silently (reverseItems runner a)
  | .indexOf => observe do return .int (← Observe.firstPlace a b)
  | .count => observe do return .int (← Observe.countOf a b)
  | .runEffect => runHandle runner a
  | .stop => silently (stopHandle a)
  | .effectState => effectState a
  | .newEffectScope => do return .handle .effectScope (← newEffectScope)
  | .effectScopeState => effectScopeState a
  | .newScope => observe do return .scope (← Observe.newScope (textOperand a))
  | .newStore => do return .handle .store (← newStore)
  | .bind => silently (bindValue runner a b c d)
  | .storeGet => storedBindings a b
  | .storeHas => isStored a b
  | .chain => do
      let store ← storeOf a
      listed (Observe.chain store (scopesOf b) c)
  | .find => do
      let store ← storeOf a
      observe (Observe.findInScopes store (scopesOf b) c (splitToken (textOperand d)))
  | .resolve => do
      let store ← storeOf a
      return .ref (← resolve runner c store (scopesOf b) (textOperand d))
  | .pushFrame => do
      needContext "iteration_scopes"
      silently (observe (Observe.pushFrame a))
  | .contextState => contextState
  | .lookup => lookupToken (textOperand a)
  | .check => observe (Observe.checkScope a (textOperand b))
  | .newCompiler => recordingCompiler a b c
  | .newPlainCompiler => plainCompiler a
  | .compile => compileOperand runner a b
  | .compileNode => compileNodeOperand runner a b
  | .compileAttributes => compileAttributesOperand runner a b
  | .compileCondition => compileConditionOperand runner a b
  | .compileExpression => compileSourceOperand runner a b
  | .parse => parseOperand runner a b
  | .call => callOperand runner a
  | .calls => takeCalls a
  | .compilerState => compilerState a
  | .newEnvironment => do
      return .handle .environment (← newEnvironment (← entriesOperand a) b.isTruthy)
  | .defaultEnvironment => do return .handle .environment (← defaultEnvironment)
  | .renderOnce => do
      let environment ← environmentOr c
      renderOnce runner environment a b (← libraryOf d)
  | .viewData => do return (← viewAt (← viewOf a)).data
  | .viewOutput => do return (← viewAt (← viewOf a)).output
  | .html => observe do return .str (← Observe.html a)
  | .viewRender => do renderNow (← viewOf a)
  | .setSchema => do silently (setSchema runner (← viewOf a) b)
  | .getSchema => do observe (Observe.refPeek (← viewAt (← viewOf a)).schema)
  | .viewState => viewState a
  | .unmount => do silently (unmount (← viewOf a))
  | .leak => leak a b
  | .registrySet => silently (changeRegistry a fun map => Observe.mapSet map b c)
  | .registryDelete => silently (changeRegistry a fun map => Observe.mapDelete map b)
  | .registryAt => do observe (Observe.getItem (← registryMap a) b)
  | .registryGet => do observe (Observe.getEntry (← registryMap a) b c)
  | .registryHas => do
      let map ← registryMap a
      observe do return .bool (← Observe.contains b map)
  | .registryUpdate => silently (changeRegistry a fun map => Observe.mapUpdate map b)
  | .registryEntries => registryEntries a
  | .registryMap => registryMap a
  | .findAll => listed (Observe.findAll a b)
  | .nodeText => observe (Observe.nodeText a)
  | .nodeTypes => listed (Observe.nodeTypes a)

end ReactiveSchema.Act
