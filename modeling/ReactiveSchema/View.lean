import ReactiveSchema.Markup.Html
import ReactiveSchema.Schema.Compile
import ReactiveSchema.Value.Snapshot

/-!
# Views

A view is a schema mounted on live data.  One effect compiles the schema
whenever another one is assigned, a later one renders it whenever what the
last pass has read has changed, and then tells the listeners.
-/

namespace ReactiveSchema

namespace Observe

/-- Render within a pass of its own; a pass that is checked must leave no frame behind. -/
def evaluatePass (checked : Bool) (root : Observe Value) : Observe Value := do
  let (output, depth) ← withFreshContext do
    let output ← root
    return (output, ← frameDepth)
  if checked && depth != 0 then throw (.unbalanced depth 0) else return output

end Observe

namespace Act

/-! ## Environments -/

/-- A new environment with global components. -/
def newEnvironment (components : Entries Value) (debug : Bool) : Act EnvironmentId := do
  let map ← observe (Observe.newMapId components)
  modifyGet fun world =>
    (world.environments.size,
      { world with environments := world.environments.push ⟨map, debug⟩ })

/-- The environment that is used where none is named. -/
def defaultEnvironment : Act EnvironmentId := do
  match (← get).defaultEnvironment with
  | some id => return id
  | none => do
      let id ← newEnvironment [] true
      modify fun world => { world with defaultEnvironment := some id }
      return id

/-- The map of the global components of an environment. -/
def componentsOf (id : EnvironmentId) : Act MapId := do
  return ((← get).environments[id]?.map (·.components)).getD 0

/-- Replace the global components of an environment by a changed copy. -/
def changeComponents (id : EnvironmentId) (change : MapId → Observe Unit) : Act Unit := do
  let old ← componentsOf id
  let new ← observe do
    let copy ← Observe.newMapId ((← get).mapAt old)
    change copy
    return copy
  modify fun world =>
    { world with
      environments := world.environments.modify id fun environment =>
        { environment with components := new } }

/-! ## Compilers -/

/-- A new compiler. -/
def newCompiler (compiler : Compiler) : Act CompilerId :=
  modifyGet fun world =>
    (world.compilers.size, { world with compilers := world.compilers.push compiler })

/-! ## Views -/

/-- Look at a view. -/
def viewAt (id : ViewId) : Act View := do
  match (← get).views[id]? with
  | some view => return view
  | none => return ⟨0, [], .none, 0, 0, 0, none, [], .none, 0, 0, 0, 0⟩

/-- Change a view. -/
def modifyView (id : ViewId) (change : View → View) : Act Unit :=
  modify fun world => { world with views := world.views.modify id change }

/-- The compiled part that a value names. -/
def thunkOf (closure : Value) : Act Thunk := do
  match closure with
  | .handle .closure id =>
      match (← get).closures[id]? with
      | some (.thunk part) => return part
      | _ => return .nothing
  | _ => return .nothing

/-- Does a view check its passes? -/
def isChecked (view : View) : Act Bool := do
  return (← get).environments[view.environment]?.any (·.debug)

/-- Stop the resolving effects of a view's latest compilation. -/
def stopResolvers (id : ViewId) : Act Unit := do
  match (← viewAt id).resolvers with
  | none => return ()
  | some scope => stopEffectScope scope

/-- Compile a schema for a view, in a new store and with new resolving effects. -/
def compileFor (runner : Runner) (id : ViewId) (schema : Value) : Act Value := do
  stopResolvers id
  let resolvers ← newEffectScope
  modifyView id fun view => { view with resolvers := some resolvers }
  let store ← newStore
  modifyView id fun view => { view with store }
  let view ← viewAt id
  let compiler ← newCompiler
    ⟨view.data, store, view.library, view.environment, none, [], 0⟩
  let root ← within resolvers do
    let scope ← observe (Observe.newScope "root")
    compileSchema runner compiler [scope] schema
  modifyView id fun view => { view with compileCount := view.compileCount + 1 }
  let world ← get
  observe (Observe.log ("DEBUG skema.view: Compiled schema: " ++
    toString (← compilerAt compiler).nodeCount ++ " nodes, " ++
    toString (world.reactor.membersOf resolvers).length ++ " resolver effects"))
  newClosure (.thunk root)

/-- Compile the schema of a view; what it is compiled to goes to the root cell. -/
def compileView (runner : Runner) (id : ViewId) : Act Unit := do
  let schema ← observe (Observe.refGet (← viewAt id).schema)
  let root ← untracked (compileFor runner id schema)
  refSet runner (← viewAt id).root root

/-- Call a listener with the output of a pass. -/
def callListener (runner : Runner) (id : ListenerId) (output : Value) : Act Unit := do
  match (← get).listeners[id]? with
  | none => return ()
  | some listener => do
      let text ← observe (Observe.html output)
      modify fun world =>
        { world with entries := [.str listener.name, .str text] :: world.entries }
      if listener.times != 0 then
        modify fun world =>
          { world with
            listeners := world.listeners.modify id fun listener =>
              { listener with times := listener.times - 1 } }
        let _ ← runner.perform (.program listener.name listener.steps)

/-- Call listeners one after another. -/
def callListeners (runner : Runner) (output : Value) : List ListenerId → Act Unit
  | [] => pure ()
  | id :: rest => do
      callListener runner id output
      callListeners runner output rest

/-- Render a view and tell the listeners that it had when the pass was over. -/
def renderView (runner : Runner) (id : ViewId) : Act Unit := do
  let view ← viewAt id
  let root ← thunkOf (← observe (Observe.refGet view.root))
  let output ← observe (Observe.evaluatePass (← isChecked view) root.run)
  modifyView id fun view => { view with output, renderCount := view.renderCount + 1 }
  let view ← viewAt id
  observe (Observe.log ("DEBUG skema.view: Rendered schema view (pass " ++
    toString view.renderCount ++ ")"))
  untracked (callListeners runner output view.listeners)

/-- Mount a schema on data, which is made live. -/
def mount (runner : Runner) (environment : EnvironmentId) (schema data : Value)
    (library : List (String × Value)) : Act ViewId := do
  let data ← observe <| match data with
    | .none => do Observe.makeLive (← Observe.newMap [])
    | given => Observe.makeLive given
  let schema ← observe (Observe.newRef schema)
  let root ← observe (Observe.newRef (← newClosure (.thunk .nothing)))
  let store ← newStore
  let id ← modifyGet fun world =>
    (world.views.size,
      { world with
        views := world.views.push
          ⟨environment, library, data, schema, root, store, none, [], .none, 0, 0, 0, 0⟩ })
  let compileEffect ← newMember (.compile id) .pre
  modifyView id fun view => { view with compileEffect }
  let _ ← runEffect runner compileEffect
  let renderEffect ← newMember (.render id) .post
  modifyView id fun view => { view with renderEffect }
  let _ ← runEffect runner renderEffect
  return id

/-- Stop a view: it no longer reacts and has no listeners. -/
def unmount (id : ViewId) : Act Unit := do
  let view ← viewAt id
  stopEffect view.renderEffect
  stopEffect view.compileEffect
  stopResolvers id
  modifyView id fun view => { view with listeners := [] }

/-- Mount a schema, take the output and unmount. -/
def renderOnce (runner : Runner) (environment : EnvironmentId) (schema data : Value)
    (library : List (String × Value)) : Act Value := do
  let id ← mount runner environment schema data library
  let output := (← viewAt id).output
  unmount id
  return output

/-- Assign another schema, which is compiled and rendered. -/
def setSchema (runner : Runner) (id : ViewId) (schema : Value) : Act Unit := do
  refSet runner (← viewAt id).schema schema

/-- Render a view as it is now, on nobody's behalf and without telling anyone. -/
def renderNow (id : ViewId) : Act Value :=
  untracked do
    let view ← viewAt id
    let root ← thunkOf (← observe (Observe.refPeek view.root))
    observe (Observe.evaluatePass (← isChecked view) root.run)

/-- Does a view still react? -/
def isMounted (id : ViewId) : Act Bool := do
  let world ← get
  return world.reactor.isActive (← viewAt id).renderEffect

/-- Register a listener; the closure ends the registration. -/
def subscribe (id : ViewId) (listener : ListenerId) : Act Value := do
  modifyView id fun view => { view with listeners := view.listeners ++ [listener] }
  newClosure (.unsubscribe id listener)

/-- Call a closure. -/
def callClosure (id : Nat) : Act Value := do
  match (← get).closures[id]? with
  | none => return .none
  | some (.thunk part) => observe part.run
  | some (.unsubscribe view listener) => do
      modifyView view fun view => { view with listeners := view.listeners.erase listener }
      return .none

end Act

end ReactiveSchema
