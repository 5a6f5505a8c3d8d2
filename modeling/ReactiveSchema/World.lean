import ReactiveSchema.Reactive.Graph
import ReactiveSchema.Schema.Thunk
import ReactiveSchema.Script.Action

/-!
# The world

Memory, the effects that watch it, and everything that is built on both:
environments, compilers, views and the variables of a program.
-/

namespace ReactiveSchema

/-- An environment, by number. -/
abbrev EnvironmentId := Nat

/-- A compiler, by number. -/
abbrev CompilerId := Nat

/-- A view, by number. -/
abbrev ViewId := Nat

/-- A listener, by number. -/
abbrev ListenerId := Nat

/-- What an effect does. -/
inductive Body where
  /-- Keep a cell at the value of a path in the scopes around a place. -/
  | resolve (cell : RefId) (data : Value) (store : LiveMapId) (scopes : ScopePath)
      (path : List String)
  /-- Compile the schema of a view. -/
  | compile (view : ViewId)
  /-- Render a view and tell its listeners. -/
  | render (view : ViewId)
  /-- Run the steps of a program. -/
  | program (name : String) (steps : List Action)

/-- The name of what an effect does. -/
def Body.name : Body → String
  | resolve .. => "update"
  | compile _ => "_compile"
  | render _ => "_rerender"
  | program name _ => name

/-- What can be called without arguments. -/
inductive Closure where
  | thunk (part : Thunk)
  /-- End a registration of a listener with a view. -/
  | unsubscribe (view : ViewId) (listener : ListenerId)

/-- A listener that runs steps the first few times it is called. -/
structure Listener where
  name : String
  /-- How many more times it runs its steps. -/
  times : Nat
  steps : List Action

/-- What the views of one kind have in common. -/
structure Environment where
  /-- The components that every schema may name; a change makes a new map. -/
  components : MapId
  /-- Is every render pass checked for frames it left behind? -/
  debug : Bool

/-- A compiler of schemas against one data root and one store of bindings. -/
structure Compiler where
  data : Value
  store : LiveMapId
  /-- The components that only this compiler knows; they come first. -/
  library : List (String × Value)
  environment : EnvironmentId
  recorder : Recorder
  /-- The scopes around what is compiled. -/
  path : ScopePath
  nodeCount : Nat

/-- A schema compiled against live data, with its latest output. -/
structure View where
  environment : EnvironmentId
  library : List (String × Value)
  data : Value
  /-- The cell that holds the schema. -/
  schema : RefId
  /-- The cell that holds what the schema is compiled to. -/
  root : RefId
  store : LiveMapId
  /-- The resolving effects of the latest compilation. -/
  resolvers : Option EffectScopeId
  listeners : List ListenerId
  output : Value
  renderCount : Nat
  compileCount : Nat
  compileEffect : EffectId
  renderEffect : EffectId

/-- The world. -/
structure World where
  memory : Memory
  reactor : Reactor Body
  closures : Array Closure
  listeners : Array Listener
  environments : Array Environment
  compilers : Array Compiler
  views : Array View
  /-- The environment that is used where none is named, once it was needed. -/
  defaultEnvironment : Option EnvironmentId
  /-- The values that the program has named. -/
  names : List (String × Value)
  /-- The views in the order they were mounted. -/
  mounted : List (String × ViewId)
  /-- What the program has logged, newest first. -/
  entries : List (List Datum)

/-- The world at the start. -/
def World.empty : World where
  memory := .empty
  reactor := .empty
  closures := #[]
  listeners := #[]
  environments := #[]
  compilers := #[]
  views := #[]
  defaultEnvironment := none
  names := []
  mounted := []
  entries := []

end ReactiveSchema
