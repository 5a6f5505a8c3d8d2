import ReactiveSchema.Value.Datum
import ReactiveSchema.Reactive.Timing

/-!
# Actions

The language of programs that drive the library: steps that make live data,
effects, scopes, compilers and views, write to them and look at what comes of
it.  An action has a value.  Operands are listed in the order in which they
are evaluated.
-/

namespace ReactiveSchema

/-- What an action does with the values of its operands. -/
inductive Operation where
  /-- Are two values one thing? -/
  | same
  | equal
  | add
  | multiply
  | less
  | shown
  | text
  | truth
  | newRef
  | makeLive
  | newLiveMap
  | newLiveList
  | raw
  | isLive
  | getRef
  | setRef
  | peekRef
  | subscriberCount
  | at
  | slice
  | has
  | length
  | list
  | reversed
  | keys
  | values
  | entries
  | get
  | set
  | delete
  | setSlice
  | deleteSlice
  | update
  | pop
  | popEntry
  | clear
  | setDefault
  | append
  | insert
  | extend
  | extendInPlace
  | remove
  | reverse
  | indexOf
  | count
  | runEffect
  | stop
  | effectState
  | newEffectScope
  | effectScopeState
  | newScope
  | newStore
  | bind
  | storeGet
  | storeHas
  | chain
  | find
  | resolve
  | pushFrame
  | contextState
  | lookup
  | check
  | newCompiler
  | newPlainCompiler
  | compile
  | compileNode
  | compileAttributes
  | compileCondition
  | compileExpression
  | parse
  | call
  | calls
  | compilerState
  | newEnvironment
  | defaultEnvironment
  | renderOnce
  | viewData
  | viewOutput
  | html
  | viewRender
  | setSchema
  | getSchema
  | viewState
  | unmount
  | leak
  | registrySet
  | registryDelete
  | registryAt
  | registryGet
  | registryHas
  | registryUpdate
  | registryEntries
  | registryMap
  | findAll
  | nodeText
  | nodeTypes
  deriving DecidableEq

/-- A step of a program. -/
inductive Action where
  | literal (value : Datum)
  | named (name : String)
  /-- A tuple of values. -/
  | group (items : List Action)
  | assign (name : String) (value : Action)
  | log (values : List Action)
  /-- Steps, one after another; the last one gives the value. -/
  | sequence (steps : List Action)
  | choose (test body otherwise : Action)
  | raise (message : Action)
  /-- Steps whose fault, if there is one, becomes a value. -/
  | attempt (steps : List Action)
  | operate (operation : Operation) (operands : List Action)
  /-- An effect of the given name, started or not. -/
  | effect (name : String) (timing : Timing) (started : Bool) (steps : List Action)
  | within (scope : Action) (steps : List Action)
  | batch (steps : List Action)
  | untracked (steps : List Action)
  | freshContext (steps : List Action)
  | someContext (steps : List Action)
  | frame (bindings : Action) (steps : List Action)
  | compileLoop (name compiler : String) (raw : Action)
  | compileConditional (name compiler : String) (raw : Action)
  | mount (name : String) (schema data environment library : Action)
  /-- A listener that runs the steps the first few times it is called. -/
  | subscribe (view name : String) (times : Nat) (steps : List Action)
  deriving Inhabited

end ReactiveSchema
