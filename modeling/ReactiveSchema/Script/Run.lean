import ReactiveSchema.Script.Operate
import ReactiveSchema.Script.Report

/-!
# Running programs

The steps of a program run one after another.  An effect that a step has made
runs its own steps each time; effects run inside effects to a bounded depth,
and one flush runs a bounded number of them.
-/

namespace ReactiveSchema

namespace Act

/-- The value of a variable. -/
def variableOf (name : String) : Act Value := do
  match (← get).names.lookup name with
  | some value => return value
  | none => fail (.missingKey (Text.quoted name))

/-- Give a variable a value. -/
def assign (name : String) (value : Value) : Act Unit :=
  modify fun world =>
    { world with
      names := (name, value) :: world.names.filter (·.1 != name) }

/-- Write an entry to the log of the program. -/
def logEntry (entry : List Datum) : Act Unit :=
  modify fun world => { world with entries := entry :: world.entries }

/-- Mounted views with one more; under a known name it takes the place of the other one. -/
def insertMounted (name : String) (id : ViewId) :
    List (String × ViewId) → List (String × ViewId)
  | [] => [(name, id)]
  | (known, other) :: rest =>
      if known = name then (known, id) :: rest
      else (known, other) :: insertMounted name id rest

/-- A view that was mounted under a name. -/
def addMounted (name : String) (id : ViewId) : Act Unit := do
  assign name (.handle .view id)
  modify fun world => { world with mounted := insertMounted name id world.mounted }

/-- Do something whose fault, if it has one, becomes a value. -/
def attempt (action : Act Value) : Act Value :=
  tryCatch action fun fault => do
    if fault.isCatchable then
      observe do (← Observe.reportFault fault).build
    else throw fault

/-- Run `body` within a pass, and the pass that was under way again after it. -/
def withContext (context : Option EvaluationContext) (body : Act Value) : Act Value := do
  let outer := (← get).memory.context
  observe (Observe.setContext context)
  ensuring (observe (Observe.setContext outer)) body

/-- Run `body` inside one more frame of the pass under way. -/
def insideFrame (bindings : Value) (body : Act Value) : Act Value := do
  let depth ← observe Observe.frameDepth
  observe do
    Observe.pushFrame bindings
    Observe.noteDepth
  ensuring (observe (Observe.popFrame bindings depth)) body

/-- Compile a loop and tell its names; the source of its values goes to a variable. -/
def assignLoop (runner : Runner) (name : String) (compiler raw : Value) : Act Value := do
  let id ← compilerOf compiler
  match ← observe (Observe.parseLoop raw) with
  | none => observe (Observe.unknown .none "values")
  | some loop => do
      let compiled ← compileLoop runner id (← compilerAt id).path loop
      assign name (← newClosure (.thunk compiled.values))
      listed (pure [.str compiled.valueName, nameOrNone compiled.keyName])

/-- Compile a conditional; its condition and branches go to variables. -/
def assignConditional (runner : Runner) (name : String) (compiler raw : Value) :
    Act Value := do
  let id ← compilerOf compiler
  match ← observe (Observe.parseNode raw) with
  | some (.conditional condition body otherwise) => do
      let path := (← compilerAt id).path
      let (condition, body, otherwise) ←
        compileConditional runner id (← compiling runner id) path condition body otherwise
      assign (name ++ ".if") (← newClosure (.thunk condition))
      assign (name ++ ".then") (← newClosure (.thunk body))
      match otherwise with
      | none => return .bool false
      | some other => do
          assign (name ++ ".else") (← newClosure (.thunk other))
          return .bool true
  | _ => observe (Observe.unknown .none "condition")

/-- Register a new listener with a view; the way to end it goes to a variable. -/
def addListener (view name : String) (times : Nat) (steps : List Action) : Act Value := do
  let id ← viewOf (← variableOf view)
  let listener ← modifyGet fun world =>
    (world.listeners.size,
      { world with listeners := world.listeners.push ⟨name, times, steps⟩ })
  silently do assign name (← subscribe id listener)

/-- Make an effect, which runs at once or not at all, and assign it. -/
def addEffect (runner : Runner) (name : String) (timing : Timing) (started : Bool)
    (steps : List Action) : Act Value := do
  let body := Body.program name steps
  let effect ← if started then watch runner body timing else newEffect body timing
  silently (assign name (.handle .effect effect))

end Act

open Act

namespace Action

/-- Carry out an action. -/
def perform (runner : Runner) : Action → Act Value
  | literal value => observe value.build
  | named name => variableOf name
  | group items => do return .tuple (← performAll runner items)
  | assign name value => do
      let value ← perform runner value
      silently (Act.assign name value)
  | log values => do
      let entry ← performShown runner values
      silently (logEntry entry)
  | sequence steps => performSteps runner .none steps
  | choose test body otherwise => do
      let value ← perform runner test
      if ← observe (Observe.isTrue value) then perform runner body else perform runner otherwise
  | raise message => do
      let message ← perform runner message
      fail (.raised (← observe (Observe.textOf message)))
  | attempt steps => Act.attempt (performSteps runner .none steps)
  | operate operation operands => do
      let values ← performAll runner operands
      Act.operate runner operation values
  | effect name timing started steps => addEffect runner name timing started steps
  | within scope steps => do
      match ← perform runner scope with
      | .handle .effectScope id => Act.within id (performSteps runner .none steps)
      | other => observe (Observe.unknown other "activate")
  | batch steps => Act.batch runner (performSteps runner .none steps)
  | untracked steps => Act.untracked (performSteps runner .none steps)
  | freshContext steps =>
      withContext (some .fresh) (performSteps runner .none steps)
  | someContext steps => do
      match (← get).memory.context with
      | none => withContext (some .fresh) (performSteps runner .none steps)
      | some _ => performSteps runner .none steps
  | frame bindings steps => do
      needContext "frame"
      let bindings ← perform runner bindings
      insideFrame bindings (performSteps runner .none steps)
  | compileLoop name compiler raw => do
      let compiler ← variableOf compiler
      let raw ← perform runner raw
      assignLoop runner name compiler raw
  | compileConditional name compiler raw => do
      let compiler ← variableOf compiler
      let raw ← perform runner raw
      assignConditional runner name compiler raw
  | mount name schema data environment library => do
      let schema ← perform runner schema
      let data ← perform runner data
      let environment ← perform runner environment
      let library ← perform runner library
      silently do addMounted name (← mountOperands runner schema data environment library)
  | subscribe view name times steps => addListener view name times steps
where
  /-- The values of actions, in order. -/
  performAll (runner : Runner) : List Action → Act (List Value)
    | [] => pure []
    | action :: rest => do
        let value ← perform runner action
        return value :: (← performAll runner rest)
  /-- Pictures of the values of actions, each taken in its turn. -/
  performShown (runner : Runner) : List Action → Act (List Datum)
    | [] => pure []
    | action :: rest => do
        let value ← perform runner action
        let shown ← observe (Observe.snapshot value)
        return shown :: (← performShown runner rest)
  /-- The value of the last action. -/
  performSteps (runner : Runner) (last : Value) : List Action → Act Value
    | [] => pure last
    | action :: rest => do
        let value ← perform runner action
        performSteps runner value rest

end Action

/-- Do what an effect does. -/
def Body.carryOut (runner : Runner) : Body → Act Value
  | resolve cell data store scopes path =>
      silently (updateCell runner cell data store scopes path)
  | compile view => silently (compileView runner view)
  | render view => silently (renderView runner view)
  | program _ steps => Action.perform.performSteps runner .none steps

/-- Do what an effect does, with at most so many effects in a flush and inside each other. -/
def carryOutWithin (flushLimit : Nat) : Nat → Body → Act Value
  | 0, _ => throw .exhausted
  | depth + 1, body => body.carryOut ⟨flushLimit, carryOutWithin flushLimit depth⟩

/-- The runner of programs, with bounds for the effects in a flush and inside each other. -/
def Runner.bounded (flushLimit nesting : Nat) : Runner :=
  ⟨flushLimit, carryOutWithin flushLimit nesting⟩

/-- How many effects one flush may run. -/
def effectsPerFlush : Nat := 1000000

/-- How deep effects may run inside effects. -/
def nestingLimit : Nat := 10000

/-- The runner of programs, with bounds that programs do not reach. -/
def Runner.standard : Runner :=
  .bounded effectsPerFlush nestingLimit

end ReactiveSchema
