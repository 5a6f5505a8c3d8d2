import ReactiveSchema.Expr.Evaluate
import ReactiveSchema.Markup.Node
import ReactiveSchema.Schema.Iteration
import ReactiveSchema.Scope.Frames
import ReactiveSchema.Value.Snapshot

/-!
# Compiled parts of a schema

What a schema is compiled to: parts that can be run again and again, each run
giving a value as of then.  Running a part looks at memory and runs no effect.
-/

namespace ReactiveSchema

open Observe

/-- An expression whose tokens have their values in cells. -/
structure BoundExpression where
  expression : Expression
  cells : List RefId

/-- Where a renderer keeps record of its calls, if it does. -/
abbrev Recorder := Option Nat

/-- A compiled part of a schema. -/
inductive Thunk where
  | constant (value : Value)
  | expression (bound : BoundExpression)
  /-- The text of what another part gives. -/
  | text (part : Thunk)
  /-- A new map with the given keys. -/
  | attributes (slots : List (Value × Thunk))
  | choose (condition body otherwise : Thunk)
  /-- A new list of what the parts give. -/
  | all (parts : List Thunk)
  | textNode (recorder : Recorder) (content : Thunk)
  | node (recorder : Recorder) (type : Value) (attributes children : Thunk)
  | repeated (values : Thunk) (valueName : String) (keyName : Option String) (body : Thunk)

/-- The part that gives nothing. -/
def Thunk.nothing : Thunk :=
  .constant .none

namespace BoundExpression

/-- The value of a token: the one in an iteration frame, or else the one in its cell. -/
def token (bound : BoundExpression) (index : Nat) : Observe Value := do
  match bound.cells[index]?, bound.expression.tokens[index]? with
  | some cell, some name => checkScope (← refGet cell) name
  | _, _ => return .none

/-- The value of the expression. -/
def evaluate (bound : BoundExpression) : Observe Value :=
  bound.expression.evaluate bound.token

end BoundExpression

namespace Observe

/-- Keep record of a call, its arguments written out as they are now. -/
def record (recorder : Recorder) (call : List Value) : Observe Unit :=
  match recorder with
  | none => pure ()
  | some index => do
      let written ← call.mapM snapshot
      modify fun memory =>
        { memory with recordings := memory.recordings.modify index (written :: ·) }

/-- Build a text node. -/
def renderText (recorder : Recorder) (content : Value) : Observe Value := do
  let text ← stringify content
  record recorder [.str "text", .str text]
  return .text text

/-- Build a node. -/
def renderNode (recorder : Recorder) (type attributes children : Value) : Observe Value := do
  record recorder [.str "node", type, attributes]
  makeNode type attributes children

/-- The frame of an iteration; the key comes last and wins over the value of the same name. -/
def iterationFrame (valueName : String) (keyName : Option String) (key value : Value) :
    Observe Value :=
  let entries : Entries Value := [(.str valueName, value)]
  match keyName with
  | none => newMap entries
  | some name => newMap (entries.insert (.str name) key)

/-- Run `body` once for each pair, within the frame of its iteration. -/
def iterateFrames (valueName : String) (keyName : Option String) (body : Observe Value) :
    List (Value × Value) → Observe (List Value)
  | [] => pure []
  | (key, value) :: rest => do
      let frame ← iterationFrame valueName keyName key value
      let first ← withFrame frame body
      let others ← iterateFrames valueName keyName body rest
      return first :: others

/-- Run `body` for everything that `values` gives, and list the results. -/
def renderLoop (values : Observe Value) (valueName : String) (keyName : Option String)
    (body : Observe Value) : Observe Value :=
  withSomeContext do
    let pairs ← iterationPairs (← values)
    newList (← iterateFrames valueName keyName body pairs)

end Observe

namespace Thunk

/-- The value that a part gives now. -/
def run : Thunk → Observe Value
  | constant value => pure value
  | expression bound => bound.evaluate
  | text part => do return .str (← stringify (← run part))
  | attributes slots => do newMap (← runSlots slots)
  | choose condition body otherwise => do
      let value ← run condition
      if value.isTruthy then run body else run otherwise
  | all parts => do newList (← runAll parts)
  | textNode recorder content => do renderText recorder (← run content)
  | node recorder type properties content => do
      let properties ← run properties
      let content ← run content
      renderNode recorder type properties content
  | repeated values valueName keyName body =>
      renderLoop (run values) valueName keyName (run body)
where
  /-- The values of parts, in order. -/
  runAll : List Thunk → Observe (List Value)
    | [] => pure []
    | part :: rest => do
        let value ← run part
        return value :: (← runAll rest)
  /-- The entries of slots, in order. -/
  runSlots : List (Value × Thunk) → Observe (Entries Value)
    | [] => pure []
    | (key, part) :: rest => do
        let value ← run part
        return (key, value) :: (← runSlots rest)

end Thunk

end ReactiveSchema
