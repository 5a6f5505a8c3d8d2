import ReactiveSchema.Expr.Compile
import ReactiveSchema.Expr.Function

/-!
# Evaluating expressions

An expression is evaluated from left to right, and only as far as its result
needs.  A failure is reported with the source and the value of every token;
faults of the library itself pass unchanged.
-/

namespace ReactiveSchema

open Observe

namespace Expr

/-- The value of an expression, given the values of its tokens. -/
def evaluate (token : Nat → Observe Value) : Expr → Observe Value
  | constant c => ofConstant c
  | .token index => token index
  | all operands => firstFalse token (.bool true) operands
  | any operands => firstTrue token (.bool false) operands
  | not operand => do
      let value ← evaluate token operand
      return .bool !(← isTrue value)
  | minus operand => do Observe.minus (← evaluate token operand)
  | plus operand => do Observe.plus (← evaluate token operand)
  | arith op left right => do
      let left ← evaluate token left
      let right ← evaluate token right
      Observe.arith op left right
  | compare first ops others => do
      let left ← evaluate token first
      return .bool (← chain token left ops others)
  | conditional test body otherwise => do
      let value ← evaluate token test
      if ← isTrue value then evaluate token body else evaluate token otherwise
  | subscript object key => do
      let object ← evaluate token object
      let key ← evaluate token key
      Observe.subscript object key
  | call function arguments => do
      let target ← evaluate token function
      if isCallable target then
        let values ← evaluateAll token arguments
        Observe.call target values
      else fail (.notCallable target.typeName)
  | sequence items => do
      let values ← evaluateAll token items
      newList values
where
  /-- The values of expressions, in order. -/
  evaluateAll (token : Nat → Observe Value) : List Expr → Observe (List Value)
    | [] => pure []
    | expr :: rest => do
        let value ← evaluate token expr
        let values ← evaluateAll token rest
        return value :: values
  /-- The first value that is false, or else the last one. -/
  firstFalse (token : Nat → Observe Value) (last : Value) : List Expr → Observe Value
    | [] => pure last
    | expr :: rest => do
        let value ← evaluate token expr
        if ← isTrue value then firstFalse token value rest else return value
  /-- The first value that is true, or else the last one. -/
  firstTrue (token : Nat → Observe Value) (last : Value) : List Expr → Observe Value
    | [] => pure last
    | expr :: rest => do
        let value ← evaluate token expr
        if ← isTrue value then return value else firstTrue token value rest
  /-- Does a value compare with the next operand, and each operand with the one after it? -/
  chain (token : Nat → Observe Value) (left : Value) :
      List Comparison → List Expr → Observe Bool
    | op :: ops, expr :: others => do
        let right ← evaluate token expr
        if ← compareBy op left right then chain token right ops others else return false
    | _, _ => pure true

end Expr

/-- A fault as the text of its kind and message. -/
def Fault.shown (fault : Fault) : String :=
  match fault with
  | .failure (.missingKey key) => fault.name ++ "(" ++ key ++ ")"
  | _ => fault.name ++ "(" ++ Text.quoted fault.text ++ ")"

/-- A token's value, or the fault of looking for it, as a report lists it. -/
def listedValue (token : String) : Except Fault Value → Observe Listed
  | .ok value => do return ⟨token, ← shown value, value.typeName⟩
  | .error fault => pure ⟨token, fault.shown, fault.name⟩

/-- The advice that goes with a failed evaluation. -/
def evaluationAdvice : String :=
  "Check that every token resolves to a value of the expected type"

namespace Expression

/-- What each token gives, be it a value or a fault. -/
def snapshot (expression : Expression) (token : Nat → Observe Value) :
    Observe (List (String × Except Fault Value)) :=
  expression.tokens.zipIdx.mapM fun (name, index) =>
    tryCatch (do return (name, .ok (← token index))) fun fault =>
      if fault.isCatchable then pure (name, .error fault) else throw fault

/-- The report of a failure, with the values that the tokens have now. -/
def report (expression : Expression) (token : Nat → Observe Value) (fault : Fault) :
    Observe Fault := do
  let values ← expression.snapshot token
  let listed ← values.mapM fun (name, value) => listedValue name value
  return .evaluation expression.source values fault.name
    (evaluationText (← get).colors fault.text expression.source listed evaluationAdvice)

/-- The value of an expression, given the values of its tokens by index. -/
def evaluate (expression : Expression) (token : Nat → Observe Value) : Observe Value :=
  tryCatch (expression.body.evaluate token) fun fault => do
    if fault.isSchemaFault || !fault.isCatchable then throw fault
    else throw (← expression.report token fault)

end Expression

/-- Compile the source of an expression. -/
def Observe.compileSource (source : String) : Observe Expression := do
  match Expression.compile source with
  | .ok expression => return expression
  | .error fault => throw (fault.toFault (← get).colors (Text.trim source))

end ReactiveSchema
