import ReactiveSchema.Expr.Template
import ReactiveSchema.Expr.Tree

/-!
# Operators

Addition joins texts when either side is text.  All other arithmetic works on
numbers, repeats and joins sequences, and fills texts in.  Comparisons of
values that have no order fail, and nothing is in a value that holds nothing.
-/

namespace ReactiveSchema

/-- An operator as messages name it. -/
def ArithOp.sign : ArithOp → String
  | add => "+"
  | sub => "-"
  | mul => "*"
  | div => "/"
  | mod => "%"
  | pow => "** or pow()"

/-- The operation on numbers. -/
def ArithOp.onNumbers : ArithOp → Number.Num → Number.Num → Except Number.ArithFault Number.Num
  | add => Number.Num.add
  | sub => Number.Num.sub
  | mul => Number.Num.mul
  | div => Number.Num.div
  | mod => Number.Num.mod
  | pow => Number.Num.pow

namespace Observe

/-- The value of a constant. -/
def ofConstant : Constant → Observe Value
  | .none => pure .none
  | .true => pure (.bool true)
  | .false => pure (.bool false)
  | .int n => pure (.int n)
  | .float x => ofFloat x
  | .imaginary x => pure (.complex 0.0 x)
  | .str s => pure (.str s)
  | .ellipsis => pure .ellipsis

/-- The text of an operand of an addition; no value counts as empty. -/
def addedText : Value → Observe String
  | .none => pure ""
  | value => textOf value

/-- Refuse two operands. -/
def unsupported (op : ArithOp) (left right : Value) : Observe Value :=
  fail (.unsupportedOperands op.sign left.typeName right.typeName)

/-- An operation on numbers; other values are refused. -/
def onNumbers (op : ArithOp) (left right : Value) : Observe Value :=
  match left.num?, right.num? with
  | some m, some n =>
      match op.onNumbers m n with
      | .ok result => ofNum result
      | .error .unsupported => unsupported op left right
      | .error fault => fail (.arithmetic fault)
  | _, _ => unsupported op left right

/-- The sum of two values. -/
def add (left right : Value) : Observe Value := do
  if left.isStr || right.isStr then
    return .str ((← addedText left) ++ (← addedText right))
  else
    match left, right with
    | .list a, .list b => do
        let memory ← get
        newList (memory.listAt a ++ memory.listAt b)
    | .tuple xs, .tuple ys => return .tuple (xs ++ ys)
    | .list _, other => fail (.concatenate "list" other.typeName)
    | .tuple _, other => fail (.concatenate "tuple" other.typeName)
    | _, _ => onNumbers .add left right

/-- How often a sequence is repeated. -/
def repeatCount (count : Value) : Observe Nat :=
  match count.index? with
  | none => fail (.repeatByNonInt count.typeName)
  | some n => if isCountable n then pure n.toNat else fail .countOutOfRange

/-- A sequence that can be repeated. -/
inductive Repeatable where
  | str (s : String)
  | tuple (items : List Value)
  | list (items : List Value)

/-- The sequence of a value that can be repeated. -/
def repeatable? : Value → Observe (Option Repeatable)
  | .str s => pure (some (.str s))
  | .tuple items => pure (some (.tuple items))
  | .list id => do return some (.list ((← get).listAt id))
  | _ => pure none

/-- The most things that a sequence has room for. -/
def roomLimit : Nat := Nat.pow 2 32

/-- So many things of the same sequence, one after another; nothing is repeated for nothing. -/
def repeatItems {α : Type} (count : Nat) (items : List α) : List α :=
  if items.isEmpty then [] else (List.replicate count items).flatten

theorem repeatItems_eq {α : Type} (count : Nat) (items : List α) :
    repeatItems count items = (List.replicate count items).flatten := by
  cases items <;> simp [repeatItems]

/-- A sequence repeated, if there is room for the result. -/
def repeatWithin {α : Type} (count : Nat) (items : List α) : Observe (List α) :=
  if roomLimit < count * items.length then fail .outOfMemory
  else pure (repeatItems count items)

/-- A sequence repeated; the length of a text has to be countable as well. -/
def repeatValue (sequence : Repeatable) (count : Value) : Observe Value := do
  let n ← repeatCount count
  match sequence with
  | .str s =>
      if isCountable (Int.ofNat (n * s.length)) then
        return .str (String.ofList (← repeatWithin n s.toList))
      else fail .textTooLong
  | .tuple items => return .tuple (← repeatWithin n items)
  | .list items => newList (← repeatWithin n items)

/-- The product of two values. -/
def mul (left right : Value) : Observe Value := do
  match ← repeatable? left with
  | some sequence => repeatValue sequence right
  | none =>
      match ← repeatable? right with
      | some sequence => repeatValue sequence left
      | none => onNumbers .mul left right

/-- The remainder of two values, or a text filled in. -/
def mod (left right : Value) : Observe Value := do
  match left with
  | .str template => return .str (← Template.fill template right)
  | _ => onNumbers .mod left right

/-- An arithmetic operation. -/
def arith (op : ArithOp) (left right : Value) : Observe Value :=
  match op with
  | .add => add left right
  | .mul => mul left right
  | .mod => mod left right
  | op => onNumbers op left right

/-- The number of a sign's operand. -/
def signed (sign : String) (change : Number.Num → Number.Num) (operand : Value) :
    Observe Value :=
  match operand.num? with
  | some n => ofNum (change n)
  | none => fail (.badOperand sign operand.typeName)

/-- A number with the opposite sign. -/
def minus (operand : Value) : Observe Value :=
  signed "-" Number.Num.neg operand

/-- A number as it is; a truth value counts as a whole number. -/
def plus (operand : Value) : Observe Value :=
  match operand with
  | .nan id => pure (.nan id)
  | _ => signed "+" (fun n => n) operand

/-- Run `body`; a failure of one of the kinds gives `otherwise`. -/
def recover {α : Type} (kinds : List FailureKind) (otherwise : α) (body : Observe α) :
    Observe α :=
  tryCatch body fun fault =>
    if kinds.any fault.isKind then pure otherwise else throw fault

/-- Is a value in another one?  Nothing is in a value that holds nothing. -/
def isIn (value container : Value) : Observe Bool :=
  recover [.type] false (contains value container)

/-- A comparison. -/
def compareBy (comparison : Comparison) (left right : Value) : Observe Bool :=
  match comparison with
  | .eq => equal left right
  | .ne => do return !(← equal left right)
  | .lt => inOrder .lt left right
  | .le => inOrder .le left right
  | .gt => inOrder .gt left right
  | .ge => inOrder .ge left right
  | .in => isIn left right
  | .notIn => do return !(← isIn left right)

/-- The value at an index or key, or none. -/
def subscript (object key : Value) : Observe Value :=
  recover [.key, .index, .type] .none (getItem object key)

end Observe

end ReactiveSchema
