import ReactiveSchema.Expr.Lexeme
import ReactiveSchema.Expr.Source

/-!
# Trees of the expression grammar

The grammar reads more than the language offers.  A tree keeps the supported
constructs whole and the others as leaves that name them.  A tree without
offence lowers to an expression, in which every name is the index of a token.
-/

namespace ReactiveSchema

/-- Operators with one operand. -/
inductive UnaryOp where
  | not
  | minus
  | plus
  | invert
  deriving DecidableEq

/-- Operators with two operands. -/
inductive BinaryOp where
  | add
  | sub
  | mul
  | div
  | mod
  | pow
  | floorDiv
  | matMul
  | shiftLeft
  | shiftRight
  | bitOr
  | bitXor
  | bitAnd
  deriving DecidableEq

/-- Comparisons. -/
inductive CompareOp where
  | eq
  | ne
  | lt
  | le
  | gt
  | ge
  | in
  | notIn
  | is
  | isNot
  deriving DecidableEq

/-- A tree of the grammar. -/
inductive Tree where
  | constant (c : Constant)
  | name (id : List Char)
  | all (operands : List Tree)
  | any (operands : List Tree)
  | unary (op : UnaryOp) (operand : Tree)
  | binary (left : Tree) (op : BinaryOp) (right : Tree)
  | compare (first : Tree) (ops : List CompareOp) (others : List Tree)
  | conditional (test body otherwise : Tree)
  | subscript (object key : Tree)
  | call (function : Tree) (arguments : List Tree)
  | sequence (items : List Tree)
  /-- A call with named or unpacked arguments. -/
  | keywordCall
  /-- An unpacked item. -/
  | starred (inner : Tree)
  /-- A construct outside the language, by its name. -/
  | unsupported (construct : String)

/-- Arithmetic of the language. -/
inductive ArithOp where
  | add
  | sub
  | mul
  | div
  | mod
  | pow
  deriving DecidableEq

/-- Comparisons of the language. -/
inductive Comparison where
  | eq
  | ne
  | lt
  | le
  | gt
  | ge
  | in
  | notIn
  deriving DecidableEq

/-- An expression of the language. -/
inductive Expr where
  | constant (c : Constant)
  | token (index : Nat)
  | all (operands : List Expr)
  | any (operands : List Expr)
  | not (operand : Expr)
  | minus (operand : Expr)
  | plus (operand : Expr)
  | arith (op : ArithOp) (left right : Expr)
  /-- A chain: each operand is compared with the next one. -/
  | compare (first : Expr) (ops : List Comparison) (others : List Expr)
  | conditional (test body otherwise : Expr)
  | subscript (object key : Expr)
  | call (function : Expr) (arguments : List Expr)
  | sequence (items : List Expr)

/-! ## Offences -/

/-- A refusal and how deep in the tree it stands. -/
structure Offence where
  depth : Nat
  fault : SourceFault

namespace Offence

/-- Of two offences the one met first level by level, from left to right. -/
def earlier : Option Offence → Option Offence → Option Offence
  | none, other => other
  | some first, none => some first
  | some first, some other =>
      if first.depth ≤ other.depth then some first else some other

end Offence

/-- The name of an operator outside the language. -/
def UnaryOp.foreign? : UnaryOp → Option String
  | invert => some "Invert"
  | _ => none

/-- The name of an operator outside the language. -/
def BinaryOp.foreign? : BinaryOp → Option String
  | floorDiv => some "FloorDiv"
  | matMul => some "MatMult"
  | shiftLeft => some "LShift"
  | shiftRight => some "RShift"
  | bitOr => some "BitOr"
  | bitXor => some "BitXor"
  | bitAnd => some "BitAnd"
  | _ => none

/-- The name of a comparison outside the language. -/
def CompareOp.foreign? : CompareOp → Option String
  | is => some "Is"
  | isNot => some "IsNot"
  | _ => none

/-- The offence of an operator that stands at a depth. -/
def operatorOffence (depth : Nat) (construct : Option String) : Option Offence :=
  construct.map fun name => ⟨depth, .unsupported name⟩

/-- The index of the token that a name stands for. -/
def tokenIndex? (count : Nat) (id : List Char) : Option Nat :=
  (List.range count).find? fun index => placeholder index == id

namespace Tree

/-- The first offence of a tree at a depth, level by level and from left to right. -/
def offence? (count depth : Nat) : Tree → Option Offence
  | constant _ => none
  | name id =>
      match tokenIndex? count id with
      | some _ => none
      | none => some ⟨depth, .unknownName id⟩
  | all operands => offences count (depth + 1) operands
  | any operands => offences count (depth + 1) operands
  | unary op operand =>
      Offence.earlier (operatorOffence (depth + 1) op.foreign?) (offence? count (depth + 1) operand)
  | binary left op right =>
      Offence.earlier (offence? count (depth + 1) left)
        (Offence.earlier (operatorOffence (depth + 1) op.foreign?)
          (offence? count (depth + 1) right))
  | compare first ops others =>
      Offence.earlier (offence? count (depth + 1) first)
        (Offence.earlier
          (ops.foldr (fun op found =>
            Offence.earlier (operatorOffence (depth + 1) op.foreign?) found) none)
          (offences count (depth + 1) others))
  | conditional test body otherwise =>
      Offence.earlier (offence? count (depth + 1) test)
        (Offence.earlier (offence? count (depth + 1) body)
          (offence? count (depth + 1) otherwise))
  | subscript object key =>
      Offence.earlier (offence? count (depth + 1) object) (offence? count (depth + 1) key)
  | call function arguments =>
      Offence.earlier (offence? count (depth + 1) function) (offences count (depth + 1) arguments)
  | sequence items => offences count (depth + 1) items
  | keywordCall => some ⟨depth, .keywordArguments⟩
  | starred _ => some ⟨depth, .unsupported "Starred"⟩
  | unsupported construct => some ⟨depth, .unsupported construct⟩
where
  /-- The first offence among trees that stand side by side. -/
  offences (count depth : Nat) : List Tree → Option Offence
    | [] => none
    | tree :: rest => Offence.earlier (offence? count depth tree) (offences count depth rest)

end Tree

/-! ## Lowering -/

/-- The arithmetic operator of the language. -/
def BinaryOp.toArith? : BinaryOp → Option ArithOp
  | add => some .add
  | sub => some .sub
  | mul => some .mul
  | div => some .div
  | mod => some .mod
  | pow => some .pow
  | _ => none

/-- The comparison of the language. -/
def CompareOp.toComparison? : CompareOp → Option Comparison
  | eq => some .eq
  | ne => some .ne
  | lt => some .lt
  | le => some .le
  | gt => some .gt
  | ge => some .ge
  | .in => some .in
  | notIn => some .notIn
  | _ => none

namespace Tree

/-- The expression of a tree without offence. -/
def lower? (count : Nat) : Tree → Option Expr
  | constant c => some (.constant c)
  | name id => (tokenIndex? count id).map .token
  | all operands => (lowers? count operands).map .all
  | any operands => (lowers? count operands).map .any
  | unary .not operand => (lower? count operand).map .not
  | unary .minus operand => (lower? count operand).map .minus
  | unary .plus operand => (lower? count operand).map .plus
  | unary .invert _ => none
  | binary left op right => do
      let left ← lower? count left
      let op ← op.toArith?
      let right ← lower? count right
      return .arith op left right
  | compare first ops others => do
      let first ← lower? count first
      let ops ← ops.mapM CompareOp.toComparison?
      let others ← lowers? count others
      return .compare first ops others
  | conditional test body otherwise => do
      let test ← lower? count test
      let body ← lower? count body
      let otherwise ← lower? count otherwise
      return .conditional test body otherwise
  | subscript object key => do
      let object ← lower? count object
      let key ← lower? count key
      return .subscript object key
  | call function arguments => do
      let function ← lower? count function
      let arguments ← lowers? count arguments
      return .call function arguments
  | sequence items => (lowers? count items).map .sequence
  | keywordCall => none
  | starred _ => none
  | unsupported _ => none
where
  /-- The expressions of trees side by side. -/
  lowers? (count : Nat) : List Tree → Option (List Expr)
    | [] => some []
    | tree :: rest => do
        let tree ← lower? count tree
        let rest ← lowers? count rest
        return tree :: rest

/-- The expression of a tree over `count` tokens, or its first offence. -/
def toExpr (count : Nat) (tree : Tree) : Except SourceFault Expr :=
  match tree.offence? count 1 with
  | some offence => .error offence.fault
  | none =>
      match tree.lower? count with
      | some expr => .ok expr
      | none => .error .ungrammatical

end Tree

end ReactiveSchema
