import ReactiveSchema.Expr.Operator
import ReactiveSchema.Markup.Component
import ReactiveSchema.Markup.Node
import ReactiveSchema.Text.Upper

/-!
# Calls

Data functions take their arguments as a list and need not use all of them.
Components can be called as well, with properties and children, and methods of
nodes and cells.
-/

namespace ReactiveSchema.Observe

/-- The first argument. -/
def firstArgument : List Value → Observe Value
  | value :: _ => pure value
  | [] => fail (.outOfRange "tuple")

/-- Call a data function. -/
def callFunction (function : DataFunction) (arguments : List Value) : Observe Value := do
  match function with
  | .upper => return .str (Text.upper (← textOf (← firstArgument arguments)))
  | .ident => firstArgument arguments
  | .args => newList arguments
  | .len => return .int (← lengthOf (← firstArgument arguments))
  | .join =>
      let items ← iterate (← firstArgument arguments)
      return .str ("-".intercalate (← items.mapM textOf))
  | .mk => do
      let list ← newList [.int 1, .int 2]
      newMap [(.str "a", .int 1), (.str "list", list)]
  | .undef => return .undefined
  | .fn => return .function .upper
  | .boom => fail .refused
  | .syn =>
      throw (.syntaxFault (← get).colors "inner" none none .expressionSyntax)

/-- Can a value be called? -/
def isCallable : Value → Bool
  | .function _ => true
  | .component _ => true
  | .handle .closure _ => true
  | .method _ _ => true
  | _ => false

/-- The names of the arguments that a method takes after its owner. -/
def methodArguments (name : String) : List String :=
  match name with
  | "find_all" => ["type"]
  | "get" => ["scope"]
  | "chain" => ["scopes", "data"]
  | "subscribe" => ["listener"]
  | _ => []

/-- Names in quotes, the last one after an "and". -/
def nameList : List String → String
  | [] => ""
  | [name] => "'" ++ name ++ "'"
  | [first, second] => "'" ++ first ++ "' and '" ++ second ++ "'"
  | first :: rest => "'" ++ first ++ "', " ++ nameList rest

/-- So many things, named in the singular or the plural. -/
def countedName (count : Nat) (name : String) : String :=
  toString count ++ " " ++ name ++ (if count = 1 then "" else "s")

/-- The failure of calling a method with another number of arguments than it takes. -/
def wrongArguments (owner : Value) (name : String) (given : Nat) : Cause :=
  let wanted := methodArguments name
  let start := owner.typeName ++ "." ++ name ++ "() "
  .wrongType <|
    if given < wanted.length then
      let missing := wanted.drop given
      start ++ "missing " ++ countedName missing.length "required positional argument" ++
        ": " ++ nameList missing
    else
      start ++ "takes " ++ countedName (wanted.length + 1) "positional argument" ++
        " but " ++ toString (given + 1) ++ " were given"

/-- Call a method that only looks. -/
def callMethod (owner : Value) (name : String) (arguments : List Value) : Observe Value := do
  if arguments.length != (methodArguments name).length then
    fail (wrongArguments owner name arguments.length)
  else
    match owner, name, arguments with
    | .node _, "find_all", [type] => newList (← findAll owner type)
    | .node _, "iter_nodes", [] => return .other "generator"
    | .ref id, "peek", [] => refPeek id
    | _, _, _ => fail (.notCallable "method")

/-- Call a value. -/
def call (target : Value) (arguments : List Value) : Observe Value :=
  match target with
  | .function f => callFunction f arguments
  | .component c =>
      match arguments with
      | [props, children] => c.render props children
      | _ => fail (.wrongType "a component takes properties and children")
  | .method owner name => callMethod owner name arguments
  | other => fail (.notCallable other.typeName)

end ReactiveSchema.Observe
