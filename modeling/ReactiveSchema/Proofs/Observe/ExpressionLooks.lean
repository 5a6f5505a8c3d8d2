import ReactiveSchema.Proofs.Observe.ScopeLooks

/-!
# Looking at expressions

Evaluating an expression looks at memory and does nothing else, as long as giving its
tokens their values does so.  What operators, templates, components and functions do with
values is looking as well.
-/

namespace ReactiveSchema

namespace Looks

variable {P : (α : Type) → Observe α → Prop}

/-! ## Numbers and sequences -/

theorem ofConstant (looks : Looks P) (constant : Constant) :
    P _ (Observe.ofConstant constant) := by
  cases constant with
  | float x => exact looks.ofFloat x
  | none | true | false | int | imaginary | str | ellipsis => exact looks.pure _

theorem addedText (looks : Looks P) (value : Value) : P _ (Observe.addedText value) := by
  unfold Observe.addedText
  split
  · exact looks.pure _
  · exact looks.textOf _

theorem unsupported (looks : Looks P) (op : ArithOp) (left right : Value) :
    P _ (Observe.unsupported op left right) :=
  looks.fail rfl

theorem onNumbers (looks : Looks P) (op : ArithOp) (left right : Value) :
    P _ (Observe.onNumbers op left right) := by
  unfold Observe.onNumbers
  split
  · split
    · exact looks.ofNum _
    · exact looks.unsupported op left right
    · exact looks.fail rfl
  · exact looks.unsupported op left right

theorem add (looks : Looks P) (left right : Value) : P _ (Observe.add left right) := by
  unfold Observe.add
  split
  · refine looks.bind (looks.addedText left) fun _ => ?_
    exact looks.map (looks.addedText right) _
  · split
    · exact looks.bind looks.get fun memory => looks.newList _
    · exact looks.pure _
    · exact looks.fail rfl
    · exact looks.fail rfl
    · exact looks.onNumbers .add left right

theorem repeatCount (looks : Looks P) (count : Value) : P _ (Observe.repeatCount count) := by
  unfold Observe.repeatCount
  split
  · exact looks.fail rfl
  · split
    · exact looks.pure _
    · exact looks.fail rfl

theorem repeatable? (looks : Looks P) (value : Value) : P _ (Observe.repeatable? value) := by
  unfold Observe.repeatable?
  split
  · exact looks.pure _
  · exact looks.pure _
  · exact looks.getting _
  · exact looks.pure _

theorem repeatWithin {α : Type} (looks : Looks P) (count : Nat) (items : List α) :
    P _ (Observe.repeatWithin count items) := by
  unfold Observe.repeatWithin
  split
  · exact looks.fail rfl
  · exact looks.pure _

theorem repeatValue (looks : Looks P) (sequence : Observe.Repeatable) (count : Value) :
    P _ (Observe.repeatValue sequence count) := by
  refine looks.bind (looks.repeatCount count) fun n => ?_
  cases sequence with
  | str s =>
      dsimp only
      split
      · exact looks.map (looks.repeatWithin n _) _
      · exact looks.fail rfl
  | tuple items => exact looks.map (looks.repeatWithin n items) _
  | list items => exact looks.bind (looks.repeatWithin n items) fun _ => looks.newList _

theorem mul (looks : Looks P) (left right : Value) : P _ (Observe.mul left right) := by
  refine looks.bind (looks.repeatable? left) fun first => ?_
  split
  · exact looks.repeatValue _ right
  · refine looks.bind (looks.repeatable? right) fun second => ?_
    split
    · exact looks.repeatValue _ left
    · exact looks.onNumbers .mul left right

/-! ## Templates -/

section Template

open ReactiveSchema.Template

theorem nextValue (looks : Looks P) (source : Source) : P _ (next source) := by
  unfold next
  split
  · exact looks.pure _
  · exact looks.pure _
  · exact looks.fail rfl

theorem chooseEntry (looks : Looks P) (source : Source) (key : Option String) :
    P _ (choose source key) := by
  unfold choose
  split
  · exact looks.pure _
  · split
    · exact looks.fail rfl
    · exact looks.map (looks.getItem _ _) _

theorem wholeOf (looks : Looks P) (letter : Char) (value : Value) :
    P _ (wholeOf letter value) := by
  unfold Template.wholeOf
  split
  · exact looks.pure _
  · split
    · exact looks.fail rfl
    · split
      · split
        · exact looks.pure _
        · exact looks.fail rfl
      · exact looks.fail rfl
      · exact looks.fail rfl

theorem realOf (looks : Looks P) (value : Value) : P _ (realOf value) := by
  unfold Template.realOf
  split
  · dsimp only
    split
    · exact looks.pure _
    · exact looks.fail rfl
  · exact looks.pure _
  · exact looks.fail rfl

theorem charOf (looks : Looks P) (value : Value) : P _ (charOf value) := by
  unfold Template.charOf
  split
  · split
    · exact looks.pure _
    · exact looks.fail rfl
  · split
    · split
      · exact looks.pure _
      · exact looks.fail rfl
    · exact looks.fail rfl

theorem takeAmount (looks : Looks P) (limit : Nat) (fault : TemplateFault) (source : Source) :
    P _ (takeAmount limit fault source) := by
  refine looks.bind (looks.nextValue source) fun taken => ?_
  dsimp only
  split
  · split
    · exact looks.fail rfl
    · exact looks.pure _
  · exact looks.fail rfl

theorem widthOf (looks : Looks P) (amount : Amount) (source : Source) :
    P _ (widthOf amount source) := by
  cases amount with
  | absent => exact looks.pure _
  | given n =>
      unfold Template.widthOf
      dsimp only
      split
      · exact looks.fail rfl
      · exact looks.pure _
  | taken => exact looks.takeAmount _ _ source

theorem placesOf (looks : Looks P) (amount : Amount) (source : Source) :
    P _ (placesOf amount source) := by
  cases amount with
  | absent => exact looks.pure _
  | given n =>
      unfold Template.placesOf
      dsimp only
      split
      · exact looks.fail rfl
      · exact looks.pure _
  | taken => exact looks.bind (looks.takeAmount _ _ source) fun _ => looks.pure _

theorem layOut (looks : Looks P) (flags : Flags) (places : Option Nat) (letter : Char)
    (position : Nat) (value : Value) : P _ (layOut flags places letter position value) := by
  unfold Template.layOut
  split
  · exact looks.map (looks.textOf value) _
  split
  · exact looks.map (looks.shown value) _
  split
  · exact looks.map (looks.shown value) _
  split
  · refine looks.bind (looks.wholeOf letter value) fun n => ?_
    split
    · exact looks.fail rfl
    · exact looks.pure _
  split
  · exact looks.map (looks.wholeOf letter value) _
  split
  · exact looks.map (looks.realOf value) _
  split
  · exact looks.map (looks.charOf value) _
  · exact looks.fail rfl

theorem fillDirective (looks : Looks P) (directive : Directive) (source : Source) :
    P _ (fillDirective directive source) := by
  refine looks.bind (looks.chooseEntry source _) fun source => ?_
  refine looks.bind (looks.widthOf _ source) fun width => ?_
  refine looks.bind (looks.placesOf _ _) fun places => ?_
  dsimp only
  split
  · exact looks.fail rfl
  · refine looks.bind (looks.nextValue _) fun taken => ?_
    exact looks.bind (looks.layOut _ _ _ _ _) fun _ => looks.pure _

theorem fillParts (looks : Looks P) (parts : List Part) (source : Source) :
    P _ (fillParts parts source) := by
  induction parts generalizing source with
  | nil =>
      unfold Template.fillParts
      split
      · exact looks.fail rfl
      · exact looks.pure _
  | cons part rest ih =>
      cases part with
      | plain c => exact looks.map (ih source) _
      | percent => exact looks.map (ih source) _
      | openKey => exact looks.fail rfl
      | directive directive =>
          refine looks.bind (looks.fillDirective directive source) fun filled => ?_
          exact looks.map (ih _) _

theorem fill (looks : Looks P) (template : String) (operand : Value) :
    P _ (fill template operand) :=
  looks.map (looks.fillParts _ _) _

end Template

/-! ## Operators -/

theorem mod (looks : Looks P) (left right : Value) : P _ (Observe.mod left right) := by
  unfold Observe.mod
  split
  · exact looks.map (looks.fill _ right) _
  · exact looks.onNumbers .mod left right

theorem arith (looks : Looks P) (op : ArithOp) (left right : Value) :
    P _ (Observe.arith op left right) := by
  cases op with
  | add => exact looks.add left right
  | mul => exact looks.mul left right
  | mod => exact looks.mod left right
  | sub | div | pow => exact looks.onNumbers _ left right

theorem signed (looks : Looks P) (sign : String) (change : Number.Num → Number.Num)
    (operand : Value) : P _ (Observe.signed sign change operand) := by
  unfold Observe.signed
  split
  · exact looks.ofNum _
  · exact looks.fail rfl

theorem plus (looks : Looks P) (operand : Value) : P _ (Observe.plus operand) := by
  unfold Observe.plus
  split
  · exact looks.pure _
  · exact looks.signed _ _ _

theorem recover {α : Type} (looks : Looks P) (kinds : List FailureKind) (otherwise : α)
    {body : Observe α} (each : P _ body) : P _ (Observe.recover kinds otherwise body) := by
  refine looks.tryCatch each fun fault again => ?_
  split
  · exact looks.pure _
  · exact again

theorem isIn (looks : Looks P) (value container : Value) : P _ (Observe.isIn value container) :=
  looks.recover _ _ (looks.contains value container)

theorem compareBy (looks : Looks P) (comparison : Comparison) (left right : Value) :
    P _ (Observe.compareBy comparison left right) := by
  cases comparison with
  | eq => exact looks.equal left right
  | ne => exact looks.map (looks.equal left right) _
  | lt | le | gt | ge => exact looks.inOrder left right
  | «in» => exact looks.isIn left right
  | notIn => exact looks.map (looks.isIn left right) _

theorem subscript (looks : Looks P) (object key : Value) :
    P _ (Observe.subscript object key) :=
  looks.recover _ _ (looks.getItem object key)

/-! ## Nodes -/

theorem walkWithin {α : Type} (looks : Looks P) {visit : NodeCell → Value → Observe (List α)}
    (each : ∀ cell self, P _ (visit cell self)) (depth : Nat) (value : Value) :
    P _ (Observe.walkWithin visit depth value) := by
  induction depth generalizing value with
  | zero => exact looks.throw rfl
  | succ depth ih =>
      cases value with
      | node id =>
          refine looks.bind looks.get fun memory => ?_
          refine looks.bind (each _ _) fun own => ?_
          refine looks.bind (looks.iterate _) fun children => ?_
          exact looks.map (looks.mapM ih children) _
      | _ => exact looks.pure _

theorem walk {α : Type} (looks : Looks P) {visit : NodeCell → Value → Observe (List α)}
    (each : ∀ cell self, P _ (visit cell self)) (name : String) (node : Value) :
    P _ (Observe.walk name visit node) := by
  unfold Observe.walk
  split
  · exact looks.bind looks.get fun memory => looks.walkWithin each _ _
  · exact looks.fail rfl

theorem nodeTypes (looks : Looks P) (node : Value) : P _ (Observe.nodeTypes node) :=
  looks.walk (fun _ _ => looks.pure _) _ node

theorem findAll (looks : Looks P) (node type : Value) : P _ (Observe.findAll node type) :=
  looks.walk (fun _ _ => looks.map (looks.equal _ type) _) _ node

/-! ## Components and functions -/

theorem plainElement (looks : Looks P) (tag : String) (children : Value) :
    P _ (plainElement tag children) :=
  looks.bind (looks.newMap _) fun _ => looks.newNode _ _ _

theorem renderBadge (looks : Looks P) (props children : Value) :
    P _ (Component.renderBadge props children) := by
  refine looks.bind (looks.getEntry props _ _) fun tone => ?_
  refine looks.bind (looks.isTrue tone) fun given => ?_
  refine looks.bind (looks.textOf _) fun text => ?_
  refine looks.bind (looks.newList _) fun classes => ?_
  exact looks.bind (looks.newMap _) fun _ => looks.newNode _ _ _

theorem renderCard (looks : Looks P) (props children : Value) :
    P _ (Component.renderCard props children) := by
  refine looks.bind (looks.newMap _) fun attributes => ?_
  refine looks.bind (looks.getEntry props _ _) fun title => ?_
  refine looks.bind (looks.textOf title) fun title => ?_
  refine looks.bind (looks.newList _) fun inner => ?_
  refine looks.bind (looks.plainElement _ _) fun heading => ?_
  refine looks.bind (looks.iterate children) fun items => ?_
  exact looks.bind (looks.newList _) fun _ => looks.newNode _ _ _

theorem renderMulti (looks : Looks P) : P _ Component.renderMulti := by
  refine looks.bind (looks.newList _) fun inner => ?_
  refine looks.bind (looks.plainElement _ _) fun element => ?_
  exact looks.bind (looks.newList _) fun _ => looks.newList _

theorem render (looks : Looks P) (component : Component) (props children : Value) :
    P _ (component.render props children) := by
  cases component with
  | badge => exact looks.renderBadge props children
  | card => exact looks.renderCard props children
  | compact => exact looks.plainElement _ children
  | dump | wrap => exact looks.newNode _ _ _
  | echo | null | str | num => exact looks.pure _
  | multi => exact looks.renderMulti
  | boom => exact looks.fail rfl

theorem firstArgument (looks : Looks P) (arguments : List Value) :
    P _ (Observe.firstArgument arguments) := by
  cases arguments with
  | nil => exact looks.fail rfl
  | cons value rest => exact looks.pure _

theorem callFunction (looks : Looks P) (function : DataFunction) (arguments : List Value) :
    P _ (Observe.callFunction function arguments) := by
  have first := looks.firstArgument arguments
  cases function with
  | upper => exact looks.bind first fun value => looks.map (looks.textOf value) _
  | ident => exact first
  | args => exact looks.newList arguments
  | len => exact looks.bind first fun value => looks.map (looks.lengthOf value) _
  | join =>
      refine looks.bind first fun value => looks.bind (looks.iterate value) fun items => ?_
      exact looks.map (looks.mapM looks.textOf items) _
  | mk => exact looks.bind (looks.newList _) fun _ => looks.newMap _
  | undef | fn => exact looks.pure _
  | boom => exact looks.fail rfl
  | syn => exact looks.bind looks.get fun memory => looks.throw rfl

theorem callMethod (looks : Looks P) (owner : Value) (name : String) (arguments : List Value) :
    P _ (Observe.callMethod owner name arguments) := by
  unfold Observe.callMethod
  split
  · exact looks.fail rfl
  · split
    · exact looks.bind (looks.findAll _ _) fun _ => looks.newList _
    · exact looks.pure _
    · exact looks.refPeek _
    · exact looks.fail rfl

theorem call (looks : Looks P) (target : Value) (arguments : List Value) :
    P _ (Observe.call target arguments) := by
  unfold Observe.call
  split
  · exact looks.callFunction _ arguments
  · split
    · exact looks.render _ _ _
    · exact looks.fail rfl
  · exact looks.callMethod _ _ arguments
  · exact looks.fail rfl

/-! ## Evaluation -/

section Evaluate

variable {token : Nat → Observe Value}

mutual

theorem evaluateTree (looks : Looks P) (each : ∀ index, P _ (token index)) :
    ∀ expr : Expr, P _ (expr.evaluate token)
  | .constant c => looks.ofConstant c
  | .token index => each index
  | .all operands => looks.firstFalse each _ operands
  | .any operands => looks.firstTrue each _ operands
  | .not operand =>
      looks.bind (looks.evaluateTree each operand) fun value => looks.map (looks.isTrue value) _
  | .minus operand =>
      looks.bind (looks.evaluateTree each operand) fun value => looks.signed _ _ value
  | .plus operand => looks.bind (looks.evaluateTree each operand) looks.plus
  | .arith op left right =>
      looks.bind (looks.evaluateTree each left) fun _ =>
        looks.bind (looks.evaluateTree each right) fun _ => looks.arith op _ _
  | .compare first ops others =>
      looks.bind (looks.evaluateTree each first) fun left =>
        looks.map (looks.chain each left ops others) _
  | .conditional test body otherwise => by
      refine looks.bind (looks.evaluateTree each test) fun value => ?_
      refine looks.bind (looks.isTrue value) fun holds => ?_
      split
      · exact looks.evaluateTree each body
      · exact looks.evaluateTree each otherwise
  | .subscript object key =>
      looks.bind (looks.evaluateTree each object) fun _ =>
        looks.bind (looks.evaluateTree each key) fun _ => looks.subscript _ _
  | .call function arguments => by
      refine looks.bind (looks.evaluateTree each function) fun target => ?_
      split
      · exact looks.bind (looks.evaluateAll each arguments) fun values => looks.call target values
      · exact looks.fail rfl
  | .sequence items => looks.bind (looks.evaluateAll each items) fun _ => looks.newList _

theorem evaluateAll (looks : Looks P) (each : ∀ index, P _ (token index)) :
    ∀ exprs, P _ (Expr.evaluate.evaluateAll token exprs)
  | [] => looks.pure _
  | expr :: rest =>
      looks.bind (looks.evaluateTree each expr) fun _ =>
        looks.map (looks.evaluateAll each rest) _

theorem firstFalse (looks : Looks P) (each : ∀ index, P _ (token index)) (last : Value) :
    ∀ exprs, P _ (Expr.evaluate.firstFalse token last exprs)
  | [] => looks.pure _
  | expr :: rest => by
      refine looks.bind (looks.evaluateTree each expr) fun value => ?_
      refine looks.bind (looks.isTrue value) fun holds => ?_
      split
      · exact looks.firstFalse each value rest
      · exact looks.pure _

theorem firstTrue (looks : Looks P) (each : ∀ index, P _ (token index)) (last : Value) :
    ∀ exprs, P _ (Expr.evaluate.firstTrue token last exprs)
  | [] => looks.pure _
  | expr :: rest => by
      refine looks.bind (looks.evaluateTree each expr) fun value => ?_
      refine looks.bind (looks.isTrue value) fun holds => ?_
      split
      · exact looks.pure _
      · exact looks.firstTrue each value rest

theorem chain (looks : Looks P) (each : ∀ index, P _ (token index)) (left : Value) :
    ∀ ops exprs, P _ (Expr.evaluate.chain token left ops exprs)
  | [], [] | [], _ :: _ | _ :: _, [] => looks.pure _
  | op :: ops, expr :: others => by
      refine looks.bind (looks.evaluateTree each expr) fun right => ?_
      refine looks.bind (looks.compareBy op left right) fun holds => ?_
      split
      · exact looks.chain each right ops others
      · exact looks.pure _

end

theorem tokenValues (looks : Looks P) (each : ∀ index, P _ (token index))
    (expression : Expression) : P _ (expression.snapshot token) := by
  refine looks.mapM (fun entry => ?_) _
  refine looks.tryCatch (looks.map (each _) _) fun fault again => ?_
  split
  · exact looks.pure _
  · exact again

theorem listedValue (looks : Looks P) (token : String) (value : Except Fault Value) :
    P _ (listedValue token value) := by
  cases value with
  | error fault => exact looks.pure _
  | ok value => exact looks.map (looks.shown value) _

/-- An expression is evaluated, and its failure told. -/
theorem evaluate (looks : Looks P) (each : ∀ index, P _ (token index))
    (expression : Expression) : P _ (expression.evaluate token) := by
  refine looks.tryCatch (looks.evaluateTree each _) fun fault again => ?_
  split
  · exact again
  · simp only [Expression.report, bind_assoc, pure_bind]
    refine looks.bind (looks.tokenValues each expression) fun values => ?_
    refine looks.bind (looks.mapM (fun entry => looks.listedValue _ _) values) fun listed => ?_
    exact looks.bind looks.get fun memory => looks.throw rfl

end Evaluate

end Looks

end ReactiveSchema
