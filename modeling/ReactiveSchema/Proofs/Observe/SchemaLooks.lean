import ReactiveSchema.Expr.Evaluate
import ReactiveSchema.Proofs.Observe.Looks
import ReactiveSchema.Schema.Node

/-!
# Looking at schemas

Sorting raw schema data into nodes looks at memory and does nothing else.
-/

namespace ReactiveSchema

/-- A computation has every property that the steps of looking have. -/
def Observe.IsLook {α : Type} (look : Observe α) : Prop :=
  ∀ P, Looks P → P α look

namespace Looks

variable {P : (α : Type) → Observe α → Prop}

theorem hasKey (looks : Looks P) (mapping : Value) (key : String) :
    P _ (Observe.hasKey mapping key) :=
  looks.contains _ mapping

theorem entryOf (looks : Looks P) (mapping : Value) (key : String) :
    P _ (Observe.entryOf mapping key) :=
  looks.getEntry mapping _ _

theorem entryOf? (looks : Looks P) (mapping : Value) (key : String) :
    P _ (Observe.entryOf? mapping key) := by
  refine looks.bind (looks.hasKey mapping key) fun known => ?_
  split
  · exact looks.bind (looks.getItem mapping _) fun _ => looks.pure _
  · exact looks.pure _

theorem isConditional (looks : Looks P) (raw : Value) : P _ (Observe.isConditional raw) := by
  unfold Observe.isConditional
  split
  · exact looks.pure _
  · refine looks.bind (looks.hasKey raw "if") fun known => ?_
    split
    · exact looks.hasKey raw "then"
    · exact looks.pure _

theorem loopOf (looks : Looks P) (parts : List Value) : P _ (Observe.loopOf parts) := by
  unfold Observe.loopOf
  split
  · exact looks.pure _
  · exact looks.bind (looks.textOf _) fun _ => looks.pure _
  · exact looks.pure _

theorem parseLoop (looks : Looks P) (raw : Value) : P _ (Observe.parseLoop raw) := by
  unfold Observe.parseLoop
  split
  · exact looks.loopOf _
  · exact looks.bind looks.get fun memory => looks.loopOf _
  · exact looks.pure _

theorem parseBindings (looks : Looks P) (raw : Value) : P _ (Observe.parseBindings raw) := by
  refine looks.bind (looks.entryOf raw "let") fun bindings => ?_
  split
  · refine looks.bind (looks.isTrue bindings) fun filled => ?_
    split
    · exact looks.pure _
    · exact looks.pure _
  · exact looks.pure _

theorem parseParts (looks : Looks P) (attributes : String) (raw : Value) :
    P _ (Observe.parseParts attributes raw) := by
  refine looks.bind (looks.entryOf raw attributes) fun _ => ?_
  refine looks.bind (looks.entryOf raw "children") fun _ => ?_
  refine looks.bind (looks.entryOf? raw "if") fun _ => ?_
  refine looks.bind (looks.parseBindings raw) fun _ => ?_
  refine looks.bind (looks.entryOf raw "for") fun loop => ?_
  exact looks.bind (looks.parseLoop loop) fun _ => looks.pure _

theorem parseElement (looks : Looks P) (raw tag : Value) :
    P _ (Observe.parseElement raw tag) := by
  unfold Observe.parseElement
  split
  · split
    · exact looks.pure _
    · exact looks.bind (looks.parseParts "attrs" raw) fun _ => looks.pure _
  · exact looks.pure _

theorem parseComponent (looks : Looks P) (raw ref : Value) :
    P _ (Observe.parseComponent raw ref) := by
  unfold Observe.parseComponent
  split
  · exact looks.pure _
  · refine looks.bind (looks.equal ref _) fun nameless => ?_
    split
    · exact looks.pure _
    · exact looks.bind (looks.parseParts "props" raw) fun _ => looks.pure _

theorem parseMapping (looks : Looks P) (raw : Value) : P _ (Observe.parseMapping raw) := by
  refine looks.bind (looks.entryOf? raw "$el") fun tag => ?_
  split
  · exact looks.parseElement raw _
  · refine looks.bind (looks.entryOf? raw "$cmp") fun ref => ?_
    split
    · exact looks.parseComponent raw _
    · refine looks.bind (looks.isConditional raw) fun conditional => ?_
      split
      · refine looks.bind (looks.getItem raw _) fun _ => ?_
        refine looks.bind (looks.getItem raw _) fun _ => ?_
        exact looks.bind (looks.entryOf? raw "else") fun _ => looks.pure _
      · exact looks.pure _

theorem parseNode (looks : Looks P) (raw : Value) : P _ (Observe.parseNode raw) := by
  unfold Observe.parseNode
  split
  · exact looks.pure _
  · split
    · exact looks.parseMapping raw
    · exact looks.pure _

theorem isFrameFault_toFault (colors : Bool) (source : String) (fault : SourceFault) :
    (fault.toFault colors source).isFrameFault = false := by
  cases fault <;> rfl

theorem compileSource (looks : Looks P) (source : String) :
    P _ (Observe.compileSource source) := by
  unfold Observe.compileSource
  split
  · exact looks.pure _
  · exact looks.bind looks.get fun memory => looks.throw (isFrameFault_toFault ..)

end Looks

end ReactiveSchema
