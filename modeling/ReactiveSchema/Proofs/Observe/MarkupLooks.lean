import ReactiveSchema.Markup.Html
import ReactiveSchema.Proofs.Observe.ExpressionLooks
import ReactiveSchema.Schema.Iteration

/-!
# Looking at markup

Building nodes, going over loops and writing nodes out as markup look at memory and do
nothing else.
-/

namespace ReactiveSchema

namespace Looks

variable {P : (α : Type) → Observe α → Prop}

/-! ## Building nodes -/

section Flatten

variable {deeper : Value → Observe (List Value)}

theorem flattenFlat (looks : Looks P) (each : ∀ value, P _ (deeper value)) (value : Value)
    (flat : ∀ items, value ≠ .tuple items) : P _ (Observe.flattenStep deeper value) := by
  unfold Observe.flattenStep
  split
  · exact looks.pure _
  · exact absurd rfl (flat _)
  · exact looks.bind looks.get fun memory => looks.map (looks.mapM each _) _
  · exact looks.pure _

mutual

theorem flattenStep (looks : Looks P) (each : ∀ value, P _ (deeper value)) :
    ∀ value, P _ (Observe.flattenStep deeper value)
  | .tuple items => looks.flattenTuple each items
  | .none | .undefined | .missing | .ellipsis | .bool _ | .int _ | .float _ | .nan _
  | .complex _ _ | .str _ | .list _ | .map _ | .liveList _ | .liveMap _ | .text _ | .node _
  | .function _ | .component _ | .object _ | .incomparable _ | .ref _ | .scope _ | .handle _ _
  | .method _ _ | .other _ => looks.flattenFlat each _ fun _ same => nomatch same

theorem flattenTuple (looks : Looks P) (each : ∀ value, P _ (deeper value)) :
    ∀ items, P _ (Observe.flattenStep.flattenTuple deeper items)
  | [] => looks.pure _
  | item :: rest =>
      looks.bind (looks.flattenStep each item) fun _ => looks.map (looks.flattenTuple each rest) _

end

end Flatten

theorem flattenWithin (looks : Looks P) (depth : Nat) :
    ∀ value, P _ (Observe.flattenWithin depth value) := by
  induction depth with
  | zero => exact fun _ => looks.throw rfl
  | succ depth ih => exact looks.flattenStep ih

theorem flatten (looks : Looks P) (children : Value) : P _ (Observe.flatten children) :=
  looks.bind looks.get fun _ => looks.flattenWithin _ children

theorem flatChildren (looks : Looks P) (children : Value) :
    P _ (Observe.flatChildren children) :=
  looks.bind looks.get fun _ => looks.flattenWithin _ children

theorem toChild (looks : Looks P) (child : Value) : P _ (Observe.toChild child) := by
  unfold Observe.toChild
  split
  · exact looks.pure _
  · exact looks.pure _
  · exact looks.map (looks.textOf _) _

theorem makeNode (looks : Looks P) (type attributes children : Value) :
    P _ (Observe.makeNode type attributes children) := by
  refine looks.bind (looks.isTrue attributes) fun given => ?_
  refine looks.branch (looks.copyMap attributes) (looks.pure []) fun entries => ?_
  refine looks.bind (looks.newMap entries) fun props => ?_
  refine looks.bind (looks.flatChildren children) fun items => ?_
  refine looks.bind (looks.mapM looks.toChild items) fun items => ?_
  exact looks.bind (looks.newList items) fun _ => looks.newNode _ _ _

/-! ## Loops -/

theorem iterationPairs (looks : Looks P) (values : Value) :
    P _ (Observe.iterationPairs values) := by
  unfold Observe.iterationPairs
  split
  · exact looks.pure _
  · split
    · exact looks.entriesOf _
    · exact looks.entriesOf _
    · exact looks.map (looks.iterate _) _
    · exact looks.map (looks.iterate _) _
    · exact looks.map (looks.iterate _) _
    · exact looks.pure _

theorem iterationFrame (looks : Looks P) (valueName : String) (keyName : Option String)
    (key value : Value) : P _ (Observe.iterationFrame valueName keyName key value) := by
  cases keyName with
  | none => exact looks.newMap _
  | some name => exact looks.newMap _

/-! ## Markup text -/

theorem isOmitted (looks : Looks P) (value : Value) : P _ (Observe.isOmitted value) :=
  looks.isAmong value _

theorem styleText (looks : Looks P) (entries : List (Value × Value)) :
    P _ (Observe.styleText entries) := by
  refine looks.map (looks.filterMapM (fun entry => ?_) entries) _
  refine looks.bind (looks.isOmitted _) fun omitted => ?_
  split
  · exact looks.pure _
  · exact looks.bind (looks.textOf _) fun _ => looks.map (looks.textOf _) _

theorem keyText (looks : Looks P) (entries : List (Value × Value)) :
    P _ (Observe.keyText entries) := by
  refine looks.map (looks.filterMapM (fun entry => ?_) entries) _
  refine looks.bind (looks.isTrue _) fun holds => ?_
  split
  · exact looks.map (looks.textOf _) _
  · exact looks.pure _

theorem itemText (looks : Looks P) (items : List Value) : P _ (Observe.itemText items) := by
  refine looks.map (looks.filterMapM (fun value => ?_) items) _
  refine looks.bind (looks.isOmitted value) fun omitted => ?_
  split
  · exact looks.pure _
  · exact looks.map (looks.textOf value) _

theorem attributeText (looks : Looks P) (name value : Value) :
    P _ (Observe.attributeText name value) := by
  unfold Observe.attributeText
  split
  case h_1 | h_2 =>
    refine looks.bind (looks.entriesOf _) fun entries => ?_
    split
    · exact looks.styleText entries
    · exact looks.keyText entries
  case h_3 => exact looks.bind looks.get fun memory => looks.itemText _
  case h_4 => exact looks.itemText _
  case h_5 => exact looks.textOf _

theorem writtenAttribute (looks : Looks P) (name value : Value) :
    P _ (Observe.writtenAttribute name value) := by
  unfold Observe.writtenAttribute
  split
  case h_5 =>
    exact looks.bind (looks.attributeText name _) fun _ => looks.map (looks.textOf name) _
  all_goals exact looks.pure _

theorem writtenText (looks : Looks P) (written : Value) : P _ (Observe.writtenText written) := by
  unfold Observe.writtenText
  split
  · exact looks.pure _
  · exact looks.fail rfl

theorem attributesText (looks : Looks P) (props : Value) :
    P _ (Observe.attributesText props) := by
  refine looks.bind (looks.entriesOf props) fun entries => ?_
  refine looks.bind (looks.mapM (fun entry => looks.writtenAttribute _ _) entries) fun all => ?_
  refine looks.bind (looks.filterM looks.isTrue all) fun kept => ?_
  exact looks.map (looks.mapM looks.writtenText kept) _

theorem htmlItem (looks : Looks P) {inner : Value → Observe String}
    (each : ∀ value, P _ (inner value)) (item : Value) : P _ (Observe.htmlItem inner item) := by
  unfold Observe.htmlItem
  split
  · exact looks.pure _
  · exact looks.pure _
  · refine looks.bind looks.get fun memory => ?_
    dsimp only
    split
    · refine looks.bind (looks.attributesText _) fun attributes => ?_
      split
      · exact looks.pure _
      · exact looks.map (each _) _
    · exact looks.bind (looks.call _ _) fun expanded => each expanded
  · exact looks.map (looks.textOf _) _

theorem html (looks : Looks P) (renderable : Value) : P _ (Observe.html renderable) := by
  have within (depth : Nat) : ∀ value, P _ (Observe.htmlWithin depth value) := by
    induction depth with
    | zero => exact fun _ => looks.throw rfl
    | succ depth ih =>
        intro value
        refine looks.bind (looks.flatten value) fun items => ?_
        exact looks.map (looks.mapM (looks.htmlItem ih) items) _
  exact looks.bind looks.get fun memory => within _ renderable

end Looks

end ReactiveSchema
