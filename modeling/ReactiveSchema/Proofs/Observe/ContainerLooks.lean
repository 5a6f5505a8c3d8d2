import ReactiveSchema.Proofs.Observe.ExpressionLooks
import ReactiveSchema.Script.Containers

/-!
# Looking into containers of either face

What programs read of plain and live containers by the same operations looks at memory and
does nothing else.
-/

namespace ReactiveSchema

namespace Looks

variable {P : (α : Type) → Observe α → Prop} {α : Type}

theorem unknown (looks : Looks P) (value : Value) (name : String) :
    P α (Observe.unknown value name) :=
  looks.fail rfl

theorem getPath (looks : Looks P) (given : Value) (keys : List Value) :
    P _ (Observe.getPath given keys) := by
  induction keys generalizing given with
  | nil => exact looks.pure given
  | cons key rest ih => exact looks.bind (looks.getItem given key) fun next => ih next

theorem textOfItems (looks : Looks P) (items : List Value) : P _ (Observe.textOfItems items) :=
  looks.map (looks.mapM looks.textOf items) _

theorem getSlice (looks : Looks P) (value start stop step : Value) :
    P _ (Observe.getSlice value start stop step) := by
  unfold Observe.getSlice
  split
  · refine looks.bind (looks.iterate _) fun items => ?_
    exact looks.bind (looks.sliceItems items start stop step) fun _ => looks.textOfItems _
  · exact looks.map (looks.sliceItems _ start stop step) _
  · refine looks.bind looks.get fun memory => ?_
    exact looks.bind (looks.sliceItems _ start stop step) fun _ => looks.newList _
  · refine looks.bind (looks.trackList _) fun _ => looks.bind looks.get fun memory => ?_
    refine looks.bind (looks.sliceItems _ start stop step) fun items => ?_
    exact looks.bind (looks.mapM looks.makeLive items) fun _ => looks.newList _
  · exact looks.fail rfl
  · exact looks.fail rfl
  · exact looks.fail rfl

theorem reversedItems (looks : Looks P) (value : Value) :
    P _ (Observe.reversedItems value) := by
  unfold Observe.reversedItems
  split
  case h_5 =>
    refine looks.bind (looks.liveListLength _) fun length => ?_
    exact looks.mapM (fun place => looks.liveListGetAt _ _) _
  case h_6 => exact looks.fail rfl
  all_goals exact looks.map (looks.iterate _) _

theorem keysOf (looks : Looks P) (value : Value) : P _ (Observe.keysOf value) := by
  unfold Observe.keysOf
  split
  · exact looks.iterate value
  · exact looks.unknown value _

theorem valuesOf (looks : Looks P) (value : Value) : P _ (Observe.valuesOf value) := by
  unfold Observe.valuesOf
  split
  · exact looks.map (looks.entriesOf value) _
  · exact looks.unknown value _

theorem pairsOf (looks : Looks P) (value : Value) : P _ (Observe.pairsOf value) :=
  looks.map (looks.entriesOf value) _

theorem partOfText (looks : Looks P) (part : Value) : P _ (Observe.partOfText part) := by
  unfold Observe.partOfText
  split
  · exact looks.pure _
  · exact looks.fail rfl

/-! ## Places -/

theorem indexOf (looks : Looks P) (container : String) (index : Value) :
    P _ (Observe.indexOf container index) := by
  unfold Observe.indexOf
  split
  · exact looks.pure _
  · exact looks.fail rfl

theorem placeOf (looks : Looks P) (what : String) (length : Nat) (index : Value) :
    P _ (Observe.placeOf what length index) := by
  refine looks.bind (looks.indexOf _ index) fun n => ?_
  split
  · exact looks.pure _
  · exact looks.fail rfl

theorem positionOf (looks : Looks P) (index : Value) : P _ (Observe.positionOf index) := by
  unfold Observe.positionOf
  split
  · exact looks.fail rfl
  · split
    · exact looks.pure _
    · exact looks.fail rfl

theorem plainEntry (looks : Looks P) (id : LiveMapId) (key : Value) :
    P _ (Act.plainEntry id key) :=
  looks.bind (looks.checkKey key) fun _ => looks.getting _

/-- The value of a key, or none where a failure to find it is expected. -/
theorem foundEntry (looks : Looks P) (id : LiveMapId) (key : Value) (expected : Fault → Bool) :
    P _ (tryCatch (do return some (← Observe.liveMapGet id key)) fun fault =>
      if expected fault then pure none else throw fault : Observe (Option Value)) := by
  refine looks.tryCatch (looks.map (looks.liveMapGet id key) _) fun fault again => ?_
  split
  · exact looks.pure _
  · exact again

theorem plainItems (looks : Looks P) (source : Value) : P _ (Act.plainItems source) :=
  looks.bind (looks.iterate source) fun _ => looks.getting _

theorem findEqual (looks : Looks P) (value : Value) (place : Nat) (items : List Value) :
    P _ (Observe.findEqual value place items) := by
  induction items generalizing place with
  | nil => exact looks.fail rfl
  | cons item rest ih =>
      refine looks.bind (looks.sameOr looks.equal item value) fun same => ?_
      split
      · exact looks.pure _
      · exact ih _

theorem liveListFind (looks : Looks P) (id : LiveListId) (value : Value) :
    P _ (Act.liveListFind id value) := by
  have search (limit : Nat) : ∀ place, P _ (Act.liveListFindFrom id value limit place) := by
    induction limit with
    | zero => exact fun _ => looks.fail rfl
    | succ limit ih =>
        intro place
        refine looks.bind (looks.liveListGetAt id _) fun item => ?_
        refine looks.bind (looks.sameOr looks.equal item value) fun same => ?_
        split
        · exact looks.pure _
        · exact ih _
  exact looks.bind (looks.trackList id) fun _ => looks.bind looks.get fun memory => search _ 0

theorem firstPlace (looks : Looks P) (value item : Value) :
    P _ (Observe.firstPlace value item) := by
  unfold Observe.firstPlace
  split
  · refine looks.bind (looks.partOfText item) fun part => ?_
    split
    · exact looks.pure _
    · exact looks.fail rfl
  · exact looks.bind looks.get fun memory => looks.findEqual item 0 _
  · exact looks.findEqual item 0 _
  · exact looks.liveListFind _ item
  · exact looks.unknown _ _

theorem countEqual (looks : Looks P) (value : Value) (items : List Value) :
    P _ (Observe.countEqual value items) :=
  looks.map (looks.filterM (fun item => looks.sameOr looks.equal item value) items) _

theorem countOf (looks : Looks P) (value item : Value) : P _ (Observe.countOf value item) := by
  unfold Observe.countOf
  split
  · exact looks.map (looks.partOfText item) _
  · exact looks.bind looks.get fun memory => looks.countEqual item _
  · exact looks.countEqual item _
  · exact looks.bind (looks.liveListItems _) fun items => looks.countEqual item items
  · exact looks.unknown _ _

theorem sum (looks : Looks P) (left right : Value) : P _ (Observe.sum left right) := by
  unfold Observe.sum
  split
  · exact looks.pure _
  · exact looks.fail rfl
  · split
    · exact looks.unsupported .add left right
    · exact looks.add left right

theorem less (looks : Looks P) (left right : Value) : P _ (Observe.less left right) := by
  refine looks.bind looks.get fun memory => ?_
  refine looks.bind (looks.orderWithin _ left right) fun answer => ?_
  split
  · exact looks.pure _
  · exact looks.fail rfl

end Looks

end ReactiveSchema
