import ReactiveSchema.Proofs.Observe.Pictures
import ReactiveSchema.Reactive.Write

/-!
# Properties of looking

Computations that look at memory note what is read, hand out live faces and
make new containers, and do nothing else.  A property that these steps have,
and that programs have as soon as their parts do, is one that all looking has;
here, comparing, reading, writing out and building values.
-/

namespace ReactiveSchema

/-- The steps that looking at memory is made of have a property. -/
structure Looks (P : (α : Type) → Observe α → Prop) : Prop extends Closed P where
  track (dep : DepId) : P _ (Observe.track dep)
  keyDep (id : LiveMapId) (key : Value) : P _ (Observe.keyDep id key)
  liveMapGet (id : LiveMapId) (key : Value) : P _ (Observe.liveMapGet id key)
  liveListGetAt (id : LiveListId) (index : Int) : P _ (Observe.liveListGetAt id index)
  liveListItems (id : LiveListId) : P _ (Observe.liveListItems id)
  newList (items : List Value) : P _ (Observe.newList items)
  newMapId (entries : Entries Value) : P _ (Observe.newMapId entries)
  newNode (type props children : Value) : P _ (Observe.newNode type props children)
  newObject (attributes : List (String × Value)) : P _ (Observe.newObject attributes)
  newRef (content : Value) : P _ (Observe.newRef content)
  newSerial : P _ Observe.newSerial
  newScope (label : String) : P _ (Observe.newScope label)
  newLiveList (raw : ListId) : P _ (Observe.newLiveList raw)
  newLiveMapId (raw : MapId) : P _ (Observe.newLiveMapId raw)
  log (record : String) : P _ (Observe.log record)

namespace Looks

variable {P : (α : Type) → Observe α → Prop} {α β : Type}

theorem fail (looks : Looks P) {cause : Cause}
    (other : (Fault.failure cause).isFrameFault = false) : P α (Observe.fail cause) :=
  looks.throw other

theorem newMap (looks : Looks P) (entries : Entries Value) : P _ (Observe.newMap entries) :=
  looks.bind (looks.newMapId entries) fun _ => looks.pure _

theorem newLiveMap (looks : Looks P) (raw : MapId) : P _ (Observe.newLiveMap raw) :=
  looks.bind (looks.newLiveMapId raw) fun _ => looks.pure _

theorem makeLive (looks : Looks P) (value : Value) : P _ (Observe.makeLive value) := by
  unfold Observe.makeLive
  split
  · exact looks.newLiveList _
  · exact looks.newLiveMap _
  · exact looks.pure _

theorem ofFloat (looks : Looks P) (x : Float) : P _ (Observe.ofFloat x) := by
  unfold Observe.ofFloat
  split
  · exact looks.bind looks.newSerial fun _ => looks.pure _
  · exact looks.pure _

theorem ofNum (looks : Looks P) (n : Number.Num) : P _ (Observe.ofNum n) := by
  cases n with
  | int n => exact looks.pure _
  | float x => exact looks.ofFloat x
  | complex re im => exact looks.pure _

theorem checkKey (looks : Looks P) (key : Value) : P _ (Observe.checkKey key) := by
  unfold Observe.checkKey
  split
  · exact looks.pure _
  · exact looks.fail rfl

/-! ## Reading live containers -/

theorem liveMapHas (looks : Looks P) (id : LiveMapId) (key : Value) :
    P _ (Observe.liveMapHas id key) := by
  refine looks.bind (looks.keyDep id key) fun dep => ?_
  exact looks.bind (looks.track dep) fun _ => looks.getting _

theorem trackKeys (looks : Looks P) (id : LiveMapId) : P _ (Observe.trackKeys id) :=
  looks.bind looks.get fun _ => looks.track _

theorem liveMapKeys (looks : Looks P) (id : LiveMapId) : P _ (Observe.liveMapKeys id) :=
  looks.bind (looks.trackKeys id) fun _ => looks.getting _

theorem liveMapLength (looks : Looks P) (id : LiveMapId) : P _ (Observe.liveMapLength id) :=
  looks.bind (looks.trackKeys id) fun _ => looks.getting _

theorem liveMapItems (looks : Looks P) (id : LiveMapId) : P _ (Observe.liveMapItems id) := by
  refine looks.bind (looks.liveMapKeys id) fun keys => looks.mapM (fun key => ?_) keys
  exact looks.bind (looks.liveMapGet id key) fun _ => looks.pure _

theorem trackList (looks : Looks P) (id : LiveListId) : P _ (Observe.trackList id) :=
  looks.bind looks.get fun _ => looks.track _

theorem liveListGet (looks : Looks P) (id : LiveListId) (index : Value) :
    P _ (Observe.liveListGet id index) := by
  have refused {cause : Cause} (other : (Fault.failure cause).isFrameFault = false) :
      P _ (do Observe.trackList id; Observe.fail cause : Observe Value) :=
    looks.bind (looks.trackList id) fun _ => looks.fail other
  unfold Observe.liveListGet
  split
  · exact looks.liveListGetAt id _
  · exact looks.liveListGetAt id _
  · exact refused rfl
  · exact refused rfl
  · exact refused rfl

theorem liveListLength (looks : Looks P) (id : LiveListId) :
    P _ (Observe.liveListLength id) :=
  looks.bind (looks.trackList id) fun _ => looks.getting _

theorem refGet (looks : Looks P) (id : RefId) : P _ (Observe.refGet id) := by
  refine looks.bind looks.get fun memory => ?_
  split
  · exact looks.bind (looks.track _) fun _ => looks.pure _
  · exact looks.pure _

theorem refPeek (looks : Looks P) (id : RefId) : P _ (Observe.refPeek id) :=
  looks.getting _

/-! ## Writing values out -/

theorem written (looks : Looks P) (text : Option String) : P _ (Observe.written text) := by
  cases text with
  | none => exact looks.fail rfl
  | some text => exact looks.pure _

theorem shown (looks : Looks P) (value : Value) : P _ (Observe.shown value) :=
  looks.bind looks.get fun _ => looks.written _

theorem textOf (looks : Looks P) (value : Value) : P _ (Observe.textOf value) :=
  looks.bind looks.get fun _ => looks.written _

theorem stringify (looks : Looks P) (value : Value) : P _ (Observe.stringify value) := by
  unfold Observe.stringify
  split
  · exact looks.pure _
  · exact looks.textOf _

theorem snapshot (looks : Looks P) (value : Value) : P _ (Observe.snapshot value) := by
  refine looks.bind looks.get fun memory => ?_
  split
  · exact looks.pure _
  · exact looks.fail (memory.tells_snapshot value _ ‹_›)

theorem reportFault (looks : Looks P) (fault : Fault) : P _ (Observe.reportFault fault) := by
  refine looks.bind looks.get fun memory => ?_
  split
  · exact looks.pure _
  · exact looks.fail (memory.tells_reportFault fault _ ‹_›)

/-! ## Equality -/

theorem sameOr (looks : Looks P) {equal : Value → Value → Observe Bool}
    (each : ∀ a b, P _ (equal a b)) (a b : Value) : P _ (Observe.sameOr equal a b) := by
  unfold Observe.sameOr
  split
  · exact looks.pure _
  · exact each a b

theorem allSame (looks : Looks P) {equal : Value → Value → Observe Bool}
    (each : ∀ a b, P _ (equal a b)) (xs ys : List Value) :
    P _ (Observe.allSame equal xs ys) := by
  induction xs generalizing ys with
  | nil => exact looks.pure _
  | cons x xs ih =>
      cases ys with
      | nil => exact looks.pure _
      | cons y ys =>
          refine looks.bind (looks.sameOr each x y) fun same => ?_
          split
          · exact ih ys
          · exact looks.pure _

theorem sameEntries (looks : Looks P) {equal : Value → Value → Observe Bool}
    (each : ∀ a b, P _ (equal a b)) (left right : Entries Value) :
    P _ (Observe.sameEntries equal left right) := by
  have all (entries : Entries Value) :
      P _ (Observe.sameEntries.each equal right entries) := by
    induction entries with
    | nil => exact looks.pure _
    | cons entry rest ih =>
        unfold Observe.sameEntries.each
        split
        · exact looks.pure _
        · refine looks.bind (looks.sameOr each _ _) fun same => ?_
          split
          · exact ih
          · exact looks.pure _
  unfold Observe.sameEntries
  split
  · exact looks.pure _
  · exact all left

theorem readEntries (looks : Looks P) (value : Value) : P _ (Observe.readEntries value) := by
  unfold Observe.readEntries
  split
  · exact looks.getting _
  · exact looks.liveMapItems _
  · exact looks.pure _

section Equality

variable {deeper : Value → Value → Observe Bool}

theorem equalOthers (looks : Looks P) (each : ∀ a b, P _ (deeper a b)) (a b : Value) :
    P _ (do
      if (a.isMapping && b.isMapping) then
        let left ← Observe.readEntries a
        let right ← Observe.readEntries b
        Observe.sameEntries deeper left right
      else
        match a.num?, b.num? with
        | some m, some n => return m.eq n
        | _, _ => return a.identical b : Observe Bool) := by
  split
  · refine looks.bind (looks.readEntries a) fun left => ?_
    exact looks.bind (looks.readEntries b) fun right => looks.sameEntries each left right
  · split
    · exact looks.pure _
    · exact looks.pure _

theorem equalFlat (looks : Looks P) (each : ∀ a b, P _ (deeper a b)) (a b : Value)
    (flat : ∀ items, a ≠ .tuple items) : P _ (Observe.equalStep deeper a b) := by
  unfold Observe.equalStep
  split
  · exact looks.fail rfl
  · exact looks.fail rfl
  · exact absurd rfl (flat _)
  · refine looks.bind looks.get fun memory => ?_
    dsimp only
    split
    · exact looks.pure _
    · exact looks.allSame each _ _
  · exact looks.bind looks.get fun memory => looks.sameEntries each _ _
  · exact looks.bind looks.get fun memory => looks.allSame each _ _
  · exact looks.equalOthers each _ _

mutual

theorem equalStep (looks : Looks P) (each : ∀ a b, P _ (deeper a b)) :
    ∀ a b, P _ (Observe.equalStep deeper a b)
  | .tuple xs, b => by
      cases b
      case tuple ys =>
        refine looks.bind (looks.equalTuples each xs ys) fun same => ?_
        split
        · exact looks.pure _
        · exact looks.pure _
      case incomparable => exact looks.fail rfl
      all_goals
        unfold Observe.equalStep
        exact looks.equalOthers each _ _
  | .none, b | .undefined, b | .missing, b | .ellipsis, b | .bool _, b | .int _, b
  | .float _, b | .nan _, b | .complex _ _, b | .str _, b | .list _, b | .map _, b
  | .liveList _, b | .liveMap _, b | .text _, b | .node _, b | .function _, b
  | .component _, b | .object _, b | .incomparable _, b | .ref _, b | .scope _, b
  | .handle _ _, b | .method _ _, b | .other _, b =>
      looks.equalFlat each _ b fun _ same => nomatch same

theorem equalTuples (looks : Looks P) (each : ∀ a b, P _ (deeper a b)) :
    ∀ xs ys, P _ (Observe.equalStep.equalTuples deeper xs ys)
  | [], _ => looks.pure _
  | _ :: _, [] => looks.pure _
  | x :: xs, y :: ys => by
      unfold Observe.equalStep.equalTuples
      split
      · exact looks.equalTuples each xs ys
      · refine looks.bind (looks.equalStep each x y) fun same => ?_
        split
        · exact looks.equalTuples each xs ys
        · exact looks.pure _

end

end Equality

theorem equalWithin (looks : Looks P) (depth : Nat) (a b : Value) :
    P _ (Observe.equalWithin depth a b) := by
  induction depth generalizing a b with
  | zero => exact looks.throw rfl
  | succ depth ih => exact looks.equalStep ih a b

theorem equal (looks : Looks P) (a b : Value) : P _ (Observe.equal a b) :=
  looks.bind looks.get fun _ => looks.equalWithin _ a b

theorem hasChanged (looks : Looks P) (old new : Value) : P _ (Observe.hasChanged old new) := by
  unfold Observe.hasChanged
  split
  · exact looks.pure _
  · split
    · exact looks.pure _
    · split
      · exact looks.pure _
      · have compared := looks.bind (looks.equal old new) fun same => looks.pure (!same)
        refine looks.tryCatch compared fun fault again => ?_
        split
        · exact looks.pure _
        · exact again

theorem isAmong (looks : Looks P) (value : Value) (items : List Value) :
    P _ (Observe.isAmong value items) := by
  induction items with
  | nil => exact looks.pure _
  | cons item rest ih =>
      refine looks.bind (looks.sameOr looks.equal item value) fun same => ?_
      split
      · exact looks.pure _
      · exact ih

/-! ## Order -/

section Order

variable {test : Observe.OrderTest} {deeper : Value → Value → Observe (Option Bool)}

theorem orderOthers (looks : Looks P) (a b : Value) :
    P _ (match a.num?, b.num? with
      | some m, some n =>
          if m.isComplex || n.isComplex then pure none
          else pure (some ((m.order? n).any test.accepts))
      | _, _ => pure none : Observe (Option Bool)) := by
  split
  · split
    · exact looks.pure _
    · exact looks.pure _
  · exact looks.pure _

theorem orderLists (looks : Looks P) (each : ∀ a b, P _ (deeper a b)) (lengths : Ordering)
    (xs ys : List Value) :
    P _ (Observe.orderStep.orderLists test deeper lengths xs ys) := by
  induction xs generalizing ys with
  | nil => exact looks.pure _
  | cons x xs ih =>
      cases ys with
      | nil => exact looks.pure _
      | cons y ys =>
          refine looks.bind (looks.sameOr looks.equal x y) fun same => ?_
          split
          · exact ih ys
          · exact each x y

theorem orderFlat (looks : Looks P) (each : ∀ a b, P _ (deeper a b)) (a b : Value)
    (flat : ∀ items, a ≠ .tuple items) : P _ (Observe.orderStep test deeper a b) := by
  unfold Observe.orderStep
  split
  · exact looks.pure _
  · exact absurd rfl (flat _)
  · exact looks.bind looks.get fun memory => looks.orderLists each _ _ _
  · exact looks.orderOthers _ _

mutual

theorem orderStep (looks : Looks P) (each : ∀ a b, P _ (deeper a b)) :
    ∀ a b, P _ (Observe.orderStep test deeper a b)
  | .tuple xs, b => by
      cases b
      case tuple ys => exact looks.orderTuples each _ xs ys
      all_goals exact looks.pure _
  | .none, b | .undefined, b | .missing, b | .ellipsis, b | .bool _, b | .int _, b
  | .float _, b | .nan _, b | .complex _ _, b | .str _, b | .list _, b | .map _, b
  | .liveList _, b | .liveMap _, b | .text _, b | .node _, b | .function _, b
  | .component _, b | .object _, b | .incomparable _, b | .ref _, b | .scope _, b
  | .handle _ _, b | .method _ _, b | .other _, b =>
      looks.orderFlat each _ b fun _ same => nomatch same

theorem orderTuples (looks : Looks P) (each : ∀ a b, P _ (deeper a b))
    (lengths : Ordering) :
    ∀ xs ys, P _ (Observe.orderStep.orderTuples test deeper lengths xs ys)
  | [], _ => looks.pure _
  | _ :: _, [] => looks.pure _
  | x :: xs, y :: ys => by
      refine looks.bind (looks.sameOr looks.equal x y) fun same => ?_
      split
      · exact looks.orderTuples each lengths xs ys
      · exact looks.orderStep each x y

end

theorem orderWithin (looks : Looks P) (depth : Nat) (a b : Value) :
    P _ (Observe.orderWithin test depth a b) := by
  induction depth generalizing a b with
  | zero => exact looks.throw rfl
  | succ depth ih => exact looks.orderStep ih a b

theorem inOrder (looks : Looks P) (a b : Value) : P _ (Observe.inOrder test a b) :=
  looks.bind looks.get fun _ => looks.bind (looks.orderWithin _ a b) fun _ => looks.pure _

end Order

/-! ## Looking into values -/

theorem isTrue (looks : Looks P) (value : Value) : P _ (Observe.isTrue value) := by
  unfold Observe.isTrue
  split
  case h_10 | h_11 => exact looks.getting _
  case h_12 => exact looks.bind (looks.liveListLength _) fun _ => looks.pure _
  case h_13 | h_14 => exact looks.bind (looks.liveMapLength _) fun _ => looks.pure _
  case h_15 => exact looks.getting _
  all_goals exact looks.pure _

theorem lengthOf (looks : Looks P) (value : Value) : P _ (Observe.lengthOf value) := by
  unfold Observe.lengthOf
  split
  · exact looks.pure _
  · exact looks.pure _
  · exact looks.getting _
  · exact looks.getting _
  · exact looks.liveListLength _
  · exact looks.liveMapLength _
  · exact looks.liveMapLength _
  · refine looks.bind looks.get fun memory => ?_
    split
    · exact looks.pure _
    · exact looks.fail rfl
  · exact looks.fail rfl

theorem iterate (looks : Looks P) (value : Value) : P _ (Observe.iterate value) := by
  unfold Observe.iterate
  split
  · exact looks.pure _
  · exact looks.pure _
  · exact looks.getting _
  · exact looks.getting _
  · exact looks.liveListItems _
  · exact looks.liveMapKeys _
  · exact looks.fail rfl

theorem itemAt (looks : Looks P) (what : String) (items : List Value) (index : Value) :
    P _ (Observe.itemAt what items index) := by
  unfold Observe.itemAt
  split
  · exact looks.fail rfl
  · split
    · exact looks.pure _
    · exact looks.fail rfl

theorem getItem (looks : Looks P) (container key : Value) :
    P _ (Observe.getItem container key) := by
  unfold Observe.getItem
  split
  · exact looks.itemAt _ _ key
  · exact looks.itemAt _ _ key
  · exact looks.bind looks.get fun memory => looks.itemAt _ _ key
  · refine looks.bind (looks.checkKey key) fun _ => looks.bind looks.get fun memory => ?_
    split
    · exact looks.pure _
    · exact looks.fail rfl
  · exact looks.liveListGet _ key
  · exact looks.liveMapGet _ key
  · exact looks.fail rfl

theorem contains (looks : Looks P) (value container : Value) :
    P _ (Observe.contains value container) := by
  unfold Observe.contains
  split
  · split
    · exact looks.pure _
    · exact looks.fail rfl
  · exact looks.isAmong value _
  · exact looks.bind looks.get fun memory => looks.isAmong value _
  · exact looks.bind (looks.checkKey value) fun _ => looks.getting _
  · exact looks.bind (looks.liveListItems _) fun items => looks.isAmong value items
  · exact looks.liveMapHas _ value
  · exact looks.liveMapHas _ value
  · exact looks.fail rfl

theorem pairOf (looks : Looks P) (item : Value) : P _ (Observe.pairOf item) := by
  unfold Observe.pairOf
  split
  · refine looks.bind (looks.iterate item) fun items => ?_
    split
    · exact looks.pure _
    · exact looks.fail rfl
  · exact looks.fail rfl

theorem copyMap (looks : Looks P) (value : Value) : P _ (Observe.copyMap value) := by
  unfold Observe.copyMap
  split
  · exact looks.getting _
  · exact looks.bind (looks.liveMapItems _) fun _ => looks.pure _
  · refine looks.bind (looks.iterate _) fun items => ?_
    refine looks.bind (looks.mapM (fun item => ?_) items) fun _ => looks.pure _
    refine looks.bind (looks.pairOf item) fun pair => ?_
    exact looks.bind (looks.checkKey _) fun _ => looks.pure _

theorem entriesOf (looks : Looks P) (value : Value) : P _ (Observe.entriesOf value) := by
  unfold Observe.entriesOf
  split
  · exact looks.getting _
  · exact looks.liveMapItems _
  · exact looks.fail rfl

theorem getEntry (looks : Looks P) (mapping key otherwise : Value) :
    P _ (Observe.getEntry mapping key otherwise) := by
  unfold Observe.getEntry
  split
  · exact looks.bind (looks.checkKey key) fun _ => looks.getting _
  · refine looks.tryCatch (looks.liveMapGet _ key) fun fault again => ?_
    split
    · exact looks.pure _
    · exact again
  · exact looks.fail rfl

/-! ## Slices -/

theorem sliceBound (looks : Looks P) (bound : Value) : P _ (ReactiveSchema.sliceBound bound) := by
  unfold ReactiveSchema.sliceBound
  split
  · exact looks.pure _
  · exact looks.pure _
  · exact looks.fail rfl

theorem sliceItems (looks : Looks P) (items : List Value) (start stop step : Value) :
    P _ (ReactiveSchema.sliceItems items start stop step) := by
  refine looks.bind (looks.sliceBound step) fun stride => ?_
  split
  · exact looks.fail rfl
  · refine looks.bind (looks.sliceBound start) fun start => ?_
    exact looks.bind (looks.sliceBound stop) fun stop => looks.pure _

/-! ## Building values -/

mutual

theorem build (looks : Looks P) : ∀ datum : Datum, P _ datum.build
  | .none | .undefined | .missing | .ellipsis | .bool _ | .int _ | .complex _ _ | .str _
  | .text _ | .function _ | .component _ | .scope _ | .other _ => looks.pure _
  | .float x => looks.ofFloat x
  | .tuple items => looks.bind (looks.buildAll items) fun _ => looks.pure _
  | .list items => looks.bind (looks.buildAll items) fun _ => looks.newList _
  | .map entries => looks.bind (looks.buildEntries entries) fun _ => looks.newMap _
  | .liveList items =>
      looks.bind (looks.buildAll items) fun _ =>
        looks.bind (looks.newList _) fun _ => looks.makeLive _
  | .liveMap entries =>
      looks.bind (looks.buildEntries entries) fun _ =>
        looks.bind (looks.newMap _) fun _ => looks.makeLive _
  | .node type props children =>
      looks.bind (looks.build type) fun _ =>
        looks.bind (looks.build props) fun _ =>
          looks.bind (looks.build children) fun _ => looks.newNode _ _ _
  | .object attributes =>
      looks.bind (looks.buildAttributes attributes) fun _ => looks.newObject _
  | .incomparable => looks.bind looks.newSerial fun _ => looks.pure _
  | .ref content =>
      looks.bind (looks.build content) fun _ => looks.bind (looks.newRef _) fun _ => looks.pure _
  | .unreadable _ => looks.fail rfl

theorem buildAll (looks : Looks P) : ∀ items, P _ (Datum.build.buildAll items)
  | [] => looks.pure _
  | item :: rest =>
      looks.bind (looks.build item) fun _ =>
        looks.bind (looks.buildAll rest) fun _ => looks.pure _

theorem buildEntries (looks : Looks P) : ∀ entries, P _ (Datum.build.buildEntries entries)
  | [] => looks.pure _
  | (key, item) :: rest =>
      looks.bind (looks.build key) fun _ =>
        looks.bind (looks.build item) fun _ =>
          looks.bind (looks.checkKey _) fun _ =>
            looks.bind (looks.buildEntries rest) fun _ => looks.pure _

theorem buildAttributes (looks : Looks P) :
    ∀ attributes, P _ (Datum.build.buildAttributes attributes)
  | [] => looks.pure _
  | (_, item) :: rest =>
      looks.bind (looks.build item) fun _ =>
        looks.bind (looks.buildAttributes rest) fun _ => looks.pure _

end

end Looks

end ReactiveSchema
