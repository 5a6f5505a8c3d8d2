import ReactiveSchema.Proofs.Memory.Keys
import ReactiveSchema.Proofs.Observe.ContainerLooks
import ReactiveSchema.Proofs.Observe.MarkupLooks
import ReactiveSchema.View

/-!
# Balanced frames

An iteration opens a frame and closes it on every way out, and a render pass has frames of
its own.  So whatever looks at memory, renders or writes plain containers ends in the pass
that it began in, with the frames that were open then, and no fault tells of frames.
-/

namespace ReactiveSchema

/-- The pass under way is the same, with the same frames; its deepest point may be deeper. -/
inductive SamePass : Option EvaluationContext → Option EvaluationContext → Prop where
  | none : SamePass none none
  | some (frames : List Value) {reached deepest : Nat} : reached ≤ deepest →
      SamePass (some ⟨frames, reached⟩) (some ⟨frames, deepest⟩)

namespace SamePass

theorem refl (context : Option EvaluationContext) : SamePass context context := by
  cases context with
  | none => exact .none
  | some context => exact .some context.frames (Nat.le_refl _)

theorem trans {first middle last : Option EvaluationContext} (before : SamePass first middle)
    (after : SamePass middle last) : SamePass first last := by
  cases before with
  | none => exact after
  | some frames deeper =>
      cases after with
      | some _ deepest => exact .some frames (Nat.le_trans deeper deepest)

theorem frames {before after : Option EvaluationContext} (same : SamePass before after) :
    after.map (·.frames) = before.map (·.frames) := by
  cases same <;> rfl

end SamePass

namespace Observe

variable {α β : Type}

/-- A computation ends in the pass that it began in, and in no fault about frames. -/
abbrev IsBalanced (look : Observe α) : Prop :=
  Orderly (fun _ => True) (fun before after => SamePass before.context after.context) look

theorem balanced_closed : Closed fun _ => IsBalanced :=
  Composable.orderly ⟨fun _ => .refl _, .trans⟩ _

theorem balanced_modifyGet {change : Memory → α × Memory}
    (same : ∀ memory, (change memory).2.context = memory.context) :
    IsBalanced (modifyGet change) := by
  intro memory _
  refine ⟨trivial, ?_, nofun⟩
  rw [run_modifyGet, same]
  exact .refl _

theorem balanced_modify {change : Memory → Memory}
    (same : ∀ memory, (change memory).context = memory.context) :
    IsBalanced (modify change) :=
  balanced_modifyGet same

/-! ## Looking -/

theorem balanced_checkKey (key : Value) : IsBalanced (checkKey key) := by
  unfold checkKey
  split
  · exact balanced_closed.pure _
  · exact balanced_closed.throw rfl

theorem balanced_track (dep : DepId) : IsBalanced (track dep) :=
  balanced_modify fun _ => rfl

theorem balanced_newDep : IsBalanced newDep :=
  balanced_modifyGet fun _ => rfl

theorem balanced_newLiveList (raw : ListId) : IsBalanced (newLiveList raw) :=
  balanced_closed.bind balanced_newDep fun _ => balanced_modifyGet fun _ => rfl

theorem balanced_newLiveMapId (raw : MapId) : IsBalanced (newLiveMapId raw) :=
  balanced_closed.bind balanced_newDep fun _ => balanced_modifyGet fun _ => rfl

theorem balanced_makeLive (value : Value) : IsBalanced (makeLive value) := by
  unfold makeLive
  split
  · exact balanced_newLiveList _
  · exact balanced_closed.map (balanced_newLiveMapId _) _
  · exact balanced_closed.pure _

theorem balanced_modifyLiveList (id : LiveListId) (change : LiveList → LiveList) :
    IsBalanced (modifyLiveList id change) :=
  balanced_modify fun _ => rfl

theorem balanced_modifyLiveMap (id : LiveMapId) (change : LiveMap → LiveMap) :
    IsBalanced (modifyLiveMap id change) :=
  balanced_modify fun _ => rfl

theorem balanced_keyDep (id : LiveMapId) (key : Value) : IsBalanced (keyDep id key) := by
  refine balanced_closed.bind (balanced_checkKey key) fun _ => ?_
  refine balanced_closed.bind balanced_closed.get fun memory => ?_
  split
  · exact balanced_closed.pure _
  · refine balanced_closed.bind balanced_newDep fun dep => ?_
    exact balanced_closed.bind (balanced_modifyLiveMap id _) fun _ => balanced_closed.pure _

theorem balanced_wrapEntry (id : LiveMapId) (key value : Value) :
    IsBalanced (wrapEntry id key value) := by
  have newFace : IsBalanced (wrapEntry.newFace id key value) := by
    refine balanced_closed.bind (balanced_makeLive value) fun face => ?_
    exact balanced_closed.bind (balanced_modifyLiveMap id _) fun _ => balanced_closed.pure _
  unfold wrapEntry
  split
  · exact balanced_closed.pure _
  · refine balanced_closed.bind balanced_closed.get fun memory => ?_
    split
    · split
      · exact balanced_closed.pure _
      · exact newFace
    · exact newFace

theorem balanced_liveMapGet (id : LiveMapId) (key : Value) : IsBalanced (liveMapGet id key) := by
  refine balanced_closed.bind (balanced_keyDep id key) fun dep => ?_
  refine balanced_closed.bind (balanced_track dep) fun _ => ?_
  refine balanced_closed.bind balanced_closed.get fun memory => ?_
  split
  · exact balanced_wrapEntry id key _
  · exact balanced_closed.throw rfl

theorem balanced_trackList (id : LiveListId) : IsBalanced (trackList id) :=
  balanced_closed.bind balanced_closed.get fun _ => balanced_track _

theorem balanced_wrapItem (id : LiveListId) (index : Int) (value : Value) :
    IsBalanced (wrapItem id index value) := by
  have newFace : IsBalanced (wrapItem.newFace id index value) := by
    refine balanced_closed.bind (balanced_makeLive value) fun face => ?_
    exact balanced_closed.bind (balanced_modifyLiveList id _) fun _ => balanced_closed.pure _
  unfold wrapItem
  split
  · exact balanced_closed.pure _
  · refine balanced_closed.bind balanced_closed.get fun memory => ?_
    split
    · split
      · exact balanced_closed.pure _
      · exact newFace
    · exact newFace

theorem balanced_liveListGetAt (id : LiveListId) (index : Int) :
    IsBalanced (liveListGetAt id index) := by
  refine balanced_closed.bind (balanced_trackList id) fun _ => ?_
  refine balanced_closed.bind balanced_closed.get fun memory => ?_
  dsimp only
  split
  · exact balanced_wrapItem id _ _
  · exact balanced_closed.throw rfl

theorem balanced_liveListItems (id : LiveListId) : IsBalanced (liveListItems id) := by
  refine balanced_closed.bind (balanced_trackList id) fun _ => ?_
  refine balanced_closed.bind balanced_closed.get fun memory => ?_
  exact balanced_closed.mapM (fun entry => balanced_wrapItem id _ _) _

end Observe

open Observe in
/-- All looking at memory is balanced. -/
theorem looks_balanced : Looks fun _ => IsBalanced where
  toClosed := balanced_closed
  track := balanced_track
  keyDep := balanced_keyDep
  liveMapGet := balanced_liveMapGet
  liveListGetAt := balanced_liveListGetAt
  liveListItems := balanced_liveListItems
  newList _ := balanced_modifyGet fun _ => rfl
  newMapId _ := balanced_modifyGet fun _ => rfl
  newNode _ _ _ := balanced_modifyGet fun _ => rfl
  newObject _ := balanced_modifyGet fun _ => rfl
  newRef _ := balanced_closed.bind balanced_newDep fun _ => balanced_modifyGet fun _ => rfl
  newSerial := balanced_modifyGet fun _ => rfl
  newScope _ := balanced_modifyGet fun _ => rfl
  newLiveList := balanced_newLiveList
  newLiveMapId := balanced_newLiveMapId
  log _ := balanced_modify fun _ => rfl

namespace Observe

variable {α : Type}

theorem IsLook.balanced {look : Observe α} (looks : look.IsLook) : look.IsBalanced :=
  looks _ looks_balanced

/-! ## Writing -/

theorem balanced_setList (id : ListId) (items : List Value) : IsBalanced (setList id items) :=
  balanced_modify fun _ => rfl

theorem balanced_setMap (id : MapId) (entries : Entries Value) :
    IsBalanced (setMap id entries) :=
  balanced_modify fun _ => rfl

theorem balanced_setRef (id : RefId) (content : Value) : IsBalanced (setRef id content) :=
  balanced_modify fun _ => rfl

theorem balanced_dropFace (id : LiveMapId) (key : Value) : IsBalanced (Act.dropFace id key) :=
  balanced_modifyLiveMap id _

theorem balanced_listSet (id : ListId) (index value : Value) :
    IsBalanced (listSet id index value) := by
  refine balanced_closed.bind balanced_closed.get fun memory => ?_
  exact balanced_closed.bind (looks_balanced.placeOf _ _ index) fun _ => balanced_setList id _

theorem balanced_listDelete (id : ListId) (index : Value) : IsBalanced (listDelete id index) := by
  refine balanced_closed.bind balanced_closed.get fun memory => ?_
  exact balanced_closed.bind (looks_balanced.placeOf _ _ index) fun _ => balanced_setList id _

theorem balanced_listInsert (id : ListId) (index value : Value) :
    IsBalanced (listInsert id index value) := by
  refine balanced_closed.bind (looks_balanced.positionOf index) fun place => ?_
  exact balanced_closed.bind balanced_closed.get fun _ => balanced_setList id _

theorem balanced_listExtend (id : ListId) (added : List Value) :
    IsBalanced (listExtend id added) :=
  balanced_closed.bind balanced_closed.get fun _ => balanced_setList id _

theorem balanced_listSetSlice (id : ListId) (start stop : Value) (added : List Value) :
    IsBalanced (listSetSlice id start stop added) := by
  refine balanced_closed.bind (looks_balanced.sliceBound start) fun start => ?_
  refine balanced_closed.bind (looks_balanced.sliceBound stop) fun stop => ?_
  exact balanced_closed.bind balanced_closed.get fun _ => balanced_setList id _

theorem balanced_listPop (id : ListId) (index : Value) : IsBalanced (listPop id index) := by
  refine balanced_closed.bind (looks_balanced.positionOf index) fun n => ?_
  refine balanced_closed.bind balanced_closed.get fun memory => ?_
  dsimp only
  split
  · exact balanced_closed.throw rfl
  · exact balanced_closed.bind (balanced_setList id _) fun _ => balanced_closed.pure _

theorem balanced_listRemove (id : ListId) (value : Value) : IsBalanced (listRemove id value) := by
  refine balanced_closed.bind balanced_closed.get fun memory => ?_
  exact balanced_closed.bind (looks_balanced.findEqual value 0 _) fun _ => balanced_setList id _

theorem balanced_mapSet (id : MapId) (key value : Value) : IsBalanced (mapSet id key value) := by
  refine balanced_closed.bind (balanced_checkKey key) fun _ => ?_
  exact balanced_closed.bind balanced_closed.get fun _ => balanced_setMap id _

theorem balanced_mapDelete (id : MapId) (key : Value) : IsBalanced (mapDelete id key) := by
  refine balanced_closed.bind (balanced_checkKey key) fun _ => ?_
  refine balanced_closed.bind balanced_closed.get fun memory => ?_
  dsimp only
  split
  · exact balanced_setMap id _
  · exact balanced_closed.throw rfl

theorem balanced_mapPop (id : MapId) (key : Value) (otherwise : Option Value) :
    IsBalanced (mapPop id key otherwise) := by
  have erased (entries : Entries Value) (value : Value) :
      IsBalanced (do setMap id entries; return value) :=
    balanced_closed.bind (balanced_setMap id entries) fun _ => balanced_closed.pure _
  refine balanced_closed.bind balanced_closed.get fun memory => ?_
  dsimp only
  split
  · refine balanced_closed.bind (balanced_checkKey key) fun _ => ?_
    split
    · exact erased _ _
    · exact balanced_closed.pure _
    · exact balanced_closed.throw rfl
  · split
    · exact erased _ _
    · exact balanced_closed.pure _
    · exact balanced_closed.throw rfl

theorem balanced_mapPopEntry (id : MapId) : IsBalanced (mapPopEntry id) := by
  refine balanced_closed.bind balanced_closed.get fun memory => ?_
  split
  · exact balanced_closed.throw rfl
  · exact balanced_closed.bind (balanced_setMap id _) fun _ => balanced_closed.pure _

theorem balanced_mapSetDefault (id : MapId) (key value : Value) :
    IsBalanced (mapSetDefault id key value) := by
  refine balanced_closed.bind (balanced_checkKey key) fun _ => ?_
  refine balanced_closed.bind balanced_closed.get fun memory => ?_
  dsimp only
  split
  · exact balanced_closed.pure _
  · exact balanced_closed.bind (balanced_setMap id _) fun _ => balanced_closed.pure _

theorem balanced_mapWriteAll (id : MapId) (entries : List (Value × Value)) :
    IsBalanced (mapWriteAll id entries) := by
  induction entries with
  | nil => exact balanced_closed.pure _
  | cons entry rest ih => exact balanced_closed.bind (balanced_mapSet id _ _) fun _ => ih

theorem balanced_mapWritePairs (id : MapId) (items : List Value) :
    IsBalanced (mapWritePairs id items) := by
  induction items with
  | nil => exact balanced_closed.pure _
  | cons item rest ih =>
      refine balanced_closed.bind (looks_balanced.pairOf item) fun pair => ?_
      exact balanced_closed.bind (balanced_mapSet id _ _) fun _ => ih

theorem balanced_mapUpdate (id : MapId) (source : Value) : IsBalanced (mapUpdate id source) := by
  unfold mapUpdate
  split
  · exact balanced_closed.bind (looks_balanced.entriesOf source) (balanced_mapWriteAll id)
  · exact balanced_closed.bind (looks_balanced.iterate source) (balanced_mapWritePairs id)

end Observe

end ReactiveSchema
