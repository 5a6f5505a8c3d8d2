import ReactiveSchema.Proofs.Act.Steps
import ReactiveSchema.Proofs.Observe.BalancedPasses

/-!
# What writes respect

Effects, tracked state and batches are worked by a handful of operations.  A
property of computations that these have is one of everything that is built on
them; here, of writes to cells and live containers and of the store of bindings.
-/

namespace ReactiveSchema

namespace Act

/-- What is told of a key that was written, within the batch of the write. -/
def tellWritten (runner : Runner) (id : LiveMapId) (key value : Value) :
    Option Value → Act Unit
  | none => do
      triggerKeys runner id
      triggerKey runner id key
  | some old => do
      if ← observe (Observe.hasChanged old value) then triggerKey runner id key

theorem liveMapSet_eq (runner : Runner) (id : LiveMapId) (key value : Value) :
    liveMapSet runner id key value = (do
      let value := (← get).memory.toRaw value
      let old ← observe (plainEntry id key)
      observe do
        Observe.mapSet ((← get).rawMap id) key value
        dropFace id key
      batch runner (tellWritten runner id key value old)) := by
  rfl

end Act

/-- What a property of computations needs so that all writes have it. -/
structure RespectedByWrites (runner : Runner) (P : (α : Type) → Act α → Prop) : Prop
    extends Closed P where
  observe {α : Type} {look : Observe α} : look.IsBalanced → P α (Act.observe look)
  trigger (dep : DepId) : P _ (Act.trigger runner dep)
  batch {α : Type} {body : Act α} : P α body → P α (Act.batch runner body)

open Observe

namespace RespectedByWrites

variable {runner : Runner} {P : (α : Type) → Act α → Prop} {α : Type}

theorem fail (respected : RespectedByWrites runner P) {cause : Cause}
    (other : (Fault.failure cause).isFrameFault = false) : P α (Act.fail cause) :=
  respected.throw other

/-! ## Cells -/

theorem refSet (respected : RespectedByWrites runner P) (id : RefId) (content : Value) :
    P _ (Act.refSet runner id content) := by
  unfold Act.refSet
  refine respected.bind respected.get fun world => ?_
  dsimp only
  split
  · exact respected.pure _
  · refine respected.bind (respected.observe (looks_balanced.hasChanged _ _)) fun changed => ?_
    split
    · exact respected.bind (respected.observe (balanced_setRef _ _)) fun _ => respected.trigger _
    · exact respected.pure _

/-! ## Live maps -/

theorem triggerKeys (respected : RespectedByWrites runner P) (id : LiveMapId) :
    P _ (Act.triggerKeys runner id) :=
  respected.bind respected.get fun _ => respected.trigger _

theorem triggerKey (respected : RespectedByWrites runner P) (id : LiveMapId) (key : Value) :
    P _ (Act.triggerKey runner id key) :=
  respected.bind (respected.observe (looks_balanced.keyDep id key)) fun _ => respected.trigger _

theorem tellWritten (respected : RespectedByWrites runner P) (id : LiveMapId) (key value : Value)
    (old : Option Value) : P _ (Act.tellWritten runner id key value old) := by
  cases old with
  | none => exact respected.bind (respected.triggerKeys id) fun _ => respected.triggerKey id key
  | some old =>
      refine respected.bind (respected.observe (looks_balanced.hasChanged _ _)) fun changed => ?_
      split
      · exact respected.triggerKey id key
      · exact respected.pure _

theorem liveMapSet (respected : RespectedByWrites runner P) (id : LiveMapId) (key value : Value) :
    P _ (Act.liveMapSet runner id key value) := by
  rw [Act.liveMapSet_eq]
  refine respected.bind respected.get fun world => ?_
  refine respected.bind (respected.observe (looks_balanced.plainEntry id key)) fun old => ?_
  refine respected.bind (respected.observe ?_) fun _ => respected.batch ?_
  · refine balanced_closed.bind balanced_closed.get fun memory => ?_
    exact balanced_closed.bind (balanced_mapSet _ key _) fun _ => balanced_dropFace id key
  exact respected.tellWritten id key _ old

theorem liveMapDelete (respected : RespectedByWrites runner P) (id : LiveMapId) (key : Value) :
    P _ (Act.liveMapDelete runner id key) := by
  unfold Act.liveMapDelete
  refine respected.bind (respected.observe ?_) fun _ => respected.batch ?_
  · refine balanced_closed.bind balanced_closed.get fun memory => ?_
    exact balanced_closed.bind (balanced_mapDelete _ key) fun _ => balanced_dropFace id key
  exact respected.bind (respected.triggerKeys id) fun _ => respected.triggerKey id key

theorem liveMapPop (respected : RespectedByWrites runner P) (id : LiveMapId) (key : Value)
    (otherwise : Option Value) : P _ (Act.liveMapPop runner id key otherwise) := by
  unfold Act.liveMapPop
  refine respected.bind (respected.observe (looks_balanced.foundEntry id key _)) fun found => ?_
  cases found with
  | none => exact respected.pure _
  | some value => exact respected.bind (respected.liveMapDelete id key) fun _ => respected.pure _

theorem liveMapPopEntry? (respected : RespectedByWrites runner P) (id : LiveMapId) :
    P _ (Act.liveMapPopEntry? runner id) := by
  unfold Act.liveMapPopEntry?
  refine respected.bind (respected.observe (looks_balanced.liveMapKeys id)) fun keys => ?_
  cases keys with
  | nil => exact respected.pure _
  | cons key rest =>
      refine respected.bind (respected.observe (looks_balanced.liveMapGet id key)) fun value => ?_
      exact respected.bind (respected.liveMapDelete id key) fun _ => respected.pure _

theorem liveMapPopEntry (respected : RespectedByWrites runner P) (id : LiveMapId) :
    P _ (Act.liveMapPopEntry runner id) := by
  unfold Act.liveMapPopEntry
  refine respected.bind (respected.liveMapPopEntry? id) fun entry => ?_
  cases entry with
  | none => exact respected.fail rfl
  | some entry => exact respected.pure _

theorem untilFailure (respected : RespectedByWrites runner P) (kind : FailureKind) {body : Act Unit}
    (each : P _ body) (limit : Nat) : P _ (Act.untilFailure kind body limit) := by
  induction limit with
  | zero => exact respected.throw rfl
  | succ limit ih =>
      unfold Act.untilFailure
      have once : P _ (do body; return true : Act Bool) :=
        respected.bind each fun _ => respected.pure _
      refine respected.bind (respected.tryCatch once fun fault again => ?_) fun more => ?_
      · split
        · exact respected.pure _
        · exact again
      · split
        · exact ih
        · exact respected.pure _

theorem liveMapClear (respected : RespectedByWrites runner P) (id : LiveMapId) :
    P _ (Act.liveMapClear runner id) :=
  respected.untilFailure .key
    (respected.bind (respected.liveMapPopEntry id) fun _ => respected.pure _) _

theorem liveMapCopyKeys (respected : RespectedByWrites runner P) (id : LiveMapId) (source : Value)
    (keys : List Value) : P _ (Act.liveMapCopyKeys runner id source keys) := by
  induction keys with
  | nil => exact respected.pure _
  | cons key rest ih =>
      unfold Act.liveMapCopyKeys
      refine respected.bind (respected.observe (looks_balanced.getItem source key)) fun value => ?_
      exact respected.bind (respected.liveMapSet id key value) fun _ => ih

theorem liveMapWritePairs (respected : RespectedByWrites runner P) (id : LiveMapId)
    (items : List Value) : P _ (Act.liveMapWritePairs runner id items) := by
  induction items with
  | nil => exact respected.pure _
  | cons item rest ih =>
      unfold Act.liveMapWritePairs
      refine respected.bind (respected.observe (looks_balanced.pairOf item)) fun pair => ?_
      exact respected.bind (respected.liveMapSet id pair.1 pair.2) fun _ => ih

theorem liveMapUpdate (respected : RespectedByWrites runner P) (id : LiveMapId) (source : Value) :
    P _ (Act.liveMapUpdate runner id source) := by
  unfold Act.liveMapUpdate
  refine respected.batch ?_
  refine respected.bind (respected.observe (looks_balanced.iterate source)) fun items => ?_
  split
  · exact respected.liveMapCopyKeys id source items
  · exact respected.liveMapWritePairs id items

theorem liveMapSetDefault (respected : RespectedByWrites runner P) (id : LiveMapId)
    (key value : Value) : P _ (Act.liveMapSetDefault runner id key value) := by
  unfold Act.liveMapSetDefault
  refine respected.bind (respected.observe (looks_balanced.foundEntry id key _)) fun found => ?_
  cases found with
  | none => exact respected.bind (respected.liveMapSet id key value) fun _ => respected.pure _
  | some found => exact respected.pure _

/-! ## Live lists -/

theorem listChanged (respected : RespectedByWrites runner P) (id : LiveListId) :
    P _ (Act.listChanged runner id) := by
  unfold Act.listChanged
  refine respected.bind (respected.observe (balanced_modifyLiveList id _)) fun _ => ?_
  exact respected.bind respected.get fun _ => respected.trigger _

theorem plainList (respected : RespectedByWrites runner P) (id : LiveListId) :
    P _ (Act.plainList id) :=
  respected.bind respected.get fun _ => respected.pure _

/-- A change of the plain list behind a live one, which is told. -/
theorem listChange (respected : RespectedByWrites runner P) (id : LiveListId)
    {change : ListId → Observe Unit} (each : ∀ raw, (change raw).IsBalanced) :
    P _ (do
      Act.observe (change (← Act.plainList id))
      Act.listChanged runner id) := by
  refine respected.bind (respected.plainList id) fun raw => ?_
  exact respected.bind (respected.observe (each raw)) fun _ => respected.listChanged id

theorem liveListSet (respected : RespectedByWrites runner P) (id : LiveListId) (index value : Value) :
    P _ (Act.liveListSet runner id index value) :=
  respected.bind respected.get fun _ =>
    respected.listChange id fun raw => balanced_listSet raw index _

theorem liveListDelete (respected : RespectedByWrites runner P) (id : LiveListId) (index : Value) :
    P _ (Act.liveListDelete runner id index) :=
  respected.listChange id fun raw => balanced_listDelete raw index

theorem liveListInsert (respected : RespectedByWrites runner P) (id : LiveListId)
    (index value : Value) : P _ (Act.liveListInsert runner id index value) :=
  respected.bind respected.get fun _ =>
    respected.listChange id fun raw => balanced_listInsert raw index _

theorem liveListAppend (respected : RespectedByWrites runner P) (id : LiveListId) (value : Value) :
    P _ (Act.liveListAppend runner id value) :=
  respected.bind (respected.observe (looks_balanced.liveListLength id)) fun _ =>
    respected.liveListInsert id _ value

theorem liveListExtend (respected : RespectedByWrites runner P) (id : LiveListId) (source : Value) :
    P _ (Act.liveListExtend runner id source) :=
  respected.bind (respected.observe (looks_balanced.plainItems source)) fun added =>
    respected.listChange id fun raw => balanced_listExtend raw added

theorem liveListSetSlice (respected : RespectedByWrites runner P) (id : LiveListId)
    (start stop source : Value) :
    P _ (Act.liveListSetSlice runner id start stop source) :=
  respected.bind (respected.observe (looks_balanced.plainItems source)) fun added =>
    respected.listChange id fun raw => balanced_listSetSlice raw start stop added

theorem liveListDeleteSlice (respected : RespectedByWrites runner P) (id : LiveListId)
    (start stop : Value) : P _ (Act.liveListDeleteSlice runner id start stop) :=
  respected.listChange id fun raw => balanced_listSetSlice raw start stop []

theorem liveListPop (respected : RespectedByWrites runner P) (id : LiveListId) (index : Value) :
    P _ (Act.liveListPop runner id index) := by
  refine respected.bind (respected.observe (looks_balanced.liveListGet id index)) fun value => ?_
  exact respected.bind (respected.liveListDelete id index) fun _ => respected.pure _

theorem liveListClear (respected : RespectedByWrites runner P) (id : LiveListId) :
    P _ (Act.liveListClear runner id) :=
  respected.untilFailure .index
    (respected.bind (respected.liveListPop id _) fun _ => respected.pure _) _

theorem liveListSwap (respected : RespectedByWrites runner P) (id : LiveListId) (i j : Int) :
    P _ (Act.liveListSwap runner id i j) := by
  refine respected.bind (respected.observe (looks_balanced.liveListGetAt id j)) fun last => ?_
  refine respected.bind (respected.observe (looks_balanced.liveListGetAt id i)) fun first => ?_
  exact respected.bind (respected.liveListSet id _ last) fun _ => respected.liveListSet id _ first

theorem liveListReverseFrom (respected : RespectedByWrites runner P) (id : LiveListId)
    (length place count : Nat) :
    P _ (Act.liveListReverseFrom runner id length place count) := by
  induction count generalizing place with
  | zero => exact respected.pure _
  | succ count ih => exact respected.bind (respected.liveListSwap id _ _) fun _ => ih _

theorem liveListReverse (respected : RespectedByWrites runner P) (id : LiveListId) :
    P _ (Act.liveListReverse runner id) :=
  respected.bind (respected.observe (looks_balanced.liveListLength id)) fun _ =>
    respected.liveListReverseFrom id _ _ _

theorem liveListRemove (respected : RespectedByWrites runner P) (id : LiveListId) (value : Value) :
    P _ (Act.liveListRemove runner id value) :=
  respected.bind (respected.observe (looks_balanced.liveListFind id value)) fun _ =>
    respected.liveListDelete id _

/-! ## The store of bindings -/

theorem bindings (respected : RespectedByWrites runner P) (store : LiveMapId) (scopes : ScopePath)
    {added : Observe (Entries Value)} (each : added.IsBalanced) :
    P _ (Act.bind runner store scopes added) := by
  unfold Act.bind
  cases scopes.getLast? with
  | none => exact respected.fail rfl
  | some scope =>
      refine respected.bind (respected.observe
        (balanced_closed.bind each looks_balanced.newMap)) fun bindings => ?_
      refine respected.bind (respected.observe (looks_balanced.liveMapHas store _)) fun known => ?_
      split
      · refine respected.bind (respected.observe (looks_balanced.liveMapGet store _)) fun value => ?_
        split
        · exact respected.liveMapUpdate _ bindings
        · exact respected.fail rfl
      · exact respected.liveMapSet store _ bindings

theorem liveMapDeleteAll (respected : RespectedByWrites runner P) (id : LiveMapId)
    (keys : List Value) : P _ (Act.liveMapDeleteAll runner id keys) := by
  induction keys with
  | nil => exact respected.pure _
  | cons key rest ih => exact respected.bind (respected.liveMapDelete id key) fun _ => ih

theorem clearStore (respected : RespectedByWrites runner P) (store : LiveMapId) :
    P _ (Act.clearStore runner store) :=
  respected.bind (respected.observe (looks_balanced.liveMapKeys store)) fun scopes =>
    respected.liveMapDeleteAll store scopes

theorem updateCell (respected : RespectedByWrites runner P) (cell : RefId) (data : Value)
    (store : LiveMapId) (scopes : ScopePath) (path : List String) :
    P _ (Act.updateCell runner cell data store scopes path) := by
  unfold Act.updateCell
  refine respected.bind (respected.observe
    (looks_balanced.findInScopes store scopes data path)) fun found => ?_
  split
  · exact respected.pure _
  · exact respected.refSet cell _

end RespectedByWrites

end ReactiveSchema
