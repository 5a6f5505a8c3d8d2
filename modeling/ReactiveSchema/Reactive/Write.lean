import ReactiveSchema.Reactive.Schedule
import ReactiveSchema.Value.Change

/-!
# Writing cells and live containers

A write reaches the plain container at once and then tells what has changed: a
map tells the key, if its value is another one now, and its key set, if that is
another one; a list tells itself at every write.  The longer operations are
made of single reads and writes, each of which tells on its own.
-/

namespace ReactiveSchema

namespace Observe

/--
Is a new value another one than the old?  Live containers are told apart by
identity, other values by kind and value, and what cannot be compared counts
as changed.
-/
def hasChanged (old new : Value) : Observe Bool :=
  if old.identical new then pure false
  else if old.isLive || new.isLive then pure true
  else if old.typeName != new.typeName then pure true
  else
    tryCatch (do return !(← equal old new)) fun fault =>
      if fault.isCatchable then pure true else throw fault

end Observe

namespace Act

/-! ## Cells -/

/-- Write the content of a cell. -/
def refSet (runner : Runner) (id : RefId) (content : Value) : Act Unit := do
  let memory := (← get).memory
  match memory.refs[id]? with
  | none => return ()
  | some cell =>
      if ← observe (Observe.hasChanged cell.content content) then
        observe (Observe.setRef id content)
        trigger runner cell.dep

/-! ## Live maps -/

/-- Forget the live face of a key's value. -/
def dropFace (id : LiveMapId) (key : Value) : Observe Unit :=
  Observe.modifyLiveMap id fun live => { live with children := live.children.erase key }

/-- Tell that the key set has changed. -/
def triggerKeys (runner : Runner) (id : LiveMapId) : Act Unit := do
  trigger runner ((← get).memory.liveMapAt id).keysDep

/-- Tell that a key has changed. -/
def triggerKey (runner : Runner) (id : LiveMapId) (key : Value) : Act Unit := do
  let dep ← observe (Observe.keyDep id key)
  trigger runner dep

/-- The plain entry of a key, untracked. -/
def plainEntry (id : LiveMapId) (key : Value) : Observe (Option Value) := do
  Observe.checkKey key
  let memory ← get
  return (memory.mapAt (memory.rawMap id)).find? key

/-- Write the entry of a key. -/
def liveMapSet (runner : Runner) (id : LiveMapId) (key value : Value) : Act Unit := do
  let value := (← get).memory.toRaw value
  let old ← observe (plainEntry id key)
  observe do
    Observe.mapSet ((← get).rawMap id) key value
    dropFace id key
  batch runner do
    match old with
    | none => do
        triggerKeys runner id
        triggerKey runner id key
    | some old =>
        if ← observe (Observe.hasChanged old value) then triggerKey runner id key

/-- Remove the entry of a key. -/
def liveMapDelete (runner : Runner) (id : LiveMapId) (key : Value) : Act Unit := do
  observe do
    Observe.mapDelete ((← get).rawMap id) key
    dropFace id key
  batch runner do
    triggerKeys runner id
    triggerKey runner id key

/-- Remove the entry of a key and give its value. -/
def liveMapPop (runner : Runner) (id : LiveMapId) (key : Value) (otherwise : Option Value) :
    Act Value := do
  let found ← observe (tryCatch (do return some (← Observe.liveMapGet id key)) fun fault =>
    if fault.isKind .key && otherwise.isSome then pure none else throw fault)
  match found with
  | some value => do
      liveMapDelete runner id key
      return value
  | none => return otherwise.getD .none

/-- Remove the oldest entry and give its key and value, if there is one. -/
def liveMapPopEntry? (runner : Runner) (id : LiveMapId) : Act (Option (Value × Value)) := do
  match ← observe (Observe.liveMapKeys id) with
  | [] => return none
  | key :: _ => do
      let value ← observe (Observe.liveMapGet id key)
      liveMapDelete runner id key
      return some (key, value)

/-- Remove the oldest entry and give it. -/
def liveMapPopEntry (runner : Runner) (id : LiveMapId) : Act Value := do
  match ← liveMapPopEntry? runner id with
  | some (key, value) => return .tuple [key, value]
  | none => fail (.missingKey "")

/-- Run `body` over and over until it fails for the given kind of cause. -/
def untilFailure (kind : FailureKind) (body : Act Unit) : Nat → Act Unit
  | 0 => throw .exhausted
  | limit + 1 => do
      let more ← tryCatch (do body; return true) fun fault =>
        if fault.isKind kind then pure false else throw fault
      if more then untilFailure kind body limit

/-- Remove entry by entry, the oldest one first. -/
def liveMapClear (runner : Runner) (id : LiveMapId) : Act Unit :=
  untilFailure .key (do let _ ← liveMapPopEntry runner id) runner.flushLimit

/-- Write what each key has in a mapping, read when its turn comes. -/
def liveMapCopyKeys (runner : Runner) (id : LiveMapId) (source : Value) :
    List Value → Act Unit
  | [] => pure ()
  | key :: rest => do
      let value ← observe (Observe.getItem source key)
      liveMapSet runner id key value
      liveMapCopyKeys runner id source rest

/-- Write pairs of key and value one after another. -/
def liveMapWritePairs (runner : Runner) (id : LiveMapId) : List Value → Act Unit
  | [] => pure ()
  | item :: rest => do
      let (key, value) ← observe (Observe.pairOf item)
      liveMapSet runner id key value
      liveMapWritePairs runner id rest

/-- Write the entries of a mapping, or pairs of key and value, in one batch. -/
def liveMapUpdate (runner : Runner) (id : LiveMapId) (source : Value) : Act Unit :=
  batch runner do
    let items ← observe (Observe.iterate source)
    if source.isMapping then liveMapCopyKeys runner id source items
    else liveMapWritePairs runner id items

/-- The value of a key; if there is none, the one given is written and given back as it is. -/
def liveMapSetDefault (runner : Runner) (id : LiveMapId) (key value : Value) : Act Value := do
  let found ← observe (tryCatch (do return some (← Observe.liveMapGet id key)) fun fault =>
    if fault.isKind .key then pure none else throw fault)
  match found with
  | some found => return found
  | none => do
      liveMapSet runner id key value
      return value

/-! ## Live lists -/

/-- Tell that a list has changed, and forget the live faces of its items. -/
def listChanged (runner : Runner) (id : LiveListId) : Act Unit := do
  observe (Observe.modifyLiveList id fun live => { live with children := [] })
  trigger runner ((← get).memory.liveListAt id).dep

/-- The plain list behind a live one. -/
def plainList (id : LiveListId) : Act ListId := do
  return (← get).memory.rawList id

/-- Write the item at an index. -/
def liveListSet (runner : Runner) (id : LiveListId) (index value : Value) : Act Unit := do
  let value := (← get).memory.toRaw value
  observe (Observe.listSet (← plainList id) index value)
  listChanged runner id

/-- Remove the item at an index. -/
def liveListDelete (runner : Runner) (id : LiveListId) (index : Value) : Act Unit := do
  observe (Observe.listDelete (← plainList id) index)
  listChanged runner id

/-- Insert an item before an index. -/
def liveListInsert (runner : Runner) (id : LiveListId) (index value : Value) : Act Unit := do
  let value := (← get).memory.toRaw value
  observe (Observe.listInsert (← plainList id) index value)
  listChanged runner id

/-- Add an item at the end. -/
def liveListAppend (runner : Runner) (id : LiveListId) (value : Value) : Act Unit := do
  let length ← observe (Observe.liveListLength id)
  liveListInsert runner id (.int length) value

/-- The things in a value, with plain containers in place of live ones. -/
def plainItems (source : Value) : Observe (List Value) := do
  let items ← Observe.iterate source
  return items.map (← get).toRaw

/-- Add the things in a value at the end. -/
def liveListExtend (runner : Runner) (id : LiveListId) (source : Value) : Act Unit := do
  let added ← observe (plainItems source)
  observe (Observe.listExtend (← plainList id) added)
  listChanged runner id

/-- Replace a slice by the things in a value. -/
def liveListSetSlice (runner : Runner) (id : LiveListId) (start stop source : Value) :
    Act Unit := do
  let added ← observe (plainItems source)
  observe (Observe.listSetSlice (← plainList id) start stop added)
  listChanged runner id

/-- Remove a slice. -/
def liveListDeleteSlice (runner : Runner) (id : LiveListId) (start stop : Value) :
    Act Unit := do
  observe (Observe.listSetSlice (← plainList id) start stop [])
  listChanged runner id

/-- Remove the item at an index and give it. -/
def liveListPop (runner : Runner) (id : LiveListId) (index : Value) : Act Value := do
  let value ← observe (Observe.liveListGet id index)
  liveListDelete runner id index
  return value

/-- Remove item by item, the last one first. -/
def liveListClear (runner : Runner) (id : LiveListId) : Act Unit :=
  untilFailure .index (do let _ ← liveListPop runner id (.int (-1))) runner.flushLimit

/-- Exchange the items at two indices. -/
def liveListSwap (runner : Runner) (id : LiveListId) (i j : Int) : Act Unit := do
  let last ← observe (Observe.liveListGetAt id j)
  let first ← observe (Observe.liveListGetAt id i)
  liveListSet runner id (.int i) last
  liveListSet runner id (.int j) first

/-- Exchange items from both ends, as many times as stated. -/
def liveListReverseFrom (runner : Runner) (id : LiveListId) (length place : Nat) :
    Nat → Act Unit
  | 0 => pure ()
  | count + 1 => do
      liveListSwap runner id place (length - place - 1)
      liveListReverseFrom runner id length (place + 1) count

/-- Turn the order round by exchanges. -/
def liveListReverse (runner : Runner) (id : LiveListId) : Act Unit := do
  let length ← observe (Observe.liveListLength id)
  liveListReverseFrom runner id length 0 (length / 2)

/-- The place of the first item that equals a value, searching while there are items. -/
def liveListFindFrom (id : LiveListId) (value : Value) : Nat → Nat → Observe Nat
  | 0, _ => Observe.fail (.badValue "value is not in list")
  | limit + 1, place => do
      let item ← Observe.liveListGetAt id place
      if ← Observe.sameOr Observe.equal item value then return place
      else liveListFindFrom id value limit (place + 1)

/-- The place of the first item that equals a value. -/
def liveListFind (id : LiveListId) (value : Value) : Observe Nat := do
  Observe.trackList id
  let memory ← get
  liveListFindFrom id value (memory.listAt (memory.rawList id)).length 0

/-- Remove the first item that equals a value. -/
def liveListRemove (runner : Runner) (id : LiveListId) (value : Value) : Act Unit := do
  let place ← observe (liveListFind id value)
  liveListDelete runner id (.int place)

end Act

end ReactiveSchema
