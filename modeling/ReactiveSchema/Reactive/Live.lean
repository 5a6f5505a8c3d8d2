import ReactiveSchema.Value.Describe

/-!
# Reading live containers

A live map tracks each key and its key set on its own, a live list is tracked
as a whole.  Plain containers inside are handed out as live ones, the same one
for the same place as long as nothing is written there.
-/

namespace ReactiveSchema.Observe

/-! ## Live maps -/

/-- The tracked state of a key, which may be absent. -/
def keyDep (id : LiveMapId) (key : Value) : Observe DepId := do
  checkKey key
  let memory ← get
  match (memory.liveMapAt id).deps.find? key with
  | some dep => return dep
  | none => do
      let dep ← newDep
      modifyLiveMap id fun live => { live with deps := live.deps.insert key dep }
      return dep

/-- Hand out the value of a key, a plain container by its live face. -/
def wrapEntry (id : LiveMapId) (key value : Value) : Observe Value := do
  if !value.isPlainContainer then return value
  let memory ← get
  match (memory.liveMapAt id).children.find? key with
  | some child =>
      if memory.isFaceOf child value then return child
      else newFace
  | none => newFace
where
  /-- A new live face, kept for the key. -/
  newFace : Observe Value := do
    let face ← makeLive value
    modifyLiveMap id fun live => { live with children := live.children.insert key face }
    return face

/-- The value of a key. -/
def liveMapGet (id : LiveMapId) (key : Value) : Observe Value := do
  let dep ← keyDep id key
  track dep
  let memory ← get
  match (memory.mapAt (memory.rawMap id)).find? key with
  | some value => wrapEntry id key value
  | none => fail (memory.missingKey key)

/-- Does a key have an entry? -/
def liveMapHas (id : LiveMapId) (key : Value) : Observe Bool := do
  let dep ← keyDep id key
  track dep
  let memory ← get
  return (memory.mapAt (memory.rawMap id)).contains key

/-- Track the key set of a live map. -/
def trackKeys (id : LiveMapId) : Observe Unit := do
  track ((← get).liveMapAt id).keysDep

/-- The keys, in order. -/
def liveMapKeys (id : LiveMapId) : Observe (List Value) := do
  trackKeys id
  let memory ← get
  return (memory.mapAt (memory.rawMap id)).keys

/-- The number of entries. -/
def liveMapLength (id : LiveMapId) : Observe Nat := do
  trackKeys id
  let memory ← get
  return (memory.mapAt (memory.rawMap id)).length

/-- The entries, in order; each value is read on its own. -/
def liveMapItems (id : LiveMapId) : Observe (List (Value × Value)) := do
  let keys ← liveMapKeys id
  keys.mapM fun key => do return (key, ← liveMapGet id key)

/-! ## Live lists -/

/-- Track a live list. -/
def trackList (id : LiveListId) : Observe Unit := do
  track ((← get).liveListAt id).dep

/-- Hand out the item of an index, a plain container by its live face. -/
def wrapItem (id : LiveListId) (index : Int) (value : Value) : Observe Value := do
  if !value.isPlainContainer then return value
  let memory ← get
  match (memory.liveListAt id).children.lookup index with
  | some child =>
      if memory.isFaceOf child value then return child
      else newFace
  | none => newFace
where
  /-- A new live face, kept for the index. -/
  newFace : Observe Value := do
    let face ← makeLive value
    modifyLiveList id fun live =>
      { live with children := (index, face) :: live.children.filter (·.1 != index) }
    return face

/-- The place of an index, which counts from the end when it is negative. -/
def placeOf? (length : Nat) (index : Int) : Option Nat :=
  let place := if index < 0 then index + length else index
  if 0 ≤ place ∧ place < length then some place.toNat else none

/-- The item of a whole number. -/
def liveListGetAt (id : LiveListId) (index : Int) : Observe Value := do
  trackList id
  let memory ← get
  let items := memory.listAt (memory.rawList id)
  let index := if index < 0 then index + items.length else index
  match (placeOf? items.length index).bind fun place => items[place]? with
  | some value => wrapItem id index value
  | none => fail (.outOfRange "list")

/-- The item of an index, which must have a sign to be one. -/
def liveListGet (id : LiveListId) (index : Value) : Observe Value := do
  match index with
  | .bool b => liveListGetAt id (if b then 1 else 0)
  | .int n => liveListGetAt id n
  | .float _ | .nan _ => do
      trackList id
      fail (.badIndex "list" index.typeName)
  | _ => do
      trackList id
      fail (.unordered index.typeName "int")

/-- The number of items. -/
def liveListLength (id : LiveListId) : Observe Nat := do
  trackList id
  let memory ← get
  return (memory.listAt (memory.rawList id)).length

/-- The items, in order. -/
def liveListItems (id : LiveListId) : Observe (List Value) := do
  trackList id
  let memory ← get
  (memory.listAt (memory.rawList id)).zipIdx.mapM fun (value, index) =>
    wrapItem id index value

/-! ## Cells -/

/-- The content of a cell. -/
def refGet (id : RefId) : Observe Value := do
  match (← get).refs[id]? with
  | some cell => do
      track cell.dep
      return cell.content
  | none => return .none

/-- The content of a cell, untracked. -/
def refPeek (id : RefId) : Observe Value := do
  return (← get).refAt id

end ReactiveSchema.Observe
