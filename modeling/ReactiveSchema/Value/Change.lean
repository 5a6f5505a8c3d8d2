import ReactiveSchema.Value.Access

/-!
# Changing plain containers

Items are written, inserted and removed by index or slice, entries by key.
Nothing here is tracked.
-/

namespace ReactiveSchema

/-! ## Slices -/

/-- A bound of a slice: a whole number, or none for the natural end. -/
def sliceBound (bound : Value) : Observe (Option Int) :=
  match bound, bound.index? with
  | .none, _ => pure none
  | _, some n => pure (some n)
  | _, none => Observe.fail (.wrongType
      "slice indices must be integers or None or have an __index__ method")

/-- A bound counted from the front and kept within a range. -/
def clampBound (length low high : Int) (bound : Int) : Int :=
  let place := if bound < 0 then bound + length else bound
  max low (min high place)

/-- The places of a forward slice: where it starts, and how many items it has. -/
def sliceRange (length : Nat) (start stop : Option Int) : Nat × Nat :=
  let place (bound : Option Int) (otherwise : Nat) : Nat :=
    match bound with
    | none => otherwise
    | some n => (clampBound length 0 length n).toNat
  let first := place start 0
  (first, place stop length - first)

/-- The places of a slice that steps backward. -/
def backwardPlaces (length : Nat) (start stop : Option Int) (step : Nat) : List Nat :=
  let first := (start.map (clampBound length (-1) (length - 1))).getD (length - 1)
  let last := (stop.map (clampBound length (-1) (length - 1))).getD (-1)
  let count := (first - last).toNat
  (List.range count).filterMap fun n =>
    if n % step = 0 then some (first - n).toNat else none

/-- The places of a slice. -/
def slicePlaces (length : Nat) (start stop : Option Int) (step : Int) : List Nat :=
  if 0 < step then
    let (first, count) := sliceRange length start stop
    (List.range count).filterMap fun n =>
      if n % step.toNat = 0 then some (first + n) else none
  else backwardPlaces length start stop step.natAbs

/-- The items of a slice. -/
def sliceItems (items : List Value) (start stop step : Value) : Observe (List Value) := do
  let stride ← sliceBound step
  if stride == some 0 then Observe.fail (.badValue "slice step cannot be zero")
  else
    let start ← sliceBound start
    let stop ← sliceBound stop
    return (slicePlaces items.length start stop (stride.getD 1)).filterMap (items[·]?)

/-- Items with a slice of them replaced. -/
def replaceSlice (items : List Value) (start stop : Option Int) (added : List Value) :
    List Value :=
  let (first, count) := sliceRange items.length start stop
  items.take first ++ added ++ items.drop (first + count)

/-- Items with one more at an index, which is kept within the items. -/
def insertItem (items : List Value) (index : Int) (value : Value) : List Value :=
  let place := (clampBound items.length 0 items.length index).toNat
  items.take place ++ value :: items.drop place

/-! ## Lists -/

namespace Observe

/-- A whole number that is an index. -/
def indexOf (container : String) (index : Value) : Observe Int :=
  match index.index? with
  | some n => pure n
  | none => fail (.badIndex container index.typeName)

/-- The place of an index among so many items. -/
def placeOf (what : String) (length : Nat) (index : Value) : Observe Nat := do
  match placeOf? length (← indexOf "list" index) with
  | some place => return place
  | none => fail (.outOfRange what)

/-- Write the item at an index. -/
def listSet (id : ListId) (index value : Value) : Observe Unit := do
  let items := (← get).listAt id
  let place ← placeOf "list assignment" items.length index
  setList id (items.set place value)

/-- Remove the item at an index. -/
def listDelete (id : ListId) (index : Value) : Observe Unit := do
  let items := (← get).listAt id
  let place ← placeOf "list assignment" items.length index
  setList id (items.eraseIdx place)

/-- A whole number that names a position. -/
def positionOf (index : Value) : Observe Int :=
  match index.index? with
  | none => fail (.wrongType
      ("'" ++ index.typeName ++ "' object cannot be interpreted as an integer"))
  | some n => if isCountable n then pure n else fail .countOutOfRange

/-- Insert an item before an index. -/
def listInsert (id : ListId) (index value : Value) : Observe Unit := do
  let place ← positionOf index
  setList id (insertItem ((← get).listAt id) place value)

/-- Add items at the end. -/
def listExtend (id : ListId) (added : List Value) : Observe Unit := do
  setList id ((← get).listAt id ++ added)

/-- Replace a slice of the items. -/
def listSetSlice (id : ListId) (start stop : Value) (added : List Value) : Observe Unit := do
  let start ← sliceBound start
  let stop ← sliceBound stop
  setList id (replaceSlice ((← get).listAt id) start stop added)

/-- Remove the item at an index and give it. -/
def listPop (id : ListId) (index : Value) : Observe Value := do
  let n ← positionOf index
  let items := (← get).listAt id
  match placeOf? items.length n with
  | none => fail (.outOfRange "pop")
  | some place => do
      setList id (items.eraseIdx place)
      return items[place]?.getD .none

/-- The place of the first item that equals a value. -/
def findEqual (value : Value) (place : Nat) : List Value → Observe Nat
  | [] => fail (.badValue "value is not in list")
  | item :: rest => do
      if ← sameOr equal item value then return place else findEqual value (place + 1) rest

/-- How many items equal a value. -/
def countEqual (value : Value) (items : List Value) : Observe Nat := do
  return (← items.filterM fun item => sameOr equal item value).length

/-- Remove the first item that equals a value. -/
def listRemove (id : ListId) (value : Value) : Observe Unit := do
  let items := (← get).listAt id
  let place ← findEqual value 0 items
  setList id (items.eraseIdx place)

/-! ## Maps -/

/-- Write the entry of a key. -/
def mapSet (id : MapId) (key value : Value) : Observe Unit := do
  checkKey key
  setMap id (((← get).mapAt id).insert key value)

/-- Remove the entry of a key. -/
def mapDelete (id : MapId) (key : Value) : Observe Unit := do
  checkKey key
  let memory ← get
  let entries := memory.mapAt id
  if entries.contains key then setMap id (entries.erase key)
  else fail (memory.missingKey key)

/-- Remove the entry of a key and give its value. -/
def mapPop (id : MapId) (key : Value) (otherwise : Option Value) : Observe Value := do
  let memory ← get
  let entries := memory.mapAt id
  if !entries.isEmpty then checkKey key
  match entries.find? key, otherwise with
  | some value, _ => do
      setMap id (entries.erase key)
      return value
  | none, some value => return value
  | none, none => fail (memory.missingKey key)

/-- Remove the newest entry and give it. -/
def mapPopEntry (id : MapId) : Observe Value := do
  match ((← get).mapAt id).reverse with
  | [] => fail (.missingKey "'popitem(): dictionary is empty'")
  | (key, value) :: older => do
      setMap id older.reverse
      return .tuple [key, value]

/-- The value of a key, which is written first if there is none. -/
def mapSetDefault (id : MapId) (key value : Value) : Observe Value := do
  checkKey key
  let entries := (← get).mapAt id
  match entries.find? key with
  | some found => return found
  | none => do
      setMap id (entries.insert key value)
      return value

/-- Write entries one after another. -/
def mapWriteAll (id : MapId) : List (Value × Value) → Observe Unit
  | [] => pure ()
  | (key, value) :: rest => do
      mapSet id key value
      mapWriteAll id rest

/-- Write pairs of key and value one after another. -/
def mapWritePairs (id : MapId) : List Value → Observe Unit
  | [] => pure ()
  | item :: rest => do
      let (key, value) ← pairOf item
      mapSet id key value
      mapWritePairs id rest

/-- Write the entries of a mapping, or pairs of key and value. -/
def mapUpdate (id : MapId) (source : Value) : Observe Unit := do
  if source.isMapping then mapWriteAll id (← entriesOf source)
  else mapWritePairs id (← iterate source)

end Observe

end ReactiveSchema
