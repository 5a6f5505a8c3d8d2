import ReactiveSchema.Reactive.Write
import ReactiveSchema.Scope.Store

/-!
# Operations on containers of either face

A program reads and writes plain and live containers by the same operations.
Which of them a value knows depends on its kind, as does what a wrong use fails
with.
-/

namespace ReactiveSchema

namespace Observe

/-- A value does not know an operation. -/
def unknown {α : Type} (value : Value) (name : String) : Observe α :=
  fail (.noAttribute value.typeName name)

/-- A bare value at an index or key, after another. -/
def getPath (value : Value) : List Value → Observe Value
  | [] => pure value
  | key :: rest => do getPath (← getItem value key) rest

/-- A text of some characters. -/
def textOfItems (items : List Value) : Observe Value := do
  return .str (String.join (← items.mapM textOf))

/-- A part of a sequence, by a slice. -/
def getSlice (value start stop step : Value) : Observe Value := do
  match value with
  | .str _ => textOfItems (← sliceItems (← iterate value) start stop step)
  | .tuple items => return .tuple (← sliceItems items start stop step)
  | .list id => newList (← sliceItems ((← get).listAt id) start stop step)
  | .liveList id =>
      trackList id
      let memory ← get
      let items ← sliceItems (memory.listAt (memory.rawList id)) start stop step
      newList (← items.mapM makeLive)
  | .map _ | .liveMap _ => fail (.unhashable "slice")
  | other => fail (.notSubscriptable other.typeName)

/-- The things in a value, last one first. -/
def reversedItems (value : Value) : Observe (List Value) := do
  match value with
  | .str _ | .tuple _ | .list _ | .map _ => return (← iterate value).reverse
  | .liveList id =>
      let length ← liveListLength id
      (List.range length).reverse.mapM fun (place : Nat) => liveListGetAt id place
  | other => fail (.wrongType ("'" ++ other.typeName ++ "' object is not reversible"))

/-- The keys of a mapping. -/
def keysOf (value : Value) : Observe (List Value) :=
  if value.isMapping then iterate value else unknown value "keys"

/-- The values of a mapping, in the order of their keys. -/
def valuesOf (value : Value) : Observe (List Value) := do
  if value.isMapping then return (← entriesOf value).map Prod.snd else unknown value "values"

/-- The entries of a mapping as pairs. -/
def pairsOf (value : Value) : Observe (List Value) := do
  return (← entriesOf value).map fun (key, entry) => .tuple [key, entry]

/-- What is looked for in a text has to be a text as well. -/
def partOfText (part : Value) : Observe (List Char) :=
  match part with
  | .str part => pure part.toList
  | other => fail (.wrongType ("must be str, not " ++ other.typeName))

/-- The place of the first item that equals a value, or of a text in a text. -/
def firstPlace (value item : Value) : Observe Nat := do
  match value with
  | .str text =>
      match Text.placeOf? (← partOfText item) text.toList with
      | some place => return place
      | none => fail (.badValue "substring not found")
  | .list id => findEqual item 0 ((← get).listAt id)
  | .tuple items => findEqual item 0 items
  | .liveList id => Act.liveListFind id item
  | other => unknown other "index"

/-- How many items equal a value, or how often a text stands in a text. -/
def countOf (value item : Value) : Observe Nat := do
  match value with
  | .str text => return Text.occurrences (← partOfText item) text.toList
  | .list id => countEqual item ((← get).listAt id)
  | .tuple items => countEqual item items
  | .liveList id => countEqual item (← liveListItems id)
  | other => unknown other "count"

/-- The sum of two values; text only joins text. -/
def sum (left right : Value) : Observe Value := do
  match left, right with
  | .str a, .str b => return .str (a ++ b)
  | .str _, other => fail (.concatenate "str" other.typeName)
  | _, _ => if right.isStr then unsupported .add left right else add left right

/-- Does the first value come before the second?  Some values have no order. -/
def less (left right : Value) : Observe Bool := do
  match ← orderWithin .lt (← get).levels left right with
  | some answer => return answer
  | none => fail (.wrongType
      ("'<' not supported between instances of '" ++ left.typeName ++ "' and '" ++
        right.typeName ++ "'"))

end Observe

namespace Act

open Observe (unknown)

/-- Write the item at an index, or the entry of a key. -/
def setItem (runner : Runner) (container key value : Value) : Act Unit :=
  match container with
  | .list id => observe (Observe.listSet id key value)
  | .map id => observe (Observe.mapSet id key value)
  | .liveList id => liveListSet runner id key value
  | .liveMap id => liveMapSet runner id key value
  | other => fail (.wrongType
      ("'" ++ other.typeName ++ "' object does not support item assignment"))

/-- Remove the item at an index, or the entry of a key. -/
def deleteItem (runner : Runner) (container key : Value) : Act Unit :=
  match container with
  | .list id => observe (Observe.listDelete id key)
  | .map id => observe (Observe.mapDelete id key)
  | .liveList id => liveListDelete runner id key
  | .liveMap id => liveMapDelete runner id key
  | other => fail (.wrongType
      ("'" ++ other.typeName ++ "' object does not support item deletion"))

/-- Replace a slice by the things in a value. -/
def setSlice (runner : Runner) (container start stop source : Value) : Act Unit :=
  match container with
  | .list id => observe do
      let added ← Observe.iterate source
      Observe.listSetSlice id start stop added
  | .liveList id => liveListSetSlice runner id start stop source
  | .map _ | .liveMap _ => fail (.unhashable "slice")
  | other => fail (.wrongType
      ("'" ++ other.typeName ++ "' object does not support item assignment"))

/-- Remove a slice. -/
def deleteSlice (runner : Runner) (container start stop : Value) : Act Unit :=
  match container with
  | .list id => observe (Observe.listSetSlice id start stop [])
  | .liveList id => liveListDeleteSlice runner id start stop
  | .map _ | .liveMap _ => fail (.unhashable "slice")
  | other => fail (.wrongType
      ("'" ++ other.typeName ++ "' object does not support item deletion"))

/-- Write the entries of a mapping, or pairs of key and value. -/
def updateMap (runner : Runner) (container source : Value) : Act Unit :=
  match container with
  | .map id => observe (Observe.mapUpdate id source)
  | .liveMap id => liveMapUpdate runner id source
  | other => observe (unknown other "update")

/-- Remove an entry by key, or an item by index, and give it. -/
def popItem (runner : Runner) (container : Value) (key otherwise : Option Value) :
    Act Value :=
  match container, key, otherwise with
  | .map id, some key, otherwise => observe (Observe.mapPop id key otherwise)
  | .liveMap id, some key, otherwise => liveMapPop runner id key otherwise
  | .list id, key, none => observe (Observe.listPop id (key.getD (.int (-1))))
  | .liveList id, key, none => liveListPop runner id (key.getD (.int (-1)))
  | .map _, none, _ | .liveMap _, none, _ | .list _, _, some _ | .liveList _, _, some _ =>
      fail (.wrongType "pop takes another number of arguments")
  | other, _, _ => observe (unknown other "pop")

/-- Remove an entry and give it: the newest one of a plain map, the oldest one of a live one. -/
def popEntry (runner : Runner) (container : Value) : Act Value :=
  match container with
  | .map id => observe (Observe.mapPopEntry id)
  | .liveMap id => liveMapPopEntry runner id
  | other => observe (unknown other "popitem")

/-- Remove everything. -/
def clear (runner : Runner) (container : Value) : Act Unit :=
  match container with
  | .list id => observe (Observe.setList id [])
  | .map id => observe (Observe.setMap id [])
  | .liveList id => liveListClear runner id
  | .liveMap id => liveMapClear runner id
  | .handle .store id => clearStore runner id
  | other => observe (unknown other "clear")

/-- The value of a key, which is written first if there is none. -/
def setDefault (runner : Runner) (container key value : Value) : Act Value :=
  match container with
  | .map id => observe (Observe.mapSetDefault id key value)
  | .liveMap id => liveMapSetDefault runner id key value
  | other => observe (unknown other "setdefault")

/-- Add an item at the end. -/
def append (runner : Runner) (container value : Value) : Act Unit :=
  match container with
  | .list id => observe (Observe.listExtend id [value])
  | .liveList id => liveListAppend runner id value
  | other => observe (unknown other "append")

/-- Insert an item before an index. -/
def insertItem (runner : Runner) (container index value : Value) : Act Unit :=
  match container with
  | .list id => observe (Observe.listInsert id index value)
  | .liveList id => liveListInsert runner id index value
  | other => observe (unknown other "insert")

/-- Add the things in a value at the end. -/
def extend (runner : Runner) (container source : Value) : Act Unit :=
  match container with
  | .list id => observe do Observe.listExtend id (← Observe.iterate source)
  | .liveList id => liveListExtend runner id source
  | other => observe (unknown other "extend")

/-- Add to a list in place; other values are added as usual. -/
def extendInPlace (runner : Runner) (container source : Value) : Act Unit := do
  match container with
  | .list _ | .liveList _ => extend runner container source
  | other =>
      let _ ← observe (Observe.sum other source)

/-- Remove the first item that equals a value. -/
def removeItem (runner : Runner) (container value : Value) : Act Unit :=
  match container with
  | .list id => observe (Observe.listRemove id value)
  | .liveList id => liveListRemove runner id value
  | other => observe (unknown other "remove")

/-- Turn the order of the items round. -/
def reverseItems (runner : Runner) (container : Value) : Act Unit :=
  match container with
  | .list id => observe do Observe.setList id ((← get).listAt id).reverse
  | .liveList id => liveListReverse runner id
  | other => observe (unknown other "reverse")

end Act

end ReactiveSchema
