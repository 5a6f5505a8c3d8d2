import ReactiveSchema.Value.Compare

/-!
# Looking into values

Truth, length, iteration, indexing and membership of values of all kinds.
Live containers note what is read.  Schema conditions have a truth of their
own, which counts empty containers as true and not-a-number as false.
-/

namespace ReactiveSchema

namespace Value

/--
The truth of schema conditions: only nothing, undefined, false, zero,
not-a-number and the empty text are false.
-/
def isTruthy : Value → Bool
  | none => false
  | undefined => false
  | bool b => b
  | int n => n != 0
  | float x => x != 0.0
  | nan _ => false
  | str s => !s.isEmpty
  | _ => true

/-- Can the value be taken for a pair of key and value? -/
def isPairLike : Value → Bool
  | .str _ => true
  | .tuple _ => true
  | .list _ => true
  | .map _ => true
  | .liveList _ => true
  | .liveMap _ => true
  | _ => false

end Value

namespace Observe

/-- The truth of a value as a program sees it: empty containers are false. -/
def isTrue : Value → Observe Bool
  | .none => pure false
  | .undefined => pure false
  | .missing => pure false
  | .bool b => pure b
  | .int n => pure (n != 0)
  | .float x => pure (x != 0.0)
  | .complex re im => pure (re != 0.0 || im != 0.0)
  | .str s => pure !s.isEmpty
  | .tuple items => pure !items.isEmpty
  | .list id => do return !((← get).listAt id).isEmpty
  | .map id => do return !((← get).mapAt id).isEmpty
  | .liveList id => do return (← liveListLength id) != 0
  | .liveMap id => do return (← liveMapLength id) != 0
  | .handle .store id => do return (← liveMapLength id) != 0
  | .handle kind id => do return ((← get).outlook kind id).size != some 0
  | _ => pure true

/-- Is a whole number small enough to count or to name a position? -/
def isCountable (n : Int) : Bool :=
  -Int.ofNat (Nat.pow 2 63) ≤ n && n < Int.ofNat (Nat.pow 2 63)

/-- The number of things in a value. -/
def lengthOf : Value → Observe Nat
  | .str s => pure s.length
  | .tuple items => pure items.length
  | .list id => do return ((← get).listAt id).length
  | .map id => do return ((← get).mapAt id).length
  | .liveList id => liveListLength id
  | .liveMap id => liveMapLength id
  | .handle .store id => liveMapLength id
  | .handle kind id => do
      match ((← get).outlook kind id).size with
      | some size => return size
      | none => fail (.notSized (Value.handle kind id).typeName)
  | value => fail (.notSized value.typeName)

/-- The things in a value, one after another: items, keys or characters. -/
def iterate : Value → Observe (List Value)
  | .str s => pure (s.toList.map fun c => .str c.toString)
  | .tuple items => pure items
  | .list id => do return (← get).listAt id
  | .map id => do return ((← get).mapAt id).keys
  | .liveList id => liveListItems id
  | .liveMap id => liveMapKeys id
  | value => fail (.notIterable value.typeName)

/-- The item at an index of a sequence. -/
def itemAt (what : String) (items : List Value) (index : Value) : Observe Value :=
  match index.index? with
  | none => fail (.badIndex what index.typeName)
  | some n =>
      match (placeOf? items.length n).bind fun place => items[place]? with
      | some item => pure item
      | none => fail (.outOfRange what)

/-- The value at an index or key. -/
def getItem (container key : Value) : Observe Value :=
  match container with
  | .str s => itemAt "string" (s.toList.map fun c => .str c.toString) key
  | .tuple items => itemAt "tuple" items key
  | .list id => do itemAt "list" ((← get).listAt id) key
  | .map id => do
      checkKey key
      let memory ← get
      match (memory.mapAt id).find? key with
      | some value => return value
      | none => fail (memory.missingKey key)
  | .liveList id => liveListGet id key
  | .liveMap id => liveMapGet id key
  | value => fail (.notSubscriptable value.typeName)

/-- Is a value in a container? -/
def contains (value container : Value) : Observe Bool :=
  match container with
  | .str s =>
      match value with
      | .str part => pure (Text.standsIn part.toList s.toList)
      | other => fail (.wrongType
          ("'in <string>' requires string as left operand, not " ++ other.typeName))
  | .tuple items => isAmong value items
  | .list id => do isAmong value ((← get).listAt id)
  | .map id => do
      checkKey value
      return ((← get).mapAt id).contains value
  | .liveList id => do isAmong value (← liveListItems id)
  | .liveMap id => liveMapHas id value
  | .handle .store id => liveMapHas id value
  | other => fail (.wrongType
      ("argument of type '" ++ other.typeName ++ "' is not iterable"))

/-- The key and value of a pair. -/
def pairOf (item : Value) : Observe (Value × Value) := do
  if item.isPairLike then
    match ← iterate item with
    | [key, entry] => return (key, entry)
    | _ => fail (.badValue "an entry needs a key and a value")
  else fail (.wrongType "an entry is not a pair")

/-- A new map with the entries of a mapping, or of pairs of key and value. -/
def copyMap (value : Value) : Observe (Entries Value) := do
  match value with
  | .map id => return (← get).mapAt id
  | .liveMap id => return .ofList (← liveMapItems id)
  | other =>
      let pairs ← (← iterate other).mapM fun item => do
        let (key, entry) ← pairOf item
        checkKey key
        return (key, entry)
      return .ofList pairs

/-- The entries of a mapping. -/
def entriesOf : Value → Observe (List (Value × Value))
  | .map id => do return (← get).mapAt id
  | .liveMap id => liveMapItems id
  | other => fail (.noAttribute other.typeName "items")

/-- The value of a key in a mapping, or else the one given. -/
def getEntry (mapping key otherwise : Value) : Observe Value :=
  match mapping with
  | .map id => do
      checkKey key
      return (((← get).mapAt id).find? key).getD otherwise
  | .liveMap id => recoverKey (liveMapGet id key)
  | other => fail (.noAttribute other.typeName "get")
where
  /-- A missing key gives the other value. -/
  recoverKey (found : Observe Value) : Observe Value :=
    tryCatch found fun fault =>
      if fault.isKind .key then pure otherwise else throw fault

end Observe

end ReactiveSchema
