import ReactiveSchema.Value.Describe
import ReactiveSchema.Value.Datum

/-!
# Pictures of values

A value is written out as a tree, as it is at one moment; live containers show
what is plainly behind them, and nothing is read on anyone's behalf.  A whole
number with too many digits cannot be written out, nor can a node without a
mapping for properties and something to go over for children.  The other way
round a tree is built up in memory.
-/

namespace ReactiveSchema

namespace Memory

/-- Plain data as what a live face shows. -/
def liveDatum : Datum → Datum
  | .list items => .liveList items
  | .map entries => .liveMap entries
  | other => other

/-- A character as a tree. -/
def charDatum (c : Char) : Datum :=
  .str c.toString

/-- The entries of a mapping, given how what is in it is written out. -/
def snapshotEntries (memory : Memory) (deeper : Value → Except Cause Datum) :
    Value → Except Cause (List (Datum × Datum))
  | .map id => (memory.mapAt id).mapM fun (key, value) => do
      return (← deeper key, ← deeper value)
  | .liveMap id => (memory.mapAt (memory.rawMap id)).mapM fun (key, value) => do
      return (← deeper key, liveDatum (← deeper value))
  | other => .error (.noAttribute other.typeName "items")

/-- The things that a value goes over, given how what is in it is written out. -/
def snapshotItems (memory : Memory) (deeper : Value → Except Cause Datum) :
    Value → Except Cause (List Datum)
  | .str s => .ok (s.toList.map charDatum)
  | .tuple items => items.mapM deeper
  | .list id => (memory.listAt id).mapM deeper
  | .map id => (memory.mapAt id).keys.mapM deeper
  | .liveList id => do
      return (← (memory.listAt (memory.rawList id)).mapM deeper).map liveDatum
  | .liveMap id => (memory.mapAt (memory.rawMap id)).keys.mapM deeper
  | other => .error (.notIterable other.typeName)

/-- A value as a tree, given how the contents of containers are written out. -/
def snapshotStep (memory : Memory) (deeper : Value → Except Cause Datum) :
    Value → Except Cause Datum
  | .none => .ok .none
  | .undefined => .ok .undefined
  | .missing => .ok .missing
  | .ellipsis => .ok .ellipsis
  | .bool b => .ok (.bool b)
  | .int n => if Number.isTooLong n then .error .tooManyDigits else .ok (.int n)
  | .float x => .ok (.float x)
  | .nan _ => .ok (.float Number.notANumber)
  | .complex re im => .ok (.complex re im)
  | .str s => .ok (.str s)
  | .tuple items => do return .tuple (← snapshotTuple memory deeper items)
  | .list id => do return .list (← (memory.listAt id).mapM deeper)
  | .map id => do return .map (← memory.snapshotEntries deeper (.map id))
  | .liveList id => do return liveDatum (← deeper (.list (memory.rawList id)))
  | .liveMap id => do return liveDatum (← deeper (.map (memory.rawMap id)))
  | .text content => .ok (.text content)
  | .node id => do
      let node := memory.nodeAt id
      let type ← deeper node.type
      let props ← memory.snapshotEntries deeper node.props
      let children ← memory.snapshotItems deeper node.children
      return .node type (.map props) (.list children)
  | .function f => .ok (.function f)
  | .component c => .ok (.component c)
  | .object id => do
      return .object (← (memory.objectAt id).mapM fun (name, value) => do
        return (name, ← deeper value))
  | .incomparable _ => .ok .incomparable
  | .ref id => do return .ref (← deeper (memory.refAt id))
  | .scope id => .ok (.scope id)
  | .handle kind id => .ok (.other (Value.handle kind id).typeName)
  | .method owner name => .ok (.other (Value.method owner name).typeName)
  | .other typeName => .ok (.other typeName)
where
  /-- The items of a tuple, written out one by one. -/
  snapshotTuple (memory : Memory) (deeper : Value → Except Cause Datum) :
      List Value → Except Cause (List Datum)
    | [] => .ok []
    | item :: rest => do
        let first ← snapshotStep memory deeper item
        return first :: (← snapshotTuple memory deeper rest)

/-- A value that is at most so deep as a tree. -/
def snapshotWithin (memory : Memory) : Nat → Value → Except Cause Datum
  | 0, _ => .ok .ellipsis
  | depth + 1, value => memory.snapshotStep (memory.snapshotWithin depth) value

/-- A value as a tree. -/
def snapshot (memory : Memory) (value : Value) : Except Cause Datum :=
  memory.snapshotWithin memory.levels value

end Memory

/-- A value as a tree, which nobody is noted to read. -/
def Observe.snapshot (value : Value) : Observe Datum := do
  match (← get).snapshot value with
  | .ok datum => return datum
  | .error cause => fail cause

namespace Datum

/-- Build a tree up in memory. -/
def build : Datum → Observe Value
  | none => pure .none
  | undefined => pure .undefined
  | missing => pure .missing
  | ellipsis => pure .ellipsis
  | bool b => pure (.bool b)
  | int n => pure (.int n)
  | float x => Observe.ofFloat x
  | complex re im => pure (.complex re im)
  | str s => pure (.str s)
  | tuple items => do return .tuple (← buildAll items)
  | list items => do Observe.newList (← buildAll items)
  | map entries => do Observe.newMap (.ofList (← buildEntries entries))
  | liveList items => do Observe.makeLive (← Observe.newList (← buildAll items))
  | liveMap entries => do
      Observe.makeLive (← Observe.newMap (.ofList (← buildEntries entries)))
  | text content => pure (.text content)
  | node type props children => do
      let type ← build type
      let props ← build props
      let children ← build children
      Observe.newNode type props children
  | function f => pure (.function f)
  | component c => pure (.component c)
  | object attributes => do Observe.newObject (← buildAttributes attributes)
  | incomparable => do return .incomparable (← Observe.newSerial)
  | ref content => do return .ref (← Observe.newRef (← build content))
  | scope id => pure (.scope id)
  | unreadable source => Observe.fail (.badValue source)
  | other typeName => pure (.other typeName)
where
  /-- Build items, one after another. -/
  buildAll : List Datum → Observe (List Value)
    | [] => pure []
    | item :: rest => do
        let value ← build item
        return value :: (← buildAll rest)
  /-- Build entries, whose keys must be able to be keys. -/
  buildEntries : List (Datum × Datum) → Observe (List (Value × Value))
    | [] => pure []
    | (key, item) :: rest => do
        let key ← build key
        let value ← build item
        Observe.checkKey key
        return (key, value) :: (← buildEntries rest)
  /-- Build attributes, one after another. -/
  buildAttributes : List (String × Datum) → Observe (List (String × Value))
    | [] => pure []
    | (name, item) :: rest => do
        let value ← build item
        return (name, value) :: (← buildAttributes rest)

end Datum

end ReactiveSchema
