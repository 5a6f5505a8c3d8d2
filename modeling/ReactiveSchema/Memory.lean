import ReactiveSchema.Fault
import ReactiveSchema.Value.Datum
import ReactiveSchema.Value.Entries

/-!
# Memory

What containers, cells and nodes hold, and the computations that only look at
it.  Such a computation may make new containers, and live faces of plain ones,
but runs no effect: what it reads is noted, for the effect on whose behalf it
looks.  A fault ends it and keeps the memory as it is.
-/

namespace ReactiveSchema

/-- A live list: the plain list behind it, its tracked state and the faces it has handed out. -/
structure LiveList where
  raw : ListId
  dep : DepId
  /-- Faces of items, by the index they were read at. -/
  children : List (Int × Value)

/-- A live map: the plain map behind it, its tracked state and the faces it has handed out. -/
structure LiveMap where
  raw : MapId
  /-- The tracked state of single keys. -/
  deps : Entries DepId
  /-- The tracked state of the key set. -/
  keysDep : DepId
  /-- Faces of values, by key. -/
  children : Entries Value

/-- A cell: its content and its tracked state. -/
structure RefCell where
  content : Value
  dep : DepId

/-- An element or component node. -/
structure NodeCell where
  type : Value
  props : Value
  children : Value

/-- The state of one evaluation pass: its iteration frames, innermost first. -/
structure EvaluationContext where
  frames : List Value
  /-- The most frames there were at once. -/
  maxDepth : Nat

/-- A pass without frames. -/
def EvaluationContext.fresh : EvaluationContext :=
  ⟨[], 0⟩

/-- A call of a renderer: what it was asked for and with which arguments, as they were then. -/
abbrev RecordedCall := List Datum

/-- What an attribute of a handled thing is. -/
inductive Attribute where
  | plain (value : Value)
  /-- The content of a cell. -/
  | content (cell : RefId)
  /-- Values in a list. -/
  | group (items : List Value)
  | method

/-- What can be seen of a thing that only a program handles. -/
structure Outlook where
  shown : String
  /-- How many things it holds, if it holds any at all. -/
  size : Option Nat
  attributes : List (String × Attribute)

/-- A thing of which nothing but its kind can be seen. -/
def Outlook.unseen (kind : HandleKind) : Outlook :=
  ⟨"<" ++ (Value.handle kind 0).typeName ++ ">", none, []⟩

/-- Memory. -/
structure Memory where
  lists : Array (List Value)
  maps : Array (Entries Value)
  liveLists : Array LiveList
  liveMaps : Array LiveMap
  refs : Array RefCell
  nodes : Array NodeCell
  objects : Array (List (String × Value))
  /-- The calls of recording renderers, newest first. -/
  recordings : Array (List RecordedCall)
  /-- How many pieces of tracked state there are. -/
  depCount : Nat
  /-- How many scopes there are. -/
  scopeCount : Nat
  /-- How many things are told apart by number alone. -/
  serialCount : Nat
  /-- The evaluation pass that is under way. -/
  context : Option EvaluationContext
  /-- The tracked state that was read, newest first. -/
  reads : List DepId
  /-- Log records, newest first. -/
  logs : List String
  /-- Are messages coloured? -/
  colors : Bool
  /-- How often what compares, shows or walks a value may go down into it. -/
  recursionLimit : Nat
  /-- What can be seen of handled things. -/
  outlook : HandleKind → Nat → Outlook

namespace Memory

/-- Memory at the start. -/
def empty : Memory where
  lists := #[]
  maps := #[]
  liveLists := #[]
  liveMaps := #[]
  refs := #[]
  nodes := #[]
  objects := #[]
  recordings := #[]
  depCount := 0
  scopeCount := 0
  serialCount := 0
  context := none
  reads := []
  logs := []
  colors := false
  recursionLimit := 1000
  outlook kind _ := .unseen kind

/-- The items of a plain list. -/
def listAt (memory : Memory) (id : ListId) : List Value :=
  memory.lists[id]?.getD []

/-- The entries of a plain map. -/
def mapAt (memory : Memory) (id : MapId) : Entries Value :=
  memory.maps[id]?.getD []

/-- A live list. -/
def liveListAt (memory : Memory) (id : LiveListId) : LiveList :=
  memory.liveLists[id]?.getD ⟨0, 0, []⟩

/-- A live map. -/
def liveMapAt (memory : Memory) (id : LiveMapId) : LiveMap :=
  memory.liveMaps[id]?.getD ⟨0, [], 0, []⟩

/-- The plain list behind a live one. -/
def rawList (memory : Memory) (id : LiveListId) : ListId :=
  (memory.liveListAt id).raw

/-- The plain map behind a live one. -/
def rawMap (memory : Memory) (id : LiveMapId) : MapId :=
  (memory.liveMapAt id).raw

/-- The content of a cell. -/
def refAt (memory : Memory) (id : RefId) : Value :=
  (memory.refs[id]?.map (·.content)).getD .none

/-- A node. -/
def nodeAt (memory : Memory) (id : NodeId) : NodeCell :=
  memory.nodes[id]?.getD ⟨.none, .none, .none⟩

/-- The attributes of an object. -/
def objectAt (memory : Memory) (id : ObjectId) : List (String × Value) :=
  memory.objects[id]?.getD []

/-- The plain container behind a live one; other values are themselves. -/
def toRaw (memory : Memory) : Value → Value
  | .liveList id => .list (memory.rawList id)
  | .liveMap id => .map (memory.rawMap id)
  | value => value

/-- Is a value the live face of a plain container? -/
def isFaceOf (memory : Memory) : Value → Value → Bool
  | .liveList id, .list raw => memory.liveLists[id]?.any (·.raw == raw)
  | .liveMap id, .map raw => memory.liveMaps[id]?.any (·.raw == raw)
  | _, _ => false

/--
More than the deepest way through containers that returns to none: a bound for
everything that takes a schema or a tree of nodes apart.
-/
def depth (memory : Memory) : Nat :=
  memory.lists.size + memory.maps.size + memory.liveLists.size + memory.liveMaps.size +
    memory.refs.size + memory.nodes.size + memory.objects.size + 1

/--
How many levels of a value are compared, shown and walked.  Whoever follows a value that
holds itself is exhausted there.
-/
def levels (memory : Memory) : Nat :=
  memory.recursionLimit + 1

end Memory

/-- A computation that looks at memory. -/
abbrev Observe := ExceptT Fault (StateM Memory)

namespace Observe

variable {α : Type}

/-- Fail for an ordinary cause. -/
def fail (cause : Cause) : Observe α :=
  throw (.failure cause)

/-- Note that a piece of tracked state was read. -/
def track (dep : DepId) : Observe Unit :=
  modify fun memory => { memory with reads := dep :: memory.reads }

/-- A new piece of tracked state. -/
def newDep : Observe DepId :=
  modifyGet fun memory =>
    (memory.depCount, { memory with depCount := memory.depCount + 1 })

/-- A new serial number. -/
def newSerial : Observe Nat :=
  modifyGet fun memory =>
    (memory.serialCount, { memory with serialCount := memory.serialCount + 1 })

/-- A new scope. -/
def newScope (label : String) : Observe ScopeId :=
  modifyGet fun memory =>
    (⟨memory.scopeCount + 1, label⟩, { memory with scopeCount := memory.scopeCount + 1 })

/-- A new plain list. -/
def newList (items : List Value) : Observe Value :=
  modifyGet fun memory =>
    (.list memory.lists.size, { memory with lists := memory.lists.push items })

/-- The place of a new plain map. -/
def newMapId (entries : Entries Value) : Observe MapId :=
  modifyGet fun memory =>
    (memory.maps.size, { memory with maps := memory.maps.push entries })

/-- A new plain map. -/
def newMap (entries : Entries Value) : Observe Value := do
  return .map (← newMapId entries)

/-- A new node. -/
def newNode (type props children : Value) : Observe Value :=
  modifyGet fun memory =>
    (.node memory.nodes.size,
      { memory with nodes := memory.nodes.push ⟨type, props, children⟩ })

/-- Attributes with one more written; a known name keeps its place. -/
def writeAttribute (name : String) (value : Value) :
    List (String × Value) → List (String × Value)
  | [] => [(name, value)]
  | (known, old) :: rest =>
      if known = name then (known, value) :: rest
      else (known, old) :: writeAttribute name value rest

/-- A new object, its attributes written one after another. -/
def newObject (attributes : List (String × Value)) : Observe Value :=
  let written := attributes.foldl (fun known (name, value) =>
    writeAttribute name value known) []
  modifyGet fun memory =>
    (.object memory.objects.size, { memory with objects := memory.objects.push written })

/-- A new cell. -/
def newRef (content : Value) : Observe RefId := do
  let dep ← newDep
  modifyGet fun memory =>
    (memory.refs.size, { memory with refs := memory.refs.push ⟨content, dep⟩ })

/-- The live face of a plain list. -/
def newLiveList (raw : ListId) : Observe Value := do
  let dep ← newDep
  modifyGet fun memory =>
    (.liveList memory.liveLists.size,
      { memory with liveLists := memory.liveLists.push ⟨raw, dep, []⟩ })

/-- The place of a new live face of a plain map. -/
def newLiveMapId (raw : MapId) : Observe LiveMapId := do
  let keysDep ← newDep
  modifyGet fun memory =>
    (memory.liveMaps.size,
      { memory with liveMaps := memory.liveMaps.push ⟨raw, [], keysDep, []⟩ })

/-- The live face of a plain map. -/
def newLiveMap (raw : MapId) : Observe Value := do
  return .liveMap (← newLiveMapId raw)

/-- The live face of a plain container; other values are themselves. -/
def makeLive : Value → Observe Value
  | .list id => newLiveList id
  | .map id => newLiveMap id
  | value => pure value

/-- The value of a floating point result. -/
def ofFloat (x : Float) : Observe Value :=
  if x.isNaN then do return .nan (← newSerial) else pure (.float x)

/-- The value of a number. -/
def ofNum : Number.Num → Observe Value
  | .int n => pure (.int n)
  | .float x => ofFloat x
  | .complex re im => pure (.complex re im)

/-- Write a log record. -/
def log (record : String) : Observe Unit :=
  modify fun memory => { memory with logs := record :: memory.logs }

/-- Replace the items of a plain list. -/
def setList (id : ListId) (items : List Value) : Observe Unit :=
  modify fun memory => { memory with lists := memory.lists.setIfInBounds id items }

/-- Replace the entries of a plain map. -/
def setMap (id : MapId) (entries : Entries Value) : Observe Unit :=
  modify fun memory => { memory with maps := memory.maps.setIfInBounds id entries }

/-- Change a live list. -/
def modifyLiveList (id : LiveListId) (change : LiveList → LiveList) : Observe Unit :=
  modify fun memory => { memory with liveLists := memory.liveLists.modify id change }

/-- Change a live map. -/
def modifyLiveMap (id : LiveMapId) (change : LiveMap → LiveMap) : Observe Unit :=
  modify fun memory => { memory with liveMaps := memory.liveMaps.modify id change }

/-- Replace the content of a cell. -/
def setRef (id : RefId) (content : Value) : Observe Unit :=
  modify fun memory =>
    { memory with refs := memory.refs.modify id fun cell => { cell with content } }

/-- Refuse a value that cannot be a key. -/
def checkKey (key : Value) : Observe Unit :=
  if key.isHashable then pure () else fail (.unhashable key.typeName)

end Observe

end ReactiveSchema
