import ReactiveSchema.Proofs.Act.Along
import ReactiveSchema.Script.Containers

/-!
# Operations on lists

What the operations on a list come to, stated on its items: what is given and which items are
left, or nothing if the operation fails.  The changes of a plain list come to just that.
-/

namespace ReactiveSchema

open Observe (placeOf? isCountable)

/-! ## Operations and what they come to -/

/-- What a list is given: values in order, or its own items. -/
inductive Supply where
  | values (given : List Value)
  | itself

/-- The value of a bound of a slice. -/
def boundValue : Option Int → Value
  | none => .none
  | some n => .int n

/-- An operation on a list. -/
inductive ListOperation where
  | get (index : Int)
  | getSlice (start stop step : Option Int)
  | set (index : Int) (value : Value)
  | setSlice (start stop : Option Int) (supply : Supply)
  | delete (index : Int)
  | deleteSlice (start stop : Option Int)
  | insert (index : Int) (value : Value)
  | append (value : Value)
  | extend (supply : Supply)
  | pop (index : Int)
  | reverse
  | clear
  | length
  | iterate

namespace Supply

/-- The value that is given to a list. -/
def value (container : Value) : Supply → Value
  | values given => .tuple given
  | itself => container

/-- The values that a list of items is given. -/
def given (items : List Value) : Supply → List Value
  | values given => given
  | itself => items

/-- Are no values given that are live? -/
def IsPlain : Supply → Prop
  | values given => ∀ value ∈ given, value.isLive = false
  | itself => True

end Supply

namespace ListOperation

/-- Carry an operation out on a plain or live list; it gives values. -/
def perform (runner : Runner) (container : Value) : ListOperation → Act (List Value)
  | get index => do return [← Act.observe (Observe.getItem container (.int index))]
  | getSlice start stop step => Act.observe do
      Observe.iterate (← Observe.getSlice container (boundValue start) (boundValue stop)
        (boundValue step))
  | set index value => do
      Act.setItem runner container (.int index) value
      return []
  | setSlice start stop supply => do
      Act.setSlice runner container (boundValue start) (boundValue stop) (supply.value container)
      return []
  | delete index => do
      Act.deleteItem runner container (.int index)
      return []
  | deleteSlice start stop => do
      Act.deleteSlice runner container (boundValue start) (boundValue stop)
      return []
  | insert index value => do
      Act.insertItem runner container (.int index) value
      return []
  | append value => do
      Act.append runner container value
      return []
  | extend supply => do
      Act.extend runner container (supply.value container)
      return []
  | pop index => do return [← Act.popItem runner container (some (.int index)) none]
  | reverse => do
      Act.reverseItems runner container
      return []
  | clear => do
      Act.clear runner container
      return []
  | length => do return [.int (← Act.observe (Observe.lengthOf container))]
  | iterate => Act.observe (Observe.iterate container)

/-- What an operation leaves of items and gives, unless it fails. -/
def onItems (items : List Value) : ListOperation → Option (List Value × List Value)
  | get index => (placeOf? items.length index).bind fun place =>
      (items[place]?).map fun value => (items, [value])
  | getSlice start stop step =>
      if step = some 0 then none
      else some (items,
        (slicePlaces items.length start stop (step.getD 1)).filterMap (items[·]?))
  | set index value =>
      ((placeOf? items.length index).map fun place => items.set place value).map (·, [])
  | setSlice start stop supply => some (replaceSlice items start stop (supply.given items), [])
  | delete index => ((placeOf? items.length index).map items.eraseIdx).map (·, [])
  | deleteSlice start stop => some (replaceSlice items start stop [], [])
  | insert index value =>
      (if isCountable index then some (insertItem items index value) else none).map (·, [])
  | append value => some (items ++ [value], [])
  | extend supply => some (items ++ supply.given items, [])
  | pop index => (placeOf? items.length index).bind fun place =>
      (items[place]?).map fun value => (items.eraseIdx place, [value])
  | reverse => some (items.reverse, [])
  | clear => some ([], [])
  | length => some (items, [.int items.length])
  | iterate => some (items, items)

/-- Are no values given that are live? -/
def IsPlain : ListOperation → Prop
  | set _ value => value.isLive = false
  | setSlice _ _ supply => supply.IsPlain
  | insert _ value => value.isLive = false
  | append value => value.isLive = false
  | extend supply => supply.IsPlain
  | _ => True

/-- Can items be counted, and few enough of them be removed one by one? -/
def Fits (limit : Nat) (items : List Value) (operation : ListOperation) : Prop :=
  isCountable items.length = true ∧ (operation = .clear → items.length < limit)

end ListOperation

/-! ## Rewriting a plain list -/

/-- Memory with other items of a plain list. -/
def Memory.withItems (memory : Memory) (raw : ListId) (items : List Value) : Memory :=
  { memory with lists := memory.lists.setIfInBounds raw items }

namespace Observe

variable {α : Type} {raw : ListId} {items : List Value}

/-- A computation changes the items of a plain list and nothing else, or fails. -/
def Rewrites (raw : ListId) (items : List Value) (look : Observe Unit) :
    Option (List Value) → Prop
  | some later => ∀ memory : Memory, memory.lists[raw]? = some items →
      look.run memory = (.ok (), memory.withItems raw later)
  | none => ∀ memory : Memory, memory.lists[raw]? = some items →
      ∃ cause, look.run memory = (.error (.failure cause), memory)

theorem listAt_of_holds {memory : Memory} (holds : memory.lists[raw]? = some items) :
    memory.listAt raw = items := by
  rw [Memory.listAt, holds, Option.getD_some]

theorem run_placeOf (what : String) (length : Nat) (index : Int) (memory : Memory) :
    (placeOf what length (.int index)).run memory =
      match placeOf? length index with
      | some place => (.ok place, memory)
      | none => (.error (.failure (.outOfRange what)), memory) := by
  unfold placeOf
  rw [show indexOf "list" (.int index) = pure index from rfl, pure_bind]
  cases placeOf? length index <;> rfl

theorem rewrites_listSet (index : Int) (value : Value) :
    Rewrites raw items (listSet raw (.int index) value)
      ((placeOf? items.length index).map fun place => items.set place value) := by
  cases place : placeOf? items.length index
  all_goals
    intro memory holds
    unfold listSet
    rw [run_bind, run_get]
    dsimp only
    rw [listAt_of_holds holds, run_bind, run_placeOf, place]
  case some => rfl
  case none => exact ⟨_, rfl⟩

theorem rewrites_listDelete (index : Int) :
    Rewrites raw items (listDelete raw (.int index))
      ((placeOf? items.length index).map items.eraseIdx) := by
  cases place : placeOf? items.length index
  all_goals
    intro memory holds
    unfold listDelete
    rw [run_bind, run_get]
    dsimp only
    rw [listAt_of_holds holds, run_bind, run_placeOf, place]
  case some => rfl
  case none => exact ⟨_, rfl⟩

theorem rewrites_listInsert (index : Int) (value : Value) :
    Rewrites raw items (listInsert raw (.int index) value)
      (if isCountable index then some (insertItem items index value) else none) := by
  unfold listInsert positionOf
  dsimp only [Value.index?]
  split
  case isTrue =>
    intro memory holds
    rw [pure_bind, run_bind, run_get]
    dsimp only
    rw [listAt_of_holds holds]
    rfl
  case isFalse => exact fun memory _ => ⟨_, rfl⟩

theorem rewrites_listExtend (added : List Value) :
    Rewrites raw items (listExtend raw added) (some (items ++ added)) := by
  intro memory holds
  unfold listExtend
  rw [run_bind, run_get]
  dsimp only
  rw [listAt_of_holds holds]
  rfl

theorem run_sliceBound (bound : Option Int) (memory : Memory) :
    (sliceBound (boundValue bound)).run memory = (.ok bound, memory) := by
  cases bound <;> rfl

theorem rewrites_listSetSlice (start stop : Option Int) (added : List Value) :
    Rewrites raw items (listSetSlice raw (boundValue start) (boundValue stop) added)
      (some (replaceSlice items start stop added)) := by
  intro memory holds
  unfold listSetSlice
  rw [run_bind_of_ok (run_sliceBound start memory), run_bind_of_ok (run_sliceBound stop memory),
    run_bind, run_get]
  dsimp only
  rw [listAt_of_holds holds]
  rfl

theorem rewrites_setList {change : List Value → List Value} :
    Rewrites raw items (do setList raw (change ((← get).listAt raw))) (some (change items)) := by
  intro memory holds
  rw [run_bind, run_get]
  dsimp only
  rw [listAt_of_holds holds]
  rfl

theorem run_listPop {memory : Memory} (holds : memory.lists[raw]? = some items) (index : Int) :
    (listPop raw (.int index)).run memory =
      if isCountable index then
        match placeOf? items.length index with
        | some place =>
            (.ok (items[place]?.getD .none), memory.withItems raw (items.eraseIdx place))
        | none => (.error (.failure (.outOfRange "pop")), memory)
      else (.error (.failure .countOutOfRange), memory) := by
  unfold listPop positionOf
  dsimp only [Value.index?]
  split
  case isTrue =>
    rw [pure_bind, run_bind, run_get]
    dsimp only
    rw [listAt_of_holds holds]
    cases placeOf? items.length index <;> rfl
  case isFalse => rfl

/-- Where items can be counted, an index that is none cannot be among them. -/
theorem placeOf?_of_not_isCountable {length : Nat} {index : Int}
    (few : isCountable length = true) (beyond : ¬ isCountable index = true) :
    placeOf? length index = none := by
  have power : (Int.ofNat (Nat.pow 2 63)) = 9223372036854775808 := by rfl
  unfold isCountable at few beyond
  rw [power] at few beyond
  unfold placeOf?
  grind

end Observe

end ReactiveSchema
