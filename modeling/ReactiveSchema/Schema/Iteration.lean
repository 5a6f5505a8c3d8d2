import ReactiveSchema.Value.Access
import ReactiveSchema.Number.Read

/-!
# What a loop goes over

A count, given as a number or as text that spells one, gives its indices; a
mapping gives its entries, a sequence its items by index, and anything else
gives nothing.
-/

namespace ReactiveSchema

open ReactiveSchema.Number

/-- The count of a floating point number. -/
def countOfFloat? (x : Float) : Option Nat :=
  (truncate? x).map Int.toNat

/-- The count that a value stands for; truth values and text without a number are none. -/
def Value.count? : Value → Option Nat
  | .int n => some n.toNat
  | .float x => countOfFloat? x
  | .str s => (readFloat? s.toList).bind countOfFloat?
  | _ => Option.none

namespace Observe

/-- Items by index. -/
def indexed (items : List Value) : List (Value × Value) :=
  items.zipIdx.map fun (item, index) => (.int index, item)

/-- The pairs of key and value that a loop goes over. -/
def iterationPairs (values : Value) : Observe (List (Value × Value)) := do
  match values.count? with
  | some count =>
      return (List.range count).map fun (index : Nat) => (.int index, .int index)
  | none =>
      match values with
      | .map _ | .liveMap _ => entriesOf values
      | .tuple _ | .list _ | .liveList _ => return indexed (← iterate values)
      | _ => return []

end Observe

end ReactiveSchema
