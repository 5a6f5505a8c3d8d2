import ReactiveSchema.Value.Basic

/-!
# Entries in insertion order

A map keeps its entries in the order in which their keys first came.  Writing
a known key keeps its place and the key object that came first; a key that was
erased and comes again goes to the end.
-/

namespace ReactiveSchema

/-- Entries of a map, oldest first; keys are told apart by `Value.sameKey`. -/
abbrev Entries (α : Type) := List (Value × α)

namespace Entries

variable {α : Type}

/-- The entry of a key. -/
def find? : Entries α → Value → Option α
  | [], _ => none
  | (k, v) :: rest, key => if k.sameKey key then some v else find? rest key

/-- Does the key have an entry? -/
def contains (entries : Entries α) (key : Value) : Bool :=
  (entries.find? key).isSome

/-- Write an entry. -/
def insert : Entries α → Value → α → Entries α
  | [], key, value => [(key, value)]
  | (k, v) :: rest, key, value =>
      if k.sameKey key then (k, value) :: rest else (k, v) :: insert rest key value

/-- Remove the entry of a key. -/
def erase (entries : Entries α) (key : Value) : Entries α :=
  entries.filter fun entry => !entry.1.sameKey key

/-- The keys, oldest first. -/
def keys (entries : Entries α) : List Value :=
  entries.map Prod.fst

/-- The values, in the order of their keys. -/
def values (entries : Entries α) : List α :=
  entries.map Prod.snd

/-- Write entries one after another. -/
def insertAll (entries : Entries α) (added : List (Value × α)) : Entries α :=
  added.foldl (fun entries entry => entries.insert entry.1 entry.2) entries

/-- Entries written from nothing. -/
def ofList (added : List (Value × α)) : Entries α :=
  insertAll [] added

theorem length_insert_of_contains (entries : Entries α) (key : Value) (value : α)
    (h : entries.contains key = true) :
    (entries.insert key value).length = entries.length := by
  induction entries with
  | nil => simp [contains, find?] at h
  | cons entry rest ih =>
      obtain ⟨k, v⟩ := entry
      by_cases same : k.sameKey key = true
      · simp [insert, same]
      · have inner : Entries.contains rest key = true := by
          simpa [contains, find?, same] using h
        simp [insert, same, ih inner]

theorem keys_insert_of_not_contains (entries : Entries α) (key : Value) (value : α)
    (h : entries.contains key = false) :
    (entries.insert key value).keys = entries.keys ++ [key] := by
  induction entries with
  | nil => rfl
  | cons entry rest ih =>
      obtain ⟨k, v⟩ := entry
      by_cases same : k.sameKey key = true
      · simp [contains, find?, same] at h
      · have inner : Entries.contains rest key = false := by
          simpa [contains, find?, same] using h
        have tail := ih inner
        simp only [keys] at tail ⊢
        simp [insert, same, tail]

end Entries

end ReactiveSchema
