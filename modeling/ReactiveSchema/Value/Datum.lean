import ReactiveSchema.Value.Basic

/-!
# Closed values

A datum is a value written out as a tree, with nothing shared and nothing that
can change.  Inputs are data, and so is the picture of a value at one moment.
-/

namespace ReactiveSchema

/-- A value written out as a tree. -/
inductive Datum where
  | none
  | undefined
  | missing
  | ellipsis
  | bool (b : Bool)
  | int (n : Int)
  | float (x : Float)
  | complex (re im : Float)
  | str (s : String)
  | tuple (items : List Datum)
  | list (items : List Datum)
  | map (entries : List (Datum × Datum))
  | liveList (items : List Datum)
  | liveMap (entries : List (Datum × Datum))
  | text (content : String)
  | node (type props children : Datum)
  | function (f : DataFunction)
  | component (c : Component)
  | object (attributes : List (String × Datum))
  | incomparable
  | ref (content : Datum)
  | scope (id : ScopeId)
  /-- Text that was to be read as a number and cannot be. -/
  | unreadable (source : String)
  /-- Anything else, by the name of its type. -/
  | other (typeName : String)
  deriving Inhabited

end ReactiveSchema
