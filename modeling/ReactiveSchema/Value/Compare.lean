import ReactiveSchema.Reactive.Live
import ReactiveSchema.Text.Surrogate

/-!
# Comparing values

Numbers compare by value across kinds, containers by their contents, and
inside containers a value equals itself whatever it is.  Live maps compare
with maps of both faces, and are read key by key for it; live lists and
objects only equal themselves.
-/

namespace ReactiveSchema.Observe

/-! ## Equality -/

/-- Equality inside a container: the same thing, or equal. -/
def sameOr (equal : Value → Value → Observe Bool) (a b : Value) : Observe Bool :=
  if a.identical b then pure true else equal a b

/-- Equality of two lists of one length, item by item up to the first difference. -/
def allSame (equal : Value → Value → Observe Bool) : List Value → List Value → Observe Bool
  | x :: xs, y :: ys => do
      if ← sameOr equal x y then allSame equal xs ys else return false
  | _, _ => pure true

/-- Equality of entries: the same keys, and the values of each key alike. -/
def sameEntries (equal : Value → Value → Observe Bool) (left right : Entries Value) :
    Observe Bool :=
  if left.length != right.length then pure false
  else each left
where
  /-- Does each entry have its like on the right? -/
  each : Entries Value → Observe Bool
    | [] => pure true
    | (key, value) :: rest =>
        match right.find? key with
        | none => pure false
        | some other => do
            if ← sameOr equal value other then each rest else return false

/-- The entries of a map of either face, as reading them gives them. -/
def readEntries (value : Value) : Observe (Entries Value) := do
  match value with
  | .map id => return (← get).mapAt id
  | .liveMap id => liveMapItems id
  | _ => return []

/-- Equality, given how the contents of containers compare. -/
def equalStep (deeper : Value → Value → Observe Bool) : Value → Value → Observe Bool
  | .incomparable _, _ => fail .notComparable
  | _, .incomparable _ => fail .notComparable
  | .tuple xs, .tuple ys => do
      if ← equalTuples deeper xs ys then return xs.length == ys.length else return false
  | .list a, .list b => do
      let memory ← get
      let left := memory.listAt a
      let right := memory.listAt b
      if left.length != right.length then return false
      else allSame deeper left right
  | .map a, .map b => do
      let memory ← get
      sameEntries deeper (memory.mapAt a) (memory.mapAt b)
  | .node a, .node b => do
      let memory ← get
      let left := memory.nodeAt a
      let right := memory.nodeAt b
      allSame deeper [left.type, left.props, left.children]
        [right.type, right.props, right.children]
  | a, b => do
      if (a.isMapping && b.isMapping) then
        let left ← readEntries a
        let right ← readEntries b
        sameEntries deeper left right
      else
        match a.num?, b.num? with
        | some m, some n => return m.eq n
        | _, _ => return a.identical b
where
  /-- Equality of the common part of two tuples. -/
  equalTuples (deeper : Value → Value → Observe Bool) :
      List Value → List Value → Observe Bool
    | x :: xs, y :: ys => do
        if x.identical y then equalTuples deeper xs ys
        else if ← equalStep deeper x y then equalTuples deeper xs ys
        else return false
    | _, _ => pure true

/-- Equality of values that are at most so deep. -/
def equalWithin : Nat → Value → Value → Observe Bool
  | 0, _, _ => throw .exhausted
  | depth + 1, a, b => equalStep (equalWithin depth) a b

/-- Equality. -/
def equal (a b : Value) : Observe Bool := do
  equalWithin (← get).levels a b

/-- Membership in a sequence of values. -/
def isAmong (value : Value) : List Value → Observe Bool
  | [] => pure false
  | item :: rest => do
      if ← sameOr equal item value then return true else isAmong value rest

/-! ## Order -/

/-- The four order tests. -/
inductive OrderTest where
  | lt
  | le
  | gt
  | ge
  deriving DecidableEq

namespace OrderTest

/-- Does an order pass the test? -/
def accepts : OrderTest → Ordering → Bool
  | lt, .lt => true
  | le, .lt => true
  | le, .eq => true
  | gt, .gt => true
  | ge, .gt => true
  | ge, .eq => true
  | _, _ => false

end OrderTest

/-- The order of two texts, by the codes of their characters. -/
def compareChars : List Char → List Char → Ordering
  | [], [] => .eq
  | [], _ :: _ => .lt
  | _ :: _, [] => .gt
  | x :: xs, y :: ys =>
      match compare (Text.codeOf x) (Text.codeOf y) with
      | .eq => compareChars xs ys
      | order => order

/--
An order test, given how the contents of lists are ordered; no answer where
the values have no order.  Lists and tuples are decided by the first place
where they differ, or by their lengths.
-/
def orderStep (test : OrderTest) (deeper : Value → Value → Observe (Option Bool)) :
    Value → Value → Observe (Option Bool)
  | .str s, .str t => pure (some (test.accepts (compareChars s.toList t.toList)))
  | .tuple xs, .tuple ys => orderTuples test deeper (compare xs.length ys.length) xs ys
  | .list i, .list j => do
      let memory ← get
      let left := memory.listAt i
      let right := memory.listAt j
      orderLists test deeper (compare left.length right.length) left right
  | a, b =>
      match a.num?, b.num? with
      | some m, some n =>
          if m.isComplex || n.isComplex then pure none
          else pure (some ((m.order? n).any test.accepts))
      | _, _ => pure none
where
  /-- The order of two tuples whose lengths compare as given. -/
  orderTuples (test : OrderTest) (deeper : Value → Value → Observe (Option Bool))
      (lengths : Ordering) : List Value → List Value → Observe (Option Bool)
    | x :: xs, y :: ys => do
        if ← sameOr equal x y then orderTuples test deeper lengths xs ys
        else orderStep test deeper x y
    | _, _ => pure (some (test.accepts lengths))
  /-- The order of two lists whose lengths compare as given. -/
  orderLists (test : OrderTest) (deeper : Value → Value → Observe (Option Bool))
      (lengths : Ordering) : List Value → List Value → Observe (Option Bool)
    | x :: xs, y :: ys => do
        if ← sameOr equal x y then orderLists test deeper lengths xs ys
        else deeper x y
    | _, _ => pure (some (test.accepts lengths))

/-- An order test of values that are at most so deep. -/
def orderWithin (test : OrderTest) : Nat → Value → Value → Observe (Option Bool)
  | 0, _, _ => throw .exhausted
  | depth + 1, a, b => orderStep test (orderWithin test depth) a b

/-- An order test; values without an order fail it. -/
def inOrder (test : OrderTest) (a b : Value) : Observe Bool := do
  return (← orderWithin test (← get).levels a b).getD false

end ReactiveSchema.Observe
