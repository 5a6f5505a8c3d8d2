/-!
# Packed tables

The character properties of the Unicode standard are long tables of small
numbers.  They are kept here as one text each: numbers in base 36,
separated by blanks and line ends.  A set of code points is a sequence of pairs, the
distance from the end of the previous interval to the start of the next one
and the length of that interval less one.
-/

namespace ReactiveSchema.Text

/-- The value of one base-36 digit; any other character counts as zero. -/
def base36Digit (c : Char) : Nat :=
  if '0' ≤ c ∧ c ≤ '9' then c.toNat - '0'.toNat
  else if 'a' ≤ c ∧ c ≤ 'z' then c.toNat - 'a'.toNat + 10
  else 0

/-- The numbers of a packed text, in the order written. -/
def unpack (packed : String) : List Nat :=
  let step : List Nat × Option Nat → Char → List Nat × Option Nat
    | (done, some current), c =>
        if c.isWhitespace then (current :: done, none)
        else (done, some (current * 36 + base36Digit c))
    | (done, none), c =>
        if c.isWhitespace then (done, none) else (done, some (base36Digit c))
  match packed.toList.foldl step ([], none) with
  | (done, some current) => (current :: done).reverse
  | (done, none) => done.reverse

/-- The rows `key, length, entries` of a table. -/
def rows : List Nat → List (Nat × List Nat)
  | key :: length :: rest => (key, rest.take length) :: rows (rest.drop length)
  | _ => []
termination_by table => table.length
decreasing_by simp only [List.length_drop, List.length_cons]; omega

/-- The entries of the first row with the given key. -/
def rowOf? (table : List (Nat × List Nat)) (key : Nat) : Option (List Nat) :=
  (table.find? fun row => row.1 == key).map (·.2)

/-- A set of code points, as closed intervals in ascending order. -/
structure CodeSet where
  intervals : List (Nat × Nat)

namespace CodeSet

/-- Read intervals from alternating gaps and lengths, starting from `origin`. -/
def ofGaps (origin : Nat) : List Nat → List (Nat × Nat)
  | gap :: length :: rest =>
      (origin + gap, origin + gap + length) ::
        ofGaps (origin + gap + length) rest
  | _ => []

/-- The set written by a packed text. -/
def ofPacked (packed : String) : CodeSet :=
  ⟨ofGaps 0 (unpack packed)⟩

/-- Membership: some interval holds the code point. -/
def contains (set : CodeSet) (code : Nat) : Bool :=
  set.intervals.any fun (low, high) => low ≤ code && code ≤ high

theorem contains_iff (set : CodeSet) (code : Nat) :
    set.contains code = true ↔
      ∃ low high, (low, high) ∈ set.intervals ∧ low ≤ code ∧ code ≤ high := by
  simp [contains]

end CodeSet

end ReactiveSchema.Text
