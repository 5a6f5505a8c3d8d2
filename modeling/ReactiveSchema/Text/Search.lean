/-!
# Text within text

Where a text first stands in another one, and how often it stands there when
the places may not overlap.  A text stands in another one exactly when the
other one is the text with something before and after it.
-/

namespace ReactiveSchema.Text

/-- The first place at which a text stands in another one. -/
def placeOf? (part : List Char) : List Char → Option Nat
  | [] => if part.isEmpty then some 0 else none
  | c :: rest =>
      if part.isPrefixOf (c :: rest) then some 0 else (placeOf? part rest).map (· + 1)

/-- Does a text stand in another one? -/
def standsIn (part text : List Char) : Bool :=
  (placeOf? part text).isSome

theorem standsIn_iff_infix (part text : List Char) :
    standsIn part text = true ↔ part <:+: text := by
  induction text with
  | nil => cases part <;> simp [standsIn, placeOf?]
  | cons c rest ih =>
      rw [List.infix_cons_iff, ← ih, ← List.isPrefixOf_iff_prefix]
      unfold standsIn
      by_cases first : part.isPrefixOf (c :: rest) = true
      · simp [placeOf?, first]
      · simp [placeOf?, first]

/--
How often a text of the given length stands in another one, once so many
characters are passed over.
-/
def placesAfter (part : List Char) (length : Nat) : Nat → List Char → Nat
  | _, [] => 0
  | skip + 1, _ :: rest => placesAfter part length skip rest
  | 0, c :: rest =>
      if part.isPrefixOf (c :: rest) then placesAfter part length (length - 1) rest + 1
      else placesAfter part length 0 rest

/-- How often a text stands in another one without overlap; the empty text stands
between all characters and at both ends. -/
def occurrences (part text : List Char) : Nat :=
  if part.isEmpty then text.length + 1 else placesAfter part part.length 0 text

theorem placesAfter_le_length (part : List Char) (length skip : Nat) (text : List Char) :
    placesAfter part length skip text ≤ text.length := by
  induction text generalizing skip with
  | nil => cases skip <;> exact Nat.le_refl 0
  | cons c rest ih =>
      cases skip with
      | zero =>
          unfold placesAfter
          split
          · exact Nat.succ_le_succ (ih _)
          · exact Nat.le_succ_of_le (ih _)
      | succ skip => exact Nat.le_succ_of_le (ih skip)

theorem occurrences_le_length (part text : List Char) :
    occurrences part text ≤ text.length + 1 := by
  unfold occurrences
  split
  · exact Nat.le_refl _
  · exact Nat.le_succ_of_le (placesAfter_le_length part part.length 0 text)

end ReactiveSchema.Text
