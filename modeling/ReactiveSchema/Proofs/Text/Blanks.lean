import Mathlib.Data.List.TakeWhile
import ReactiveSchema.Text.Letter

/-!
# Blanks at the ends of a text

A text without the blanks at its ends starts and ends with no blank, and it is what is left
of itself whatever blanks are put around it.  No blank is a letter or a numeral of any script.
-/

namespace ReactiveSchema.Text

/-! ## Blanks in the tables -/

/-- `unpack` on characters. -/
def unpackChars (packed : List Char) : List Nat :=
  let step : List Nat × Option Nat → Char → List Nat × Option Nat
    | (done, some current), c =>
        if c.isWhitespace then (current :: done, none)
        else (done, some (current * 36 + base36Digit c))
    | (done, none), c =>
        if c.isWhitespace then (done, none) else (done, some (base36Digit c))
  match packed.foldl step ([], none) with
  | (done, some current) => (current :: done).reverse
  | (done, none) => done.reverse

/-- A set by the characters of its text, which a literal gives without decoding it. -/
theorem ofPacked_eq (packed : String) :
    CodeSet.ofPacked packed = ⟨CodeSet.ofGaps 0 (unpackChars packed.toList)⟩ := rfl

/-- The codes of the blanks outside ASCII. -/
def foreignBlanks : List Nat :=
  [0x85, 0xa0, 0x1680, 0x2000, 0x2001, 0x2002, 0x2003, 0x2004, 0x2005, 0x2006, 0x2007, 0x2008,
    0x2009, 0x200a, 0x2028, 0x2029, 0x202f, 0x205f, 0x3000]

theorem mem_foreignBlanks {c : Char} (blank : isBlank c = true) (foreign : 128 ≤ c.toNat) :
    c.toNat ∈ foreignBlanks := by
  simp only [isBlank, Bool.or_eq_true, Bool.and_eq_true, decide_eq_true_eq, beq_iff_eq] at blank
  simp only [foreignBlanks, List.mem_cons, List.not_mem_nil, or_false]
  omega

theorem letterTable_foreignBlanks : ∀ n ∈ foreignBlanks, letterTable.contains n = false := by
  unfold letterTable
  rw [ofPacked_eq, show String.toList _ = _ from String.toList_ofList]
  decide +kernel

theorem numeralTable_foreignBlanks : ∀ n ∈ foreignBlanks, numeralTable.contains n = false := by
  unfold numeralTable
  rw [ofPacked_eq, show String.toList _ = _ from String.toList_ofList]
  decide +kernel

theorem lt_toNat_of_isAsciiLetter {c : Char} (letter : isAsciiLetter c = true) :
    32 < c.toNat := by
  simp only [isAsciiLetter, Bool.or_eq_true, Bool.and_eq_true, decide_eq_true_eq, Char.le_def,
    UInt32.le_iff_toNat_le] at letter
  rcases letter with within | within
  · change 97 ≤ c.toNat ∧ _ at within
    omega
  · change 65 ≤ c.toNat ∧ _ at within
    omega

theorem lt_toNat_of_isAsciiDigit {c : Char} (digit : isAsciiDigit c = true) :
    32 < c.toNat := by
  simp only [isAsciiDigit, Bool.and_eq_true, decide_eq_true_eq, Char.le_def,
    UInt32.le_iff_toNat_le] at digit
  change 48 ≤ c.toNat ∧ _ at digit
  omega

theorem toNat_le_of_isBlank {c : Char} (blank : isBlank c = true) (plain : c.toNat < 128) :
    c.toNat ≤ 32 := by
  simp only [isBlank, Bool.or_eq_true, Bool.and_eq_true, decide_eq_true_eq, beq_iff_eq] at blank
  omega

theorem isLetterOrNumeral_of_isBlank {c : Char} (blank : isBlank c = true) :
    isLetterOrNumeral c = false := by
  unfold isLetterOrNumeral
  split
  case isTrue plain =>
    have low := toNat_le_of_isBlank blank plain
    rw [Bool.or_eq_false_iff]
    refine ⟨Bool.eq_false_iff.mpr fun letter => ?_, Bool.eq_false_iff.mpr fun digit => ?_⟩
    · exact absurd (lt_toNat_of_isAsciiLetter letter) (by omega)
    · exact absurd (lt_toNat_of_isAsciiDigit digit) (by omega)
  case isFalse foreign =>
    have known := mem_foreignBlanks blank (by omega)
    rw [letterTable_foreignBlanks _ known, numeralTable_foreignBlanks _ known]
    rfl

/-! ## Trimming -/

theorem dropWhile_append_of_head? {p : Char → Bool} {run rest : List Char}
    (accepted : ∀ c ∈ run, p c = true) (starts : ∀ c ∈ rest.head?, p c = false) :
    (run ++ rest).dropWhile p = rest := by
  rw [List.dropWhile_append_of_pos accepted]
  cases rest with
  | nil => rfl
  | cons c rest => exact List.dropWhile_cons_of_neg (by rw [starts c rfl]; exact Bool.false_ne_true)

/-- A text is what is left of itself, whatever blanks are put around it. -/
theorem trimBlanks_append {lead inner trail : List Char} (before : ∀ c ∈ lead, isBlank c = true)
    (after : ∀ c ∈ trail, isBlank c = true) (starts : ∀ c ∈ inner.head?, isBlank c = false)
    (ends : ∀ c ∈ inner.getLast?, isBlank c = false) :
    trimBlanks (lead ++ (inner ++ trail)) = inner := by
  have turned : ∀ c ∈ trail.reverse, isBlank c = true := fun c known =>
    after c (List.mem_reverse.mp known)
  unfold trimBlanks
  cases inner with
  | nil =>
      have blank : ∀ c ∈ lead ++ ([] ++ trail), isBlank c = true := by
        intro c known
        rcases List.mem_append.mp known with known | known
        · exact before c known
        · exact after c known
      rw [List.dropWhile_eq_nil_iff.mpr blank]
      rfl
  | cons first inner =>
      have opened : (lead ++ (first :: inner ++ trail)).dropWhile isBlank =
          first :: inner ++ trail := dropWhile_append_of_head? before starts
      rw [← List.head?_reverse] at ends
      rw [opened, List.reverse_append, dropWhile_append_of_head? turned ends, List.reverse_reverse]

/-- The blanks that a text starts with. -/
def leadingBlanks (text : List Char) : List Char :=
  text.takeWhile isBlank

/-- The blanks that a text ends with, without those that it starts with. -/
def trailingBlanks (text : List Char) : List Char :=
  ((text.dropWhile isBlank).reverse.takeWhile isBlank).reverse

theorem isBlank_of_mem_leadingBlanks {text : List Char} {c : Char}
    (known : c ∈ leadingBlanks text) : isBlank c = true :=
  List.mem_takeWhile_imp known

theorem isBlank_of_mem_trailingBlanks {text : List Char} {c : Char}
    (known : c ∈ trailingBlanks text) : isBlank c = true :=
  List.mem_takeWhile_imp (List.mem_reverse.mp known)

/-- What starts a run that is dropped is refused. -/
theorem head?_dropWhile_false {p : Char → Bool} (text : List Char) :
    ∀ c ∈ (text.dropWhile p).head?, p c = false := by
  intro c first
  have nonempty : text.dropWhile p ≠ [] := by
    intro empty
    rw [empty] at first
    cases first
  have refused := List.head_dropWhile_not p nonempty
  rw [List.head?_eq_some_head nonempty] at first
  cases first
  exact refused

theorem getLast?_trimBlanks (text : List Char) :
    ∀ c ∈ (trimBlanks text).getLast?, isBlank c = false := by
  unfold trimBlanks
  rw [List.getLast?_reverse]
  exact head?_dropWhile_false _

theorem head?_trimBlanks (text : List Char) :
    ∀ c ∈ (trimBlanks text).head?, isBlank c = false := by
  have whole : trimBlanks text ++ trailingBlanks text = text.dropWhile isBlank := by
    unfold trimBlanks trailingBlanks
    rw [← List.reverse_append, List.takeWhile_append_dropWhile, List.reverse_reverse]
  intro c first
  apply head?_dropWhile_false text
  rw [← whole]
  cases same : trimBlanks text with
  | nil => rw [same] at first; cases first
  | cons d rest => rw [same] at first; exact first

end ReactiveSchema.Text
