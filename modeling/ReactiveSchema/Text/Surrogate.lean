/-!
# Lone surrogates

A text may hold halves of a surrogate pair that stand alone, which are codes
but no characters.  Each of them is carried by a private character of its own,
from the end of the last plane.  The order of texts and the escapes in quoted
text go by the code that a character carries.
-/

namespace ReactiveSchema.Text

/-- The first private character that carries a lone surrogate. -/
def firstCarrier : Nat := 0x10f800

/-- The code that a character carries: its own, or that of a lone surrogate. -/
def codeOf (c : Char) : Nat :=
  if firstCarrier ≤ c.toNat then c.toNat - firstCarrier + 0xd800 else c.toNat

/-- Is this the code of a lone surrogate? -/
def isSurrogate (code : Nat) : Bool :=
  0xd800 ≤ code && code < 0xe000

/-- The character that carries a code. -/
def charOfCode (code : Nat) : Char :=
  if isSurrogate code then Char.ofNat (firstCarrier + (code - 0xd800)) else Char.ofNat code

/-- Does a character carry a lone surrogate? -/
def carriesSurrogate (c : Char) : Bool :=
  isSurrogate (codeOf c)

theorem toNat_ofNat {n : Nat} (h : n.isValidChar) : (Char.ofNat n).toNat = n := by
  rw [Char.ofNat, dif_pos h]
  rfl

theorem codeOf_charOfCode {code : Nat} (h : code < firstCarrier) :
    codeOf (charOfCode code) = code := by
  simp only [firstCarrier] at h
  cases surrogate : isSurrogate code with
  | false =>
      simp only [isSurrogate, Bool.and_eq_false_iff, decide_eq_false_iff_not] at surrogate
      have valid : code.isValidChar := by
        simp only [Nat.isValidChar]
        omega
      have low : ¬ firstCarrier ≤ code := by simp only [firstCarrier]; omega
      have same : isSurrogate code = false := by
        simp only [isSurrogate, Bool.and_eq_false_iff, decide_eq_false_iff_not]
        exact surrogate
      simp [charOfCode, same, codeOf, toNat_ofNat valid, low]
  | true =>
      simp only [isSurrogate, Bool.and_eq_true, decide_eq_true_eq] at surrogate
      have valid : (firstCarrier + (code - 0xd800)).isValidChar := by
        simp only [Nat.isValidChar, firstCarrier]
        omega
      have same : isSurrogate code = true := by simp [isSurrogate, surrogate]
      have high : firstCarrier ≤ firstCarrier + (code - 0xd800) := Nat.le_add_right ..
      simp only [charOfCode, same, if_true, codeOf, toNat_ofNat valid, if_pos high]
      omega

end ReactiveSchema.Text
