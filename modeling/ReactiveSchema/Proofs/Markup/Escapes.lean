import ReactiveSchema.Proofs.Text.Blanks
import ReactiveSchema.Text.Escape

/-!
# Escaped text is read in one way

No escape begins another one, so escaped text stands for one text only.  What is escaped does
not hold the character that ends it, so it is clear where it ends in what is written.
-/

namespace ReactiveSchema.Text

/-- Two runs of accepted characters end at the same place, where a refused one follows. -/
theorem append_eq_of_run {p : Char → Bool} {run run' rest rest' : List Char}
    (accepted : ∀ c ∈ run, p c = true) (starts : ∀ c ∈ rest.head?, p c = false)
    (accepted' : ∀ c ∈ run', p c = true) (starts' : ∀ c ∈ rest'.head?, p c = false)
    (same : run ++ rest = run' ++ rest') : run = run' ∧ rest = rest' := by
  have ends : rest = rest' := by
    rw [← dropWhile_append_of_head? accepted starts, same,
      dropWhile_append_of_head? accepted' starts']
  rw [ends] at same
  exact ⟨List.append_cancel_right same, ends⟩

/-! ## Codes -/

/-- A code of characters that can be read off character by character. -/
structure IsPrefixCode (code : Char → List Char) : Prop where
  filled (c : Char) : code c ≠ []
  apart {c d : Char} {rest rest' : List Char} : code c ++ rest = code d ++ rest' →
    c = d ∧ rest = rest'

theorem IsPrefixCode.flatMap_injective {code : Char → List Char} (known : IsPrefixCode code)
    {text text' : List Char} (same : text.flatMap code = text'.flatMap code) : text = text' := by
  induction text generalizing text' with
  | nil =>
      cases text' with
      | nil => rfl
      | cons d rest' =>
          rw [List.flatMap_cons] at same
          exact absurd (List.append_eq_nil_iff.mp same.symm).1 (known.filled d)
  | cons c rest ih =>
      cases text' with
      | nil =>
          rw [List.flatMap_cons] at same
          exact absurd (List.append_eq_nil_iff.mp same).1 (known.filled c)
      | cons d rest' =>
          rw [List.flatMap_cons, List.flatMap_cons] at same
          obtain ⟨rfl, inner⟩ := known.apart same
          rw [ih inner]

/-- A character that no text holds as it is belongs to no code of its characters. -/
theorem not_mem_flatMap_of_code {code : Char → List Char} {ender : Char}
    (absent : ∀ c, ender ∉ code c) (text : List Char) : ender ∉ text.flatMap code := by
  intro found
  obtain ⟨c, -, known⟩ := List.mem_flatMap.mp found
  exact absent c known

theorem isPrefixCode_escapeTextChar : IsPrefixCode escapeTextChar where
  filled c := by
    unfold escapeTextChar
    split <;> exact List.cons_ne_nil _ _
  apart {c d _ _} same := by
    unfold escapeTextChar at same
    -- The first characters decide, but for the escapes, whose names differ.
    split at same <;> split at same <;>
      simp only [List.cons_append, List.nil_append, List.cons.injEq] at same <;> grind

theorem isPrefixCode_escapeAttributeChar : IsPrefixCode escapeAttributeChar where
  filled c := by
    unfold escapeAttributeChar
    split
    · exact List.cons_ne_nil _ _
    · exact List.cons_ne_nil _ _
    · exact isPrefixCode_escapeTextChar.filled c
  apart {c d _ _} same := by
    unfold escapeAttributeChar escapeTextChar at same
    split at same <;> split at same <;> (try split at same) <;> (try split at same) <;>
      simp only [List.cons_append, List.nil_append, List.cons.injEq] at same <;> grind

/-! ## Escaped text and what follows -/

/-- Escaped running text ends where a tag starts. -/
theorem escapeText_append {text text' rest rest' : List Char}
    (starts : ∀ c ∈ rest.head?, c = '<') (starts' : ∀ c ∈ rest'.head?, c = '<')
    (same : text.flatMap escapeTextChar ++ rest = text'.flatMap escapeTextChar ++ rest') :
    text = text' ∧ rest = rest' := by
  have accepted (text : List Char) (c : Char) (known : c ∈ text.flatMap escapeTextChar) :
      (c != '<') = true := by
    rw [bne_iff_ne]
    rintro rfl
    exact not_mem_flatMap_of_code escapeTextChar_no_open text known
  obtain ⟨escaped, ends⟩ := append_eq_of_run (accepted text)
    (fun c first => by simp [starts c first]) (accepted text')
    (fun c first => by simp [starts' c first]) same
  exact ⟨isPrefixCode_escapeTextChar.flatMap_injective escaped, ends⟩

/-- An escaped attribute value ends at the next quote. -/
theorem escapeAttribute_append {text text' rest rest' : List Char}
    (same : text.flatMap escapeAttributeChar ++ '"' :: rest =
      text'.flatMap escapeAttributeChar ++ '"' :: rest') : text = text' ∧ rest = rest' := by
  have accepted (text : List Char) (c : Char) (known : c ∈ text.flatMap escapeAttributeChar) :
      (c != '"') = true := by
    rw [bne_iff_ne]
    rintro rfl
    exact not_mem_flatMap_of_code escapeAttributeChar_no_quote text known
  obtain ⟨escaped, ends⟩ := append_eq_of_run (accepted text)
    (fun c first => by cases first; rfl) (accepted text') (fun c first => by cases first; rfl) same
  exact ⟨isPrefixCode_escapeAttributeChar.flatMap_injective escaped, List.cons.inj ends |>.2⟩

/-- The text of something that is there starts with no tag. -/
theorem head?_escapeText {c : Char} {text rest : List Char} :
    ∃ first, ((c :: text).flatMap escapeTextChar ++ rest).head? = some first ∧ first ≠ '<' := by
  have filled := isPrefixCode_escapeTextChar.filled c
  have absent := escapeTextChar_no_open c
  rw [List.flatMap_cons]
  cases same : escapeTextChar c with
  | nil => exact absurd same filled
  | cons first more =>
      rw [same] at absent
      exact ⟨first, rfl, fun opens => absent (opens ▸ List.mem_cons_self)⟩

end ReactiveSchema.Text
