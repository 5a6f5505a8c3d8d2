/-!
# Markup escapes

The characters that would be read as markup are replaced by entities: three
of them in running text, and both quotes as well in attribute values.
-/

namespace ReactiveSchema.Text

/-- One character of running text. -/
def escapeTextChar : Char → List Char
  | '&' => ['&', 'a', 'm', 'p', ';']
  | '<' => ['&', 'l', 't', ';']
  | '>' => ['&', 'g', 't', ';']
  | c => [c]

/-- One character of an attribute value. -/
def escapeAttributeChar : Char → List Char
  | '"' => ['&', 'q', 'u', 'o', 't', ';']
  | '\'' => ['&', '#', 'x', '2', '7', ';']
  | c => escapeTextChar c

/-- Running text with its markup characters escaped. -/
def escapeText (text : String) : String :=
  String.ofList (text.toList.flatMap escapeTextChar)

/-- An attribute value with its markup characters and quotes escaped. -/
def escapeAttribute (text : String) : String :=
  String.ofList (text.toList.flatMap escapeAttributeChar)

theorem escapeTextChar_no_open (c : Char) : '<' ∉ escapeTextChar c := by
  unfold escapeTextChar
  split
  · decide
  · decide
  · decide
  · rename_i notOpen _
    intro found
    exact notOpen (List.mem_singleton.1 found).symm

theorem escapeAttributeChar_no_quote (c : Char) : '"' ∉ escapeAttributeChar c := by
  unfold escapeAttributeChar
  split
  · decide
  · decide
  · rename_i notQuote _
    unfold escapeTextChar
    split
    · decide
    · decide
    · decide
    · intro found
      exact notQuote (List.mem_singleton.1 found).symm

end ReactiveSchema.Text
