import Mathlib.Data.List.Forall2
import ReactiveSchema.Fault

/-!
# Colours come off

Stripping takes off just what colouring has put on, whatever the text around it says.  In
messages, coloured parts stand between blanks and line ends, so an error code is found in the
coloured message where it is found in the plain one, and nowhere else.
-/

namespace ReactiveSchema

namespace Text.Ansi

/-- A text without the escape character. -/
def IsPlain (text : String) : Prop :=
  '\x1b' ∉ text.toList

instance (text : String) : Decidable (IsPlain text) :=
  inferInstanceAs (Decidable ('\x1b' ∉ text.toList))

theorem IsPlain.append {first second : String} (plain : IsPlain first) (plain' : IsPlain second) :
    IsPlain (first ++ second) := by
  unfold IsPlain
  rw [String.toList_append, List.mem_append]
  exact fun found => found.elim plain plain'

/-! ## Stripping -/

theorem stripChars_append {text : List Char} (plain : '\x1b' ∉ text) (rest : List Char) :
    stripChars (text ++ rest) = text ++ stripChars rest := by
  induction text with
  | nil => rfl
  | cons c text ih =>
      rw [List.mem_cons, not_or] at plain
      rw [List.cons_append, stripChars, if_neg (Ne.symm plain.1), ih plain.2, List.cons_append]

theorem toList_sequence (style : Style) :
    style.sequence.toList = '\x1b' :: '[' :: (style.number.toList ++ ['m']) := by
  simp [Style.sequence]

theorem number_digits (style : Style) :
    ∀ c ∈ style.number.toList, between 0x30 0x3f c = true := by
  apply List.all_eq_true.mp
  cases style <;> rfl

/-- A sequence that switches a style on ends where it should, whatever comes after it. -/
theorem afterSequence?_sequence (style : Style) (rest : List Char) :
    afterSequence? ('[' :: (style.number.toList ++ 'm' :: rest)) = some rest := by
  have parameters : (style.number.toList ++ 'm' :: rest).dropWhile (between 0x30 0x3f) =
      'm' :: rest := by
    rw [List.dropWhile_append_of_pos (number_digits style)]
    rfl
  have bracket : (between 0x40 0x5a '[' || between 0x5c 0x5f '[') = false := by decide
  unfold afterSequence?
  dsimp only
  rw [bracket, if_neg Bool.false_ne_true, if_pos rfl, parameters]
  rfl

theorem stripChars_sequence (style : Style) (rest : List Char) :
    stripChars (style.sequence.toList ++ rest) = stripChars rest := by
  have shape : style.sequence.toList ++ rest =
      '\x1b' :: '[' :: (style.number.toList ++ 'm' :: rest) := by
    simp [toList_sequence]
  rw [shape, stripChars, if_pos rfl]
  split
  case h_1 after found =>
    rw [afterSequence?_sequence] at found
    rw [Option.some.inj found]
  case h_2 missing =>
    rw [afterSequence?_sequence] at missing
    cases missing

/-- A coloured text comes to a plain one without its escape sequences, whatever comes after it. -/
def Strips (coloured plain : String) : Prop :=
  ∀ rest, stripChars (coloured.toList ++ rest) = plain.toList ++ stripChars rest

theorem strips_self {text : String} (clear : IsPlain text) : Strips text text :=
  stripChars_append clear

theorem Strips.append {coloured plain coloured' plain' : String} (first : Strips coloured plain)
    (second : Strips coloured' plain') : Strips (coloured ++ coloured') (plain ++ plain') := by
  intro rest
  rw [String.toList_append, String.toList_append, List.append_assoc, first, second,
    List.append_assoc]

theorem Strips.strip_eq {coloured plain : String} (strips : Strips coloured plain) :
    strip coloured = plain := by
  have whole := strips []
  rw [List.append_nil, stripChars, List.append_nil] at whole
  rw [strip, whole, String.ofList_toList]

theorem toList_paint (style : Style) (styles : List Style) (text : String) :
    (paint true (style :: styles) text).toList =
      (style :: styles).flatMap (·.sequence.toList) ++
        (text.toList ++ Style.reset.sequence.toList) := by
  simp [paint, List.flatMap_map]

theorem strips_paint {text : String} (clear : IsPlain text) (styles : List Style) :
    Strips (paint true styles text) text := by
  cases styles with
  | nil => simpa [paint] using strips_self clear
  | cons style styles =>
      have switched (styles : List Style) (after : List Char) :
          stripChars (styles.flatMap (·.sequence.toList) ++ after) = stripChars after := by
        induction styles with
        | nil => rfl
        | cons style styles ih =>
            rw [List.flatMap_cons, List.append_assoc, stripChars_sequence, ih]
      intro rest
      rw [toList_paint, List.append_assoc, switched, List.append_assoc, stripChars_append clear,
        stripChars_sequence]

/-! ## Words -/

/-- A word like an error code: it has a letter that no style has, and nothing that sets parts
apart. -/
structure IsCodeWord (word : List Char) : Prop where
  letter : 'S' ∈ word
  apart : ∀ c ∈ ['\x1b', 'm', ' ', '\n'], c ∉ word

theorem isCodeWord_value (code : ErrorCode) : IsCodeWord code.value.toList where
  letter := by cases code <;> decide
  apart := by
    have clear : ['\x1b', 'm', ' ', '\n'].all (!code.value.toList.contains ·) = true := by
      cases code <;> decide
    intro c known
    simpa using List.all_eq_true.mp clear c known

variable {word left right : List Char}

theorem prefix_append_cons_iff {d : Char} (absent : d ∉ word) :
    word <+: left ++ d :: right ↔ word <+: left := by
  constructor
  case mpr => exact fun leads => leads.trans (List.prefix_append left _)
  case mp =>
    intro leads
    rcases List.prefix_or_prefix_of_prefix leads (List.prefix_append left (d :: right)) with
      within | ⟨tail, rfl⟩
    · exact within
    · -- the word goes on past `left`, so it would have to go on with `d`
      have onward : tail <+: d :: right := (List.prefix_append_right_inj left).mp leads
      cases tail with
      | nil => simp
      | cons c tail =>
          obtain ⟨rfl, -⟩ := List.cons_prefix_cons.mp onward
          simp at absent

/-- A word stands on one side or the other of a character that it does not hold. -/
theorem infix_append_cons_iff {d : Char} (absent : d ∉ word) :
    word <:+: left ++ d :: right ↔ word <:+: left ∨ word <:+: right := by
  induction left with
  | nil =>
      have start : word <+: [] ++ d :: right ↔ word <+: [] := prefix_append_cons_iff absent
      rw [List.nil_append] at start
      rw [List.nil_append, List.infix_cons_iff, start, List.prefix_nil, List.infix_nil]
  | cons c left ih =>
      rw [List.cons_append, List.infix_cons_iff, List.infix_cons_iff, ih, ← List.cons_append,
        prefix_append_cons_iff absent, or_assoc]

theorem IsCodeWord.not_infix (known : IsCodeWord word) {text : List Char} (other : 'S' ∉ text) :
    ¬ word <:+: text :=
  fun stands => other (stands.subset known.letter)

theorem IsCodeWord.infix_append_sequence (known : IsCodeWord word) (left : List Char)
    (style : Style) (right : List Char) :
    word <:+: left ++ (style.sequence.toList ++ right) ↔ word <:+: left ∨ word <:+: right := by
  have shape : left ++ (style.sequence.toList ++ right) =
      left ++ '\x1b' :: (('[' :: style.number.toList) ++ 'm' :: right) := by
    simp [toList_sequence]
  have number : 'S' ∉ '[' :: style.number.toList := by cases style <;> decide
  rw [shape, infix_append_cons_iff (known.apart _ (by decide)),
    infix_append_cons_iff (known.apart _ (by decide)), or_iff_right (known.not_infix number)]

/-! ## Dyed texts -/

/-- A coloured text for a plain one: it comes to the plain one, and the same codes stand in both. -/
structure Dyes (coloured plain : String) : Prop where
  strips : Strips coloured plain
  words {word : List Char} :
    IsCodeWord word → (word <:+: coloured.toList ↔ word <:+: plain.toList)

variable {coloured plain text : String}

theorem dyes_self (clear : IsPlain text) : Dyes text text where
  strips := strips_self clear
  words _ := Iff.rfl

theorem dyes_paint (clear : IsPlain text) (styles : List Style) :
    Dyes (paint true styles text) text where
  strips := strips_paint clear styles
  words {word} known := by
    cases styles with
    | nil => simp [paint]
    | cons style styles =>
        have empty : ¬ word <:+: [] := known.not_infix List.not_mem_nil
        have switched (styles : List Style) (after : List Char) :
            word <:+: styles.flatMap (·.sequence.toList) ++ after ↔ word <:+: after := by
          induction styles with
          | nil => rfl
          | cons style styles ih =>
              have on := known.infix_append_sequence [] style
                (styles.flatMap (·.sequence.toList) ++ after)
              rw [List.nil_append, or_iff_right empty] at on
              rw [List.flatMap_cons, List.append_assoc, on, ih]
        have off := known.infix_append_sequence text.toList .reset []
        rw [List.append_nil, or_iff_left empty] at off
        rw [toList_paint, switched, off]

/-- The same code is named in a text with colours and in the one without. -/
theorem Dyes.names (dyes : Dyes coloured plain) (code : ErrorCode) :
    Text.standsIn code.value.toList coloured.toList =
      Text.standsIn code.value.toList plain.toList := by
  rw [Bool.eq_iff_iff, Text.standsIn_iff_infix, Text.standsIn_iff_infix]
  exact dyes.words (isCodeWord_value code)

/-- Texts that are set apart by a blank or a line end are dyed one by one. -/
theorem Dyes.apart {coloured' plain' : String} (first : Dyes coloured plain)
    (second : Dyes coloured' plain') (separator : Char) (known : separator ∈ [' ', '\n']) :
    Dyes (coloured ++ String.singleton separator ++ coloured')
      (plain ++ String.singleton separator ++ plain') := by
  constructor
  case strips =>
    have clear : IsPlain (String.singleton separator) := by
      unfold IsPlain
      rw [String.toList_singleton, List.mem_singleton]
      rintro rfl
      exact absurd known (by decide)
    exact (first.strips.append (strips_self clear)).append second.strips
  case words =>
    intro word code
    have absent : separator ∉ word :=
      code.apart separator (List.mem_cons_of_mem _ (List.mem_cons_of_mem _ known))
    have cut {left right : List Char} :
        word <:+: left ++ separator :: right ↔ word <:+: left ∨ word <:+: right :=
      infix_append_cons_iff absent
    simp [cut, first.words code, second.words code]

theorem Dyes.spaced {coloured' plain' : String} (first : Dyes coloured plain)
    (second : Dyes coloured' plain') :
    Dyes (coloured ++ " " ++ coloured') (plain ++ " " ++ plain') :=
  first.apart second ' ' (by decide)

theorem Dyes.lines {lines lines' : List String} (dyes : List.Forall₂ Dyes lines lines') :
    Dyes (joinLines lines) (joinLines lines') := by
  induction dyes with
  | nil => exact dyes_self (by decide)
  | cons first rest ih =>
      cases rest with
      | nil => exact first
      | cons second rest =>
          unfold joinLines at ih ⊢
          rw [String.intercalate_cons_cons, String.intercalate_cons_cons]
          exact first.apart ih '\n' (by decide)

end Text.Ansi

open Text.Ansi

/-! ## Messages -/

theorem dyes_sourceLine {source : String} (clear : IsPlain source) :
    Dyes ("  Expression: " ++ Text.Ansi.source true source)
      ("  Expression: " ++ Text.Ansi.source false source) := by
  have label : "  Expression: " = "  Expression:" ++ " " := by decide
  unfold Text.Ansi.source
  rw [paint_off, label]
  exact (dyes_self (by decide)).spaced (dyes_paint clear _)

theorem dyes_syntaxText {message : String} {source : Option String} (column : Option Int)
    (clear : IsPlain message) (named : ∀ text ∈ source, IsPlain text) :
    Dyes (syntaxText true message source column) (syntaxText false message source column) := by
  have heading : Dyes ("Expression Error: " ++ message) ("Expression Error: " ++ message) :=
    dyes_self (.append (by decide) clear)
  cases source with
  | none => exact heading
  | some source =>
      have named := dyes_sourceLine (named source rfl)
      cases column with
      | none => exact .lines (.cons heading (.cons named .nil))
      | some column =>
          have pointer (blanks : Nat) :
              IsPlain (String.ofList (List.replicate blanks ' ' ++ ['^'])) := by
            simp [IsPlain]
          refine .lines (.cons heading (.cons named (.cons ?_ .nil)))
          unfold caret
          rw [paint_off]
          exact dyes_paint (pointer _) _

theorem isPlain_abridge {shown : String} (clear : IsPlain shown) : IsPlain (abridge shown) := by
  unfold abridge
  split
  case isTrue =>
    refine .append ?_ (by decide)
    rw [IsPlain, String.toList_ofList]
    exact fun found => clear (List.mem_of_mem_take found)
  case isFalse => exact clear

/-- Is everything that is listed of a value free of the escape character? -/
def Listed.IsPlain (value : Listed) : Prop :=
  Text.Ansi.IsPlain value.token ∧ Text.Ansi.IsPlain value.shown ∧ Text.Ansi.IsPlain value.typeName

theorem dyes_evaluationText {message source suggestion : String} {values : List Listed}
    (clear : IsPlain message) (named : IsPlain source) (listed : ∀ value ∈ values, value.IsPlain)
    (advised : IsPlain suggestion) :
    Dyes (evaluationText true message source values suggestion)
      (evaluationText false message source values suggestion) := by
  have heading : Dyes ("Runtime Error: " ++ message) ("Runtime Error: " ++ message) :=
    dyes_self (.append (by decide) clear)
  have each (line : String) (among : line ∈ values.map fun value =>
      "    " ++ value.token ++ " = " ++ abridge value.shown ++ " (" ++ value.typeName ++ ")") :
      Dyes line line := by
    obtain ⟨value, known, rfl⟩ := List.mem_map.mp among
    obtain ⟨token, shown, typeName⟩ := listed value known
    have start := (IsPlain.append (by decide : IsPlain "    ") token).append
      (by decide : IsPlain " = ")
    have middle := (start.append (isPlain_abridge shown)).append (by decide : IsPlain " (")
    exact dyes_self ((middle.append typeName).append (by decide))
  unfold evaluationText
  refine .lines (List.rel_append (List.rel_append (List.rel_append (.cons heading .nil) ?_) ?_) ?_)
  · split
    · exact .nil
    · exact .cons (dyes_sourceLine named) .nil
  · split
    · exact .nil
    · exact .cons (dyes_self (by decide)) (List.forall₂_same.mpr each)
  · split
    · exact .nil
    · have label : "\n  " = "\n " ++ " " := by decide
      refine .cons ?_ .nil
      unfold hint
      rw [paint_off, label]
      have marked := (dyes_self (by decide : IsPlain "\n ")).spaced
        (dyes_paint (by decide : IsPlain "Suggestion:") [.green])
      exact marked.spaced (dyes_self advised)

theorem isPlain_toString (n : Int) : IsPlain (toString n) := by
  have digits (n : Nat) : IsPlain n.repr := by
    rw [IsPlain, Nat.toList_repr]
    intro found
    exact absurd (Nat.isDigit_of_mem_toDigits (by decide) (by decide) found) (by decide)
  rw [Int.toString_eq_repr]
  cases n with
  | ofNat n => exact digits n
  | negSucc n => exact .append (by decide : IsPlain "-") (digits n.succ)

theorem isPlain_docsUrl (code : ErrorCode) : IsPlain code.docsUrl := by
  cases code <;> decide +kernel

/-! ## Faults of the library -/

/-- What a fault of the library is made from. -/
inductive Complaint where
  | syntaxError (message : String) (source : Option String) (column : Option Int)
      (code : ErrorCode)
  | evaluation (message source cause : String) (values : List (String × Except Fault Value))
      (listed : List Listed) (suggestion : String)
  | unbalanced (depth expected : Int)

namespace Complaint

/-- The fault that is made, with colours in its text or without. -/
def fault (colors : Bool) : Complaint → Fault
  | syntaxError message source column code => .syntaxErrorOf colors message source column code
  | evaluation message source cause values listed suggestion =>
      .evaluation source values cause (evaluationText colors message source listed suggestion)
  | unbalanced depth expected => .unbalanced depth expected

/-- Is everything that is told free of the escape character? -/
def IsPlain : Complaint → Prop
  | syntaxError message source _ _ =>
      Text.Ansi.IsPlain message ∧ ∀ text ∈ source, Text.Ansi.IsPlain text
  | evaluation message source _ _ listed suggestion =>
      Text.Ansi.IsPlain message ∧ Text.Ansi.IsPlain source ∧
        (∀ value ∈ listed, value.IsPlain) ∧ Text.Ansi.IsPlain suggestion
  | unbalanced _ _ => True

theorem exists_code (complaint : Complaint) :
    ∃ code, (complaint.fault true).code? = some code ∧
      (complaint.fault false).code? = some code := by
  cases complaint <;> exact ⟨_, rfl, rfl⟩

theorem dyes_text {complaint : Complaint} (plain : complaint.IsPlain) :
    Dyes (complaint.fault true).text (complaint.fault false).text := by
  cases complaint with
  | syntaxError message source column code => exact dyes_syntaxText column plain.1 plain.2
  | evaluation message source cause values listed suggestion =>
      exact dyes_evaluationText plain.1 plain.2.1 plain.2.2.1 plain.2.2.2
  | unbalanced depth expected =>
      have label : Text.Ansi.IsPlain "Iteration scope stack has depth " := by decide
      have start := (label.append (isPlain_toString depth)).append
        (by decide : Text.Ansi.IsPlain " after render pass (expected ")
      exact dyes_self ((start.append (isPlain_toString expected)).append (by decide))

end Complaint

theorem strips_compactText {coloured plain : String} (dyes : Dyes coloured plain)
    (code : ErrorCode) :
    Strips (compactText true (some code) coloured) (compactText false (some code) plain) := by
  have named : Strips (header true code.value coloured) (header false code.value plain) := by
    unfold header errorCode
    split
    · exact dyes.strips
    · have clear : IsPlain code.value := by cases code <;> decide
      rw [paint_off]
      exact ((strips_paint clear _).append (strips_self (by decide))).append dyes.strips
  have docs : Strips ("  " ++ faint true "Docs:" ++ " " ++ link true code.docsUrl)
      ("  " ++ faint false "Docs:" ++ " " ++ link false code.docsUrl) := by
    unfold faint link
    rw [paint_off, paint_off]
    have label := (strips_self (by decide : IsPlain "  ")).append
      (strips_paint (by decide : IsPlain "Docs:") [.dim])
    exact (label.append (strips_self (by decide : IsPlain " "))).append
      (strips_paint (isPlain_docsUrl code) _)
  have first : Strips
      (if Text.standsIn code.value.toList coloured.toList then coloured
        else header true code.value coloured)
      (if Text.standsIn code.value.toList plain.toList then plain
        else header false code.value plain) := by
    rw [dyes.names code]
    split
    · exact dyes.strips
    · exact named
  exact (first.append (strips_self (by decide : IsPlain "\n"))).append docs

/--
Colours change how a fault looks and nothing else: without the escape sequences, its text and
its short diagnostic are those that are written without colours, and the text names an error
code with colours just when it does so without, so that the code is put before both or neither.
-/
theorem colours_come_off (complaint : Complaint) (plain : complaint.IsPlain) :
    strip (complaint.fault true).text = (complaint.fault false).text ∧
      strip ((complaint.fault true).compact true) = (complaint.fault false).compact false ∧
        ∀ code : ErrorCode,
          Text.standsIn code.value.toList (complaint.fault true).text.toList =
            Text.standsIn code.value.toList (complaint.fault false).text.toList := by
  have dyes := Complaint.dyes_text plain
  obtain ⟨code, coloured, uncoloured⟩ := complaint.exists_code
  refine ⟨dyes.strips.strip_eq, ?_, dyes.names⟩
  unfold Fault.compact
  rw [coloured, uncoloured]
  exact (strips_compactText dyes code).strip_eq

/-- A complaint whose message names its own code, about a place before its source. -/
def namingComplaint : Complaint :=
  .syntaxError "see SK-EXP-001" (some "$a >> 1") (some (-3)) .expressionSyntax

theorem colours_come_off_naming :
    namingComplaint.IsPlain ∧
      strip ((namingComplaint.fault true).compact true) =
        "Expression Error: see SK-EXP-001\n  Expression: $a >> 1\n           ^\n  Docs: " ++
          "https://skema.readthedocs.io/en/latest/errors/#sk-exp-001" := by
  have plain : namingComplaint.IsPlain := ⟨by decide, by simp; decide⟩
  refine ⟨plain, (colours_come_off namingComplaint plain).2.1.trans ?_⟩
  decide +kernel

end ReactiveSchema
