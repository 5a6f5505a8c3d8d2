import ReactiveSchema.Proofs.Expr.Lowering

/-!
# How bad source is reported

A source is compiled, or it is refused by a syntax error that names the trimmed source and
points into it, if it points anywhere.  The one exception is a source that can be cut into
pieces and holds a character that the grammar's reader does not take: its complaint about
that passes as it is.
-/

namespace ReactiveSchema

open ReactiveSchema.Text Observe

/-! ## Characters that the reader takes -/

/-- A character that a text for the grammar's reader may hold. -/
def isLegible (c : Char) : Bool :=
  c != '\x00' && !carriesSurrogate c

theorem letterTable_lt_firstCarrier :
    ∀ interval ∈ letterTable.intervals, interval.2 < firstCarrier := by
  unfold letterTable
  rw [ofPacked_eq, show String.toList _ = _ from String.toList_ofList]
  decide +kernel

theorem numeralTable_lt_firstCarrier :
    ∀ interval ∈ numeralTable.intervals, interval.2 < firstCarrier := by
  unfold numeralTable
  rw [ofPacked_eq, show String.toList _ = _ from String.toList_ofList]
  decide +kernel

theorem CodeSet.contains_eq_false {set : CodeSet} {limit code : Nat}
    (below : ∀ interval ∈ set.intervals, interval.2 < limit) (above : limit ≤ code) :
    set.contains code = false := by
  refine Bool.eq_false_iff.mpr fun inside => ?_
  obtain ⟨low, high, known, -, reach⟩ := (set.contains_iff code).mp inside
  have := below _ known
  omega

/-- A lone surrogate is carried by a character from the end of the last plane. -/
theorem firstCarrier_le_of_carriesSurrogate {c : Char} (carries : carriesSurrogate c = true) :
    firstCarrier ≤ c.toNat := by
  by_contra low
  rw [carriesSurrogate, codeOf, if_neg low, isSurrogate, Bool.and_eq_true, decide_eq_true_eq,
    decide_eq_true_eq] at carries
  have valid : c.toNat.isValidChar := c.valid
  simp only [Nat.isValidChar] at valid
  omega

theorem eq_or_le_of_illegible {c : Char} (illegible : isLegible c = false) :
    c = '\x00' ∨ firstCarrier ≤ c.toNat := by
  rw [isLegible, Bool.and_eq_false_iff, bne_eq_false_iff_eq, Bool.not_eq_false'] at illegible
  exact illegible.imp id firstCarrier_le_of_carriesSurrogate

/-- What the reader does not take is no part of a name. -/
theorem isLegible_of_isPathChar {c : Char} (path : isPathChar c = true) : isLegible c = true := by
  by_contra illegible
  rcases eq_or_le_of_illegible (Bool.eq_false_iff.mpr illegible) with rfl | above
  · exact absurd path (by decide)
  · have foreign : ¬ c.toNat < 128 := by
      simp only [firstCarrier] at above
      omega
    have plain : isLetterOrNumeral c = false := by
      rw [isLetterOrNumeral, if_neg foreign,
        CodeSet.contains_eq_false letterTable_lt_firstCarrier above,
        CodeSet.contains_eq_false numeralTable_lt_firstCarrier above, Bool.or_false]
    rw [isPathChar, plain, Bool.false_or, Bool.or_eq_true, beq_iff_eq, beq_iff_eq] at path
    rcases path with rfl | rfl <;> exact absurd above (by decide)

theorem isBlank_of_illegible {c : Char} (illegible : isLegible c = false) : isBlank c = false := by
  rcases eq_or_le_of_illegible illegible with rfl | above
  · decide
  · simp only [firstCarrier] at above
    simp only [isBlank, Bool.or_eq_false_iff, Bool.and_eq_false_iff, decide_eq_false_iff_not,
      beq_eq_false_iff_ne]
    omega

/-! ## Spelling keeps them -/

theorem mem_dropWhile_iff {p : Char → Bool} {text : List Char} {c : Char} (refused : p c = false) :
    c ∈ text.dropWhile p ↔ c ∈ text := by
  have whole := List.takeWhile_append_dropWhile (p := p) (l := text)
  refine ⟨fun known => (List.dropWhile_suffix p).subset known, fun known => ?_⟩
  rw [← whole, List.mem_append] at known
  refine known.resolve_left fun early => ?_
  rw [List.mem_takeWhile_imp early] at refused
  cases refused

/-- Trimming takes away blanks and nothing else. -/
theorem mem_trimBlanks_iff {text : List Char} {c : Char} (solid : isBlank c = false) :
    c ∈ trimBlanks text ↔ c ∈ text := by
  rw [trimBlanks, List.mem_reverse, mem_dropWhile_iff solid, List.mem_reverse,
    mem_dropWhile_iff solid]

theorem toNat_lt_of_isAsciiDigit {c : Char} (digit : isAsciiDigit c = true) : c.toNat < 128 := by
  simp only [isAsciiDigit, Bool.and_eq_true, decide_eq_true_eq, Char.le_def,
    UInt32.le_iff_toNat_le] at digit
  change _ ∧ c.toNat ≤ 57 at digit
  omega

theorem isLegible_of_mem_placeholder (index : Nat) {c : Char} (known : c ∈ placeholder index) :
    isLegible c = true := by
  apply isLegible_of_isPathChar
  simp only [placeholder, List.mem_cons] at known
  rcases known with rfl | rfl | rfl | digit
  · decide
  · decide
  · decide
  · have plain : isAsciiDigit c = true := Nat.isDigit_of_mem_toDigits (by decide) (by decide) digit
    have low := toNat_lt_of_isAsciiDigit plain
    rw [isPathChar, isLetterOrNumeral, if_pos low, plain, Bool.or_true]
    rfl

theorem isLegible_of_mem_word (word : Word) :
    (∀ c ∈ word.name.toList, isLegible c = true) ∧
      ∀ c ∈ word.spelling.toList, isLegible c = true := by
  have names : word.name.toList.all isLegible = true := by cases word <;> decide
  have spellings : word.spelling.toList.all isLegible = true := by cases word <;> decide
  exact ⟨List.all_eq_true.mp names, List.all_eq_true.mp spellings⟩

theorem isLegible_of_mem_signSpellings :
    ∀ row ∈ signSpellings, (∀ c ∈ row.1, isLegible c = true) ∧ ∀ c ∈ row.2, isLegible c = true := by
  have rows : signSpellings.all (fun row => row.1.all isLegible && row.2.all isLegible) = true := by
    decide
  intro row known
  have both := List.all_eq_true.mp rows row known
  rw [Bool.and_eq_true] at both
  exact ⟨List.all_eq_true.mp both.1, List.all_eq_true.mp both.2⟩

/-- A sign is spelled with the characters that the reader does not take left as they are. -/
theorem mem_sign_iff {first c : Char} {rest : List Char} (illegible : isLegible c = false) :
    c ∈ (signAt first rest).1 ∨ c ∈ rest.drop ((signAt first rest).2 - 1) ↔
      c ∈ first :: rest := by
  have absent : ∀ {text : List Char}, (∀ d ∈ text, isLegible d = true) → c ∉ text := by
    intro text legible known
    rw [legible c known] at illegible
    cases illegible
  unfold signAt
  split
  case h_1 sign spelling found =>
    have row := isLegible_of_mem_signSpellings _ (List.mem_of_find?_eq_some found)
    have fits := List.find?_some
      (p := fun row : List Char × List Char => row.1.isPrefixOf (first :: rest)) found
    obtain ⟨after, whole⟩ := List.isPrefixOf_iff_prefix.mp fits
    have nonempty : 0 < sign.length := by
      simpa [signAt, found] using signAt_length first rest
    have left : rest.drop (sign.length - 1) = after := by
      rw [← List.drop_succ_cons (a := first), Nat.sub_add_cancel nonempty, ← whole, List.drop_left]
    rw [left, ← whole, List.mem_append]
    exact or_congr_left (iff_of_false (absent row.2) (absent row.1))
  case h_2 => exact or_congr_left List.mem_singleton |>.trans List.mem_cons.symm

/-- What the reader does not take stands in the spelled text just as in the source. -/
theorem Falls.mem_spelled_iff {text : List Char} {found : List Piece} (falls : Falls text found)
    (tokens : List (List Char)) {c : Char} (illegible : isLegible c = false) :
    c ∈ found.flatMap (Piece.spell tokens) ↔ c ∈ text := by
  have absent : ∀ {text : List Char}, (∀ d ∈ text, isLegible d = true) → c ∉ text := by
    intro text legible known
    rw [legible c known] at illegible
    cases illegible
  have notBlank : c ≠ ' ' := by
    rintro rfl
    exact absurd illegible (by decide)
  induction falls with
  | nil => rfl
  | quoted _ _ _ ih => simp [Piece.spell, ih]
  | @token name after others named _ _ ih =>
      have notSigil : c ≠ sigil := by
        rintro rfl
        exact absurd illegible (by decide)
      have notName := absent fun d known => isLegible_of_isPathChar (named.path d known)
      have notPlaceholder := absent fun d known =>
        isLegible_of_mem_placeholder (tokens.idxOf name) known
      simp [Piece.spell, ih, notSigil, notName, notPlaceholder, notBlank]
  | number _ _ _ _ _ _ ih => simp [Piece.spell, ih]
  | @word first run after word others _ _ _ _ known _ _ _ ih =>
      have spelled := isLegible_of_mem_word word
      rw [Word.name_of_ofChars? known] at spelled
      have notRun := absent spelled.1
      have notSpelled := absent spelled.2
      have notThere : c ∉ Piece.spell tokens (.word word) := by
        simp [Piece.spell, notSpelled, notBlank]
      rw [List.flatMap_cons, List.mem_append, ← List.cons_append, List.mem_append]
      exact or_congr (iff_of_false notThere notRun) ih
  | @sign first rest others _ _ ih =>
      rw [List.flatMap_cons, List.mem_append]
      exact (or_congr_right ih).trans (mem_sign_iff illegible)

theorem Falls.mem_spell_iff {text : List Char} {found : List Piece} (falls : Falls text found)
    {c : Char} (illegible : isLegible c = false) : c ∈ (spell found).text ↔ c ∈ text := by
  unfold spell
  rw [mem_trimBlanks_iff (isBlank_of_illegible illegible), falls.mem_spelled_iff _ illegible]

/-! ## Refusals that are reported -/

/-- A refusal that is reported of a source of the given length, and points into it. -/
structure SourceFault.IsReport (length : Nat) (fault : SourceFault) : Prop where
  plain : fault ≠ .nulCharacter ∧ fault ≠ .loneSurrogate
  inside : ∀ place ∈ fault.column?, place < length

theorem SourceFault.IsReport.mono {length more : Nat} {fault : SourceFault}
    (report : fault.IsReport length) (le : length ≤ more) : fault.IsReport more :=
  ⟨report.plain, fun place known => Nat.lt_of_lt_of_le (report.inside place known) le⟩

theorem SourceFault.IsReport.toFault {length : Nat} {fault : SourceFault}
    (report : fault.IsReport length) (colors : Bool) (source : String) :
    fault.toFault colors source =
      .syntaxFault colors fault.message (some source) fault.column? fault.code := by
  cases fault with
  | nulCharacter => exact absurd rfl report.plain.1
  | loneSurrogate => exact absurd rfl report.plain.2
  | _ => rfl

theorem Tree.IsForeign.isReport {fault : SourceFault} (foreign : Tree.IsForeign fault)
    (length : Nat) : fault.IsReport length := by
  cases foreign <;> exact ⟨⟨nofun, nofun⟩, nofun⟩

theorem error_of_map_eq_error {ε α β : Type} {change : α → β} {result : Except ε α} {fault : ε}
    (same : result.map change = .error fault) : result = .error fault := by
  cases result with
  | error _ => exact congrArg Except.error (Except.error.inj same)
  | ok _ => cases same

/-- A text that cannot be cut into pieces is refused at one of its characters. -/
theorem isReport_of_pieces {column : Nat} {text : List Char} {fault : SourceFault}
    (refused : pieces column text = .error fault) : fault.IsReport (column + text.length) := by
  fun_induction pieces column text with
  | case1 => cases refused
  | case2 column quote rest =>
      cases refused
      exact ⟨⟨by rintro ⟨⟩, by rintro ⟨⟩⟩, by simp [SourceFault.column?]⟩
  | case3 column quote rest opens body after ends ih =>
      have whole := splitQuoted_append ends
      exact (ih (error_of_map_eq_error refused)).mono (by simp [whole]; omega)
  | case4 column rest =>
      cases refused
      exact ⟨⟨by rintro ⟨⟩, by rintro ⟨⟩⟩, by simp [SourceFault.column?]⟩
  | case5 column rest name named =>
      rename_i ih
      have short : name.length ≤ rest.length :=
        (trimPoints_length _).trans (List.takeWhile_prefix _).length_le
      exact (ih (error_of_map_eq_error refused)).mono (by simp; omega)
  | case6 column c rest unquoted unsigned digit run ih =>
      have short : run.length ≤ rest.length := (List.takeWhile_prefix _).length_le
      exact (ih (error_of_map_eq_error refused)).mono (by simp; omega)
  | case7 column c rest unquoted unsigned undigital lettered run =>
      cases refused
      exact ⟨⟨by rintro ⟨⟩, by rintro ⟨⟩⟩, by simp [SourceFault.column?]⟩
  | case8 column c rest unquoted unsigned undigital lettered run word spelled ih =>
      have short : run.length ≤ rest.length := (List.takeWhile_prefix _).length_le
      exact (ih (error_of_map_eq_error refused)).mono (by simp; omega)
  | case9 column c rest unquoted unsigned undigital unlettered spelling length sign ih =>
      have within := signAt_le_length c rest
      have nonempty := signAt_length c rest
      rw [sign] at within nonempty
      exact (ih (error_of_map_eq_error refused)).mono (by simp; omega)

/-! ## Outcomes of compiling -/

namespace Expression

variable {text : List Char}

theorem treeOf_of_illegible {c : Char} (known : c ∈ text) (illegible : isLegible c = false) :
    treeOf text =
      .error (if text.any carriesSurrogate then .loneSurrogate else .nulCharacter) := by
  have nonempty : ¬ text.isEmpty = true := by
    rintro empty
    rw [List.isEmpty_iff.mp empty] at known
    cases known
  unfold treeOf
  rw [if_neg nonempty]
  split
  case isTrue => rfl
  case isFalse pure =>
    have nul : c = '\x00' := by
      rw [isLegible, Bool.and_eq_false_iff, bne_eq_false_iff_eq, Bool.not_eq_false'] at illegible
      exact illegible.resolve_right fun carries => pure (List.any_eq_true.mpr ⟨c, known, carries⟩)
    rw [if_pos (List.contains_iff_mem.mpr (nul ▸ known))]

theorem treeOf_of_legible (legible : ∀ c ∈ text, isLegible c = true) :
    (∃ tree, treeOf text = .ok tree) ∨ treeOf text = .error .empty ∨
      treeOf text = .error .ungrammatical := by
  have pure : ¬ text.any carriesSurrogate = true := by
    rintro carries
    obtain ⟨c, known, carries⟩ := List.any_eq_true.mp carries
    have fine := legible c known
    rw [isLegible, carries] at fine
    simp at fine
  have clean : ¬ text.contains '\x00' = true := fun nul =>
    absurd (legible _ (List.contains_iff_mem.mp nul)) (by decide)
  unfold treeOf
  rw [if_neg pure, if_neg clean]
  by_cases empty : text.isEmpty = true
  · exact .inr (.inl (if_pos empty))
  · rw [if_neg empty]
    cases (lexemes text).bind Tree.ofLexemes? with
    | some tree => exact .inl ⟨tree, rfl⟩
    | none => exact .inr (.inr rfl)

/-- A source that is cut into pieces but holds what the grammar's reader does not take. -/
def IsUnreadable (source : List Char) : Prop :=
  (∃ found, pieces 0 source = .ok found) ∧ ∃ c ∈ source, isLegible c = false

/-- Pieces without anything unreadable are an expression, or refused by a report. -/
theorem compileChars_of_readable {source : List Char} (readable : ¬ IsUnreadable source) :
    (∃ expression, compileChars source = .ok expression ∧
        expression.source = String.ofList source ∧
          expression.body.Within expression.tokens.length) ∨
      ∃ fault, compileChars source = .error fault ∧ fault.IsReport source.length := by
  unfold compileChars
  rcases cut : pieces 0 source with fault | found
  · refine .inr ⟨fault, rfl, ?_⟩
    simpa using isReport_of_pieces cut
  · have legible : ∀ c ∈ (spell found).text, isLegible c = true := by
      intro c known
      by_contra illegible
      rw [Bool.not_eq_true] at illegible
      exact readable ⟨⟨found, cut⟩, c,
        ((falls_of_pieces cut).mem_spell_iff illegible).mp known, illegible⟩
    dsimp only [bind, Except.bind]
    rcases treeOf_of_legible legible with ⟨tree, read⟩ | read | read
    · rw [read]
      rcases tree.toExpr_cases (spell found).tokens.length with
        ⟨body, lowered, within⟩ | ⟨fault, refused, foreign⟩
      · dsimp only
        rw [lowered]
        exact .inl ⟨_, rfl, rfl, by simpa using within⟩
      · dsimp only
        rw [refused]
        exact .inr ⟨fault, rfl, foreign.isReport _⟩
    · rw [read]
      exact .inr ⟨.empty, rfl, ⟨nofun, nofun⟩, nofun⟩
    · rw [read]
      exact .inr ⟨.ungrammatical, rfl, ⟨nofun, nofun⟩, nofun⟩

/-- The complaint about an unreadable source. -/
def unreadableFault (source : List Char) : SourceFault :=
  if source.any carriesSurrogate then .loneSurrogate else .nulCharacter

theorem compileChars_of_unreadable {source : List Char} (unreadable : IsUnreadable source) :
    compileChars source = .error (unreadableFault source) := by
  obtain ⟨⟨found, cut⟩, c, known, illegible⟩ := unreadable
  have falls := falls_of_pieces cut
  have carried : ∀ d, carriesSurrogate d = true → isLegible d = false := fun d carries => by
    rw [isLegible, carries, Bool.not_true, Bool.and_false]
  have same : (spell found).text.any carriesSurrogate = source.any carriesSurrogate := by
    rw [Bool.eq_iff_iff, List.any_eq_true, List.any_eq_true]
    exact exists_congr fun d =>
      and_congr_left fun carries => falls.mem_spell_iff (carried d carries)
  unfold compileChars
  rw [cut]
  dsimp only [bind, Except.bind]
  rw [treeOf_of_illegible ((falls.mem_spell_iff illegible).mpr known) illegible, same]
  rfl

section Providing

variable {α β : Type} {expression : Expression} {token other : Nat → Observe Value}

theorem mapM_congr {step another : α → Observe β} {items : List α}
    (same : ∀ x ∈ items, step x = another x) : items.mapM step = items.mapM another := by
  induction items with
  | nil => rfl
  | cons x items ih =>
      rw [List.forall_mem_cons] at same
      rw [List.mapM_cons, List.mapM_cons, same.1, ih same.2]

theorem snapshot_congr (same : ∀ index < expression.tokens.length, token index = other index) :
    expression.snapshot token = expression.snapshot other := by
  refine mapM_congr fun ⟨name, index⟩ known => ?_
  have inside : index < expression.tokens.length := by
    simpa using (List.mem_zipIdx known).2.1
  dsimp only
  rw [same index inside]

/-- An expression in whose range the tokens give the same comes to the same, also in its report. -/
theorem evaluate_congr (within : expression.body.Within expression.tokens.length)
    (same : ∀ index < expression.tokens.length, token index = other index) :
    expression.evaluate token = expression.evaluate other := by
  unfold evaluate report
  rw [within.evaluate_congr same, snapshot_congr same]

end Providing

end Expression

theorem run_compileSource_ok {source : String} {expression : Expression}
    (accepted : Expression.compileChars (trimBlanks source.toList) = .ok expression)
    (memory : Memory) : (compileSource source).run memory = (.ok expression, memory) := by
  unfold compileSource Expression.compile
  rw [accepted]
  rfl

theorem run_compileSource_error {source : String} {fault : SourceFault}
    (refused : Expression.compileChars (trimBlanks source.toList) = .error fault)
    (memory : Memory) :
    (compileSource source).run memory =
      (.error (fault.toFault memory.colors (Text.trim source)), memory) := by
  unfold compileSource Expression.compile
  rw [refused]
  rfl

/--
What compiling a source comes to.  Unless the source is unreadable, it is an expression over the
trimmed source, which whatever gives each of its tokens a value provides for, or a syntax error
that names the trimmed source and points at one of its characters, if it points anywhere.  Of an
unreadable source the complaint of the grammar's reader passes, which is no syntax error.
-/
theorem compileSource_outcome (source : String) (memory : Memory) :
    (¬ Expression.IsUnreadable (trimBlanks source.toList) ∧ ∃ expression,
        (compileSource source).run memory = (.ok expression, memory) ∧
          expression.source = Text.trim source ∧
            ∀ (factory : String → Observe Value) (token : Nat → Observe Value),
              (∀ (index : Nat) (inside : index < expression.tokens.length),
                token index = factory expression.tokens[index]) →
                  expression.evaluate token = expression.evaluate (expression.provide factory)) ∨
      (¬ Expression.IsUnreadable (trimBlanks source.toList) ∧ ∃ message column code,
        (compileSource source).run memory =
            (.error (.syntaxFault memory.colors message (some (Text.trim source)) column code),
              memory) ∧
          ∀ place ∈ column, place < (Text.trim source).length) ∨
      (Expression.IsUnreadable (trimBlanks source.toList) ∧ ∃ cause,
        (compileSource source).run memory = (.error (.failure cause), memory) ∧
          cause = if (trimBlanks source.toList).any carriesSurrogate then .loneSurrogate
            else .badValue "source code string cannot contain null bytes") := by
  by_cases unreadable : Expression.IsUnreadable (trimBlanks source.toList)
  · have refused := Expression.compileChars_of_unreadable unreadable
    refine .inr (.inr ⟨unreadable, _, ?_, rfl⟩)
    rw [run_compileSource_error refused, Expression.unreadableFault]
    cases (trimBlanks source.toList).any carriesSurrogate <;> rfl
  · rcases Expression.compileChars_of_readable unreadable with
      ⟨expression, accepted, same, within⟩ | ⟨fault, refused, report⟩
    · refine .inl ⟨unreadable, expression, run_compileSource_ok accepted memory, same,
        fun factory token given => ?_⟩
      refine Expression.evaluate_congr within fun index inside => ?_
      rw [given index inside, Expression.provide, List.getElem?_eq_getElem inside]
    · refine .inr (.inl ⟨unreadable, fault.message, fault.column?, fault.code, ?_, ?_⟩)
      · rw [run_compileSource_error refused, report.toFault]
      · intro place known
        rw [Text.trim, String.length_ofList]
        exact report.inside place known

/-- A number followed by a NUL character is cut into pieces and unreadable. -/
example : (Expression.compile "1\x00").map (·.source) = .error .nulCharacter := by
  decide +kernel

end ReactiveSchema
