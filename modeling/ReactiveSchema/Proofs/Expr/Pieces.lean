import ReactiveSchema.Proofs.Text.Blanks
import ReactiveSchema.Expr.Compile

/-!
# How source falls into pieces

A source has pieces if it is a piece followed by a source that has the others, and what
follows does not belong to the piece.  This says without columns and without recursion on
the length what cutting a text into pieces comes to.
-/

namespace ReactiveSchema

open ReactiveSchema.Text

/-- A name that a token can have: characters of a path, with no point at either end. -/
structure IsTokenName (name : List Char) : Prop where
  path : ∀ c ∈ name, isPathChar c = true
  nonempty : name ≠ []
  first : name.head? ≠ some '.'
  last : name.getLast? ≠ some '.'

/-- A character that starts neither a literal nor a token, a number or a word. -/
structure IsSignChar (c : Char) : Prop where
  unquoted : ¬ (c = '\'' ∨ c = '"')
  unsigned : c ≠ sigil
  undigital : ¬ isDigit c = true
  unlettered : ¬ (isLetter c || c == '_') = true

/-- A text falls into pieces. -/
inductive Falls : List Char → List Piece → Prop where
  | nil : Falls [] []
  | quoted {quote : Char} {body after : List Char} {others : List Piece} :
      quote = '\'' ∨ quote = '"' → splitQuoted quote (body ++ after) = some (body, after) →
        Falls after others → Falls (quote :: (body ++ after)) (.quoted (quote :: body) :: others)
  | token {name after : List Char} {others : List Piece} :
      IsTokenName name → (∀ c ∈ after.takeWhile isPathChar, c = '.') →
        Falls after others → Falls (sigil :: (name ++ after)) (.token name :: others)
  | number {c : Char} {run after : List Char} {others : List Piece} :
      ¬ (c = '\'' ∨ c = '"') → c ≠ sigil → isDigit c = true →
        (∀ d ∈ run, isNumberChar d = true) → (∀ d ∈ after.head?, isNumberChar d = false) →
          Falls after others → Falls (c :: (run ++ after)) (.number (c :: run) :: others)
  | word {c : Char} {run after : List Char} {word : Word} {others : List Piece} :
      ¬ (c = '\'' ∨ c = '"') → c ≠ sigil → ¬ isDigit c = true →
        (isLetter c || c == '_') = true → Word.ofChars? (c :: run) = some word →
          (∀ d ∈ run, isWordChar d = true) → (∀ d ∈ after.head?, isWordChar d = false) →
            Falls after others → Falls (c :: (run ++ after)) (.word word :: others)
  | sign {c : Char} {rest : List Char} {others : List Piece} :
      IsSignChar c → Falls (rest.drop ((signAt c rest).2 - 1)) others →
        Falls (c :: rest) (.sign (signAt c rest).1 :: others)

/-! ## Runs -/

theorem drop_length_takeWhile (p : Char → Bool) (text : List Char) :
    text.drop (text.takeWhile p).length = text.dropWhile p := by
  calc
    text.drop (text.takeWhile p).length
        = (text.takeWhile p ++ text.dropWhile p).drop (text.takeWhile p).length := by
      rw [List.takeWhile_append_dropWhile]
    _ = text.dropWhile p := List.drop_left

/-- The longest run of accepted characters, given what it is and that nothing goes on with it. -/
theorem takeWhile_append_of_head? {p : Char → Bool} {run after : List Char}
    (accepted : ∀ c ∈ run, p c = true) (ends : ∀ c ∈ after.head?, p c = false) :
    (run ++ after).takeWhile p = run := by
  rw [List.takeWhile_append_of_pos accepted]
  cases after with
  | nil => rw [List.takeWhile_nil, List.append_nil]
  | cons c after =>
      rw [List.takeWhile_cons_of_neg (by rw [ends c rfl]; exact Bool.false_ne_true), List.append_nil]

/-! ## Points -/

theorem exists_trimPoints (path : List Char) :
    ∃ points, path = trimPoints path ++ points ∧ ∀ c ∈ points, c = '.' := by
  refine ⟨(path.reverse.takeWhile (· == '.')).reverse, ?_, fun c point => ?_⟩
  · unfold trimPoints
    rw [← List.reverse_append, List.takeWhile_append_dropWhile, List.reverse_reverse]
  · have held := List.mem_takeWhile_imp (List.mem_reverse.mp point)
    exact eq_of_beq held

theorem getLast?_trimPoints (path : List Char) : (trimPoints path).getLast? ≠ some '.' := by
  unfold trimPoints
  rw [List.getLast?_reverse]
  intro first
  have refused := head?_dropWhile_false (p := (· == '.')) path.reverse '.' first
  cases refused

/-- A name is what is left of itself with points after it. -/
theorem trimPoints_append {name points : List Char} (last : name.getLast? ≠ some '.')
    (all : ∀ c ∈ points, c = '.') : trimPoints (name ++ points) = name := by
  have gone : ∀ c ∈ points.reverse, (c == '.') = true := fun c point =>
    beq_iff_eq.mpr (all c (List.mem_reverse.mp point))
  unfold trimPoints
  rw [List.reverse_append, List.dropWhile_append_of_pos gone]
  cases same : name.reverse with
  | nil =>
      rw [← List.reverse_reverse name, same]
      rfl
  | cons c rest =>
      have apart : c ≠ '.' := by
        rintro rfl
        rw [← List.head?_reverse, same] at last
        exact last rfl
      rw [List.dropWhile_cons_of_neg (by simpa using apart), ← same, List.reverse_reverse]

/-! ## Literals -/

/-- A literal ends where it ends, whatever follows. -/
theorem splitQuoted_of_append {quote : Char} {text body after : List Char} (plain : quote ≠ '\\')
    (found : splitQuoted quote text = some (body, after)) (other : List Char) :
    splitQuoted quote (body ++ other) = some (body, other) := by
  fun_induction splitQuoted quote text generalizing body after with
  | case1 => cases found
  | case2 => cases found
  | case3 c rest ih =>
      obtain ⟨⟨inner, tail⟩, known, same⟩ := Option.map_eq_some_iff.mp found
      obtain ⟨rfl, rfl⟩ := Prod.mk.inj same
      simp only [List.cons_append, splitQuoted, ih known, Option.map_some]
  | case4 rest =>
      obtain ⟨rfl, rfl⟩ := Prod.mk.inj (Option.some.inj found)
      unfold splitQuoted
      split <;> simp_all
  | case5 c rest lone paired other ih =>
      obtain ⟨⟨inner, tail⟩, known, same⟩ := Option.map_eq_some_iff.mp found
      obtain ⟨rfl, rfl⟩ := Prod.mk.inj same
      have escaped : c ≠ '\\' := by
        rintro rfl
        cases rest with
        | nil => exact lone rfl rfl
        | cons d rest => exact paired d rest rfl rfl
      unfold splitQuoted
      split <;> simp_all

/-! ## Cutting -/

theorem ne_escape_of_quote {quote : Char} (opens : quote = '\'' ∨ quote = '"') :
    quote ≠ '\\' := by
  rcases opens with rfl | rfl <;> decide

theorem exists_of_map_eq_ok {ε α β : Type} {change : α → β} {result : Except ε α} {value : β}
    (same : result.map change = .ok value) : ∃ given, result = .ok given ∧ change given = value := by
  cases result with
  | error fault => cases same
  | ok given => exact ⟨given, rfl, Except.ok.inj same⟩

/-- What is left of a run of path characters names a token, unless it is refused. -/
theorem isTokenName_trimPoints {text : List Char}
    (named : ¬ ((trimPoints (text.takeWhile isPathChar)).isEmpty ||
      (trimPoints (text.takeWhile isPathChar)).head? == some '.') = true) :
    IsTokenName (trimPoints (text.takeWhile isPathChar)) := by
  obtain ⟨points, whole, -⟩ := exists_trimPoints (text.takeWhile isPathChar)
  rw [Bool.or_eq_true, not_or] at named
  constructor
  case path =>
    intro c known
    have inside : c ∈ text.takeWhile isPathChar := by
      rw [whole]
      exact List.mem_append_left points known
    exact List.mem_takeWhile_imp inside
  case nonempty => exact fun empty => named.1 (List.isEmpty_iff.mpr empty)
  case first => exact fun point => named.2 (beq_iff_eq.mpr point)
  case last => exact getLast?_trimPoints _

/-- After a token only points may be left of the run that it was cut from. -/
theorem exists_token_cut (text : List Char) :
    ∃ after, trimPoints (text.takeWhile isPathChar) ++ after = text ∧
      text.drop (trimPoints (text.takeWhile isPathChar)).length = after ∧
        ∀ c ∈ after.takeWhile isPathChar, c = '.' := by
  obtain ⟨points, whole, all⟩ := exists_trimPoints (text.takeWhile isPathChar)
  have joined : trimPoints (text.takeWhile isPathChar) ++ (points ++ text.dropWhile isPathChar) =
      text := by
    rw [← List.append_assoc, ← whole, List.takeWhile_append_dropWhile]
  refine ⟨points ++ text.dropWhile isPathChar, joined, ?_, ?_⟩
  · generalize trimPoints (text.takeWhile isPathChar) = name at joined
    rw [← joined, List.drop_left, joined]
  · have accepted : ∀ c ∈ points, isPathChar c = true := by
      intro c point
      rw [all c point]
      decide
    rw [takeWhile_append_of_head? accepted (head?_dropWhile_false text)]
    exact all

/-- Cutting a text finds what it falls into. -/
theorem falls_of_pieces {column : Nat} {text : List Char} {found : List Piece}
    (cut : pieces column text = .ok found) : Falls text found := by
  fun_induction pieces column text generalizing found with
  | case1 => cases cut; exact .nil
  | case2 => cases cut
  | case3 column quote rest opens body after ends ih =>
      obtain ⟨others, known, rfl⟩ := exists_of_map_eq_ok cut
      rw [splitQuoted_append ends]
      exact .quoted opens (splitQuoted_of_append (ne_escape_of_quote opens) ends after) (ih known)
  | case4 => cases cut
  | case5 column rest name named =>
      rename_i ih
      obtain ⟨others, known, rfl⟩ := exists_of_map_eq_ok cut
      obtain ⟨after, whole, same, points⟩ := exists_token_cut rest
      have falls := ih known
      rw [same] at falls
      rw [← whole]
      exact .token (isTokenName_trimPoints named) points falls
  | case6 column c rest unquoted unsigned digit run =>
      rename_i ih
      obtain ⟨others, known, rfl⟩ := exists_of_map_eq_ok cut
      have falls := ih known
      rw [drop_length_takeWhile] at falls
      rw [← List.takeWhile_append_dropWhile (p := isNumberChar) (l := rest)]
      exact .number unquoted unsigned digit (fun _ => List.mem_takeWhile_imp)
        (head?_dropWhile_false rest) falls
  | case7 => cases cut
  | case8 column c rest unquoted unsigned undigital lettered run word spelled =>
      rename_i ih
      obtain ⟨others, known, rfl⟩ := exists_of_map_eq_ok cut
      have falls := ih known
      rw [drop_length_takeWhile] at falls
      rw [← List.takeWhile_append_dropWhile (p := isWordChar) (l := rest)]
      exact .word unquoted unsigned undigital lettered spelled (fun _ => List.mem_takeWhile_imp)
        (head?_dropWhile_false rest) falls
  | case9 column c rest unquoted unsigned undigital unlettered spelling length sign ih =>
      obtain ⟨others, known, rfl⟩ := exists_of_map_eq_ok cut
      have falls := Falls.sign ⟨unquoted, unsigned, undigital, unlettered⟩ (by
        rw [sign]
        exact ih known)
      rw [sign] at falls
      exact falls

/-- A text is cut into what it falls into. -/
theorem Falls.pieces_eq {text : List Char} {found : List Piece} (falls : Falls text found)
    (column : Nat) : pieces column text = .ok found := by
  induction falls generalizing column with
  | nil => unfold pieces; rfl
  | @quoted quote body after others opens ends _ ih =>
      unfold pieces
      rw [if_pos opens]
      split
      case h_1 none => rw [ends] at none; cases none
      case h_2 inner rest found =>
        rw [ends] at found
        cases found
        rw [ih]
        rfl
  | @token name after others named points _ ih =>
      have whole : (name ++ after).takeWhile isPathChar = name ++ after.takeWhile isPathChar :=
        List.takeWhile_append_of_pos named.path
      have trimmed : trimPoints ((name ++ after).takeWhile isPathChar) = name := by
        rw [whole, trimPoints_append named.last points]
      have accepted : (name.isEmpty || name.head? == some '.') = false := by
        rw [Bool.or_eq_false_iff]
        exact ⟨Bool.eq_false_iff.mpr (named.nonempty ∘ List.isEmpty_iff.mp),
          beq_eq_false_iff_ne.mpr named.first⟩
      unfold pieces
      rw [if_neg (by decide), if_pos rfl]
      dsimp only
      rw [trimmed, accepted, if_neg Bool.false_ne_true, List.drop_left, ih]
      rfl
  | @number c run after others unquoted unsigned digit accepted ends _ ih =>
      unfold pieces
      rw [if_neg unquoted, if_neg unsigned, if_pos digit]
      dsimp only
      rw [takeWhile_append_of_head? accepted ends, List.drop_left, ih]
      rfl
  | @word c run after word others unquoted unsigned undigital lettered known accepted ends _ ih =>
      unfold pieces
      rw [if_neg unquoted, if_neg unsigned, if_neg undigital, if_pos lettered]
      dsimp only
      rw [takeWhile_append_of_head? accepted ends, known]
      dsimp only
      rw [List.drop_left, ih]
      rfl
  | @sign c rest others plain _ ih =>
      unfold pieces
      rw [if_neg plain.unquoted, if_neg plain.unsigned, if_neg plain.undigital,
        if_neg plain.unlettered]
      dsimp only
      rw [ih]
      rfl

end ReactiveSchema
