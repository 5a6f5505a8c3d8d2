import Mathlib.Data.List.Basic
import ReactiveSchema.Proofs.Act.Along
import ReactiveSchema.Proofs.Expr.Pieces
import ReactiveSchema.Expr.Evaluate

/-!
# Other names for tokens

When the tokens in the source of an expression get other names, each its own, the source falls
into the same pieces but for the names.  So the grammar reads the same text, and the expression
is the same one over tokens of other names.
-/

namespace ReactiveSchema

open ReactiveSchema.Text

/-! ## Pieces with other names -/

/-- How much of a text its first piece takes up. -/
def Piece.width (text : List Char) : Piece → Nat
  | quoted chars => chars.length
  | token name => name.length + 1
  | number chars => chars.length
  | word w => w.name.toList.length
  | sign _ =>
      match text with
      | [] => 0
      | c :: rest => (signAt c rest).2

/-- A piece under other names for tokens. -/
def Piece.rename (rename : List Char → List Char) : Piece → Piece
  | token name => token (rename name)
  | other => other

/-- What stands in a text for its first piece, under other names for tokens. -/
def Piece.written (rename : List Char → List Char) (text : List Char) : Piece → List Char
  | token name => sigil :: rename name
  | other => text.take (other.width text)

/-- A text of the given pieces under other names for tokens. -/
def renamePieces (rename : List Char → List Char) : List Piece → List Char → List Char
  | [], _ => []
  | piece :: others, text =>
      piece.written rename text ++ renamePieces rename others (text.drop (piece.width text))

/-- A sign stands within the text that starts with it. -/
theorem signAt_le_length (c : Char) (rest : List Char) : (signAt c rest).2 ≤ rest.length + 1 := by
  unfold signAt
  split
  case h_1 sign spelling found =>
    have fits := List.find?_some
      (p := fun row : List Char × List Char => row.1.isPrefixOf (c :: rest)) found
    exact (List.isPrefixOf_iff_prefix.mp fits).length_le
  case h_2 => exact Nat.le_add_left _ _

theorem Word.name_of_ofChars? {chars : List Char} {word : Word}
    (known : Word.ofChars? chars = some word) : word.name.toList = chars :=
  eq_of_beq (List.find?_some (p := fun word : Word => word.name.toList == chars) known)

/-- A text that falls into pieces starts with what its first piece takes up. -/
theorem Falls.front {text : List Char} {piece : Piece} {others : List Piece}
    (falls : Falls text (piece :: others)) :
    ∃ front after, text = front ++ after ∧ front ≠ [] ∧ piece.width text = front.length ∧
      Falls after others ∧ ∀ name, piece = .token name → front = sigil :: name := by
  cases falls with
  | @quoted quote body after _ opens ends inner =>
      exact ⟨quote :: body, after, rfl, List.cons_ne_nil _ _, rfl, inner, nofun⟩
  | @token name after _ named points inner =>
      refine ⟨sigil :: name, after, rfl, List.cons_ne_nil _ _, rfl, inner, ?_⟩
      rintro _ ⟨⟩
      rfl
  | @number c run after _ _ _ _ _ _ inner =>
      exact ⟨c :: run, after, rfl, List.cons_ne_nil _ _, rfl, inner, nofun⟩
  | @word c run after word _ _ _ _ _ known _ _ inner =>
      refine ⟨c :: run, after, rfl, List.cons_ne_nil _ _, ?_, inner, nofun⟩
      exact congrArg List.length (Word.name_of_ofChars? known)
  | @sign c rest _ _ inner =>
      refine ⟨c :: rest.take ((signAt c rest).2 - 1), rest.drop ((signAt c rest).2 - 1), ?_,
        List.cons_ne_nil _ _, ?_, inner, nofun⟩
      · rw [List.cons_append, List.take_append_drop]
      · have fits := signAt_le_length c rest
        have some := signAt_length c rest
        change (signAt c rest).2 = _
        rw [List.length_cons, List.length_take]
        omega

/-- The rest of a text gets other names after what stands for the first piece. -/
theorem renamePieces_append {piece : Piece} {front after : List Char}
    (width : piece.width (front ++ after) = front.length) (rename : List Char → List Char)
    (others : List Piece) :
    renamePieces rename (piece :: others) (front ++ after) =
      piece.written rename (front ++ after) ++ renamePieces rename others after := by
  rw [renamePieces, width, List.drop_left]

/-- Anything but a token stands in a text as it stood there. -/
theorem Piece.written_append {piece : Piece} {front after : List Char}
    (width : piece.width (front ++ after) = front.length) (rename : List Char → List Char)
    (plain : ∀ name, piece ≠ .token name) : piece.written rename (front ++ after) = front := by
  cases piece with
  | token name => exact absurd rfl (plain name)
  | _ =>
      dsimp only [Piece.written]
      rw [width, List.take_left]

/-- A sign is all that its piece takes up. -/
theorem renamePieces_sign (rename : List Char → List Char) (c : Char)
    (rest spelling : List Char) (others : List Piece) :
    renamePieces rename (.sign spelling :: others) (c :: rest) =
      c :: (rest.take ((signAt c rest).2 - 1) ++
        renamePieces rename others (rest.drop ((signAt c rest).2 - 1))) := by
  obtain ⟨length, same⟩ := Nat.exists_eq_add_of_lt (signAt_length c rest)
  simp [renamePieces, Piece.written, Piece.width, same]

/-! ## What follows a piece -/

/-- Two texts that no sign tells apart by what comes after it. -/
structure SameFront (text other : List Char) : Prop where
  first : text.head? = other.head?
  second : text.head? = some '=' → text.tail.head? = other.tail.head?

theorem SameFront.append {text other : List Char} (same : SameFront text other)
    (front : List Char) : SameFront (front ++ text) (front ++ other) := by
  rcases front with _ | ⟨c, _ | ⟨d, front⟩⟩
  · exact same
  · exact ⟨rfl, fun _ => same.first⟩
  · exact ⟨rfl, fun _ => rfl⟩

/-- A sign is known by the two characters after its first, and by the second if it needs to be. -/
theorem SameFront.signAt_eq {text other : List Char} (same : SameFront text other) (c : Char) :
    signAt c text = signAt c other := by
  obtain ⟨first, second⟩ := same
  rcases text with _ | ⟨d, text⟩
  · rcases other with _ | ⟨d, other⟩
    · rfl
    · cases first
  · rcases other with _ | ⟨e, other⟩
    · cases first
    · obtain rfl := Option.some.inj first
      by_cases equals : d = '='
      · subst equals
        have seconds := second rfl
        rcases text with _ | ⟨f, text⟩
        · rcases other with _ | ⟨g, other⟩
          · rfl
          · cases seconds
        · rcases other with _ | ⟨g, other⟩
          · cases seconds
          · obtain rfl := Option.some.inj seconds
            simp [signAt, signSpellings, List.find?_cons, List.isPrefixOf]
      · have apart : ('=' == d) = false := beq_eq_false_iff_ne.mpr (Ne.symm equals)
        simp [signAt, signSpellings, List.find?_cons, List.isPrefixOf, apart]

/-- What a text that falls into pieces comes to under other names. -/
theorem Falls.renamed_front {text : List Char} {piece : Piece} {others : List Piece}
    (falls : Falls text (piece :: others)) (rename : List Char → List Char) :
    ∃ c front after, text = c :: (front ++ after) ∧ Falls after others ∧
      ((∃ name, piece = .token name ∧ c = sigil ∧ renamePieces rename (piece :: others) text =
          sigil :: (rename name ++ renamePieces rename others after)) ∨
        renamePieces rename (piece :: others) text =
          c :: (front ++ renamePieces rename others after)) := by
  obtain ⟨front, after, rfl, nonempty, width, inner, sign⟩ := falls.front
  obtain ⟨c, front, rfl⟩ := List.exists_cons_of_ne_nil nonempty
  refine ⟨c, front, after, rfl, inner, ?_⟩
  rw [renamePieces_append width]
  by_cases token : ∃ name, piece = .token name
  · obtain ⟨name, rfl⟩ := token
    obtain ⟨rfl, -⟩ := List.cons.inj (sign name rfl)
    exact .inl ⟨name, rfl, rfl, rfl⟩
  · rw [Piece.written_append width rename fun name same => token ⟨name, same⟩]
    exact .inr rfl

/-- Under other names a text starts as it did. -/
theorem Falls.head?_rename {text : List Char} {found : List Piece} (falls : Falls text found)
    (rename : List Char → List Char) : (renamePieces rename found text).head? = text.head? := by
  cases found with
  | nil =>
      cases falls
      rfl
  | cons piece others =>
      obtain ⟨c, front, after, rfl, -, ⟨name, -, rfl, renamed⟩ | renamed⟩ :=
        falls.renamed_front rename
      · rw [renamed]
        rfl
      · rw [renamed]
        rfl

theorem Falls.sameFront_rename {text : List Char} {found : List Piece} (falls : Falls text found)
    (rename : List Char → List Char) : SameFront text (renamePieces rename found text) := by
  refine ⟨(falls.head?_rename rename).symm, fun equals => ?_⟩
  cases found with
  | nil =>
      cases falls
      rfl
  | cons piece others =>
      obtain ⟨c, front, after, rfl, inner, ⟨name, -, rfl, -⟩ | renamed⟩ :=
        falls.renamed_front rename
      · cases equals
      · rw [renamed]
        cases front with
        | nil => exact (inner.head?_rename rename).symm
        | cons d front => rfl

theorem signAt_point (rest : List Char) : signAt '.' rest = (['.'], 1) := by
  simp [signAt, signSpellings, List.isPrefixOf]

/-- A point is a piece of its own. -/
theorem Falls.point {text : List Char} {found : List Piece} (falls : Falls ('.' :: text) found) :
    ∃ others, found = .sign ['.'] :: others ∧ Falls text others := by
  have alone := signAt_point text
  generalize same : '.' :: text = whole at falls
  cases falls with
  | nil => cases same
  | quoted opens =>
      obtain ⟨rfl, -⟩ := List.cons.inj same
      rcases opens with opens | opens <;> cases opens
  | token => cases (List.cons.inj same).1
  | number _ _ digit =>
      obtain ⟨rfl, -⟩ := List.cons.inj same
      cases digit
  | word _ _ _ lettered =>
      obtain ⟨rfl, -⟩ := List.cons.inj same
      cases lettered
  | @sign c rest others plain inner =>
      obtain ⟨rfl, rfl⟩ := List.cons.inj same
      rw [alone] at inner ⊢
      exact ⟨others, rfl, inner⟩

/-- Under other names a text has no more than points before what does not belong to a path. -/
theorem Falls.points_rename {text : List Char} {found : List Piece} (falls : Falls text found)
    (rename : List Char → List Char) (points : ∀ c ∈ text.takeWhile isPathChar, c = '.') :
    ∀ c ∈ (renamePieces rename found text).takeWhile isPathChar, c = '.' := by
  induction text generalizing found with
  | nil =>
      cases falls
      exact points
  | cons c text ih =>
      by_cases path : isPathChar c = true
      case neg =>
        have first : (renamePieces rename found (c :: text)).head? = some c :=
          falls.head?_rename rename
        obtain ⟨rest, same⟩ := List.head?_eq_some_iff.mp first
        rw [same, List.takeWhile_cons_of_neg path]
        exact nofun
      case pos =>
        rw [List.takeWhile_cons_of_pos path] at points
        obtain rfl := points c List.mem_cons_self
        obtain ⟨others, rfl, inner⟩ := falls.point
        have alone := signAt_point text
        have renamed : renamePieces rename (.sign ['.'] :: others) ('.' :: text) =
            '.' :: renamePieces rename others text := by
          simp [renamePieces, Piece.written, Piece.width, alone]
        rw [renamed, List.takeWhile_cons_of_pos path]
        exact List.forall_mem_cons.mpr
          ⟨rfl, ih inner fun d known => points d (List.mem_cons_of_mem _ known)⟩

/-- A text falls into the same pieces under other names. -/
theorem Falls.rename {text : List Char} {found : List Piece} (falls : Falls text found)
    {rename : List Char → List Char} (named : ∀ name, .token name ∈ found →
      IsTokenName (rename name)) :
    Falls (renamePieces rename found text) (found.map (Piece.rename rename)) := by
  induction falls with
  | nil => exact .nil
  | @quoted quote body after others opens ends inner ih =>
      have renamed : renamePieces rename (.quoted (quote :: body) :: others)
          (quote :: (body ++ after)) = quote :: (body ++ renamePieces rename others after) := by
        simp [renamePieces, Piece.written, Piece.width]
      rw [renamed]
      exact .quoted opens (splitQuoted_of_append (ne_escape_of_quote opens) ends _)
        (ih fun name known => named name (List.mem_cons_of_mem _ known))
  | @token name after others old points inner ih =>
      have renamed : renamePieces rename (.token name :: others) (sigil :: (name ++ after)) =
          sigil :: (rename name ++ renamePieces rename others after) := by
        simp [renamePieces, Piece.written, Piece.width]
      rw [renamed]
      exact .token (named name List.mem_cons_self) (inner.points_rename rename points)
        (ih fun name known => named name (List.mem_cons_of_mem _ known))
  | @number c run after others unquoted unsigned digit accepted ends inner ih =>
      have renamed : renamePieces rename (.number (c :: run) :: others) (c :: (run ++ after)) =
          c :: (run ++ renamePieces rename others after) := by
        simp [renamePieces, Piece.written, Piece.width]
      rw [renamed]
      exact .number unquoted unsigned digit accepted (by rw [inner.head?_rename]; exact ends)
        (ih fun name known => named name (List.mem_cons_of_mem _ known))
  | @word c run after word others unquoted unsigned undigital lettered known accepted ends inner
      ih =>
      have renamed : renamePieces rename (.word word :: others) (c :: (run ++ after)) =
          c :: (run ++ renamePieces rename others after) := by
        simp [renamePieces, Piece.written, Piece.width, Word.name_of_ofChars? known]
      rw [renamed]
      exact .word unquoted unsigned undigital lettered known accepted
        (by rw [inner.head?_rename]; exact ends)
        (ih fun name known => named name (List.mem_cons_of_mem _ known))
  | @sign c rest others plain inner ih =>
      have fits : (rest.take ((signAt c rest).2 - 1)).length = (signAt c rest).2 - 1 := by
        have bound := signAt_le_length c rest
        rw [List.length_take]
        omega
      have same : signAt c (rest.take ((signAt c rest).2 - 1) ++
          renamePieces rename others (rest.drop ((signAt c rest).2 - 1))) = signAt c rest := by
        have known := (inner.sameFront_rename rename).append (rest.take ((signAt c rest).2 - 1))
        rw [← known.signAt_eq c, List.take_append_drop]
      have falls := @Falls.sign c (rest.take ((signAt c rest).2 - 1) ++
          renamePieces rename others (rest.drop ((signAt c rest).2 - 1))) _ plain (by
        rw [same, List.drop_left' fits]
        exact ih fun name known => named name (List.mem_cons_of_mem _ known))
      rw [same] at falls
      rw [renamePieces_sign]
      exact falls

/-! ## The tokens of pieces -/

/-- Different names among these get different names. -/
def KeepsApart {α β : Type} (rename : α → β) (names : List α) : Prop :=
  ∀ name ∈ names, ∀ other ∈ names, rename name = rename other → name = other

/-- The tokens with that of one more piece. -/
def addToken (tokens : List (List Char)) : Piece → List (List Char)
  | .token name => if tokens.contains name then tokens else tokens ++ [name]
  | _ => tokens

theorem tokensOf_eq (found : List Piece) : tokensOf found = found.foldl addToken [] := by
  have same : ∀ tokens, found.foldl (fun tokens piece =>
      match piece with
      | .token name => if tokens.contains name then tokens else tokens ++ [name]
      | _ => tokens) tokens = found.foldl addToken tokens := by
    induction found with
    | nil => exact fun _ => rfl
    | cons piece found ih => cases piece <;> exact fun _ => ih _
  exact same []

theorem mem_foldl_addToken {name : List Char} (found : List Piece) (tokens : List (List Char)) :
    name ∈ found.foldl addToken tokens ↔ name ∈ tokens ∨ .token name ∈ found := by
  induction found generalizing tokens with
  | nil => simp
  | cons piece found ih =>
      rw [List.foldl_cons, ih, List.mem_cons]
      cases piece with
      | token other =>
          dsimp only [addToken]
          split
          case isTrue known =>
            have old := List.contains_iff_mem.mp known
            constructor
            · rintro (known | known)
              · exact .inl known
              · exact .inr (.inr known)
            · rintro (known | same | known)
              · exact .inl known
              · cases same
                exact .inl old
              · exact .inr known
          case isFalse =>
            rw [List.mem_append, List.mem_singleton, Piece.token.injEq, or_assoc]
      | _ => simp [addToken]

theorem nodup_foldl_addToken (found : List Piece) {tokens : List (List Char)}
    (apart : tokens.Nodup) : (found.foldl addToken tokens).Nodup := by
  induction found generalizing tokens with
  | nil => exact apart
  | cons piece found ih =>
      apply ih
      cases piece with
      | token name =>
          dsimp only [addToken]
          split
          case isTrue => exact apart
          case isFalse fresh =>
            refine List.nodup_append.mpr ⟨apart, List.pairwise_singleton _ name, ?_⟩
            rintro other known _ added rfl
            rw [List.mem_singleton.mp added] at known
            exact fresh (List.contains_iff_mem.mpr known)
      | _ => exact apart

theorem foldl_addToken_map {rename : List Char → List Char} {names : List (List Char)}
    (apart : KeepsApart rename names) (found : List Piece) {tokens : List (List Char)}
    (old : ∀ name ∈ tokens, name ∈ names) (new : ∀ name, .token name ∈ found → name ∈ names) :
    (found.map (Piece.rename rename)).foldl addToken (tokens.map rename) =
      (found.foldl addToken tokens).map rename := by
  induction found generalizing tokens with
  | nil => rfl
  | cons piece found ih =>
      have later : ∀ name, .token name ∈ found → name ∈ names := fun name known =>
        new name (List.mem_cons_of_mem _ known)
      rw [List.map_cons, List.foldl_cons, List.foldl_cons]
      cases piece with
      | token name =>
          have named := new name List.mem_cons_self
          have same : (tokens.map rename).contains (rename name) = tokens.contains name := by
            rw [Bool.eq_iff_iff, List.contains_iff_mem, List.contains_iff_mem, List.mem_map]
            constructor
            · rintro ⟨other, known, same⟩
              rw [← apart other (old other known) name named same]
              exact known
            · exact fun known => ⟨name, known, rfl⟩
          unfold Piece.rename addToken
          dsimp only
          rw [same]
          split
          case isTrue => exact ih old later
          case isFalse =>
            rw [← List.map_singleton, ← List.map_append]
            refine ih (fun other known => ?_) later
            rcases List.mem_append.mp known with known | known
            · exact old other known
            · rw [List.mem_singleton.mp known]
              exact named
      | _ => exact ih old later

theorem mem_tokensOf {name : List Char} {found : List Piece} :
    name ∈ tokensOf found ↔ .token name ∈ found := by
  rw [tokensOf_eq, mem_foldl_addToken]
  exact ⟨fun known => known.resolve_left List.not_mem_nil, .inr⟩

theorem nodup_tokensOf (found : List Piece) : (tokensOf found).Nodup := by
  rw [tokensOf_eq]
  exact nodup_foldl_addToken found List.nodup_nil

/-- Names that are kept apart keep their order of first use. -/
theorem tokensOf_map {rename : List Char → List Char} {found : List Piece}
    (apart : KeepsApart rename (tokensOf found)) :
    tokensOf (found.map (Piece.rename rename)) = (tokensOf found).map rename := by
  rw [tokensOf_eq, tokensOf_eq]
  refine foldl_addToken_map apart found (fun _ known => absurd known List.not_mem_nil) ?_
  exact fun name known => mem_tokensOf.mpr known

/-- A name that is kept apart stays at its place. -/
theorem idxOf_map {rename : List Char → List Char} {tokens : List (List Char)}
    (apart : KeepsApart rename tokens) {name : List Char}
    (known : name ∈ tokens) : (tokens.map rename).idxOf (rename name) = tokens.idxOf name := by
  induction tokens with
  | nil => cases known
  | cons other tokens ih =>
      by_cases same : other = name
      · rw [same, List.map_cons, List.idxOf_cons_self, List.idxOf_cons_self]
      · have unequal : rename other ≠ rename name := fun equal =>
          same (apart other List.mem_cons_self name known equal)
        have later : name ∈ tokens := (List.mem_cons.mp known).resolve_left (Ne.symm same)
        have others : KeepsApart rename tokens := fun first mem second mem' =>
          apart first (List.mem_cons_of_mem _ mem) second (List.mem_cons_of_mem _ mem')
        rw [List.map_cons, List.idxOf_cons_ne _ unequal, List.idxOf_cons_ne _ same,
          ih others later]

/-- What is spelled out does not depend on the names of the tokens. -/
theorem spell_map {rename : List Char → List Char} {found : List Piece}
    (apart : KeepsApart rename (tokensOf found)) :
    spell (found.map (Piece.rename rename)) =
      ⟨(spell found).text, (spell found).tokens.map rename⟩ := by
  have spelled : (found.map (Piece.rename rename)).flatMap
      (Piece.spell ((tokensOf found).map rename)) = found.flatMap (Piece.spell (tokensOf found)) := by
    rw [List.flatMap_map]
    refine congrArg List.flatten (List.map_congr_left fun piece known => ?_)
    cases piece with
    | token name =>
        have place := idxOf_map apart (mem_tokensOf.mpr known)
        simp only [Piece.rename, Piece.spell, place]
    | _ => rfl
  unfold spell
  rw [tokensOf_map apart]
  dsimp only
  rw [spelled]

/-! ## Compiling under other names -/

/-- A renaming of texts, on characters. -/
def renameChars (rename : String → String) (name : List Char) : List Char :=
  (rename (String.ofList name)).toList

theorem map_ofList_renameChars (rename : String → String) (tokens : List (List Char)) :
    (tokens.map (renameChars rename)).map String.ofList =
      (tokens.map String.ofList).map rename := by
  rw [List.map_map, List.map_map]
  refine List.map_congr_left fun name _ => ?_
  exact String.ofList_toList

/-- Under other names an expression is refused alike, or is the same one over other tokens. -/
theorem compileChars_rename {rename : String → String} {source : List Char} {found : List Piece}
    (cut : pieces 0 source = .ok found)
    (named : ∀ name, .token name ∈ found → IsTokenName (renameChars rename name))
    (apart : KeepsApart (renameChars rename) (tokensOf found)) :
    Expression.compileChars (renamePieces (renameChars rename) found source) =
      (Expression.compileChars source).map fun old =>
        ⟨String.ofList (renamePieces (renameChars rename) found source),
          old.tokens.map rename, old.body⟩ := by
  have recut := ((falls_of_pieces cut).rename named).pieces_eq 0
  unfold Expression.compileChars
  rw [cut, recut]
  dsimp only [bind, Except.bind]
  rw [spell_map apart]
  dsimp only
  rcases Expression.treeOf (spell found).text with fault | tree
  · rfl
  · dsimp only
    rw [List.length_map]
    rcases tree.toExpr (spell found).tokens.length with fault | body
    · rfl
    · dsimp only [pure, Except.pure, Except.map]
      rw [map_ofList_renameChars]

/-! ## Blanks around other names -/

theorem isBlank_of_isPathChar {c : Char} (path : isPathChar c = true) : isBlank c = false := by
  refine Bool.eq_false_iff.mpr fun blank => ?_
  rw [isPathChar, isLetterOrNumeral_of_isBlank blank, Bool.false_or, Bool.or_eq_true,
    beq_iff_eq, beq_iff_eq] at path
  rcases path with rfl | rfl <;> cases blank

/-- A text ends as what it ends with does, or as what comes before that if it is empty. -/
theorem forall_getLast?_append {P : Char → Prop} {front after : List Char}
    (ends : ∀ c ∈ after.getLast?, P c) (otherwise : after = [] → ∀ c ∈ front.getLast?, P c) :
    ∀ c ∈ (front ++ after).getLast?, P c := by
  intro c last
  rw [List.getLast?_append] at last
  cases same : after.getLast? with
  | none =>
      rw [same] at last
      exact otherwise (List.getLast?_eq_none_iff.mp same) c last
  | some d =>
      rw [same] at last
      exact ends c (same ▸ last)

/-- Under other names a text that ends with no blank ends with none. -/
theorem Falls.getLast?_rename {text : List Char} {found : List Piece} (falls : Falls text found)
    {rename : List Char → List Char} (named : ∀ name, .token name ∈ found →
      IsTokenName (rename name)) (ends : ∀ c ∈ text.getLast?, isBlank c = false) :
    ∀ c ∈ (renamePieces rename found text).getLast?, isBlank c = false := by
  induction found generalizing text with
  | nil => exact nofun
  | cons piece others ih =>
      obtain ⟨c, front, after, rfl, inner, renamed⟩ := falls.renamed_front rename
      have later := ih inner (fun name known => named name (List.mem_cons_of_mem _ known))
        fun d last => ends d (by
          rw [← List.cons_append, List.getLast?_append, Option.mem_def.mp last]
          rfl)
      rcases renamed with ⟨name, rfl, -, renamed⟩ | renamed
      · have new := named name List.mem_cons_self
        rw [renamed, ← List.cons_append]
        refine forall_getLast?_append later fun _ d last => isBlank_of_isPathChar (new.path d ?_)
        rw [List.getLast?_cons_of_ne_nil new.nonempty] at last
        exact List.mem_of_getLast? last
      · rw [renamed, ← List.cons_append]
        refine forall_getLast?_append later fun empty d last => ends d ?_
        have same := inner.head?_rename rename
        rw [empty] at same
        rw [List.head?_eq_none_iff.mp same.symm, List.append_nil]
        exact last

/-- A source under other names for its tokens. -/
def renameTokens (rename : String → String) (source : String) : String :=
  match pieces 0 (trimBlanks source.toList) with
  | .ok found =>
      String.ofList (leadingBlanks source.toList ++
        (renamePieces (renameChars rename) found (trimBlanks source.toList) ++
          trailingBlanks source.toList))
  | .error _ => source

/-- Other names for tokens are names that tokens can have, each its own. -/
structure IsRenaming (rename : String → String) (tokens : List String) : Prop where
  named : ∀ token ∈ tokens, IsTokenName (rename token).toList
  apart : KeepsApart rename tokens

theorem KeepsApart.onChars {rename : String → String} {tokens : List (List Char)}
    (apart : KeepsApart rename (tokens.map String.ofList)) :
    KeepsApart (renameChars rename) tokens := by
  intro name known other known' same
  have equal := apart _ (List.mem_map_of_mem known) _ (List.mem_map_of_mem known')
    (String.toList_injective same)
  exact String.ofList_injective equal

/-- The pieces that an expression was compiled from. -/
theorem Expression.exists_pieces {source : List Char} {expression : Expression}
    (compiled : compileChars source = .ok expression) :
    ∃ found, pieces 0 source = .ok found ∧
      expression.tokens = (tokensOf found).map String.ofList := by
  unfold compileChars at compiled
  rcases cut : pieces 0 source with fault | found <;> rw [cut] at compiled
  · cases compiled
  · refine ⟨found, rfl, ?_⟩
    dsimp only [bind, Except.bind] at compiled
    rcases read : treeOf (spell found).text with fault | tree <;> rw [read] at compiled
    · cases compiled
    · dsimp only at compiled
      rcases lowered : tree.toExpr (spell found).tokens.length with fault | body <;>
        rw [lowered] at compiled
      · cases compiled
      · cases compiled
        rfl

/-- Under other names an expression is the same one over other tokens. -/
theorem compile_renameTokens {rename : String → String} {source : String} {old : Expression}
    (compiled : Expression.compile source = .ok old) (valid : IsRenaming rename old.tokens) :
    ∃ renamed, Expression.compile (renameTokens rename source) = .ok renamed ∧
      renamed.tokens = old.tokens.map rename ∧ renamed.body = old.body := by
  obtain ⟨found, cut, tokens⟩ := Expression.exists_pieces compiled
  have named : ∀ name, .token name ∈ found → IsTokenName (renameChars rename name) := by
    intro name known
    apply valid.named
    rw [tokens]
    exact List.mem_map_of_mem (mem_tokensOf.mpr known)
  have apart : KeepsApart (renameChars rename) (tokensOf found) :=
    KeepsApart.onChars (tokens ▸ valid.apart)
  have falls := falls_of_pieces cut
  have trimmed : trimBlanks (renameTokens rename source).toList =
      renamePieces (renameChars rename) found (trimBlanks source.toList) := by
    unfold renameTokens
    rw [cut]
    dsimp only
    rw [String.toList_ofList]
    refine trimBlanks_append (fun _ => isBlank_of_mem_leadingBlanks)
      (fun _ => isBlank_of_mem_trailingBlanks) ?_
      (falls.getLast?_rename named (getLast?_trimBlanks source.toList))
    rw [falls.head?_rename]
    exact head?_trimBlanks source.toList
  have old' : Expression.compileChars (trimBlanks source.toList) = .ok old := compiled
  refine ⟨⟨String.ofList (renamePieces (renameChars rename) found (trimBlanks source.toList)),
    old.tokens.map rename, old.body⟩, ?_, rfl, rfl⟩
  unfold Expression.compile
  rw [trimmed, compileChars_rename cut named apart, old']
  rfl

end ReactiveSchema
