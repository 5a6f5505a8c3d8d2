import ReactiveSchema.Proofs.Memory.Mirrors
import ReactiveSchema.Proofs.Observe.Looks
import ReactiveSchema.Proofs.Observe.TandemFaces

/-!
# Values in tandem

Twins compare alike, read alike and are written out by the same text.
-/

namespace ReactiveSchema

variable {α : Type} {extent large : Extent} {moved : Relocation} {first : FirstLook}

/-! ## How values are compared -/

/-- What equality goes by: the parts of a container of its kind, or the value as such. -/
inductive ComparedAs where
  | incomparable
  | tuple
  | list
  | map
  | node
  | whole
  deriving DecidableEq

def Value.comparedAs : Value → ComparedAs
  | .incomparable _ => .incomparable
  | .tuple _ => .tuple
  | .list _ => .list
  | .map _ => .map
  | .node _ => .node
  | _ => .whole

theorem Twin.comparedAs {a b : Value} (same : Twin moved extent a b) :
    a.comparedAs = b.comparedAs := by
  cases same <;> rfl

namespace Observe

/-- Equality of values of which not both are containers of one kind. -/
def equalWhole (deeper : Value → Value → Observe Bool) (a b : Value) : Observe Bool := do
  if (a.isMapping && b.isMapping) then
    let left ← readEntries a
    let right ← readEntries b
    sameEntries deeper left right
  else
    match a.num?, b.num? with
    | some m, some n => return m.eq n
    | _, _ => return a.identical b

theorem equalStep_whole {deeper : Value → Value → Observe Bool} {a b : Value}
    (left : a.comparedAs ≠ .incomparable) (right : b.comparedAs ≠ .incomparable)
    (apart : a.comparedAs = b.comparedAs → a.comparedAs = .whole) :
    equalStep deeper a b = equalWhole deeper a b := by
  unfold equalStep
  split
  case h_1 => exact absurd rfl left
  case h_2 => exact absurd rfl right
  case h_7 => rfl
  all_goals cases apart rfl

theorem equalStep_left (deeper : Value → Value → Observe Bool) {a : Value} (b : Value)
    (left : a.comparedAs = .incomparable) : equalStep deeper a b = fail .notComparable := by
  cases a
  case incomparable => rfl
  all_goals cases left

theorem equalStep_right (deeper : Value → Value → Observe Bool) (a : Value) {b : Value}
    (right : b.comparedAs = .incomparable) : equalStep deeper a b = fail .notComparable := by
  cases b
  case incomparable => cases a <;> rfl
  all_goals cases right

/-- The order of values of which not both are texts or sequences of one kind. -/
def orderWhole (test : OrderTest) (a b : Value) : Observe (Option Bool) :=
  match a.num?, b.num? with
  | some m, some n =>
      if m.isComplex || n.isComplex then pure none
      else pure (some ((m.order? n).any test.accepts))
  | _, _ => pure none

/-- Are two values ordered by their parts? -/
def orderedByParts (a b : Value) : Prop :=
  a.isStr = true ∧ b.isStr = true ∨
    a.comparedAs = b.comparedAs ∧ (a.comparedAs = .tuple ∨ a.comparedAs = .list)

theorem orderStep_whole {test : OrderTest} {deeper : Value → Value → Observe (Option Bool)}
    {a b : Value} (apart : ¬ orderedByParts a b) :
    orderStep test deeper a b = orderWhole test a b := by
  unfold orderStep
  split
  case h_1 => exact absurd (.inl ⟨rfl, rfl⟩) apart
  case h_2 => exact absurd (.inr ⟨rfl, .inl rfl⟩) apart
  case h_3 => exact absurd (.inr ⟨rfl, .inr rfl⟩) apart
  case h_4 => rfl

end Observe

namespace Tandem

/-- Two ways of comparing take twins alike. -/
def ComparesAlike (first : FirstLook) (compares compares' : Value → Value → Observe α) : Prop :=
  ∀ {extent : Extent} {a a' b b' : Value}, Twin first.moves extent a a' →
    Twin first.moves extent b b' →
      Tandem first extent Same (compares a b) (compares' a' b')

/-! ## Equality -/

section Equality

variable {deeper deeper' : Value → Value → Observe Bool}

theorem sameOr (each : ComparesAlike first deeper deeper') :
    ComparesAlike first (Observe.sameOr deeper) (Observe.sameOr deeper') := by
  intro extent a a' b b' left right
  unfold Observe.sameOr
  rw [left.identical right]
  split
  · exact pure fun _ _ => rfl
  · exact each left right

theorem allSame (each : ComparesAlike first deeper deeper') {xs xs' ys ys' : List Value}
    (left : Twins first.moves extent xs xs') (right : Twins first.moves extent ys ys') :
    Tandem first extent Same (Observe.allSame deeper xs ys) (Observe.allSame deeper' xs' ys') := by
  induction xs generalizing extent xs' ys ys' with
  | nil =>
      cases left
      exact pure fun _ _ => rfl
  | cons x xs ih =>
      cases left with
      | cons head rest =>
          cases right with
          | nil => exact pure fun _ _ => rfl
          | cons head' rest' =>
              refine bind_same (sameOr each head head') fun large same fits => ?_
              split
              · exact ih (Twin.monoAll fits rest) (Twin.monoAll fits rest')
              · exact pure fun _ _ => rfl

theorem sameEntries (each : ComparesAlike first deeper deeper')
    {left left' right right' : Entries Value} (lefts : EntryTwins first.moves extent left left')
    (rights : EntryTwins first.moves extent right right') :
    Tandem first extent Same (Observe.sameEntries deeper left right)
      (Observe.sameEntries deeper' left' right') := by
  have all {large : Extent} (fits : extent.Fits large) {entries entries' : Entries Value}
      (twins : EntryTwins first.moves large entries entries') :
      Tandem first large Same (Observe.sameEntries.each deeper right entries)
        (Observe.sameEntries.each deeper' right' entries') := by
    induction entries generalizing large entries' with
    | nil =>
        cases twins
        exact pure fun _ _ => rfl
    | cons entry entries ih =>
        cases twins with
        | cons pair rest =>
            have found := (rights.mono fits).find? pair.1
            unfold Observe.sameEntries.each
            generalize right.find? _ = known at found ⊢
            generalize right'.find? _ = known' at found ⊢
            cases found with
            | none => exact pure fun _ _ => rfl
            | some found =>
                refine bind_same (sameOr each pair.2 found) fun larger same more => ?_
                split
                · exact ih (fits.trans more) (EntryTwins.mono more rest)
                · exact pure fun _ _ => rfl
  unfold Observe.sameEntries
  rw [lefts.length_eq, rights.length_eq]
  split
  · exact pure fun _ _ => rfl
  · exact all (.refl _) lefts

theorem readEntries {value twin : Value} (same : Twin first.moves extent value twin) :
    Tandem first extent (EntryTwins first.moves) (Observe.readEntries value)
      (Observe.readEntries twin) := by
  cases same with
  | map there moves =>
      cases moves
      exact bind get fun _ _ _ fits mirrors =>
        pure fun _ more => (mirrors.maps (Nat.lt_of_lt_of_le there fits.maps)).mono more
  | liveMap there => exact liveMapItems there
  | _ => exact pure fun _ _ => .nil

theorem equalWhole (each : ComparesAlike first deeper deeper') :
    ComparesAlike first (Observe.equalWhole deeper) (Observe.equalWhole deeper') := by
  intro extent a a' b b' left right
  unfold Observe.equalWhole
  rw [left.isMapping, right.isMapping, left.num?, right.num?, left.identical right]
  split
  · refine bind (readEntries left) fun large entries _ fits lefts => ?_
    refine bind (readEntries (right.mono fits)) fun larger entries' _ more rights => ?_
    exact sameEntries each (lefts.mono more) rights
  · split
    · exact pure fun _ _ => rfl
    · exact pure fun _ _ => rfl

/-- Values of which not both are containers of one kind compare alike. -/
theorem equalApart (each : ComparesAlike first deeper deeper') {a a' b b' : Value}
    (left : Twin first.moves extent a a') (right : Twin first.moves extent b b')
    (apart : a.comparedAs = b.comparedAs → a.comparedAs = .whole) :
    Tandem first extent Same (Observe.equalStep deeper a b) (Observe.equalStep deeper' a' b') := by
  by_cases bad : a.comparedAs = .incomparable
  · rw [Observe.equalStep_left deeper b bad,
      Observe.equalStep_left deeper' b' (left.comparedAs ▸ bad)]
    exact fail _
  by_cases bad' : b.comparedAs = .incomparable
  · rw [Observe.equalStep_right deeper a bad',
      Observe.equalStep_right deeper' a' (right.comparedAs ▸ bad')]
    exact fail _
  rw [Observe.equalStep_whole bad bad' apart]
  rw [left.comparedAs] at bad apart
  rw [right.comparedAs] at bad' apart
  rw [Observe.equalStep_whole bad bad' apart]
  exact equalWhole each left right

theorem equalFlat (each : ComparesAlike first deeper deeper') {a a' b b' : Value}
    (left : Twin first.moves extent a a') (right : Twin first.moves extent b b')
    (flat : a.comparedAs ≠ .tuple) :
    Tandem first extent Same (Observe.equalStep deeper a b) (Observe.equalStep deeper' a' b') := by
  by_cases apart : a.comparedAs = b.comparedAs → a.comparedAs = .whole
  · exact equalApart each left right apart
  obtain ⟨same, part⟩ := Classical.not_imp.mp apart
  cases left
  case tuple => exact absurd rfl flat
  case incomparable => exact fail _
  case list there moves =>
    cases right <;> cases same
    case list there' moves' =>
      cases moves
      cases moves'
      refine bind get fun large memory other fits mirrors => ?_
      have lefts := mirrors.lists (Nat.lt_of_lt_of_le there fits.lists)
      have rights := mirrors.lists (Nat.lt_of_lt_of_le there' fits.lists)
      dsimp only
      rw [lefts.length_eq, rights.length_eq]
      split
      · exact pure fun _ _ => rfl
      · exact allSame each lefts rights
  case map there moves =>
    cases right <;> cases same
    case map there' moves' =>
      cases moves
      cases moves'
      exact bind get fun large memory other fits mirrors =>
        sameEntries each (mirrors.maps (Nat.lt_of_lt_of_le there fits.maps))
          (mirrors.maps (Nat.lt_of_lt_of_le there' fits.maps))
  case node there moves =>
    cases right <;> cases same
    case node there' moves' =>
      cases moves
      cases moves'
      refine bind get fun large memory other fits mirrors => ?_
      have left := mirrors.nodes (Nat.lt_of_lt_of_le there fits.nodes)
      have right := mirrors.nodes (Nat.lt_of_lt_of_le there' fits.nodes)
      exact allSame each (.cons left.type (.cons left.props (.cons left.children .nil)))
        (.cons right.type (.cons right.props (.cons right.children .nil)))
  all_goals exact absurd rfl part

mutual

theorem equalStep (each : ComparesAlike first deeper deeper') :
    ∀ {extent : Extent} {a a' b b' : Value}, Twin first.moves extent a a' →
      Twin first.moves extent b b' →
      Tandem first extent Same (Observe.equalStep deeper a b) (Observe.equalStep deeper' a' b')
  | _, .tuple xs, .tuple ys, b, b', .tuple lefts, right => by
      by_cases both : b.comparedAs = .tuple
      · cases right
        case tuple rights =>
          refine bind_same (equalTuples each lefts rights) fun large same fits => ?_
          rw [lefts.length_eq, rights.length_eq]
          split
          · exact pure fun _ _ => rfl
          · exact pure fun _ _ => rfl
        all_goals cases both
      · exact equalApart each (.tuple lefts) right fun same => absurd same.symm both
  | _, .none, _, _, _, left, right | _, .undefined, _, _, _, left, right
  | _, .missing, _, _, _, left, right | _, .ellipsis, _, _, _, left, right
  | _, .bool _, _, _, _, left, right | _, .int _, _, _, _, left, right
  | _, .float _, _, _, _, left, right | _, .nan _, _, _, _, left, right
  | _, .complex _ _, _, _, _, left, right | _, .str _, _, _, _, left, right
  | _, .list _, _, _, _, left, right | _, .map _, _, _, _, left, right
  | _, .liveList _, _, _, _, left, right | _, .liveMap _, _, _, _, left, right
  | _, .text _, _, _, _, left, right | _, .node _, _, _, _, left, right
  | _, .function _, _, _, _, left, right | _, .component _, _, _, _, left, right
  | _, .object _, _, _, _, left, right | _, .incomparable _, _, _, _, left, right
  | _, .ref _, _, _, _, left, right | _, .scope _, _, _, _, left, right
  | _, .handle _ _, _, _, _, left, right | _, .method _ _, _, _, _, left, right
  | _, .other _, _, _, _, left, right => equalFlat each left right nofun

theorem equalTuples (each : ComparesAlike first deeper deeper') :
    ∀ {extent : Extent} {xs xs' ys ys' : List Value}, Twins first.moves extent xs xs' →
      Twins first.moves extent ys ys' →
      Tandem first extent Same (Observe.equalStep.equalTuples deeper xs ys)
        (Observe.equalStep.equalTuples deeper' xs' ys')
  | _, [], _, _, _, .nil, _ => pure fun _ _ => rfl
  | _, _ :: _, _, _, _, .cons .., .nil => pure fun _ _ => rfl
  | _, x :: xs, _, _, _, .cons left lefts, .cons right rights => by
      unfold Observe.equalStep.equalTuples
      rw [left.identical right]
      split
      · exact equalTuples each lefts rights
      · refine bind_same (equalStep each left right) fun large same fits => ?_
        split
        · exact equalTuples each (Twin.monoAll fits lefts) (Twin.monoAll fits rights)
        · exact pure fun _ _ => rfl

end

theorem equalWithin (depth : Nat) :
    ComparesAlike first (Observe.equalWithin depth) (Observe.equalWithin depth) := by
  induction depth with
  | zero => exact fun _ _ => throw .exhausted
  | succ depth ih => exact equalStep ih

theorem equal : ComparesAlike first Observe.equal Observe.equal := by
  intro extent a a' b b' left right
  refine bind get fun large memory other fits mirrors => ?_
  rw [mirrors.levels]
  exact equalWithin _ (left.mono fits) (right.mono fits)

theorem hasChanged : ComparesAlike first Observe.hasChanged Observe.hasChanged := by
  intro extent a a' b b' left right
  unfold Observe.hasChanged
  rw [left.identical right, left.isLive, right.isLive, left.typeName, right.typeName]
  split
  · exact pure fun _ _ => rfl
  · split
    · exact pure fun _ _ => rfl
    · split
      · exact pure fun _ _ => rfl
      · refine tryCatch ?_ fun large f g fits same => ?_
        · exact bind_same (equal left right) fun _ _ _ => pure fun _ _ => rfl
        · rw [same.isCatchable]
          split
          · exact pure fun _ _ => rfl
          · exact throw same

theorem isAmong {value twin : Value} {items others : List Value}
    (same : Twin first.moves extent value twin) (all : Twins first.moves extent items others) :
    Tandem first extent Same (Observe.isAmong value items) (Observe.isAmong twin others) := by
  induction items generalizing extent others with
  | nil =>
      cases all
      exact pure fun _ _ => rfl
  | cons item items ih =>
      cases all with
      | cons head rest =>
          refine bind_same (sameOr equal head same) fun large found fits => ?_
          split
          · exact pure fun _ _ => rfl
          · exact ih (same.mono fits) (Twin.monoAll fits rest)

end Equality

/-! ## Order -/

section Order

variable {test : Observe.OrderTest} {deeper deeper' : Value → Value → Observe (Option Bool)}

theorem orderWhole :
    ComparesAlike first (Observe.orderWhole test) (Observe.orderWhole test) := by
  intro extent a a' b b' left right
  unfold Observe.orderWhole
  rw [left.num?, right.num?]
  split
  · split
    · exact pure fun _ _ => rfl
    · exact pure fun _ _ => rfl
  · exact pure fun _ _ => rfl

theorem orderLists (each : ComparesAlike first deeper deeper') (lengths : Ordering)
    {xs xs' ys ys' : List Value} (left : Twins first.moves extent xs xs')
    (right : Twins first.moves extent ys ys') :
    Tandem first extent Same (Observe.orderStep.orderLists test deeper lengths xs ys)
      (Observe.orderStep.orderLists test deeper' lengths xs' ys') := by
  induction xs generalizing extent xs' ys ys' with
  | nil =>
      cases left
      exact pure fun _ _ => rfl
  | cons x xs ih =>
      cases left with
      | cons head rest =>
          cases right with
          | nil => exact pure fun _ _ => rfl
          | cons head' rest' =>
              refine bind_same (sameOr equal head head') fun large same fits => ?_
              split
              · exact ih (Twin.monoAll fits rest) (Twin.monoAll fits rest')
              · exact each (head.mono fits) (head'.mono fits)

theorem orderFlat (each : ComparesAlike first deeper deeper') {a a' b b' : Value}
    (left : Twin first.moves extent a a') (right : Twin first.moves extent b b')
    (flat : a.comparedAs = b.comparedAs → a.comparedAs ≠ .tuple) :
    Tandem first extent Same (Observe.orderStep test deeper a b)
      (Observe.orderStep test deeper' a' b') := by
  by_cases parts : Observe.orderedByParts a b
  · obtain ⟨text, text'⟩ | ⟨same, tuple | list⟩ := parts
    · cases left
      case str =>
        cases right
        case str => exact pure fun _ _ => rfl
        all_goals cases text'
      all_goals cases text
    · exact absurd tuple (flat same)
    · cases left
      case list there moves =>
        cases right
        case list there' moves' =>
          cases moves
          cases moves'
          refine bind get fun large memory other fits mirrors => ?_
          have lefts := mirrors.lists (Nat.lt_of_lt_of_le there fits.lists)
          have rights := mirrors.lists (Nat.lt_of_lt_of_le there' fits.lists)
          dsimp only
          rw [lefts.length_eq, rights.length_eq]
          exact orderLists each _ lefts rights
        all_goals cases same
      all_goals cases list
  · rw [Observe.orderStep_whole parts]
    unfold Observe.orderedByParts at parts
    rw [left.isStr, right.isStr, left.comparedAs, right.comparedAs] at parts
    rw [Observe.orderStep_whole parts]
    exact orderWhole left right

mutual

theorem orderStep (each : ComparesAlike first deeper deeper') :
    ∀ {extent : Extent} {a a' b b' : Value}, Twin first.moves extent a a' →
      Twin first.moves extent b b' →
      Tandem first extent Same (Observe.orderStep test deeper a b)
        (Observe.orderStep test deeper' a' b')
  | _, .tuple xs, .tuple ys, b, b', .tuple lefts, right => by
      by_cases both : b.comparedAs = .tuple
      · cases right
        case tuple rights =>
          unfold Observe.orderStep
          rw [lefts.length_eq, rights.length_eq]
          exact orderTuples each _ lefts rights
        all_goals cases both
      · exact orderFlat each (.tuple lefts) right fun same => absurd same.symm both
  | _, .none, _, _, _, left, right | _, .undefined, _, _, _, left, right
  | _, .missing, _, _, _, left, right | _, .ellipsis, _, _, _, left, right
  | _, .bool _, _, _, _, left, right | _, .int _, _, _, _, left, right
  | _, .float _, _, _, _, left, right | _, .nan _, _, _, _, left, right
  | _, .complex _ _, _, _, _, left, right | _, .str _, _, _, _, left, right
  | _, .list _, _, _, _, left, right | _, .map _, _, _, _, left, right
  | _, .liveList _, _, _, _, left, right | _, .liveMap _, _, _, _, left, right
  | _, .text _, _, _, _, left, right | _, .node _, _, _, _, left, right
  | _, .function _, _, _, _, left, right | _, .component _, _, _, _, left, right
  | _, .object _, _, _, _, left, right | _, .incomparable _, _, _, _, left, right
  | _, .ref _, _, _, _, left, right | _, .scope _, _, _, _, left, right
  | _, .handle _ _, _, _, _, left, right | _, .method _ _, _, _, _, left, right
  | _, .other _, _, _, _, left, right => orderFlat each left right fun _ => nofun

theorem orderTuples (each : ComparesAlike first deeper deeper') (lengths : Ordering) :
    ∀ {extent : Extent} {xs xs' ys ys' : List Value}, Twins first.moves extent xs xs' →
      Twins first.moves extent ys ys' →
      Tandem first extent Same (Observe.orderStep.orderTuples test deeper lengths xs ys)
        (Observe.orderStep.orderTuples test deeper' lengths xs' ys')
  | _, [], _, _, _, .nil, _ => pure fun _ _ => rfl
  | _, _ :: _, _, _, _, .cons .., .nil => pure fun _ _ => rfl
  | _, x :: xs, _, _, _, .cons left lefts, .cons right rights => by
      refine bind_same (sameOr equal left right) fun large same fits => ?_
      split
      · exact orderTuples each lengths (Twin.monoAll fits lefts) (Twin.monoAll fits rights)
      · exact orderStep each (left.mono fits) (right.mono fits)

end

theorem orderWithin (depth : Nat) :
    ComparesAlike first (Observe.orderWithin test depth) (Observe.orderWithin test depth) := by
  induction depth with
  | zero => exact fun _ _ => throw .exhausted
  | succ depth ih => exact orderStep ih

theorem inOrder : ComparesAlike first (Observe.inOrder test) (Observe.inOrder test) := by
  intro extent a a' b b' left right
  refine bind get fun large memory other fits mirrors => ?_
  rw [mirrors.levels]
  exact bind_same (orderWithin _ (left.mono fits) (right.mono fits)) fun _ _ _ =>
    pure fun _ _ => rfl

end Order

end Tandem

end ReactiveSchema
