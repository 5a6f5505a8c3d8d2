import ReactiveSchema.Proofs.Observe.ExpressionLooks
import ReactiveSchema.Proofs.Observe.TandemScopes

/-!
# Operators in tandem

Operators take twins to twins, and templates are filled in from twins by the same text.
-/

namespace ReactiveSchema

variable {α β γ δ : Type} {extent small large : Extent} {moved : Relocation} {first : FirstLook}

/-- Pairs that are related part by part. -/
def Both (R : Extent → α → β → Prop) (S : Extent → γ → δ → Prop) :
    Extent → α × γ → β × δ → Prop :=
  fun extent p q => R extent p.1 q.1 ∧ S extent p.2 q.2

theorem isSome_of_rel {R : α → β → Prop} {a : Option α} {b : Option β}
    (related : Option.Rel R a b) : a.isSome = b.isSome := by
  cases related <;> rfl

namespace Template

/-- Values left to fill in that are twins. -/
inductive SupplyTwin (moved : Relocation) (extent : Extent) : Supply → Supply → Prop
  | many {xs ys : List Value} : Twins moved extent xs ys →
      SupplyTwin moved extent (.many xs) (.many ys)
  | one {a b : Value} : Twin moved extent a b → SupplyTwin moved extent (.one a) (.one b)
  | used : SupplyTwin moved extent .used .used

/-- What templates are filled from, twin by twin. -/
structure SourceTwin (moved : Relocation) (extent : Extent) (a b : Source) : Prop where
  supply : SupplyTwin moved extent a.supply b.supply
  mapping : MaybeTwin moved extent a.mapping b.mapping

theorem SourceTwin.mono (fits : small.Fits large) {a b : Source}
    (same : SourceTwin moved small a b) : SourceTwin moved large a b where
  supply := by
    have supply := same.supply
    generalize a.supply = left at supply
    generalize b.supply = right at supply
    cases supply with
    | many all => exact .many (Twin.monoAll fits all)
    | one same => exact .one (same.mono fits)
    | used => exact .used
  mapping := lasting_maybe fits same.mapping

theorem SourceTwin.of {operand twin : Value} (same : Twin moved extent operand twin) :
    SourceTwin moved extent (.of operand) (.of twin) := by
  have supply := SupplyTwin.one same
  have mapping : MaybeTwin moved extent (some operand) (some twin) := .some same
  cases same
  case tuple all => exact ⟨.many all, .none⟩
  case list | map | liveList | liveMap => exact ⟨supply, mapping⟩
  all_goals exact ⟨supply, .none⟩

theorem SourceTwin.leavesOver {a b : Source} (same : SourceTwin moved extent a b) :
    a.leavesOver = b.leavesOver := by
  obtain ⟨supply, mapping⟩ := a
  obtain ⟨supply', mapping'⟩ := b
  obtain ⟨supplies, mappings⟩ := same
  cases mappings with
  | some => rfl
  | none =>
      cases supplies with
      | many all => exact congrArg not (isEmpty_of_forall₂ all)
      | one | used => rfl

end Template

namespace Tandem

/-! ## Templates -/

section Template

open ReactiveSchema.Template

variable {source twin : Source}

theorem nextValue (same : SourceTwin first.moves extent source twin) :
    Tandem first extent (Both (Twin first.moves) (SourceTwin first.moves)) (next source)
      (next twin) := by
  obtain ⟨supply, mapping⟩ := source
  obtain ⟨supply', mapping'⟩ := twin
  obtain ⟨supplies, mappings⟩ := same
  cases supplies with
  | many all =>
      cases all with
      | nil => exact fail _
      | cons head rest =>
          exact pure fun _ more =>
            ⟨head.mono more, .many (Twin.monoAll more rest), lasting_maybe more mappings⟩
  | one same => exact pure fun _ more => ⟨same.mono more, .used, lasting_maybe more mappings⟩
  | used => exact fail _

theorem chooseEntry (same : SourceTwin first.moves extent source twin) (key : Option String) :
    Tandem first extent (SourceTwin first.moves) (choose source key) (choose twin key) := by
  cases key with
  | none => exact pure fun _ more => same.mono more
  | some key =>
      obtain ⟨supply, mapping⟩ := source
      obtain ⟨supply', mapping'⟩ := twin
      obtain ⟨supplies, mappings⟩ := same
      cases mappings with
      | none => exact fail _
      | some mapping =>
          exact bind (getItem mapping (.str key)) fun _ _ _ fits found =>
            pure fun _ more => ⟨.one (found.mono more), .some (mapping.mono (fits.trans more))⟩

section Letters

variable {value other : Value} (same : Twin first.moves extent value other)
include same

theorem wholeOf (letter : Char) :
    Tandem first extent Same (Template.wholeOf letter value) (Template.wholeOf letter other) := by
  unfold Template.wholeOf
  rw [same.index?, same.typeName]
  split
  · exact pure fun _ _ => rfl
  · split
    · exact fail _
    · cases same
      case float x =>
        dsimp only
        split
        · exact pure fun _ _ => rfl
        · exact fail _
      all_goals exact fail _

theorem realOf : Tandem first extent Same (Template.realOf value) (Template.realOf other) := by
  unfold Template.realOf
  rw [same.num?, same.typeName]
  split
  · dsimp only
    split
    · exact pure fun _ _ => rfl
    · exact fail _
  · exact pure fun _ _ => rfl
  · exact fail _

theorem charOf : Tandem first extent Same (Template.charOf value) (Template.charOf other) := by
  have index := same.index?
  cases same
  case str s =>
    unfold Template.charOf
    dsimp only
    split
    · exact pure fun _ _ => rfl
    · exact fail _
  all_goals
    unfold Template.charOf
    dsimp only
    rw [index]
    split
    · split
      · exact pure fun _ _ => rfl
      · exact fail _
    · exact fail _

theorem layOut (flags : Flags) (places : Option Nat) (letter : Char) (position : Nat) :
    Tandem first extent Same (Template.layOut flags places letter position value)
      (Template.layOut flags places letter position other) := by
  unfold Template.layOut
  split
  · exact bind_same (textOf same) fun _ _ _ => pure fun _ _ => rfl
  split
  · exact bind_same (shown same) fun _ _ _ => pure fun _ _ => rfl
  split
  · exact bind_same (shown same) fun _ _ _ => pure fun _ _ => rfl
  split
  · refine bind_same (wholeOf same letter) fun _ n _ => ?_
    split
    · exact fail _
    · exact pure fun _ _ => rfl
  split
  · exact bind_same (wholeOf same letter) fun _ _ _ => pure fun _ _ => rfl
  split
  · exact bind_same (realOf same) fun _ _ _ => pure fun _ _ => rfl
  split
  · exact bind_same (charOf same) fun _ _ _ => pure fun _ _ => rfl
  · exact fail _

end Letters

theorem takeAmount (limit : Nat) (fault : TemplateFault)
    (same : SourceTwin first.moves extent source twin) :
    Tandem first extent (Both Same (SourceTwin first.moves)) (Template.takeAmount limit fault source)
      (Template.takeAmount limit fault twin) := by
  refine bind (nextValue same) fun large taken taken' fits both => ?_
  obtain ⟨value, rest⟩ := taken
  obtain ⟨value', rest'⟩ := taken'
  obtain ⟨values, rests⟩ := both
  dsimp only at values rests ⊢
  rw [values.index?]
  split
  · split
    · exact fail _
    · exact pure fun _ more => ⟨rfl, rests.mono more⟩
  · exact fail _

theorem widthOf (amount : Amount) (same : SourceTwin first.moves extent source twin) :
    Tandem first extent (Both Same (SourceTwin first.moves)) (Template.widthOf amount source)
      (Template.widthOf amount twin) := by
  cases amount with
  | absent => exact pure fun _ more => ⟨rfl, same.mono more⟩
  | given n =>
      unfold Template.widthOf
      dsimp only
      split
      · exact fail _
      · exact pure fun _ more => ⟨rfl, same.mono more⟩
  | taken => exact takeAmount _ _ same

theorem placesOf (amount : Amount) (same : SourceTwin first.moves extent source twin) :
    Tandem first extent (Both Same (SourceTwin first.moves)) (Template.placesOf amount source)
      (Template.placesOf amount twin) := by
  cases amount with
  | absent => exact pure fun _ more => ⟨rfl, same.mono more⟩
  | given n =>
      unfold Template.placesOf
      dsimp only
      split
      · exact fail _
      · exact pure fun _ more => ⟨rfl, same.mono more⟩
  | taken =>
      refine bind (takeAmount _ _ same) fun large taken taken' fits both => ?_
      obtain ⟨n, rest⟩ := taken
      obtain ⟨m, rest'⟩ := taken'
      obtain ⟨rfl, rests⟩ := both
      exact pure fun _ more => ⟨rfl, rests.mono more⟩

theorem fillDirective (directive : Directive) (same : SourceTwin first.moves extent source twin) :
    Tandem first extent (Both Same (SourceTwin first.moves))
      (Template.fillDirective directive source) (Template.fillDirective directive twin) := by
  refine bind (chooseEntry same _) fun large source twin fits same => ?_
  refine bind (widthOf _ same) fun larger taken taken' more both => ?_
  obtain ⟨width, source⟩ := taken
  obtain ⟨width', twin⟩ := taken'
  obtain ⟨rfl, same⟩ := both
  refine bind (placesOf _ same) fun largest taken taken' most both => ?_
  obtain ⟨places, source⟩ := taken
  obtain ⟨places', twin⟩ := taken'
  obtain ⟨rfl, same⟩ := both
  dsimp only
  split
  · exact fail _
  · refine bind (nextValue same) fun last taken taken' fits' both => ?_
    obtain ⟨value, source⟩ := taken
    obtain ⟨value', twin⟩ := taken'
    obtain ⟨values, same⟩ := both
    exact bind_same (layOut values _ _ _ _) fun _ _ fits'' =>
      pure fun _ more' => ⟨rfl, same.mono (fits''.trans more')⟩

theorem fillParts (parts : List Part) (same : SourceTwin first.moves extent source twin) :
    Tandem first extent Same (Template.fillParts parts source)
      (Template.fillParts parts twin) := by
  induction parts generalizing extent source twin with
  | nil =>
      unfold Template.fillParts
      rw [same.leavesOver]
      split
      · exact fail _
      · exact pure fun _ _ => rfl
  | cons part rest ih =>
      cases part with
      | plain c => exact bind_same (ih same) fun _ _ _ => pure fun _ _ => rfl
      | percent => exact bind_same (ih same) fun _ _ _ => pure fun _ _ => rfl
      | openKey =>
          unfold Template.fillParts
          rw [isSome_of_rel same.mapping]
          exact fail _
      | directive directive =>
          refine bind (fillDirective directive same) fun large filled filled' fits both => ?_
          obtain ⟨chars, source⟩ := filled
          obtain ⟨chars', twin⟩ := filled'
          obtain ⟨rfl, same⟩ := both
          exact bind_same (ih same) fun _ _ _ => pure fun _ _ => rfl

theorem fill (template : String) {operand other : Value}
    (same : Twin first.moves extent operand other) :
    Tandem first extent Same (Template.fill template operand) (Template.fill template other) :=
  bind_same (fillParts _ (.of same)) fun _ _ _ => pure fun _ _ => rfl

end Template

/-! ## Numbers and sequences -/

section Operands

variable {left left' right right' : Value}

theorem ofConstant (constant : Constant) :
    Tandem first extent (Twin first.moves) (Observe.ofConstant constant)
      (Observe.ofConstant constant) := by
  cases constant with
  | none => exact pure fun _ _ => .none
  | true => exact pure fun _ _ => .bool true
  | false => exact pure fun _ _ => .bool false
  | int n => exact pure fun _ _ => .int n
  | float x => exact ofFloat x
  | imaginary x => exact pure fun _ _ => .complex 0.0 x
  | str s => exact pure fun _ _ => .str s
  | ellipsis => exact pure fun _ _ => .ellipsis

theorem addedText (same : Twin first.moves extent left left') :
    Tandem first extent Same (Observe.addedText left) (Observe.addedText left') := by
  have text := textOf same
  cases same
  case none => exact pure fun _ _ => rfl
  all_goals exact text

variable (lefts : Twin first.moves extent left left')
  (rights : Twin first.moves extent right right')
include lefts rights

theorem unsupported (op : ArithOp) :
    Tandem first extent (Twin first.moves) (Observe.unsupported op left right)
      (Observe.unsupported op left' right') := by
  unfold Observe.unsupported
  rw [lefts.typeName, rights.typeName]
  exact fail _

theorem onNumbers (op : ArithOp) :
    Tandem first extent (Twin first.moves) (Observe.onNumbers op left right)
      (Observe.onNumbers op left' right') := by
  have refused := unsupported lefts rights op
  unfold Observe.onNumbers
  rw [lefts.num?, rights.num?]
  split
  · split
    · exact ofNum _
    · exact refused
    · exact fail _
  · exact refused

theorem add : Tandem first extent (Twin first.moves) (Observe.add left right)
    (Observe.add left' right') := by
  have numbers := onNumbers lefts rights .add
  unfold Observe.add
  rw [lefts.isStr, rights.isStr]
  split
  case isTrue =>
    refine bind_same (addedText lefts) fun large text fits => ?_
    exact bind_same (addedText (rights.mono fits)) fun _ _ _ => pure fun _ _ => .str _
  case isFalse textless =>
    clear textless
    cases lefts
    case list there moves =>
      cases rights
      case list there' moves' =>
        cases moves
        cases moves'
        exact bind get fun large memory other fits mirrors => newList (List.rel_append
          (mirrors.lists (Nat.lt_of_lt_of_le there fits.lists))
          (mirrors.lists (Nat.lt_of_lt_of_le there' fits.lists)))
      all_goals exact fail _
    case tuple items =>
      cases rights
      case tuple items' =>
        exact pure fun _ more => .tuple (Twin.monoAll more (List.rel_append items items'))
      all_goals exact fail _
    all_goals exact numbers

end Operands

/-! ## Repetition -/

/-- Sequences to repeat that are twins item by item. -/
inductive RepeatableTwin (moved : Relocation) (extent : Extent) :
    Observe.Repeatable → Observe.Repeatable → Prop
  | str (s : String) : RepeatableTwin moved extent (.str s) (.str s)
  | tuple {xs ys : List Value} : Twins moved extent xs ys →
      RepeatableTwin moved extent (.tuple xs) (.tuple ys)
  | list {xs ys : List Value} : Twins moved extent xs ys →
      RepeatableTwin moved extent (.list xs) (.list ys)

theorem repeatCount {count twin : Value} (same : Twin first.moves extent count twin) :
    Tandem first extent Same (Observe.repeatCount count) (Observe.repeatCount twin) := by
  unfold Observe.repeatCount
  rw [same.index?, same.typeName]
  split
  · exact fail _
  · split
    · exact pure fun _ _ => rfl
    · exact fail _

theorem repeatable? {value twin : Value} (same : Twin first.moves extent value twin) :
    Tandem first extent (fun large => Option.Rel (RepeatableTwin first.moves large))
      (Observe.repeatable? value) (Observe.repeatable? twin) := by
  cases same
  case str s => exact pure fun _ _ => .some (.str s)
  case tuple all => exact pure fun _ more => .some (.tuple (Twin.monoAll more all))
  case list there moves =>
    cases moves
    exact reading fun large memory other fits mirrors =>
      .some (.list (mirrors.lists (Nat.lt_of_lt_of_le there fits.lists)))
  all_goals exact pure fun _ _ => .none

theorem twins_repeatItems {xs ys : List Value} (all : Twins moved extent xs ys) (count : Nat) :
    Twins moved extent (Observe.repeatItems count xs) (Observe.repeatItems count ys) := by
  rw [Observe.repeatItems_eq, Observe.repeatItems_eq]
  refine List.rel_flatten ?_
  induction count with
  | zero => exact .nil
  | succ count ih => exact .cons all ih

theorem repeatWithin (count : Nat) {xs ys : List Value} (all : Twins first.moves extent xs ys) :
    Tandem first extent (Twins first.moves) (Observe.repeatWithin count xs)
      (Observe.repeatWithin count ys) := by
  unfold Observe.repeatWithin
  rw [all.length_eq]
  split
  · exact fail _
  · exact pure fun _ more => Twin.monoAll more (twins_repeatItems all count)

theorem repeatText (count : Nat) (chars : List Char) :
    Tandem first extent Same (Observe.repeatWithin count chars)
      (Observe.repeatWithin count chars) := by
  unfold Observe.repeatWithin
  split
  · exact fail _
  · exact pure fun _ _ => rfl

theorem repeatValue {sequence twin : Observe.Repeatable} {count count' : Value}
    (sequences : RepeatableTwin first.moves extent sequence twin)
    (counts : Twin first.moves extent count count') :
    Tandem first extent (Twin first.moves) (Observe.repeatValue sequence count)
      (Observe.repeatValue twin count') := by
  refine bind_same (repeatCount counts) fun large n fits => ?_
  cases sequences with
  | str s =>
      dsimp only
      split
      · exact bind_same (repeatText n _) fun _ _ _ => pure fun _ _ => .str _
      · exact fail _
  | tuple all =>
      exact bind (repeatWithin n (Twin.monoAll fits all)) fun _ _ _ _ all =>
        pure fun _ more => .tuple (Twin.monoAll more all)
  | list all =>
      exact bind (repeatWithin n (Twin.monoAll fits all)) fun _ _ _ _ all => newList all

/-! ## Operators -/

section Operators

variable {left left' right right' : Value} (lefts : Twin first.moves extent left left')
  (rights : Twin first.moves extent right right')
include lefts rights

theorem mul : Tandem first extent (Twin first.moves) (Observe.mul left right)
    (Observe.mul left' right') := by
  refine bind (repeatable? lefts) fun large begun begun' fits found => ?_
  cases found with
  | some same => exact repeatValue same (rights.mono fits)
  | none =>
      refine bind (repeatable? (rights.mono fits)) fun larger other other' more found => ?_
      have all := fits.trans more
      cases found with
      | some same => exact repeatValue same (lefts.mono all)
      | none => exact onNumbers (lefts.mono all) (rights.mono all) .mul

theorem mod : Tandem first extent (Twin first.moves) (Observe.mod left right)
    (Observe.mod left' right') := by
  have numbers := onNumbers lefts rights .mod
  cases lefts
  case str template =>
    exact bind_same (fill template rights) fun _ _ _ => pure fun _ _ => .str _
  all_goals exact numbers

theorem arith (op : ArithOp) :
    Tandem first extent (Twin first.moves) (Observe.arith op left right)
      (Observe.arith op left' right') := by
  cases op with
  | add => exact add lefts rights
  | mul => exact mul lefts rights
  | mod => exact mod lefts rights
  | sub | div | pow => exact onNumbers lefts rights _

end Operators

theorem signed (sign : String) (change : Number.Num → Number.Num) {operand twin : Value}
    (same : Twin first.moves extent operand twin) :
    Tandem first extent (Twin first.moves) (Observe.signed sign change operand)
      (Observe.signed sign change twin) := by
  unfold Observe.signed
  rw [same.num?, same.typeName]
  split
  · exact ofNum _
  · exact fail _

theorem plus {operand twin : Value} (same : Twin first.moves extent operand twin) :
    Tandem first extent (Twin first.moves) (Observe.plus operand) (Observe.plus twin) := by
  have number := signed "+" (fun n => n) same
  cases same
  case nan there moves => exact pure fun _ more => (Twin.nan there moves).mono more
  all_goals exact number

theorem recover {R : Extent → α → β → Prop} (kinds : List FailureKind) {otherwise : α}
    {otherwise' : β} {body : Observe α} {twin : Observe β}
    (instead : ∀ large, extent.Fits large → R large otherwise otherwise')
    (each : Tandem first extent R body twin) :
    Tandem first extent R (Observe.recover kinds otherwise body)
      (Observe.recover kinds otherwise' twin) := by
  refine tryCatch each fun large f g fits same => ?_
  have kind : kinds.any f.isKind = kinds.any g.isKind :=
    congrArg kinds.any (funext same.isKind)
  rw [kind]
  split
  · exact pure fun _ more => instead _ (fits.trans more)
  · exact throw same

theorem isIn : ComparesAlike first Observe.isIn Observe.isIn :=
  fun items same => recover _ (fun _ _ => rfl) (contains items same)

theorem compareBy (comparison : Comparison) :
    ComparesAlike first (Observe.compareBy comparison)
      (Observe.compareBy comparison) := by
  intro extent a a' b b' left right
  cases comparison with
  | eq => exact equal left right
  | ne => exact bind_same (equal left right) fun _ _ _ => pure fun _ _ => rfl
  | lt | le | gt | ge => exact inOrder left right
  | «in» => exact isIn left right
  | notIn => exact bind_same (isIn left right) fun _ _ _ => pure fun _ _ => rfl

theorem subscript {object object' key key' : Value} (same : Twin first.moves extent object object')
    (keys : Twin first.moves extent key key') :
    Tandem first extent (Twin first.moves) (Observe.subscript object key)
      (Observe.subscript object' key') :=
  recover _ (fun _ _ => .none) (getItem same keys)

end Tandem

end ReactiveSchema
