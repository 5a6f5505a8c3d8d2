import ReactiveSchema.Proofs.Observe.TandemValues

/-!
# Looking into values in tandem

What is read of twins is twin again: truth, length, iteration, indexing and
membership, and the text that they are written out by.
-/

namespace ReactiveSchema

variable {α β : Type} {extent : Extent} {first : FirstLook}

theorem isEmpty_of_forall₂ {R : α → β → Prop} {xs : List α} {ys : List β}
    (all : List.Forall₂ R xs ys) : xs.isEmpty = ys.isEmpty := by
  cases all <;> rfl

theorem Twin.isTruthy {moved : Relocation} {a b : Value} (same : Twin moved extent a b) :
    a.isTruthy = b.isTruthy := by
  cases same <;> rfl

theorem Twin.atPlace {moved : Relocation} {xs ys : List Value} (place? : Option Nat)
    (all : Twins moved extent xs ys) :
    Option.Rel (Twin moved extent) (place?.bind fun place => xs[place]?)
      (place?.bind fun place => ys[place]?) := by
  cases place? with
  | none => exact .none
  | some place => exact rel_getElem? all place

theorem Twin.atPlaces {moved : Relocation} {xs ys : List Value} (places : List Nat)
    (all : Twins moved extent xs ys) :
    Twins moved extent (places.filterMap (xs[·]?)) (places.filterMap (ys[·]?)) :=
  List.rel_filterMap (fun place _ same => same ▸ rel_getElem? all place)
    (List.forall₂_same.mpr fun _ _ => rfl)

namespace Tandem

/-- Something that is only read off memory. -/
theorem reading {R : Extent → α → β → Prop} {read : Memory → α} {read' : Memory → β}
    (each : ∀ large memory other, extent.Fits large →
      Memory.Mirrors first.moves large memory other → R large (read memory) (read' other)) :
    Tandem first extent R (do return read (← MonadState.get))
      (do return read' (← MonadState.get)) :=
  of_steady (fun _ => rfl) (fun _ => rfl) fun large memory other fits mirrors =>
    .ok (each large memory other fits mirrors)

/-! ## Writing values out -/

theorem written (text : Option String) :
    Tandem first extent Same (Observe.written text) (Observe.written text) := by
  cases text with
  | none => exact fail _
  | some text => exact pure fun _ _ => rfl

section Text

variable {value twin : Value} (same : Twin first.moves extent value twin)
include same

theorem shown : Tandem first extent Same (Observe.shown value) (Observe.shown twin) := by
  refine bind get fun large memory other fits mirrors => ?_
  rw [mirrors.shown? (same.mono fits)]
  exact written _

theorem textOf : Tandem first extent Same (Observe.textOf value) (Observe.textOf twin) := by
  refine bind get fun large memory other fits mirrors => ?_
  rw [mirrors.textOf? (same.mono fits)]
  exact written _

theorem stringify :
    Tandem first extent Same (Observe.stringify value) (Observe.stringify twin) := by
  cases same
  case none => exact pure fun _ _ => rfl
  all_goals exact textOf (by constructor <;> assumption)

theorem snapshot :
    Tandem first extent Same (Observe.snapshot value) (Observe.snapshot twin) := by
  refine bind get fun large memory other fits mirrors => ?_
  rw [mirrors.snapshot (same.mono fits)]
  split
  · exact pure fun _ _ => rfl
  · exact fail _

end Text

theorem ofFloat (x : Float) :
    Tandem first extent (Twin first.moves) (Observe.ofFloat x) (Observe.ofFloat x) := by
  unfold Observe.ofFloat
  split
  · exact bind newSerial fun _ _ _ _ same => pure fun _ more => same.mono more
  · exact pure fun _ _ => .float x

theorem ofNum (n : Number.Num) :
    Tandem first extent (Twin first.moves) (Observe.ofNum n) (Observe.ofNum n) := by
  cases n with
  | int n => exact pure fun _ _ => .int n
  | float x => exact ofFloat x
  | complex re im => exact pure fun _ _ => .complex re im

/-! ## Looking into values -/

section Access

variable {value twin : Value}

theorem isTrue (same : Twin first.moves extent value twin) :
    Tandem first extent Same (Observe.isTrue value) (Observe.isTrue twin) := by
  have read (truth : Memory → Bool) (truth' : Memory → Bool)
      (each : ∀ large memory other, extent.Fits large →
        Memory.Mirrors first.moves large memory other → truth memory = truth' other) :
      Tandem first extent Same (do return truth (← MonadState.get))
        (do return truth' (← MonadState.get)) :=
    reading each
  cases same
  case list there moves =>
    cases moves
    refine read _ _ fun large memory other fits mirrors => ?_
    rw [isEmpty_of_forall₂ (mirrors.lists (Nat.lt_of_lt_of_le there fits.lists))]
  case map there moves =>
    cases moves
    refine read _ _ fun large memory other fits mirrors => ?_
    rw [isEmpty_of_forall₂ (mirrors.maps (Nat.lt_of_lt_of_le there fits.maps))]
  case liveList there => exact bind_same (liveListLength there) fun _ _ _ => pure fun _ _ => rfl
  case liveMap there => exact bind_same (liveMapLength there) fun _ _ _ => pure fun _ _ => rfl
  case tuple all => exact pure fun _ _ => congrArg not (isEmpty_of_forall₂ all)
  case handle kind id held =>
    cases kind
    case store => exact bind_same (liveMapLength held) fun _ _ _ => pure fun _ _ => rfl
    all_goals
      refine read _ _ fun large memory other fits mirrors => ?_
      rw [(mirrors.outlook _ id).size]
  all_goals exact pure fun _ _ => rfl

theorem lengthOf (same : Twin first.moves extent value twin) :
    Tandem first extent Same (Observe.lengthOf value) (Observe.lengthOf twin) := by
  cases same
  case str s => exact pure fun _ _ => rfl
  case tuple all => exact pure fun _ _ => all.length_eq
  case list there moves =>
    cases moves
    exact reading fun large memory other fits mirrors =>
      (mirrors.lists (Nat.lt_of_lt_of_le there fits.lists)).length_eq
  case map there moves =>
    cases moves
    exact reading fun large memory other fits mirrors =>
      (mirrors.maps (Nat.lt_of_lt_of_le there fits.maps)).length_eq
  case liveList there => exact liveListLength there
  case liveMap there => exact liveMapLength there
  case handle kind id held =>
    cases kind
    case store => exact liveMapLength held
    all_goals
      refine bind get fun large memory other fits mirrors => ?_
      rw [(mirrors.outlook _ id).size]
      split
      · exact pure fun _ _ => rfl
      · exact fail _
  all_goals exact fail _

theorem iterate (same : Twin first.moves extent value twin) :
    Tandem first extent (Twins first.moves) (Observe.iterate value) (Observe.iterate twin) := by
  cases same
  case str s =>
    refine pure fun large _ => List.forall₂_same.mpr fun item has => ?_
    obtain ⟨c, -, rfl⟩ := List.mem_map.mp has
    exact .str _
  case tuple all => exact pure fun _ more => Twin.monoAll more all
  case list there moves =>
    cases moves
    exact reading fun large memory other fits mirrors =>
      mirrors.lists (Nat.lt_of_lt_of_le there fits.lists)
  case map there moves =>
    cases moves
    exact reading fun large memory other fits mirrors =>
      (mirrors.maps (Nat.lt_of_lt_of_le there fits.maps)).keys
  case liveList there => exact liveListItems there
  case liveMap there => exact liveMapKeys there
  all_goals exact fail _

theorem itemAt (what : String) {items others : List Value} {index index' : Value}
    (all : Twins first.moves extent items others) (same : Twin first.moves extent index index') :
    Tandem first extent (Twin first.moves) (Observe.itemAt what items index)
      (Observe.itemAt what others index') := by
  unfold Observe.itemAt
  rw [same.index?, same.typeName, all.length_eq]
  split
  · exact fail _
  · rename_i n _
    have found := Twin.atPlace (Observe.placeOf? others.length n) all
    generalize (Observe.placeOf? others.length n).bind (items[·]?) = item at found ⊢
    generalize (Observe.placeOf? others.length n).bind (others[·]?) = item' at found ⊢
    cases found with
    | none => exact fail _
    | some same => exact pure fun _ more => same.mono more

theorem getItem {key key' : Value} (same : Twin first.moves extent value twin)
    (keys : Twin first.moves extent key key') :
    Tandem first extent (Twin first.moves) (Observe.getItem value key)
      (Observe.getItem twin key') := by
  cases same
  case str s =>
    refine itemAt _ (List.forall₂_same.mpr fun item has => ?_) keys
    obtain ⟨c, -, rfl⟩ := List.mem_map.mp has
    exact .str _
  case tuple all => exact itemAt _ all keys
  case list there moves =>
    cases moves
    exact bind get fun large memory other fits mirrors =>
      itemAt _ (mirrors.lists (Nat.lt_of_lt_of_le there fits.lists)) (keys.mono fits)
  case map there moves =>
    cases moves
    refine bind (checkKey keys) fun large _ _ fits _ => ?_
    refine bind get fun larger memory other more mirrors => ?_
    have all := fits.trans more
    have found := (mirrors.maps (Nat.lt_of_lt_of_le there all.maps)).find? (keys.mono all)
    rw [mirrors.missingKey (keys.mono all)]
    generalize (memory.mapAt _).find? key = entry at found ⊢
    generalize (other.mapAt _).find? key' = entry' at found ⊢
    cases found with
    | none => exact fail _
    | some same => exact pure fun _ most => same.mono most
  case liveList there => exact liveListGet there keys
  case liveMap there => exact liveMapGet there keys
  all_goals exact fail _

theorem contains {item item' : Value} (items : Twin first.moves extent item item')
    (same : Twin first.moves extent value twin) :
    Tandem first extent Same (Observe.contains item value) (Observe.contains item' twin) := by
  cases same
  case str s =>
    cases items
    case str part => exact pure fun _ _ => rfl
    all_goals exact fail _
  case tuple all => exact isAmong items all
  case list there moves =>
    cases moves
    exact bind get fun large memory other fits mirrors =>
      isAmong (items.mono fits) (mirrors.lists (Nat.lt_of_lt_of_le there fits.lists))
  case map there moves =>
    cases moves
    refine bind (checkKey items) fun large _ _ fits _ => ?_
    exact reading fun larger memory other more mirrors =>
      have all := fits.trans more
      (mirrors.maps (Nat.lt_of_lt_of_le there all.maps)).contains (items.mono all)
  case liveList there =>
    exact bind (liveListItems there) fun _ _ _ fits all => isAmong (items.mono fits) all
  case liveMap there => exact liveMapHas there items
  case handle kind id held =>
    cases kind
    case store => exact liveMapHas held items
    all_goals exact fail _
  all_goals exact fail _

theorem pairOf (same : Twin first.moves extent value twin) :
    Tandem first extent (PairTwin first.moves) (Observe.pairOf value) (Observe.pairOf twin) := by
  have pairLike : value.isPairLike = twin.isPairLike := by cases same <;> rfl
  unfold Observe.pairOf
  rw [pairLike]
  split
  · refine bind (iterate same) fun large items others fits all => ?_
    rcases all with _ | ⟨key, _ | ⟨entry, _ | ⟨_, _⟩⟩⟩
    · exact fail _
    · exact fail _
    · exact pure fun _ more => ⟨key.mono more, entry.mono more⟩
    · exact fail _
  · exact fail _

theorem copyMap (same : Twin first.moves extent value twin) :
    Tandem first extent (EntryTwins first.moves) (Observe.copyMap value)
      (Observe.copyMap twin) := by
  have items := iterate same
  cases same
  case map there moves =>
    cases moves
    exact reading fun large memory other fits mirrors =>
      mirrors.maps (Nat.lt_of_lt_of_le there fits.maps)
  case liveMap there =>
    exact bind (liveMapItems there) fun _ _ _ _ entries =>
      pure fun _ more => EntryTwins.ofList (EntryTwins.mono more entries)
  all_goals
    refine bind items fun large items others fits all => ?_
    refine bind (mapTwins (T := PairTwin first.moves) lasting_pair all
      fun larger item other more same => ?_) fun _ _ _ _ pairs =>
        pure fun _ most => EntryTwins.ofList (EntryTwins.mono most pairs)
    refine bind (pairOf same) fun largest pair pair' most both => ?_
    exact bind (checkKey both.1) fun _ _ _ fits' _ =>
      pure fun _ most' => lasting_pair (fits'.trans most') both

theorem entriesOf (same : Twin first.moves extent value twin) :
    Tandem first extent (EntryTwins first.moves) (Observe.entriesOf value)
      (Observe.entriesOf twin) := by
  cases same
  case map there moves =>
    cases moves
    exact reading fun large memory other fits mirrors =>
      mirrors.maps (Nat.lt_of_lt_of_le there fits.maps)
  case liveMap there => exact liveMapItems there
  all_goals exact fail _

theorem getEntry {key key' otherwise otherwise' : Value}
    (same : Twin first.moves extent value twin) (keys : Twin first.moves extent key key')
    (instead : Twin first.moves extent otherwise otherwise') :
    Tandem first extent (Twin first.moves) (Observe.getEntry value key otherwise)
      (Observe.getEntry twin key' otherwise') := by
  cases same
  case map there moves =>
    cases moves
    refine bind (checkKey keys) fun large _ _ fits _ => ?_
    refine reading fun larger memory other more mirrors => ?_
    have all := fits.trans more
    have found := (mirrors.maps (Nat.lt_of_lt_of_le there all.maps)).find? (keys.mono all)
    generalize (memory.mapAt _).find? key = entry at found ⊢
    generalize (other.mapAt _).find? key' = entry' at found ⊢
    cases found with
    | none => exact instead.mono all
    | some same => exact same
  case liveMap there =>
    refine tryCatch (liveMapGet there keys) fun large f g fits fault => ?_
    rw [fault.isKind]
    split
    · exact pure fun _ more => instead.mono (fits.trans more)
    · exact throw fault
  all_goals exact fail _

/-! ## Slices -/

theorem sliceBound (same : Twin first.moves extent value twin) :
    Tandem first extent Same (ReactiveSchema.sliceBound value)
      (ReactiveSchema.sliceBound twin) := by
  cases same
  case none => exact pure fun _ _ => rfl
  case bool => exact pure fun _ _ => rfl
  case int => exact pure fun _ _ => rfl
  all_goals exact fail _

theorem sliceItems {items others : List Value} {start start' stop stop' step step' : Value}
    (all : Twins first.moves extent items others) (starts : Twin first.moves extent start start')
    (stops : Twin first.moves extent stop stop') (steps : Twin first.moves extent step step') :
    Tandem first extent (Twins first.moves) (ReactiveSchema.sliceItems items start stop step)
      (ReactiveSchema.sliceItems others start' stop' step') := by
  refine bind_same (sliceBound steps) fun large stride fits => ?_
  split
  · exact fail _
  · refine bind_same (sliceBound (starts.mono fits)) fun larger start more => ?_
    refine bind_same (sliceBound (stops.mono (fits.trans more))) fun largest stop most => ?_
    rw [all.length_eq]
    exact pure fun _ last => Twin.atPlaces _ (Twin.monoAll ((fits.trans more).trans (most.trans last)) all)

end Access

end Tandem

end ReactiveSchema
