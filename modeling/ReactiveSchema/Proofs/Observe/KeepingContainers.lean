import ReactiveSchema.Proofs.Observe.KeepingLooks

/-!
# Containers and markup that keep everything in reach

Parts of containers, what is found in them, and the markup of what they hold.
-/

namespace ReactiveSchema

variable {extent large : Extent}

namespace Keeps

variable {value key other item : Value} {items : List Value} {id : LiveMapId} {list : LiveListId}

/-! ## Live containers -/

theorem liveMapGet (there : id < extent.liveMaps) (keys : Known extent key) :
    Keeps extent Known (Observe.liveMapGet id key) :=
  Tandem.keeps_value fun _ fits =>
    Tandem.liveMapGet (Nat.lt_of_lt_of_le there fits.liveMaps) (keys.mono fits)

theorem liveMapHas (there : id < extent.liveMaps) (keys : Known extent key) :
    Keeps extent Anything (Observe.liveMapHas id key) :=
  Tandem.keeps_done fun _ fits =>
    Tandem.liveMapHas (Nat.lt_of_lt_of_le there fits.liveMaps) (keys.mono fits)

theorem liveMapKeys (there : id < extent.liveMaps) :
    Keeps extent AllKnown (Observe.liveMapKeys id) :=
  Tandem.keeps_all fun _ fits => Tandem.liveMapKeys (Nat.lt_of_lt_of_le there fits.liveMaps)

theorem liveMapLength (there : id < extent.liveMaps) :
    Keeps extent Anything (Observe.liveMapLength id) :=
  Tandem.keeps_done fun _ fits => Tandem.liveMapLength (Nat.lt_of_lt_of_le there fits.liveMaps)

theorem liveListGetAt (there : list < extent.liveLists) (index : Int) :
    Keeps extent Known (Observe.liveListGetAt list index) :=
  Tandem.keeps_value fun _ fits =>
    Tandem.liveListGetAt (Nat.lt_of_lt_of_le there fits.liveLists) index

theorem liveListGet {index : Value} (there : list < extent.liveLists)
    (known : Known extent index) : Keeps extent Known (Observe.liveListGet list index) :=
  Tandem.keeps_value fun _ fits =>
    Tandem.liveListGet (Nat.lt_of_lt_of_le there fits.liveLists) (known.mono fits)

theorem liveListLength (there : list < extent.liveLists) :
    Keeps extent Anything (Observe.liveListLength list) :=
  Tandem.keeps_done fun _ fits =>
    Tandem.liveListLength (Nat.lt_of_lt_of_le there fits.liveLists)

theorem liveListItems (there : list < extent.liveLists) :
    Keeps extent AllKnown (Observe.liveListItems list) :=
  Tandem.keeps_all fun _ fits => Tandem.liveListItems (Nat.lt_of_lt_of_le there fits.liveLists)

theorem trackList (list : LiveListId) : Keeps extent Anything (Observe.trackList list) :=
  Tandem.keeps_done fun _ _ => Tandem.trackList list

theorem plainEntry (id : LiveMapId) (key : Value) :
    Keeps extent MaybeKnown (Act.plainEntry id key) := by
  refine bind (checkKey key) fun large _ _ _ => reading fun larger memory _ whole value found => ?_
  exact (Entries.within_of_find? (whole.maps _) found).2

/-- The value of a key, or none where a failure to find it is expected. -/
theorem foundEntry (there : id < extent.liveMaps) (keys : Known extent key)
    (expected : Fault → Bool) :
    Keeps extent MaybeKnown (MonadExcept.tryCatch
      (do return some (← Observe.liveMapGet id key)) fun fault =>
        if expected fault then Pure.pure none else MonadExcept.throw fault :
      Observe (Option Value)) := by
  refine tryCatch ?_ fun large fault _ within => ?_
  · exact bind (liveMapGet there keys) fun _ _ _ known =>
      pure fun _ more _ same => by cases same; exact known.mono more
  · split
    · exact pure fun _ _ => nofun
    · exact throw within

theorem toRaw {memory : Memory} (held : memory.Whole large ∧ memory.bounds large = large)
    (known : Known large value) : Known large (memory.toRaw value) := by
  obtain ⟨whole, reach⟩ := held
  have same := known
  cases known
  case liveList there =>
    have size : memory.liveLists.size = large.liveLists := congrArg Extent.liveLists reach
    exact .list (whole.rawList (size ▸ there)) (Shift.move_still _)
  case liveMap there =>
    have size : memory.liveMaps.size = large.liveMaps := congrArg Extent.liveMaps reach
    exact .map (whole.rawMap (size ▸ there)) (Shift.move_still _)
  all_goals exact same

theorem plainItems (known : Known extent value) :
    Keeps extent AllKnown (Act.plainItems value) := by
  refine bind (iterate known) fun large items fits all => bind get fun larger memory more held => ?_
  refine pure fun _ last => AllKnown.mono (allKnown_iff.mpr fun raw has => ?_) last
  obtain ⟨item, among, rfl⟩ := List.mem_map.mp has
  exact toRaw held ((allKnown_iff.mp all item among).mono more)

theorem liveListFind (there : list < extent.liveLists) (known : Known extent value) :
    Keeps extent Anything (Act.liveListFind list value) := by
  have search (limit : Nat) : ∀ {large : Extent} (place : Nat), extent.Fits large →
      Keeps large Anything (Act.liveListFindFrom list value limit place) := by
    induction limit with
    | zero => exact fun _ _ => throw (.failure _)
    | succ limit ih =>
        intro large place fits
        refine bind (liveListGetAt (Nat.lt_of_lt_of_le there fits.liveLists) place) ?_
        intro larger item more found
        refine bind (sameOrEqual found (known.mono (fits.trans more))) fun _ same last _ => ?_
        split
        · exact done
        · exact ih _ ((fits.trans more).trans last)
  exact bind (trackList list) fun _ _ fits _ => bind get fun _ _ more _ => search _ _ (fits.trans more)

/-! ## Parts of containers -/

theorem getPath (known : Known extent value) (keys : AllKnown extent items) :
    Keeps extent Known (Observe.getPath value items) := by
  induction items generalizing extent value with
  | nil => exact pure fun _ fits => known.mono fits
  | cons key rest ih =>
      cases keys with
      | cons head tail =>
          exact bind (getItem known head) fun _ _ fits found => ih found (AllKnown.mono tail fits)

theorem sliceItems {start stop step : Value} (all : AllKnown extent items)
    (starts : Known extent start) (stops : Known extent stop) (steps : Known extent step) :
    Keeps extent AllKnown (ReactiveSchema.sliceItems items start stop step) :=
  Tandem.keeps_all fun _ fits => Tandem.sliceItems (AllKnown.mono all fits) (starts.mono fits)
    (stops.mono fits) (steps.mono fits)

theorem getSlice {start stop step : Value} (known : Known extent value)
    (starts : Known extent start) (stops : Known extent stop) (steps : Known extent step) :
    Keeps extent Known (Observe.getSlice value start stop step) := by
  unfold Observe.getSlice
  split
  · refine bind (iterate known) fun large items fits all => ?_
    refine bind (sliceItems all (starts.mono fits) (stops.mono fits) (steps.mono fits)) ?_
    refine fun larger sliced more known => bind (mapM abiding_anything ?_) ?_
    · exact fun _ most item has => textOf ((allKnown_iff.mp known item has).mono most)
    · exact fun _ texts _ _ => pure fun _ _ => .str _
  · cases known with
    | tuple all =>
        refine bind (sliceItems all starts stops steps) fun _ _ _ sliced => ?_
        exact pure fun _ more => .tuple (AllKnown.mono sliced more)
  · refine bind get fun large memory fits held => ?_
    exact bind (sliceItems (held.1.lists _) (starts.mono fits) (stops.mono fits)
      (steps.mono fits)) fun _ _ _ sliced => newList sliced
  · refine bind (trackList _) fun large _ fits _ => bind get fun larger memory more held => ?_
    have ahead := fits.trans more
    refine bind (sliceItems (held.1.lists _) (starts.mono ahead) (stops.mono ahead)
      (steps.mono ahead)) fun _ _ _ sliced => ?_
    exact bind (makeLiveAll sliced) fun _ _ _ faces => newList faces
  all_goals exact throw (.failure _)

theorem reversedItems (known : Known extent value) :
    Keeps extent AllKnown (Observe.reversedItems value) := by
  have whole : Keeps extent AllKnown (do return (← Observe.iterate value).reverse) :=
    bind (iterate known) fun _ _ _ all => pure fun _ more =>
      AllKnown.mono (allKnown_of_subset all fun _ => List.mem_reverse.mp) more
  cases known
  case liveList there =>
    refine bind (liveListLength there) fun large length fits _ => ?_
    refine (mapM abiding_known fun larger more place _ => ?_).imp fun _ _ => allKnown_iff.mpr
    exact liveListGetAt (Nat.lt_of_lt_of_le there (fits.trans more).liveLists) _
  case str | tuple | list | map => exact whole
  all_goals exact throw (.failure _)

theorem keysOf (known : Known extent value) : Keeps extent AllKnown (Observe.keysOf value) := by
  unfold Observe.keysOf
  split
  · exact iterate known
  · exact unknown _ _

theorem valuesOf (known : Known extent value) :
    Keeps extent AllKnown (Observe.valuesOf value) := by
  unfold Observe.valuesOf
  split
  · exact bind (entriesOf known) fun _ _ _ all => pure fun _ more =>
      EntryTwins.values (EntryTwins.mono more all)
  · exact unknown _ _

theorem pairsOf (known : Known extent value) : Keeps extent AllKnown (Observe.pairsOf value) := by
  refine bind (entriesOf known) fun large entries fits all => pure fun _ more => ?_
  refine allKnown_iff.mpr fun pair has => ?_
  obtain ⟨entry, among, rfl⟩ := List.mem_map.mp has
  obtain ⟨keys, values⟩ := entriesKnown_iff.mp all entry among
  exact .tuple (.cons (keys.mono more) (.cons (values.mono more) .nil))

theorem partOfText (part : Value) : Keeps extent Anything (Observe.partOfText part) := by
  unfold Observe.partOfText
  split
  · exact done
  · exact throw (.failure _)

theorem firstPlace (known : Known extent value) (items : Known extent item) :
    Keeps extent Anything (Observe.firstPlace value item) := by
  unfold Observe.firstPlace
  split
  · refine bind (partOfText item) fun _ part _ _ => ?_
    split
    · exact done
    · exact throw (.failure _)
  · exact bind get fun _ _ fits held => findEqual (items.mono fits) 0 (held.1.lists _)
  · cases known with
    | tuple all => exact findEqual items 0 all
  · cases known with
    | liveList there => exact liveListFind there items
  · exact unknown _ _

theorem countOf (known : Known extent value) (items : Known extent item) :
    Keeps extent Anything (Observe.countOf value item) := by
  unfold Observe.countOf
  split
  · exact bind (partOfText item) fun _ _ _ _ => done
  · exact bind get fun _ _ fits held => countEqual (items.mono fits) (held.1.lists _)
  · cases known with
    | tuple all => exact countEqual items all
  · cases known with
    | liveList there =>
        exact bind (liveListItems there) fun _ _ fits all => countEqual (items.mono fits) all
  · exact unknown _ _

theorem sum (known : Known extent value) (others : Known extent other) :
    Keeps extent Known (Observe.sum value other) := by
  unfold Observe.sum
  split
  · exact pure fun _ _ => .str _
  · exact throw (.failure _)
  · split
    · exact throw (.failure _)
    · exact Tandem.keeps_value fun _ fits => Tandem.add (known.mono fits) (others.mono fits)

theorem mul (known : Known extent value) (others : Known extent other) :
    Keeps extent Known (Observe.mul value other) :=
  Tandem.keeps_value fun _ fits => Tandem.mul (known.mono fits) (others.mono fits)

theorem less (known : Known extent value) (others : Known extent other) :
    Keeps extent Anything (Observe.less value other) := by
  refine bind get fun large memory fits _ => ?_
  refine bind (Tandem.keeps_done fun _ more => Tandem.orderWithin _ (known.mono (fits.trans more))
    (others.mono (fits.trans more))) fun _ answer _ _ => ?_
  split
  · exact done
  · exact throw (.failure _)

/-! ## Nodes -/

theorem call (known : Known extent value) (all : AllKnown extent items) :
    Keeps extent Known (Observe.call value items) :=
  Tandem.keeps_value fun _ fits => Tandem.call (known.mono fits) (AllKnown.mono all fits)

theorem findAll {node type : Value} (nodes : Known extent node) (types : Known extent type) :
    Keeps extent AllKnown (Observe.findAll node type) :=
  Tandem.keeps_all fun _ fits => Tandem.findAll (nodes.mono fits) (types.mono fits)

theorem nodeTypes (known : Known extent value) :
    Keeps extent AllKnown (Observe.nodeTypes value) :=
  Tandem.keeps_all fun _ fits => Tandem.walk lasting_twin (fun _ _ _ _ _ _ cells _ =>
    Tandem.pure fun _ more => .cons (cells.type.mono more) .nil) _ (known.mono fits)

/-! ## Markup -/

theorem isOmitted (known : Known extent value) : Keeps extent Anything (Observe.isOmitted value) :=
  Tandem.keeps_done fun _ fits =>
    Tandem.isAmong (known.mono fits) (.cons .none (.cons (.bool false) .nil))

theorem styleText {entries : List (Value × Value)} (all : EntriesKnown extent entries) :
    Keeps extent Anything (Observe.styleText entries) := by
  refine bind (filterMapM fun large fits entry has => ?_) fun _ _ _ _ => done
  obtain ⟨keys, values⟩ := entriesKnown_iff.mp all entry has
  refine bind (isOmitted (values.mono fits)) fun _ _ more _ => ?_
  split
  · exact done
  · exact bind (textOf (keys.mono (fits.trans more))) fun _ _ last _ =>
      bind (textOf (values.mono ((fits.trans more).trans last))) fun _ _ _ _ => done

theorem keyText {entries : List (Value × Value)} (all : EntriesKnown extent entries) :
    Keeps extent Anything (Observe.keyText entries) := by
  refine bind (filterMapM fun large fits entry has => ?_) fun _ _ _ _ => done
  obtain ⟨keys, values⟩ := entriesKnown_iff.mp all entry has
  refine bind (isTrue (values.mono fits)) fun _ _ more _ => ?_
  split
  · exact bind (textOf (keys.mono (fits.trans more))) fun _ _ _ _ => done
  · exact done

theorem itemText (all : AllKnown extent items) : Keeps extent Anything (Observe.itemText items) := by
  refine bind (filterMapM fun large fits item has => ?_) fun _ _ _ _ => done
  have known := allKnown_iff.mp all item has
  refine bind (isOmitted (known.mono fits)) fun _ _ more _ => ?_
  split
  · exact done
  · exact bind (textOf (known.mono (fits.trans more))) fun _ _ _ _ => done

theorem attributeText (name : Value) (known : Known extent value) :
    Keeps extent Anything (Observe.attributeText name value) := by
  have written : Keeps extent Anything (do
      let entries ← Observe.entriesOf value
      if name.identical (.str "style") then Observe.styleText entries
      else Observe.keyText entries) := by
    refine bind (entriesOf known) fun _ _ _ all => ?_
    split
    · exact styleText all
    · exact keyText all
  unfold Observe.attributeText
  split
  · exact written
  · exact written
  · exact bind get fun _ _ _ held => itemText (held.1.lists _)
  · cases known with
    | tuple all => exact itemText all
  · exact textOf known

theorem writtenAttribute {name : Value} (names : Known extent name) (known : Known extent value) :
    Keeps extent Known (Observe.writtenAttribute name value) := by
  unfold Observe.writtenAttribute
  split
  · exact pure fun _ _ => .none
  · exact pure fun _ _ => .none
  · exact pure fun _ _ => .none
  · exact pure fun _ fits => names.mono fits
  · refine bind (attributeText name known) fun _ _ fits _ => ?_
    exact bind (textOf (names.mono fits)) fun _ _ _ _ => pure fun _ _ => .str _

theorem writtenText (written : Value) : Keeps extent Anything (Observe.writtenText written) := by
  unfold Observe.writtenText
  split
  · exact done
  · exact throw (.failure _)

theorem attributesText (known : Known extent value) :
    Keeps extent Anything (Observe.attributesText value) := by
  refine bind (entriesOf known) fun e₁ entries f₁ all => ?_
  refine bind (mapM abiding_known fun large fits entry has => ?_) fun e₂ written f₂ each => ?_
  · obtain ⟨names, values⟩ := entriesKnown_iff.mp all entry has
    exact writtenAttribute (names.mono fits) (values.mono fits)
  refine bind (filterM fun large fits item has => isTrue ((each item has).mono fits)) ?_
  intro e₃ kept f₃ _
  refine bind (mapM abiding_anything fun large _ item _ => ?_) fun _ _ _ _ => done
  exact writtenText item

theorem flatten (known : Known extent value) : Keeps extent AllKnown (Observe.flatten value) :=
  bind get fun _ _ fits _ => Tandem.keeps_all fun _ more =>
    Tandem.flattenWithin _ (known.mono (fits.trans more))

section Trees

variable {inner : Value → Observe String}

theorem htmlItem (each : ∀ {large value}, Known large value → Keeps large Anything (inner value))
    (known : Known extent value) : Keeps extent Anything (Observe.htmlItem inner value) := by
  unfold Observe.htmlItem
  split
  · exact done
  · exact done
  · refine bind get fun e₁ memory f₁ held => ?_
    have node := held.1.nodes ‹_›
    dsimp only
    split
    · refine bind (attributesText node.props) fun e₂ _ f₂ _ => ?_
      split
      · exact done
      · exact bind (each (node.children.mono f₂)) fun _ _ _ _ => done
    · refine bind (call node.type (.cons node.props (.cons node.children .nil))) ?_
      exact fun _ _ _ made => each made
  · exact bind (textOf known) fun _ _ _ _ => done

theorem htmlWithin (depth : Nat) : ∀ {extent : Extent} {value : Value}, Known extent value →
    Keeps extent Anything (Observe.htmlWithin depth value) := by
  induction depth with
  | zero => exact fun _ => throw .exhausted
  | succ depth ih =>
      intro extent value known
      refine bind (flatten known) fun large items _ all => ?_
      refine bind (mapM abiding_anything fun larger fits item has => ?_) fun _ _ _ _ => done
      exact htmlItem ih ((allKnown_iff.mp all item has).mono fits)

theorem html (known : Known extent value) : Keeps extent Anything (Observe.html value) :=
  bind get fun _ _ fits _ => htmlWithin _ (known.mono fits)

end Trees

/-! ## Reports -/

theorem reportFault (fault : Fault) : Keeps extent Anything (Observe.reportFault fault) := by
  refine bind get fun _ memory _ _ => ?_
  split
  · exact done
  · exact throw (.failure _)

theorem pushFrame (known : Known extent value) :
    Keeps extent Anything (Observe.pushFrame value) :=
  Tandem.keeps_done fun _ fits => Tandem.pushFrame (known.mono fits)

end Keeps

end ReactiveSchema
