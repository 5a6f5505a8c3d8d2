import ReactiveSchema.Proofs.Observe.Keeping
import ReactiveSchema.Scope.Store

/-!
# Writes that keep everything in reach

New things name what is there, and so does what is written into old ones: no
write takes a place away, and none makes a place be named that is not there.
-/

namespace ReactiveSchema

variable {α : Type} {extent large : Extent} {memory : Memory}

namespace Keeps

/-! ## Changes of memory -/

/-- A change of memory that is seen as a whole. -/
theorem changing {R : Extent → α → Prop} {change : Memory → α × Memory}
    (each : ∀ (large : Extent) (memory : Memory), extent.Fits (memory.bounds large) →
      memory.Whole (memory.bounds large) →
        (change memory).2.Whole ((change memory).2.bounds large) ∧
        (memory.bounds large).Fits ((change memory).2.bounds large) ∧
        R ((change memory).2.bounds large) (change memory).1) :
    Keeps extent R (MonadState.modifyGet change : Observe α) := by
  refine modifyGet fun large memory fits held reach => ?_
  change memory.bounds large = large at reach
  rw [← reach] at fits held
  obtain ⟨holds, more, known⟩ := each large memory fits held
  rw [reach] at more
  exact ⟨holds, more, known⟩

/-- A change that takes no part in what is seen. -/
theorem unseen {change : Memory → α × Memory}
    (same : ∀ memory : Memory, memory.SameSight (change memory).2) :
    Keeps extent Anything (MonadState.modifyGet change : Observe α) := by
  refine changing fun large memory _ whole => ?_
  rw [(same memory).bounds]
  exact ⟨(same memory).whole whole, .refl _, trivial⟩

theorem log (record : String) : Keeps extent Anything (Observe.log record) :=
  unseen fun _ => ⟨rfl, rfl, rfl, rfl, fun _ => rfl, rfl, rfl, rfl, rfl, rfl, rfl, rfl, rfl⟩

theorem newDep : Keeps extent Anything Observe.newDep :=
  unseen fun _ => ⟨rfl, rfl, rfl, rfl, fun _ => rfl, rfl, rfl, rfl, rfl, rfl, rfl, rfl, rfl⟩

theorem newScope (label : String) : Keeps extent Anything (Observe.newScope label) :=
  unseen fun _ => ⟨rfl, rfl, rfl, rfl, fun _ => rfl, rfl, rfl, rfl, rfl, rfl, rfl, rfl, rfl⟩

/-- What is read off memory. -/
theorem reading {R : Extent → α → Prop} {read : Memory → α}
    (each : ∀ large (memory : Memory), extent.Fits large → memory.Whole large →
      R large (read memory)) :
    Keeps extent R (do return read (← MonadState.get) : Observe α) :=
  of_steady (fun _ => rfl) fun large memory fits held _ => .ok (each large memory fits held)

/-! ## New things -/

theorem newList {items : List Value} (known : AllKnown extent items) :
    Keeps extent Known (Observe.newList items) :=
  Tandem.keeps_value fun _ fits => Tandem.newList (Twin.monoAll fits known)

theorem newMap {entries : Entries Value} (known : EntriesKnown extent entries) :
    Keeps extent Known (Observe.newMap entries) :=
  Tandem.keeps_value fun _ fits => Tandem.newMap (EntryTwins.mono fits known)

theorem newMapId {entries : Entries Value} (known : EntriesKnown extent entries) :
    Keeps extent (fun large id => id < large.maps) (Observe.newMapId entries) :=
  Tandem.keeps (fun _ fits => Tandem.newMapId (EntryTwins.mono fits known))
    fun _ _ _ same => by cases same; assumption

theorem newRef {content : Value} (known : Known extent content) :
    Keeps extent Anything (Observe.newRef content) := by
  refine bind newDep fun e₁ dep fits _ => changing fun large memory more whole => ?_
  obtain ⟨lists, maps, nodes, refs, objects, liveLists, liveMaps, context, outlook⟩ := whole
  refine ⟨⟨lists, maps, nodes, fun {id cell} found => ?_, objects, liveLists, liveMaps, context,
    outlook⟩, .refl _, trivial⟩
  rw [Array.getElem?_push] at found
  split at found
  · cases found
    exact known.mono (fits.trans more)
  · exact refs found

theorem newObject {attributes : List (String × Value)}
    (known : ∀ entry ∈ attributes, Known extent entry.2) :
    Keeps extent Known (Observe.newObject attributes) := by
  have written (name : String) {value : Value} {large : Extent} (fresh : Known large value)
      {old : List (String × Value)} (kept : ∀ entry ∈ old, Known large entry.2) :
      ∀ entry ∈ Observe.writeAttribute name value old, Known large entry.2 := by
    induction old with
    | nil => simpa [Observe.writeAttribute] using fresh
    | cons entry rest ih =>
        rw [List.forall_mem_cons] at kept
        unfold Observe.writeAttribute
        split
        · exact List.forall_mem_cons.mpr ⟨fresh, kept.2⟩
        · exact List.forall_mem_cons.mpr ⟨kept.1, ih kept.2⟩
  have folded {large : Extent} {left old : List (String × Value)}
      (fresh : ∀ entry ∈ left, Known large entry.2)
      (kept : ∀ entry ∈ old, Known large entry.2) :
      ∀ entry ∈ left.foldl (fun known entry => Observe.writeAttribute entry.1 entry.2 known) old,
        Known large entry.2 := by
    induction left generalizing old with
    | nil => exact kept
    | cons entry rest ih =>
        rw [List.forall_mem_cons] at fresh
        exact ih fresh.2 (written _ fresh.1 kept)
  refine changing fun large memory fits whole => ?_
  obtain ⟨lists, maps, nodes, refs, objects, liveLists, liveMaps, context, outlook⟩ := whole
  refine ⟨⟨lists, maps, nodes, refs, fun id => ?_, liveLists, liveMaps, context, outlook⟩, .refl _,
    .object _⟩
  unfold Memory.objectAt
  rw [Memory.getD_push]
  split
  · refine List.forall₂_same.mpr fun entry has => ⟨rfl, ?_⟩
    exact folded (fun entry has => (known entry has).mono fits) (by simp) entry has
  · exact objects id

theorem newLiveList {raw : ListId} (there : raw < extent.lists) :
    Keeps extent Known (Observe.newLiveList raw) := by
  refine bind newDep fun e₁ dep fits _ => changing fun large memory more whole => ?_
  have grown : (memory.bounds large).Fits (Memory.bounds
      { memory with liveLists := memory.liveLists.push ⟨raw, dep, []⟩ } large) :=
    ⟨Nat.le_refl _, Nat.le_refl _, by simp [Memory.bounds], Nat.le_refl _, Nat.le_refl _,
      Nat.le_refl _, Nat.le_refl _, Nat.le_refl _, Nat.le_refl _⟩
  obtain ⟨lists, maps, nodes, refs, objects, liveLists, liveMaps, context, outlook⟩ :=
    whole.mono grown
  refine ⟨⟨lists, maps, nodes, refs, objects, fun {id live} found => ?_, liveMaps, context,
    outlook⟩, grown, .liveList (by simp [Memory.bounds])⟩
  rw [Array.getElem?_push] at found
  split at found
  · cases found
    exact ⟨Nat.lt_of_lt_of_le there (fits.trans (more.trans grown)).lists, by simp⟩
  · exact liveLists found

theorem newLiveMapId {raw : MapId} (there : raw < extent.maps) :
    Keeps extent (fun large id => id < large.liveMaps) (Observe.newLiveMapId raw) := by
  refine bind newDep fun e₁ dep fits _ => changing fun large memory more whole => ?_
  have grown : (memory.bounds large).Fits (Memory.bounds
      { memory with liveMaps := memory.liveMaps.push ⟨raw, [], dep, []⟩ } large) :=
    ⟨Nat.le_refl _, Nat.le_refl _, Nat.le_refl _, by simp [Memory.bounds], Nat.le_refl _,
      Nat.le_refl _, Nat.le_refl _, Nat.le_refl _, Nat.le_refl _⟩
  obtain ⟨lists, maps, nodes, refs, objects, liveLists, liveMaps, context, outlook⟩ :=
    whole.mono grown
  refine ⟨⟨lists, maps, nodes, refs, objects, liveLists, fun {id live} found => ?_, context,
    outlook⟩, grown, by simp [Memory.bounds]⟩
  rw [Array.getElem?_push] at found
  split at found
  · cases found
    exact ⟨Nat.lt_of_lt_of_le there (fits.trans (more.trans grown)).maps, by simp⟩
  · exact liveMaps found

theorem makeLive {value : Value} (known : Known extent value) :
    Keeps extent Known (Observe.makeLive value) := by
  have alone : Keeps extent Known (Pure.pure value : Observe Value) :=
    pure fun _ fits => known.mono fits
  cases known
  case list there _ => exact newLiveList there
  case map there _ =>
    refine bind (newLiveMapId there) fun _ _ _ made => ?_
    exact pure fun _ fits => .liveMap (Nat.lt_of_lt_of_le made fits.liveMaps)
  all_goals exact alone

theorem makeLiveAll {items : List Value} (known : AllKnown extent items) :
    Keeps extent AllKnown (items.mapM Observe.makeLive) :=
  (mapM abiding_known fun _ fits item has =>
    makeLive ((allKnown_iff.mp known item has).mono fits)).imp fun _ _ => allKnown_iff.mpr

/-! ## Writing -/

theorem setRef (id : RefId) {content : Value} (known : Known extent content) :
    Keeps extent Anything (Observe.setRef id content) := by
  refine changing fun large memory fits whole => ?_
  obtain ⟨lists, maps, nodes, refs, objects, liveLists, liveMaps, context, outlook⟩ := whole
  refine ⟨⟨lists, maps, nodes, fun {other cell} found => ?_, objects, liveLists, liveMaps, context,
    outlook⟩, .refl _, trivial⟩
  dsimp only at found
  rw [Array.getElem?_modify] at found
  split at found
  · obtain ⟨old, _, rfl⟩ := Option.map_eq_some_iff.mp found
    exact known.mono fits
  · exact refs found

theorem setList (id : ListId) {items : List Value} (known : AllKnown extent items) :
    Keeps extent Anything (Observe.setList id items) := by
  refine changing fun large memory fits whole => ?_
  have same : Memory.bounds { memory with lists := memory.lists.setIfInBounds id items } large =
      memory.bounds large := by simp [Memory.bounds]
  obtain ⟨lists, maps, nodes, refs, objects, liveLists, liveMaps, context, outlook⟩ := whole
  dsimp only
  rw [same]
  refine ⟨⟨fun other => ?_, maps, nodes, refs, objects, liveLists, liveMaps, context, outlook⟩,
    .refl _, trivial⟩
  unfold Memory.listAt
  rw [Array.getElem?_setIfInBounds]
  split
  · split
    · exact known.mono fits
    · exact .nil
  · exact lists other

theorem setMap (id : MapId) {entries : Entries Value} (known : EntriesKnown extent entries) :
    Keeps extent Anything (Observe.setMap id entries) := by
  refine changing fun large memory fits whole => ?_
  have same : Memory.bounds { memory with maps := memory.maps.setIfInBounds id entries } large =
      memory.bounds large := by simp [Memory.bounds]
  obtain ⟨lists, maps, nodes, refs, objects, liveLists, liveMaps, context, outlook⟩ := whole
  dsimp only
  rw [same]
  refine ⟨⟨lists, fun other => ?_, nodes, refs, objects, liveLists, liveMaps, context, outlook⟩,
    .refl _, trivial⟩
  unfold Memory.mapAt
  rw [Array.getElem?_setIfInBounds]
  split
  · split
    · exact EntryTwins.mono fits known
    · exact .nil
  · exact maps other

/-- Faces of items are forgotten. -/
theorem modifyLiveList (id : LiveListId) {change : LiveList → LiveList}
    (raw : ∀ live, (change live).raw = live.raw)
    (fewer : ∀ live, ∀ entry ∈ (change live).children, entry ∈ live.children) :
    Keeps extent Anything (Observe.modifyLiveList id change) := by
  refine changing fun large memory fits whole => ?_
  have same : Memory.bounds { memory with liveLists := memory.liveLists.modify id change } large =
      memory.bounds large := by simp [Memory.bounds]
  obtain ⟨lists, maps, nodes, refs, objects, liveLists, liveMaps, context, outlook⟩ := whole
  dsimp only
  rw [same]
  refine ⟨⟨lists, maps, nodes, refs, objects, fun {other live} found => ?_, liveMaps, context,
    outlook⟩, .refl _, trivial⟩
  dsimp only at found
  rw [Array.getElem?_modify] at found
  split at found
  · obtain ⟨old, known, rfl⟩ := Option.map_eq_some_iff.mp found
    obtain ⟨there, children⟩ := liveLists known
    exact ⟨raw old ▸ there, fun entry has => children entry (fewer old entry has)⟩
  · exact liveLists found

/-- Faces of entries are forgotten. -/
theorem modifyLiveMap (id : LiveMapId) {change : LiveMap → LiveMap}
    (raw : ∀ live, (change live).raw = live.raw)
    (fewer : ∀ live, ∀ entry ∈ (change live).children, entry ∈ live.children) :
    Keeps extent Anything (Observe.modifyLiveMap id change) := by
  refine changing fun large memory fits whole => ?_
  have same : Memory.bounds { memory with liveMaps := memory.liveMaps.modify id change } large =
      memory.bounds large := by simp [Memory.bounds]
  obtain ⟨lists, maps, nodes, refs, objects, liveLists, liveMaps, context, outlook⟩ := whole
  dsimp only
  rw [same]
  refine ⟨⟨lists, maps, nodes, refs, objects, liveLists, fun {other live} found => ?_, context,
    outlook⟩, .refl _, trivial⟩
  dsimp only at found
  rw [Array.getElem?_modify] at found
  split at found
  · obtain ⟨old, known, rfl⟩ := Option.map_eq_some_iff.mp found
    obtain ⟨there, children⟩ := liveMaps known
    exact ⟨raw old ▸ there, fun entry has => children entry (fewer old entry has)⟩
  · exact liveMaps found

theorem dropFace (id : LiveMapId) (key : Value) :
    Keeps extent Anything (Act.dropFace id key) :=
  modifyLiveMap id (fun _ => rfl) fun _ _ has => (List.mem_filter.mp has).1

/-! ## Lists -/

theorem indexOf (container : String) (index : Value) :
    Keeps extent Anything (Observe.indexOf container index) := by
  unfold Observe.indexOf
  split
  · exact done
  · exact throw (.failure _)

theorem placeOf (what : String) (length : Nat) (index : Value) :
    Keeps extent Anything (Observe.placeOf what length index) := by
  refine bind (indexOf "list" index) fun large n fits _ => ?_
  split
  · exact done
  · exact throw (.failure _)

theorem positionOf (index : Value) : Keeps extent Anything (Observe.positionOf index) := by
  unfold Observe.positionOf
  split
  · exact throw (.failure _)
  · split
    · exact done
    · exact throw (.failure _)

theorem sliceBound (bound : Value) : Keeps extent Anything (ReactiveSchema.sliceBound bound) := by
  unfold ReactiveSchema.sliceBound
  split
  · exact done
  · exact done
  · exact throw (.failure _)

variable {items added : List Value} {index value : Value}

theorem allKnown_append (known : AllKnown extent items) (more : AllKnown extent added) :
    AllKnown extent (items ++ added) :=
  List.rel_append known more

theorem allKnown_of_subset (known : AllKnown extent items)
    (fewer : ∀ item ∈ added, item ∈ items) : AllKnown extent added :=
  allKnown_iff.mpr fun item has => allKnown_iff.mp known item (fewer item has)

/-- What a list has is changed to what is known as well. -/
theorem listChange (id : ListId) (change : List Value → List Value)
    (each : ∀ large items, extent.Fits large → AllKnown large items →
      AllKnown large (change items)) :
    Keeps extent Anything (do Observe.setList id (change ((← MonadState.get).listAt id))) :=
  bind get fun _ _ fits held => setList id (each _ _ fits (held.1.lists id))

theorem listSet (id : ListId) (index : Value) (known : Known extent value) :
    Keeps extent Anything (Observe.listSet id index value) := by
  refine bind get fun large memory fits held => ?_
  refine bind (placeOf _ _ index) fun larger place more _ => setList id ?_
  refine allKnown_iff.mpr fun item has => ?_
  obtain old | rfl := List.mem_or_eq_of_mem_set has
  · exact (allKnown_iff.mp (held.1.lists id) item old).mono more
  · exact known.mono (fits.trans more)

theorem listDelete (id : ListId) (index : Value) :
    Keeps extent Anything (Observe.listDelete id index) := by
  refine bind get fun large memory fits held => ?_
  refine bind (placeOf _ _ index) fun larger place more _ => setList id ?_
  exact allKnown_of_subset (AllKnown.mono (held.1.lists id) more) fun _ => List.mem_of_mem_eraseIdx

theorem listInsert (id : ListId) (index : Value) (known : Known extent value) :
    Keeps extent Anything (Observe.listInsert id index value) := by
  refine bind (positionOf index) fun large place fits _ => ?_
  refine listChange id (ReactiveSchema.insertItem · place value) ?_
  intro larger items more all
  unfold ReactiveSchema.insertItem
  refine allKnown_append (allKnown_of_subset all fun _ => List.mem_of_mem_take) ?_
  exact .cons (known.mono (fits.trans more))
    (allKnown_of_subset all fun _ => List.mem_of_mem_drop)

theorem listExtend (id : ListId) (more : AllKnown extent added) :
    Keeps extent Anything (Observe.listExtend id added) :=
  listChange id (· ++ added) fun _ _ fits all => allKnown_append all (more.mono fits)

theorem listSetSlice (id : ListId) (start stop : Value) (more : AllKnown extent added) :
    Keeps extent Anything (Observe.listSetSlice id start stop added) := by
  refine bind (sliceBound start) fun large start fits _ => ?_
  refine bind (sliceBound stop) fun larger stop ahead _ => ?_
  refine listChange id (replaceSlice · start stop added) ?_
  intro largest items last all
  unfold replaceSlice
  refine allKnown_append (allKnown_append ?_ (more.mono ((fits.trans ahead).trans last))) ?_
  · exact allKnown_of_subset all fun _ => List.mem_of_mem_take
  · exact allKnown_of_subset all fun _ => List.mem_of_mem_drop

theorem listPop (id : ListId) (index : Value) :
    Keeps extent Known (Observe.listPop id index) := by
  refine bind (positionOf index) fun large n fits _ => ?_
  refine bind get fun larger memory more held => ?_
  have all : AllKnown larger (memory.listAt id) := held.1.lists id
  dsimp only
  split
  · exact throw (.failure _)
  · refine bind (setList id (allKnown_of_subset all fun _ => List.mem_of_mem_eraseIdx)) ?_
    exact fun _ _ last _ => pure fun _ ahead => (all.getD _).mono (last.trans ahead)

/-- Two known values are compared. -/
theorem sameOrEqual {item : Value} (known : Known extent item) (other : Known extent value) :
    Keeps extent Anything (Observe.sameOr Observe.equal item value) :=
  Tandem.keeps_done fun _ fits =>
    Tandem.sameOr Tandem.equal (known.mono fits) (other.mono fits)

theorem findEqual (known : Known extent value) (place : Nat) (all : AllKnown extent items) :
    Keeps extent Anything (Observe.findEqual value place items) := by
  induction items generalizing extent place with
  | nil => exact throw (.failure _)
  | cons item rest ih =>
      cases all with
      | cons head tail =>
          unfold Observe.findEqual
          refine bind (sameOrEqual head known) fun large same fits _ => ?_
          split
          · exact done
          · exact ih (known.mono fits) _ (AllKnown.mono tail fits)

theorem countEqual (known : Known extent value) (all : AllKnown extent items) :
    Keeps extent Anything (Observe.countEqual value items) := by
  refine bind (filterM fun large fits item has => ?_) fun _ _ _ _ => done
  exact sameOrEqual ((allKnown_iff.mp all item has).mono fits) (known.mono fits)

theorem listRemove (id : ListId) (known : Known extent value) :
    Keeps extent Anything (Observe.listRemove id value) := by
  refine bind get fun large memory fits held => ?_
  have all : AllKnown large (memory.listAt id) := held.1.lists id
  refine bind (findEqual (known.mono fits) 0 all) fun larger place more _ => setList id ?_
  exact allKnown_of_subset (all.mono more) fun _ => List.mem_of_mem_eraseIdx

/-! ## Maps -/

variable {entries : Entries Value} {key : Value}

theorem checkKey (key : Value) : Keeps extent Anything (Observe.checkKey key) := by
  unfold Observe.checkKey
  split
  · exact done
  · exact throw (.failure _)

theorem entriesKnown_of_subset {fewer : Entries Value} (known : EntriesKnown extent entries)
    (subset : ∀ entry ∈ fewer, entry ∈ entries) : EntriesKnown extent fewer :=
  entriesKnown_iff.mpr fun entry has => entriesKnown_iff.mp known entry (subset entry has)

theorem erase_known (known : EntriesKnown extent entries) (key : Value) :
    EntriesKnown extent (entries.erase key) :=
  entriesKnown_of_subset known fun _ has => (List.mem_filter.mp has).1

theorem mapSet (id : MapId) (keys : Known extent key) (known : Known extent value) :
    Keeps extent Anything (Observe.mapSet id key value) := by
  refine bind (checkKey key) fun large _ fits _ => ?_
  refine bind get fun larger memory more held => setMap id ?_
  have ahead := fits.trans more
  exact EntryTwins.insert (held.1.maps id) (keys.mono ahead) (known.mono ahead)

theorem mapDelete (id : MapId) (key : Value) :
    Keeps extent Anything (Observe.mapDelete id key) := by
  refine bind (checkKey key) fun large _ _ _ => ?_
  refine bind get fun larger memory _ held => ?_
  dsimp only
  split
  · exact setMap id (erase_known (held.1.maps id) key)
  · exact throw (.failure _)

theorem mapPop (id : MapId) (key : Value) {otherwise : Option Value}
    (known : MaybeKnown extent otherwise) :
    Keeps extent Known (Observe.mapPop id key otherwise) := by
  refine bind get fun large memory fits held => ?_
  refine perhaps (checkKey key) fun larger more => ?_
  have entries := EntryTwins.mono more (held.1.maps id)
  split
  case h_1 value found =>
    refine bind (setMap id (erase_known entries key)) fun _ _ most _ => ?_
    exact pure fun _ last => (Entries.within_of_find? entries found).2.mono (most.trans last)
  case h_2 value _ => exact pure fun _ last => (known value rfl).mono (fits.trans (more.trans last))
  case h_3 => exact throw (.failure _)

theorem mapPopEntry (id : MapId) : Keeps extent Known (Observe.mapPopEntry id) := by
  refine bind get fun large memory _ held => ?_
  split
  · exact throw (.failure _)
  case h_2 key value older reversed =>
    have all : ∀ entry ∈ (key, value) :: older, entry ∈ memory.mapAt id := by
      intro entry has
      rwa [← reversed, List.mem_reverse] at has
    obtain ⟨keys, values⟩ := entriesKnown_iff.mp (held.1.maps id) _ (all _ (.head _))
    refine bind (setMap id (entriesKnown_of_subset (held.1.maps id) fun entry has =>
      all _ (.tail _ (List.mem_reverse.mp has)))) fun _ _ more _ => ?_
    exact pure fun _ last => .tuple (.cons (keys.mono (more.trans last))
      (.cons (values.mono (more.trans last)) .nil))

theorem mapSetDefault (id : MapId) (keys : Known extent key) (known : Known extent value) :
    Keeps extent Known (Observe.mapSetDefault id key value) := by
  refine bind (checkKey key) fun large _ fits _ => ?_
  refine bind get fun larger memory more held => ?_
  have ahead := fits.trans more
  dsimp only
  split
  case h_1 found has => exact pure fun _ last => (Entries.within_of_find? (held.1.maps id) has).2.mono last
  case h_2 =>
    refine bind (setMap id (EntryTwins.insert (held.1.maps id) (keys.mono ahead)
      (known.mono ahead))) fun _ _ last _ => ?_
    exact pure fun _ most => known.mono ((ahead.trans last).trans most)

theorem mapWriteAll (id : MapId) (all : EntriesKnown extent entries) :
    Keeps extent Anything (Observe.mapWriteAll id entries) := by
  induction entries generalizing extent with
  | nil => exact done
  | cons entry rest ih =>
      cases all with
      | cons both others =>
          exact bind (mapSet id both.1 both.2) fun _ _ fits _ => ih (EntryTwins.mono fits others)

/-- A pair of known values. -/
abbrev PairKnown : Extent → Value × Value → Prop :=
  fun large pair => pair.1.Within large ∧ pair.2.Within large

theorem pairOf (known : Known extent value) :
    Keeps extent PairKnown (Observe.pairOf value) :=
  Tandem.keeps (fun _ fits => Tandem.pairOf (known.mono fits)) fun _ _ _ both => ⟨both.1.within, both.2.within⟩

theorem iterate (known : Known extent value) : Keeps extent AllKnown (Observe.iterate value) :=
  Tandem.keeps_all fun _ fits => Tandem.iterate (known.mono fits)

theorem entriesOf (known : Known extent value) :
    Keeps extent EntriesKnown (Observe.entriesOf value) :=
  Tandem.keeps_entries fun _ fits => Tandem.entriesOf (known.mono fits)

theorem mapWritePairs (id : MapId) (all : AllKnown extent items) :
    Keeps extent Anything (Observe.mapWritePairs id items) := by
  induction items generalizing extent with
  | nil => exact done
  | cons item rest ih =>
      cases all with
      | cons head tail =>
          refine bind (pairOf head) fun large pair fits both => ?_
          exact bind (mapSet id both.1 both.2) fun _ _ more _ =>
            ih (AllKnown.mono tail (fits.trans more))

theorem mapUpdate (id : MapId) (known : Known extent value) :
    Keeps extent Anything (Observe.mapUpdate id value) := by
  unfold Observe.mapUpdate
  split
  · exact bind (entriesOf known) fun _ _ _ all => mapWriteAll id all
  · exact bind (iterate known) fun _ _ _ all => mapWritePairs id all

end Keeps

end ReactiveSchema
