import ReactiveSchema.Proofs.Memory.Grows

/-!
# Handing out live faces

What reading a live container comes to: tracked state for the key, once and
for all, and the face of a plain container, a new one if none is kept or the
one that is kept shows something else.  So looking at memory makes it grow.
-/

namespace ReactiveSchema

namespace Memory

/-- Memory with tracked state for a key. -/
def withKeyDep (memory : Memory) (id : LiveMapId) (key : Value) : Memory :=
  { memory with
    liveMaps := memory.liveMaps.modify id fun live =>
      { live with deps := live.deps.insert key memory.depCount }
    depCount := memory.depCount + 1 }

/-- Memory in which a live map keeps a face for a key. -/
def keepingFace (memory : Memory) (id : LiveMapId) (key face : Value) : Memory :=
  { memory with
    liveMaps := memory.liveMaps.modify id fun live =>
      { live with children := live.children.insert key face } }

/-- Memory in which a live list keeps a face for an index. -/
def keepingItemFace (memory : Memory) (id : LiveListId) (index : Int) (face : Value) : Memory :=
  { memory with
    liveLists := memory.liveLists.modify id fun live =>
      { live with children := (index, face) :: live.children.filter (·.1 != index) } }

/-- A new live face of a plain container, and memory with it. -/
def newFace (memory : Memory) : Value → Value × Memory
  | .list raw =>
      (.liveList memory.liveLists.size,
        { memory with
          liveLists := memory.liveLists.push ⟨raw, memory.depCount, []⟩
          depCount := memory.depCount + 1 })
  | .map raw =>
      (.liveMap memory.liveMaps.size,
        { memory with
          liveMaps := memory.liveMaps.push ⟨raw, [], memory.depCount, []⟩
          depCount := memory.depCount + 1 })
  | value => (value, memory)

/-- The tracked state of a key, and memory with it. -/
def keyed (memory : Memory) (id : LiveMapId) (key : Value) : DepId × Memory :=
  match (memory.liveMapAt id).deps.find? key with
  | some dep => (dep, memory)
  | none => (memory.depCount, memory.withKeyDep id key)

/-- What is handed out for the value of a key, and memory with it. -/
def handOut (memory : Memory) (id : LiveMapId) (key value : Value) : Value × Memory :=
  let face := memory.newFace value
  let kept := (face.1, face.2.keepingFace id key face.1)
  if value.isPlainContainer then
    match (memory.liveMapAt id).children.find? key with
    | some child => if memory.isFaceOf child value then (child, memory) else kept
    | none => kept
  else (value, memory)

/-- What is handed out for the item of an index, and memory with it. -/
def handOutItem (memory : Memory) (id : LiveListId) (index : Int) (value : Value) :
    Value × Memory :=
  let face := memory.newFace value
  let kept := (face.1, face.2.keepingItemFace id index face.1)
  if value.isPlainContainer then
    match (memory.liveListAt id).children.lookup index with
    | some child => if memory.isFaceOf child value then (child, memory) else kept
    | none => kept
  else (value, memory)

/-- Note that tracked state was read. -/
def reading (memory : Memory) (dep : DepId) : Memory :=
  { memory with reads := dep :: memory.reads }

theorem toRaw_of_fronts {memory : Memory} {face raw : Value} (shows : memory.Fronts face raw) :
    memory.toRaw face = raw := by
  unfold Fronts at shows
  split at shows
  · obtain ⟨live, found, rfl⟩ := shows
    simp only [toRaw, rawMap, liveMapAt, found, Option.getD_some]
  · obtain ⟨live, found, rfl⟩ := shows
    simp only [toRaw, rawList, liveListAt, found, Option.getD_some]
  · exact shows.elim

theorem rawList_of_found {memory : Memory} {id : LiveListId} {live : LiveList}
    (found : memory.liveLists[id]? = some live) : memory.rawList id = live.raw := by
  simp only [rawList, liveListAt, found, Option.getD_some]

theorem rawMap_of_found {memory : Memory} {id : LiveMapId} {live : LiveMap}
    (found : memory.liveMaps[id]? = some live) : memory.rawMap id = live.raw := by
  simp only [rawMap, liveMapAt, found, Option.getD_some]

theorem fronts_iff_isFaceOf {memory : Memory} {face raw : Value} :
    memory.Fronts face raw ↔ memory.isFaceOf face raw = true := by
  unfold Fronts isFaceOf
  split
  case h_1 => simp only [Option.any_eq_true, beq_iff_eq]
  case h_2 => simp only [Option.any_eq_true, beq_iff_eq]
  case h_3 noMap noList =>
    split
    · exact absurd rfl (noList _ _ rfl)
    · exact absurd rfl (noMap _ _ rfl)
    · simp

theorem newFace_fronts {memory : Memory} {value : Value}
    (plain : value.isPlainContainer = true) :
    (memory.newFace value).2.Fronts (memory.newFace value).1 value := by
  cases value <;> cases plain
  case list raw => exact ⟨_, Array.getElem?_push_size, rfl⟩
  case map raw => exact ⟨_, Array.getElem?_push_size, rfl⟩

theorem grows_newFace (memory : Memory) (value : Value) :
    Grows memory (memory.newFace value).2 := by
  unfold newFace
  split
  · exact .of_newLiveList _ _ (Nat.le_succ _)
  · exact .of_newLiveMap _ _ _ (Nat.le_refl _) (Nat.le_succ _)
  · exact .refl memory

/-- With a new face, what is shown was shown before or is shown by the new face. -/
theorem fronts_of_newFace {memory : Memory} {value face raw : Value}
    (shows : (memory.newFace value).2.Fronts face raw) :
    memory.Fronts face raw ∨ face = (memory.newFace value).1 := by
  unfold Fronts at shows ⊢
  cases value
  case list id =>
    split at shows
    · exact .inl shows
    · obtain ⟨live, found, same⟩ := shows
      simp only [newFace, Array.getElem?_push] at found
      split at found
      case isTrue last => exact .inr (congrArg Value.liveList last)
      case isFalse => exact .inl ⟨live, found, same⟩
    · exact shows.elim
  case map id =>
    split at shows
    · obtain ⟨live, found, same⟩ := shows
      simp only [newFace, Array.getElem?_push] at found
      split at found
      case isTrue last => exact .inr (congrArg Value.liveMap last)
      case isFalse => exact .inl ⟨live, found, same⟩
    · exact .inl shows
    · exact shows.elim
  all_goals exact .inl shows

theorem newFace_maps (memory : Memory) (value : Value) :
    (memory.newFace value).2.maps = memory.maps := by
  cases value <;> rfl

theorem newFace_lists (memory : Memory) (value : Value) :
    (memory.newFace value).2.lists = memory.lists := by
  cases value <;> rfl

/-- A new face adds no live list that keeps anything. -/
theorem newFace_liveLists {memory : Memory} {value : Value} {id : LiveListId} {live : LiveList}
    (found : (memory.newFace value).2.liveLists[id]? = some live) :
    memory.liveLists[id]? = some live ∨ live.children = [] := by
  cases value
  case list raw =>
    simp only [newFace, Array.getElem?_push] at found
    split at found
    · cases found
      exact .inr rfl
    · exact .inl found
  all_goals exact .inl found

theorem lookup_filter_ne {children : List (Int × Value)} {index other : Int}
    (apart : other ≠ index) :
    (children.filter (·.1 != index)).lookup other = children.lookup other := by
  induction children with
  | nil => rfl
  | cons entry rest ih =>
      obtain ⟨first, face⟩ := entry
      by_cases gone : first = index
      · subst gone
        rw [List.filter_cons_of_neg (by simp), List.lookup_cons, beq_false_of_ne apart]
        exact ih
      · rw [List.filter_cons_of_pos (by simpa using gone), List.lookup_cons, List.lookup_cons, ih]

/-- A new face adds no live map that tracks or keeps anything. -/
theorem newFace_liveMaps {memory : Memory} {value : Value} {id : LiveMapId} {live : LiveMap}
    (found : (memory.newFace value).2.liveMaps[id]? = some live) :
    memory.liveMaps[id]? = some live ∨ live.children = [] := by
  cases value
  case map raw =>
    simp only [newFace, Array.getElem?_push] at found
    split at found
    · cases found
      exact .inr rfl
    · exact .inl found
  all_goals exact .inl found

theorem grows_reading (memory : Memory) (dep : DepId) : Grows memory (memory.reading dep) :=
  .of_plain (begins_refl _) (begins_refl _) (begins_refl _) (begins_refl _) (begins_refl _)
    rfl rfl (Nat.le_refl _)

theorem grows_withKeyDep (memory : Memory) (id : LiveMapId) (key : Value)
    (missing : (memory.liveMapAt id).deps.find? key = none) :
    Grows memory (memory.withKeyDep id key) := by
  refine .of_liveMap (.refl memory) _ (Nat.le_succ _) (fun _ => rfl) (fun _ => rfl) ?_ ?_ ?_ fun _ _ _ => .inl
  · intro live other dep found known
    unfold liveMapAt at missing
    rw [found] at missing
    exact Entries.find?_insert_of_none _ _ missing known
  · intro live other dep found
    rcases Entries.find?_insert_cases _ _ found with rfl | known
    · exact .inr (Nat.le_refl _)
    · exact .inl known
  · rintro live other face found ⟨_, value, found', known, -⟩
    rw [found] at found'
    cases found'
    exact known

/-- A face that shows something else than its key has may be replaced by a new one. -/
theorem grows_keepingFace (memory : Memory) (id : LiveMapId) {key value : Value}
    (plain : value.isPlainContainer = true)
    (entry : (memory.mapAt (memory.rawMap id)).find? key = some value)
    (outdated : ∀ old, (memory.liveMapAt id).children.find? key = some old →
      ¬ memory.Fronts old value) :
    Grows memory ((memory.newFace value).2.keepingFace id key (memory.newFace value).1) := by
  have grown := grows_newFace memory value
  refine .of_liveMap grown _ (Nat.le_refl _) (fun _ => rfl) (fun _ => rfl)
    (fun _ _ _ _ known => known) (fun _ _ _ => .inl) ?_ ?_
  · rintro live other face found ⟨_, shown, found', known, has, shows⟩
    rw [found] at found'
    cases found'
    by_cases same : key.sameKey other = true
    · rw [← Entries.find?_congr _ same] at known has ⊢
      rcases newFace_liveMaps found with before | empty
      · have raw : memory.rawMap id = live.raw := by
          simp only [rawMap, liveMapAt, before, Option.getD_some]
        have kept : (memory.liveMapAt id).children.find? key = some face := by
          simpa only [liveMapAt, before, Option.getD_some] using known
        unfold mapAt at has
        rw [newFace_maps, ← raw] at has
        cases entry.symm.trans has
        rcases fronts_of_newFace shows with old | rfl
        · exact absurd old (outdated face kept)
        · exact Entries.find?_insert_self _ _
      · rw [empty] at known
        cases known
    · exact (Entries.find?_insert_of_not _ _ same).trans known
  · intro live other face found
    rcases Entries.find?_insert_cases _ _ found with new | known
    · refine .inr ?_
      cases value <;> cases plain <;> cases new
      exact Nat.le_refl _
    · exact .inl known

/-- The face of an item may likewise be replaced by a new one. -/
theorem grows_keepingItemFace {before memory : Memory} (grown : Grows before memory)
    (id : LiveListId) {index : Int} {value : Value}
    (item : ∀ first live, before.liveLists[id]? = some first →
      memory.liveLists[id]? = some live → itemOf? (memory.listAt live.raw) index = some value)
    (outdated : ∀ old, (memory.liveListAt id).children.lookup index = some old →
      ¬ memory.Fronts old value) :
    Grows before ((memory.newFace value).2.keepingItemFace id index (memory.newFace value).1) := by
  have grown := grown.trans (grows_newFace memory value)
  refine .of_liveList grown (fun _ => rfl) (fun _ => rfl) ?_
  rintro first live other face existed found ⟨_, shown, found', known, has, shows⟩
  rw [found] at found'
  cases found'
  by_cases same : other = index
  · subst same
    rcases newFace_liveLists found with earlier | empty
    · have kept : (memory.liveListAt id).children.lookup other = some face := by
        simpa only [liveListAt, earlier, Option.getD_some] using known
      have entry := item first live existed earlier
      unfold itemOf? listAt at has entry
      rw [newFace_lists] at has
      cases entry.symm.trans has
      rcases fronts_of_newFace shows with old | rfl
      · exact absurd old (outdated face kept)
      · exact List.lookup_cons_self
    · rw [empty] at known
      cases known
  · rw [List.lookup_cons, beq_false_of_ne same]
    exact (lookup_filter_ne same).trans known

theorem grows_keyed (memory : Memory) (id : LiveMapId) (key : Value) :
    Grows memory (memory.keyed id key).2 := by
  unfold keyed
  split
  case h_1 => exact .refl memory
  case h_2 missing => exact grows_withKeyDep memory id key missing

theorem grows_handOut {memory : Memory} {id : LiveMapId} {key value : Value}
    (entry : (memory.mapAt (memory.rawMap id)).find? key = some value) :
    Grows memory (memory.handOut id key value).2 := by
  unfold handOut
  split
  case isTrue plain =>
    split
    case h_1 child kept =>
      split
      case isTrue => exact .refl memory
      case isFalse apart =>
        refine grows_keepingFace memory id plain entry fun old known => ?_
        rw [kept] at known
        cases known
        exact fun shows => apart (fronts_iff_isFaceOf.mp shows)
    case h_2 missing =>
      refine grows_keepingFace memory id plain entry fun old known => ?_
      rw [missing] at known
      cases known
  case isFalse => exact .refl memory

theorem grows_handOutItem {before memory : Memory} (grown : Grows before memory)
    {id : LiveListId} {index : Int} {value : Value}
    (item : ∀ first live, before.liveLists[id]? = some first →
      memory.liveLists[id]? = some live → itemOf? (memory.listAt live.raw) index = some value) :
    Grows before (memory.handOutItem id index value).2 := by
  unfold handOutItem
  split
  case isTrue plain =>
    split
    case h_1 child kept =>
      split
      case isTrue => exact grown
      case isFalse apart =>
        refine grows_keepingItemFace grown id item fun old known => ?_
        rw [kept] at known
        cases known
        exact fun shows => apart (fronts_iff_isFaceOf.mp shows)
    case h_2 missing =>
      refine grows_keepingItemFace grown id item fun old known => ?_
      rw [missing] at known
      cases known
  case isFalse => exact grown

end Memory

open Memory

namespace Observe

theorem run_track (dep : DepId) (memory : Memory) :
    (track dep).run memory = (.ok (), memory.reading dep) := rfl

theorem run_makeLive (value : Value) (memory : Memory) :
    (makeLive value).run memory = (.ok (memory.newFace value).1, (memory.newFace value).2) := by
  cases value <;> rfl

theorem run_checkKey {key : Value} (hashable : key.isHashable = true) (memory : Memory) :
    (checkKey key).run memory = (.ok (), memory) := by
  unfold checkKey
  rw [if_pos hashable]
  rfl

theorem run_checkKey_unhashable {key : Value} (unhashable : ¬ key.isHashable = true)
    (memory : Memory) :
    (checkKey key).run memory = (.error (.failure (.unhashable key.typeName)), memory) := by
  unfold checkKey
  rw [if_neg unhashable]
  rfl

theorem run_keyDep {key : Value} (hashable : key.isHashable = true) (id : LiveMapId)
    (memory : Memory) :
    (keyDep id key).run memory = (.ok (memory.keyed id key).1, (memory.keyed id key).2) := by
  unfold keyDep keyed
  rw [run_bind, run_checkKey hashable]
  dsimp only
  rw [run_bind, run_get]
  dsimp only
  cases (memory.liveMapAt id).deps.find? key with
  | none => rfl
  | some dep => rfl

theorem run_wrapEntry (id : LiveMapId) (key value : Value) (memory : Memory) :
    (wrapEntry id key value).run memory =
      (.ok (memory.handOut id key value).1, (memory.handOut id key value).2) := by
  have fresh : (wrapEntry.newFace id key value).run memory =
      (.ok (memory.newFace value).1,
        (memory.newFace value).2.keepingFace id key (memory.newFace value).1) := by
    unfold wrapEntry.newFace
    rw [run_bind, run_makeLive]
    rfl
  unfold wrapEntry handOut
  cases plain : value.isPlainContainer with
  | false => rfl
  | true =>
      simp only [Bool.not_true, Bool.false_eq_true, if_false, if_true]
      rw [run_bind, run_get]
      dsimp only
      cases (memory.liveMapAt id).children.find? key with
      | none => exact fresh
      | some child =>
          dsimp only
          split
          · rfl
          · exact fresh

theorem run_wrapItem (id : LiveListId) (index : Int) (value : Value) (memory : Memory) :
    (wrapItem id index value).run memory =
      (.ok (memory.handOutItem id index value).1, (memory.handOutItem id index value).2) := by
  have fresh : (wrapItem.newFace id index value).run memory =
      (.ok (memory.newFace value).1,
        (memory.newFace value).2.keepingItemFace id index (memory.newFace value).1) := by
    unfold wrapItem.newFace
    rw [run_bind, run_makeLive]
    rfl
  unfold wrapItem handOutItem
  cases plain : value.isPlainContainer with
  | false => rfl
  | true =>
      simp only [Bool.not_true, Bool.false_eq_true, if_false, if_true]
      rw [run_bind, run_get]
      dsimp only
      cases (memory.liveListAt id).children.lookup index with
      | none => exact fresh
      | some child =>
          dsimp only
          split
          · rfl
          · exact fresh

/-- Reading a key notes it, and hands its value out if it has one. -/
theorem run_liveMapGet {key : Value} (hashable : key.isHashable = true) (id : LiveMapId)
    (memory : Memory) :
    (liveMapGet id key).run memory =
      let noted := (memory.keyed id key).2.reading (memory.keyed id key).1
      match (noted.mapAt (noted.rawMap id)).find? key with
      | some value => (.ok (noted.handOut id key value).1, (noted.handOut id key value).2)
      | none => (.error (.failure (noted.missingKey key)), noted) := by
  unfold liveMapGet
  rw [run_bind, run_keyDep hashable]
  dsimp only
  rw [run_bind, run_track]
  dsimp only
  rw [run_bind, run_get]
  dsimp only
  generalize (memory.keyed id key).2.reading (memory.keyed id key).1 = noted
  cases (noted.mapAt (noted.rawMap id)).find? key with
  | none => rfl
  | some value => exact run_wrapEntry id key value noted

theorem grows_liveMapGet (id : LiveMapId) (key : Value) : Along Grows (liveMapGet id key) := by
  intro memory
  by_cases hashable : key.isHashable = true
  · have noted := (grows_keyed memory id key).trans (grows_reading _ (memory.keyed id key).1)
    rw [run_liveMapGet hashable]
    dsimp only
    split
    case h_1 value entry => exact noted.trans (grows_handOut entry)
    case h_2 => exact noted
  · unfold liveMapGet keyDep
    rw [run_bind, run_bind, run_checkKey_unhashable hashable]
    exact .refl memory

theorem grows_trackList (id : LiveListId) (memory : Memory) :
    Grows memory (memory.reading (memory.liveListAt id).dep) :=
  grows_reading memory _

/-- Items are handed out one after another, all as they were at first. -/
theorem grows_wrapItems (id : LiveListId) {before : Memory} (items : List (Value × Nat))
    {memory : Memory} (grown : Grows before memory)
    (each : ∀ first value place, before.liveLists[id]? = some first → (value, place) ∈ items →
      (before.listAt first.raw)[place]? = some value) :
    Grows before
      ((items.mapM fun ((value, index) : Value × Nat) => wrapItem id index value).run memory).2 := by
  induction items generalizing memory with
  | nil => exact grown
  | cons item rest ih =>
      obtain ⟨value, index⟩ := item
      have next : Grows before (memory.handOutItem id index value).2 := by
        refine grows_handOutItem grown fun first live existed found => ?_
        obtain ⟨_, found', raw, -⟩ := grown.liveLists existed
        cases found.symm.trans found'
        rw [raw]
        refine itemOf?_of_begins grown.lists ?_
        rw [itemOf?_natCast]
        exact each first value index existed List.mem_cons_self
      have later := ih next fun first value place existed known =>
        each first value place existed (List.mem_cons_of_mem _ known)
      rw [List.mapM_cons, run_bind, run_wrapItem]
      dsimp only at later ⊢
      rw [run_bind]
      split
      case h_1 values after ran =>
        rw [ran] at later
        exact later
      case h_2 fault after ran =>
        rw [ran] at later
        exact later

theorem grows_liveListItems (id : LiveListId) : Along Grows (liveListItems id) := by
  intro memory
  have noted := grows_trackList id memory
  unfold liveListItems trackList
  rw [run_bind, run_bind, run_get]
  dsimp only
  rw [run_track]
  dsimp only
  rw [run_bind, run_get]
  dsimp only
  refine noted.trans (grows_wrapItems id _ (.refl _) fun first value place existed known => ?_)
  rw [rawList_of_found existed] at known
  exact List.mk_mem_zipIdx_iff_getElem?.mp known

theorem grows_liveListGetAt (id : LiveListId) (index : Int) :
    Along Grows (liveListGetAt id index) := by
  intro memory
  have noted := grows_trackList id memory
  unfold liveListGetAt trackList
  rw [run_bind, run_bind, run_get]
  dsimp only
  rw [run_track]
  dsimp only
  rw [run_bind, run_get]
  dsimp only
  split
  case h_1 value found =>
    rw [run_wrapItem]
    refine noted.trans (grows_handOutItem (.refl _) fun first live existed known => ?_)
    rw [rawList_of_found known] at found ⊢
    exact found
  case h_2 => exact noted

end Observe

open Observe in
/-- All looking at memory makes it grow. -/
theorem looks_grows : Looks fun _ => Along Grows where
  toClosed := Composable.closed ⟨.refl, .trans⟩
  track dep memory := grows_reading memory dep
  keyDep id key memory := by
    by_cases hashable : key.isHashable = true
    · rw [run_keyDep hashable]
      exact grows_keyed memory id key
    · unfold keyDep
      rw [run_bind, run_checkKey_unhashable hashable]
      exact .refl memory
  liveMapGet := grows_liveMapGet
  liveListGetAt := grows_liveListGetAt
  liveListItems := grows_liveListItems
  newList items memory := .of_plain (begins_push _ _) (begins_refl _) (begins_refl _)
    (begins_refl _) (begins_refl _) rfl rfl (Nat.le_refl _)
  newMapId entries memory := .of_plain (begins_refl _) (begins_push _ _) (begins_refl _)
    (begins_refl _) (begins_refl _) rfl rfl (Nat.le_refl _)
  newNode type props children memory := .of_plain (begins_refl _) (begins_refl _)
    (begins_refl _) (begins_push _ _) (begins_refl _) rfl rfl (Nat.le_refl _)
  newObject attributes memory := .of_plain (begins_refl _) (begins_refl _) (begins_refl _)
    (begins_refl _) (begins_push _ _) rfl rfl (Nat.le_refl _)
  newRef content memory := .of_plain (begins_refl _) (begins_refl _) (begins_push _ _)
    (begins_refl _) (begins_refl _) rfl rfl (Nat.le_succ _)
  newSerial memory := .of_plain (begins_refl _) (begins_refl _) (begins_refl _)
    (begins_refl _) (begins_refl _) rfl rfl (Nat.le_refl _)
  newScope label memory := .of_plain (begins_refl _) (begins_refl _) (begins_refl _)
    (begins_refl _) (begins_refl _) rfl rfl (Nat.le_refl _)
  newLiveList raw memory := .of_newLiveList _ _ (Nat.le_succ _)
  newLiveMapId raw memory := .of_newLiveMap _ _ _ (Nat.le_refl _) (Nat.le_succ _)
  log record memory := .of_plain (begins_refl _) (begins_refl _) (begins_refl _)
    (begins_refl _) (begins_refl _) rfl rfl (Nat.le_refl _)

end ReactiveSchema
