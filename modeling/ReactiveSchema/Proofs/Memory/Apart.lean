import ReactiveSchema.Proofs.Memory.Severed

/-!
# A store apart

Live maps that are made after some time have tracked state of their own.  A store of
bindings that is one of them holds plain maps only, and none of these is the store's own, so
writing bindings never reaches the tracked state that there was before.
-/

namespace ReactiveSchema

namespace Memory

variable {before after memory : Memory} {id : LiveMapId} {key value : Value}

/--
Where bindings are kept: the first piece of tracked state and the first live map of their
time, the store and the plain map behind it.
-/
structure Site where
  deps : DepId
  faces : LiveMapId
  store : LiveMapId
  raw : MapId

/-- A live map of the time, which is not the store. -/
structure IsFace (memory : Memory) (site : Site) (id : LiveMapId) : Prop where
  new : site.faces ≤ id
  found : ∃ live, memory.liveMaps[id]? = some live ∧ live.raw ≠ site.raw

/-- The live maps of the time have tracked state of their own, and the store holds plain maps. -/
structure Apart (site : Site) (memory : Memory) : Prop where
  count : site.deps ≤ memory.depCount
  size : site.faces ≤ memory.liveMaps.size
  keysDep {id : LiveMapId} {live : LiveMap} : site.faces ≤ id →
    memory.liveMaps[id]? = some live → site.deps ≤ live.keysDep
  keyDeps {id : LiveMapId} {key : Value} {dep : DepId} : site.faces ≤ id →
    (memory.liveMapAt id).deps.find? key = some dep → site.deps ≤ dep
  kept {key : Value} {face : LiveMapId} : key.IsOwnKey →
    (memory.liveMapAt site.store).children.find? key = some (.liveMap face) → site.faces ≤ face
  new : site.faces ≤ site.store
  store : ∃ live, memory.liveMaps[site.store]? = some live ∧ live.raw = site.raw
  inside : site.raw < memory.maps.size
  plain {key value : Value} : (memory.mapAt site.raw).find? key = some value →
    ∃ raw, value = .map raw ∧ raw ≠ site.raw

/-- Memory with the content of a cell replaced. -/
def withContent (memory : Memory) (id : RefId) (content : Value) : Memory :=
  { memory with refs := memory.refs.modify id fun cell => { cell with content } }

variable {site : Site}

theorem IsFace.grows (face : before.IsFace site id) (grows : Grows before after) :
    after.IsFace site id where
  new := face.new
  found := by
    obtain ⟨live, found, apart⟩ := face.found
    obtain ⟨later, found, raw, -⟩ := grows.liveMaps found
    exact ⟨later, found, raw ▸ apart⟩

namespace Apart

theorem grows (apart : before.Apart site) (grows : Grows before after) : after.Apart site where
  count := Nat.le_trans apart.count grows.depCount
  size := Nat.le_trans apart.size grows.liveMapsSize
  keysDep {id live} new found := by
    rcases grows.newKeys found with ⟨old, known⟩ | added
    · obtain ⟨_, found', -, keysDep, -⟩ := grows.liveMaps known
      cases found.symm.trans found'
      exact keysDep ▸ apart.keysDep new known
    · exact Nat.le_trans apart.count added
  keyDeps new tracked := by
    rcases grows.newDeps tracked with old | added
    · exact apart.keyDeps new old
    · exact Nat.le_trans apart.count added
  kept own kept := by
    rcases grows.newFaces kept with old | added
    · exact apart.kept own old
    · exact Nat.le_trans apart.size added
  new := apart.new
  store := by
    obtain ⟨live, found, raw⟩ := apart.store
    obtain ⟨later, found, raw', -⟩ := grows.liveMaps found
    exact ⟨later, found, raw'.trans raw⟩
  inside := Nat.lt_of_lt_of_le apart.inside grows.maps.size_le
  plain {key value} found := by
    have same : after.mapAt site.raw = before.mapAt site.raw := by
      unfold mapAt
      have known := Array.getElem?_eq_getElem apart.inside
      rw [grows.maps _ _ known, known]
    exact apart.plain (same ▸ found)

/-- Writing an entry through a live map other than the store, or a plain map into the store. -/
theorem overwritten (apart : memory.Apart site) (key : Value) {written : Value}
    (fits : memory.rawMap id ≠ site.raw ∨ ∃ raw, written = .map raw ∧ raw ≠ site.raw) :
    (memory.overwritten id key written).Apart site := by
  have found (face : LiveMapId) : (memory.overwritten id key written).liveMaps[face]? =
      if id = face then memory.liveMaps[face]?.map fun live =>
        { live with children := live.children.erase key }
      else memory.liveMaps[face]? := liveMaps_overwritten
  have same (face : LiveMapId) :
      ((memory.overwritten id key written).liveMapAt face).deps = (memory.liveMapAt face).deps := by
    unfold liveMapAt
    rw [found]
    split
    · cases memory.liveMaps[face]? <;> rfl
    · rfl
  constructor
  case count => exact apart.count
  case size => exact Nat.le_trans apart.size (Nat.le_of_eq (Array.size_modify ..).symm)
  case keysDep =>
    intro face live new known
    rw [found] at known
    split at known
    · obtain ⟨old, former, rfl⟩ := Option.map_eq_some_iff.mp known
      have late : site.deps ≤ old.keysDep := apart.keysDep new former
      exact late
    · exact apart.keysDep new known
  case keyDeps =>
    intro face other dep new tracked
    rw [same] at tracked
    exact apart.keyDeps new tracked
  case kept =>
    intro other face own kept
    unfold liveMapAt at kept
    rw [found] at kept
    obtain ⟨store, known, -⟩ := apart.store
    have at' := liveMapAt_of_found known
    rw [known] at kept
    split at kept
    · by_cases erased : key = other
      · subst erased
        have none : (store.children.erase key).find? key = some (.liveMap face) := kept
        rw [Entries.find?_erase_self] at none
        cases none
      · have kept : (store.children.erase key).find? other = some (.liveMap face) := kept
        rw [Entries.find?_erase_of_ne own _ erased, ← at'] at kept
        exact apart.kept own kept
    · exact apart.kept own (at' ▸ kept)
  case new => exact apart.new
  case store =>
    obtain ⟨live, known, raw⟩ := apart.store
    obtain ⟨later, known, raw', -⟩ := liveMaps_overwritten_of_found id key written known
    exact ⟨later, known, raw'.trans raw⟩
  case inside => exact Nat.lt_of_lt_of_le apart.inside (Nat.le_of_eq Array.size_setIfInBounds.symm)
  case plain =>
    intro other value known
    have known : ((memory.writeEntry (memory.rawMap id) key written).mapAt site.raw).find? other =
      some value := known
    by_cases own : memory.rawMap id = site.raw
    · rw [own, mapAt_writeEntry_self apart.inside] at known
      rcases Entries.find?_insert_cases _ _ known with rfl | old
      · exact fits.resolve_left fun aside => aside own
      · exact apart.plain old
    · rw [mapAt_writeEntry_of_ne _ _ own] at known
      exact apart.plain known

theorem of_eq (apart : before.Apart site) (count : after.depCount = before.depCount)
    (liveMaps : after.liveMaps = before.liveMaps) (maps : after.maps = before.maps) :
    after.Apart site := by
  have found (id : LiveMapId) : after.liveMapAt id = before.liveMapAt id := by
    unfold liveMapAt
    rw [liveMaps]
  constructor
  case count => exact count ▸ apart.count
  case size => exact liveMaps ▸ apart.size
  case keysDep => exact fun new known => apart.keysDep new (liveMaps ▸ known)
  case keyDeps => exact fun new tracked => apart.keyDeps new (found _ ▸ tracked)
  case kept => exact fun own kept => apart.kept own (found _ ▸ kept)
  case new => exact apart.new
  case store => exact liveMaps ▸ apart.store
  case inside => exact maps ▸ apart.inside
  case plain =>
    intro key value known
    unfold mapAt at known
    rw [maps] at known
    exact apart.plain known

end Apart

theorem IsFace.overwritten (face : memory.IsFace site id) (other : LiveMapId)
    (key written : Value) : (memory.overwritten other key written).IsFace site id where
  new := face.new
  found := by
    obtain ⟨live, found, apart⟩ := face.found
    obtain ⟨later, found, raw, -⟩ := liveMaps_overwritten_of_found other key written found
    exact ⟨later, found, raw ▸ apart⟩

/-! ## A new store -/

/-- Memory with a new store that has no bindings. -/
def withStore (memory : Memory) : Memory :=
  { memory with
    maps := memory.maps.push []
    liveMaps := memory.liveMaps.push ⟨memory.maps.size, [], memory.depCount, []⟩
    depCount := memory.depCount + 1 }

/-- Where a new store keeps bindings. -/
def newSite (memory : Memory) : Site :=
  ⟨memory.depCount, memory.liveMaps.size, memory.liveMaps.size, memory.maps.size⟩

theorem apart_withStore (memory : Memory) : memory.withStore.Apart memory.newSite := by
  have pushed (id : LiveMapId) : memory.withStore.liveMaps[id]? =
      if id = memory.liveMaps.size then some ⟨memory.maps.size, [], memory.depCount, []⟩
      else memory.liveMaps[id]? := Array.getElem?_push
  have late {id : LiveMapId} {live : LiveMap} (new : memory.liveMaps.size ≤ id)
      (found : memory.withStore.liveMaps[id]? = some live) :
      live = ⟨memory.maps.size, [], memory.depCount, []⟩ := by
    rw [pushed] at found
    split at found
    · exact (Option.some.inj found).symm
    · rw [Array.getElem?_eq_none new] at found
      cases found
  have empty {id : LiveMapId} (new : memory.liveMaps.size ≤ id) :
      (memory.withStore.liveMapAt id).deps = [] ∧ (memory.withStore.liveMapAt id).children = [] := by
    unfold liveMapAt
    cases found : memory.withStore.liveMaps[id]? with
    | none => exact ⟨rfl, rfl⟩
    | some live =>
        rw [late new found]
        exact ⟨rfl, rfl⟩
  constructor
  case count => exact Nat.le_succ _
  case size => exact (begins_push _ _).size_le
  case keysDep =>
    intro id live new found
    rw [late new found]
    exact Nat.le_refl _
  case keyDeps =>
    intro id key dep new tracked
    rw [(empty new).1] at tracked
    cases tracked
  case kept =>
    intro key face _ kept
    have none : (memory.withStore.liveMapAt memory.newSite.store).children = [] :=
      (empty (Nat.le_refl _)).2
    rw [none] at kept
    cases kept
  case new => exact Nat.le_refl _
  case store => exact ⟨_, Array.getElem?_push_size, rfl⟩
  case inside =>
    unfold withStore
    rw [Array.size_push]
    exact Nat.lt_succ_self _
  case plain =>
    intro key value found
    have none : memory.withStore.mapAt memory.newSite.raw = [] := by
      have found : memory.withStore.maps[memory.newSite.raw]? = some [] := Array.getElem?_push_size
      unfold mapAt
      rw [found]
      rfl
    rw [none] at found
    cases found

/-! ## Faces of the bindings in the store -/

theorem IsFace.keepingFace (face : memory.IsFace site id) (other : LiveMapId) (key kept : Value) :
    (memory.keepingFace other key kept).IsFace site id where
  new := face.new
  found := by
    obtain ⟨live, found, apart⟩ := face.found
    unfold Memory.keepingFace
    dsimp only
    rw [Array.getElem?_modify, found]
    split
    · exact ⟨_, rfl, apart⟩
    · exact ⟨_, rfl, apart⟩

/-- What the store hands out is a face of the time. -/
theorem Apart.isFace_handOut (apart : memory.Apart site) (own : key.IsOwnKey)
    (entry : (memory.mapAt site.raw).find? key = some value)
    (same : (memory.handOut site.store key value).1 = .liveMap id) :
    (memory.handOut site.store key value).2.IsFace site id := by
  obtain ⟨raw, rfl, other⟩ := apart.plain entry
  have fresh (same : (memory.newFace (.map raw)).1 = .liveMap id) :
      ((memory.newFace (.map raw)).2.keepingFace site.store key
        (memory.newFace (.map raw)).1).IsFace site id := by
    cases same
    refine IsFace.keepingFace ⟨apart.size, ?_⟩ _ _ _
    exact ⟨_, Array.getElem?_push_size, other⟩
  unfold handOut at same ⊢
  rw [if_pos (by rfl)] at same ⊢
  split at same
  case h_1 child kept =>
    split at same
    case isTrue shows =>
      cases same
      obtain ⟨live, found, shown⟩ := fronts_iff_isFaceOf.mpr shows
      rw [if_pos shows]
      exact ⟨apart.kept own kept, live, found, shown ▸ other⟩
    case isFalse hides =>
      rw [if_neg hides]
      exact fresh same
  case h_2 => exact fresh same

theorem Apart.isFace_liveMapGet (apart : memory.Apart site) (own : key.IsOwnKey)
    (hashable : key.isHashable = true)
    (ran : (Observe.liveMapGet site.store key).run memory = (.ok (.liveMap id), after)) :
    after.IsFace site id := by
  have grown := (grows_keyed memory site.store key).trans
    (grows_reading _ (memory.keyed site.store key).1)
  have apart := apart.grows grown
  rw [Observe.run_liveMapGet hashable] at ran
  generalize (memory.keyed site.store key).2.reading (memory.keyed site.store key).1 = noted
    at ran apart
  obtain ⟨live, found, raw⟩ := apart.store
  dsimp only at ran
  split at ran
  case h_1 value entry =>
    rw [rawMap_of_found found, raw] at entry
    obtain ⟨same, rfl⟩ := Prod.mk.inj ran
    exact apart.isFace_handOut own entry (Except.ok.inj same)
  case h_2 => cases ran

end Memory

end ReactiveSchema
