import ReactiveSchema.Proofs.Memory.Overwrite

/-!
# Severed links

Writing an entry drops the face that was kept for its key.  Whoever takes the
way over that entry from then on meets faces that were not there before, with
tracked state that nobody who read earlier can have noted.
-/

namespace ReactiveSchema

namespace Memory

variable {memory before after : Memory} {root id face : LiveMapId} {keys place : List String}
  {faces : LiveMapId} {deps : DepId}

/-- The face met at the end of keys, as far as faces are kept for them. -/
def keptAt (memory : Memory) : LiveMapId → List String → Option LiveMapId
  | id, [] => some id
  | id, key :: rest =>
      match (memory.liveMapAt id).children.find? (.str key) with
      | some (.liveMap child) => memory.keptAt child rest
      | _ => none

theorem keptAt_nil : memory.keptAt id [] = some id := by
  unfold keptAt
  rfl

theorem keptAt_cons_eq_some {key : String} {rest : List String} :
    memory.keptAt id (key :: rest) = some face ↔
      ∃ child, (memory.liveMapAt id).children.find? (.str key) = some (.liveMap child) ∧
        memory.keptAt child rest = some face := by
  constructor
  · intro known
    unfold keptAt at known
    split at known
    · rename_i child kept
      exact ⟨child, kept, known⟩
    · cases known
  · rintro ⟨child, kept, further⟩
    unfold keptAt
    rw [kept]
    exact further

theorem keptAt_append {rest : List String} :
    memory.keptAt id (keys ++ rest) = some face ↔
      ∃ between, memory.keptAt id keys = some between ∧
        memory.keptAt between rest = some face := by
  induction keys generalizing id with
  | nil =>
      rw [List.nil_append, keptAt_nil]
      constructor
      · intro known
        exact ⟨id, rfl, known⟩
      · rintro ⟨_, same, known⟩
        cases same
        exact known
  | cons key keys ih =>
      rw [List.cons_append, keptAt_cons_eq_some]
      constructor
      · rintro ⟨child, kept, further⟩
        obtain ⟨between, reached, last⟩ := ih.mp further
        exact ⟨between, keptAt_cons_eq_some.mpr ⟨child, kept, reached⟩, last⟩
      · rintro ⟨between, reached, last⟩
        obtain ⟨child, kept, further⟩ := keptAt_cons_eq_some.mp reached
        exact ⟨child, kept, ih.mpr ⟨between, further, last⟩⟩

theorem keptAt_congr (same : after.liveMaps = before.liveMaps) :
    after.keptAt id keys = before.keptAt id keys := by
  induction keys generalizing id with
  | nil => rw [keptAt_nil, keptAt_nil]
  | cons key rest ih =>
      unfold keptAt liveMapAt
      simp only [same, ih]

theorem liveMapAt_of_found {live : LiveMap} (found : memory.liveMaps[id]? = some live) :
    memory.liveMapAt id = live := by
  unfold liveMapAt
  rw [found]
  rfl

/-- Below a newer face all faces are newer, if that holds of each step. -/
theorem le_of_keptAt (closed : ∀ id key face, faces ≤ id →
      (memory.liveMapAt id).children.find? (.str key) = some (.liveMap face) → faces ≤ face)
    (new : faces ≤ id) (known : memory.keptAt id keys = some face) : faces ≤ face := by
  induction keys generalizing id with
  | nil =>
      rw [keptAt_nil] at known
      cases known
      exact new
  | cons key rest ih =>
      obtain ⟨child, kept, further⟩ := keptAt_cons_eq_some.mp known
      exact ih (closed id key child new kept) further

/--
The faces kept at a place, and all that are below newer ones, are newer than a
moment, and so is what they track.
-/
structure Severed (memory : Memory) (faces : LiveMapId) (deps : DepId) (root : LiveMapId)
    (place : List String) : Prop where
  size : faces ≤ memory.liveMaps.size
  count : deps ≤ memory.depCount
  kept {face : LiveMapId} : memory.keptAt root place = some face → faces ≤ face
  newDeps {id : LiveMapId} {key : String} {dep : DepId} : faces ≤ id →
    (memory.liveMapAt id).deps.find? (.str key) = some dep → deps ≤ dep
  newFaces {id : LiveMapId} {key : String} {face : LiveMapId} : faces ≤ id →
    (memory.liveMapAt id).children.find? (.str key) = some (.liveMap face) → faces ≤ face
  newKeys {id : LiveMapId} {live : LiveMap} : faces ≤ id → memory.liveMaps[id]? = some live →
    deps ≤ live.keysDep

namespace Severed

/-- Whoever takes the way over the place meets newer faces from there on. -/
theorem beyond (severed : memory.Severed faces deps root place) {rest : List String}
    (known : memory.keptAt root (place ++ rest) = some face) : faces ≤ face := by
  obtain ⟨between, reached, further⟩ := keptAt_append.mp known
  exact le_of_keptAt (fun _ _ _ => severed.newFaces) (severed.kept reached) further

theorem grows (severed : before.Severed faces deps root place) (grows : Grows before after) :
    after.Severed faces deps root place := by
  have newFaces {id : LiveMapId} {key : String} {face : LiveMapId} (new : faces ≤ id)
      (kept : (after.liveMapAt id).children.find? (.str key) = some (.liveMap face)) :
      faces ≤ face := by
    rcases grows.newFaces kept with old | added
    · exact severed.newFaces new old
    · exact Nat.le_trans severed.size added
  constructor
  case size => exact Nat.le_trans severed.size grows.liveMapsSize
  case count => exact Nat.le_trans severed.count grows.depCount
  case newFaces => exact newFaces
  case newDeps =>
    intro id key dep new tracked
    rcases grows.newDeps tracked with old | added
    · exact severed.newDeps new old
    · exact Nat.le_trans severed.count added
  case newKeys =>
    intro id live new found
    rcases grows.newKeys found with ⟨old, known⟩ | added
    · obtain ⟨_, found', -, keysDep, -⟩ := grows.liveMaps known
      cases found.symm.trans found'
      exact keysDep ▸ severed.newKeys new known
    · exact Nat.le_trans severed.count added
  case kept =>
    intro face known
    -- a way that is kept now was kept before, or leads over a new face
    have met {id : LiveMapId} {keys : List String} (known : after.keptAt id keys = some face) :
        before.keptAt id keys = some face ∨ faces ≤ face := by
      induction keys generalizing id with
      | nil =>
          rw [keptAt_nil] at known ⊢
          exact .inl known
      | cons key rest ih =>
          obtain ⟨child, kept, further⟩ := keptAt_cons_eq_some.mp known
          rcases grows.newFaces kept with old | added
          · exact (ih further).imp_left fun reached => keptAt_cons_eq_some.mpr ⟨child, old, reached⟩
          · exact .inr (le_of_keptAt (fun _ _ _ => newFaces) (Nat.le_trans severed.size added) further)
    exact (met known).elim severed.kept id

end Severed

/-! ## Writing an entry -/

section Overwritten

variable {key : String} {written : Value}

theorem liveMapAt_overwritten :
    (memory.overwritten id (.str key) written).liveMapAt face =
      if id = face then
        { memory.liveMapAt face with children := (memory.liveMapAt face).children.erase (.str key) }
      else memory.liveMapAt face := by
  unfold liveMapAt
  rw [liveMaps_overwritten]
  split
  · cases memory.liveMaps[face]? <;> rfl
  · rfl

/-- Writing an entry drops a face, and no new one comes. -/
theorem child_of_overwritten {step : String} {child : Value}
    (kept : ((memory.overwritten id (.str key) written).liveMapAt face).children.find?
      (.str step) = some child) :
    (memory.liveMapAt face).children.find? (.str step) = some child ∧ (id = face → step ≠ key) := by
  rw [liveMapAt_overwritten] at kept
  split at kept
  case isTrue same =>
    have apart : step ≠ key := by
      rintro rfl
      rw [Entries.find?_erase_self] at kept
      cases kept
    rw [Entries.find?_erase_of_ne (Value.isOwnKey_str step) _
      fun same => apart (Value.str.inj same).symm] at kept
    exact ⟨kept, fun _ => apart⟩
  case isFalse apart => exact ⟨kept, fun same => absurd same apart⟩

theorem keptAt_of_overwritten {start : LiveMapId}
    (known : (memory.overwritten id (.str key) written).keptAt start keys = some face) :
    memory.keptAt start keys = some face := by
  induction keys generalizing start with
  | nil =>
      rw [keptAt_nil] at known ⊢
      exact known
  | cons step rest ih =>
      obtain ⟨child, kept, further⟩ := keptAt_cons_eq_some.mp known
      exact keptAt_cons_eq_some.mpr ⟨child, (child_of_overwritten kept).1, ih further⟩

theorem deps_overwritten :
    ((memory.overwritten id (.str key) written).liveMapAt face).deps =
      (memory.liveMapAt face).deps := by
  rw [liveMapAt_overwritten]
  split <;> rfl

theorem size_overwritten :
    (memory.overwritten id (.str key) written).liveMaps.size = memory.liveMaps.size := by
  unfold overwritten droppingFace
  exact Array.size_modify

theorem Severed.overwritten (severed : memory.Severed faces deps root place) (id : LiveMapId)
    (key : String) (written : Value) :
    (memory.overwritten id (.str key) written).Severed faces deps root place where
  size := Nat.le_trans severed.size (Nat.le_of_eq size_overwritten.symm)
  count := severed.count
  kept known := severed.kept (keptAt_of_overwritten known)
  newDeps new tracked := severed.newDeps new (deps_overwritten ▸ tracked)
  newFaces new kept := severed.newFaces new (child_of_overwritten kept).1
  newKeys {face live} new found := by
    rw [liveMaps_overwritten] at found
    split at found
    · obtain ⟨old, known, rfl⟩ := Option.map_eq_some_iff.mp found
      have newer := severed.newKeys new known
      exact newer
    · exact severed.newKeys new found

/-- Writing an entry severs the links over it. -/
theorem severed_overwritten (reached : memory.keptAt root place = some id) (key : String)
    (written : Value) :
    (memory.overwritten id (.str key) written).Severed memory.liveMaps.size memory.depCount root
      (place ++ [key]) := by
  have blank {face : LiveMapId} (new : memory.liveMaps.size ≤ face) :
      memory.liveMapAt face = ⟨0, [], 0, []⟩ := by
    unfold liveMapAt
    rw [Array.getElem?_eq_none new]
    rfl
  constructor
  case size => exact Nat.le_of_eq size_overwritten.symm
  case count => exact Nat.le_refl _
  case kept =>
    intro face known
    obtain ⟨between, there, further⟩ := keptAt_append.mp known
    obtain ⟨child, kept, -⟩ := keptAt_cons_eq_some.mp further
    cases reached.symm.trans (keptAt_of_overwritten there)
    exact absurd rfl ((child_of_overwritten kept).2 rfl)
  case newDeps =>
    intro face step dep new tracked
    rw [deps_overwritten, blank new] at tracked
    cases tracked
  case newFaces =>
    intro face step child new kept
    have old := (child_of_overwritten kept).1
    rw [blank new] at old
    cases old
  case newKeys =>
    intro face live new found
    have inside := (Array.getElem?_eq_some_iff.mp found).1
    rw [size_overwritten] at inside
    exact absurd new (Nat.not_le_of_lt inside)

end Overwritten

end Memory

namespace Observe

variable {memory after : Memory}

/-- Reading by path keeps the faces that it meets. -/
theorem keptAt_getPath {given plain : Value} {keys : List String} {id : LiveMapId}
    (hands : memory.Hands given plain) (calm : Calm after plain)
    (ran : (getPath given (keys.map .str)).run memory = (.ok (.liveMap id), after)) :
    ∃ start, given = .liveMap start ∧ after.keptAt start keys = some id := by
  induction keys generalizing memory given plain with
  | nil =>
      cases ran
      exact ⟨id, rfl, Memory.keptAt_nil⟩
  | cons key rest ih =>
      obtain ⟨next, middle, first, further⟩ := run_bind_ok ran
      obtain ⟨start, live, rfl, found, rfl⟩ :=
        liveMap_of_hands hands (calm [] plain Memory.valueAt_nil) first
      obtain ⟨later, dep, value, -, -, -, -, entry, handed, keeps⟩ := liveMapGet_ok found first
      have grows := grows_getPath further
      have entry := Memory.mapAt_find?_of_begins grows.maps entry
      have below {path : List String} {other : Value}
          (known : after.valueAt value path = some other) :
          after.valueAt (.map live.raw) (key :: path) = some other :=
        Memory.valueAt_cons_eq_some.mpr ⟨live.raw, value, rfl, entry, known⟩
      obtain ⟨child, rfl, reached⟩ :=
        ih handed (fun path other known => calm _ _ (below known)) further
      have container : value.isPlainContainer = true := by
        rcases handed with shows | ⟨-, rfl⟩
        · cases value <;> first | rfl | exact shows.elim
        · cases calm _ _ (below Memory.valueAt_nil)
      obtain ⟨last, _, present, kept, -, -⟩ :=
        grows.faces (keeps container)
      refine ⟨start, rfl, Memory.keptAt_cons_eq_some.mpr ⟨child, ?_, reached⟩⟩
      rw [Memory.liveMapAt_of_found present]
      exact kept

end Observe

end ReactiveSchema
