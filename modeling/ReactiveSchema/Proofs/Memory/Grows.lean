import ReactiveSchema.Proofs.Memory.Keys
import ReactiveSchema.Proofs.Observe.Looks

/-!
# Memory that grows

Looking at memory leaves all that is there as it is.  It may add containers,
cells and nodes, tracked state for keys that had none, and live faces for
values that had none or an outdated one.
-/

namespace ReactiveSchema

/-- All that is in one array is at the same place in another. -/
def Begins {α : Type} (items more : Array α) : Prop :=
  ∀ (index : Nat) (item : α), items[index]? = some item → more[index]? = some item

theorem begins_refl {α : Type} (items : Array α) : Begins items items :=
  fun _ _ => id

theorem begins_push {α : Type} (items : Array α) (added : α) :
    Begins items (items.push added) := by
  intro index item found
  have inside : index < items.size := (Array.getElem?_eq_some_iff.mp found).1
  rw [Array.getElem?_push_lt inside]
  exact (Array.getElem?_eq_getElem inside).symm.trans found

theorem Begins.trans {α : Type} {items more most : Array α} (first : Begins items more)
    (second : Begins more most) : Begins items most :=
  fun index item found => second index item (first index item found)

theorem Begins.size_le {α : Type} {items more : Array α} (begins : Begins items more) :
    items.size ≤ more.size := by
  refine Nat.le_of_not_lt fun shorter => ?_
  have found := begins more.size items[more.size] (Array.getElem?_eq_getElem shorter)
  rw [Array.getElem?_eq_none (Nat.le_refl _)] at found
  cases found

namespace Memory

/-- A live face shows a plain container. -/
def Fronts (memory : Memory) : Value → Value → Prop
  | .liveMap face, .map raw => ∃ live, memory.liveMaps[face]? = some live ∧ live.raw = raw
  | .liveList face, .list raw => ∃ live, memory.liveLists[face]? = some live ∧ live.raw = raw
  | _, _ => False

/-- The face that a live map keeps for a key shows what the key has. -/
def KeepsFace (memory : Memory) (id : LiveMapId) (key face : Value) : Prop :=
  ∃ live value, memory.liveMaps[id]? = some live ∧ live.children.find? key = some face ∧
    (memory.mapAt live.raw).find? key = some value ∧ memory.Fronts face value

/-- The item at an index, which counts from the end when it is negative. -/
def itemOf? (items : List Value) (index : Int) : Option Value :=
  (Observe.placeOf? items.length index).bind fun place => items[place]?

/-- The face that a live list keeps for an index shows the item there. -/
def KeepsItemFace (memory : Memory) (id : LiveListId) (index : Int) (face : Value) : Prop :=
  ∃ live value, memory.liveLists[id]? = some live ∧ live.children.lookup index = some face ∧
    itemOf? (memory.listAt live.raw) index = some value ∧ memory.Fronts face value

/-- Nothing that is there goes or changes. -/
structure Grows (before after : Memory) : Prop where
  lists : Begins before.lists after.lists
  maps : Begins before.maps after.maps
  refs : Begins before.refs after.refs
  nodes : Begins before.nodes after.nodes
  objects : Begins before.objects after.objects
  liveLists {id : LiveListId} {live : LiveList} : before.liveLists[id]? = some live →
    ∃ later, after.liveLists[id]? = some later ∧ later.raw = live.raw ∧ later.dep = live.dep
  liveMaps {id : LiveMapId} {live : LiveMap} : before.liveMaps[id]? = some live →
    ∃ later, after.liveMaps[id]? = some later ∧ later.raw = live.raw ∧
      later.keysDep = live.keysDep ∧
        ∀ key dep, live.deps.find? key = some dep → later.deps.find? key = some dep
  faces {id : LiveMapId} {key face : Value} :
    before.KeepsFace id key face → after.KeepsFace id key face
  itemFaces {id : LiveListId} {index : Int} {face : Value} :
    before.KeepsItemFace id index face → after.KeepsItemFace id index face
  liveMapsSize : before.liveMaps.size ≤ after.liveMaps.size
  depCount : before.depCount ≤ after.depCount
  newDeps {id : LiveMapId} {key : Value} {dep : DepId} :
    (after.liveMapAt id).deps.find? key = some dep →
      (before.liveMapAt id).deps.find? key = some dep ∨ before.depCount ≤ dep
  newFaces {id : LiveMapId} {key : Value} {face : LiveMapId} :
    (after.liveMapAt id).children.find? key = some (.liveMap face) →
      (before.liveMapAt id).children.find? key = some (.liveMap face) ∨
        before.liveMaps.size ≤ face
  newKeys {id : LiveMapId} {live : LiveMap} : after.liveMaps[id]? = some live →
    (∃ old, before.liveMaps[id]? = some old) ∨ before.depCount ≤ live.keysDep

theorem mapAt_find?_of_begins {before after : Memory} (maps : Begins before.maps after.maps)
    {raw : MapId} {key value : Value} (found : (before.mapAt raw).find? key = some value) :
    (after.mapAt raw).find? key = some value := by
  unfold mapAt at found ⊢
  cases known : before.maps[raw]? with
  | none => rw [known] at found; cases found
  | some entries =>
      rw [known] at found
      rw [maps raw entries known]
      exact found

theorem itemOf?_of_begins {before after : Memory} (lists : Begins before.lists after.lists)
    {raw : ListId} {index : Int} {value : Value}
    (found : itemOf? (before.listAt raw) index = some value) :
    itemOf? (after.listAt raw) index = some value := by
  unfold itemOf? listAt at found ⊢
  cases known : before.lists[raw]? with
  | none =>
      obtain ⟨place, -, item⟩ := Option.bind_eq_some_iff.mp found
      rw [known] at item
      cases item
  | some items =>
      rw [known] at found
      rw [lists raw items known]
      exact found

theorem itemOf?_natCast (items : List Value) (place : Nat) :
    itemOf? items place = items[place]? := by
  have nonneg : ¬ (place : Int) < 0 := by omega
  unfold itemOf? Observe.placeOf?
  dsimp only
  rw [if_neg nonneg]
  split
  case isTrue => rfl
  case isFalse outside => exact (List.getElem?_eq_none (by omega)).symm

namespace Grows

variable {before middle after : Memory}

theorem refl (memory : Memory) : Grows memory memory where
  lists := begins_refl _
  maps := begins_refl _
  refs := begins_refl _
  nodes := begins_refl _
  objects := begins_refl _
  liveLists found := ⟨_, found, rfl, rfl⟩
  liveMaps found := ⟨_, found, rfl, rfl, fun _ _ => id⟩
  faces := id
  itemFaces := id
  liveMapsSize := Nat.le_refl _
  depCount := Nat.le_refl _
  newDeps := .inl
  newFaces := .inl
  newKeys found := .inl ⟨_, found⟩

theorem trans (first : Grows before middle) (second : Grows middle after) :
    Grows before after where
  lists := first.lists.trans second.lists
  maps := first.maps.trans second.maps
  refs := first.refs.trans second.refs
  nodes := first.nodes.trans second.nodes
  objects := first.objects.trans second.objects
  liveLists found := by
    obtain ⟨_, between, raw, dep⟩ := first.liveLists found
    obtain ⟨later, known, raw', dep'⟩ := second.liveLists between
    exact ⟨later, known, raw'.trans raw, dep'.trans dep⟩
  liveMaps found := by
    obtain ⟨_, between, raw, keysDep, deps⟩ := first.liveMaps found
    obtain ⟨later, known, raw', keysDep', deps'⟩ := second.liveMaps between
    refine ⟨later, known, raw'.trans raw, keysDep'.trans keysDep, fun key dep has => ?_⟩
    exact deps' key dep (deps key dep has)
  faces := second.faces ∘ first.faces
  itemFaces := second.itemFaces ∘ first.itemFaces
  liveMapsSize := Nat.le_trans first.liveMapsSize second.liveMapsSize
  depCount := Nat.le_trans first.depCount second.depCount
  newDeps found := by
    rcases second.newDeps found with between | new
    · exact first.newDeps between
    · exact .inr (Nat.le_trans first.depCount new)
  newFaces found := by
    rcases second.newFaces found with between | new
    · exact first.newFaces between
    · exact .inr (Nat.le_trans first.liveMapsSize new)
  newKeys found := by
    rcases second.newKeys found with ⟨live, between⟩ | new
    · obtain ⟨later, known, -, keysDep, -⟩ := second.liveMaps between
      cases found.symm.trans known
      exact (first.newKeys between).imp_right fun new => keysDep ▸ new
    · exact .inr (Nat.le_trans first.depCount new)

theorem fronts (grows : Grows before after) {face raw : Value}
    (shows : before.Fronts face raw) : after.Fronts face raw := by
  unfold Fronts at shows ⊢
  split at shows
  · obtain ⟨live, found, same⟩ := shows
    obtain ⟨later, known, raw, -⟩ := grows.liveMaps found
    exact ⟨later, known, raw.trans same⟩
  · obtain ⟨live, found, same⟩ := shows
    obtain ⟨later, known, raw, -⟩ := grows.liveLists found
    exact ⟨later, known, raw.trans same⟩
  · exact shows.elim

/-- What changes no live face. -/
theorem of_plain (lists : Begins before.lists after.lists)
    (maps : Begins before.maps after.maps) (refs : Begins before.refs after.refs)
    (nodes : Begins before.nodes after.nodes) (objects : Begins before.objects after.objects)
    (liveLists : after.liveLists = before.liveLists) (liveMaps : after.liveMaps = before.liveMaps)
    (depCount : before.depCount ≤ after.depCount) : Grows before after where
  lists := lists
  maps := maps
  refs := refs
  nodes := nodes
  objects := objects
  liveLists found := ⟨_, liveLists ▸ found, rfl, rfl⟩
  liveMaps found := ⟨_, liveMaps ▸ found, rfl, rfl, fun _ _ => id⟩
  faces kept := by
    obtain ⟨live, value, found, face, entry, shows⟩ := kept
    refine ⟨live, value, liveMaps ▸ found, face, mapAt_find?_of_begins maps entry, ?_⟩
    unfold Fronts at shows ⊢
    rw [liveMaps, liveLists]
    exact shows
  itemFaces kept := by
    obtain ⟨live, value, found, face, item, shows⟩ := kept
    refine ⟨live, value, liveLists ▸ found, face, itemOf?_of_begins lists item, ?_⟩
    unfold Fronts at shows ⊢
    rw [liveMaps, liveLists]
    exact shows
  liveMapsSize := Nat.le_of_eq (congrArg Array.size liveMaps.symm)
  depCount := depCount
  newDeps found := by
    unfold liveMapAt at found ⊢
    rw [liveMaps] at found
    exact .inl found
  newFaces found := by
    unfold liveMapAt at found ⊢
    rw [liveMaps] at found
    exact .inl found
  newKeys found := .inl ⟨_, liveMaps ▸ found⟩

/-- A change of one live map, on top of others, that keeps all it had but for outdated faces. -/
theorem of_liveMap (grown : Grows before middle) {id : LiveMapId} {change : LiveMap → LiveMap}
    (count : Nat) (depCount : middle.depCount ≤ count)
    (raw : ∀ live, (change live).raw = live.raw)
    (keysDep : ∀ live, (change live).keysDep = live.keysDep)
    (deps : ∀ live key dep, middle.liveMaps[id]? = some live →
      live.deps.find? key = some dep → (change live).deps.find? key = some dep)
    (newDeps : ∀ live key dep, (change live).deps.find? key = some dep →
      live.deps.find? key = some dep ∨ before.depCount ≤ dep)
    (faces : ∀ live key face, middle.liveMaps[id]? = some live →
      middle.KeepsFace id key face → (change live).children.find? key = some face)
    (newFaces : ∀ live key face, (change live).children.find? key = some (.liveMap face) →
      live.children.find? key = some (.liveMap face) ∨ before.liveMaps.size ≤ face) :
    Grows before
      { middle with liveMaps := middle.liveMaps.modify id change, depCount := count } := by
  have looked (other : LiveMapId) : (middle.liveMaps.modify id change)[other]? =
      if id = other then middle.liveMaps[other]?.map change else middle.liveMaps[other]? :=
    Array.getElem?_modify
  have fronts {face raw' : Value} (shows : middle.Fronts face raw') :
      Fronts { middle with liveMaps := middle.liveMaps.modify id change, depCount := count }
        face raw' := by
    unfold Fronts at shows ⊢
    split at shows
    · obtain ⟨live, found, same⟩ := shows
      simp only [looked, found]
      split
      · exact ⟨_, rfl, (raw live).trans same⟩
      · exact ⟨_, rfl, same⟩
    · exact shows
    · exact shows
  have atId (other : LiveMapId) : (liveMapAt { middle with
      liveMaps := middle.liveMaps.modify id change, depCount := count } other) =
        if id = other then (middle.liveMaps[other]?.map change).getD ⟨0, [], 0, []⟩
        else middle.liveMapAt other := by
    unfold liveMapAt
    rw [looked]
    split <;> rfl
  constructor
  case lists => exact grown.lists
  case maps => exact grown.maps
  case refs => exact grown.refs
  case nodes => exact grown.nodes
  case objects => exact grown.objects
  case liveLists => exact grown.liveLists
  case liveMaps =>
    intro other first found
    obtain ⟨live, between, sameRaw, sameKeys, sameDeps⟩ := grown.liveMaps found
    simp only [looked, between]
    split
    case isTrue same =>
      subst same
      refine ⟨_, rfl, (raw live).trans sameRaw, (keysDep live).trans sameKeys, ?_⟩
      exact fun key dep known => deps live key dep between (sameDeps key dep known)
    case isFalse => exact ⟨_, rfl, sameRaw, sameKeys, sameDeps⟩
  case faces =>
    intro other key face kept
    obtain ⟨live, value, found, known, entry, shows⟩ := grown.faces kept
    unfold KeepsFace
    simp only [looked, found]
    split
    case isTrue same =>
      subst same
      refine ⟨_, value, rfl, faces live key face found ?_, ?_, fronts shows⟩
      · exact ⟨live, value, found, known, entry, shows⟩
      · rw [raw]
        exact entry
    case isFalse => exact ⟨_, value, rfl, known, entry, fronts shows⟩
  case itemFaces =>
    intro other index face kept
    obtain ⟨live, value, found, known, item, shows⟩ := grown.itemFaces kept
    exact ⟨live, value, found, known, item, fronts shows⟩
  case liveMapsSize => exact Nat.le_trans grown.liveMapsSize (Nat.le_of_eq Array.size_modify.symm)
  case depCount => exact Nat.le_trans grown.depCount depCount
  case newDeps =>
    intro other key dep found
    rw [atId] at found
    split at found
    · cases known : middle.liveMaps[other]? with
      | none => rw [known] at found; cases found
      | some live =>
          rw [known] at found
          refine (newDeps live key dep found).elim (fun old => grown.newDeps ?_) .inr
          unfold liveMapAt
          rw [known]
          exact old
    · exact grown.newDeps found
  case newFaces =>
    intro other key face found
    rw [atId] at found
    split at found
    · cases known : middle.liveMaps[other]? with
      | none => rw [known] at found; cases found
      | some live =>
          rw [known] at found
          refine (newFaces live key face found).elim (fun old => grown.newFaces ?_) .inr
          unfold liveMapAt
          rw [known]
          exact old
    · exact grown.newFaces found
  case newKeys =>
    intro other later found
    rw [looked] at found
    split at found
    · obtain ⟨live, known, rfl⟩ := Option.map_eq_some_iff.mp found
      exact (grown.newKeys known).imp_right fun new => (keysDep live).symm ▸ new
    · exact grown.newKeys found

/-- A change of one live list, on top of others, that keeps all it had but for outdated faces. -/
theorem of_liveList (grown : Grows before middle) {id : LiveListId}
    {change : LiveList → LiveList}
    (raw : ∀ live, (change live).raw = live.raw) (dep : ∀ live, (change live).dep = live.dep)
    (faces : ∀ first live index face, before.liveLists[id]? = some first →
      middle.liveLists[id]? = some live → middle.KeepsItemFace id index face →
        (change live).children.lookup index = some face) :
    Grows before { middle with liveLists := middle.liveLists.modify id change } := by
  have looked (other : LiveListId) : (middle.liveLists.modify id change)[other]? =
      if id = other then middle.liveLists[other]?.map change else middle.liveLists[other]? :=
    Array.getElem?_modify
  have fronts {face raw' : Value} (shows : middle.Fronts face raw') :
      Fronts { middle with liveLists := middle.liveLists.modify id change } face raw' := by
    unfold Fronts at shows ⊢
    split at shows
    · exact shows
    · obtain ⟨live, found, same⟩ := shows
      simp only [looked, found]
      split
      · exact ⟨_, rfl, (raw live).trans same⟩
      · exact ⟨_, rfl, same⟩
    · exact shows
  constructor
  case lists => exact grown.lists
  case maps => exact grown.maps
  case refs => exact grown.refs
  case nodes => exact grown.nodes
  case objects => exact grown.objects
  case liveLists =>
    intro other first found
    obtain ⟨live, between, sameRaw, sameDep⟩ := grown.liveLists found
    simp only [looked, between]
    split
    case isTrue same => exact ⟨_, rfl, (raw live).trans sameRaw, (dep live).trans sameDep⟩
    case isFalse => exact ⟨_, rfl, sameRaw, sameDep⟩
  case liveMaps => exact grown.liveMaps
  case faces =>
    intro other key face kept
    obtain ⟨live, value, found, known, entry, shows⟩ := grown.faces kept
    exact ⟨live, value, found, known, entry, fronts shows⟩
  case itemFaces =>
    intro other index face kept
    have ⟨first, _, existed, _⟩ := kept
    obtain ⟨live, value, found, known, item, shows⟩ := grown.itemFaces kept
    unfold KeepsItemFace
    simp only [looked, found]
    split
    case isTrue same =>
      subst same
      refine ⟨_, value, rfl, faces first live index face existed found ?_, ?_, fronts shows⟩
      · exact ⟨live, value, found, known, item, shows⟩
      · rw [raw]
        exact item
    case isFalse => exact ⟨_, value, rfl, known, item, fronts shows⟩
  case liveMapsSize => exact grown.liveMapsSize
  case depCount => exact grown.depCount
  case newDeps => exact grown.newDeps
  case newFaces => exact grown.newFaces
  case newKeys => exact grown.newKeys

/-- A new live list. -/
theorem of_newLiveList (live : LiveList) (count : Nat) (depCount : before.depCount ≤ count) :
    Grows before
      { before with liveLists := before.liveLists.push live, depCount := count } := by
  have fronts {face raw : Value} (shows : before.Fronts face raw) :
      Fronts { before with liveLists := before.liveLists.push live, depCount := count }
        face raw := by
    unfold Fronts at shows ⊢
    split at shows
    · exact shows
    · obtain ⟨old, found, same⟩ := shows
      exact ⟨old, begins_push _ _ _ _ found, same⟩
    · exact shows
  constructor
  case lists => exact begins_refl _
  case maps => exact begins_refl _
  case refs => exact begins_refl _
  case nodes => exact begins_refl _
  case objects => exact begins_refl _
  case liveLists => exact fun found => ⟨_, begins_push _ _ _ _ found, rfl, rfl⟩
  case liveMaps => exact fun found => ⟨_, found, rfl, rfl, fun _ _ known => known⟩
  case faces =>
    rintro other key face ⟨old, value, found, known, entry, shows⟩
    exact ⟨old, value, found, known, entry, fronts shows⟩
  case itemFaces =>
    rintro other index face ⟨old, value, found, known, item, shows⟩
    exact ⟨old, value, begins_push _ _ _ _ found, known, item, fronts shows⟩
  case liveMapsSize => exact Nat.le_refl _
  case depCount => exact depCount
  case newDeps => exact .inl
  case newFaces => exact .inl
  case newKeys => exact fun found => .inl ⟨_, found⟩

/-- A new live map, which tracks no key and keeps no face yet. -/
theorem of_newLiveMap (raw : MapId) (keysDep : DepId) (count : Nat)
    (new : before.depCount ≤ keysDep) (depCount : before.depCount ≤ count) :
    Grows before
      { before with
        liveMaps := before.liveMaps.push ⟨raw, [], keysDep, []⟩, depCount := count } := by
  have fronts {face raw' : Value} (shows : before.Fronts face raw') :
      Fronts { before with
        liveMaps := before.liveMaps.push ⟨raw, [], keysDep, []⟩, depCount := count }
        face raw' := by
    unfold Fronts at shows ⊢
    split at shows
    · obtain ⟨old, found, same⟩ := shows
      exact ⟨old, begins_push _ _ _ _ found, same⟩
    · exact shows
    · exact shows
  have atId (id : LiveMapId) : (liveMapAt { before with
      liveMaps := before.liveMaps.push ⟨raw, [], keysDep, []⟩, depCount := count } id) =
        if id = before.liveMaps.size then ⟨raw, [], keysDep, []⟩ else before.liveMapAt id := by
    unfold liveMapAt
    rw [Array.getElem?_push]
    split <;> rfl
  constructor
  case lists => exact begins_refl _
  case maps => exact begins_refl _
  case refs => exact begins_refl _
  case nodes => exact begins_refl _
  case objects => exact begins_refl _
  case liveLists => exact fun found => ⟨_, found, rfl, rfl⟩
  case liveMaps =>
    exact fun found => ⟨_, begins_push _ _ _ _ found, rfl, rfl, fun _ _ known => known⟩
  case faces =>
    rintro other key face ⟨old, value, found, known, entry, shows⟩
    exact ⟨old, value, begins_push _ _ _ _ found, known, entry, fronts shows⟩
  case itemFaces =>
    rintro other index face ⟨old, value, found, known, item, shows⟩
    exact ⟨old, value, found, known, item, fronts shows⟩
  case liveMapsSize => exact (begins_push _ _).size_le
  case depCount => exact depCount
  case newDeps =>
    intro id key dep found
    rw [atId] at found
    split at found
    · cases found
    · exact .inl found
  case newFaces =>
    intro id key face found
    rw [atId] at found
    split at found
    · cases found
    · exact .inl found
  case newKeys =>
    intro id live found
    dsimp only at found
    rw [Array.getElem?_push] at found
    split at found
    · cases found
      exact .inr new
    · exact .inl ⟨live, found⟩

end Grows

end Memory

end ReactiveSchema
