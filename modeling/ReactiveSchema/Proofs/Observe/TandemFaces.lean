import ReactiveSchema.Proofs.Memory.Mirrors
import ReactiveSchema.Proofs.Observe.Owning
import ReactiveSchema.Proofs.Observe.Showing
import ReactiveSchema.Proofs.Observe.Tandem

/-!
# Live faces in tandem

The first look hands plain containers out by live faces, old ones and new ones,
and leaves each where it was asked for.  There the second look finds it.
-/

namespace ReactiveSchema

variable {extent small large : Extent} {moved : Relocation} {memory other before after : Memory}

/-! ## Keys that are there -/

namespace Twin

mutual

/-- A key is within an extent as soon as its form is. -/
theorem within_of_keyForm : ∀ {key : Value}, key.keyForm.Within extent → key.Within extent
  | .tuple _, .tuple same => .tuple (within_of_keyForms same)
  | .bool b, _ => .bool b
  | .float x, _ => .float x
  | .complex re im, _ => .complex re im
  | .none, same | .undefined, same | .missing, same | .ellipsis, same | .int _, same
  | .nan _, same | .str _, same | .list _, same | .map _, same | .liveList _, same
  | .liveMap _, same | .text _, same | .node _, same | .function _, same | .component _, same
  | .object _, same | .incomparable _, same | .ref _, same | .scope _, same
  | .handle _ _, same | .method _ _, same | .other _, same => same

theorem within_of_keyForms : ∀ {keys : List Value},
    Twins .still extent (Value.keyForm.keyForms keys) (Value.keyForm.keyForms keys) →
      Twins .still extent keys keys
  | [], _ => .nil
  | _ :: _, .cons first rest => .cons (within_of_keyForm first) (within_of_keyForms rest)

end

theorem within_of_sameKey {key other : Value} (held : key.Within extent)
    (same : key.sameKey other = true) : other.Within extent := by
  refine within_of_keyForm ?_
  rw [← Value.sameKey_iff.mp same]
  exact held.keyForm

/-- A twin of what is there from the start is the thing itself. -/
theorem eq_of_spared {a b : Value} (spares : moved.Spares small) (held : a.Within small)
    (same : Twin moved large a b) : b = a :=
  right_unique same (unmoved spares (.refl _) held)

end Twin

namespace Twin

theorem eq_of_sparedAll {xs ys : List Value} (spares : moved.Spares small)
    (held : Twins .still small xs xs) (same : Twins moved large xs ys) : ys = xs :=
  right_uniqueAll same (unmovedAll spares (.refl _) held)

end Twin

theorem Entries.within_of_find? {entries : Entries Value} {key value : Value}
    (held : EntryTwins .still extent entries entries) (found : entries.find? key = some value) :
    key.Within extent ∧ value.Within extent := by
  induction entries with
  | nil => cases found
  | cons entry rest ih =>
      obtain ⟨known, first⟩ := entry
      cases held with
      | cons pair others =>
          by_cases same : known.sameKey key = true
          · unfold find? at found
            rw [if_pos same] at found
            cases found
            exact ⟨pair.1.within_of_sameKey same, pair.2⟩
          · rw [find?_cons_of_not same] at found
            exact ih others found

/-- Things that go together item by item do so at every place. -/
theorem rel_getElem? {α β : Type} {R : α → β → Prop} {xs : List α} {ys : List β}
    (all : List.Forall₂ R xs ys) (place : Nat) : Option.Rel R xs[place]? ys[place]? := by
  induction all generalizing place with
  | nil => exact .none
  | cons head _ ih =>
      cases place with
      | zero => exact .some head
      | succ place => exact ih place

theorem forall₂_self {α β : Type} {P : α → β → Prop} {R : β → β → Prop} {xs : List α} {ys : List β}
    (all : List.Forall₂ P xs ys) (each : ∀ x ∈ xs, ∀ y, P x y → R y y) : List.Forall₂ R ys ys := by
  induction all with
  | nil => exact .nil
  | cons head _ ih =>
      exact .cons (each _ List.mem_cons_self _ head)
        (ih fun x has => each x (List.mem_cons_of_mem _ has))

theorem within_of_item {items : List Value} {value : Value} {place : Nat}
    (held : Twins .still extent items items) (item : items[place]? = some value) :
    value.Within extent := by
  have same := rel_getElem? held place
  rw [item] at same
  cases same with
  | some same => exact same

theorem Entries.mem_insert {α : Type} {entries : Entries α} {key : Value} {value : α}
    {entry : Value × α} (has : entry ∈ entries.insert key value) :
    entry ∈ entries ∨ entry.2 = value := by
  induction entries with
  | nil =>
      cases List.mem_singleton.mp has
      exact .inr rfl
  | cons first rest ih =>
      unfold Entries.insert at has
      split at has
      · rcases List.mem_cons.mp has with rfl | later
        · exact .inr rfl
        · exact .inl (List.mem_cons_of_mem _ later)
      · rcases List.mem_cons.mp has with rfl | later
        · exact .inl List.mem_cons_self
        · exact (ih later).imp_left (List.mem_cons_of_mem _)

namespace Memory

/-! ## What becomes of live faces -/

/-- Nothing but live faces has changed. -/
structure SameData (before after : Memory) : Prop where
  lists : after.lists = before.lists
  maps : after.maps = before.maps
  refs : after.refs = before.refs
  nodes : after.nodes = before.nodes
  objects : after.objects = before.objects
  serialCount : after.serialCount = before.serialCount
  context : after.context = before.context
  colors : after.colors = before.colors
  recursionLimit : after.recursionLimit = before.recursionLimit
  outlook : after.outlook = before.outlook

theorem sameData_refl (memory : Memory) : memory.SameData memory :=
  ⟨rfl, rfl, rfl, rfl, rfl, rfl, rfl, rfl, rfl, rfl⟩

/-- Live faces are as they were but for one: it shows a value, and others may keep it. -/
structure Faced (value face : Value) (before after : Memory) : Prop extends
    SameData before after where
  liveLists {id : LiveListId} {live : LiveList} : after.liveLists[id]? = some live →
    (∃ old, before.liveLists[id]? = some old ∧ old.raw = live.raw ∧
      ∀ entry ∈ live.children, entry ∈ old.children ∨ entry.2 = face) ∨
    value = .list live.raw ∧ ∀ entry ∈ live.children, entry.2 = face
  liveMaps {id : LiveMapId} {live : LiveMap} : after.liveMaps[id]? = some live →
    (∃ old, before.liveMaps[id]? = some old ∧ old.raw = live.raw ∧
      ∀ entry ∈ live.children, entry ∈ old.children ∨ entry.2 = face) ∨
    value = .map live.raw ∧ ∀ entry ∈ live.children, entry.2 = face

theorem faced_refl (value face : Value) (memory : Memory) : Faced value face memory memory where
  toSameData := memory.sameData_refl
  liveLists found := .inl ⟨_, found, rfl, fun _ => .inl⟩
  liveMaps found := .inl ⟨_, found, rfl, fun _ => .inl⟩

theorem faced_newFace (memory : Memory) (value : Value) :
    Faced value (memory.newFace value).1 memory (memory.newFace value).2 := by
  unfold newFace
  split
  case h_1 raw =>
    refine ⟨⟨rfl, rfl, rfl, rfl, rfl, rfl, rfl, rfl, rfl, rfl⟩, fun found => ?_,
      fun found => .inl ⟨_, found, rfl, fun _ => .inl⟩⟩
    rw [Array.getElem?_push] at found
    split at found
    · cases found
      exact .inr ⟨rfl, fun _ none => nomatch none⟩
    · exact .inl ⟨_, found, rfl, fun _ => .inl⟩
  case h_2 raw =>
    refine ⟨⟨rfl, rfl, rfl, rfl, rfl, rfl, rfl, rfl, rfl, rfl⟩,
      fun found => .inl ⟨_, found, rfl, fun _ => .inl⟩, fun found => ?_⟩
    rw [Array.getElem?_push] at found
    split at found
    · cases found
      exact .inr ⟨rfl, fun _ none => nomatch none⟩
    · exact .inl ⟨_, found, rfl, fun _ => .inl⟩
  case h_3 => exact faced_refl _ _ memory

theorem Faced.keepingFace {value face : Value} (faced : Faced value face before after)
    (id : LiveMapId) (key : Value) : Faced value face before (after.keepingFace id key face) where
  lists := faced.lists
  maps := faced.maps
  refs := faced.refs
  nodes := faced.nodes
  objects := faced.objects
  serialCount := faced.serialCount
  context := faced.context
  colors := faced.colors
  recursionLimit := faced.recursionLimit
  outlook := faced.outlook
  liveLists := faced.liveLists
  liveMaps {other live} found := by
    unfold Memory.keepingFace at found
    rw [Array.getElem?_modify] at found
    split at found
    · obtain ⟨middle, known, rfl⟩ := Option.map_eq_some_iff.mp found
      obtain ⟨old, first, raw, children⟩ | ⟨shows, children⟩ := faced.liveMaps known
      · exact .inl ⟨old, first, raw, fun entry has =>
          (Entries.mem_insert has).elim (children entry) .inr⟩
      · exact .inr ⟨shows, fun entry has => (Entries.mem_insert has).elim (children entry)
          fun same => same⟩
    · exact faced.liveMaps found

theorem Faced.keepingItemFace {value face : Value} (faced : Faced value face before after)
    (id : LiveListId) (index : Int) :
    Faced value face before (after.keepingItemFace id index face) where
  lists := faced.lists
  maps := faced.maps
  refs := faced.refs
  nodes := faced.nodes
  objects := faced.objects
  serialCount := faced.serialCount
  context := faced.context
  colors := faced.colors
  recursionLimit := faced.recursionLimit
  outlook := faced.outlook
  liveMaps := faced.liveMaps
  liveLists {other live} found := by
    have kept {children : List (Int × Value)} {entry : Int × Value}
        (has : entry ∈ (index, face) :: children.filter (·.1 != index)) :
        entry ∈ children ∨ entry.2 = face := by
      rcases List.mem_cons.mp has with rfl | later
      · exact .inr rfl
      · exact .inl (List.mem_of_mem_filter later)
    unfold Memory.keepingItemFace at found
    rw [Array.getElem?_modify] at found
    split at found
    · obtain ⟨middle, known, rfl⟩ := Option.map_eq_some_iff.mp found
      obtain ⟨old, first, raw, children⟩ | ⟨shows, children⟩ := faced.liveLists known
      · exact .inl ⟨old, first, raw, fun entry has => (kept has).elim (children entry) .inr⟩
      · exact .inr ⟨shows, fun entry has => (kept has).elim (children entry) fun same => same⟩
    · exact faced.liveLists found

theorem faced_handOut (memory : Memory) (id : LiveMapId) (key value : Value) :
    Faced value (memory.handOut id key value).1 memory (memory.handOut id key value).2 := by
  have fresh := (memory.faced_newFace value).keepingFace id key
  unfold handOut
  split
  · split
    · split
      · exact faced_refl _ _ memory
      · exact fresh
    · exact fresh
  · exact faced_refl _ _ memory

theorem faced_handOutItem (memory : Memory) (id : LiveListId) (index : Int) (value : Value) :
    Faced value (memory.handOutItem id index value).1 memory
      (memory.handOutItem id index value).2 := by
  have fresh := (memory.faced_newFace value).keepingItemFace id index
  unfold handOutItem
  split
  · split
    · split
      · exact faced_refl _ _ memory
      · exact fresh
    · exact fresh
  · exact faced_refl _ _ memory

/-- A face that shows something is there. -/
theorem Fronts.twin {face raw : Value} (shows : memory.Fronts face raw) :
    Twin moved (memory.bounds extent) face face := by
  unfold Fronts at shows
  split at shows
  · obtain ⟨_, found, -⟩ := shows
    exact .liveMap (Array.getElem?_eq_some_iff.mp found).1
  · obtain ⟨_, found, -⟩ := shows
    exact .liveList (Array.getElem?_eq_some_iff.mp found).1
  · exact shows.elim

/-- With another face of something that is there, memory stays whole. -/
theorem Faced.lasts {value face : Value} (faced : Faced value face before after)
    (held : before.Whole (before.bounds extent)) (grows : before.Grows after)
    (there : value.Within (before.bounds extent)) (new : face.Within (after.bounds extent)) :
    before.Lasts extent after := by
  have fits : (before.bounds extent).Fits (after.bounds extent) :=
    grows.fits (Nat.le_of_eq faced.serialCount.symm) extent
  refine ⟨⟨grows, Nat.le_of_eq faced.serialCount.symm, faced.refs, faced.objects, faced.colors,
    faced.recursionLimit⟩, ?_, faced.outlook⟩
  have later := held.mono fits
  constructor
  case lists => exact fun id => by unfold listAt; rw [faced.lists]; exact later.lists id
  case maps => exact fun id => by unfold mapAt; rw [faced.maps]; exact later.maps id
  case nodes => exact fun id => by unfold nodeAt; rw [faced.nodes]; exact later.nodes id
  case refs => exact fun found => later.refs (faced.refs ▸ found)
  case objects => exact fun id => by unfold objectAt; rw [faced.objects]; exact later.objects id
  case context => rw [faced.context]; exact later.context
  case outlook => rw [faced.outlook]; exact later.outlook
  case liveLists =>
    intro id live found
    obtain ⟨old, known, raw, children⟩ | ⟨rfl, children⟩ := faced.liveLists found
    · obtain ⟨inside, all⟩ := later.liveLists known
      exact ⟨raw ▸ inside, fun entry has =>
        (children entry has).elim (all entry) fun same => same ▸ new⟩
    · cases there.mono fits with
      | list inside _ => exact ⟨inside, fun entry has => children entry has ▸ new⟩
  case liveMaps =>
    intro id live found
    obtain ⟨old, known, raw, children⟩ | ⟨rfl, children⟩ := faced.liveMaps found
    · obtain ⟨inside, all⟩ := later.liveMaps known
      exact ⟨raw ▸ inside, fun entry has =>
        (children entry has).elim (all entry) fun same => same ▸ new⟩
    · cases there.mono fits with
      | map inside _ => exact ⟨inside, fun entry has => children entry has ▸ new⟩

/-! ## What is handed out -/

/-- What is handed out is there: a face of a container itself, all else as the value is. -/
theorem Hands.twin {given value : Value} (hands : memory.Hands given value)
    (same : Twin moved (memory.bounds extent) value value) :
    Twin moved (memory.bounds extent) given given := by
  rcases hands with shows | ⟨-, rfl⟩
  · exact shows.twin
  · exact same

theorem Hands.eq_of_flat {given value : Value} (hands : memory.Hands given value)
    (flat : value.isPlainContainer = false) : given = value := by
  rcases hands with shows | ⟨-, same⟩
  · rw [shows.isPlainContainer] at flat
    cases flat
  · exact same

/-- What is handed out for the value of a key, and kept if it is a face. -/
structure HandsEntry (memory : Memory) (id : LiveMapId) (key value given : Value) : Prop where
  hands : memory.Hands given value
  kept : value.isPlainContainer = true → memory.KeepsFace id key given

/-- What is handed out for an item, and kept if it is a face. -/
structure HandsItem (memory : Memory) (id : LiveListId) (index : Int) (value given : Value) :
    Prop where
  hands : memory.Hands given value
  kept : value.isPlainContainer = true → memory.KeepsItemFace id index given

theorem HandsItem.grow {id : LiveListId} {index : Int} {value given : Value}
    (hands : before.HandsItem id index value given) (grows : before.Grows after) :
    after.HandsItem id index value given :=
  ⟨hands.hands.grows grows, fun plain => grows.itemFaces (hands.kept plain)⟩

theorem handsEntry_handOut {id : LiveMapId} {key value : Value} (there : id < memory.liveMaps.size)
    (entry : (memory.mapAt (memory.rawMap id)).find? key = some value) :
    (memory.handOut id key value).2.HandsEntry id key value (memory.handOut id key value).1 := by
  have found := Array.getElem?_eq_getElem there
  rw [rawMap_of_found found] at entry
  exact ⟨handOut_hands, handOut_keeps found entry⟩

/-- An item of what a live list shows stays its item. -/
theorem itemOf?_of_rawList {id : LiveListId} {index : Int} {value : Value}
    (grows : before.Grows after) (there : id < before.liveLists.size)
    (item : itemOf? (before.listAt (before.rawList id)) index = some value) :
    itemOf? (after.listAt (after.rawList id)) index = some value := by
  have found := Array.getElem?_eq_getElem there
  obtain ⟨_, known, raw, -⟩ := grows.liveLists found
  rw [rawList_of_found found] at item
  rw [rawList_of_found known, raw]
  exact itemOf?_of_begins grows.lists item

theorem hands_handOutItem (memory : Memory) (id : LiveListId) (index : Int) (value : Value) :
    (memory.handOutItem id index value).2.Hands (memory.handOutItem id index value).1 value := by
  cases plain : value.isPlainContainer with
  | true => exact .inl (fronts_handOutItem id index plain)
  | false =>
      rw [handOutItem_of_flat id index plain]
      exact .inr ⟨plain, rfl⟩

theorem handOutItem_keeps {id : LiveListId} {index : Int} {value : Value} {live : LiveList}
    (found : memory.liveLists[id]? = some live)
    (item : itemOf? (memory.listAt live.raw) index = some value)
    (plain : value.isPlainContainer = true) :
    (memory.handOutItem id index value).2.KeepsItemFace id index
      (memory.handOutItem id index value).1 := by
  have fresh : ((memory.newFace value).2.keepingItemFace id index
      (memory.newFace value).1).KeepsItemFace id index (memory.newFace value).1 := by
    obtain ⟨later, known, raw, -⟩ := (grows_newFace memory value).liveLists found
    refine ⟨{ later with
      children := (index, (memory.newFace value).1) :: later.children.filter (·.1 != index) },
      value, ?_, List.lookup_cons_self, ?_, ?_⟩
    · unfold keepingItemFace
      rw [Array.getElem?_modify, if_pos rfl, known]
      rfl
    · unfold keepingItemFace listAt
      dsimp only
      rw [newFace_lists, raw]
      exact item
    · change ((memory.newFace value).2.withLiveList id fun live =>
        { live with children := _ :: live.children.filter (·.1 != index) }).Fronts _ _
      refine fronts_withLiveList _ ?_ (newFace_fronts plain)
      exact fun _ => rfl
  unfold handOutItem
  rw [if_pos plain]
  split
  case h_1 child kept =>
    split
    case isTrue same =>
      refine ⟨live, value, found, ?_, item, fronts_iff_isFaceOf.mpr same⟩
      simpa only [liveListAt, found, Option.getD_some] using kept
    case isFalse => exact fresh
  case h_2 => exact fresh

/-- A face that is kept for an item is handed out again. -/
theorem handOutItem_of_keeps {id : LiveListId} {index : Int} {value given : Value}
    (keeps : memory.KeepsItemFace id index given)
    (item : itemOf? (memory.listAt (memory.rawList id)) index = some value) :
    memory.handOutItem id index value = (given, memory) := by
  obtain ⟨live, shown, found, kept, item', shows⟩ := keeps
  rw [rawList_of_found found, item'] at item
  cases item
  unfold handOutItem
  rw [if_pos shows.isPlainContainer]
  simp only [liveListAt, found, Option.getD_some, kept, fronts_iff_isFaceOf.mp shows, if_true]

theorem handsItem_handOutItem {id : LiveListId} {index : Int} {value : Value}
    (there : id < memory.liveLists.size)
    (item : itemOf? (memory.listAt (memory.rawList id)) index = some value) :
    (memory.handOutItem id index value).2.HandsItem id index value
      (memory.handOutItem id index value).1 := by
  have found := Array.getElem?_eq_getElem there
  rw [rawList_of_found found] at item
  exact ⟨hands_handOutItem memory id index value, handOutItem_keeps found item⟩

end Memory

/-! ## Both looks -/

namespace FirstLook.Pairs

variable {first : FirstLook} (paired : first.Pairs (memory.bounds extent) memory other)
include paired

theorem liveMap {id : LiveMapId} {live : LiveMap} (found : first.last.liveMaps[id]? = some live) :
    ∃ twin, other.liveMaps[id]? = some twin ∧ twin.raw = live.raw ∧
      twin.children = live.children := by
  have parts := paired.liveMaps id
  rw [found] at parts
  obtain ⟨twin, known, parts⟩ := Option.map_eq_some_iff.mp parts
  exact ⟨twin, known, congrArg Prod.fst parts, congrArg Prod.snd parts⟩

/-- The first look has made another face, which the second one is going to find. -/
theorem faced {value face : Value} (faced : Memory.Faced value face memory after)
    (lasts : memory.Lasts extent after) (ends : after.Grows first.last)
    (old : value.Within (first.start.bounds extent)) :
    first.Pairs (after.bounds extent) after other := by
  have fits := lasts.fits
  have oldLists {id : LiveListId} {live : LiveList} (found : after.liveLists[id]? = some live) :
      live.raw < first.start.lists.size := by
    obtain ⟨_, known, raw, -⟩ | ⟨rfl, -⟩ := faced.liveLists found
    · exact raw ▸ paired.oldLists known
    · cases old with
      | list inside _ => exact inside
  have oldMaps {id : LiveMapId} {live : LiveMap} (found : after.liveMaps[id]? = some live) :
      live.raw < first.start.maps.size := by
    obtain ⟨_, known, raw, -⟩ | ⟨rfl, -⟩ := faced.liveMaps found
    · exact raw ▸ paired.oldMaps known
    · cases old with
      | map inside _ => exact inside
  have ahead := paired.grows.trans lasts.grows
  have lists := congrArg Array.size faced.lists
  have maps := congrArg Array.size faced.maps
  have nodes := congrArg Array.size faced.nodes
  constructor
  case toMirrors =>
    constructor
    case lists =>
      intro id there
      unfold Memory.listAt
      rw [faced.lists]
      exact Twin.monoAll fits (paired.lists (Nat.lt_of_lt_of_eq there lists))
    case maps =>
      intro id there
      unfold Memory.mapAt
      rw [faced.maps]
      exact (paired.maps (Nat.lt_of_lt_of_eq there maps)).mono fits
    case nodes =>
      intro id there
      unfold Memory.nodeAt
      rw [faced.nodes]
      exact (paired.nodes (Nat.lt_of_lt_of_eq there nodes)).mono fits
    case refs =>
      intro id
      rw [faced.refs]
      exact rel_imp (fun _ _ same => same.mono fits) (paired.refs id)
    case objects =>
      intro id
      unfold Memory.objectAt
      rw [faced.objects]
      exact (paired.objects id).imp fun _ _ same => same.mono fits
    case rawLists =>
      intro id there
      obtain ⟨live, found⟩ : ∃ live, after.liveLists[id]? = some live :=
        ⟨_, Array.getElem?_eq_getElem there⟩
      obtain ⟨later, known, raw, -⟩ := ends.liveLists found
      have early := oldLists found
      rw [← paired.liveLists] at known
      rw [Memory.rawList_of_found found, Memory.rawList_of_found known, raw]
      exact ⟨Nat.lt_of_lt_of_le early ahead.lists.size_le, Shift.move_of_lt early⟩
    case rawMaps =>
      intro id there
      obtain ⟨live, found⟩ : ∃ live, after.liveMaps[id]? = some live :=
        ⟨_, Array.getElem?_eq_getElem there⟩
      obtain ⟨later, known, raw, -⟩ := ends.liveMaps found
      have early := oldMaps found
      obtain ⟨_, known', raw', -⟩ := paired.liveMap known
      rw [Memory.rawMap_of_found found, Memory.rawMap_of_found known', raw', raw]
      exact ⟨Nat.lt_of_lt_of_le early ahead.maps.size_le, Shift.move_of_lt early⟩
    case context => rw [faced.context]; exact context_mono fits paired.context
    case colors => rw [faced.colors]; exact paired.colors
    case recursionLimit => rw [faced.recursionLimit]; exact paired.recursionLimit
    case outlook =>
      intro kind id
      rw [faced.outlook]
      exact (paired.outlook kind id).mono fits
  case began => exact paired.began
  case grows => exact ahead
  case serials => exact Nat.le_trans paired.serials lasts.serials
  case listsSize => rw [faced.lists]; exact paired.listsSize
  case mapsSize => rw [faced.maps]; exact paired.mapsSize
  case nodesSize => rw [faced.nodes]; exact paired.nodesSize
  case serialsSize => rw [faced.serialCount]; exact paired.serialsSize
  case liveLists => exact paired.liveLists
  case liveMaps => exact paired.liveMaps
  case oldLists => exact oldLists
  case oldMaps => exact oldMaps

/-- What a live map shows was there from the start. -/
theorem oldEntries {id : LiveMapId} (there : id < memory.liveMaps.size) :
    EntryTwins .still (first.start.bounds extent) (memory.mapAt (memory.rawMap id))
      (memory.mapAt (memory.rawMap id)) := by
  obtain ⟨live, found⟩ : ∃ live, memory.liveMaps[id]? = some live :=
    ⟨_, Array.getElem?_eq_getElem there⟩
  have early := paired.oldMaps found
  have same := paired.grows.maps _ _ (Array.getElem?_eq_getElem early)
  have whole := paired.began.maps live.raw
  rw [Memory.rawMap_of_found found]
  unfold Memory.mapAt at whole ⊢
  rwa [same, ← Array.getElem?_eq_getElem early]

/-- What a live list shows was there from the start. -/
theorem oldItems {id : LiveListId} (there : id < memory.liveLists.size) :
    Twins .still (first.start.bounds extent) (memory.listAt (memory.rawList id))
      (memory.listAt (memory.rawList id)) := by
  obtain ⟨live, found⟩ : ∃ live, memory.liveLists[id]? = some live :=
    ⟨_, Array.getElem?_eq_getElem there⟩
  have early := paired.oldLists found
  have same := paired.grows.lists _ _ (Array.getElem?_eq_getElem early)
  have whole := paired.began.lists live.raw
  rw [Memory.rawList_of_found found]
  unfold Memory.listAt at whole ⊢
  rwa [same, ← Array.getElem?_eq_getElem early]

theorem fronts {face raw : Value} (shows : first.last.Fronts face raw) :
    other.Fronts face raw := by
  unfold Memory.Fronts at shows ⊢
  split at shows
  · obtain ⟨live, found, same⟩ := shows
    obtain ⟨twin, known, raw, -⟩ := paired.liveMap found
    exact ⟨twin, known, raw.trans same⟩
  · obtain ⟨live, found, same⟩ := shows
    exact ⟨live, paired.liveLists ▸ found, same⟩
  · exact shows

/-- What the first look hands out for a key is handed out by the second one. -/
theorem handOut {id : LiveMapId} {key value given : Value} (there : id < memory.liveMaps.size)
    (hands : after.HandsEntry id key value given) (grows : memory.Grows after)
    (ends : after.Grows first.last)
    (entry : (memory.mapAt (memory.rawMap id)).find? key = some value)
    (entry' : (other.mapAt (other.rawMap id)).find? key = some value) :
    other.handOut id key value = (given, other) := by
  cases plain : value.isPlainContainer with
  | false =>
      rw [hands.hands.eq_of_flat plain]
      unfold Memory.handOut
      rw [plain, if_neg Bool.false_ne_true]
  | true =>
      obtain ⟨live, shown, found, kept, known, shows⟩ := ends.faces (hands.kept plain)
      obtain ⟨twin, found', raw, children⟩ := paired.liveMap found
      obtain ⟨old, begun⟩ : ∃ old, memory.liveMaps[id]? = some old :=
        ⟨_, Array.getElem?_eq_getElem there⟩
      have all := grows.trans ends
      obtain ⟨_, known', raw', -⟩ := all.liveMaps begun
      cases known'.symm.trans found
      rw [Memory.rawMap_of_found begun, ← raw'] at entry
      cases (Memory.mapAt_find?_of_begins all.maps entry).symm.trans known
      refine Memory.handOut_of_keeps
        ⟨twin, value, found', children ▸ kept, ?_, paired.fronts shows⟩ entry'
      rwa [Memory.rawMap_of_found found'] at entry'

/-- What the first look hands out for an item is handed out by the second one. -/
theorem handOutItem {id : LiveListId} {index : Int} {value given : Value}
    (there : id < memory.liveLists.size) (hands : after.HandsItem id index value given)
    (grows : memory.Grows after) (ends : after.Grows first.last)
    (item : Memory.itemOf? (memory.listAt (memory.rawList id)) index = some value)
    (item' : Memory.itemOf? (other.listAt (other.rawList id)) index = some value) :
    other.handOutItem id index value = (given, other) := by
  cases plain : value.isPlainContainer with
  | false => rw [hands.hands.eq_of_flat plain, Memory.handOutItem_of_flat id index plain]
  | true =>
      obtain ⟨live, shown, found, kept, known, shows⟩ := ends.itemFaces (hands.kept plain)
      have found' := paired.liveLists ▸ found
      obtain ⟨old, begun⟩ : ∃ old, memory.liveLists[id]? = some old :=
        ⟨_, Array.getElem?_eq_getElem there⟩
      have all := grows.trans ends
      obtain ⟨_, known', raw', -⟩ := all.liveLists begun
      cases known'.symm.trans found
      rw [Memory.rawList_of_found begun, ← raw'] at item
      cases (Memory.itemOf?_of_begins all.lists item).symm.trans known
      refine Memory.handOutItem_of_keeps ⟨live, value, found', kept, ?_, paired.fronts shows⟩ item'
      rwa [Memory.rawList_of_found found'] at item'

end FirstLook.Pairs

/-! ## Looks at live maps -/

/-- Hand out the entry of a key whose tracked state is noted already. -/
def Observe.notedEntry (id : LiveMapId) (key : Value) : Observe Value := do
  let memory ← get
  match (memory.mapAt (memory.rawMap id)).find? key with
  | some value => wrapEntry id key value
  | none => fail (memory.missingKey key)

theorem Observe.liveMapGet_eq (id : LiveMapId) (key : Value) :
    liveMapGet id key = (do
      let dep ← keyDep id key
      track dep
      notedEntry id key) := rfl

theorem Observe.run_notedEntry_some {id : LiveMapId} {key value : Value}
    (entry : (memory.mapAt (memory.rawMap id)).find? key = some value) :
    (notedEntry id key).run memory =
      (.ok (memory.handOut id key value).1, (memory.handOut id key value).2) := by
  unfold notedEntry
  rw [run_bind, run_get]
  dsimp only
  rw [entry]
  exact run_wrapEntry id key value memory

theorem Observe.run_notedEntry_none {id : LiveMapId} {key : Value}
    (missing : (memory.mapAt (memory.rawMap id)).find? key = none) :
    (notedEntry id key).run memory = (.error (.failure (memory.missingKey key)), memory) := by
  unfold notedEntry
  rw [run_bind, run_get]
  dsimp only
  rw [missing]
  rfl

namespace Tandem

variable {first : FirstLook}

theorem notedEntry {id : LiveMapId} {key twin : Value} (there : id < extent.liveMaps)
    (same : Twin first.moves extent key twin) :
    Tandem first extent (Twin first.moves) (Observe.notedEntry id key)
      (Observe.notedEntry id twin) := by
  have inside {memory : Memory} (ready : memory.Ready extent) : id < memory.liveMaps.size :=
    Nat.lt_of_lt_of_le there ready.fits.liveMaps
  have hands {memory : Memory} {value : Value} (ready : memory.Ready extent)
      (entry : (memory.mapAt (memory.rawMap id)).find? key = some value) :
      (memory.handOut id key value).1.Within ((memory.handOut id key value).2.bounds extent) ∧
        memory.Lasts extent (memory.handOut id key value).2 := by
    have held := (Entries.within_of_find? (ready.whole.maps _) entry).2
    have grows := Memory.grows_handOut entry
    have faced := memory.faced_handOut id key value
    have fits := grows.fits (Nat.le_of_eq faced.serialCount.symm) extent
    have given := Memory.handOut_hands.twin (held.mono fits)
    exact ⟨given, faced.lasts ready.whole grows held given⟩
  constructor
  case lasts =>
    intro memory ready
    cases entry : (memory.mapAt (memory.rawMap id)).find? key with
    | none =>
        rw [Observe.run_notedEntry_none entry]
        exact .refl ready.whole
    | some value =>
        rw [Observe.run_notedEntry_some entry]
        exact (hands ready entry).2
  case result =>
    intro memory ready
    cases entry : (memory.mapAt (memory.rawMap id)).find? key with
    | none =>
        rw [Observe.run_notedEntry_none entry]
        exact ⟨_, .error (.failure _)⟩
    | some value =>
        rw [Observe.run_notedEntry_some entry]
        obtain ⟨found, given⟩ := (hands ready entry).1.exists_twin first.moves
        exact ⟨_, .ok given⟩
  case pairs =>
    intro memory other ready paired ends
    have keys := same.mono ready.fits
    have both := (paired.liveEntries (inside ready)).find? keys
    cases entry : (memory.mapAt (memory.rawMap id)).find? key with
    | none =>
        rw [entry] at both
        cases entry' : (other.mapAt (other.rawMap id)).find? twin with
        | some => rw [entry'] at both; cases both
        | none =>
            rw [Observe.run_notedEntry_none entry, Observe.run_notedEntry_none entry',
              paired.missingKey keys]
            exact ⟨paired, .error (.failure _)⟩
    | some value =>
        rw [entry] at both
        cases entry' : (other.mapAt (other.rawMap id)).find? twin with
        | none => rw [entry'] at both; cases both
        | some value' =>
            rw [entry'] at both
            rw [Observe.run_notedEntry_some entry] at ends ⊢
            -- What a live map shows is old, so both looks ask for and find the very same.
            have old := Entries.within_of_find? (paired.oldEntries (inside ready)) entry
            have twins : Twin first.moves (memory.bounds extent) value value' := by
              cases both with
              | some twins => exact twins
            obtain rfl := Twin.eq_of_spared (first.spares extent) old.2 twins
            obtain rfl := Twin.eq_of_spared (first.spares extent) old.1 keys
            have lasts := (hands ready entry).2
            have given := Memory.handsEntry_handOut (inside ready) entry
            rw [Observe.run_notedEntry_some entry',
              paired.handOut (inside ready) given lasts.grows ends entry entry']
            exact ⟨paired.faced (memory.faced_handOut id twin value') lasts ends old.2,
              .ok (given.hands.twin (twins.mono lasts.fits))⟩

theorem liveMapGet {id : LiveMapId} {key twin : Value} (there : id < extent.liveMaps)
    (same : Twin first.moves extent key twin) :
    Tandem first extent (Twin first.moves) (Observe.liveMapGet id key)
      (Observe.liveMapGet id twin) := by
  rw [Observe.liveMapGet_eq, Observe.liveMapGet_eq]
  refine bind (keyDep id same) fun large dep dep' fits _ => ?_
  refine bind (track dep dep') fun larger _ _ fits' _ => ?_
  have all := fits.trans fits'
  exact notedEntry (Nat.lt_of_lt_of_le there all.liveMaps) (same.mono all)

end Tandem

/-! ## Looks at live lists -/

/-- Hand items out one after another. -/
def Observe.wrapItems (id : LiveListId) (items : List (Value × Nat)) : Observe (List Value) :=
  items.mapM fun (value, index) => wrapItem id index value

/-- Items handed out one after another. -/
theorem Observe.run_wrapItems {id : LiveListId} {items : List (Value × Nat)}
    (whole : memory.Whole (memory.bounds extent)) (there : id < memory.liveLists.size)
    (each : ∀ value place, (value, place) ∈ items →
      (memory.listAt (memory.rawList id))[place]? = some value) :
    ∃ given after, (wrapItems id items).run memory = (.ok given, after) ∧
      memory.Lasts extent after ∧
      List.Forall₂ (fun item face => after.HandsItem id item.2 item.1 face) items given ∧
      ∀ (first : FirstLook) (other : Memory), first.Pairs (memory.bounds extent) memory other →
        after.Grows first.last → first.Pairs (after.bounds extent) after other := by
  induction items generalizing memory with
  | nil => exact ⟨[], memory, rfl, .refl whole, .nil, fun _ _ paired _ => paired⟩
  | cons head rest ih =>
      obtain ⟨value, place⟩ := head
      have item := each value place List.mem_cons_self
      have counted := (Memory.itemOf?_natCast _ place).trans item
      have held := within_of_item (whole.lists _) item
      have faced := memory.faced_handOutItem id place value
      have grows : memory.Grows (memory.handOutItem id place value).2 := by
        refine Memory.grows_handOutItem (.refl _) fun first live _ found => ?_
        rwa [Memory.rawList_of_found found] at counted
      have fits := grows.fits (Nat.le_of_eq faced.serialCount.symm) extent
      have hands := Memory.handsItem_handOutItem there counted
      have lasts := faced.lasts whole grows held (hands.hands.twin (held.mono fits))
      obtain ⟨given, after, ran, lasts', all, pairs⟩ := ih lasts.whole
        (Nat.lt_of_lt_of_le there grows.liveListsSize) fun value place known => by
          rw [← Memory.itemOf?_natCast]
          refine Memory.itemOf?_of_rawList grows there ?_
          rw [Memory.itemOf?_natCast]
          exact each value place (List.mem_cons_of_mem _ known)
      refine ⟨_ :: given, after, ?_, lasts.trans lasts', .cons (hands.grow lasts'.grows) all, ?_⟩
      · unfold wrapItems at ran ⊢
        rw [List.mapM_cons, run_bind, run_wrapItem]
        dsimp only
        rw [run_bind, ran]
        rfl
      · intro first other paired ends
        have old := within_of_item (paired.oldItems there) item
        exact pairs first other (paired.faced faced lasts (lasts'.grows.trans ends) old) ends

/-- Hand out all items of a live list that is noted already. -/
def Observe.notedItems (id : LiveListId) : Observe (List Value) := do
  let memory ← get
  wrapItems id (memory.listAt (memory.rawList id)).zipIdx

theorem Observe.liveListItems_eq (id : LiveListId) :
    liveListItems id = (do
      trackList id
      notedItems id) := rfl

theorem Observe.run_notedItems {id : LiveListId} (whole : memory.Whole (memory.bounds extent))
    (there : id < memory.liveLists.size) :
    ∃ given after, (notedItems id).run memory = (.ok given, after) ∧
      memory.Lasts extent after ∧
      List.Forall₂ (fun item face => after.HandsItem id item.2 item.1 face)
        (memory.listAt (memory.rawList id)).zipIdx given ∧
      ∀ (first : FirstLook) (other : Memory), first.Pairs (memory.bounds extent) memory other →
        after.Grows first.last → first.Pairs (after.bounds extent) after other :=
  run_wrapItems whole there fun _ _ known => List.mk_mem_zipIdx_iff_getElem?.mp known

/-- An index of a live list, counted from its start. -/
def Memory.place (memory : Memory) (id : LiveListId) (index : Int) : Int :=
  if index < 0 then index + (memory.listAt (memory.rawList id)).length else index

/-- Hand out the item of a whole number from a live list that is noted already. -/
def Observe.notedItem (id : LiveListId) (index : Int) : Observe Value := do
  let memory ← get
  match Memory.itemOf? (memory.listAt (memory.rawList id)) (memory.place id index) with
  | some value => wrapItem id (memory.place id index) value
  | none => fail (.outOfRange "list")

theorem Observe.liveListGetAt_eq (id : LiveListId) (index : Int) :
    liveListGetAt id index = (do
      trackList id
      notedItem id index) := rfl

theorem Observe.run_notedItem_some {id : LiveListId} {index : Int} {value : Value}
    (item : Memory.itemOf? (memory.listAt (memory.rawList id)) (memory.place id index) =
      some value) :
    (notedItem id index).run memory =
      (.ok (memory.handOutItem id (memory.place id index) value).1,
        (memory.handOutItem id (memory.place id index) value).2) := by
  unfold notedItem
  rw [run_bind, run_get]
  dsimp only
  rw [item]
  exact run_wrapItem id _ value memory

theorem Observe.run_notedItem_none {id : LiveListId} {index : Int}
    (missing : Memory.itemOf? (memory.listAt (memory.rawList id)) (memory.place id index) =
      none) :
    (notedItem id index).run memory = (.error (.failure (.outOfRange "list")), memory) := by
  unfold notedItem
  rw [run_bind, run_get]
  dsimp only
  rw [missing]
  rfl

namespace Tandem

variable {first : FirstLook}

theorem notedItems {id : LiveListId} (there : id < extent.liveLists) :
    Tandem first extent (Twins first.moves) (Observe.notedItems id) (Observe.notedItems id) := by
  have inside {memory : Memory} (ready : memory.Ready extent) : id < memory.liveLists.size :=
    Nat.lt_of_lt_of_le there ready.fits.liveLists
  constructor
  case lasts =>
    intro memory ready
    obtain ⟨given, after, ran, lasts, -⟩ := Observe.run_notedItems ready.whole (inside ready)
    rw [ran]
    exact lasts
  case result =>
    intro memory ready
    obtain ⟨given, after, ran, lasts, all, -⟩ :=
      Observe.run_notedItems ready.whole (inside ready)
    have held : Twins .still (after.bounds extent) given given := by
      refine forall₂_self all fun item known face hands => hands.hands.twin ?_
      have shown := List.mk_mem_zipIdx_iff_getElem?.mp known
      exact (within_of_item (ready.whole.lists _) shown).mono lasts.fits
    obtain ⟨found, twins⟩ := Twin.exists_twins first.moves held
    rw [ran]
    exact ⟨_, .ok twins⟩
  case pairs =>
    intro memory other ready paired ends
    obtain ⟨given, after, ran, lasts, all, pairs⟩ :=
      Observe.run_notedItems ready.whole (inside ready)
    rw [ran] at ends ⊢
    -- What a live list shows is old, so it shows the very same the second time.
    have old := paired.oldItems (inside ready)
    have same := Twin.eq_of_sparedAll (first.spares extent) old
      (paired.liveItems (inside ready))
    have met : other.Gives (Observe.notedItems id) given := by
      refine .getting (.mapM ?_)
      rw [same]
      refine ((List.forall₂_and_left _ _).mpr ⟨fun _ known => known, all⟩).imp ?_
      intro item face ⟨known, hands⟩
      have counted := (Memory.itemOf?_natCast _ item.2).trans
        (List.mk_mem_zipIdx_iff_getElem?.mp known)
      refine (Observe.run_wrapItem id item.2 item.1 other).trans ?_
      rw [paired.handOutItem (inside ready) hands lasts.grows ends counted (same.symm ▸ counted)]
    rw [met]
    refine ⟨pairs first other paired ends, .ok ?_⟩
    refine forall₂_self all fun item known face hands => hands.hands.twin ?_
    have shown := List.mk_mem_zipIdx_iff_getElem?.mp known
    have fits := (paired.grows.fits paired.serials extent).trans lasts.fits
    exact Twin.unmoved (first.spares extent) fits (within_of_item old shown)

theorem trackList (id : LiveListId) :
    Tandem first extent Same (Observe.trackList id) (Observe.trackList id) :=
  bind get fun _ _ _ _ _ => track _ _

theorem liveListItems {id : LiveListId} (there : id < extent.liveLists) :
    Tandem first extent (Twins first.moves) (Observe.liveListItems id)
      (Observe.liveListItems id) := by
  rw [Observe.liveListItems_eq]
  exact bind (trackList id) fun large _ _ fits _ =>
    notedItems (Nat.lt_of_lt_of_le there fits.liveLists)

theorem notedItem {id : LiveListId} (there : id < extent.liveLists) (index : Int) :
    Tandem first extent (Twin first.moves) (Observe.notedItem id index)
      (Observe.notedItem id index) := by
  have inside {memory : Memory} (ready : memory.Ready extent) : id < memory.liveLists.size :=
    Nat.lt_of_lt_of_le there ready.fits.liveLists
  have hands {memory : Memory} {place : Int} {value : Value} (ready : memory.Ready extent)
      (item : Memory.itemOf? (memory.listAt (memory.rawList id)) place = some value) :
      (memory.handOutItem id place value).1.Within
          ((memory.handOutItem id place value).2.bounds extent) ∧
        memory.Lasts extent (memory.handOutItem id place value).2 := by
    obtain ⟨_, -, shown⟩ := Option.bind_eq_some_iff.mp item
    have held := within_of_item (ready.whole.lists _) shown
    have faced := memory.faced_handOutItem id place value
    have grows : memory.Grows (memory.handOutItem id place value).2 := by
      refine Memory.grows_handOutItem (.refl _) fun first live _ found => ?_
      rwa [Memory.rawList_of_found found] at item
    have fits := grows.fits (Nat.le_of_eq faced.serialCount.symm) extent
    have given := (Memory.hands_handOutItem memory id place value).twin (held.mono fits)
    exact ⟨given, faced.lasts ready.whole grows held given⟩
  constructor
  case lasts =>
    intro memory ready
    cases item : Memory.itemOf? (memory.listAt (memory.rawList id)) (memory.place id index) with
    | none =>
        rw [Observe.run_notedItem_none item]
        exact .refl ready.whole
    | some value =>
        rw [Observe.run_notedItem_some item]
        exact (hands ready item).2
  case result =>
    intro memory ready
    cases item : Memory.itemOf? (memory.listAt (memory.rawList id)) (memory.place id index) with
    | none =>
        rw [Observe.run_notedItem_none item]
        exact ⟨_, .error (.failure _)⟩
    | some value =>
        rw [Observe.run_notedItem_some item]
        obtain ⟨found, given⟩ := (hands ready item).1.exists_twin first.moves
        exact ⟨_, .ok given⟩
  case pairs =>
    intro memory other ready paired ends
    -- What a live list shows is old, so it shows the very same the second time.
    have old := paired.oldItems (inside ready)
    have same := Twin.eq_of_sparedAll (first.spares extent) old
      (paired.liveItems (inside ready))
    have placed : other.place id index = memory.place id index := by
      unfold Memory.place
      rw [same]
    cases item : Memory.itemOf? (memory.listAt (memory.rawList id)) (memory.place id index) with
    | none =>
        have item' := item
        rw [← same, ← placed] at item'
        rw [Observe.run_notedItem_none item, Observe.run_notedItem_none item']
        exact ⟨paired, .error (.failure _)⟩
    | some value =>
        have item' := item
        rw [← same, ← placed] at item'
        rw [Observe.run_notedItem_some item] at ends ⊢
        obtain ⟨_, -, shown⟩ := Option.bind_eq_some_iff.mp item
        have held := within_of_item old shown
        have lasts := (hands ready item).2
        have given := Memory.handsItem_handOutItem (inside ready) item
        rw [Observe.run_notedItem_some item', placed, paired.handOutItem (inside ready) given
          lasts.grows ends item (placed ▸ item')]
        have fits := (paired.grows.fits paired.serials extent).trans lasts.fits
        exact ⟨paired.faced (memory.faced_handOutItem id _ value) lasts ends held,
          .ok (given.hands.twin (Twin.unmoved (first.spares extent) fits held))⟩

theorem liveListGetAt {id : LiveListId} (there : id < extent.liveLists) (index : Int) :
    Tandem first extent (Twin first.moves) (Observe.liveListGetAt id index)
      (Observe.liveListGetAt id index) := by
  rw [Observe.liveListGetAt_eq]
  exact bind (trackList id) fun large _ _ fits _ =>
    notedItem (Nat.lt_of_lt_of_le there fits.liveLists) index

theorem liveListGet {id : LiveListId} {index twin : Value} (there : id < extent.liveLists)
    (same : Twin first.moves extent index twin) :
    Tandem first extent (Twin first.moves) (Observe.liveListGet id index)
      (Observe.liveListGet id twin) := by
  have refused (cause : Cause) : Tandem first extent (Twin first.moves)
      (do Observe.trackList id; Observe.fail cause)
      (do Observe.trackList id; Observe.fail cause) :=
    bind (trackList id) fun _ _ _ _ _ => fail cause
  cases same with
  | bool => exact liveListGetAt there _
  | int => exact liveListGetAt there _
  | _ => exact refused _

theorem liveListLength {id : LiveListId} (there : id < extent.liveLists) :
    Tandem first extent Same (Observe.liveListLength id) (Observe.liveListLength id) := by
  refine bind (trackList id) fun large _ _ fits _ => ?_
  refine bind get fun larger memory other fits' mirrors => ?_
  have items := mirrors.liveItems
    (Nat.lt_of_lt_of_le there (fits.trans fits').liveLists)
  exact pure fun _ _ => items.length_eq

/-! ## What live maps have -/

theorem trackKeys (id : LiveMapId) :
    Tandem first extent Same (Observe.trackKeys id) (Observe.trackKeys id) :=
  bind get fun _ _ _ _ _ => track _ _

theorem liveMapHas {id : LiveMapId} {key twin : Value} (there : id < extent.liveMaps)
    (same : Twin first.moves extent key twin) :
    Tandem first extent Same (Observe.liveMapHas id key) (Observe.liveMapHas id twin) := by
  refine bind (keyDep id same) fun large dep dep' fits _ => ?_
  refine bind (track dep dep') fun larger _ _ fits' _ => ?_
  refine bind get fun largest memory other fits'' mirrors => ?_
  have all := (fits.trans fits').trans fits''
  have entries := mirrors.liveEntries (Nat.lt_of_lt_of_le there all.liveMaps)
  exact pure fun _ _ => entries.contains (same.mono all)

theorem liveMapKeys {id : LiveMapId} (there : id < extent.liveMaps) :
    Tandem first extent (Twins first.moves) (Observe.liveMapKeys id)
      (Observe.liveMapKeys id) := by
  refine bind (trackKeys id) fun large _ _ fits _ => ?_
  refine bind get fun larger memory other fits' mirrors => ?_
  have entries := mirrors.liveEntries
    (Nat.lt_of_lt_of_le there (fits.trans fits').liveMaps)
  exact pure fun _ more => Twin.monoAll more entries.keys

theorem liveMapLength {id : LiveMapId} (there : id < extent.liveMaps) :
    Tandem first extent Same (Observe.liveMapLength id) (Observe.liveMapLength id) := by
  refine bind (trackKeys id) fun large _ _ fits _ => ?_
  refine bind get fun larger memory other fits' mirrors => ?_
  have entries := mirrors.liveEntries
    (Nat.lt_of_lt_of_le there (fits.trans fits').liveMaps)
  exact pure fun _ _ => entries.length_eq

theorem liveMapItems {id : LiveMapId} (there : id < extent.liveMaps) :
    Tandem first extent (EntryTwins first.moves) (Observe.liveMapItems id)
      (Observe.liveMapItems id) := by
  refine bind (liveMapKeys there) fun large keys twins fits all => ?_
  refine mapM lasting_pair (Each.of_forall₂ (R := Twin first.moves) lasting_twin all
    fun larger key twin fits' same => ?_)
  have ahead := Nat.lt_of_lt_of_le there (fits.trans fits').liveMaps
  exact bind (liveMapGet ahead same) fun _ _ _ more found =>
    pure fun _ most => ⟨same.mono (more.trans most), found.mono most⟩

/-! ## Looks at cells -/

theorem refGet (id : RefId) :
    Tandem first extent (Twin first.moves) (Observe.refGet id) (Observe.refGet id) := by
  refine bind get fun large memory other fits mirrors => ?_
  have both := mirrors.refs id
  cases found : memory.refs[id]? with
  | none =>
      rw [found] at both
      cases found' : other.refs[id]? with
      | some => rw [found'] at both; cases both
      | none => exact pure fun _ _ => .none
  | some cell =>
      rw [found] at both
      cases found' : other.refs[id]? with
      | none => rw [found'] at both; cases both
      | some twin =>
          rw [found'] at both
          cases both with
          | some same =>
              exact bind (track _ _) fun _ _ _ more _ =>
                pure fun _ most => same.mono (more.trans most)

theorem refPeek (id : RefId) :
    Tandem first extent (Twin first.moves) (Observe.refPeek id) (Observe.refPeek id) :=
  bind get fun _ _ _ _ mirrors => pure fun _ more => (mirrors.refAt id).mono more

end Tandem

end ReactiveSchema
