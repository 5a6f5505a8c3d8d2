import ReactiveSchema.Proofs.Memory.Trees
import ReactiveSchema.Proofs.Observe.ContainerLooks

/-!
# Reading along a path

Reading by path goes from face to face.  Each step notes the key, and keeps the
face that it hands out, so that the next one who takes the same path meets the
same faces: the way is linked, from the first face to the value at its end.
-/

namespace ReactiveSchema

namespace Memory

variable {memory before after : Memory} {id : LiveMapId} {key value given : Value}

/-! ## What is handed out -/

/-- What is handed out for a plain value: a live face of a container, all else as it is. -/
def Hands (memory : Memory) (given plain : Value) : Prop :=
  memory.Fronts given plain ∨ (plain.isPlainContainer = false ∧ given = plain)

theorem Hands.grows {plain : Value} (hands : before.Hands given plain)
    (grows : Grows before after) : after.Hands given plain :=
  hands.imp_left grows.fronts

theorem Fronts.isLive {plain : Value} (shows : memory.Fronts given plain) :
    given.isLive = true := by
  cases given
  case liveList => rfl
  case liveMap => rfl
  all_goals exact shows.elim

theorem Fronts.whenKeeping {plain : Value} (id : LiveMapId) (key face : Value)
    (shows : memory.Fronts given plain) : (memory.keepingFace id key face).Fronts given plain := by
  unfold Fronts keepingFace at *
  split at shows
  case h_1 other raw =>
    obtain ⟨live, found, same⟩ := shows
    simp only [Array.getElem?_modify, found]
    split
    · exact ⟨_, rfl, same⟩
    · exact ⟨_, rfl, same⟩
  case h_2 => exact shows
  case h_3 => exact shows

theorem handOut_hands : (memory.handOut id key value).2.Hands (memory.handOut id key value).1 value := by
  unfold handOut
  split
  case isTrue plain =>
    have fresh : ((memory.newFace value).2.keepingFace id key (memory.newFace value).1).Fronts
        (memory.newFace value).1 value :=
      .whenKeeping id key _ (newFace_fronts plain)
    split
    case h_1 child kept =>
      split
      case isTrue same => exact .inl (fronts_iff_isFaceOf.mpr same)
      case isFalse => exact .inl fresh
    case h_2 => exact .inl fresh
  case isFalse scalar => exact .inr ⟨by simpa using scalar, rfl⟩

/-- What is handed out for a container is kept for the next one who asks. -/
theorem handOut_keeps {live : LiveMap} (found : memory.liveMaps[id]? = some live)
    (entry : (memory.mapAt live.raw).find? key = some value)
    (plain : value.isPlainContainer = true) :
    (memory.handOut id key value).2.KeepsFace id key (memory.handOut id key value).1 := by
  have fresh : ((memory.newFace value).2.keepingFace id key (memory.newFace value).1).KeepsFace
      id key (memory.newFace value).1 := by
    obtain ⟨later, known, raw, -⟩ := (grows_newFace memory value).liveMaps found
    refine ⟨{ later with children := later.children.insert key (memory.newFace value).1 }, value,
      ?_, Entries.find?_insert_self _ _, ?_, ?_⟩
    · unfold keepingFace
      rw [Array.getElem?_modify, if_pos rfl, known]
      rfl
    · unfold keepingFace mapAt
      dsimp only
      rw [newFace_maps, raw]
      exact entry
    · exact Fronts.whenKeeping id key _ (newFace_fronts plain)
  unfold handOut
  rw [if_pos plain]
  split
  case h_1 child kept =>
    split
    case isTrue same =>
      refine ⟨live, value, found, ?_, entry, fronts_iff_isFaceOf.mpr same⟩
      simpa only [liveMapAt, found, Option.getD_some] using kept
    case isFalse => exact fresh
  case h_2 => exact fresh

/-- A face that is kept is handed out again. -/
theorem handOut_of_keeps (keeps : memory.KeepsFace id key given)
    (entry : (memory.mapAt (memory.rawMap id)).find? key = some value) :
    memory.handOut id key value = (given, memory) := by
  obtain ⟨live, shown, found, kept, entry', shows⟩ := keeps
  rw [rawMap_of_found found, entry'] at entry
  cases entry
  have plain : value.isPlainContainer = true := by
    cases value
    case list => rfl
    case map => rfl
    all_goals cases given <;> exact shows.elim
  unfold handOut
  rw [if_pos plain]
  simp only [liveMapAt, found, Option.getD_some, kept, fronts_iff_isFaceOf.mp shows, if_true]

theorem keyed_tracked {live : LiveMap} (key : Value) (found : memory.liveMaps[id]? = some live) :
    ∃ later, (memory.keyed id key).2.liveMaps[id]? = some later ∧ later.raw = live.raw ∧
      later.deps.find? key = some (memory.keyed id key).1 := by
  unfold keyed
  split
  case h_1 dep known =>
    refine ⟨live, found, rfl, ?_⟩
    simpa only [liveMapAt, found, Option.getD_some] using known
  case h_2 =>
    refine ⟨{ live with deps := live.deps.insert key memory.depCount }, ?_, rfl, ?_⟩
    · unfold withKeyDep
      rw [Array.getElem?_modify, if_pos rfl, found]
      rfl
    · exact Entries.find?_insert_self _ _

/-! ## What is noted -/

/-- What was read before is still known to have been read. -/
def Notes (before after : Memory) : Prop :=
  before.reads <:+ after.reads

theorem keyed_reads : (memory.keyed id key).2.reads = memory.reads := by
  unfold keyed
  split <;> rfl

theorem newFace_reads : (memory.newFace value).2.reads = memory.reads := by
  cases value <;> rfl

theorem handOut_reads : (memory.handOut id key value).2.reads = memory.reads := by
  unfold handOut
  split
  · split
    · split
      · rfl
      · exact newFace_reads
    · exact newFace_reads
  · rfl

/-! ## Links -/

/--
The way along keys from a live map to a value.  The tracked state of each key on it
is watched, and each container on it is met by the face that is kept for it.
-/
inductive Linked (memory : Memory) (watched : DepId → Prop) (value : Value) :
    LiveMapId → List String → Prop where
  | leaf {id : LiveMapId} {live : LiveMap} {key : String} {dep : DepId}
      (found : memory.liveMaps[id]? = some live)
      (tracked : live.deps.find? (.str key) = some dep) (watching : watched dep)
      (entry : (memory.mapAt live.raw).find? (.str key) = some value) :
      Linked memory watched value id [key]
  | inner {id child : LiveMapId} {live : LiveMap} {key next : String} {rest : List String}
      {dep : DepId} (found : memory.liveMaps[id]? = some live)
      (tracked : live.deps.find? (.str key) = some dep) (watching : watched dep)
      (kept : memory.KeepsFace id (.str key) (.liveMap child))
      (below : Linked memory watched value child (next :: rest)) :
      Linked memory watched value id (key :: next :: rest)

namespace Linked

variable {watched wider : DepId → Prop} {keys : List String}

theorem grows (linked : before.Linked watched value id keys) (grows : Grows before after) :
    after.Linked watched value id keys := by
  induction linked with
  | leaf found tracked watching entry =>
      obtain ⟨later, known, raw, -, deps⟩ := grows.liveMaps found
      exact .leaf known (deps _ _ tracked) watching
        (raw ▸ mapAt_find?_of_begins grows.maps entry)
  | inner found tracked watching kept below ih =>
      obtain ⟨later, known, raw, -, deps⟩ := grows.liveMaps found
      exact .inner known (deps _ _ tracked) watching (grows.faces kept) ih

theorem mono (linked : memory.Linked watched value id keys)
    (wide : ∀ dep, watched dep → wider dep) : memory.Linked wider value id keys := by
  induction linked with
  | leaf found tracked watching entry => exact .leaf found tracked (wide _ watching) entry
  | inner found tracked watching kept below ih =>
      exact .inner found tracked (wide _ watching) kept ih

/-- A link in front of others. -/
theorem under {child : LiveMapId} {live : LiveMap} {key : String} {dep : DepId}
    (found : memory.liveMaps[id]? = some live) (tracked : live.deps.find? (.str key) = some dep)
    (watching : watched dep) (kept : memory.KeepsFace id (.str key) (.liveMap child))
    (below : memory.Linked watched value child keys) :
    memory.Linked watched value id (key :: keys) := by
  cases keys with
  | nil => cases below
  | cons => exact .inner found tracked watching kept below

/-- The first link of a way that leads on. -/
theorem first {step key : String} {place rest : List String}
    (linked : memory.Linked watched value id (step :: (place ++ key :: rest))) :
    ∃ live dep child, memory.liveMaps[id]? = some live ∧
      live.deps.find? (.str step) = some dep ∧ watched dep ∧
        memory.KeepsFace id (.str step) (.liveMap child) ∧
          memory.Linked watched value child (place ++ key :: rest) := by
  generalize same : place ++ key :: rest = keys at linked
  cases linked with
  | leaf => cases place <;> cases same
  | inner found tracked watching kept below => exact ⟨_, _, _, found, tracked, watching, kept, below⟩

/-- The face at the other side of a link shows the map that the plain data has there. -/
theorem raw_of_keepsFace {live : LiveMap} {key : String} {child : LiveMapId}
    (found : memory.liveMaps[id]? = some live)
    (kept : memory.KeepsFace id (.str key) (.liveMap child)) :
    ∃ below, memory.liveMaps[child]? = some below ∧
      (memory.mapAt live.raw).find? (.str key) = some (.map below.raw) := by
  obtain ⟨live', value, found', known, entry, shows⟩ := kept
  cases found.symm.trans found'
  cases value
  case map raw =>
    obtain ⟨below, shown, same⟩ := shows
    exact ⟨below, shown, by rw [same]; exact entry⟩
  all_goals exact shows.elim

/-- What is linked to is what the plain data has at the path. -/
theorem valueAt_eq (linked : memory.Linked watched value id keys) {live : LiveMap}
    (found : memory.liveMaps[id]? = some live) :
    memory.valueAt (.map live.raw) keys = some value := by
  induction linked generalizing live with
  | leaf found' _ _ entry =>
      cases found.symm.trans found'
      exact valueAt_cons_eq_some.mpr ⟨_, _, rfl, entry, valueAt_nil⟩
  | inner found' _ _ kept below ih =>
      cases found.symm.trans found'
      obtain ⟨next, shown, entry⟩ := raw_of_keepsFace found kept
      exact valueAt_cons_eq_some.mpr ⟨_, _, rfl, entry, ih shown⟩

end Linked

end Memory

open Memory

/-! ## Paths -/

namespace Observe

variable {memory after : Memory}

theorem notes_liveMapGet (id : LiveMapId) (key : Value) : Along Notes (liveMapGet id key) := by
  intro memory
  unfold Notes
  by_cases hashable : key.isHashable = true
  · have noted : memory.reads <:+
        ((memory.keyed id key).2.reading (memory.keyed id key).1).reads := by
      unfold reading
      rw [keyed_reads]
      exact List.suffix_cons _ _
    rw [run_liveMapGet hashable]
    dsimp only
    split
    case h_1 value entry =>
      rw [handOut_reads]
      exact noted
    case h_2 => exact noted
  · have same : ((liveMapGet id key).run memory).2 = memory := by
      unfold liveMapGet keyDep
      rw [run_bind, run_bind, run_checkKey_unhashable hashable]
    exact same.symm ▸ List.suffix_rfl

/-- Looking up text keys of what is no live map fails, or hands out parts that are none either. -/
theorem getItem_str_ok {container : Value} {key : String} {result : Value}
    (ran : (getItem container (.str key)).run memory = (.ok result, after)) :
    (∃ id, container = .liveMap id) ∨ ∃ raw, container = .map raw := by
  cases container
  case liveMap id => exact .inl ⟨id, rfl⟩
  case map raw => exact .inr ⟨raw, rfl⟩
  case liveList id =>
    obtain ⟨_, _, _, failed⟩ := run_bind_ok ran
    cases failed
  case list id =>
    obtain ⟨_, _, _, failed⟩ := run_bind_ok ran
    cases failed
  all_goals cases ran

/-- What comes of reading a key of a live map that is there. -/
theorem liveMapGet_ok {id : LiveMapId} {live : LiveMap} {key : String} {result : Value}
    (found : memory.liveMaps[id]? = some live)
    (ran : (liveMapGet id (.str key)).run memory = (.ok result, after)) :
    ∃ later dep value, after.liveMaps[id]? = some later ∧ later.raw = live.raw ∧
      later.deps.find? (.str key) = some dep ∧ dep ∈ after.reads ∧
        (after.mapAt live.raw).find? (.str key) = some value ∧ after.Hands result value ∧
          (value.isPlainContainer = true → after.KeepsFace id (.str key) result) := by
  obtain ⟨middle, known, raw, tracked⟩ := keyed_tracked (.str key) found
  rw [run_liveMapGet rfl] at ran
  dsimp only at ran
  split at ran
  case h_2 => cases ran
  case h_1 value entry =>
    cases ran
    have known : ((memory.keyed id (.str key)).2.reading
        (memory.keyed id (.str key)).1).liveMaps[id]? = some middle := known
    have handed := grows_handOut entry
    obtain ⟨later, present, raw', -, deps⟩ := handed.liveMaps known
    rw [rawMap_of_found known] at entry
    refine ⟨later, _, value, present, raw'.trans raw, deps _ _ tracked, ?_, ?_, handOut_hands,
      handOut_keeps known entry⟩
    · rw [handOut_reads]
      exact List.mem_cons_self
    · rw [← raw]
      exact mapAt_find?_of_begins handed.maps entry

/-- A face that is kept for a key is handed out to who reads the key. -/
theorem liveMapGet_of_keeps {id : LiveMapId} {key : String} {face result : Value}
    (keeps : memory.KeepsFace id (.str key) face)
    (ran : (liveMapGet id (.str key)).run memory = (.ok result, after)) : result = face := by
  have noted := (grows_keyed memory id (.str key)).trans
    (grows_reading _ (memory.keyed id (.str key)).1)
  rw [run_liveMapGet rfl] at ran
  dsimp only at ran
  split at ran
  case h_2 => cases ran
  case h_1 value entry =>
    rw [handOut_of_keeps (noted.faces keeps) entry] at ran
    cases ran
    rfl

theorem grows_getPath {given result : Value} {keys : List String}
    (ran : (getPath given (keys.map .str)).run memory = (.ok result, after)) :
    Grows memory after := by
  have grows := looks_grows.getPath given (keys.map .str) memory
  rw [ran] at grows
  exact grows

theorem notes_getPath {given result : Value} {keys : List String}
    (ran : (getPath given (keys.map .str)).run memory = (.ok result, after)) :
    Notes memory after := by
  induction keys generalizing memory given with
  | nil =>
      cases ran
      exact List.suffix_rfl
  | cons key rest ih =>
      obtain ⟨next, middle, first, further⟩ := run_bind_ok ran
      refine List.IsSuffix.trans ?_ (ih further)
      rcases getItem_str_ok first with ⟨id, rfl⟩ | ⟨raw, rfl⟩
      · have noted := notes_liveMapGet id (.str key) memory
        unfold getItem at first
        rw [first] at noted
        exact noted
      · obtain ⟨_, _, checked, first⟩ := run_bind_ok first
        cases checked
        obtain ⟨_, _, got, first⟩ := run_bind_ok first
        cases got
        split at first
        · cases first
          exact List.suffix_rfl
        · cases first

/-- Nothing live is reached from a plain value. -/
def Calm (memory : Memory) (plain : Value) : Prop :=
  ∀ path value, memory.valueAt plain path = some value → value.isLive = false

/-- What is read further from what was handed out is read from a live map of plain data. -/
theorem liveMap_of_hands {given plain next : Value} {key : String}
    (hands : memory.Hands given plain) (calm : plain.isLive = false)
    (ran : (getItem given (.str key)).run memory = (.ok next, after)) :
    ∃ id live, given = .liveMap id ∧ memory.liveMaps[id]? = some live ∧
      plain = .map live.raw := by
  rcases getItem_str_ok ran with ⟨id, rfl⟩ | ⟨raw, rfl⟩
  · rcases hands with shows | ⟨-, rfl⟩
    · cases plain
      case map raw =>
        obtain ⟨live, found, rfl⟩ := shows
        exact ⟨id, live, rfl, found, rfl⟩
      all_goals exact shows.elim
    · cases calm
  · rcases hands with shows | ⟨scalar, rfl⟩
    · exact shows.elim
    · cases scalar

/-- Reading by path hands out what the plain data has there. -/
theorem hands_getPath {given plain result : Value} {keys : List String}
    (hands : memory.Hands given plain) (calm : Calm after plain)
    (ran : (getPath given (keys.map .str)).run memory = (.ok result, after)) :
    ∃ found, after.valueAt plain keys = some found ∧ after.Hands result found := by
  induction keys generalizing memory given plain with
  | nil =>
      cases ran
      exact ⟨plain, valueAt_nil, hands⟩
  | cons key rest ih =>
      obtain ⟨next, middle, first, further⟩ := run_bind_ok ran
      obtain ⟨id, live, rfl, found, rfl⟩ :=
        liveMap_of_hands hands (calm [] plain valueAt_nil) first
      obtain ⟨later, dep, value, -, -, -, -, entry, handed, -⟩ := liveMapGet_ok found first
      have entry := mapAt_find?_of_begins (grows_getPath further).maps entry
      have below {path : List String} {other : Value}
          (known : after.valueAt value path = some other) :
          after.valueAt (.map live.raw) (key :: path) = some other :=
        valueAt_cons_eq_some.mpr ⟨live.raw, value, rfl, entry, known⟩
      obtain ⟨there, known, last⟩ := ih handed (fun path other known => calm _ _ (below known)) further
      exact ⟨there, below known, last⟩

/--
Who reads by path is linked, by what it has read, to the value that it reads, or over
the live map that it reads to whatever that one is linked to.
-/
theorem linked_getPath {now : Memory} {watched : DepId → Prop} {id : LiveMapId} {live : LiveMap}
    {keys rest : List String} {result value : Value}
    (found : memory.liveMaps[id]? = some live) (calm : Calm now (.map live.raw))
    (ran : (getPath (.liveMap id) (keys.map .str)).run memory = (.ok result, after))
    (later : Grows after now) (watching : ∀ dep ∈ after.reads, watched dep)
    (onward : (rest = [] ∧ result = value ∧ value.isLive = false) ∨
      ∃ child, result = .liveMap child ∧ now.Linked watched value child rest) :
    now.Linked watched value id (keys ++ rest) := by
  induction keys generalizing memory id live with
  | nil =>
      cases ran
      rcases onward with ⟨-, rfl, flat⟩ | ⟨child, same, linked⟩
      · cases flat
      · cases same
        exact linked
  | cons key keys ih =>
      obtain ⟨next, middle, first, further⟩ := run_bind_ok ran
      obtain ⟨between, dep, there, known, raw, tracked, read, entry, handed, keeps⟩ :=
        liveMapGet_ok found first
      have grows := (grows_getPath further).trans later
      have watching : watched dep := watching dep ((notes_getPath further).subset read)
      obtain ⟨last, present, raw', -, deps⟩ := grows.liveMaps known
      have tracked := deps _ _ tracked
      have has := mapAt_find?_of_begins grows.maps entry
      have below {path : List String} {other : Value}
          (known : now.valueAt there path = some other) :
          now.valueAt (.map live.raw) (key :: path) = some other :=
        valueAt_cons_eq_some.mpr ⟨live.raw, there, rfl, has, known⟩
      have inner {child : LiveMapId} (same : next = .liveMap child)
          (linked : now.Linked watched value child (keys ++ rest)) :
          now.Linked watched value id (key :: (keys ++ rest)) := by
        subst same
        have container : there.isPlainContainer = true := by
          rcases handed with shows | ⟨-, rfl⟩
          · cases there <;> first | rfl | exact shows.elim
          · cases calm _ _ (below valueAt_nil)
        exact .under present tracked watching (grows.faces (keeps container))
          linked
      cases keys with
      | nil =>
          cases further
          rcases onward with ⟨rfl, rfl, flat⟩ | ⟨child, same, linked⟩
          · rcases handed with shows | ⟨-, rfl⟩
            · rw [shows.isLive] at flat
              cases flat
            · refine .leaf present tracked watching ?_
              rw [raw', raw]
              exact has
          · exact inner same linked
      | cons another keys =>
          obtain ⟨_, _, onwards, -⟩ := run_bind_ok further
          obtain ⟨child, below', rfl, shown, rfl⟩ :=
            liveMap_of_hands handed (calm _ _ (below valueAt_nil)) onwards
          exact inner rfl (ih shown (fun path other known => calm _ _ (below known)) further)

/-- Along links, reading by path meets the faces that they lead over. -/
theorem getPath_linked {id : LiveMapId} {watched : DepId → Prop} {value result : Value}
    {place : List String} {key : String} {rest : List String}
    (linked : memory.Linked watched value id (place ++ key :: rest))
    (ran : (getPath (.liveMap id) (place.map .str)).run memory = (.ok result, after)) :
    ∃ child, result = .liveMap child ∧ after.Linked watched value child (key :: rest) := by
  induction place generalizing memory id with
  | nil =>
      cases ran
      exact ⟨id, rfl, linked⟩
  | cons step place ih =>
      obtain ⟨next, middle, first, further⟩ := run_bind_ok ran
      have begun := looks_grows.getItem (.liveMap id) (.str step) memory
      rw [first] at begun
      obtain ⟨live, dep, child, found, -, -, kept, below⟩ := linked.first
      obtain rfl := liveMapGet_of_keeps kept first
      exact ih (below.grows begun) further

end Observe

end ReactiveSchema
