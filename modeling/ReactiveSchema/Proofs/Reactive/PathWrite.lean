import ReactiveSchema.Proofs.Reactive.Telling

/-!
# Writes by path

A write by path starts from the live face of the root each time.  It writes
exchanged data, or what is there already, under a text key of the map that the
path leads to.  So it keeps the data in the shape of a tree, and it writes
through the face that everybody meets at the end of that path.
-/

namespace ReactiveSchema

/-- A write by path. -/
structure PathWrite where
  /-- The keys that lead from the root to the map that is written. -/
  path : List String
  key : String
  /-- What is written; if nothing is given, the value that is there already. -/
  value : Option Datum

namespace PathWrite

/-- The keys that lead from the root to the entry that is written. -/
def place (write : PathWrite) : List String :=
  write.path ++ [write.key]

/-- What is written is exchanged data, if it is not there already. -/
def IsJson (write : PathWrite) : Prop :=
  ∀ datum, write.value = some datum → datum.isJson = true

/-- The value that is written. -/
def source (write : PathWrite) (root : LiveMapId) : Observe Value :=
  match write.value with
  | some datum => datum.build
  | none => Observe.getPath (.liveMap root) (write.place.map .str)

/-- Carry out a write. -/
def perform (runner : Runner) (root : LiveMapId) (write : PathWrite) : Act Unit := do
  let value ← Act.observe (write.source root)
  let container ← Act.observe (Observe.getPath (.liveMap root) (write.path.map .str))
  Act.setItem runner container (.str write.key) value

end PathWrite

namespace Memory

variable {memory before after : Memory} {root : LiveMapId} {raw : MapId}

/-- A live map shows plain data in the shape of a tree. -/
structure Data (memory : Memory) (root : LiveMapId) (raw : MapId) : Prop where
  shown : memory.Fronts (.liveMap root) (.map raw)
  tree : memory.Tree 0 memory.maps.size (.map raw)

theorem Data.grows (data : before.Data root raw) (grows : Grows before after) :
    after.Data root raw where
  shown := grows.fronts data.shown
  tree := (data.tree.of_begins grows.maps).widen (Nat.le_refl _) grows.maps.size_le (Nat.le_refl _)

theorem Data.valueAt_eq (data : before.Data root raw) (grows : Grows before after)
    (path : List String) : after.valueAt (.map raw) path = before.valueAt (.map raw) path :=
  data.tree.valueAt_eq grows.maps path

theorem Data.calm (data : memory.Data root raw) : Observe.Calm memory (.map raw) :=
  fun _ _ known => data.tree.plain known

theorem tree_of_maps_eq {first last : Nat} {value : Value} (tree : before.Tree first last value)
    (maps : after.maps = before.maps) : after.Tree first last value :=
  tree.of_begins (maps ▸ begins_refl _)

end Memory

namespace Act

variable {runner : Runner} {world after : World} {root : LiveMapId} {raw : MapId}
  {write : PathWrite}

/-- What is written, as plain data: a tree of new maps, or what is there already. -/
inductive Source (write : PathWrite) (raw : MapId) (before memory : Memory) (written : Value) :
    Prop where
  | built (fresh : memory.Tree before.maps.size memory.maps.size written)
  | itself (known : before.valueAt (.map raw) write.place = some written)

/-- How a write by path reaches the live map that it writes. -/
structure Reaches (runner : Runner) (root : LiveMapId) (raw : MapId) (write : PathWrite)
    (world after : World) (id : LiveMapId) (own : LiveMap) (middle : World) (value : Value) :
    Prop where
  grows : Memory.Grows world.memory middle.memory
  reactor : middle.reactor = world.reactor
  found : middle.memory.liveMaps[id]? = some own
  reached : world.memory.valueAt (.map raw) write.path = some (.map own.raw)
  source : Source write raw world.memory middle.memory (middle.memory.toRaw value)
  read : ∃ begun ended, Memory.Grows world.memory begun ∧
    (Observe.getPath (.liveMap root) (write.path.map .str)).run begun =
      (.ok (.liveMap id), ended) ∧ middle.memory = ended.settled
  wrote : (liveMapSet runner id (.str write.key) value).run middle = (.ok (), after)

/-- A text is no index of a list. -/
theorem not_listSet_str {id : ListId} {key : String} {value : Value} {memory ended : Memory} :
    (Observe.listSet id (.str key) value).run memory ≠ (.ok (), ended) := by
  intro ran
  obtain ⟨_, _, got, ran⟩ := run_bind_ok ran
  cases got
  obtain ⟨_, _, placed, -⟩ := run_bind_ok ran
  obtain ⟨_, _, indexed, -⟩ := run_bind_ok placed
  cases indexed

/-- What is written under a text key is written through a live map, if no plain one is at hand. -/
theorem setItem_str_ok {container value : Value} {key : String}
    (plain : container.isPlainContainer = false)
    (ran : (setItem runner container (.str key) value).run world = (.ok (), after)) :
    ∃ id, container = .liveMap id := by
  cases container
  case liveMap id => exact ⟨id, rfl⟩
  case list => cases plain
  case map => cases plain
  case liveList id =>
    obtain ⟨_, _, got, ran⟩ := run_bind_ok ran
    cases got
    obtain ⟨_, _, got, ran⟩ := run_bind_ok ran
    cases got
    obtain ⟨_, _, wrote, -⟩ := run_bind_ok ran
    rw [run_observe] at wrote
    rcases listed : (Observe.listSet (world.memory.rawList id) (.str key)
      (world.memory.toRaw value)).run (world.memory.seeing world.outlook) with ⟨result, memory⟩
    have done := (Prod.mk.inj wrote).1
    rw [listed] at done
    cases done
    exact absurd listed not_listSet_str
  all_goals cases ran

theorem toRaw_of_hands {memory : Memory} {given plain : Value} (hands : memory.Hands given plain)
    (flat : plain.isLive = false) : memory.toRaw given = plain := by
  rcases hands with shows | ⟨-, rfl⟩
  · exact Memory.toRaw_of_fronts shows
  · cases given <;> first | rfl | cases flat

/-- What is written is built anew, or read by path. -/
theorem source_ok {before memory built : Memory} {value : Value} (data : before.Data root raw)
    (begun : Memory.Grows before memory) (json : write.IsJson)
    (ran : (write.source root).run memory = (.ok value, built)) :
    Memory.Grows memory built ∧ ∀ later, Memory.Grows built later →
      Source write raw before later (later.toRaw value) := by
  unfold PathWrite.source at ran
  cases given : write.value with
  | some datum =>
      rw [given] at ran
      have grows := looks_grows.build datum memory
      rw [ran] at grows
      have tree := tree_build (json datum given) ran
      refine ⟨grows, fun later more => ?_⟩
      have flat : later.toRaw value = value := by
        have plain := tree.plain Memory.valueAt_nil
        cases value <;> first | rfl | cases plain
      rw [flat]
      exact .built ((tree.of_begins more.maps).widen begun.maps.size_le more.maps.size_le
        (Nat.le_refl _))
  | none =>
      rw [given] at ran
      have grows := Observe.grows_getPath ran
      have there := (data.grows begun).grows grows
      obtain ⟨found, known, hands⟩ :=
        Observe.hands_getPath (.inl (data.grows begun).shown) there.calm ran
      refine ⟨grows, fun later more => ?_⟩
      rw [toRaw_of_hands (hands.grows more) (there.calm _ _ known)]
      exact .itself ((data.valueAt_eq (begun.trans grows) _).symm.trans known)

/-- What is handed out for plain data and written under a text key is a live map of it. -/
theorem liveMap_of_setItem {memory : Memory} {container plain value : Value} {key : String}
    (hands : memory.Hands container plain) (flat : plain.isLive = false)
    (ran : (setItem runner container (.str key) value).run world = (.ok (), after)) :
    ∃ id own, container = .liveMap id ∧ memory.liveMaps[id]? = some own ∧
      plain = .map own.raw := by
  have scalar : container.isPlainContainer = false := by
    rcases hands with shows | ⟨scalar, rfl⟩
    · cases container <;> first | rfl | exact shows.elim
    · exact scalar
  obtain ⟨id, rfl⟩ := setItem_str_ok scalar ran
  rcases hands with shows | ⟨-, rfl⟩
  · cases plain
    case map raw =>
      obtain ⟨own, present, same⟩ := shows
      exact ⟨id, own, rfl, present, by rw [same]⟩
    all_goals exact shows.elim
  · cases flat

theorem perform_ok (data : world.memory.Data root raw) (rest : AtRest world.reactor)
    (json : write.IsJson) (ran : (write.perform runner root).run world = (.ok (), after)) :
    ∃ id own middle value, Reaches runner root raw write world after id own middle value := by
  obtain ⟨value, first, made, ran⟩ := run_bind_ok ran
  obtain ⟨built, making, rfl⟩ := observe_ok rest.activeEffect made
  obtain ⟨container, second, looked, ran⟩ := run_bind_ok ran
  obtain ⟨ended, reading, rfl⟩ := observe_ok (by exact rest.activeEffect) looked
  have seen := Memory.grows_seeing world.memory world.outlook
  obtain ⟨making, source⟩ := source_ok data seen json making
  have begun := ((seen.trans making).trans (Memory.grows_settled built)).trans
    (Memory.grows_seeing built.settled world.outlook)
  have grows := Observe.grows_getPath reading
  have there := (data.grows begun).grows grows
  obtain ⟨found, known, hands⟩ :=
    Observe.hands_getPath (.inl (data.grows begun).shown) there.calm reading
  obtain ⟨id, own, rfl, present, rfl⟩ := liveMap_of_setItem hands (there.calm _ _ known) ran
  have whole := begun.trans grows
  rw [data.valueAt_eq whole] at known
  have later := ((Memory.grows_settled built).trans (Memory.grows_seeing built.settled
    world.outlook)).trans (grows.trans (Memory.grows_settled ended))
  exact ⟨id, own, { world with memory := ended.settled }, value,
    whole.trans (Memory.grows_settled ended), rfl, present, known, source _ later,
    ⟨_, ended, begun, reading, rfl⟩, ran⟩

/-! ## What a write leaves behind -/

/-- Nothing runs, all effects only read, and a live map shows data in the shape of a tree. -/
structure Settled (runner : Runner) (root : LiveMapId) (raw : MapId) (world : World) : Prop where
  rest : AtRest world.reactor
  readers : Readers runner world.reactor
  data : world.memory.Data root raw

/-- The plain data is in the shape of a tree after a write by path as well. -/
theorem Reaches.data {id : LiveMapId} {own : LiveMap} {middle : World} {value : Value}
    (reaches : Reaches runner root raw write world after id own middle value)
    (data : world.memory.Data root raw) :
    (middle.memory.overwritten id (.str write.key) (middle.memory.toRaw value)).Data root raw where
  shown := (data.grows reaches.grows).shown.overwritten _ _ _
  tree := by
    have begun := data.tree.of_begins reaches.grows.maps
    have reached := reaches.reached
    rw [← data.valueAt_eq reaches.grows] at reached
    have maps : (middle.memory.overwritten id (.str write.key)
        (middle.memory.toRaw value)).maps =
          (middle.memory.writeEntry own.raw (.str write.key) (middle.memory.toRaw value)).maps := by
      unfold Memory.overwritten
      rw [Memory.rawMap_of_found reaches.found]
      rfl
    refine Memory.tree_of_maps_eq ?_ maps
    rw [maps]
    rcases reaches.source with fresh | known
    · have tree : (middle.memory.writeEntry own.raw (.str write.key)
          (middle.memory.toRaw value)).Tree 0 middle.memory.maps.size (.map raw) :=
        Memory.tree_writeEntry begun reached fresh reaches.grows.maps.size_le
      simpa [Memory.writeEntry] using tree
    · rw [← data.valueAt_eq reaches.grows] at known
      obtain ⟨between, reached', entry⟩ := Memory.valueAt_append.mp known
      cases reached.symm.trans reached'
      obtain ⟨_, _, same, entry, last⟩ := Memory.valueAt_cons_eq_some.mp entry
      cases same
      cases Memory.valueAt_nil.symm.trans last
      rw [Memory.writeEntry_of_found entry]
      exact (data.grows reaches.grows).tree

/-- What comes of a write by path while nothing runs, where all effects only read. -/
theorem settled_perform (settled : Settled runner root raw world) (json : write.IsJson)
    (ran : (write.perform runner root).run world = (.ok (), after)) :
    ∃ id own middle value, Reaches runner root raw write world after id own middle value ∧
      Settled runner root raw after ∧ Reactor.Tends world.reactor after.reactor ∧
        Memory.Grows (middle.memory.overwritten id (.str write.key) (middle.memory.toRaw value))
          after.memory ∧
          WriteOutcome own (.str write.key) (middle.memory.toRaw value) middle after := by
  obtain ⟨id, own, middle, value, reaches⟩ := perform_ok settled.data settled.rest json ran
  have rest : AtRest middle.reactor := reaches.reactor ▸ settled.rest
  have readers : Readers runner middle.reactor := reaches.reactor ▸ settled.readers
  obtain ⟨atRest, tends, grows, outcome⟩ := liveMapSet_ok rfl reaches.found rest readers reaches.wrote
  have data := (reaches.data settled.data).grows grows
  exact ⟨id, own, middle, value, reaches, ⟨atRest, readers.tends tends, data⟩,
    reaches.reactor ▸ tends, grows, outcome⟩

end Act

end ReactiveSchema
