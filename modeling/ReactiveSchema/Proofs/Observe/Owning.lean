import ReactiveSchema.Number.Read
import ReactiveSchema.Proofs.Observe.Paths
import ReactiveSchema.Proofs.Observe.Showing

/-!
# What things own

What a path leads to can be told from memory alone: a mapping owns its keys, a sequence its
items, and an object its public attributes.  Memory that grows keeps all of it.
-/

namespace ReactiveSchema

namespace Memory

variable {memory before after : Memory}

/-! ## What things own -/

/-- The item whose index a segment spells. -/
def spelled? (items : List Value) (segment : String) : Option Value :=
  (Number.readInt? segment.toList).bind (itemOf? items)

/-- The attribute of a plain object. -/
def attributeOf? (memory : Memory) (object : Value) (name : String) : Option Value :=
  match object with
  | .object id => (memory.objectAt id).lookup name
  | .text content => if name = "text" then some (.str content) else none
  | .ref id =>
      match name with
      | "value" => some (memory.refAt id)
      | "peek" => some (.method (.ref id) name)
      | _ => none
  | .scope id =>
      match name with
      | "label" => some (.str id.label)
      | "serial" => some (.int id.serial)
      | _ => none
  | _ => none

/--
What a thing owns under a segment: a mapping its keys, a sequence its items, and an object its
public attributes.  Scalars own nothing.
-/
def owned? (memory : Memory) (owner : Value) (segment : String) : Option Value :=
  match owner with
  | .map id => (memory.mapAt id).find? (.str segment)
  | .liveMap id => (memory.mapAt (memory.rawMap id)).find? (.str segment)
  | .tuple items => spelled? items segment
  | .list id => spelled? (memory.listAt id) segment
  | .liveList id => spelled? (memory.listAt (memory.rawList id)) segment
  | object =>
      if segment.toList.head? == some '_' then none else memory.attributeOf? object segment

/-- A sequence has the indices from minus its length to its length. -/
theorem isSome_itemOf? {items : List Value} {index : Int} :
    (itemOf? items index).isSome = true ↔
      -Int.ofNat items.length ≤ index ∧ index < Int.ofNat items.length := by
  unfold itemOf? Observe.placeOf?
  dsimp only
  generalize counted : (if index < 0 then index + items.length else index) = place
  have same : (0 ≤ place ∧ place < items.length) ↔
      (-Int.ofNat items.length ≤ index ∧ index < Int.ofNat items.length) := by
    rw [← counted, Int.ofNat_eq_natCast]
    split <;> omega
  rw [← same]
  split
  case isTrue inside =>
    have found : place.toNat < items.length := by omega
    rw [Option.bind_some, List.getElem?_eq_getElem found]
    exact iff_of_true rfl inside
  case isFalse outside => exact iff_of_false Bool.false_ne_true outside

/-- An index that has been counted from the start names the same item. -/
theorem itemOf?_counted {items : List Value} {index : Int} {value : Value}
    (item : itemOf? items index = some value) :
    itemOf? items (if index < 0 then index + items.length else index) = some value := by
  obtain ⟨least, -⟩ := isSome_itemOf?.mp (Option.isSome_of_eq_some item)
  rw [Int.ofNat_eq_natCast] at least
  have counted : ¬ (if index < 0 then index + (items.length : Int) else index) < 0 := by
    split <;> omega
  rw [← item]
  unfold itemOf? Observe.placeOf?
  dsimp only
  rw [if_neg counted]

/-! ## The way of a path -/

/-- A thing on the way of a path; where it is handed out live, a container is so by a face. -/
structure Stop where
  value : Value
  live : Bool

/-- Is what a thing holds handed out live? -/
def Stop.wraps (stop : Stop) : Bool :=
  stop.value.isLive || (stop.live && stop.value.isPlainContainer)

/-- A thing is handed out at a stop. -/
def HandsAt (memory : Memory) (given : Value) (stop : Stop) : Prop :=
  if stop.live then memory.Hands given stop.value else given = stop.value

/-- Where a segment leads from a stop that owns it. -/
def next? (memory : Memory) (stop : Stop) (segment : String) : Option Stop :=
  (memory.owned? stop.value segment).map (⟨·, stop.wraps⟩)

/-- Where the segments of a path lead, if every step is owned. -/
def walk? (memory : Memory) (stop : Stop) : List String → Option Stop
  | [] => some stop
  | segment :: rest => (memory.next? stop segment).bind (memory.walk? · rest)

/-- Where a path leads from a candidate. -/
def lookup? (memory : Memory) (path : List String) (candidate : Value) : Option Stop :=
  memory.walk? ⟨candidate, false⟩ path

/--
Is a value a plain thing, of which no more can be seen than what it holds?  It is in memory, it
is not the answer that nothing was found, and it computes nothing when it is asked for an
attribute.
-/
def isPlain (memory : Memory) : Value → Bool
  | .missing => false
  | .node _ => false
  | .handle _ _ => false
  | .list id => decide (id < memory.lists.size)
  | .map id => decide (id < memory.maps.size)
  | .liveList id => memory.liveLists[id]?.any (decide <| ·.raw < memory.lists.size)
  | .liveMap id => memory.liveMaps[id]?.any (decide <| ·.raw < memory.maps.size)
  | .object id => decide (id < memory.objects.size)
  | .ref id => decide (id < memory.refs.size)
  | .tuple items => allPlain items
  | _ => true
where
  /-- Are all the values plain things? -/
  allPlain : List Value → Bool
    | [] => true
    | item :: rest => memory.isPlain item && allPlain rest

/-- Wherever paths lead from a candidate, there are plain things. -/
def PlainBelow (memory : Memory) (candidate : Value) : Prop :=
  ∀ path stop, memory.lookup? path candidate = some stop → memory.isPlain stop.value = true

theorem Fronts.isPlainContainer {given value : Value} (shows : memory.Fronts given value) :
    value.isPlainContainer = true := by
  unfold Fronts at shows
  split at shows
  · rfl
  · rfl
  · exact shows.elim

theorem HandsAt.eq_of_flat {given : Value} {stop : Stop} (hands : memory.HandsAt given stop)
    (flat : stop.value.isPlainContainer = false) : given = stop.value := by
  unfold HandsAt at hands
  split at hands
  case isTrue =>
    rcases hands with shows | ⟨-, same⟩
    · rw [shows.isPlainContainer] at flat
      cases flat
    · exact same
  case isFalse => exact hands

theorem HandsAt.of_container {given value : Value} {live : Bool}
    (hands : memory.HandsAt given ⟨value, live⟩) (container : value.isPlainContainer = true) :
    live = false ∧ given = value ∨ live = true ∧ memory.Fronts given value := by
  cases live with
  | false => exact .inl ⟨rfl, hands⟩
  | true =>
      refine .inr ⟨rfl, hands.resolve_right fun flat => ?_⟩
      exact Bool.false_ne_true (flat.1.symm.trans container)

theorem HandsAt.ne_missing {given : Value} {stop : Stop} (hands : after.HandsAt given stop)
    (plain : before.isPlain stop.value = true) : given ≠ .missing := by
  rintro rfl
  have absent {value : Value} (plain : before.isPlain value = true) : .missing ≠ value := by
    rintro rfl
    cases plain
  unfold HandsAt at hands
  split at hands
  case isTrue =>
    rcases hands with shows | ⟨-, same⟩
    · exact shows.elim
    · exact absent plain same
  case isFalse => exact absent plain hands

/-- What looking a path up answers: what is at its end, or else that nothing was found. -/
def Answers (memory : Memory) (found : Value) : Option Stop → Prop
  | some stop => found ≠ .missing ∧ memory.HandsAt found stop
  | none => found = .missing

/-! ### Memory of plain things -/

/-- Do containers, cells and objects hold nothing but plain things? -/
def holdsPlain (memory : Memory) : Bool :=
  memory.lists.all (·.all memory.isPlain) &&
    memory.maps.all (·.all fun entry => memory.isPlain entry.2) &&
      memory.refs.all (fun cell => memory.isPlain cell.content) &&
        memory.objects.all (·.all fun entry => memory.isPlain entry.2)

theorem isPlain_of_allPlain {items : List Value} (all : isPlain.allPlain memory items = true)
    {item : Value} (known : item ∈ items) : memory.isPlain item = true := by
  induction items with
  | nil => cases known
  | cons first rest ih =>
      obtain ⟨head, tail⟩ := (Bool.and_eq_true _ _).mp all
      rcases List.mem_cons.mp known with rfl | later
      · exact head
      · exact ih tail later

theorem mem_of_spelled? {items : List Value} {segment : String} {value : Value}
    (found : spelled? items segment = some value) : value ∈ items := by
  obtain ⟨index, -, item⟩ := Option.bind_eq_some_iff.mp found
  obtain ⟨place, -, there⟩ := Option.bind_eq_some_iff.mp item
  exact List.mem_of_getElem? there

theorem mem_of_find? {α : Type} {entries : ReactiveSchema.Entries α} {key : Value} {value : α}
    (found : entries.find? key = some value) : ∃ known, (known, value) ∈ entries := by
  induction entries with
  | nil => cases found
  | cons entry rest ih =>
      obtain ⟨known, first⟩ := entry
      rw [Entries.find?] at found
      split at found
      · cases found
        exact ⟨known, List.mem_cons_self⟩
      · obtain ⟨other, later⟩ := ih found
        exact ⟨other, List.mem_cons_of_mem _ later⟩

theorem mem_of_mem_getD {α : Type} {items : Array (List α)} {place : Nat} {item : α}
    (known : item ∈ items[place]?.getD []) : ∃ list ∈ items, item ∈ list := by
  cases found : items[place]? with
  | none =>
      rw [found] at known
      cases known
  | some list =>
      rw [found] at known
      exact ⟨list, Array.mem_of_getElem? found, known⟩

theorem holdsPlain_iff : memory.holdsPlain = true ↔
    (∀ items ∈ memory.lists, ∀ item ∈ items, memory.isPlain item = true) ∧
      (∀ entries ∈ memory.maps, ∀ entry ∈ entries, memory.isPlain entry.2 = true) ∧
        (∀ cell ∈ memory.refs, memory.isPlain cell.content = true) ∧
          ∀ entries ∈ memory.objects, ∀ entry ∈ entries, memory.isPlain entry.2 = true := by
  unfold holdsPlain
  simp only [Bool.and_eq_true, Array.all_eq_true_iff_forall_mem, List.all_eq_true, and_assoc]

theorem isPlain_attributeOf? (holds : memory.holdsPlain = true) {object value : Value}
    {name : String} (found : memory.attributeOf? object name = some value) :
    memory.isPlain value = true := by
  obtain ⟨-, -, refs, objects⟩ := holdsPlain_iff.mp holds
  cases object with
  | object id =>
      obtain ⟨first, rest, split, -⟩ := List.lookup_eq_some_iff.mp found
      have among : (name, value) ∈ memory.objectAt id := by
        rw [split]
        exact List.mem_append_right first List.mem_cons_self
      obtain ⟨entries, known, among⟩ := mem_of_mem_getD among
      exact objects entries known _ among
  | ref id =>
      unfold attributeOf? at found
      dsimp only at found
      split at found
      · cases found
        unfold refAt
        cases cell : memory.refs[id]? with
        | none => rfl
        | some cell => exact refs _ (Array.mem_of_getElem? ‹_›)
      · cases found
        rfl
      · cases found
  | text content =>
      unfold attributeOf? at found
      dsimp only at found
      split at found <;> cases found
      rfl
  | scope id =>
      unfold attributeOf? at found
      dsimp only at found
      split at found <;> cases found <;> rfl
  | _ => cases found

/-- In memory of plain things, plain things own nothing else. -/
theorem isPlain_owned? (holds : memory.holdsPlain = true) {owner value : Value} {segment : String}
    (plain : memory.isPlain owner = true) (owned : memory.owned? owner segment = some value) :
    memory.isPlain value = true := by
  obtain ⟨lists, maps, -, -⟩ := holdsPlain_iff.mp holds
  have item {id : ListId} (found : spelled? (memory.listAt id) segment = some value) :
      memory.isPlain value = true := by
    obtain ⟨items, known, among⟩ := mem_of_mem_getD (mem_of_spelled? found)
    exact lists items known value among
  have entry {id : MapId} (found : (memory.mapAt id).find? (.str segment) = some value) :
      memory.isPlain value = true := by
    obtain ⟨key, among⟩ := mem_of_find? found
    obtain ⟨entries, known, among⟩ := mem_of_mem_getD among
    exact maps entries known _ among
  have object (found : (if segment.toList.head? == some '_' then none
      else memory.attributeOf? owner segment) = some value) : memory.isPlain value = true := by
    split at found
    · cases found
    · exact isPlain_attributeOf? holds found
  cases owner with
  | map id => exact entry owned
  | liveMap id => exact entry owned
  | list id => exact item owned
  | liveList id => exact item owned
  | tuple items => exact isPlain_of_allPlain plain (mem_of_spelled? owned)
  | _ => exact object owned

theorem plainBelow_of_holdsPlain (holds : memory.holdsPlain = true) {candidate : Value}
    (plain : memory.isPlain candidate = true) : memory.PlainBelow candidate := by
  have along (path : List String) (stop last : Stop) (plain : memory.isPlain stop.value = true)
      (walked : memory.walk? stop path = some last) : memory.isPlain last.value = true := by
    induction path generalizing stop with
    | nil =>
        cases walked
        exact plain
    | cons segment rest ih =>
        obtain ⟨next, led, walked⟩ := Option.bind_eq_some_iff.mp walked
        obtain ⟨value, owned, rfl⟩ := Option.map_eq_some_iff.mp led
        exact ih _ (isPlain_owned? holds plain owned) walked
  exact fun path last walked => along path _ last plain walked

/-! ## Memory that grows -/

theorem listAt_of_begins (lists : Begins before.lists after.lists) {id : ListId}
    (inside : id < before.lists.size) : after.listAt id = before.listAt id := by
  have found := Array.getElem?_eq_getElem inside
  unfold listAt
  rw [lists _ _ found, found]

theorem mapAt_of_begins (maps : Begins before.maps after.maps) {id : MapId}
    (inside : id < before.maps.size) : after.mapAt id = before.mapAt id := by
  have found := Array.getElem?_eq_getElem inside
  unfold mapAt
  rw [maps _ _ found, found]

theorem objectAt_of_begins (objects : Begins before.objects after.objects) {id : ObjectId}
    (inside : id < before.objects.size) : after.objectAt id = before.objectAt id := by
  have found := Array.getElem?_eq_getElem inside
  unfold objectAt
  rw [objects _ _ found, found]

/-- What a live map shows, however memory has grown since. -/
theorem mapAt_rawMap_of_grows {id : LiveMapId} {own : LiveMap}
    (found : before.liveMaps[id]? = some own) (inside : own.raw < before.maps.size)
    (grown : Grows before after) : after.mapAt (after.rawMap id) = before.mapAt own.raw := by
  obtain ⟨_, known, raw, -⟩ := grown.liveMaps found
  rw [rawMap_of_found known, raw, mapAt_of_begins grown.maps inside]

/-- What a live list shows, however memory has grown since. -/
theorem listAt_rawList_of_grows {id : LiveListId} {own : LiveList}
    (found : before.liveLists[id]? = some own) (inside : own.raw < before.lists.size)
    (grown : Grows before after) : after.listAt (after.rawList id) = before.listAt own.raw := by
  obtain ⟨_, known, raw, -⟩ := grown.liveLists found
  rw [rawList_of_found known, raw, listAt_of_begins grown.lists inside]

/-! ## Handing out -/

theorem handOutItem_hands {id : LiveListId} {index : Int} {value : Value} :
    (memory.handOutItem id index value).2.Hands (memory.handOutItem id index value).1 value := by
  cases container : value.isPlainContainer with
  | true => exact .inl (fronts_handOutItem id index container)
  | false =>
      rw [handOutItem_of_flat id index container]
      exact .inr ⟨container, rfl⟩

end Memory

end ReactiveSchema
