import Mathlib.Data.List.Forall2
import ReactiveSchema.Proofs.Observe.Faces
import ReactiveSchema.Script.Containers

/-!
# What live lists show

A live list hands out its items as they are, or by faces that show them.  Once handed out, a face
shows its item however memory grows.
-/

namespace ReactiveSchema

/-- A live list that keeps no faces. -/
def LiveList.forgetting (live : LiveList) : LiveList :=
  { live with children := [] }

namespace Memory

variable {memory before after : Memory}

/-! ## Showing a value -/

/-- A value is handed out by a face that shows it, or as it is if it is no live container. -/
def Shows (memory : Memory) (face value : Value) : Prop :=
  memory.Fronts face value ∨ face = value ∧ value.isLive = false

theorem toRaw_of_plain {value : Value} (plain : value.isLive = false) (memory : Memory) :
    memory.toRaw value = value := by
  cases value <;> first | rfl | cases plain

theorem Shows.toRaw {face value : Value} (shows : memory.Shows face value) :
    memory.toRaw face = value := by
  rcases shows with fronts | ⟨rfl, plain⟩
  · exact toRaw_of_fronts fronts
  · exact toRaw_of_plain plain memory

theorem Shows.grow {face value : Value} (shows : before.Shows face value)
    (grows : Grows before after) : after.Shows face value :=
  shows.imp_left grows.fronts

/-- Values that are not live are shown as they are. -/
theorem shows_self {values : List Value} (plain : ∀ value ∈ values, value.isLive = false) :
    List.Forall₂ memory.Shows values values :=
  List.forall₂_same.mpr fun value known => .inr ⟨rfl, plain value known⟩

/-- Memory with one live list changed. -/
def withLiveList (memory : Memory) (id : LiveListId) (change : LiveList → LiveList) : Memory :=
  { memory with liveLists := memory.liveLists.modify id change }

theorem fronts_withLiveList {id : LiveListId} (change : LiveList → LiveList)
    (raw : ∀ live, (change live).raw = live.raw) {face value : Value}
    (fronts : memory.Fronts face value) : (memory.withLiveList id change).Fronts face value := by
  unfold Fronts at fronts ⊢
  split at fronts
  · exact fronts
  · obtain ⟨live, found, same⟩ := fronts
    unfold withLiveList
    rw [Array.getElem?_modify, found]
    split
    · exact ⟨_, rfl, (raw live).trans same⟩
    · exact ⟨_, rfl, same⟩
  · exact fronts.elim

/-- A plain container is handed out by a face of it. -/
theorem fronts_handOutItem (id : LiveListId) (index : Int) {value : Value}
    (container : value.isPlainContainer = true) :
    (memory.handOutItem id index value).2.Fronts (memory.handOutItem id index value).1 value := by
  have fresh : ((memory.newFace value).2.keepingItemFace id index (memory.newFace value).1).Fronts
      (memory.newFace value).1 value := by
    change ((memory.newFace value).2.withLiveList id fun live =>
      { live with children := _ :: live.children.filter (·.1 != index) }).Fronts _ _
    refine fronts_withLiveList _ ?_ (newFace_fronts container)
    exact fun _ => rfl
  unfold handOutItem
  rw [if_pos container]
  split
  case h_1 child kept =>
    split
    case isTrue shown => exact fronts_iff_isFaceOf.mpr shown
    case isFalse => exact fresh
  case h_2 => exact fresh

theorem handOutItem_of_flat (id : LiveListId) (index : Int) {value : Value}
    (flat : value.isPlainContainer = false) :
    memory.handOutItem id index value = (value, memory) := by
  unfold handOutItem
  rw [flat, if_neg Bool.false_ne_true]

theorem shows_handOutItem (id : LiveListId) (index : Int) {value : Value}
    (plain : value.isLive = false) :
    (memory.handOutItem id index value).2.Shows (memory.handOutItem id index value).1 value := by
  cases container : value.isPlainContainer with
  | true => exact .inl (fronts_handOutItem id index container)
  | false =>
      rw [handOutItem_of_flat id index container]
      exact .inr ⟨rfl, plain⟩

/-! ## Live lists with what they show -/

/-- A live list with tracked state of its own shows a plain list of items, none of them live. -/
structure Backed (memory : Memory) (id : LiveListId) (raw : ListId) (dep : DepId)
    (items : List Value) : Prop where
  face : ∃ own, memory.liveLists[id]? = some own ∧ own.raw = raw ∧ own.dep = dep
  holds : memory.lists[raw]? = some items
  plain : ∀ item ∈ items, item.isLive = false

namespace Backed

variable {id : LiveListId} {raw : ListId} {dep : DepId} {items : List Value}

theorem grow (backed : before.Backed id raw dep items) (grows : Grows before after) :
    after.Backed id raw dep items := by
  obtain ⟨own, found, raw', dep'⟩ := backed.face
  obtain ⟨later, known, same, same'⟩ := grows.liveLists found
  exact ⟨⟨later, known, same.trans raw', same'.trans dep'⟩, grows.lists raw items backed.holds,
    backed.plain⟩

theorem rawList (backed : memory.Backed id raw dep items) : memory.rawList id = raw := by
  obtain ⟨own, found, same, -⟩ := backed.face
  exact (rawList_of_found found).trans same

theorem liveDep (backed : memory.Backed id raw dep items) : (memory.liveListAt id).dep = dep := by
  obtain ⟨own, found, -, same⟩ := backed.face
  rw [liveListAt, found]
  exact same

theorem listAt (backed : memory.Backed id raw dep items) : memory.listAt raw = items := by
  rw [Memory.listAt, backed.holds, Option.getD_some]

theorem withLiveList (backed : memory.Backed id raw dep items) (change : LiveList → LiveList)
    (raw' : ∀ live, (change live).raw = live.raw) (dep' : ∀ live, (change live).dep = live.dep) :
    (memory.withLiveList id change).Backed id raw dep items := by
  obtain ⟨own, found, rfl, rfl⟩ := backed.face
  refine ⟨⟨change own, ?_, raw' own, dep' own⟩, backed.holds, backed.plain⟩
  rw [Memory.withLiveList, Array.getElem?_modify, if_pos rfl, found]
  rfl

/-- Handing out an item at its place makes memory grow. -/
theorem grows_handOutItem (backed : memory.Backed id raw dep items) {index : Int} {value : Value}
    (item : itemOf? items index = some value) :
    Grows memory (memory.handOutItem id index value).2 := by
  refine Memory.grows_handOutItem (.refl memory) fun _ live _ found => ?_
  obtain ⟨own, known, rfl, -⟩ := backed.face
  cases known.symm.trans found
  rw [backed.listAt]
  exact item

end Backed

end Memory

open Memory

namespace Observe

variable {α : Type} {memory before after : Memory} {id : LiveListId} {raw : ListId} {dep : DepId}
  {items : List Value}

theorem run_liveListGetAt (backed : memory.Backed id raw dep items) (index : Int) :
    (liveListGetAt id index).run memory =
      let place := if index < 0 then index + items.length else index
      match (placeOf? items.length place).bind fun place => items[place]? with
      | some value => (wrapItem id place value).run (memory.reading dep)
      | none => (.error (.failure (.outOfRange "list")), memory.reading dep) := by
  have noted := backed.grow (grows_reading memory dep)
  unfold liveListGetAt trackList
  rw [run_bind, run_bind, run_get]
  dsimp only
  rw [backed.liveDep, run_track]
  dsimp only
  rw [run_bind, run_get]
  dsimp only
  rw [noted.rawList, noted.listAt]
  cases (placeOf? items.length _).bind fun place => items[place]? <;> rfl

/-- An item that is there is handed out. -/
theorem run_liveListGetAt_some (backed : memory.Backed id raw dep items) {index : Int}
    {value : Value}
    (found : ((placeOf? items.length (if index < 0 then index + items.length else index)).bind
      fun place => items[place]?) = some value) :
    ∃ face after, (liveListGetAt id index).run memory = (.ok face, after) ∧ Grows memory after ∧
      after.Shows face value := by
  have noted := backed.grow (grows_reading memory dep)
  rw [run_liveListGetAt backed]
  dsimp only
  rw [found]
  dsimp only
  rw [run_wrapItem]
  have known : value ∈ items := by
    obtain ⟨place, -, item⟩ := Option.bind_eq_some_iff.mp found
    exact List.mem_of_getElem? item
  exact ⟨_, _, rfl, (grows_reading memory dep).trans (noted.grows_handOutItem found),
    shows_handOutItem id _ (backed.plain value known)⟩

theorem run_liveListLength (backed : memory.Backed id raw dep items) :
    ∃ after, (liveListLength id).run memory = (.ok items.length, after) ∧ Grows memory after := by
  have noted := backed.grow (grows_reading memory dep)
  refine ⟨memory.reading dep, ?_, grows_reading memory dep⟩
  unfold liveListLength trackList
  rw [run_bind, run_bind, run_get]
  dsimp only
  rw [backed.liveDep, run_track]
  dsimp only
  rw [run_bind, run_get]
  dsimp only
  rw [noted.rawList, noted.listAt]
  rfl

end Observe

end ReactiveSchema
