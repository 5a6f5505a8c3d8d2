import ReactiveSchema.Proofs.Memory.Extent
import ReactiveSchema.Proofs.Observe.Faces

/-!
# Memory without loose ends

Memory is whole when every place that is named in it is there.  What can be
read of whole memory can be read just so of another one, in which places have
been moved.
-/

namespace ReactiveSchema

variable {moved : Relocation} {extent small large outer : Extent} {memory other : Memory}

/-! ## What memory holds -/

/-- Two nodes that are twins in all their parts. -/
structure NodeTwin (moved : Relocation) (extent : Extent) (a b : NodeCell) : Prop where
  type : Twin moved extent a.type b.type
  props : Twin moved extent a.props b.props
  children : Twin moved extent a.children b.children

/-- Values of one name that are twins. -/
def NamedTwin (moved : Relocation) (extent : Extent) (a b : String × Value) : Prop :=
  a.1 = b.1 ∧ Twin moved extent a.2 b.2

/-- Attributes of handled things that are twins. -/
inductive AttributeTwin (moved : Relocation) (extent : Extent) : Attribute → Attribute → Prop
  | plain {v w : Value} : Twin moved extent v w → AttributeTwin moved extent (.plain v) (.plain w)
  | content (cell : RefId) : AttributeTwin moved extent (.content cell) (.content cell)
  | group {xs ys : List Value} : Twins moved extent xs ys →
      AttributeTwin moved extent (.group xs) (.group ys)
  | method : AttributeTwin moved extent .method .method

/-- Outlooks on handled things that are twins. -/
structure OutlookTwin (moved : Relocation) (extent : Extent) (a b : Outlook) : Prop where
  shown : a.shown = b.shown
  size : a.size = b.size
  attributes : List.Forall₂ (fun p q => p.1 = q.1 ∧ AttributeTwin moved extent p.2 q.2)
    a.attributes b.attributes

/-- Evaluation passes whose frames are twins. -/
structure ContextTwin (moved : Relocation) (extent : Extent) (a b : EvaluationContext) :
    Prop where
  frames : Twins moved extent a.frames b.frames
  maxDepth : a.maxDepth = b.maxDepth

theorem NodeTwin.mono (fits : small.Fits large) {a b : NodeCell}
    (same : NodeTwin moved small a b) : NodeTwin moved large a b :=
  ⟨same.type.mono fits, same.props.mono fits, same.children.mono fits⟩

theorem NamedTwin.mono (fits : small.Fits large) {a b : String × Value}
    (same : NamedTwin moved small a b) : NamedTwin moved large a b :=
  ⟨same.1, same.2.mono fits⟩

theorem AttributeTwin.mono (fits : small.Fits large) {a b : Attribute}
    (same : AttributeTwin moved small a b) : AttributeTwin moved large a b := by
  cases same with
  | plain same => exact .plain (same.mono fits)
  | content cell => exact .content cell
  | group same => exact .group (Twin.monoAll fits same)
  | method => exact .method

theorem OutlookTwin.mono (fits : small.Fits large) {a b : Outlook}
    (same : OutlookTwin moved small a b) : OutlookTwin moved large a b :=
  ⟨same.shown, same.size, same.attributes.imp fun _ _ both => ⟨both.1, both.2.mono fits⟩⟩

theorem ContextTwin.mono (fits : small.Fits large) {a b : EvaluationContext}
    (same : ContextTwin moved small a b) : ContextTwin moved large a b :=
  ⟨Twin.monoAll fits same.frames, same.maxDepth⟩

theorem rel_imp {α β : Type} {R S : α → β → Prop} (weaker : ∀ a b, R a b → S a b)
    {a : Option α} {b : Option β} (related : Option.Rel R a b) : Option.Rel S a b := by
  cases related with
  | none => exact .none
  | some related => exact .some (weaker _ _ related)

theorem context_mono (fits : small.Fits large) {a b : Option EvaluationContext}
    (same : Option.Rel (ContextTwin moved small) a b) :
    Option.Rel (ContextTwin moved large) a b :=
  rel_imp (fun _ _ same => same.mono fits) same

theorem EntryTwins.within {entries others : List (Value × Value)}
    (same : EntryTwins moved extent entries others) : EntryTwins .still extent entries entries :=
  same.rec .nil fun first _ rest => .cons ⟨first.1.within, first.2.within⟩ rest

theorem NodeTwin.within {a b : NodeCell} (same : NodeTwin moved extent a b) :
    NodeTwin .still extent a a :=
  ⟨same.type.within, same.props.within, same.children.within⟩

theorem context_within {a b : Option EvaluationContext}
    (same : Option.Rel (ContextTwin moved extent) a b) :
    Option.Rel (ContextTwin .still extent) a a := by
  cases same with
  | none => exact .none
  | some same =>
      exact .some ⟨Twin.unmovedAll (Relocation.spares_still _) (.refl _) same.frames, rfl⟩

namespace Memory

/-- How many places there are; what lies beside memory is as given. -/
def bounds (memory : Memory) (outer : Extent) : Extent :=
  { outer with
    lists := memory.lists.size
    maps := memory.maps.size
    liveLists := memory.liveLists.size
    liveMaps := memory.liveMaps.size
    nodes := memory.nodes.size
    serials := memory.serialCount }

/-- Everything that memory holds is within an extent. -/
structure Whole (memory : Memory) (extent : Extent) : Prop where
  lists (id : ListId) : Twins .still extent (memory.listAt id) (memory.listAt id)
  maps (id : MapId) : EntryTwins .still extent (memory.mapAt id) (memory.mapAt id)
  nodes (id : NodeId) : NodeTwin .still extent (memory.nodeAt id) (memory.nodeAt id)
  refs {id : RefId} {cell : RefCell} : memory.refs[id]? = some cell →
    cell.content.Within extent
  objects (id : ObjectId) :
    List.Forall₂ (NamedTwin .still extent) (memory.objectAt id) (memory.objectAt id)
  liveLists {id : LiveListId} {live : LiveList} : memory.liveLists[id]? = some live →
    live.raw < extent.lists ∧ ∀ entry ∈ live.children, entry.2.Within extent
  liveMaps {id : LiveMapId} {live : LiveMap} : memory.liveMaps[id]? = some live →
    live.raw < extent.maps ∧ ∀ entry ∈ live.children, entry.2.Within extent
  context : Option.Rel (ContextTwin .still extent) memory.context memory.context
  outlook (kind : HandleKind) (id : Nat) :
    OutlookTwin .still extent (memory.outlook kind id) (memory.outlook kind id)

theorem Whole.mono (whole : memory.Whole small) (fits : small.Fits large) :
    memory.Whole large where
  lists id := Twin.monoAll fits (whole.lists id)
  maps id := (whole.maps id).mono fits
  nodes id := (whole.nodes id).mono fits
  refs found := (whole.refs found).mono fits
  objects id := (whole.objects id).imp fun _ _ same => same.mono fits
  liveLists found :=
    have ⟨raw, children⟩ := whole.liveLists found
    ⟨Nat.lt_of_lt_of_le raw fits.lists, fun entry has => (children entry has).mono fits⟩
  liveMaps found :=
    have ⟨raw, children⟩ := whole.liveMaps found
    ⟨Nat.lt_of_lt_of_le raw fits.maps, fun entry has => (children entry has).mono fits⟩
  context := context_mono fits whole.context
  outlook kind id := (whole.outlook kind id).mono fits

theorem Whole.rawList (whole : memory.Whole extent) {id : LiveListId}
    (there : id < memory.liveLists.size) : memory.rawList id < extent.lists := by
  have found := Array.getElem?_eq_getElem there
  rw [rawList_of_found found]
  exact (whole.liveLists found).1

theorem Whole.rawMap (whole : memory.Whole extent) {id : LiveMapId}
    (there : id < memory.liveMaps.size) : memory.rawMap id < extent.maps := by
  have found := Array.getElem?_eq_getElem there
  rw [rawMap_of_found found]
  exact (whole.liveMaps found).1

theorem Whole.refAt (whole : memory.Whole extent) (id : RefId) :
    (memory.refAt id).Within extent := by
  unfold Memory.refAt
  cases found : memory.refs[id]? with
  | none => exact .none
  | some cell => exact whole.refs found

/-! ## Memory that reads the same -/

/-- What can be read of one memory is twin to what can be read of another one. -/
structure Mirrors (moved : Relocation) (extent : Extent) (memory other : Memory) : Prop where
  lists {id : ListId} : id < extent.lists →
    Twins moved extent (memory.listAt id) (other.listAt (moved.lists.move id))
  maps {id : MapId} : id < extent.maps →
    EntryTwins moved extent (memory.mapAt id) (other.mapAt (moved.maps.move id))
  nodes {id : NodeId} : id < extent.nodes →
    NodeTwin moved extent (memory.nodeAt id) (other.nodeAt (moved.nodes.move id))
  refs (id : RefId) :
    Option.Rel (fun a b => Twin moved extent a.content b.content) memory.refs[id]? other.refs[id]?
  objects (id : ObjectId) :
    List.Forall₂ (NamedTwin moved extent) (memory.objectAt id) (other.objectAt id)
  rawLists {id : LiveListId} : id < extent.liveLists →
    memory.rawList id < extent.lists ∧ moved.lists.move (memory.rawList id) = other.rawList id
  rawMaps {id : LiveMapId} : id < extent.liveMaps →
    memory.rawMap id < extent.maps ∧ moved.maps.move (memory.rawMap id) = other.rawMap id
  context : Option.Rel (ContextTwin moved extent) memory.context other.context
  colors : memory.colors = other.colors
  recursionLimit : memory.recursionLimit = other.recursionLimit
  outlook (kind : HandleKind) (id : Nat) :
    OutlookTwin moved extent (memory.outlook kind id) (other.outlook kind id)

namespace Mirrors

variable (mirrors : memory.Mirrors moved extent other)
include mirrors

theorem liveItems {id : LiveListId} (there : id < extent.liveLists) :
    Twins moved extent (memory.listAt (memory.rawList id)) (other.listAt (other.rawList id)) := by
  obtain ⟨raw, moves⟩ := mirrors.rawLists there
  rw [← moves]
  exact mirrors.lists raw

theorem liveEntries {id : LiveMapId} (there : id < extent.liveMaps) :
    EntryTwins moved extent (memory.mapAt (memory.rawMap id))
      (other.mapAt (other.rawMap id)) := by
  obtain ⟨raw, moves⟩ := mirrors.rawMaps there
  rw [← moves]
  exact mirrors.maps raw

theorem refAt (id : RefId) : Twin moved extent (memory.refAt id) (other.refAt id) := by
  have cells := mirrors.refs id
  unfold Memory.refAt
  generalize memory.refs[id]? = cell at cells
  generalize other.refs[id]? = twin at cells
  cases cells with
  | none => exact .none
  | some same => exact same

theorem levels : memory.levels = other.levels :=
  congrArg (· + 1) mirrors.recursionLimit

end Mirrors

/-! ## Moving what memory holds -/

/-- Things can be put where they move, each exchanged for one that is related to it. -/
theorem exists_moved {α : Type} {R : α → α → Prop} (fallback : α) (shift : Shift)
    (items : Array α)
    (each : ∀ (id : Nat) (item : α), items[id]? = some item → ∃ twin, R item twin) :
    ∃ others : Array α, others.size = items.size + shift.steps ∧
      ∀ (id : Nat) (item : α), items[id]? = some item →
        ∃ twin, others[shift.move id]? = some twin ∧ R item twin := by
  have related (id : Nat) : ∃ twin, ∀ item, items[id]? = some item → R item twin := by
    cases found : items[id]? with
    | none => exact ⟨fallback, fun _ has => by cases has⟩
    | some item =>
        obtain ⟨twin, same⟩ := each id item found
        exact ⟨twin, fun _ has => by cases has; exact same⟩
  obtain ⟨twinOf, same⟩ := Classical.skolem.mp related
  -- What has moved is at a place that lies so many steps further on.
  let before (place : Nat) : Nat := if place < shift.first then place else place - shift.steps
  refine ⟨Array.ofFn fun place : Fin (items.size + shift.steps) => twinOf (before place),
    Array.size_ofFn, fun id item found => ⟨twinOf id, ?_, same id item found⟩⟩
  have there : id < items.size := (Array.getElem?_eq_some_iff.mp found).1
  have inside : shift.move id < items.size + shift.steps := by
    unfold Shift.move
    split <;> omega
  have back : before (shift.move id) = id := by
    unfold before Shift.move
    split
    · rfl
    · rw [if_neg (by omega)]
      omega
  rw [Array.getElem?_ofFn, dif_pos inside]
  exact congrArg (some ∘ twinOf) back

/-- What a place has is related to what the place it moves to has. -/
theorem getD_moved {α : Type} {R : α → α → Prop} {items others : Array α} {fallback : α}
    {shift : Shift} (each : ∀ (id : Nat) (item : α), items[id]? = some item →
      ∃ twin, others[shift.move id]? = some twin ∧ R item twin) {id : Nat}
    (there : id < items.size) :
    R (items[id]?.getD fallback) (others[shift.move id]?.getD fallback) := by
  obtain ⟨twin, found, related⟩ := each id items[id] (Array.getElem?_eq_getElem there)
  rw [found, Array.getElem?_eq_getElem there]
  exact related

/-- What an unmoved place has, if anything, is related to what it had. -/
theorem rel_unmoved {α : Type} {R : α → α → Prop} {items others : Array α}
    (size : others.size = items.size) (each : ∀ (id : Nat) (item : α), items[id]? = some item →
      ∃ twin, others[Shift.still.move id]? = some twin ∧ R item twin) (id : Nat) :
    Option.Rel R items[id]? others[id]? := by
  by_cases there : id < items.size
  · obtain ⟨twin, found, related⟩ := each id items[id] (Array.getElem?_eq_getElem there)
    rw [Shift.move_still] at found
    rw [found, Array.getElem?_eq_getElem there]
    exact .some related
  · rw [Array.getElem?_eq_none (by omega), Array.getElem?_eq_none (by omega)]
    exact .none

theorem exists_twin_context (moved : Relocation) {context : Option EvaluationContext}
    (whole : Option.Rel (ContextTwin .still extent) context context) :
    ∃ twin, Option.Rel (ContextTwin moved extent) context twin := by
  cases context with
  | none => exact ⟨_, .none⟩
  | some context =>
      cases whole with
      | some whole =>
          obtain ⟨frames, twins⟩ := Twin.exists_twins moved whole.frames
          exact ⟨some ⟨frames, context.maxDepth⟩, .some ⟨twins, rfl⟩⟩

theorem exists_twin_attribute (moved : Relocation) {seen : Attribute}
    (whole : AttributeTwin .still extent seen seen) : ∃ twin, AttributeTwin moved extent seen twin := by
  cases whole with
  | plain whole => exact (Twin.exists_twin moved whole).imp' _ fun _ same => .plain same
  | content cell => exact ⟨_, .content cell⟩
  | group whole => exact (Twin.exists_twins moved whole).imp' _ fun _ same => .group same
  | method => exact ⟨_, .method⟩

/-- Twins can be chosen one by one. -/
theorem exists_forall₂ {α : Type} {R S : α → α → Prop} {xs : List α}
    (each : ∀ x, R x x → ∃ y, S x y) (whole : List.Forall₂ R xs xs) :
    ∃ ys, List.Forall₂ S xs ys := by
  induction xs with
  | nil => exact ⟨[], .nil⟩
  | cons x xs ih =>
      cases whole with
      | cons first rest =>
          obtain ⟨y, same⟩ := each x first
          obtain ⟨ys, others⟩ := ih rest
          exact ⟨y :: ys, .cons same others⟩

theorem exists_twin_outlook (moved : Relocation) {outlook : Outlook}
    (whole : OutlookTwin .still extent outlook outlook) :
    ∃ twin, OutlookTwin moved extent outlook twin := by
  obtain ⟨attributes, same⟩ := exists_forall₂
    (S := fun p q => p.1 = q.1 ∧ AttributeTwin moved extent p.2 q.2)
    (fun p both => (exists_twin_attribute moved both.2).imp' (p.1, ·) fun _ same => ⟨rfl, same⟩)
    whole.attributes
  exact ⟨⟨outlook.shown, outlook.size, attributes⟩, rfl, rfl, same⟩

theorem exists_twin_named (moved : Relocation) (named : String × Value)
    (whole : NamedTwin .still extent named named) : ∃ twin, NamedTwin moved extent named twin :=
  (Twin.exists_twin moved whole.2).imp' (named.1, ·) fun _ same => ⟨rfl, same⟩

theorem exists_twin_pair (moved : Relocation) (pair : Value × Value)
    (whole : PairTwin .still extent pair pair) : ∃ twin, PairTwin moved extent pair twin :=
  have ⟨first, same⟩ := Twin.exists_twin moved whole.1
  have ⟨second, same'⟩ := Twin.exists_twin moved whole.2
  ⟨(first, second), same, same'⟩

theorem exists_twin_node (moved : Relocation) {node : NodeCell}
    (whole : NodeTwin .still extent node node) : ∃ twin, NodeTwin moved extent node twin :=
  have ⟨type, same⟩ := Twin.exists_twin moved whole.type
  have ⟨props, same'⟩ := Twin.exists_twin moved whole.props
  have ⟨children, same''⟩ := Twin.exists_twin moved whole.children
  ⟨⟨type, props, children⟩, same, same', same''⟩

/-- Whole memory reads the same as another one, in which places have been moved. -/
theorem Whole.exists_mirrors (moved : Relocation) (whole : memory.Whole (memory.bounds outer)) :
    ∃ other, memory.Mirrors moved (memory.bounds outer) other := by
  obtain ⟨lists, -, eachList⟩ := exists_moved (R := Twins moved (memory.bounds outer))
    [] moved.lists memory.lists fun id items found => by
      have all := whole.lists id
      unfold listAt at all
      rw [found] at all
      exact Twin.exists_twins moved all
  obtain ⟨maps, -, eachMap⟩ := exists_moved (R := EntryTwins moved (memory.bounds outer))
    [] moved.maps memory.maps fun id entries found => by
      have all := whole.maps id
      unfold mapAt at all
      rw [found] at all
      exact exists_forall₂ (exists_twin_pair moved) all
  obtain ⟨nodes, -, eachNode⟩ := exists_moved (R := NodeTwin moved (memory.bounds outer))
    ⟨.none, .none, .none⟩ moved.nodes memory.nodes fun id node found => by
      have all := whole.nodes id
      unfold nodeAt at all
      rw [found] at all
      exact exists_twin_node moved all
  obtain ⟨refs, refsSize, eachRef⟩ := exists_moved
    (R := fun a b : RefCell => Twin moved (memory.bounds outer) a.content b.content)
    ⟨.none, 0⟩ .still memory.refs fun id cell found =>
      (Twin.exists_twin moved (whole.refs found)).imp' (⟨·, cell.dep⟩) fun _ same => same
  obtain ⟨objects, objectsSize, eachObject⟩ := exists_moved
    (R := List.Forall₂ (NamedTwin moved (memory.bounds outer)))
    [] .still memory.objects fun id attributes found => by
      have all := whole.objects id
      unfold objectAt at all
      rw [found] at all
      exact exists_forall₂ (exists_twin_named moved) all
  obtain ⟨context, sameContext⟩ := exists_twin_context moved whole.context
  have ⟨outlook, sameOutlook⟩ := Classical.skolem.mp fun kind =>
    Classical.skolem.mp fun id => exists_twin_outlook moved (whole.outlook kind id)
  refine ⟨{ memory with
    lists, maps, nodes, refs, objects, context, outlook
    liveLists := memory.liveLists.map fun live =>
      { live with raw := moved.lists.move live.raw }
    liveMaps := memory.liveMaps.map fun live =>
      { live with raw := moved.maps.move live.raw } }, ?_⟩
  constructor
  case lists => exact fun there => getD_moved eachList there
  case maps => exact fun there => getD_moved eachMap there
  case nodes => exact fun there => getD_moved eachNode there
  case refs => exact rel_unmoved refsSize eachRef
  case objects =>
    intro id
    have both := rel_unmoved objectsSize eachObject id
    unfold objectAt
    generalize memory.objects[id]? = object at both
    dsimp only at both ⊢
    generalize objects[id]? = twin at both
    cases both with
    | none => exact .nil
    | some same => exact same
  case rawLists =>
    intro id there
    refine ⟨whole.rawList there, ?_⟩
    unfold Memory.rawList liveListAt
    rw [Array.getElem?_map]
    obtain ⟨live, found⟩ : ∃ live, memory.liveLists[id]? = some live :=
      ⟨_, Array.getElem?_eq_getElem there⟩
    rw [found]
    rfl
  case rawMaps =>
    intro id there
    refine ⟨whole.rawMap there, ?_⟩
    unfold Memory.rawMap liveMapAt
    rw [Array.getElem?_map]
    obtain ⟨live, found⟩ : ∃ live, memory.liveMaps[id]? = some live :=
      ⟨_, Array.getElem?_eq_getElem there⟩
    rw [found]
    rfl
  case context => exact sameContext
  case colors => rfl
  case recursionLimit => rfl
  case outlook => exact sameOutlook

end Memory

end ReactiveSchema
