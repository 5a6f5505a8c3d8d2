import ReactiveSchema.Proofs.Memory.Whole
import ReactiveSchema.Proofs.Observe.Steady

/-!
# Looking twice

A look is taken a second time, after the first one has added to memory what it
had to add.  The second look runs in tandem with the first: at every step it
finds twins of what the first one found, made at other places, and the very
live faces that the first one has left.  So it comes to a twin of the result.
-/

namespace ReactiveSchema

variable {α β γ δ : Type} {extent small large outer : Extent} {moved : Relocation}
  {memory other before middle after : Memory}

/-! ## Faults -/

mutual

/-- Faults that differ in the places of the values they list, if at all. -/
inductive FaultTwin (moved : Relocation) (extent : Extent) : Fault → Fault → Prop
  | syntaxError (message : String) (source : Option String) (column : Option Int)
      (code : ErrorCode) (text : String) :
      FaultTwin moved extent (.syntaxError message source column code text)
        (.syntaxError message source column code text)
  | evaluation (source : String) {values others : List (String × Except Fault Value)}
      (cause text : String) : FindingTwins moved extent values others →
      FaultTwin moved extent (.evaluation source values cause text)
        (.evaluation source others cause text)
  | unbalanced (depth expected : Int) :
      FaultTwin moved extent (.unbalanced depth expected) (.unbalanced depth expected)
  | failure (cause : Cause) : FaultTwin moved extent (.failure cause) (.failure cause)
  | exhausted : FaultTwin moved extent .exhausted .exhausted

/-- What tokens gave, be it twin values or twin faults. -/
inductive FindingTwins (moved : Relocation) (extent : Extent) :
    List (String × Except Fault Value) → List (String × Except Fault Value) → Prop
  | nil : FindingTwins moved extent [] []
  | value (token : String) {a b : Value} {rest others : List (String × Except Fault Value)} :
      Twin moved extent a b → FindingTwins moved extent rest others →
      FindingTwins moved extent ((token, .ok a) :: rest) ((token, .ok b) :: others)
  | fault (token : String) {f g : Fault} {rest others : List (String × Except Fault Value)} :
      FaultTwin moved extent f g → FindingTwins moved extent rest others →
      FindingTwins moved extent ((token, .error f) :: rest) ((token, .error g) :: others)

end

namespace FaultTwin

mutual

theorem mono (fits : small.Fits large) : ∀ {f g : Fault}, FaultTwin moved small f g →
    FaultTwin moved large f g
  | .syntaxError .., _, .syntaxError message source column code text =>
      .syntaxError message source column code text
  | .evaluation .., _, .evaluation source cause text same =>
      .evaluation source cause text (monoAll fits same)
  | .unbalanced .., _, .unbalanced depth expected => .unbalanced depth expected
  | .failure _, _, .failure cause => .failure cause
  | .exhausted, _, .exhausted => .exhausted

theorem monoAll (fits : small.Fits large) : ∀ {xs ys : List (String × Except Fault Value)},
    FindingTwins moved small xs ys → FindingTwins moved large xs ys
  | [], _, .nil => .nil
  | (_, .ok _) :: _, _, .value token same rest =>
      .value token (same.mono fits) (monoAll fits rest)
  | (_, .error _) :: _, _, .fault token same rest =>
      .fault token (mono fits same) (monoAll fits rest)

end

mutual

theorem exists_twin (moved : Relocation) {place : Relocation} : ∀ {f g : Fault},
    FaultTwin place extent f g → ∃ h, FaultTwin moved extent f h
  | .syntaxError .., _, .syntaxError message source column code text =>
      ⟨_, .syntaxError message source column code text⟩
  | .evaluation .., _, .evaluation source cause text same =>
      have ⟨_, twins⟩ := exists_twins moved same
      ⟨_, .evaluation source cause text twins⟩
  | .unbalanced .., _, .unbalanced depth expected => ⟨_, .unbalanced depth expected⟩
  | .failure _, _, .failure cause => ⟨_, .failure cause⟩
  | .exhausted, _, .exhausted => ⟨_, .exhausted⟩

theorem exists_twins (moved : Relocation) {place : Relocation} :
    ∀ {xs ys : List (String × Except Fault Value)}, FindingTwins place extent xs ys →
      ∃ zs, FindingTwins moved extent xs zs
  | [], _, .nil => ⟨_, .nil⟩
  | (_, .ok _) :: _, _, .value token same rest =>
      have ⟨_, twin⟩ := Twin.exists_twin moved same
      have ⟨_, twins⟩ := exists_twins moved rest
      ⟨_, .value token twin twins⟩
  | (_, .error _) :: _, _, .fault token same rest =>
      have ⟨_, twin⟩ := exists_twin moved same
      have ⟨_, twins⟩ := exists_twins moved rest
      ⟨_, .fault token twin twins⟩

end

variable {f g : Fault} (same : FaultTwin moved extent f g)
include same

theorem name : f.name = g.name := by
  cases same <;> rfl

theorem code? : f.code? = g.code? := by
  cases same <;> rfl

theorem text : f.text = g.text := by
  cases same <;> rfl

theorem isSchemaFault : f.isSchemaFault = g.isSchemaFault :=
  congrArg Option.isSome same.code?

theorem isCatchable : f.isCatchable = g.isCatchable := by
  cases same <;> rfl

theorem isKind (kind : FailureKind) : f.isKind kind = g.isKind kind := by
  cases same <;> rfl

end FaultTwin

/-- Related results, or twin faults. -/
inductive ResultTwin (moved : Relocation) (extent : Extent) (R : Extent → α → β → Prop) :
    Except Fault α → Except Fault β → Prop
  | ok {a : α} {b : β} : R extent a b → ResultTwin moved extent R (.ok a) (.ok b)
  | error {f g : Fault} : FaultTwin moved extent f g →
      ResultTwin moved extent R (.error f) (.error g)

theorem ResultTwin.imp {R S : Extent → α → β → Prop} {result : Except Fault α}
    {twin : Except Fault β} (weaker : ∀ large a b, R large a b → S large a b)
    (same : ResultTwin moved extent R result twin) : ResultTwin moved extent S result twin := by
  cases same with
  | ok related => exact .ok (weaker _ _ _ related)
  | error same => exact .error same

/-- The same results on both sides. -/
abbrev Same : Extent → α → α → Prop :=
  fun _ => Eq

/-- What is related stays so when more places come. -/
def Lasting (R : Extent → α → β → Prop) : Prop :=
  ∀ ⦃small large : Extent⦄ ⦃a : α⦄ ⦃b : β⦄, small.Fits large → R small a b → R large a b

theorem ResultTwin.mono {R : Extent → α → β → Prop} {result : Except Fault α}
    {twin : Except Fault β} (lasting : Lasting R) (fits : small.Fits large)
    (same : ResultTwin moved small R result twin) : ResultTwin moved large R result twin := by
  cases same with
  | ok related => exact .ok (lasting fits related)
  | error same => exact .error (same.mono fits)

theorem lasting_same : Lasting (Same (α := α)) :=
  fun _ _ _ _ _ same => same

theorem lasting_twin : Lasting (Twin moved) :=
  fun _ _ _ _ fits same => same.mono fits

theorem lasting_pair : Lasting (PairTwin moved) :=
  fun _ _ _ _ fits pair => ⟨pair.1.mono fits, pair.2.mono fits⟩

theorem Lasting.all {R : Extent → α → β → Prop} (lasting : Lasting R) :
    Lasting fun large => List.Forall₂ (R large) :=
  fun _ _ _ _ fits all => all.imp fun _ _ same => lasting fits same

/-! ## Memory on the way -/

namespace Memory

@[simp] theorem bounds_bounds (outer : Extent) :
    after.bounds (before.bounds outer) = after.bounds outer := rfl

/-- Places may have been added to memory, and nothing has been written. -/
structure Unwritten (before after : Memory) : Prop where
  grows : before.Grows after
  serials : before.serialCount ≤ after.serialCount
  refs : after.refs = before.refs
  objects : after.objects = before.objects
  colors : after.colors = before.colors
  recursionLimit : after.recursionLimit = before.recursionLimit

theorem Unwritten.refl (memory : Memory) : memory.Unwritten memory :=
  ⟨.refl memory, Nat.le_refl _, rfl, rfl, rfl, rfl⟩

theorem Unwritten.trans (first : before.Unwritten middle) (second : middle.Unwritten after) :
    before.Unwritten after where
  grows := first.grows.trans second.grows
  serials := Nat.le_trans first.serials second.serials
  refs := second.refs.trans first.refs
  objects := second.objects.trans first.objects
  colors := second.colors.trans first.colors
  recursionLimit := second.recursionLimit.trans first.recursionLimit

/-- Whole memory has become whole memory, and nothing that was there has gone. -/
structure Lasts (extent : Extent) (before after : Memory) : Prop
    extends before.Unwritten after where
  whole : after.Whole (after.bounds extent)
  outlook : after.outlook = before.outlook

theorem Lasts.refl (whole : memory.Whole (memory.bounds extent)) : memory.Lasts extent memory :=
  ⟨.refl memory, whole, rfl⟩

theorem Lasts.trans (first : before.Lasts extent middle) (second : middle.Lasts extent after) :
    before.Lasts extent after :=
  ⟨first.toUnwritten.trans second.toUnwritten, second.whole, second.outlook.trans first.outlook⟩

theorem Lasts.of_bounds (lasts : before.Lasts (memory.bounds extent) after) :
    before.Lasts extent after :=
  ⟨lasts.toUnwritten, lasts.whole, lasts.outlook⟩

theorem Grows.liveListsSize (grows : before.Grows after) :
    before.liveLists.size ≤ after.liveLists.size := by
  refine Nat.le_of_not_lt fun shorter => ?_
  obtain ⟨_, found, -⟩ := grows.liveLists (Array.getElem?_eq_getElem shorter)
  rw [Array.getElem?_eq_none (Nat.le_refl _)] at found
  cases found

theorem Grows.fits (grows : before.Grows after)
    (serials : before.serialCount ≤ after.serialCount) (extent : Extent) :
    (before.bounds extent).Fits (after.bounds extent) where
  lists := grows.lists.size_le
  maps := grows.maps.size_le
  liveLists := grows.liveListsSize
  liveMaps := grows.liveMapsSize
  nodes := grows.nodes.size_le
  serials := serials
  views := Nat.le_refl _
  environments := Nat.le_refl _
  compilers := Nat.le_refl _

theorem Lasts.fits (lasts : before.Lasts extent after) :
    (before.bounds extent).Fits (after.bounds extent) :=
  lasts.grows.fits lasts.serials extent

/-- Whole memory in which all places of an extent are there. -/
structure Ready (extent : Extent) (memory : Memory) : Prop where
  whole : memory.Whole (memory.bounds extent)
  fits : extent.Fits (memory.bounds extent)

theorem Ready.lasts (ready : before.Ready extent) (lasts : before.Lasts extent after) :
    after.Ready extent :=
  ⟨lasts.whole, ready.fits.trans lasts.fits⟩

theorem Lasts.ready (lasts : before.Lasts extent after) :
    after.Ready (after.bounds extent) :=
  ⟨lasts.whole, .refl _⟩

end Memory

namespace Memory

/-- Nothing but what is noted and tracked has changed. -/
structure SameSight (before after : Memory) : Prop where
  lists : after.lists = before.lists
  maps : after.maps = before.maps
  liveLists : after.liveLists = before.liveLists
  liveMapsSize : after.liveMaps.size = before.liveMaps.size
  liveMaps (id : LiveMapId) :
    after.liveMaps[id]?.map (fun live => (live.raw, live.children)) =
      before.liveMaps[id]?.map fun live => (live.raw, live.children)
  refs : after.refs = before.refs
  nodes : after.nodes = before.nodes
  objects : after.objects = before.objects
  serialCount : after.serialCount = before.serialCount
  context : after.context = before.context
  colors : after.colors = before.colors
  recursionLimit : after.recursionLimit = before.recursionLimit
  outlook : after.outlook = before.outlook

namespace SameSight

variable (same : before.SameSight after)
include same

theorem bounds (extent : Extent) : after.bounds extent = before.bounds extent := by
  unfold Memory.bounds
  rw [same.lists, same.maps, same.liveLists, same.liveMapsSize, same.nodes, same.serialCount]

theorem rawList (id : LiveListId) : after.rawList id = before.rawList id := by
  unfold Memory.rawList liveListAt
  rw [same.liveLists]

theorem rawMap (id : LiveMapId) : after.rawMap id = before.rawMap id := by
  have both := congrArg (Option.map Prod.fst) (same.liveMaps id)
  rw [Option.map_map, Option.map_map] at both
  have raws := congrArg (·.getD 0) both
  unfold Memory.rawMap liveMapAt
  cases found : after.liveMaps[id]? <;> cases known : before.liveMaps[id]? <;>
    rw [found, known] at raws <;> exact raws

theorem liveMap {id : LiveMapId} {live : LiveMap} (found : after.liveMaps[id]? = some live) :
    ∃ old, before.liveMaps[id]? = some old ∧ old.raw = live.raw ∧
      old.children = live.children := by
  have both := same.liveMaps id
  rw [found] at both
  obtain ⟨old, known, parts⟩ := Option.map_eq_some_iff.mp both.symm
  exact ⟨old, known, congrArg Prod.fst parts, congrArg Prod.snd parts⟩

theorem whole (held : before.Whole extent) : after.Whole extent := by
  constructor
  case lists => exact fun id => by unfold listAt; rw [same.lists]; exact held.lists id
  case maps => exact fun id => by unfold mapAt; rw [same.maps]; exact held.maps id
  case nodes => exact fun id => by unfold nodeAt; rw [same.nodes]; exact held.nodes id
  case refs => exact fun found => held.refs (same.refs ▸ found)
  case objects => exact fun id => by unfold objectAt; rw [same.objects]; exact held.objects id
  case liveLists => exact fun found => held.liveLists (same.liveLists ▸ found)
  case liveMaps =>
    intro id live found
    obtain ⟨old, known, raw, children⟩ := same.liveMap found
    rw [← raw, ← children]
    exact held.liveMaps known
  case context => rw [same.context]; exact held.context
  case outlook => rw [same.outlook]; exact held.outlook

theorem mirrors {other later : Memory} (same' : other.SameSight later)
    (mirrors : before.Mirrors moved extent other) : after.Mirrors moved extent later := by
  constructor
  case lists => intro id there; unfold listAt; rw [same.lists, same'.lists]; exact mirrors.lists there
  case maps => intro id there; unfold mapAt; rw [same.maps, same'.maps]; exact mirrors.maps there
  case nodes => intro id there; unfold nodeAt; rw [same.nodes, same'.nodes]; exact mirrors.nodes there
  case refs => rw [same.refs, same'.refs]; exact mirrors.refs
  case objects =>
    intro id
    unfold objectAt
    rw [same.objects, same'.objects]
    exact mirrors.objects id
  case rawLists => intro id there; rw [same.rawList, same'.rawList]; exact mirrors.rawLists there
  case rawMaps => intro id there; rw [same.rawMap, same'.rawMap]; exact mirrors.rawMaps there
  case context => rw [same.context, same'.context]; exact mirrors.context
  case colors => rw [same.colors, same'.colors]; exact mirrors.colors
  case recursionLimit => rw [same.recursionLimit, same'.recursionLimit]; exact mirrors.recursionLimit
  case outlook => rw [same.outlook, same'.outlook]; exact mirrors.outlook

theorem lasts (grows : before.Grows after) (held : before.Whole (before.bounds extent)) :
    before.Lasts extent after where
  grows := grows
  serials := Nat.le_of_eq same.serialCount.symm
  refs := same.refs
  objects := same.objects
  colors := same.colors
  recursionLimit := same.recursionLimit
  whole := by
    rw [same.bounds]
    exact same.whole held
  outlook := same.outlook

end SameSight

/-- Nothing but lists, maps, nodes and serial numbers has been added. -/
structure SameRest (before after : Memory) : Prop where
  liveLists : after.liveLists = before.liveLists
  liveMaps : after.liveMaps = before.liveMaps
  refs : after.refs = before.refs
  objects : after.objects = before.objects
  context : after.context = before.context
  colors : after.colors = before.colors
  recursionLimit : after.recursionLimit = before.recursionLimit
  outlook : after.outlook = before.outlook

namespace SameRest

variable (same : before.SameRest after)
include same

theorem rawList (id : LiveListId) : after.rawList id = before.rawList id := by
  unfold Memory.rawList liveListAt
  rw [same.liveLists]

theorem rawMap (id : LiveMapId) : after.rawMap id = before.rawMap id := by
  unfold Memory.rawMap liveMapAt
  rw [same.liveMaps]

/-- With more lists, maps and nodes that are twins, memory still reads the same. -/
theorem mirrors {other later : Memory} (same' : other.SameRest later) (fits : small.Fits large)
    (mirrors : before.Mirrors moved small other)
    (liveLists : large.liveLists = small.liveLists) (liveMaps : large.liveMaps = small.liveMaps)
    (lists : ∀ id < large.lists, id < small.lists ∧ after.listAt id = before.listAt id ∧
        later.listAt (moved.lists.move id) = other.listAt (moved.lists.move id) ∨
      Twins moved large (after.listAt id) (later.listAt (moved.lists.move id)))
    (maps : ∀ id < large.maps, id < small.maps ∧ after.mapAt id = before.mapAt id ∧
        later.mapAt (moved.maps.move id) = other.mapAt (moved.maps.move id) ∨
      EntryTwins moved large (after.mapAt id) (later.mapAt (moved.maps.move id)))
    (nodes : ∀ id < large.nodes, id < small.nodes ∧ after.nodeAt id = before.nodeAt id ∧
        later.nodeAt (moved.nodes.move id) = other.nodeAt (moved.nodes.move id) ∨
      NodeTwin moved large (after.nodeAt id) (later.nodeAt (moved.nodes.move id))) :
    after.Mirrors moved large later := by
  constructor
  case lists =>
    intro id there
    obtain ⟨early, known, known'⟩ | new := lists id there
    · rw [known, known']
      exact Twin.monoAll fits (mirrors.lists early)
    · exact new
  case maps =>
    intro id there
    obtain ⟨early, known, known'⟩ | new := maps id there
    · rw [known, known']
      exact (mirrors.maps early).mono fits
    · exact new
  case nodes =>
    intro id there
    obtain ⟨early, known, known'⟩ | new := nodes id there
    · rw [known, known']
      exact (mirrors.nodes early).mono fits
    · exact new
  case refs =>
    intro id
    rw [same.refs, same'.refs]
    exact rel_imp (fun _ _ same => same.mono fits) (mirrors.refs id)
  case objects =>
    intro id
    unfold objectAt
    rw [same.objects, same'.objects]
    exact (mirrors.objects id).imp fun _ _ same => same.mono fits
  case rawLists =>
    intro id there
    obtain ⟨raw, moves⟩ := mirrors.rawLists (liveLists ▸ there)
    rw [same.rawList, same'.rawList]
    exact ⟨Nat.lt_of_lt_of_le raw fits.lists, moves⟩
  case rawMaps =>
    intro id there
    obtain ⟨raw, moves⟩ := mirrors.rawMaps (liveMaps ▸ there)
    rw [same.rawMap, same'.rawMap]
    exact ⟨Nat.lt_of_lt_of_le raw fits.maps, moves⟩
  case context =>
    rw [same.context, same'.context]
    exact context_mono fits mirrors.context
  case colors => rw [same.colors, same'.colors]; exact mirrors.colors
  case recursionLimit => rw [same.recursionLimit, same'.recursionLimit]; exact mirrors.recursionLimit
  case outlook =>
    intro kind id
    rw [same.outlook, same'.outlook]
    exact (mirrors.outlook kind id).mono fits

end SameRest

/-- With more that is whole, whole memory stays whole. -/
theorem Whole.adding (held : before.Whole small) (fits : small.Fits large)
    (same : before.SameRest after)
    (lists : ∀ id, after.listAt id = before.listAt id ∨
      Twins .still large (after.listAt id) (after.listAt id))
    (maps : ∀ id, after.mapAt id = before.mapAt id ∨
      EntryTwins .still large (after.mapAt id) (after.mapAt id))
    (nodes : ∀ id, after.nodeAt id = before.nodeAt id ∨
      NodeTwin .still large (after.nodeAt id) (after.nodeAt id)) : after.Whole large := by
  have held := held.mono fits
  constructor
  case lists => exact fun id => (lists id).elim (fun known => known ▸ held.lists id) fun new => new
  case maps => exact fun id => (maps id).elim (fun known => known ▸ held.maps id) fun new => new
  case nodes => exact fun id => (nodes id).elim (fun known => known ▸ held.nodes id) fun new => new
  case refs => exact fun found => held.refs (same.refs ▸ found)
  case objects =>
    intro id
    unfold objectAt
    rw [same.objects]
    exact held.objects id
  case liveLists => exact fun found => held.liveLists (same.liveLists ▸ found)
  case liveMaps => exact fun found => held.liveMaps (same.liveMaps ▸ found)
  case context => rw [same.context]; exact held.context
  case outlook => rw [same.outlook]; exact held.outlook

theorem getD_push {α : Type} (items : Array α) (added fallback : α) (id : Nat) :
    (items.push added)[id]?.getD fallback =
      if id = items.size then added else items[id]?.getD fallback := by
  rw [Array.getElem?_push]
  split <;> rfl

/-- One thing more: what is looked up has not changed, or it is the new thing. -/
theorem getD_push_cases {α : Type} {P : α → Prop} (items : Array α) {added : α} (fallback : α)
    (new : P added) (id : Nat) :
    (items.push added)[id]?.getD fallback = items[id]?.getD fallback ∨
      P ((items.push added)[id]?.getD fallback) := by
  rw [getD_push]
  split
  · exact .inr new
  · exact .inl rfl

/-- One thing more on both sides, each at the end. -/
theorem getD_push_both {α : Type} {R : α → α → Prop} {shift : Shift} {items others : Array α}
    {added twin : α} (fallback : α) (size : shift.move items.size = others.size)
    (new : R added twin) (id : Nat) (there : id < (items.push added).size) :
    id < items.size ∧ (items.push added)[id]?.getD fallback = items[id]?.getD fallback ∧
        (others.push twin)[shift.move id]?.getD fallback =
          others[shift.move id]?.getD fallback ∨
      R ((items.push added)[id]?.getD fallback) ((others.push twin)[shift.move id]?.getD fallback) := by
  rw [getD_push, getD_push, ← size]
  rw [Array.size_push] at there
  by_cases last : id = items.size
  · rw [if_pos last, if_pos (congrArg _ last)]
    exact .inr new
  · have before : id < items.size := by omega
    rw [if_neg last, if_neg (Nat.ne_of_lt (Shift.move_lt_move before))]
    exact .inl ⟨before, rfl, rfl⟩

theorem move_size_push {α : Type} {shift : Shift} {items others : Array α} {added twin : α}
    (late : shift.first ≤ items.size) (size : shift.move items.size = others.size) :
    shift.move (items.push added).size = (others.push twin).size := by
  rw [Array.size_push, Array.size_push, Shift.move_succ late, size]

theorem sameSight_refl (memory : Memory) : memory.SameSight memory :=
  ⟨rfl, rfl, rfl, rfl, fun _ => rfl, rfl, rfl, rfl, rfl, rfl, rfl, rfl, rfl⟩

theorem sameSight_keyed (memory : Memory) (id : LiveMapId) (key : Value) :
    memory.SameSight (memory.keyed id key).2 := by
  unfold keyed
  split
  · exact sameSight_refl memory
  · refine ⟨rfl, rfl, rfl, Array.size_modify, fun other => ?_, rfl, rfl, rfl, rfl, rfl, rfl, rfl,
      rfl⟩
    unfold withKeyDep
    rw [Array.getElem?_modify]
    split
    · rw [Option.map_map]
      rfl
    · rfl

end Memory

/-- A first look, by the memory that it starts from and the one it ends in. -/
structure FirstLook where
  start : Memory
  last : Memory

namespace FirstLook

/-- Where a second look makes what the first one has made. -/
def moves (first : FirstLook) : Relocation where
  lists := ⟨first.start.lists.size, first.last.lists.size - first.start.lists.size⟩
  maps := ⟨first.start.maps.size, first.last.maps.size - first.start.maps.size⟩
  nodes := ⟨first.start.nodes.size, first.last.nodes.size - first.start.nodes.size⟩
  serials := ⟨first.start.serialCount, first.last.serialCount - first.start.serialCount⟩

/-- Memory at some point of the first look, and at the same point of a second one. -/
structure Pairs (first : FirstLook) (extent : Extent) (memory other : Memory) : Prop
    extends memory.Mirrors first.moves extent other where
  began : first.start.Whole (first.start.bounds extent)
  grows : first.start.Grows memory
  serials : first.start.serialCount ≤ memory.serialCount
  listsSize : first.moves.lists.move memory.lists.size = other.lists.size
  mapsSize : first.moves.maps.move memory.maps.size = other.maps.size
  nodesSize : first.moves.nodes.move memory.nodes.size = other.nodes.size
  serialsSize : first.moves.serials.move memory.serialCount = other.serialCount
  /-- The second look makes no live faces. -/
  liveLists : other.liveLists = first.last.liveLists
  liveMaps (id : LiveMapId) :
    other.liveMaps[id]?.map (fun live => (live.raw, live.children)) =
      first.last.liveMaps[id]?.map fun live => (live.raw, live.children)
  /-- Live faces show what was there from the start. -/
  oldLists {id : LiveListId} {live : LiveList} : memory.liveLists[id]? = some live →
    live.raw < first.start.lists.size
  oldMaps {id : LiveMapId} {live : LiveMap} : memory.liveMaps[id]? = some live →
    live.raw < first.start.maps.size

/-- Memory that has been added to on both sides. -/
theorem Pairs.adding {first : FirstLook} {other later : Memory}
    (paired : first.Pairs (before.bounds extent) before other)
    (lasts : before.Lasts extent after) (rest : before.SameRest after)
    (rest' : other.SameRest later)
    (lists : ∀ id < after.lists.size, id < before.lists.size ∧
      after.listAt id = before.listAt id ∧
        later.listAt (first.moves.lists.move id) = other.listAt (first.moves.lists.move id) ∨
      Twins first.moves (after.bounds extent) (after.listAt id)
        (later.listAt (first.moves.lists.move id)))
    (maps : ∀ id < after.maps.size, id < before.maps.size ∧
      after.mapAt id = before.mapAt id ∧
        later.mapAt (first.moves.maps.move id) = other.mapAt (first.moves.maps.move id) ∨
      EntryTwins first.moves (after.bounds extent) (after.mapAt id)
        (later.mapAt (first.moves.maps.move id)))
    (nodes : ∀ id < after.nodes.size, id < before.nodes.size ∧
      after.nodeAt id = before.nodeAt id ∧
        later.nodeAt (first.moves.nodes.move id) = other.nodeAt (first.moves.nodes.move id) ∨
      NodeTwin first.moves (after.bounds extent) (after.nodeAt id)
        (later.nodeAt (first.moves.nodes.move id)))
    (listsSize : first.moves.lists.move after.lists.size = later.lists.size)
    (mapsSize : first.moves.maps.move after.maps.size = later.maps.size)
    (nodesSize : first.moves.nodes.move after.nodes.size = later.nodes.size)
    (serialsSize : first.moves.serials.move after.serialCount = later.serialCount) :
    first.Pairs (after.bounds extent) after later := by
  constructor
  case toMirrors =>
    exact rest.mirrors rest' lasts.fits paired.toMirrors (congrArg Array.size rest.liveLists)
      (congrArg Array.size rest.liveMaps) lists maps nodes
  case began => exact paired.began
  case grows => exact paired.grows.trans lasts.grows
  case serials => exact Nat.le_trans paired.serials lasts.serials
  case listsSize => exact listsSize
  case mapsSize => exact mapsSize
  case nodesSize => exact nodesSize
  case serialsSize => exact serialsSize
  case liveLists => exact rest'.liveLists.trans paired.liveLists
  case liveMaps => intro id; rw [rest'.liveMaps]; exact paired.liveMaps id
  case oldLists => exact fun found => paired.oldLists (rest.liveLists ▸ found)
  case oldMaps => exact fun found => paired.oldMaps (rest.liveMaps ▸ found)

theorem Pairs.sameSight {first : FirstLook} {other later : Memory}
    (paired : first.Pairs extent before other) (same : before.SameSight after)
    (same' : other.SameSight later) (grows : before.Grows after) :
    first.Pairs extent after later where
  toMirrors := same.mirrors same' paired.toMirrors
  began := paired.began
  grows := paired.grows.trans grows
  serials := same.serialCount ▸ paired.serials
  listsSize := by rw [same.lists, same'.lists]; exact paired.listsSize
  mapsSize := by rw [same.maps, same'.maps]; exact paired.mapsSize
  nodesSize := by rw [same.nodes, same'.nodes]; exact paired.nodesSize
  serialsSize := by rw [same.serialCount, same'.serialCount]; exact paired.serialsSize
  liveLists := same'.liveLists.trans paired.liveLists
  liveMaps id := (same'.liveMaps id).trans (paired.liveMaps id)
  oldLists found := paired.oldLists (same.liveLists ▸ found)
  oldMaps found := by
    obtain ⟨old, known, raw, -⟩ := same.liveMap found
    exact raw ▸ paired.oldMaps known

theorem spares (first : FirstLook) (outer : Extent) :
    first.moves.Spares (first.start.bounds outer) where
  lists early := Shift.move_of_lt early
  maps early := Shift.move_of_lt early
  nodes early := Shift.move_of_lt early
  serials early := Shift.move_of_lt early

end FirstLook

/-! ## Looks in tandem -/

/--
A look keeps memory whole and comes to something that has a counterpart; where it is part of a
first look, its twin in a second one comes to such a counterpart.
-/
structure Tandem (first : FirstLook) (extent : Extent) (R : Extent → α → β → Prop)
    (look : Observe α) (twin : Observe β) : Prop where
  lasts {memory : Memory} : memory.Ready extent → memory.Lasts extent (look.run memory).2
  result {memory : Memory} : memory.Ready extent → ∃ result,
    ResultTwin first.moves ((look.run memory).2.bounds extent) R (look.run memory).1 result
  pairs {memory other : Memory} : memory.Ready extent →
    first.Pairs (memory.bounds extent) memory other → (look.run memory).2.Grows first.last →
    first.Pairs ((look.run memory).2.bounds extent) (look.run memory).2 (twin.run other).2 ∧
      ResultTwin first.moves ((look.run memory).2.bounds extent) R (look.run memory).1
        (twin.run other).1

namespace Tandem

variable {first : FirstLook} {R S : Extent → α → β → Prop} {T : Extent → γ → δ → Prop}
  {look : Observe α} {twin : Observe β}

/-- What changes nothing that is seen goes by what can be read. -/
theorem of_unseen (same : ∀ memory : Memory, memory.SameSight (look.run memory).2)
    (same' : ∀ memory : Memory, memory.SameSight (twin.run memory).2)
    (grows : Along Memory.Grows look)
    (each : ∀ large memory other, extent.Fits large → memory.Mirrors first.moves large other →
      ResultTwin first.moves large R (look.run memory).1 (twin.run other).1) :
    Tandem first extent R look twin where
  lasts {memory} ready := (same memory).lasts (grows memory) ready.whole
  result {memory} ready := by
    obtain ⟨other, mirrors⟩ := ready.whole.exists_mirrors first.moves
    rw [(same memory).bounds]
    exact ⟨_, each _ memory other ready.fits mirrors⟩
  pairs {memory other} ready paired _ := by
    rw [(same memory).bounds]
    exact ⟨paired.sameSight (same memory) (same' other) (grows memory),
      each _ memory other ready.fits paired.toMirrors⟩

/-- What leaves memory as it is goes by what can be read. -/
theorem of_steady (steady : ∀ memory, (look.run memory).2 = memory)
    (steady' : ∀ memory, (twin.run memory).2 = memory)
    (each : ∀ large memory other, extent.Fits large → memory.Mirrors first.moves large other →
      ResultTwin first.moves large R (look.run memory).1 (twin.run other).1) :
    Tandem first extent R look twin :=
  of_unseen (fun memory => (steady memory).symm ▸ Memory.sameSight_refl memory)
    (fun memory => (steady' memory).symm ▸ Memory.sameSight_refl memory)
    (fun memory => (steady memory).symm ▸ .refl memory) each

theorem pure {a : α} {b : β} (related : ∀ large, extent.Fits large → R large a b) :
    Tandem first extent R (Pure.pure a) (Pure.pure b) :=
  of_steady (fun _ => rfl) (fun _ => rfl) fun large _ _ fits _ => .ok (related large fits)

theorem throw {f g : Fault} (same : FaultTwin first.moves extent f g) :
    Tandem first extent R (MonadExcept.throw f) (MonadExcept.throw g) :=
  of_steady (fun _ => rfl) (fun _ => rfl) fun _ _ _ fits _ => .error (same.mono fits)

theorem fail (cause : Cause) :
    Tandem first extent R (Observe.fail cause) (Observe.fail cause) :=
  throw (.failure cause)

/-- What can be read of memory is what can be read of its counterpart. -/
theorem get : Tandem first extent
    (fun large memory other => memory.Mirrors first.moves large other)
    MonadState.get MonadState.get :=
  of_steady (fun _ => rfl) (fun _ => rfl) fun _ _ _ _ mirrors => .ok mirrors

/-- What comes out alike comes out alike in any weaker way. -/
theorem imp (tandem : Tandem first extent R look twin)
    (weaker : ∀ large a b, R large a b → S large a b) : Tandem first extent S look twin where
  lasts := tandem.lasts
  result ready :=
    have ⟨_, same⟩ := tandem.result ready
    ⟨_, same.imp weaker⟩
  pairs ready paired ends :=
    have ⟨later, same⟩ := tandem.pairs ready paired ends
    ⟨later, same.imp weaker⟩

theorem bind {next : α → Observe γ} {next' : β → Observe δ}
    (start : Tandem first extent R look twin)
    (rest : ∀ large a b, extent.Fits large → R large a b →
      Tandem first large T (next a) (next' b)) :
    Tandem first extent T (look >>= next) (twin >>= next') := by
  constructor
  case lasts =>
    intro memory ready
    have begun := start.lasts ready
    obtain ⟨_, same⟩ := start.result ready
    rw [run_bind]
    rcases ran : look.run memory with ⟨fault | value, middle⟩ <;> rw [ran] at begun same
    · exact begun
    · cases same with
      | ok related =>
          have later := rest _ value _ (ready.fits.trans begun.fits) related
          exact begun.trans (later.lasts begun.ready).of_bounds
  case result =>
    intro memory ready
    have begun := start.lasts ready
    obtain ⟨_, same⟩ := start.result ready
    rw [run_bind]
    rcases ran : look.run memory with ⟨fault | value, middle⟩ <;> rw [ran] at begun same
    · cases same with
      | error same => exact ⟨_, .error same⟩
    · cases same with
      | ok related =>
          have later := rest _ value _ (ready.fits.trans begun.fits) related
          exact later.result begun.ready
  case pairs =>
    intro memory other ready paired ends
    have begun := start.lasts ready
    obtain ⟨_, same⟩ := start.result ready
    have both := start.pairs ready paired
    rw [run_bind] at ends ⊢
    rw [run_bind]
    rcases ran : look.run memory with ⟨fault | value, middle⟩ <;>
      rw [ran] at begun same both ends
    · obtain ⟨paired, twins⟩ := both ends
      rcases ran' : twin.run other with ⟨fault' | value', middle'⟩ <;> rw [ran'] at paired twins <;>
        cases twins
      case error same => exact ⟨paired, .error same⟩
    · -- What is left to do leads on to the end, so the end is ahead of the middle as well.
      have ahead : middle.Grows first.last := by
        cases same with
        | ok related =>
            have later := rest _ value _ (ready.fits.trans begun.fits) related
            exact (later.lasts begun.ready).grows.trans ends
      obtain ⟨paired, twins⟩ := both ahead
      rcases ran' : twin.run other with ⟨fault' | value', middle'⟩ <;> rw [ran'] at paired twins <;>
        cases twins
      case ok related =>
        have later := rest _ value _ (ready.fits.trans begun.fits) related
        exact later.pairs begun.ready paired ends

/-- Two ways on to the same rest. -/
theorem branch {test : Prop} [Decidable test] {body otherwise : Observe α}
    {body' otherwise' : Observe β} {next : α → Observe γ} {next' : β → Observe δ}
    (yes : Tandem first extent R body body') (no : Tandem first extent R otherwise otherwise')
    (rest : ∀ large a b, extent.Fits large → R large a b →
      Tandem first large T (next a) (next' b)) :
    Tandem first extent T (if test then body >>= next else otherwise >>= next)
      (if test then body' >>= next' else otherwise' >>= next') := by
  split
  · exact bind yes rest
  · exact bind no rest

theorem bind_same {look twin : Observe α} {next : α → Observe γ} {next' : α → Observe δ}
    (start : Tandem first extent Same look twin)
    (rest : ∀ large a, extent.Fits large → Tandem first large T (next a) (next' a)) :
    Tandem first extent T (look >>= next) (twin >>= next') := by
  refine bind start fun large a b fits same => ?_
  cases same
  exact rest large a fits

theorem tryCatch {handle : Fault → Observe α} {handle' : Fault → Observe β}
    (start : Tandem first extent R look twin)
    (rest : ∀ large f g, extent.Fits large → FaultTwin first.moves large f g →
      Tandem first large R (handle f) (handle' g)) :
    Tandem first extent R (MonadExcept.tryCatch look handle)
      (MonadExcept.tryCatch twin handle') := by
  constructor
  case lasts =>
    intro memory ready
    have begun := start.lasts ready
    obtain ⟨_, same⟩ := start.result ready
    rw [run_tryCatch]
    rcases ran : look.run memory with ⟨fault | value, middle⟩ <;> rw [ran] at begun same
    · cases same with
      | error same =>
          have later := rest _ fault _ (ready.fits.trans begun.fits) same
          exact begun.trans (later.lasts begun.ready).of_bounds
    · exact begun
  case result =>
    intro memory ready
    have begun := start.lasts ready
    obtain ⟨_, same⟩ := start.result ready
    rw [run_tryCatch]
    rcases ran : look.run memory with ⟨fault | value, middle⟩ <;> rw [ran] at begun same
    · cases same with
      | error same =>
          have later := rest _ fault _ (ready.fits.trans begun.fits) same
          exact later.result begun.ready
    · exact ⟨_, same⟩
  case pairs =>
    intro memory other ready paired ends
    have begun := start.lasts ready
    obtain ⟨_, same⟩ := start.result ready
    have both := start.pairs ready paired
    rw [run_tryCatch] at ends ⊢
    rw [run_tryCatch]
    rcases ran : look.run memory with ⟨fault | value, middle⟩ <;>
      rw [ran] at begun same both ends
    · have ahead : middle.Grows first.last := by
        cases same with
        | error same =>
            have later := rest _ fault _ (ready.fits.trans begun.fits) same
            exact (later.lasts begun.ready).grows.trans ends
      obtain ⟨paired, twins⟩ := both ahead
      rcases ran' : twin.run other with ⟨fault' | value', middle'⟩ <;> rw [ran'] at paired twins <;>
        cases twins
      case error same =>
        have later := rest _ fault _ (ready.fits.trans begun.fits) same
        exact later.pairs begun.ready paired ends
    · obtain ⟨paired, twins⟩ := both ends
      rcases ran' : twin.run other with ⟨fault' | value', middle'⟩ <;> rw [ran'] at paired twins <;>
        cases twins
      case ok related => exact ⟨paired, .ok related⟩

theorem tryFinally {leave : Observe γ} {leave' : Observe δ} (lasting : Lasting R)
    (start : Tandem first extent R look twin)
    (close : ∀ large, extent.Fits large → Tandem first large T leave leave') :
    Tandem first extent R (tryFinally look leave)
      (tryFinally twin leave') := by
  constructor
  case lasts =>
    intro memory ready
    have begun := start.lasts ready
    have ended := (close _ (ready.fits.trans begun.fits)).lasts begun.ready
    rw [run_tryFinally]
    split
    case h_1 last ran =>
      rw [ran] at ended
      exact begun.trans ended.of_bounds
    case h_2 fault last ran =>
      rw [ran] at ended
      exact begun.trans ended.of_bounds
  case result =>
    intro memory ready
    have begun := start.lasts ready
    have later := close _ (ready.fits.trans begun.fits)
    have ended := later.lasts begun.ready
    obtain ⟨_, same⟩ := start.result ready
    obtain ⟨_, same'⟩ := later.result begun.ready
    rw [run_tryFinally]
    split
    case h_1 last ran =>
      rw [ran] at ended
      exact ⟨_, same.mono lasting ended.fits⟩
    case h_2 fault last ran =>
      rw [ran] at same'
      cases same' with
      | error same' => exact ⟨_, .error same'⟩
  case pairs =>
    intro memory other ready paired ends
    have begun := start.lasts ready
    have later := close _ (ready.fits.trans begun.fits)
    have ended := later.lasts begun.ready
    have both := start.pairs ready paired
    rw [run_tryFinally] at ends ⊢
    rw [run_tryFinally]
    rcases ran : leave.run (look.run memory).2 with ⟨fault | left, last⟩ <;> rw [ran] at ends ended
    · obtain ⟨paired, -⟩ := both (ended.grows.trans ends)
      obtain ⟨paired, twins⟩ := later.pairs begun.ready paired (by rw [ran]; exact ends)
      rw [ran] at paired twins
      rcases ran' : leave'.run (twin.run other).2 with ⟨fault' | left', last'⟩ <;>
        rw [ran'] at paired twins <;> cases twins
      case error same => exact ⟨paired, .error same⟩
    · obtain ⟨paired, same⟩ := both (ended.grows.trans ends)
      obtain ⟨paired, twins⟩ := later.pairs begun.ready paired (by rw [ran]; exact ends)
      rw [ran] at paired twins
      rcases ran' : leave'.run (twin.run other).2 with ⟨fault' | left', last'⟩ <;>
        rw [ran'] at paired twins <;> cases twins
      case ok => exact ⟨paired, same.mono lasting ended.fits⟩

/-! ## Loops -/

/-- Looks that run in tandem one by one, whatever comes in between. -/
abbrev Each (first : FirstLook) (extent : Extent) (T : Extent → γ → δ → Prop)
    (step : α → Observe γ) (step' : β → Observe δ) : List α → List β → Prop :=
  List.Forall₂ fun a b =>
    ∀ large, extent.Fits large → Tandem first large T (step a) (step' b)

theorem Each.of_forall₂ {step : α → Observe γ} {step' : β → Observe δ} {items : List α}
    {others : List β} (lasting : Lasting R) (all : List.Forall₂ (R extent) items others)
    (each : ∀ large a b, extent.Fits large → R large a b →
      Tandem first large T (step a) (step' b)) : Each first extent T step step' items others :=
  all.imp fun _ _ related _ fits => each _ _ _ fits (lasting fits related)

theorem Each.mono {step : α → Observe γ} {step' : β → Observe δ} {items : List α}
    {others : List β} (fits : extent.Fits large)
    (each : Each first extent T step step' items others) :
    Each first large T step step' items others :=
  each.imp fun _ _ tandem large more => tandem large (fits.trans more)

theorem mapM {step : α → Observe γ} {step' : β → Observe δ} {items : List α} {others : List β}
    (lasting : Lasting T) (each : Each first extent T step step' items others) :
    Tandem first extent (fun large => List.Forall₂ (T large)) (items.mapM step)
      (others.mapM step') := by
  induction items generalizing others extent with
  | nil =>
      cases each
      exact pure fun _ _ => .nil
  | cons item items ih =>
      cases each with
      | cons head rest =>
          rw [List.mapM_cons, List.mapM_cons]
          refine bind (head _ (.refl _)) fun large a b fits related => ?_
          refine bind (ih (Each.mono fits rest)) fun large' as bs fits' all => ?_
          exact pure fun _ more =>
            .cons (lasting (fits'.trans more) related) (lasting.all more all)

theorem mapM_same {step : α → Observe γ} {step' : β → Observe γ} {items : List α}
    {others : List β} (each : Each first extent Same step step' items others) :
    Tandem first extent Same (items.mapM step) (others.mapM step') :=
  (mapM (T := Same) lasting_same each).imp fun _ _ _ same =>
    (congrFun₂ List.forall₂_eq_eq_eq _ _).mp same

/-- A step that takes twins alike, done to all of them. -/
theorem mapTwins {step : Value → Observe γ} {step' : Value → Observe δ}
    {items others : List Value} (lasting : Lasting T)
    (all : Twins first.moves extent items others)
    (each : ∀ large a b, extent.Fits large → Twin first.moves large a b →
      Tandem first large T (step a) (step' b)) :
    Tandem first extent (fun large => List.Forall₂ (T large)) (items.mapM step)
      (others.mapM step') :=
  mapM lasting (Each.of_forall₂ (R := Twin first.moves) lasting_twin all each)

theorem filterMapM {step : α → Observe (Option γ)} {step' : β → Observe (Option δ)}
    {items : List α} {others : List β} (lasting : Lasting T)
    (each : Each first extent (fun large => Option.Rel (T large)) step step' items others) :
    Tandem first extent (fun large => List.Forall₂ (T large)) (items.filterMapM step)
      (others.filterMapM step') := by
  have go {kept : List γ} {kept' : List δ} (all : List.Forall₂ (T extent) kept kept') :
      Tandem first extent (fun large => List.Forall₂ (T large))
        (List.filterMapM.loop step items kept) (List.filterMapM.loop step' others kept') := by
    induction items generalizing extent others kept kept' with
    | nil =>
        cases each
        exact pure fun _ more => List.rel_reverse (lasting.all more all)
    | cons item items ih =>
        cases each with
        | cons head rest =>
            unfold List.filterMapM.loop
            refine bind (head _ (.refl _)) fun large found found' fits related => ?_
            cases related with
            | none => exact ih (Each.mono fits rest) (lasting.all fits all)
            | some related => exact ih (Each.mono fits rest) (.cons related (lasting.all fits all))
  exact go .nil

theorem filterM {test : α → Observe Bool} {test' : β → Observe Bool} {items : List α}
    {others : List β} (lasting : Lasting R) (all : List.Forall₂ (R extent) items others)
    (each : ∀ large a b, extent.Fits large → R large a b →
      Tandem first large Same (test a) (test' b)) :
    Tandem first extent (fun large => List.Forall₂ (R large)) (items.filterM test)
      (others.filterM test') := by
  have go {kept : List α} {kept' : List β} (chosen : List.Forall₂ (R extent) kept kept') :
      Tandem first extent (fun large => List.Forall₂ (R large))
        (List.filterAuxM test items kept) (List.filterAuxM test' others kept') := by
    induction items generalizing extent others kept kept' with
    | nil =>
        cases all
        exact pure fun _ more => lasting.all more chosen
    | cons item items ih =>
        cases all with
        | cons head rest =>
            unfold List.filterAuxM
            refine bind_same (each _ _ _ (.refl _) head) fun large accepted fits => ?_
            have later := fun larger a b more => each larger a b (fits.trans more)
            cases accepted with
            | true => exact ih (lasting.all fits rest) later (lasting.all fits (.cons head chosen))
            | false => exact ih (lasting.all fits rest) later (lasting.all fits chosen)
  exact bind (go .nil) fun _ _ _ _ chosen =>
    pure fun _ more => List.rel_reverse (lasting.all more chosen)

/-! ## What is only noted -/

theorem track (dep other : DepId) :
    Tandem first extent Same (Observe.track dep) (Observe.track other) :=
  of_unseen (fun _ => ⟨rfl, rfl, rfl, rfl, fun _ => rfl, rfl, rfl, rfl, rfl, rfl, rfl, rfl, rfl⟩)
    (fun _ => ⟨rfl, rfl, rfl, rfl, fun _ => rfl, rfl, rfl, rfl, rfl, rfl, rfl, rfl, rfl⟩)
    (looks_grows.track dep) fun _ _ _ _ _ => .ok rfl

theorem checkKey {key other : Value} (same : Twin first.moves extent key other) :
    Tandem first extent Same (Observe.checkKey key) (Observe.checkKey other) := by
  unfold Observe.checkKey
  rw [same.isHashable, same.typeName]
  split
  · exact pure fun _ _ => rfl
  · exact fail _

/-- The tracked state of a key need not be the same one. -/
theorem keyDep (id : LiveMapId) {key other : Value} (same : Twin first.moves extent key other) :
    Tandem first extent (fun _ _ _ => True) (Observe.keyDep id key)
      (Observe.keyDep id other) := by
  by_cases hashable : key.isHashable = true
  · have hashable' : other.isHashable = true := same.isHashable ▸ hashable
    refine of_unseen (fun memory => ?_) (fun memory => ?_) (looks_grows.keyDep id key)
      fun _ memory twin _ _ => ?_
    · rw [Observe.run_keyDep hashable]
      exact memory.sameSight_keyed id key
    · rw [Observe.run_keyDep hashable']
      exact memory.sameSight_keyed id other
    · rw [Observe.run_keyDep hashable, Observe.run_keyDep hashable']
      exact .ok trivial
  · have unhashable : ¬ other.isHashable = true := same.isHashable ▸ hashable
    have refused {key : Value} (bad : ¬ key.isHashable = true) :
        Observe.keyDep id key = Observe.fail (.unhashable key.typeName) := by
      unfold Observe.keyDep Observe.checkKey
      rw [if_neg bad]
      rfl
    rw [refused hashable, refused unhashable, same.typeName]
    exact fail _

/-! ## What is new -/

theorem newList {items others : List Value} (same : Twins first.moves extent items others) :
    Tandem first extent (Twin first.moves) (Observe.newList items) (Observe.newList others) := by
  have lasts {memory : Memory} (ready : memory.Ready extent) :
      memory.Lasts extent { memory with lists := memory.lists.push items } := by
    have grows := looks_grows.newList items memory
    have fits : (memory.bounds extent).Fits _ := grows.fits (Nat.le_refl _) extent
    have new := Twin.unmovedAll (Relocation.spares_still _) (ready.fits.trans fits) same
    exact ⟨⟨grows, Nat.le_refl _, rfl, rfl, rfl, rfl⟩, ready.whole.adding fits
      ⟨rfl, rfl, rfl, rfl, rfl, rfl, rfl, rfl⟩
      (Memory.getD_push_cases (P := fun all => Twins _ _ all all) _ [] new) (fun _ => .inl rfl)
      (fun _ => .inl rfl), rfl⟩
  have made (memory : Memory) : Twin first.moves
      (Memory.bounds { memory with lists := memory.lists.push items } extent)
      (.list memory.lists.size) (.list (first.moves.lists.move memory.lists.size)) :=
    .list (by simp [Memory.bounds]) rfl
  constructor
  case lasts => exact lasts
  case result => exact fun _ => ⟨_, .ok (made _)⟩
  case pairs =>
    intro memory other ready paired ends
    have fits := ready.fits.trans (lasts ready).fits
    refine ⟨paired.adding (lasts ready) ⟨rfl, rfl, rfl, rfl, rfl, rfl, rfl, rfl⟩
      ⟨rfl, rfl, rfl, rfl, rfl, rfl, rfl, rfl⟩
      (Memory.getD_push_both [] paired.listsSize (Twin.monoAll fits same))
      (fun _ there => .inl ⟨there, rfl, rfl⟩) (fun _ there => .inl ⟨there, rfl, rfl⟩)
      (Memory.move_size_push paired.grows.lists.size_le paired.listsSize)
      paired.mapsSize paired.nodesSize paired.serialsSize, .ok ?_⟩
    have twin := made memory
    rwa [paired.listsSize] at twin

theorem newMapId {entries others : Entries Value}
    (same : EntryTwins first.moves extent entries others) :
    Tandem first extent (fun large id other => Twin first.moves large (.map id) (.map other))
      (Observe.newMapId entries) (Observe.newMapId others) := by
  have lasts {memory : Memory} (ready : memory.Ready extent) :
      memory.Lasts extent { memory with maps := memory.maps.push entries } := by
    have grows := looks_grows.newMapId entries memory
    have fits : (memory.bounds extent).Fits _ := grows.fits (Nat.le_refl _) extent
    have new : EntryTwins .still _ entries entries :=
      (same.mono (ready.fits.trans fits)).within
    exact ⟨⟨grows, Nat.le_refl _, rfl, rfl, rfl, rfl⟩, ready.whole.adding fits
      ⟨rfl, rfl, rfl, rfl, rfl, rfl, rfl, rfl⟩ (fun _ => .inl rfl)
      (Memory.getD_push_cases (P := fun all => EntryTwins _ _ all all) _ [] new)
      (fun _ => .inl rfl), rfl⟩
  have made (memory : Memory) : Twin first.moves
      (Memory.bounds { memory with maps := memory.maps.push entries } extent)
      (.map memory.maps.size) (.map (first.moves.maps.move memory.maps.size)) :=
    .map (by simp [Memory.bounds]) rfl
  constructor
  case lasts => exact lasts
  case result => exact fun _ => ⟨_, .ok (made _)⟩
  case pairs =>
    intro memory other ready paired ends
    have fits := ready.fits.trans (lasts ready).fits
    refine ⟨paired.adding (lasts ready) ⟨rfl, rfl, rfl, rfl, rfl, rfl, rfl, rfl⟩
      ⟨rfl, rfl, rfl, rfl, rfl, rfl, rfl, rfl⟩ (fun _ there => .inl ⟨there, rfl, rfl⟩)
      (Memory.getD_push_both [] paired.mapsSize (same.mono fits))
      (fun _ there => .inl ⟨there, rfl, rfl⟩) paired.listsSize
      (Memory.move_size_push paired.grows.maps.size_le paired.mapsSize)
      paired.nodesSize paired.serialsSize, .ok ?_⟩
    have twin := made memory
    rwa [paired.mapsSize] at twin

theorem newMap {entries others : Entries Value}
    (same : EntryTwins first.moves extent entries others) :
    Tandem first extent (Twin first.moves) (Observe.newMap entries) (Observe.newMap others) :=
  bind (newMapId same) fun _ _ _ _ twin => pure fun _ fits => twin.mono fits

theorem newNode {type props children type' props' children' : Value}
    (same : NodeTwin first.moves extent ⟨type, props, children⟩ ⟨type', props', children'⟩) :
    Tandem first extent (Twin first.moves) (Observe.newNode type props children)
      (Observe.newNode type' props' children') := by
  have lasts {memory : Memory} (ready : memory.Ready extent) :
      memory.Lasts extent
        { memory with nodes := memory.nodes.push ⟨type, props, children⟩ } := by
    have grows := looks_grows.newNode type props children memory
    have fits : (memory.bounds extent).Fits _ := grows.fits (Nat.le_refl _) extent
    have new := (same.mono (ready.fits.trans fits)).within
    exact ⟨⟨grows, Nat.le_refl _, rfl, rfl, rfl, rfl⟩, ready.whole.adding fits
      ⟨rfl, rfl, rfl, rfl, rfl, rfl, rfl, rfl⟩ (fun _ => .inl rfl) (fun _ => .inl rfl)
      (Memory.getD_push_cases (P := fun node => NodeTwin _ _ node node) _ _ new), rfl⟩
  have made (memory : Memory) : Twin first.moves
      (Memory.bounds { memory with nodes := memory.nodes.push ⟨type, props, children⟩ } extent)
      (.node memory.nodes.size) (.node (first.moves.nodes.move memory.nodes.size)) :=
    .node (by simp [Memory.bounds]) rfl
  constructor
  case lasts => exact lasts
  case result => exact fun _ => ⟨_, .ok (made _)⟩
  case pairs =>
    intro memory other ready paired ends
    have fits := ready.fits.trans (lasts ready).fits
    refine ⟨paired.adding (lasts ready) ⟨rfl, rfl, rfl, rfl, rfl, rfl, rfl, rfl⟩
      ⟨rfl, rfl, rfl, rfl, rfl, rfl, rfl, rfl⟩ (fun _ there => .inl ⟨there, rfl, rfl⟩)
      (fun _ there => .inl ⟨there, rfl, rfl⟩)
      (Memory.getD_push_both _ paired.nodesSize (same.mono fits)) paired.listsSize
      paired.mapsSize (Memory.move_size_push paired.grows.nodes.size_le paired.nodesSize)
      paired.serialsSize, .ok ?_⟩
    have twin := made memory
    rwa [paired.nodesSize] at twin

theorem newSerial :
    Tandem first extent (fun large id other => Twin first.moves large (.nan id) (.nan other))
      Observe.newSerial Observe.newSerial := by
  have lasts {memory : Memory} (ready : memory.Ready extent) :
      memory.Lasts extent { memory with serialCount := memory.serialCount + 1 } := by
    have grows := looks_grows.newSerial memory
    have fits : (memory.bounds extent).Fits _ := grows.fits (Nat.le_succ _) extent
    exact ⟨⟨grows, Nat.le_succ _, rfl, rfl, rfl, rfl⟩, ready.whole.adding fits
      ⟨rfl, rfl, rfl, rfl, rfl, rfl, rfl, rfl⟩ (fun _ => .inl rfl) (fun _ => .inl rfl)
      (fun _ => .inl rfl), rfl⟩
  have made (memory : Memory) : Twin first.moves
      (Memory.bounds { memory with serialCount := memory.serialCount + 1 } extent)
      (.nan memory.serialCount) (.nan (first.moves.serials.move memory.serialCount)) :=
    .nan (Nat.lt_succ_self _) rfl
  constructor
  case lasts => exact lasts
  case result => exact fun _ => ⟨_, .ok (made _)⟩
  case pairs =>
    intro memory other ready paired ends
    have next : first.moves.serials.move (memory.serialCount + 1) = other.serialCount + 1 := by
      rw [Shift.move_succ paired.serials, paired.serialsSize]
    refine ⟨paired.adding (lasts ready) ⟨rfl, rfl, rfl, rfl, rfl, rfl, rfl, rfl⟩
      ⟨rfl, rfl, rfl, rfl, rfl, rfl, rfl, rfl⟩ (fun _ there => .inl ⟨there, rfl, rfl⟩)
      (fun _ there => .inl ⟨there, rfl, rfl⟩) (fun _ there => .inl ⟨there, rfl, rfl⟩)
      paired.listsSize paired.mapsSize paired.nodesSize next, .ok ?_⟩
    have twin := made memory
    rwa [paired.serialsSize] at twin

/-! ## Passes -/

theorem setContext {context other : Option EvaluationContext}
    (same : Option.Rel (ContextTwin first.moves extent) context other) :
    Tandem first extent Same (Observe.setContext context) (Observe.setContext other) where
  lasts {memory} ready := by
    have ⟨lists, maps, nodes, refs, objects, liveLists, liveMaps, _, outlook⟩ := ready.whole
    have grows : memory.Grows { memory with context } :=
      .of_plain (begins_refl _) (begins_refl _) (begins_refl _) (begins_refl _) (begins_refl _)
        rfl rfl (Nat.le_refl _)
    exact ⟨⟨grows, Nat.le_refl _, rfl, rfl, rfl, rfl⟩, ⟨lists, maps, nodes, refs, objects,
      liveLists, liveMaps, context_within (context_mono ready.fits same), outlook⟩, rfl⟩
  result _ := ⟨_, .ok rfl⟩
  pairs {memory twin} ready paired _ := by
    have ⟨⟨lists, maps, nodes, refs, objects, rawLists, rawMaps, _, colors, limit, outlook⟩,
      began, grows, serials, listsSize, mapsSize, nodesSize, serialsSize, liveLists, liveMaps,
      oldLists, oldMaps⟩ := paired
    have ahead : first.start.Grows { memory with context := context } :=
      grows.trans (.of_plain (begins_refl _) (begins_refl _) (begins_refl _) (begins_refl _)
        (begins_refl _) rfl rfl (Nat.le_refl _))
    exact ⟨⟨⟨lists, maps, nodes, refs, objects, rawLists, rawMaps,
      context_mono ready.fits same, colors, limit, outlook⟩, began, ahead, serials, listsSize,
      mapsSize, nodesSize, serialsSize, liveLists, liveMaps, oldLists, oldMaps⟩, .ok rfl⟩

end Tandem

end ReactiveSchema
