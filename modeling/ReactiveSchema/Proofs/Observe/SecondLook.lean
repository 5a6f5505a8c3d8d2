import ReactiveSchema.Proofs.Memory.Mirrors
import ReactiveSchema.Proofs.Observe.BalancedPasses
import ReactiveSchema.Proofs.Observe.TandemParts

/-!
# Passes repeated

A pass is rendered again when nothing has been written since it was rendered
first.  It comes to the same picture or to the same fault, whatever pass of
somebody else is under way around it.
-/

namespace ReactiveSchema

variable {extent : Extent} {moved : Relocation} {start other : Memory}

/-! ## Places that do not move -/

namespace Relocation.Spares

variable (spares : moved.Spares extent)
include spares

theorem entries {entries : List (Value × Value)}
    (whole : EntryTwins .still extent entries entries) :
    EntryTwins moved extent entries entries :=
  List.forall₂_same.mpr fun entry has =>
    have both := List.forall₂_same.mp whole entry has
    ⟨both.1.unmoved spares (.refl _), both.2.unmoved spares (.refl _)⟩

theorem node {node : NodeCell} (whole : NodeTwin .still extent node node) :
    NodeTwin moved extent node node :=
  ⟨whole.type.unmoved spares (.refl _), whole.props.unmoved spares (.refl _),
    whole.children.unmoved spares (.refl _)⟩

theorem seenAs {seen : Attribute} (whole : AttributeTwin .still extent seen seen) :
    AttributeTwin moved extent seen seen := by
  cases whole with
  | plain whole => exact .plain (whole.unmoved spares (.refl _))
  | content cell => exact .content cell
  | group whole => exact .group (Twin.unmovedAll spares (.refl _) whole)
  | method => exact .method

theorem outlook {seen : Outlook} (whole : OutlookTwin .still extent seen seen) :
    OutlookTwin moved extent seen seen :=
  ⟨rfl, rfl, List.forall₂_same.mpr fun named has =>
    ⟨rfl, spares.seenAs (List.forall₂_same.mp whole.attributes named has).2⟩⟩

theorem context {context : Option EvaluationContext}
    (whole : Option.Rel (ContextTwin .still extent) context context) :
    Option.Rel (ContextTwin moved extent) context context := by
  cases whole with
  | none => exact .none
  | some whole => exact .some ⟨Twin.unmovedAll spares (.refl _) whole.frames, rfl⟩

end Relocation.Spares

/-! ## Where nothing has been written -/

theorem listAt_of_begins {id : ListId} (begins : Begins start.lists other.lists)
    (there : id < start.lists.size) : other.listAt id = start.listAt id := by
  unfold Memory.listAt
  rw [begins id _ (Array.getElem?_eq_getElem there), Array.getElem?_eq_getElem there]

theorem mapAt_of_begins {id : MapId} (begins : Begins start.maps other.maps)
    (there : id < start.maps.size) : other.mapAt id = start.mapAt id := by
  unfold Memory.mapAt
  rw [begins id _ (Array.getElem?_eq_getElem there), Array.getElem?_eq_getElem there]

theorem nodeAt_of_begins {id : NodeId} (begins : Begins start.nodes other.nodes)
    (there : id < start.nodes.size) : other.nodeAt id = start.nodeAt id := by
  unfold Memory.nodeAt
  rw [begins id _ (Array.getElem?_eq_getElem there), Array.getElem?_eq_getElem there]

theorem move_first {shift : Shift} {size : Nat} (long : shift.first ≤ size)
    (steps : shift.steps = size - shift.first) : shift.move shift.first = size := by
  unfold Shift.move
  rw [if_neg (Nat.lt_irrefl _)]
  omega

/-- A second look can begin wherever nothing has been written since the first one began. -/
theorem FirstLook.pairs_again (whole : start.Whole (start.bounds extent))
    (unwritten : start.Unwritten other) (context : other.context = start.context)
    (outlook : other.outlook = start.outlook) :
    FirstLook.Pairs ⟨start, other⟩ (start.bounds extent) start other := by
  have spares := FirstLook.spares ⟨start, other⟩ extent
  have grows := unwritten.grows
  constructor
  case toMirrors =>
    constructor
    case lists =>
      intro id there
      rw [spares.lists there, listAt_of_begins grows.lists there]
      exact Twin.unmovedAll spares (.refl _) (whole.lists id)
    case maps =>
      intro id there
      rw [spares.maps there, mapAt_of_begins grows.maps there]
      exact spares.entries (whole.maps id)
    case nodes =>
      intro id there
      rw [spares.nodes there, nodeAt_of_begins grows.nodes there]
      exact spares.node (whole.nodes id)
    case refs =>
      intro id
      rw [unwritten.refs]
      cases found : start.refs[id]? with
      | none => exact .none
      | some cell => exact .some ((whole.refs found).unmoved spares (.refl _))
    case objects =>
      intro id
      have same : other.objectAt id = start.objectAt id := by
        unfold Memory.objectAt
        rw [unwritten.objects]
      rw [same]
      exact List.forall₂_same.mpr fun named has =>
        ⟨rfl, (List.forall₂_same.mp (whole.objects id) named has).2.unmoved spares (.refl _)⟩
    case rawLists =>
      intro id there
      have raw := whole.rawList there
      obtain ⟨live, found, same, -⟩ := grows.liveLists (Array.getElem?_eq_getElem there)
      refine ⟨raw, ?_⟩
      rw [spares.lists raw, Memory.rawList_of_found found,
        Memory.rawList_of_found (Array.getElem?_eq_getElem there)]
      exact same.symm
    case rawMaps =>
      intro id there
      have raw := whole.rawMap there
      obtain ⟨live, found, same, -⟩ := grows.liveMaps (Array.getElem?_eq_getElem there)
      refine ⟨raw, ?_⟩
      rw [spares.maps raw, Memory.rawMap_of_found found,
        Memory.rawMap_of_found (Array.getElem?_eq_getElem there)]
      exact same.symm
    case context => rw [context]; exact spares.context whole.context
    case colors => exact unwritten.colors.symm
    case recursionLimit => exact unwritten.recursionLimit.symm
    case outlook => intro kind id; rw [outlook]; exact spares.outlook (whole.outlook kind id)
  case began => exact whole
  case grows => exact .refl _
  case serials => exact Nat.le_refl _
  case listsSize => exact move_first grows.lists.size_le rfl
  case mapsSize => exact move_first grows.maps.size_le rfl
  case nodesSize => exact move_first grows.nodes.size_le rfl
  case serialsSize => exact move_first unwritten.serials rfl
  case liveLists => rfl
  case liveMaps => exact fun _ => rfl
  case oldLists => exact fun found => (whole.liveLists found).1
  case oldMaps => exact fun found => (whole.liveMaps found).1

/-! ## Passes around a pass -/

/-- The pass that is under way around a pass makes no difference to it. -/
theorem Observe.run_evaluatePass_inPass (checked : Bool) (root : Observe Value) (memory : Memory)
    (context : Option EvaluationContext) :
    (evaluatePass checked root).run (memory.inPass context) =
      (((evaluatePass checked root).run memory).1,
        ((evaluatePass checked root).run memory).2.inPass context) := by
  unfold evaluatePass
  rw [run_bind, run_bind, run_withFreshContext, run_withFreshContext]
  rw [show (memory.inPass context).inPass (some .fresh) = memory.inPass (some .fresh) from rfl]
  rcases ran : (do
      let output ← root
      return (output, ← frameDepth) : Observe (Value × Nat)).run (memory.inPass (some .fresh))
    with ⟨fault | ⟨output, depth⟩, after⟩
  · rfl
  · dsimp only
    split <;> rfl

theorem Observe.context_evaluatePass (checked : Bool) (root : Observe Value) (memory : Memory) :
    ((evaluatePass checked root).run memory).2.context = memory.context :=
  congrArg (fun ran => ran.2.context)
    (run_evaluatePass_inPass checked root memory memory.context)

/-! ## What has come of it -/

/-- The same memory during another pass and with other things noted. -/
def Memory.meanwhile (memory : Memory) (context : Option EvaluationContext) (reads : List DepId)
    (outlook : HandleKind → Nat → Outlook) : Memory :=
  { memory with context, reads, outlook }

namespace Memory

theorem unwritten_meanwhile (memory : Memory) (context : Option EvaluationContext)
    (reads : List DepId) (outlook : HandleKind → Nat → Outlook) :
    memory.Unwritten (memory.meanwhile context reads outlook) :=
  ⟨.of_plain (begins_refl _) (begins_refl _) (begins_refl _) (begins_refl _) (begins_refl _)
    rfl rfl (Nat.le_refl _), Nat.le_refl _, rfl, rfl, rfl, rfl⟩

/-- What is beside memory has no part in what is written. -/
theorem Unwritten.meanwhile (unwritten : start.Unwritten other)
    (context context' : Option EvaluationContext) (reads reads' : List DepId)
    (outlook outlook' : HandleKind → Nat → Outlook) :
    (start.meanwhile context reads outlook).Unwritten
      (other.meanwhile context' reads' outlook') :=
  have back : (start.meanwhile context reads outlook).Unwritten start :=
    unwritten_meanwhile (start.meanwhile context reads outlook) _ _ _
  (back.trans unwritten).trans (unwritten_meanwhile other _ _ _)

variable {memory : Memory} {context : Option EvaluationContext} {reads : List DepId}
  {outlook : HandleKind → Nat → Outlook} {deeper : Value → Except Cause Datum}

mutual

theorem snapshotStep_meanwhile : ∀ value : Value,
    (memory.meanwhile context reads outlook).snapshotStep deeper value =
      memory.snapshotStep deeper value
  | .tuple items => by
      unfold snapshotStep
      rw [snapshotTuple_meanwhile]
  | .list _ | .map _ | .liveList _ | .liveMap _ | .node _ | .object _ | .ref _
  | .none | .undefined | .missing | .ellipsis | .bool _ | .int _ | .float _ | .nan _
  | .complex _ _ | .str _ | .text _ | .function _ | .component _ | .incomparable _ | .scope _
  | .handle _ _ | .method _ _ | .other _ => by
      unfold snapshotStep
      rfl

theorem snapshotTuple_meanwhile : ∀ items : List Value,
    snapshotStep.snapshotTuple (memory.meanwhile context reads outlook) deeper items =
      snapshotStep.snapshotTuple memory deeper items
  | [] => rfl
  | item :: rest => by
      unfold snapshotStep.snapshotTuple
      rw [snapshotStep_meanwhile, snapshotTuple_meanwhile]

end

/-- A picture shows nothing but what memory holds. -/
theorem snapshotWithin_meanwhile (depth : Nat) :
    (memory.meanwhile context reads outlook).snapshotWithin depth =
      memory.snapshotWithin depth := by
  induction depth with
  | zero => rfl
  | succ depth ih =>
      funext value
      unfold snapshotWithin
      rw [ih, snapshotStep_meanwhile]

end Memory

/-- Memory with nothing beside its places. -/
def Memory.bare (memory : Memory) : Memory :=
  memory.meanwhile none [] Memory.empty.outlook

/-- Two values in two memories are the same but for where containers and nodes lie. -/
def Alike (memory other : Memory) (v w : Value) : Prop :=
  ∃ moved extent, memory.bare.Mirrors moved extent other.bare ∧ Twin moved extent v w

theorem Memory.Mirrors.bare {memory : Memory} (mirrors : memory.Mirrors moved extent other) :
    memory.bare.Mirrors moved extent other.bare where
  lists := mirrors.lists
  maps := mirrors.maps
  nodes := mirrors.nodes
  refs := mirrors.refs
  objects := mirrors.objects
  rawLists := mirrors.rawLists
  rawMaps := mirrors.rawMaps
  context := .none
  colors := mirrors.colors
  recursionLimit := mirrors.recursionLimit
  outlook _ _ := ⟨rfl, rfl, .nil⟩

/-- Values that are alike have one picture, however deep it goes. -/
theorem Alike.snapshotWithin {memory : Memory} {v w : Value} (alike : Alike memory other v w)
    (depth : Nat) : memory.snapshotWithin depth v = other.snapshotWithin depth w := by
  obtain ⟨moved, extent, mirrors, same⟩ := alike
  have pictures := mirrors.snapshotWithin depth same
  unfold Memory.bare at pictures
  rwa [Memory.snapshotWithin_meanwhile, Memory.snapshotWithin_meanwhile] at pictures

/-- Results that cannot be told apart: values of one structure, or faults that tell the same. -/
inductive AlikeOutcome (memory other : Memory) : Except Fault Value → Except Fault Value → Prop
  | value {v w : Value} : Alike memory other v w →
      (∀ depth, memory.snapshotWithin depth v = other.snapshotWithin depth w) →
      AlikeOutcome memory other (.ok v) (.ok w)
  | fault {f g : Fault} : f.name = g.name → f.text = g.text → f.code? = g.code? →
      AlikeOutcome memory other (.error f) (.error g)

theorem ResultTwin.alikeOutcome {memory : Memory} {result twin : Except Fault Value}
    (same : ResultTwin moved extent (Twin moved) result twin)
    (mirrors : memory.Mirrors moved extent other) : AlikeOutcome memory other result twin := by
  cases same with
  | ok same =>
      have alike : Alike memory other _ _ := ⟨moved, extent, mirrors.bare, same⟩
      exact .value alike alike.snapshotWithin
  | error same => exact .fault same.name same.text same.code?

/-- What is beside memory has no part in what has come of it. -/
theorem AlikeOutcome.meanwhile {memory : Memory} {result twin : Except Fault Value}
    (same : AlikeOutcome memory other result twin) (context context' : Option EvaluationContext)
    (reads reads' : List DepId) (outlook outlook' : HandleKind → Nat → Outlook) :
    AlikeOutcome (memory.meanwhile context reads outlook)
      (other.meanwhile context' reads' outlook') result twin := by
  cases same with
  | value alike _ =>
      have alike : Alike (memory.meanwhile context reads outlook)
        (other.meanwhile context' reads' outlook') _ _ := alike
      exact .value alike alike.snapshotWithin
  | fault name text code => exact .fault name text code

theorem AlikeOutcome.of_inPass {memory : Memory} {result twin : Except Fault Value}
    {context : Option EvaluationContext}
    (same : AlikeOutcome memory (other.inPass context) result twin) :
    AlikeOutcome memory other result twin :=
  same.meanwhile memory.context other.context memory.reads other.reads memory.outlook
    other.outlook

/-! ## A pass rendered again -/

namespace Observe

/-- A pass of a part all of whose values are there, as it may be rendered again. -/
theorem tandem_evaluatePass (other : Memory) (checked : Bool) {part : Thunk}
    (named : part.Names (Value.Within (start.bounds extent))) :
    Tandem ⟨start, other⟩ (start.bounds extent) (Twin (FirstLook.moves ⟨start, other⟩))
      (evaluatePass checked part.run) (evaluatePass checked part.run) := by
  have spares := FirstLook.spares ⟨start, other⟩ extent
  refine Tandem.evaluatePass checked fun large fits => Tandem.runPart part ?_
  exact named.imp fun _ within => within.unmoved spares fits

variable (checked : Bool) {part : Thunk} (whole : start.Whole (start.bounds extent))
  (named : part.Names (Value.Within (start.bounds extent)))
include whole named

/-- All that a pass does to memory is to add places. -/
theorem lasts_evaluatePass :
    start.Lasts extent ((evaluatePass checked part.run).run start).2 :=
  ((tandem_evaluatePass start checked named).lasts ⟨whole, .refl _⟩).of_bounds

/-- A pass that is rendered again before anything is written has the same outcome. -/
theorem alikeOutcome_evaluatePass
    (unwritten : ((evaluatePass checked part.run).run start).2.Unwritten other)
    (context : other.context = start.context) (outlook : other.outlook = start.outlook) :
    AlikeOutcome ((evaluatePass checked part.run).run start).2
      ((evaluatePass checked part.run).run other).2
      ((evaluatePass checked part.run).run start).1
      ((evaluatePass checked part.run).run other).1 := by
  have since := (lasts_evaluatePass checked whole named).toUnwritten.trans unwritten
  have paired := FirstLook.pairs_again whole since context outlook
  have tandem := tandem_evaluatePass other checked named
  obtain ⟨later, same⟩ := tandem.pairs ⟨whole, .refl _⟩ paired unwritten.grows
  exact same.alikeOutcome later.toMirrors

end Observe

end ReactiveSchema
