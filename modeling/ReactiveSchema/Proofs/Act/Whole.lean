import ReactiveSchema.Proofs.Observe.KeepingContainers
import ReactiveSchema.Proofs.Reactive.Readers

/-!
# A world without loose ends

A world is whole when all that is named in it is there: in memory, and beside
it in effects, closures, environments, compilers, views and variables.  What
works on effects alone keeps it so, and so does looking.
-/

namespace ReactiveSchema

variable {α β : Type} {extent small large : Extent}

/-! ## What lies beside memory -/

theorem known_store {id : LiveMapId} (there : id < extent.liveMaps) :
    Known extent (.handle .store id) :=
  .handle there

theorem known_view {id : ViewId} (there : id < extent.views) : Known extent (.handle .view id) :=
  .handle there

theorem known_environment {id : EnvironmentId} (there : id < extent.environments) :
    Known extent (.handle .environment id) :=
  .handle there

theorem known_compiler {id : CompilerId} (there : id < extent.compilers) :
    Known extent (.handle .compiler id) :=
  .handle there

/-- All that an effect works on is there. -/
def Body.Within (extent : Extent) : Body → Prop
  | .resolve _ data store _ _ => data.Within extent ∧ store < extent.liveMaps
  | .compile view => view < extent.views
  | .render view => view < extent.views
  | .program .. => True

/-- All values of a closure are there. -/
def Closure.Within (extent : Extent) : Closure → Prop
  | .thunk part => part.Names (Known extent)
  | .unsubscribe .. => True

/-- Named values that are there. -/
abbrev NamedKnown : Extent → List (String × Value) → Prop :=
  fun extent named => ∀ entry ∈ named, Known extent entry.2

/-- All that a compiler works with is there. -/
structure Compiler.Within (extent : Extent) (compiler : Compiler) : Prop where
  data : Known extent compiler.data
  store : compiler.store < extent.liveMaps
  library : NamedKnown extent compiler.library
  environment : compiler.environment < extent.environments

/-- All that a view works with is there. -/
structure View.Within (extent : Extent) (view : View) : Prop where
  environment : view.environment < extent.environments
  library : NamedKnown extent view.library
  data : Known extent view.data
  store : view.store < extent.liveMaps
  output : Known extent view.output

theorem Body.Within.mono {body : Body} (within : body.Within small) (fits : small.Fits large) :
    body.Within large := by
  cases body with
  | resolve cell data store scopes path =>
      exact ⟨within.1.mono fits, Nat.lt_of_lt_of_le within.2 fits.liveMaps⟩
  | compile view => exact Nat.lt_of_lt_of_le within fits.views
  | render view => exact Nat.lt_of_lt_of_le within fits.views
  | program name steps => exact trivial

theorem Closure.Within.mono {closure : Closure} (within : closure.Within small)
    (fits : small.Fits large) : closure.Within large := by
  cases closure with
  | thunk part => exact Thunk.Names.imp (fun _ known => known.mono fits) within
  | unsubscribe view listener => exact trivial

theorem NamedKnown.mono {named : List (String × Value)} (known : NamedKnown small named)
    (fits : small.Fits large) : NamedKnown large named :=
  fun entry has => (known entry has).mono fits

theorem Compiler.Within.mono {compiler : Compiler} (within : compiler.Within small)
    (fits : small.Fits large) : compiler.Within large where
  data := within.data.mono fits
  store := Nat.lt_of_lt_of_le within.store fits.liveMaps
  library := within.library.mono fits
  environment := Nat.lt_of_lt_of_le within.environment fits.environments

theorem View.Within.mono {view : View} (within : view.Within small) (fits : small.Fits large) :
    view.Within large where
  environment := Nat.lt_of_lt_of_le within.environment fits.environments
  library := within.library.mono fits
  data := within.data.mono fits
  store := Nat.lt_of_lt_of_le within.store fits.liveMaps
  output := within.output.mono fits

namespace World

/-- How many places there are in a world. -/
def reach (world : World) : Extent :=
  world.memory.bounds
    ⟨0, 0, 0, 0, 0, 0, world.views.size, world.environments.size, world.compilers.size⟩

/-- Everything that a world holds is within an extent. -/
structure Within (world : World) (extent : Extent) : Prop where
  memory : world.memory.Whole extent
  bodies {effect : EffectId} {body : Body} :
    (world.reactor.effects[effect]?).map (·.body) = some body → body.Within extent
  closures {id : Nat} {closure : Closure} : world.closures[id]? = some closure →
    closure.Within extent
  environments {id : EnvironmentId} {environment : Environment} :
    world.environments[id]? = some environment → environment.components < extent.maps
  compilers {id : CompilerId} {compiler : Compiler} : world.compilers[id]? = some compiler →
    compiler.Within extent
  views {id : ViewId} {view : View} : world.views[id]? = some view → view.Within extent
  defaultEnvironment {id : EnvironmentId} : world.defaultEnvironment = some id →
    id < extent.environments
  names : NamedKnown extent world.names

/-- All that is named in a world is there. -/
abbrev Whole (world : World) : Prop :=
  world.Within world.reach

theorem Within.mono {world : World} (within : world.Within small) (fits : small.Fits large) :
    world.Within large where
  memory := within.memory.mono fits
  bodies found := (within.bodies found).mono fits
  closures found := (within.closures found).mono fits
  environments found := Nat.lt_of_lt_of_le (within.environments found) fits.maps
  compilers found := (within.compilers found).mono fits
  views found := (within.views found).mono fits
  defaultEnvironment found := Nat.lt_of_lt_of_le (within.defaultEnvironment found) fits.environments
  names := within.names.mono fits

/-- There is nothing in the world at the start that could be missing. -/
theorem whole_empty : World.empty.Whole := by
  have nothing : Memory.empty.Whole World.empty.reach := by
    constructor
    case lists => exact fun id => .nil
    case maps => exact fun id => .nil
    case nodes => exact fun id => ⟨.none, .none, .none⟩
    case refs => exact fun found => nomatch found
    case objects => exact fun id => .nil
    case liveLists => exact fun found => nomatch found
    case liveMaps => exact fun found => nomatch found
    case context => exact .none
    case outlook => exact fun _ _ => ⟨rfl, rfl, .nil⟩
  constructor
  case memory => exact nothing
  case names => exact fun entry has => nomatch has
  all_goals exact fun found => nomatch found

end World

instance : Bounded World where
  Holds := World.Within
  bounds world _ := world.reach
  bounds_bounds _ _ _ := rfl

/-! ## What can be seen of handled things -/

namespace OutlookTwin

/-- Attributes of one name that are there. -/
abbrev Seen (extent : Extent) (p q : String × Attribute) : Prop :=
  p.1 = q.1 ∧ AttributeTwin .still extent p.2 q.2

theorem plain (name : String) {value : Value} (known : Known extent value) :
    Seen extent (name, .plain value) (name, .plain value) :=
  ⟨rfl, .plain known⟩

theorem methods (names : List String) :
    List.Forall₂ (Seen extent) (Outlook.methods names) (Outlook.methods names) := by
  refine List.forall₂_same.mpr fun seen has => ?_
  obtain ⟨name, -, rfl⟩ := List.mem_map.mp has
  exact ⟨rfl, .method⟩

theorem functionOf {body : Body} (within : body.Within extent) :
    Known extent (Outlook.functionOf body) := by
  cases body with
  | compile view => exact .method _ (known_view within)
  | render view => exact .method _ (known_view within)
  | resolve => exact .other _
  | program => exact .other _

theorem ofEffect {effect : Effect Body} (within : effect.body.Within extent) :
    OutlookTwin .still extent (.ofEffect effect) (.ofEffect effect) :=
  ⟨rfl, rfl, List.rel_append (.cons (plain _ (.bool _)) (.cons (plain _ (.int _))
    (.cons (plain _ (.str _)) (.cons (plain _ (functionOf within)) (.cons (plain _ (.int _))
      .nil))))) (methods _)⟩

theorem ofGroup (group : EffectScope) :
    OutlookTwin .still extent (.ofGroup group) (.ofGroup group) := by
  have effects : AllKnown extent (group.effects.map (.handle .effect)) := by
    refine allKnown_iff.mpr fun item has => ?_
    obtain ⟨effect, -, rfl⟩ := List.mem_map.mp has
    exact .handle trivial
  exact ⟨rfl, rfl, List.rel_append (.cons (plain _ (.bool _)) (.cons ⟨rfl, .group effects⟩ .nil))
    (methods _)⟩

theorem ofView {view : View} (within : view.Within extent) (mounted : Bool) :
    OutlookTwin .still extent (.ofView view mounted) (.ofView view mounted) :=
  ⟨rfl, rfl, List.rel_append (.cons (plain _ within.data) (.cons (plain _ within.output)
    (.cons (plain _ (.int _)) (.cons (plain _ (.int _)) (.cons ⟨rfl, .content _⟩
      (.cons (plain _ (known_store within.store)) (.cons (plain _ (.bool _)) .nil))))))) (methods _)⟩

theorem ofEnvironment (environment : Environment) :
    OutlookTwin .still extent (.ofEnvironment environment) (.ofEnvironment environment) :=
  ⟨rfl, rfl, List.rel_append (.cons (plain _ (.other _)) (.cons (plain _ (.bool _))
    (.cons (plain _ (.other _)) (.cons (plain _ (.other _)) .nil)))) (methods _)⟩

theorem ofCompiler {compiler : Compiler} (within : compiler.Within extent) :
    OutlookTwin .still extent (.ofCompiler compiler) (.ofCompiler compiler) :=
  ⟨rfl, rfl, List.rel_append (.cons (plain _ (known_store within.store)) (.cons (plain _ (.int _))
    .nil)) (methods _)⟩

theorem ofStore : OutlookTwin .still extent .ofStore .ofStore :=
  ⟨rfl, rfl, methods _⟩

end OutlookTwin

/-- What is seen of the handled things of a world is there. -/
theorem World.Within.outlook {world : World} (within : world.Within extent) (kind : HandleKind)
    (id : Nat) : OutlookTwin .still extent (world.outlook kind id) (world.outlook kind id) := by
  have unseen : OutlookTwin .still extent (.unseen kind) (.unseen kind) := ⟨rfl, rfl, .nil⟩
  have found {β : Type} {thing? : Option β} {seen : β → Outlook}
      (each : ∀ thing, thing? = some thing → OutlookTwin .still extent (seen thing) (seen thing)) :
      OutlookTwin .still extent ((thing?.map seen).getD (.unseen kind))
        ((thing?.map seen).getD (.unseen kind)) := by
    cases thing? with
    | none => exact unseen
    | some thing => exact each thing rfl
  unfold World.outlook outlookOf
  cases kind
  case effect =>
    exact found fun effect has =>
      .ofEffect (within.bodies (congrArg (Option.map Effect.body) has))
  case effectScope => exact found fun group _ => .ofGroup group
  case store => exact .ofStore
  case closure => exact unseen
  case view => exact found fun view has => .ofView (within.views has) _
  case environment => exact found fun environment _ => .ofEnvironment environment
  case compiler => exact found fun compiler has => .ofCompiler (within.compilers has)

end ReactiveSchema
