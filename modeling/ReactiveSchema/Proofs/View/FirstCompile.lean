import ReactiveSchema.Proofs.View.Compilation

/-!
# The first compilation of a view

A view is made, and the effect that compiles its schema runs for the first time: it reads the
cell of the schema, compiles it with nobody running, and sets the cell of the root.  All that
it makes and does is aside of the effects that there were.
-/

namespace ReactiveSchema

/-- The world with a view changed. -/
def World.withView (world : World) (id : ViewId) (change : View → View) : World :=
  { world with views := world.views.modify id change }

/-- The world with a compiler added. -/
def World.withCompiler (world : World) (compiler : Compiler) : World :=
  { world with compilers := world.compilers.push compiler }

/-- The world with another memory. -/
def World.withMemory (world : World) (memory : Memory) : World :=
  { world with memory }

/-- The world with a closure added. -/
def World.withClosure (world : World) (closure : Closure) : World :=
  { world with closures := world.closures.push closure }

/-- The world with a view added. -/
def World.withNewView (world : World) (view : View) : World :=
  { world with views := world.views.push view }

/-- Memory with a new cell. -/
def Memory.withRef (memory : Memory) (content : Value) : Memory :=
  { memory with
    refs := memory.refs.push ⟨content, memory.depCount⟩
    depCount := memory.depCount + 1 }

variable {world middle after : World} {runner : Runner} {id : ViewId} {view : View}
  {effect : EffectId}

namespace Act

theorem run_viewAt (found : world.views[id]? = some view) :
    (viewAt id).run world = (.ok view, world) := by
  unfold viewAt
  rw [run_bind, run_get]
  dsimp only
  rw [found]
  rfl

theorem run_modifyView (id : ViewId) (change : View → View) (world : World) :
    (modifyView id change).run world = (.ok (), world.withView id change) := rfl

theorem found_withView (found : world.views[id]? = some view) (change : View → View) :
    (world.withView id change).views[id]? = some (change view) := by
  refine Eq.trans Array.getElem?_modify ?_
  rw [if_pos rfl, found]
  rfl

theorem run_newEffectScope (world : World) :
    newEffectScope.run world = (.ok world.reactor.scopes.size,
      world.withReactor fun reactor =>
        { reactor with scopes := reactor.scopes.push ⟨[], true⟩ }) := rfl

theorem run_compilerAt (id : CompilerId) (world : World) :
    ∃ compiler, (compilerAt id).run world = (.ok compiler, world) := by
  unfold compilerAt
  rw [run_bind, run_get]
  dsimp only
  split
  · exact ⟨_, rfl⟩
  · exact ⟨_, rfl⟩

theorem run_newCompiler (compiler : Compiler) (world : World) :
    (newCompiler compiler).run world = (.ok world.compilers.size, world.withCompiler compiler) :=
  rfl

/-- Looking while no effect runs changes memory only. -/
theorem run_observe_calm {α : Type} (look : Observe α)
    (calm : world.reactor.activeEffect = none) :
    (observe look).run world = ((look.run (world.memory.seeing world.outlook)).1,
      world.withMemory (look.run (world.memory.seeing world.outlook)).2.settled) := by
  rw [run_observe, Reactor.trackAll_of_none _ calm]
  rfl

theorem run_newStore (calm : world.reactor.activeEffect = none) :
    newStore.run world = (.ok world.memory.newSite.store,
      world.withMemory world.memory.withStore.settled) := by
  unfold newStore
  rw [run_observe_calm _ calm]
  rfl

end Act

namespace Compilation

variable {c : Compilation}

/-- The compilation with another group active. -/
def inScope (c : Compilation) (scope : Option EffectScopeId) : Compilation :=
  { c with scope }

/-- The compilation with a view changed. -/
def withView (c : Compilation) (id : ViewId) (change : View → View) : Compilation :=
  { c with views := c.views.modify id change }

theorem Sound.inScope (sound : c.Sound world) (scope : Option EffectScopeId) :
    (c.inScope scope).Sound (world.withReactor (.inScope scope)) where
  aside := sound.aside.of_eq rfl rfl (fun _ => .inl) fun _ => .inl
  apart := sound.apart
  faces := sound.faces
  kept := sound.kept
  cells := sound.cells
  group := sound.group
  members := sound.members
  active := sound.active
  compiler := sound.compiler
  views := sound.views
  running := sound.running
  scope := rfl

theorem Sound.withView (sound : c.Sound world) (id : ViewId) (change : View → View) :
    (c.withView id change).Sound (world.withView id change) :=
  { sound with views := congrArg (·.modify id change) sound.views }

end Compilation

/-! ## Compiling for a view -/

/-- Add a group without effects. -/
def Reactor.withGroup {β : Type} (reactor : Reactor β) : Reactor β :=
  { reactor with scopes := reactor.scopes.push ⟨[], true⟩ }

/-- Have the resolving effects of a view in a group. -/
def View.resolvedBy (group : EffectScopeId) (view : View) : View :=
  { view with resolvers := some group }

/-- Have the bindings of a view in a store. -/
def View.storing (store : LiveMapId) (view : View) : View :=
  { view with store }

/-- Stop the resolving effects that a view has. -/
def View.stopping (view : View) (reactor : Reactor Body) : Reactor Body :=
  match view.resolvers with
  | none => reactor
  | some group => reactor.stopScope group

/-- Count a compilation of a view. -/
def View.counted (view : View) : View :=
  { view with compileCount := view.compileCount + 1 }

/-- The world as the schema of a view begins to be compiled. -/
def World.readied (world : World) (id : ViewId) (view : View) : World :=
  let store := world.memory.newSite.store
  ((((world.withReactor .withGroup).withView id
    (View.resolvedBy world.reactor.scopes.size)).withMemory
      world.memory.withStore.settled).withView id (View.storing store)).withCompiler
        ⟨view.data, store, view.library, view.environment, none, [], 0⟩

namespace Act

theorem run_stopResolvers (found : world.views[id]? = some view) :
    (stopResolvers id).run world = (.ok (), world.withReactor view.stopping) := by
  unfold stopResolvers View.stopping
  rw [run_bind_of_ok (run_viewAt found)]
  cases view.resolvers with
  | none => rfl
  | some group => rfl

/-- Count a compilation that is over, and name what it came to. -/
def nameCompiled (id : ViewId) (group : EffectScopeId) (compiler : CompilerId) (root : Thunk) :
    Act Value := do
  modifyView id .counted
  let world ← get
  observe (Observe.log ("DEBUG skema.view: Compiled schema: " ++
    toString (← compilerAt compiler).nodeCount ++ " nodes, " ++
    toString (world.reactor.membersOf group).length ++ " resolver effects"))
  newClosure (.thunk root)

/-- Compile a schema for a view, once it has a store and a group for its effects. -/
def compileIn (runner : Runner) (id : ViewId) (group : EffectScopeId) (compiler : CompilerId)
    (schema : Value) : Act Value := do
  let root ← within group do
    let scope ← observe (Observe.newScope "root")
    compileSchema runner compiler [scope] schema
  nameCompiled id group compiler root

theorem run_compileFor {stopped : World} (found : world.views[id]? = some view)
    (ended : world.withReactor view.stopping = stopped)
    (calm : stopped.reactor.activeEffect = none) (schema : Value) :
    (compileFor runner id schema).run world =
      (compileIn runner id stopped.reactor.scopes.size stopped.compilers.size schema).run
        (stopped.readied id view) := by
  have still : (stopResolvers id).run world = (.ok (), stopped) := by
    rw [run_stopResolvers found, ended]
  have found : (stopped.withReactor .withGroup).views[id]? = some view := by
    rw [← ended]
    exact found
  have grouped := found_withView found (View.resolvedBy stopped.reactor.scopes.size)
  have stored : (((stopped.withReactor .withGroup).withView id
      (View.resolvedBy stopped.reactor.scopes.size)).withMemory
        stopped.memory.withStore.settled).views[id]? = _ := grouped
  have known := found_withView stored (View.storing stopped.memory.newSite.store)
  have quiet : ((stopped.withReactor .withGroup).withView id
      (View.resolvedBy stopped.reactor.scopes.size)).reactor.activeEffect = none := calm
  unfold compileFor
  refine (run_bind_of_ok still).trans ?_
  refine (run_bind_of_ok (run_newEffectScope stopped)).trans ?_
  refine (run_bind_of_ok (run_modifyView id (View.resolvedBy _) _)).trans ?_
  refine (run_bind_of_ok (run_newStore quiet)).trans ?_
  refine (run_bind_of_ok (run_modifyView id (View.storing _) _)).trans ?_
  refine (run_bind_of_ok (run_viewAt known)).trans ?_
  exact run_bind_of_ok (run_newCompiler _ _)

end Act

namespace Compilation

/-- The compilation of the schema of a view, as it begins. -/
def opening (settled : world.reactor.Settled world.memory.depCount) (id : ViewId) (view : View)
    (refs : Array RefCell) (cells : RefId → Prop) : Compilation where
  before := world.reactor.withGroup
  site := world.memory.newSite
  faces _ := False
  refs := refs
  cells := cells
  group := world.reactor.scopes.size
  compiler := world.compilers.size
  views := (world.readied id view).views
  running := none
  scope := some world.reactor.scopes.size
  unread new := settled.unread new

theorem sound_opening (settled : world.reactor.Settled world.memory.depCount)
    (calm : world.reactor.activeEffect = none) (id : ViewId) {refs : Array RefCell}
    {cells : RefId → Prop} (kept : Begins refs world.memory.refs)
    (own : ∀ {cell}, cells cell → (opening settled id view refs cells).Owns world.memory cell) :
    (opening settled id view refs cells).Sound
      ((world.readied id view).withReactor (.inScope (some world.reactor.scopes.size))) := by
  constructor
  case aside =>
    have same : world.reactor.withGroup.Aside world.reactor.withGroup :=
      .refl (fun _ _ reads => (settled.known reads).1) settled.preQueue settled.postQueue
    exact same.of_eq rfl rfl (fun _ => .inl) fun _ => .inl
  case apart => exact (Memory.apart_withStore world.memory).grows (Memory.grows_settled _)
  case faces => exact fun never => never.elim
  case kept => exact kept
  case cells => exact own
  case group => exact ⟨[], Array.getElem?_push_size, nofun⟩
  case members =>
    intro effect body timing new known
    cases (Reactor.kindOf_of_size_le new).symm.trans known
  case active =>
    intro effect kind new known
    cases (Reactor.kindOf_of_size_le new).symm.trans known
  case compiler => exact ⟨_, Array.getElem?_push_size, rfl⟩
  case views => rfl
  case running => exact calm
  case scope => rfl

theorem Sound.nameCompiled {c : Compilation} (sound : c.Sound world) (calm : c.running = none)
    (id : ViewId) (group : EffectScopeId) (compiler : CompilerId) (root : Thunk) :
    ∃ closure, ((Act.nameCompiled id group compiler root).run world).1 =
        .ok (.handle .closure closure) ∧
      (c.withView id .counted).Sound ((Act.nameCompiled id group compiler root).run world).2 ∧
        ((Act.nameCompiled id group compiler root).run world).2.memory.reads = [] := by
  have counted := sound.withView id .counted
  obtain ⟨compiler, found⟩ := Act.run_compilerAt compiler (world.withView id .counted)
  have late : (c.withView id .counted).before.IsNew (c.withView id .counted).running := by
    intro effect same
    cases calm.symm.trans same
  have logged (record : String) := stays_observe late (fun _ looks => looks.log record) _ counted
  unfold Act.nameCompiled
  rw [run_bind_of_ok (Act.run_modifyView id .counted world), run_bind_of_ok (run_get _),
    run_bind_of_ok found]
  exact ⟨_, rfl, { logged _ with }, rfl⟩

end Compilation

/-- The view while another schema is compiled for it, and once that has been compiled. -/
def View.recompiled {α : Type} (view : View) (group : EffectScopeId) (store : LiveMapId) :
    Except Fault α → View
  | .error _ => (view.resolvedBy group).storing store
  | .ok _ => ((view.resolvedBy group).storing store).counted

/-- How compiling a schema for a view ends, once nobody resolves for it any more. -/
structure Compiled (world : World) (id : ViewId) (view : View) (result : Except Fault Value)
    (after : World) (c : Compilation) : Prop where
  sound : c.Sound after
  begun {start : Reactor Body} : start.Aside world.reactor → start.Aside c.before
  size : c.before.effects.size = world.reactor.effects.size
  found : ∃ store, after.views[id]? = some (view.recompiled c.group store result)
  others {other : ViewId} : other ≠ id → after.views[other]? = world.views[other]?
  ended {value : Value} : result = .ok value →
    (∃ closure, value = .handle .closure closure) ∧ after.memory.reads = []

theorem World.found_withView_of_ne {other : ViewId} (apart : other ≠ id) (change : View → View) :
    (world.withView id change).views[other]? = world.views[other]? :=
  Array.getElem?_modify.trans (if_neg apart.symm)

theorem Act.compileFor_spec (performs : Compilation.Performs runner) {schema : Value}
    {stopped : World} {result : Except Fault Value}
    (ran : (compileFor runner id schema).run world = (result, after))
    (found : world.views[id]? = some view) (ended : world.withReactor view.stopping = stopped)
    (settled : stopped.reactor.Settled stopped.memory.depCount)
    (calm : stopped.reactor.activeEffect = none) (refs : Array RefCell) (cells : RefId → Prop)
    (kept : Begins refs stopped.memory.refs)
    (own : ∀ {cell}, cells cell →
      (Compilation.opening settled id view refs cells).Owns stopped.memory cell) :
    ∃ c, Compiled stopped id view result after c ∧ c.refs = refs ∧ c.cells = cells := by
  have opened := Compilation.sound_opening settled calm id kept own
  have known : stopped.views[id]? = some view := by
    rw [← ended]
    exact found
  have known : (stopped.readied id view).views[id]? = some ((view.resolvedBy
      stopped.reactor.scopes.size).storing stopped.memory.newSite.store) :=
    found_withView (found_withView known _) _
  have others {other : ViewId} (apart : other ≠ id) :
      (stopped.readied id view).views[other]? = stopped.views[other]? :=
    (World.found_withView_of_ne apart _).trans (World.found_withView_of_ne apart _)
  have compiles := Compilation.compiles_stays performs
    (c := .opening settled id view refs cells) nofun rfl
  have compiled : Along (Compilation.opening settled id view refs cells).Stays (do
      let scope ← observe (Observe.newScope "root")
      compileSchema runner stopped.compilers.size [scope] schema) :=
    compiles.bind (compiles.look fun _ looks => looks.newScope "root") fun scope =>
      compiles.schema [scope] schema
  have sound := compiled _ opened
  rw [run_compileFor found ended calm] at ran
  have before {start : Reactor Body} (aside : start.Aside stopped.reactor) :
      start.Aside (Compilation.opening settled id view refs cells).before :=
    aside.of_eq rfl rfl (fun _ => .inl) fun _ => .inl
  have views : (Compilation.opening settled id view refs cells).views =
      (stopped.readied id view).views := rfl
  generalize stopped.readied id view = ready at *
  unfold compileIn at ran
  rcases run_bind_cases ran with ⟨fault, rfl, begun⟩ | ⟨part, middle, begun, ran⟩ <;>
    rw [run_within] at begun <;> obtain ⟨-, rfl⟩ := Prod.mk.inj begun <;>
      have sound := sound.inScope ready.reactor.activeScope
  · refine ⟨_, ⟨sound, before, rfl, ⟨stopped.memory.newSite.store, ?_⟩, ?_, nofun⟩, rfl, rfl⟩
    · rw [sound.views]
      exact (congrArg (·[id]?) views).trans known
    · intro other apart
      rw [sound.views]
      exact (congrArg (·[other]?) views).trans (others apart)
  · obtain ⟨closure, named, counted, unread⟩ := sound.nameCompiled rfl id
      stopped.reactor.scopes.size stopped.compilers.size part
    rw [ran] at named counted unread
    cases named
    refine ⟨_, ⟨counted, before, rfl, ⟨stopped.memory.newSite.store, ?_⟩, ?_, ?_⟩, rfl, rfl⟩
    · rw [counted.views]
      refine Eq.trans Array.getElem?_modify ?_
      rw [if_pos rfl]
      exact congrArg (Option.map View.counted) ((congrArg (·[id]?) views).trans known)
    · intro other apart
      rw [counted.views]
      refine Eq.trans Array.getElem?_modify ?_
      rw [if_neg apart.symm]
      exact (congrArg (·[other]?) views).trans (others apart)
    · rintro value same
      cases same
      exact ⟨⟨closure, rfl⟩, unread⟩

/-! ## Setting the root -/

namespace Observe

theorem run_equal_handle (old : Value) (kind : HandleKind) (handle : Nat) (memory : Memory) :
    ∃ result, (equal old (.handle kind handle)).run memory = (result, memory) ∧
      ∀ fault, result = .error fault → fault.isCatchable = true := by
  unfold equal
  rw [run_bind_of_ok (run_get memory)]
  unfold Memory.levels
  cases old with
  | incomparable =>
      exact ⟨_, rfl, fun fault same => by cases same; rfl⟩
  | _ => exact ⟨_, rfl, nofun⟩

/-- Comparing with a handle reads nothing, and never fails. -/
theorem run_hasChanged_handle (old : Value) (kind : HandleKind) (handle : Nat) (memory : Memory) :
    ∃ changed, (hasChanged old (.handle kind handle)).run memory = (.ok changed, memory) := by
  unfold hasChanged
  split
  · exact ⟨_, rfl⟩
  · split
    · exact ⟨_, rfl⟩
    · split
      · exact ⟨_, rfl⟩
      · obtain ⟨result, same, caught⟩ := run_equal_handle old kind handle memory
        rw [run_tryCatch, run_bind, same]
        cases result with
        | ok equal => exact ⟨_, rfl⟩
        | error fault =>
            dsimp only
            rw [if_pos (caught fault rfl)]
            exact ⟨_, rfl⟩

end Observe

/-- Looking that reads nothing and leaves memory alone. -/
theorem Compilation.Sound.unread {c : Compilation} {α : Type} (sound : c.Sound world)
    {look : Observe α}
    (finds : c.Finds world.memory (look.run (world.memory.seeing world.outlook)).2)
    (unread : (look.run (world.memory.seeing world.outlook)).2.reads = []) :
    c.Sound ((Act.observe look).run world).2 ∧
      ((Act.observe look).run world).2.memory.reads = [] := by
  rw [Act.run_observe, unread]
  exact ⟨sound.remembers (finds_settled finds), rfl⟩

/-- Writing a handle to one of the compilation's cells, whoever runs. -/
theorem Compilation.Sound.refSet_handle (performs : Performs runner) {c : Compilation}
    (sound : c.Sound world) {cell : RefId} (own : c.cells cell) (unread : world.memory.reads = [])
    (kind : HandleKind) (handle : Nat) :
    c.Sound ((Act.refSet runner cell (.handle kind handle)).run world).2 := by
  obtain ⟨new, found, known, free⟩ := sound.cells own
  obtain ⟨result, same⟩ := Observe.run_hasChanged_handle found.content kind handle
    (world.memory.seeing world.outlook)
  have grown : c.Finds world.memory
      ((Observe.hasChanged found.content (.handle kind handle)).run
        (world.memory.seeing world.outlook)).2 := by
    rw [same]
    exact finds_of_grows (Memory.grows_seeing _ _)
  have compared := sound.unread grown (by rw [same]; exact unread)
  unfold Act.refSet
  rw [run_bind_of_ok (run_get world)]
  dsimp only
  rw [known]
  refine run_bind_after compared.1 fun changed after ran sound => ?_
  rw [ran] at compared
  split
  · have finds : c.Finds after.memory ((Observe.setRef cell (.handle kind handle)).run
        (after.memory.seeing after.outlook)).2 :=
      (finds_of_grows (Memory.grows_seeing _ _)).trans (finds_withContent _ new _)
    have written := sound.unread finds compared.2
    exact run_bind_after written.1 fun _ after _ sound => stays_trigger performs free after sound
  · exact sound

/-! ## The first compilation of a view -/

/-- The effect that compiles a new view has begun to run for the first time. -/
structure Begun (world : World) (id : ViewId) (view : View) (effect : EffectId) : Prop where
  settled : world.reactor.Settled world.memory.depCount
  running : world.reactor.activeEffect = some effect
  known : effect < world.reactor.effects.size
  unread : world.memory.reads = []
  found : world.views[id]? = some view
  fresh : view.resolvers = none
  schema : ∃ cell, world.memory.refs[view.schema]? = some cell ∧
    cell.dep < world.memory.depCount ∧
      ∃ root, world.memory.refs[view.root]? = some root ∧ root.dep ≠ cell.dep ∧
        world.reactor.subscribersOf root.dep = []

theorem Observe.run_refGet {memory : Memory} {cell : RefId} {found : RefCell}
    (known : memory.refs[cell]? = some found) :
    (Observe.refGet cell).run memory = (.ok found.content, memory.reading found.dep) := by
  unfold Observe.refGet
  rw [run_bind_of_ok (run_get memory), known]
  rfl

/-- Reading the schema, as the effect that compiles it. -/
structure Reads (before : World) (dep : DepId) (after : World) : Prop where
  reactor : after.reactor = before.reactor.track dep
  refs : after.memory.refs = before.memory.refs
  depCount : after.memory.depCount = before.memory.depCount
  views : after.views = before.views

theorem Act.reads_refGet {cell : RefId} {found : RefCell}
    (known : world.memory.refs[cell]? = some found) (unread : world.memory.reads = []) :
    ∃ after, (observe (Observe.refGet cell)).run world = (.ok found.content, after) ∧
      Reads world found.dep after := by
  have looked : (Observe.refGet cell).run (world.memory.seeing world.outlook) =
      (.ok found.content, (world.memory.seeing world.outlook).reading found.dep) :=
    Observe.run_refGet known
  have reads : ((world.memory.seeing world.outlook).reading found.dep).reads = [found.dep] :=
    congrArg (found.dep :: ·) unread
  rw [run_observe, looked]
  dsimp only
  rw [reads]
  exact ⟨_, rfl, rfl, rfl, rfl, rfl⟩

theorem Act.compileView_spec (performs : Compilation.Performs runner) {start : Reactor Body}
    {result : Except Fault Unit} (aside : start.Aside world.reactor)
    (late : start.effects.size ≤ effect) (begun : Begun world id view effect)
    (ran : (compileView runner id).run world = (result, after)) :
    ∃ c : Compilation, c.Sound after ∧ start.Aside c.before ∧
      c.before.effects.size = world.reactor.effects.size ∧
        (result = .ok () → ∃ store, after.views[id]? =
          some ((view.resolvedBy c.group).storing store).counted) := by
  obtain ⟨schema, known, inside, root, rooted, apart, free⟩ := begun.schema
  obtain ⟨looking, read, reads⟩ := reads_refGet known begun.unread
  have settled := begun.settled.track begun.running begun.known inside
  have running : looking.reactor.activeEffect = some effect := by
    rw [reads.reactor]
    exact (Reactor.keeps_track world.reactor schema.dep).activeEffect.trans begun.running
  have new : start.IsNew world.reactor.activeEffect := by
    intro other same
    cases begun.running.symm.trans same
    exact late
  have aside : start.Aside looking.reactor := reads.reactor ▸ aside.track new schema.dep
  have size : looking.reactor.effects.size = world.reactor.effects.size := by
    rw [reads.reactor, Reactor.size_track]
  have free : looking.reactor.subscribersOf root.dep = [] := by
    rw [reads.reactor, Reactor.subscribersOf_track_of_ne apart, free]
  rw [← reads.reactor, ← reads.depCount] at settled
  unfold compileView at ran
  rw [run_bind_of_ok (run_viewAt begun.found), run_bind_of_ok read] at ran
  rcases compiling : (compileFor runner id schema.content).run
    (looking.withReactor (.asEffect none)) with ⟨ended, last⟩
  have unresolved : (looking.withReactor (.asEffect none)).withReactor view.stopping =
      looking.withReactor (.asEffect none) := by
    unfold View.stopping
    rw [begun.fresh]
    rfl
  obtain ⟨c, compiled, -, cells⟩ := compileFor_spec performs compiling
    (reads.views ▸ begun.found) unresolved
    ⟨settled.preQueue, settled.postQueue, settled.known⟩ rfl #[] (· = view.root) nofun
    fun {cell} own => ⟨Nat.zero_le cell, root, own ▸ reads.refs ▸ rooted, free⟩
  have sound := compiled.sound.asEffect (some effect)
  have begins : start.Aside c.before :=
    compiled.begun (aside.of_eq rfl rfl (fun _ => .inl) fun _ => .inl)
  have restored : (untracked (compileFor runner id schema.content)).run looking =
      (ended, last.withReactor (.asEffect (some effect))) := by
    unfold untracked
    rw [run_withActiveEffect, compiling, running]
  rcases run_bind_cases ran with ⟨fault, rfl, ended⟩ | ⟨value, middle, ended, rest⟩ <;>
    cases restored.symm.trans ended
  · exact ⟨_, sound, begins, compiled.size.trans size, nofun⟩
  · obtain ⟨⟨closure, rfl⟩, unread⟩ := compiled.ended rfl
    obtain ⟨store, found⟩ := compiled.found
    have own : (c.asEffect (some effect)).cells view.root := (congrFun cells view.root).mpr rfl
    have written := sound.refSet_handle performs own unread .closure closure
    have viewed : (last.withReactor (.asEffect (some effect))).views[id]? = _ := found
    rw [run_bind_of_ok (run_viewAt viewed)] at rest
    have ran : (refSet runner view.root (.handle .closure closure)).run
        (last.withReactor (.asEffect (some effect))) = (result, after) := rest
    rw [ran] at written
    refine ⟨_, written, begins, compiled.size.trans size, fun _ => ⟨store, ?_⟩⟩
    rw [written.views, ← sound.views]
    exact viewed

/-- A view has just been made, and its schema has not been compiled yet. -/
structure Made (start : World) (id : ViewId) (view : View) (world : World) : Prop where
  reactor : world.reactor = (start.reactor.addEffect (.compile id) .pre true).2
  unread : world.memory.reads = []
  found : world.views[id]? = some view
  fresh : view.resolvers = none
  unheard : view.listeners = []
  effect : view.compileEffect = start.reactor.effects.size
  count : start.memory.depCount ≤ world.memory.depCount
  cells : ∃ schema root, world.memory.refs[view.schema]? = some schema ∧
    world.memory.refs[view.root]? = some root ∧ start.memory.depCount ≤ schema.dep ∧
      schema.dep < root.dep ∧ root.dep < world.memory.depCount

/-- How the first compilation of a view ends. -/
structure FirstCompiled (start : World) (id : ViewId) (view : View) (world : World)
    (group : EffectScopeId) (store : LiveMapId) : Prop where
  found : world.views[id]? = some ((view.resolvedBy group).storing store).counted
  members {effect : EffectId} : effect ∈ world.reactor.membersOf group →
    start.reactor.effects.size ≤ effect
  all {effect : EffectId} {kind : Body × Timing} : start.reactor.effects.size ≤ effect →
    world.reactor.kindOf effect = some kind →
      effect = start.reactor.effects.size ∨ effect ∈ world.reactor.membersOf group

theorem Compilation.Sound.firstCompiled {c : Compilation} {start : World} {store : LiveMapId}
    (sound : c.Sound world) (size : c.before.effects.size = start.reactor.effects.size + 1)
    (found : world.views[id]? = some ((view.resolvedBy c.group).storing store).counted) :
    FirstCompiled start id view world c.group store where
  found := found
  members {effect} member := by
    obtain ⟨members, known, late⟩ := sound.group
    unfold Reactor.membersOf at member
    rw [known] at member
    have later := late effect member
    rw [size] at later
    exact Nat.le_of_succ_le later
  all {effect kind} new known := by
    rcases Nat.eq_or_lt_of_le new with same | later
    · exact .inl same.symm
    · exact .inr (sound.members (size ▸ later) known).1

theorem begun_of_made {start : World} (settled : start.reactor.Settled start.memory.depCount)
    (made : Made start id view world) :
    Begun ((world.withReactor (·.beginRun start.reactor.effects.size)).withReactor
      (.asEffect (some start.reactor.effects.size))) id view start.reactor.effects.size := by
  have added := (settled.addEffect (.compile id) .pre true).weaken made.count
  obtain ⟨scopes, same⟩ := Reactor.fields_addEffect start.reactor (.compile id) .pre true
  have reactor := made.reactor.trans (congrArg Prod.snd same)
  rw [← made.reactor] at added
  have ready := added.beginRun start.reactor.effects.size
  constructor
  case settled => exact ⟨ready.preQueue, ready.postQueue, ready.known⟩
  case running => rfl
  case known =>
    refine Nat.lt_of_lt_of_eq ?_ (Reactor.size_beginRun world.reactor _).symm
    rw [reactor]
    exact Nat.lt_of_lt_of_eq (Nat.lt_succ_self _) (Array.size_push ..).symm
  case unread => exact made.unread
  case found => exact made.found
  case fresh => exact made.fresh
  case schema =>
    obtain ⟨schema, root, known, rooted, new, later, inside⟩ := made.cells
    refine ⟨schema, known, Nat.lt_trans later inside, root, rooted, Nat.ne_of_gt later, ?_⟩
    refine List.eq_nil_iff_forall_not_mem.mpr fun other reads => ?_
    have reads := Reactor.mem_subscribersOf_of_beginRun reads
    rw [reactor] at reads
    have inside := (settled.known reads).2
    exact absurd inside (Nat.not_lt_of_le (Nat.le_trans new (Nat.le_of_lt later)))

/-- A run of an effect that compiles a view. -/
theorem Act.run_runEffect_compile {flushLimit nesting : Nat} {cell : Effect Body}
    {result : Except Fault Unit} {last : World}
    (found : world.reactor.effects[effect]? = some cell) (compiles : cell.body = .compile id)
    (active : cell.active = true)
    (viewed : (compileView (.bounded flushLimit nesting) id).run
      ((world.withReactor (·.beginRun effect)).withReactor (.asEffect (some effect))) =
        (result, last)) :
    (runEffect (.bounded flushLimit (nesting + 1)) effect).run world =
      (result.map fun _ => .none, last.withReactor (.asEffect world.reactor.activeEffect)) := by
  have performed : (Runner.bounded flushLimit (nesting + 1)).perform (.compile id) =
      silently (compileView (.bounded flushLimit nesting) id) := rfl
  have outer : (world.withReactor (·.beginRun effect)).reactor.activeEffect =
      world.reactor.activeEffect := (Reactor.settles_beginRun world.reactor effect).activeEffect
  rw [run_runEffect _ found, if_pos active, run_withActiveEffect, compiles, performed]
  unfold silently
  rw [run_bind, viewed, outer]
  cases result <;> rfl

theorem Act.run_compile_first {start : World} {flushLimit nesting : Nat}
    {result : Except Fault Value} (settled : start.reactor.Settled start.memory.depCount)
    (calm : start.reactor.activeEffect = none) (made : Made start id view world)
    (ran : (runEffect (.bounded flushLimit nesting) start.reactor.effects.size).run world =
      (result, after)) :
    start.reactor.Aside after.reactor ∧ after.reactor.activeEffect = none ∧
      ∀ value, result = .ok value →
        ∃ group store, FirstCompiled start id view after group store := by
  have added := settled.addEffect (.compile id) .pre true
  have aside := settled.aside.addEffect (.compile id) .pre true
  have found := Reactor.found_addEffect start.reactor (.compile id) .pre true
  obtain ⟨scopes, same⟩ := Reactor.fields_addEffect start.reactor (.compile id) .pre true
  have reactor := made.reactor.trans (congrArg Prod.snd same)
  have size : world.reactor.effects.size = start.reactor.effects.size + 1 := by
    rw [reactor]
    exact Array.size_push ..
  have quiet : world.reactor.activeEffect = none := reactor ▸ calm
  rw [Reactor.fst_addEffect, ← made.reactor] at found
  rw [← made.reactor] at added aside
  have begun := begun_of_made settled made
  have aside : Reactor.Aside start.reactor (world.reactor.beginRun start.reactor.effects.size) :=
    aside.beginRun (Nat.le_refl _)
  have begunSize := Reactor.size_beginRun world.reactor start.reactor.effects.size
  cases nesting with
  | zero =>
      rw [run_runEffect _ found, if_pos (by rfl), run_withActiveEffect] at ran
      obtain ⟨rfl, rfl⟩ := Prod.mk.inj ran
      have outer :=
        (Reactor.settles_beginRun world.reactor start.reactor.effects.size).activeEffect
      exact ⟨aside.of_eq rfl rfl (fun _ => .inl) fun _ => .inl, outer.trans quiet, nofun⟩
  | succ nesting =>
      rcases viewed : (compileView (.bounded flushLimit nesting) id).run
        ((world.withReactor (·.beginRun start.reactor.effects.size)).withReactor
          (.asEffect (some start.reactor.effects.size))) with ⟨ended, last⟩
      rw [run_runEffect_compile found rfl rfl viewed] at ran
      obtain ⟨rfl, rfl⟩ := Prod.mk.inj ran
      obtain ⟨c, sound, begins, counted, views⟩ := compileView_spec
        (Compilation.performs_bounded flushLimit nesting)
        (by exact aside.of_eq rfl rfl (fun _ => .inl) fun _ => .inl) (Nat.le_refl _) begun viewed
      have sound := sound.asEffect world.reactor.activeEffect
      refine ⟨begins.trans sound.aside, quiet, fun value same => ?_⟩
      cases ended with
      | error fault => cases same
      | ok _ =>
          obtain ⟨store, found⟩ := views rfl
          exact ⟨_, store, sound.firstCompiled ((counted.trans begunSize).trans size) found⟩

end ReactiveSchema
