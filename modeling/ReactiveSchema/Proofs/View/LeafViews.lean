import ReactiveSchema.Proofs.View.CompiledLeaves

/-!
# Views of an element with a text

A view is compiled for the first time and rendered, the schema of which is an element with a
scalar inside: it then has an element with the text of the scalar as its output.
-/

namespace ReactiveSchema

open Observe Text

variable {world : World} {runner : Runner} {tag : String} {child : Value} {raw : MapId}
  {id : ViewId} {view : View} {text : Option String} {entries : Entries Value}

/-! ## Rendering a view -/

/-- A view has an element with a text inside as its output. -/
def World.Displays (world : World) (id : ViewId) (tag : String) (text : Option String) : Prop :=
  ∃ view written node, world.views[id]? = some view ∧ view.output = .node node ∧
    text = some written ∧ world.memory.HoldsLeaf node tag written

/-- The root cell of a view holds what an element with a text inside was compiled to. -/
structure World.Ready (world : World) (id : ViewId) (view : View) (tag : String)
    (text : Option String) : Prop where
  found : world.views[id]? = some view
  unheard : view.listeners = []
  root : ∃ closure dep, world.memory.refs[view.root]? = some ⟨.handle .closure closure, dep⟩ ∧
    world.Names closure view.root tag text
  rest : world.memory.settled = world.memory

theorem World.Ready.withReactor (ready : world.Ready id view tag text)
    (change : Reactor Body → Reactor Body) : (world.withReactor change).Ready id view tag text :=
  ⟨ready.found, ready.unheard, ready.root, ready.rest⟩

namespace Act

/-- Reading a cell in memory at rest. -/
theorem run_observe_refGet {cell : RefId} {found : RefCell}
    (known : world.memory.refs[cell]? = some found) (rest : world.memory.settled = world.memory) :
    (observe (refGet cell)).run world =
      (.ok found.content, world.withReactor (·.track found.dep)) := by
  have looked : (refGet cell).run (world.memory.seeing world.outlook) =
      (.ok found.content, (world.memory.seeing world.outlook).reading found.dep) :=
    run_refGet known
  have reads : ((world.memory.seeing world.outlook).reading found.dep).reads = [found.dep] :=
    congrArg (found.dep :: ·) (World.unread_of_rest rest)
  have same : ((world.memory.seeing world.outlook).reading found.dep).settled = world.memory := rest
  rw [run_observe, looked]
  dsimp only
  rw [reads, same]
  rfl

theorem run_thunkOf {closure : Nat} {part : Thunk}
    (found : world.closures[closure]? = some (.thunk part)) :
    (thunkOf (.handle .closure closure)).run world = (.ok part, world) := by
  unfold thunkOf
  refine (run_bind_of_ok (run_get world)).trans ?_
  rw [found]
  rfl

/-- Take the output of a pass, and tell the listeners. -/
def tellOutput (runner : Runner) (id : ViewId) (output : Value) : Act Unit := do
  modifyView id fun view => { view with output, renderCount := view.renderCount + 1 }
  let view ← viewAt id
  observe (log ("DEBUG skema.view: Rendered schema view (pass " ++ toString view.renderCount ++
    ")"))
  untracked (callListeners runner output view.listeners)

theorem concludes_tellOutput {node : NodeId} {written : String} {may : Fault → Prop}
    (found : world.views[id]? = some view) (unheard : view.listeners = [])
    (holds : world.memory.HoldsLeaf node tag written) :
    Concludes may (fun _ after => after.Displays id tag (some written))
      ((tellOutput runner id (.node node)).run world) := by
  let shown : View → View := fun view =>
    { view with output := .node node, renderCount := view.renderCount + 1 }
  have viewed := found_withView found shown
  have logged (record : String) : Concludes may (fun _ after => ∃ (memory : Memory) (reactor : _),
      memory.HoldsLeaf node tag written ∧
        after = { world.withView id shown with memory := memory.settled, reactor })
      ((observe (log record)).run (world.withView id shown)) := concludes_observe (.well holds)
  unfold tellOutput
  rw [run_bind_of_ok (run_modifyView id shown world), run_bind_of_ok (run_viewAt viewed)]
  refine (logged _).bind ?_
  rintro _ _ ⟨memory, reactor, holds, rfl⟩
  have nobody : (shown view).listeners = [] := unheard
  rw [nobody]
  exact .well ⟨shown view, written, node, viewed, rfl, rfl, holds⟩

theorem concludes_renderView_leaf (runner : Runner) (ready : world.Ready id view tag text) :
    Concludes (Unwritten text) (fun _ after => after.Displays id tag text)
      ((renderView runner id).run world) := by
  obtain ⟨closure, dep, known, content, refs, compiled, yields, keeps⟩ := ready.root
  have read := run_observe_refGet known ready.rest
  have part : (thunkOf (.handle .closure closure)).run (world.withReactor (·.track dep)) =
      (.ok (.node none (.str tag) .nothing content), world.withReactor (·.track dep)) :=
    run_thunkOf compiled
  obtain ⟨checked, asked⟩ : ∃ checked, (isChecked view).run (world.withReactor (·.track dep)) =
      (.ok checked, world.withReactor (·.track dep)) := ⟨_, run_bind_of_ok (run_get _)⟩
  have kept : KeepsCells view.root refs ((world.withReactor (·.track dep)).memory.seeing
    (world.withReactor (·.track dep)).outlook) := keeps
  unfold renderView
  rw [run_bind_of_ok (run_viewAt ready.found), run_bind_of_ok read, run_bind_of_ok part,
    run_bind_of_ok asked]
  refine (concludes_observe (concludes_evaluatePass_leaf yields kept checked tag)).bind ?_
  rintro _ _ ⟨memory, reactor, ⟨written, node, rfl, rfl, holds⟩, rfl⟩
  exact concludes_tellOutput ready.found ready.unheard holds

end Act

/-! ## Compiling a view -/

/-- A view of an element with something inside is about to be compiled, with data to look at. -/
structure Posed (world : World) (view : View) (tag : String) (child : Value)
    (entries : Entries Value) : Prop where
  rest : world.memory.settled = world.memory
  unheard : view.listeners = []
  schema : ∃ raw dep, world.memory.refs[view.schema]? = some ⟨.map raw, dep⟩ ∧
    world.memory.maps[raw]? = some (rawLeaf tag child)
  root : ∃ closure dep, world.memory.refs[view.root]? = some ⟨.handle .closure closure, dep⟩ ∧
    closure < world.closures.size ∧ dep < world.memory.depCount
  data : ∃ face live, view.data = .liveMap face ∧ world.memory.liveMaps[face]? = some live ∧
    live.deps = [] ∧ world.memory.maps[live.raw]? = some entries

theorem Posed.withReactor (posed : Posed world view tag child entries)
    (change : Reactor Body → Reactor Body) :
    Posed (world.withReactor change) view tag child entries :=
  ⟨posed.rest, posed.unheard, posed.schema, posed.root, posed.data⟩

/-- The world while nobody runs, once the cell of a schema was read. -/
def World.looking (world : World) (dep : DepId) : World :=
  (world.withReactor (·.track dep)).withReactor (.asEffect none)

/-- The world as an element is compiled for a view. -/
def World.compilingLeaf (world : World) (id : ViewId) (view : View) : World :=
  ((world.readied id view).rooted world.reactor.scopes.size).entering world.compilers.size

/-- Other than itself, a closure counts as changed. -/
theorem gives_hasChanged_closure {old new : Nat} (differs : old ≠ new) (memory : Memory) :
    memory.Gives (hasChanged (.handle .closure old) (.handle .closure new)) true := by
  have apart : (Value.handle .closure old).identical (.handle .closure new) = false := by
    simpa [Value.identical] using differs
  have unequal : memory.Gives (equal (.handle .closure old) (.handle .closure new)) false := by
    rw [← apart]
    rfl
  have compared : memory.Gives (do return !(← equal (.handle .closure old)
      (.handle .closure new)) : Observe Bool) true := unequal.map (!·)
  unfold Memory.Gives at compared ⊢
  unfold hasChanged
  rw [apart, if_neg Bool.false_ne_true, if_neg (by rintro ⟨⟩), if_neg (by simp [Value.typeName]),
    run_tryCatch, compared]

namespace Act

/-- What was compiled goes to the root cell, which nobody has read. -/
theorem run_setRoot (runner : Runner) {closure old : Nat} {dep : DepId}
    (found : world.views[id]? = some view) (unheard : view.listeners = [])
    (held : world.memory.refs[view.root]? = some ⟨.handle .closure old, dep⟩)
    (unread : world.reactor.subscribersOf dep = []) (fresh : old ≠ closure)
    (names : world.Names closure view.root tag text)
    (rest : world.memory.settled = world.memory) :
    ∃ after, (do refSet runner (← viewAt id).root (.handle .closure closure) : Act Unit).run world =
      (.ok (), after) ∧ after.Ready id view tag text := by
  obtain ⟨content, refs, compiled, yields, keeps⟩ := names
  have modified (cell : RefId) :
      (world.withContent view.root (.handle .closure closure)).memory.refs[cell]? =
        if view.root = cell then world.memory.refs[cell]?.map fun found =>
          { found with content := .handle .closure closure }
        else world.memory.refs[cell]? := Array.getElem?_modify
  refine ⟨_, (run_bind_of_ok (run_viewAt found)).trans
    (run_refSet_unheard runner held rest (gives_hasChanged_closure fresh) unread), ?_⟩
  constructor
  case found => exact found
  case unheard => exact unheard
  case root =>
    refine ⟨closure, dep, ?_, content, refs, compiled, yields, fun cell other apart known => ?_⟩
    · refine (modified _).trans ?_
      rw [if_pos rfl, held]
      rfl
    · refine (modified _).trans ?_
      rw [if_neg (Ne.symm apart)]
      exact keeps cell other apart known
  case rest => rfl

theorem concludes_compileFor_leaf (found : world.views[id]? = some view)
    (fresh : view.resolvers = none) (calm : world.reactor.activeEffect = none)
    (held : world.memory.maps[raw]? = some (rawLeaf tag child)) (named : tag.isEmpty = false)
    (other : tag ≠ textTag)
    (compiles : CompilesTo runner world.compilers.size tag child view.root text
      (world.compilingLeaf id view)) :
    Concludes (Unwritten text) (CompiledIn id view.root tag text (world.readied id view))
      ((compileFor runner id (.map raw)).run world) := by
  have unresolved : world.withReactor view.stopping = world := by
    unfold View.stopping
    rw [fresh]
    rfl
  have kept : world.memory.withStore.maps[raw]? = some (rawLeaf tag child) :=
    begins_push _ _ _ _ held
  have schema : (world.readied id view).memory.mapAt raw = rawLeaf tag child :=
    (congrArg (·.getD []) kept :)
  have quiet : (world.readied id view).reactor.activeEffect = none := calm
  rw [run_compileFor found unresolved calm]
  exact concludes_compileIn_leaf quiet rfl schema named other id world.reactor.scopes.size compiles

theorem concludes_compileView_leaf {effect : EffectId} (begun : Begun world id view effect)
    (posed : Posed world view tag child entries) (named : tag.isEmpty = false)
    (other : tag ≠ textTag)
    (compiles : ∀ dep, dep < world.memory.depCount →
      CompilesTo runner world.compilers.size tag child view.root text
        ((world.looking dep).compilingLeaf id view)) :
    Concludes (Unwritten text) (fun _ after => ∃ view, after.Ready id view tag text)
      ((compileView runner id).run world) := by
  obtain ⟨raw, dep, known, held⟩ := posed.schema
  obtain ⟨old, rooted, root, early, inside⟩ := posed.root
  obtain ⟨cell, seen, first, own, kept, apart, free⟩ := begun.schema
  obtain rfl : cell = ⟨.map raw, dep⟩ := Option.some.inj (seen.symm.trans known)
  obtain rfl : own = ⟨.handle .closure old, rooted⟩ := Option.some.inj (kept.symm.trans root)
  have found : (world.looking dep).views[id]? = some view := begun.found
  have ends := concludes_compileFor_leaf found begun.fresh rfl held named other (compiles dep first)
  unfold compileView
  rw [run_bind_of_ok (run_viewAt begun.found),
    run_bind_of_ok (run_observe_refGet known posed.rest)]
  refine (concludes_withActiveEffect ends).bind ?_
  rintro _ _ ⟨last, ⟨rfl, names, views, refs, unread, rest⟩, rfl⟩
  have viewed : last.views[id]? = some ((view.resolvedBy (world.looking dep).reactor.scopes.size
      |>.storing world.memory.newSite.store).counted) := by
    rw [views]
    exact found_withView (found_withView (found_withView found _) _) _
  have unheard : last.reactor.subscribersOf rooted = [] :=
    unread (Nat.lt_succ_of_lt inside) ((Reactor.subscribersOf_track_of_ne apart).trans free)
  obtain ⟨after, set, ready⟩ : ∃ after, (do
      refSet runner (← viewAt id).root
        (.handle .closure ((world.looking dep).readied id view).closures.size) : Act Unit).run
          (last.withReactor (.asEffect (world.withReactor (·.track dep)).reactor.activeEffect)) =
        (.ok (), after) ∧ after.Ready id _ tag text :=
    run_setRoot runner viewed posed.unheard (refs _ _ root) unheard (Nat.ne_of_lt early) names rest
  rw [set]
  exact .well ⟨_, ready⟩

theorem concludes_runEffect_render (limit nesting : Nat) {effect : EffectId} {cell : Effect Body}
    (found : world.reactor.effects[effect]? = some cell) (renders : cell.body = .render id)
    (active : cell.active = true) (ready : world.Ready id view tag text) :
    Concludes (Unwritten text) (fun _ after => after.Displays id tag text)
      ((runEffect (.bounded limit (nesting + 1)) effect).run world) := by
  have begun : (world.begun effect).Ready id view tag text :=
    (ready.withReactor _).withReactor _
  have rendered : Concludes (Unwritten text) (fun _ after => after.Displays id tag text)
      (((Runner.bounded limit (nesting + 1)).perform cell.body).run (world.begun effect)) := by
    rw [renders]
    exact (concludes_renderView_leaf _ begun).bind fun _ _ shows => .well shows
  refine (concludes_runEffect found active rendered).mono ?_
  rintro _ _ ⟨last, shows, rfl⟩
  exact shows

/-- A view that is ready is rendered by a new effect. -/
theorem concludes_firstRender_leaf (limit nesting : Nat) (ready : world.Ready id view tag text) :
    Concludes (Unwritten text) (fun value after => value = id ∧ after.Displays id tag text) ((do
      let renderEffect ← newMember (.render id) .post
      modifyView id (.renderedBy renderEffect)
      let _ ← runEffect (.bounded limit (nesting + 1)) renderEffect
      return id : Act ViewId).run world) := by
  have found := Reactor.found_addEffect world.reactor (.render id) .post true
  rw [run_bind_of_ok (run_newMember _ _ _), run_bind_of_ok (run_modifyView _ _ _)]
  generalize (world.reactor.addEffect (.render id) .post true).1 = effect at found
  have still : World.Ready ((world.withReactor fun reactor =>
      (reactor.addEffect (.render id) .post true).2).withView id (.renderedBy effect)) id
        (view.renderedBy effect) tag text :=
    ⟨found_withView ready.found _, ready.unheard, ready.root, ready.rest⟩
  refine (concludes_runEffect_render limit nesting found rfl rfl still).bind ?_
  intro _ after shows
  exact .well ⟨rfl, shows⟩

theorem concludes_bringUp_leaf {start : World} {limit nesting : Nat}
    (settled : start.reactor.Settled start.memory.depCount) (made : Made start id view world)
    (posed : Posed world view tag child entries) (named : tag.isEmpty = false)
    (other : tag ≠ textTag)
    (compiles : ∀ dep, dep < world.memory.depCount →
      CompilesTo (.bounded limit nesting) world.compilers.size tag child view.root text
        (((world.begun start.reactor.effects.size).looking dep).compilingLeaf id view)) :
    Concludes (Unwritten text) (fun value after => value = id ∧ after.Displays id tag text)
      ((bringUp (.bounded limit (nesting + 1)) id start.reactor.effects.size).run world) := by
  have first := Reactor.found_addEffect start.reactor (.compile id) .pre true
  rw [Reactor.fst_addEffect, ← made.reactor] at first
  have compiled : Concludes (Unwritten text) (fun _ after => ∃ view, after.Ready id view tag text)
      (((Runner.bounded limit (nesting + 1)).perform (.compile id)).run
        (world.begun start.reactor.effects.size)) := by
    have posed : Posed (world.begun start.reactor.effects.size) view tag child entries :=
      (posed.withReactor _).withReactor _
    have viewed :=
      concludes_compileView_leaf (begun_of_made settled made) posed named other compiles
    exact viewed.bind fun _ _ ready => .well ready
  unfold bringUp
  refine (concludes_runEffect first rfl compiled).bind ?_
  rintro _ _ ⟨last, ⟨view, ready⟩, rfl⟩
  generalize (world.reactor.beginRun start.reactor.effects.size).activeEffect = outer
  exact concludes_firstRender_leaf limit nesting (ready.withReactor _)

end Act

end ReactiveSchema
