import ReactiveSchema.Proofs.View.FirstCompile
import ReactiveSchema.Script.Session

/-!
# Rendering once

A one-shot rendering mounts a view, takes the output and unmounts.  All effects of the view
come later than those that there were, nothing that anybody else had read is told to have
changed, and all of them are stopped at the end: so who is subscribed to the data is who was
subscribed before.  A rendering that fails is not unmounted, and leaves its effects behind.
-/

namespace ReactiveSchema

variable {world middle after : World} {runner : Runner} {id : ViewId} {view : View}
  {effect : EffectId}

/-! ## A view that is mounted -/

/-- All effects that came later are those of a view that nobody listens to. -/
structure Owned (start reactor : Reactor Body) (view : View) (group : EffectScopeId) : Prop where
  unheard : view.listeners = []
  resolvers : view.resolvers = some group
  compileEffect : start.effects.size ≤ view.compileEffect
  renderEffect : start.effects.size ≤ view.renderEffect
  members {effect : EffectId} : effect ∈ reactor.membersOf group → start.effects.size ≤ effect
  all {effect : EffectId} {kind : Body × Timing} : start.effects.size ≤ effect →
    reactor.kindOf effect = some kind →
      effect = view.compileEffect ∨ effect = view.renderEffect ∨ effect ∈ reactor.membersOf group

/-- A view is mounted, aside of the effects that there were. -/
structure Standing (start : Reactor Body) (id : ViewId) (world : World) : Prop where
  aside : start.Aside world.reactor
  late : start.IsNew world.reactor.activeEffect
  owned : ∃ view group, world.views[id]? = some view ∧ Owned start world.reactor view group

namespace Standing

variable {start : Reactor Body}

/-- A step of the effects that makes none. -/
theorem moved (standing : Standing start id world) (change : Reactor Body → Reactor Body)
    (moves : Reactor.Moves start world.reactor (change world.reactor)) :
    Standing start id (world.withReactor change) := by
  obtain ⟨view, group, found, owned⟩ := standing.owned
  have members : (change world.reactor).membersOf group = world.reactor.membersOf group := by
    unfold Reactor.membersOf
    rw [moves.scopes]
  refine ⟨moves.aside standing.aside, ?_, view, group, found,
    { owned with members := ?_, all := ?_ }⟩
  · intro effect running
    exact standing.late effect (moves.activeEffect.symm.trans running)
  · exact fun member => owned.members (members ▸ member)
  · intro effect kind new known
    rw [World.withReactor_reactor, members]
    exact owned.all new ((moves.kinds effect).symm.trans known)

theorem asEffect (standing : Standing start id world) {running : Option EffectId}
    (late : start.IsNew running) :
    Standing start id (world.withReactor (.asEffect running)) := by
  obtain ⟨view, group, found, owned⟩ := standing.owned
  refine ⟨standing.aside.of_eq rfl rfl (fun _ => .inl) fun _ => .inl, late, view, group, found, ?_⟩
  exact { owned with }

theorem composable : Composable fun before after =>
    Standing start id before → Standing start id after where
  refl _ standing := standing
  trans first second standing := second (first standing)

theorem observe {α : Type} (look : Observe α) : Along (fun before after =>
    Standing start id before → Standing start id after) (Act.observe look) := by
  intro world standing
  have remembered : Standing start id (world.withMemory
      (look.run (world.memory.seeing world.outlook)).2.settled) :=
    ⟨standing.aside, standing.late, standing.owned⟩
  exact remembered.moved (·.trackAll _) (.trackAll _ standing.late _)

/-- A view is rendered that nobody listens to. -/
theorem renderView : Along (fun before after =>
    Standing start id before → Standing start id after) (Act.renderView runner id) := by
  have path : Composable fun before after => Standing start id before → Standing start id after :=
    composable
  refine path.bind (path.closed.viewAt id) fun view => ?_
  refine path.bind (observe _) fun closure => ?_
  refine path.bind (path.closed.thunkOf closure) fun root => ?_
  refine path.bind (path.closed.isChecked view) fun checked => ?_
  refine path.bind (observe _) fun output => ?_
  refine path.bind ?_ fun _ => ?_
  · intro world standing
    obtain ⟨view, group, found, owned⟩ := standing.owned
    exact ⟨standing.aside, standing.late, _, group, Act.found_withView found _, { owned with }⟩
  · intro world standing
    obtain ⟨view, group, found, owned⟩ := standing.owned
    rw [run_bind_of_ok (Act.run_viewAt found), owned.unheard]
    refine path.bind (observe _) (fun _ world standing => ?_) world standing
    unfold Act.untracked
    rw [Act.run_withActiveEffect]
    have nobody : start.IsNew none := fun effect same => by cases same
    exact (standing.asEffect nobody).asEffect standing.late

/-- The effect that renders the view runs. -/
theorem runEffect (flushLimit nesting : Nat) {cell : Effect Body}
    (standing : Standing start id world) (new : start.effects.size ≤ effect)
    (found : world.reactor.effects[effect]? = some cell) (renders : cell.body = .render id) :
    Standing start id ((Act.runEffect (.bounded flushLimit nesting) effect).run world).2 := by
  have performs : Along (fun before after => Standing start id before → Standing start id after)
      ((Runner.bounded flushLimit nesting).perform cell.body) := by
    rw [renders]
    cases nesting with
    | zero => exact fun _ standing => standing
    | succ nesting => exact composable.bind renderView fun _ => composable.pure _
  rw [Act.run_runEffect _ found]
  split
  case isTrue =>
    have begun := standing.moved (·.beginRun effect) (.beginRun world.reactor new)
    have own : start.IsNew (some effect) := by
      intro other same
      cases same
      exact new
    rw [Act.run_withActiveEffect]
    exact (performs _ (begun.asEffect own)).asEffect begun.late
  case isFalse => exact performs world standing

end Standing

/-! ## Mounting -/

/-- Have an effect compile a view. -/
def View.compiledBy (compileEffect : EffectId) (view : View) : View :=
  { view with compileEffect }

/-- A view that has not been compiled, whose cells come next in memory. -/
def View.new (environment : EnvironmentId) (library : List (String × Value)) (data : Value)
    (memory : Memory) (schema : Value) : View :=
  ⟨environment, library, data, memory.refs.size, (memory.withRef schema).refs.size,
    memory.liveMaps.size, none, [], .none, 0, 0, 0, 0⟩

/-- The world with the cells and the store of a new view. -/
def World.making (world : World) (memory : Memory) (schema : Value) : World :=
  (world.withMemory (((memory.withRef schema).settled.withRef
    (.handle .closure world.closures.size)).settled.withStore.settled)).withClosure
      (.thunk .nothing)

/-- The world with a new view, which an effect is to compile. -/
def World.mounting (world : World) (memory : Memory) (environment : EnvironmentId)
    (library : List (String × Value)) (data schema : Value) : World :=
  (((world.making memory schema).withNewView
    (.new environment library data memory schema)).withReactor fun reactor =>
      (reactor.addEffect (.compile world.views.size) .pre true).2).withView world.views.size
        (.compiledBy world.reactor.effects.size)

theorem made_mounting {memory : Memory} (grown : Memory.Grows world.memory memory)
    (environment : EnvironmentId) (library : List (String × Value)) (data schema : Value) :
    Made world world.views.size
      ((View.new environment library data memory schema).compiledBy world.reactor.effects.size)
      (world.mounting memory environment library data schema) where
  reactor := rfl
  unread := rfl
  found := Act.found_withView (by exact Array.getElem?_push_size) _
  fresh := rfl
  unheard := rfl
  effect := rfl
  count := Nat.le_trans grown.depCount (Nat.le_add_right _ 3)
  cells := by
    refine ⟨⟨schema, memory.depCount⟩, ⟨.handle .closure world.closures.size, memory.depCount + 1⟩,
      ?_, ?_, grown.depCount, Nat.lt_succ_self _, ?_⟩
    · exact begins_push _ _ _ _ Array.getElem?_push_size
    · exact Array.getElem?_push_size
    · exact Nat.lt_succ_of_lt (Nat.lt_succ_self _)

/-- Have an effect render a view. -/
def View.renderedBy (renderEffect : EffectId) (view : View) : View :=
  { view with renderEffect }

namespace Act

/-- Compile and render a new view for the first time. -/
def bringUp (runner : Runner) (id : ViewId) (compileEffect : EffectId) : Act ViewId := do
  let _ ← runEffect runner compileEffect
  let renderEffect ← newMember (.render id) .post
  modifyView id (.renderedBy renderEffect)
  let _ ← runEffect runner renderEffect
  return id

theorem standing_of_firstCompiled {start : World} {group : EffectScopeId} {store : LiveMapId}
    (aside : start.reactor.Aside world.reactor) (calm : world.reactor.activeEffect = none)
    (unheard : view.listeners = []) (effect : view.compileEffect = start.reactor.effects.size)
    (compiled : FirstCompiled start id view world group store) :
    Standing start.reactor id ((world.withReactor fun reactor =>
      (reactor.addEffect (.render id) .post true).2).withView id
        (.renderedBy world.reactor.effects.size)) := by
  have members := world.reactor.membersOf_addEffect (.render id) .post true group
  have mem {other : EffectId} :
      other ∈ (world.reactor.addEffect (.render id) .post true).2.membersOf group →
        other ∈ world.reactor.membersOf group ∨ other = world.reactor.effects.size := by
    rcases members with same | same <;> rw [same]
    · exact .inl
    · exact fun known => (List.mem_append.mp known).imp_right List.mem_singleton.mp
  have kept {other : EffectId} (known : other ∈ world.reactor.membersOf group) :
      other ∈ (world.reactor.addEffect (.render id) .post true).2.membersOf group := by
    rcases members with same | same <;> rw [same]
    · exact known
    · exact List.mem_append_left _ known
  refine ⟨aside.addEffect (.render id) .post true, ?_, ?_⟩
  · intro other running
    obtain ⟨scopes, same⟩ := Reactor.fields_addEffect world.reactor (.render id) .post true
    have same : (world.reactor.addEffect (.render id) .post true).2.activeEffect = none := by
      rw [same]
      exact calm
    cases same.symm.trans running
  · refine ⟨_, group, found_withView compiled.found _, unheard, rfl, ?_, aside.grown, ?_, ?_⟩
    · exact Nat.le_of_eq effect.symm
    · intro other known
      rcases mem known with early | rfl
      · exact compiled.members early
      · exact aside.grown
    · intro other kind new known
      have known : (world.reactor.addEffect (.render id) .post true).2.kindOf other = some kind :=
        known
      rw [Reactor.kindOf_addEffect] at known
      split at known
      case isTrue last => exact .inr (.inl last)
      case isFalse =>
        rcases compiled.all new known with first | member
        · exact .inl (first.trans effect.symm)
        · exact .inr (.inr (kept member))

theorem bringUp_spec {start : World} {flushLimit nesting : Nat} {result : Except Fault ViewId}
    (settled : start.reactor.Settled start.memory.depCount)
    (calm : start.reactor.activeEffect = none) (made : Made start id view world)
    (ran : (bringUp (.bounded flushLimit nesting) id start.reactor.effects.size).run world =
      (result, after)) :
    start.reactor.Aside after.reactor ∧
      ∀ value, result = .ok value → value = id ∧ Standing start.reactor id after := by
  unfold bringUp at ran
  rcases run_bind_cases ran with ⟨fault, rfl, begun⟩ | ⟨value, middle, begun, ran⟩ <;>
    obtain ⟨aside, quiet, compiled⟩ := run_compile_first settled calm made begun
  · exact ⟨aside, nofun⟩
  obtain ⟨group, store, compiled⟩ := compiled value rfl
  have standing := standing_of_firstCompiled aside quiet made.unheard made.effect compiled
  rw [run_bind_of_ok (run_newMember _ _ _), Reactor.fst_addEffect,
    run_bind_of_ok (run_modifyView _ _ _)] at ran
  have found := Reactor.found_addEffect middle.reactor (.render id) .post true
  rw [Reactor.fst_addEffect] at found
  have rendered := standing.runEffect flushLimit nesting aside.grown found rfl
  rcases run_bind_cases ran with ⟨fault, rfl, once⟩ | ⟨value, last, once, ended⟩ <;>
    rw [once] at rendered
  · exact ⟨rendered.aside, nofun⟩
  · cases ended
    exact ⟨rendered.aside, fun value same => by cases same; exact ⟨rfl, rendered⟩⟩

/-- Data for a view is made live. -/
theorem run_makeData (data : Value) (memory : Memory) :
    ∃ live grown, (match data with
        | .none => do Observe.makeLive (← Observe.newMap [])
        | given => Observe.makeLive given : Observe Value).run memory = (.ok live, grown) ∧
      Memory.Grows memory grown := by
  have made (given : Value) (memory : Memory) : ∃ live grown,
      (Observe.makeLive given).run memory = (.ok live, grown) ∧ Memory.Grows memory grown :=
    ⟨_, _, Observe.run_makeLive given memory, Memory.grows_newFace memory given⟩
  split
  · obtain ⟨live, grown, same, grows⟩ := made (.map memory.maps.size)
      { memory with maps := memory.maps.push [] }
    refine ⟨live, grown, same, Memory.Grows.trans ?_ grows⟩
    exact looks_grows.newMapId [] memory
  · exact made data memory

theorem run_newRef (calm : world.reactor.activeEffect = none) (content : Value) :
    (observe (Observe.newRef content)).run world =
      (.ok world.memory.refs.size, world.withMemory (world.memory.withRef content).settled) := by
  rw [run_observe_calm _ calm]
  rfl

theorem run_newClosure (closure : Closure) (world : World) :
    (newClosure closure).run world =
      (.ok (.handle .closure world.closures.size), world.withClosure closure) := rfl

/-- Mounting on data, once it was made live, makes a view and brings it up. -/
theorem run_mount_live (data : Value) {live : Value} {memory : Memory}
    (calm : world.reactor.activeEffect = none)
    (lived : (observe (match data with
        | .none => do Observe.makeLive (← Observe.newMap [])
        | given => Observe.makeLive given)).run world = (.ok live, world.withMemory memory))
    (environment : EnvironmentId) (schema : Value) (library : List (String × Value)) :
    (mount runner environment schema data library).run world =
      (bringUp runner world.views.size world.reactor.effects.size).run
        (world.mounting memory environment library live schema) := by
  have added : (newMember (.compile world.views.size) .pre).run
      ((world.making memory schema).withNewView (.new environment library live memory schema)) =
      (.ok world.reactor.effects.size, ((world.making memory schema).withNewView
        (.new environment library live memory schema)).withReactor fun reactor =>
          (reactor.addEffect (.compile world.views.size) .pre true).2) := by
    rw [run_newMember, Reactor.fst_addEffect]
    rfl
  have quiet : (world.withMemory memory).reactor.activeEffect = none := calm
  have quiet' : ((world.withMemory memory).withMemory
      (memory.withRef schema).settled |>.withClosure (.thunk .nothing)).reactor.activeEffect =
        none := calm
  have quiet'' : (((world.withMemory memory).withMemory
      (memory.withRef schema).settled |>.withClosure (.thunk .nothing)).withMemory
        ((memory.withRef schema).settled.withRef
          (.handle .closure world.closures.size)).settled).reactor.activeEffect = none := calm
  unfold mount
  refine (run_bind_of_ok lived).trans ?_
  refine (run_bind_of_ok (run_newRef quiet schema)).trans ?_
  refine (run_bind_of_ok (run_newClosure _ _)).trans ?_
  refine (run_bind_of_ok (run_newRef quiet' _)).trans ?_
  refine (run_bind_of_ok (run_newStore quiet'')).trans ?_
  refine (run_bind_of_ok (run_modifyGet _ _)).trans ?_
  refine (run_bind_of_ok added).trans ?_
  exact run_bind_of_ok (run_modifyView world.views.size (View.compiledBy _) _)

/-- Mounting makes a view and brings it up. -/
theorem run_mount (calm : world.reactor.activeEffect = none) (environment : EnvironmentId)
    (schema data : Value) (library : List (String × Value)) :
    ∃ view made, Made world world.views.size view made ∧
      (mount runner environment schema data library).run world =
        (bringUp runner world.views.size world.reactor.effects.size).run made := by
  obtain ⟨live, memory, looked, grows⟩ := run_makeData data (world.memory.seeing world.outlook)
  have grown := ((Memory.grows_seeing _ _).trans grows).trans (Memory.grows_settled memory)
  have lived := run_observe_calm (match data with
    | .none => do Observe.makeLive (← Observe.newMap [])
    | given => Observe.makeLive given) calm
  rw [looked] at lived
  exact ⟨_, _, made_mounting grown environment library live schema,
    run_mount_live data calm lived environment schema library⟩

/-! ## Unmounting -/

/-- Unmounting stops the effects of the view, and drops its listeners. -/
theorem run_unmount (found : world.views[id]? = some view) :
    (unmount id).run world = (.ok (), (world.withReactor fun reactor =>
      view.stopping ((reactor.stop view.renderEffect).stop view.compileEffect)).withView id
        fun view => { view with listeners := [] }) := by
  have kept : (world.withReactor fun reactor =>
    (reactor.stop view.renderEffect).stop view.compileEffect).views[id]? = some view := found
  unfold unmount
  refine (run_bind_of_ok (run_viewAt found)).trans ?_
  refine (run_bind_of_ok (run_modifyReactor (·.stop view.renderEffect) world)).trans ?_
  refine (run_bind_of_ok (run_modifyReactor (·.stop view.compileEffect) _)).trans ?_
  exact run_bind_of_ok (run_stopResolvers kept)

/-- After a view is unmounted, none of the effects is active that have come with it. -/
theorem unmount_spec {start : Reactor Body} (standing : Standing start id world) :
    ∃ after, (unmount id).run world = (.ok (), after) ∧ start.Aside after.reactor ∧
      ∀ effect, start.effects.size ≤ effect → after.reactor.isActive effect = false := by
  obtain ⟨view, group, found, owned⟩ := standing.owned
  have ended := run_unmount found
  unfold View.stopping at ended
  rw [owned.resolvers] at ended
  refine ⟨_, ended, ?_, fun effect new => ?_⟩
  · have stopped := (standing.aside.stop owned.renderEffect).stop owned.compileEffect
    refine stopped.stopScope fun effect member => owned.members ?_
    rwa [Reactor.membersOf_stop, Reactor.membersOf_stop] at member
  · refine (?_ : (((world.reactor.stop view.renderEffect).stop view.compileEffect).stopScope
      group).isActive effect = false)
    cases active : world.reactor.isActive effect with
    | false =>
        refine Reactor.isActive_stopScope_of_stopped group ?_
        exact Reactor.isActive_stop_of_stopped (Reactor.isActive_stop_of_stopped active)
    | true =>
        obtain ⟨cell, known, -⟩ := Reactor.found_of_isActive active
        rcases owned.all new (Reactor.kindOf_of_found known) with rfl | rfl | member
        · exact Reactor.isActive_stopScope_of_stopped group (Reactor.isActive_stop_self _ _)
        · refine Reactor.isActive_stopScope_of_stopped group ?_
          exact Reactor.isActive_stop_of_stopped (Reactor.isActive_stop_self _ _)
        · refine Reactor.isActive_stopScope_of_mem ?_
          rwa [Reactor.membersOf_stop, Reactor.membersOf_stop]

end Act

/-- What rendering once leaves of effects that there were, and of those that came with it. -/
structure LeavesNoTrace (before after : Reactor Body) : Prop where
  old {effect : EffectId} : effect < before.effects.size →
    after.effects[effect]? = before.effects[effect]?
  readers (dep : DepId) : after.subscribersOf dep = before.subscribersOf dep
  stopped {effect : EffectId} : before.effects.size ≤ effect → after.isActive effect = false

/--
A schema is rendered once while no effect runs, waits or is subscribed to what there is not.
Whatever the schema, the data and the components are, nothing happens to effects that there
were, and each of them is subscribed to what it was subscribed to.  When the rendering ends
well, nobody else is subscribed to anything, and no effect is left active that came with it:
it leaves no trace.
-/
theorem one_shot_leaves_no_trace {flushLimit nesting : Nat} {environment : EnvironmentId}
    {schema data : Value} {library : List (String × Value)} {result : Except Fault Value}
    (settled : world.reactor.Settled world.memory.depCount)
    (calm : world.reactor.activeEffect = none)
    (ran : (Act.renderOnce (.bounded flushLimit nesting) environment schema data library).run
      world = (result, after)) :
    (∀ effect, effect < world.reactor.effects.size →
      after.reactor.effects[effect]? = world.reactor.effects[effect]?) ∧
    (∀ dep, world.reactor.knownAmong (after.reactor.subscribersOf dep) =
      world.reactor.subscribersOf dep) ∧
    ((∃ output, result = .ok output) → LeavesNoTrace world.reactor after.reactor) := by
  obtain ⟨view, made, making, mounted⟩ : ∃ view made, Made world world.views.size view made ∧
      (Act.mount (.bounded flushLimit nesting) environment schema data library).run world =
        (Act.bringUp (.bounded flushLimit nesting) world.views.size
          world.reactor.effects.size).run made :=
    Act.run_mount calm environment schema data library
  unfold Act.renderOnce at ran
  rcases run_bind_cases ran with ⟨fault, rfl, begun⟩ | ⟨value, middle, begun, ran⟩ <;>
    rw [mounted] at begun <;>
    obtain ⟨aside, ended⟩ := Act.bringUp_spec settled calm making begun
  · exact ⟨fun _ => aside.old, aside.readers, nofun⟩
  obtain ⟨rfl, standing⟩ := ended value rfl
  obtain ⟨view, group, found, -⟩ := standing.owned
  obtain ⟨last, unmounted, aside, stopped⟩ := Act.unmount_spec standing
  rw [run_bind_of_ok (Act.run_viewAt found), run_bind_of_ok unmounted] at ran
  cases ran
  exact ⟨fun _ => aside.old, aside.readers, fun _ =>
    ⟨aside.old, aside.subscribersOf_of_inactive stopped, stopped _⟩⟩

/-- An effect reads a list; a schema loops over the list. -/
def reading : List Action :=
  [.assign "items" (.operate .makeLive [.literal (.list [.int 1, .int 2])]),
    .effect "reader" .pre true [.operate .at [.named "items", .literal (.int 0)]]]

def looping : Act Value := do
  let loop ← Act.observe (Observe.newList [.str "item", .liveList 0])
  Act.observe (Observe.newMap [(.str "$el", .str "p"), (.str "for", loop)])

def loopWorld : World :=
  (looping.run (Session.steps (.bounded 8 3) reading .empty).2).2

/-- The world after the schema was rendered once. -/
def onceWorld : World :=
  ((Act.renderOnce (.bounded 8 3) 0 (.map 0) .none []).run loopWorld).2

theorem run_onceWorld : ∃ output,
    (Act.renderOnce (.bounded 8 3) 0 (.map 0) .none []).run loopWorld =
      (.ok output, onceWorld) := by
  have good : ((Act.renderOnce (.bounded 8 3) 0 (.map 0) .none []).run
      loopWorld).1.isOk = true := by
    decide +kernel
  unfold onceWorld
  exact exists_run_of_isOk good

theorem one_shot_leaves_no_trace_looping :
    LeavesNoTrace loopWorld.reactor onceWorld.reactor ∧
      .read 2 0 ∈ onceWorld.reactor.history ∧ onceWorld.reactor.subscribersOf 0 = [0] := by
  have settled : loopWorld.reactor.Settled loopWorld.memory.depCount := by
    apply Reactor.Settled.of_rows
    all_goals decide +kernel
  have calm : loopWorld.reactor.activeEffect = none := by decide +kernel
  obtain ⟨output, ran⟩ := run_onceWorld
  obtain ⟨-, -, leaves⟩ := one_shot_leaves_no_trace settled calm ran
  exact ⟨leaves ⟨output, rfl⟩, by decide +kernel, by decide +kernel⟩

end ReactiveSchema
