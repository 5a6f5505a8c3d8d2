import ReactiveSchema.Proofs.View.Unmount

/-!
# Assigning a schema that does not compile

Another schema is assigned to a view while no effect runs or waits.  The effect that compiles
the view runs first, and stops the resolving effects of before.  When it then fails, these are
lost: what the view shows stays as it is, and follows its data no more.
-/

namespace ReactiveSchema

namespace Reactor

variable {β : Type} {before middle after reactor : Reactor β} {among : EffectId → Prop}
  {effect : EffectId}

/-! ## Effects that are left alone -/

/-- Effects outside of some are left as they are, and so are their subscriptions. -/
structure Leaves (among : EffectId → Prop) (before after : Reactor β) : Prop where
  size : after.effects.size = before.effects.size
  same {effect : EffectId} : ¬ among effect → after.effects[effect]? = before.effects[effect]?
  reads {effect : EffectId} {dep : DepId} : ¬ among effect →
    (effect ∈ after.subscribersOf dep ↔ effect ∈ before.subscribersOf dep)

theorem Leaves.of_eq (effects : after.effects = before.effects)
    (subscribers : after.subscribers = before.subscribers) : Leaves among before after where
  size := congrArg Array.size effects
  same _ := congrArg (·[_]?) effects
  reads _ := by
    unfold subscribersOf
    rw [subscribers]

theorem Leaves.trans (first : Leaves among before middle) (second : Leaves among middle after) :
    Leaves among before after where
  size := second.size.trans first.size
  same apart := (second.same apart).trans (first.same apart)
  reads apart := (second.reads apart).trans (first.reads apart)

theorem leaves_beginRun (own : among effect) (reactor : Reactor β) :
    Leaves among reactor (reactor.beginRun effect) where
  size := size_beginRun reactor effect
  same {other} apart := by
    have apart : other ≠ effect := fun same => apart (same ▸ own)
    exact (found_modifyEffect _ apart).trans (found_unsubscribe apart)
  reads {other dep} apart :=
    (touches_beginRun reactor effect).subscribers other dep fun same => apart (same ▸ own)

theorem leaves_track (own : ∀ effect, reactor.activeEffect = some effect → among effect)
    (dep : DepId) : Leaves among reactor (reactor.track dep) := by
  rcases track_cases reactor dep with same | ⟨running, active, same⟩
  · rw [same]
    exact .of_eq rfl rfl
  · have apart {other : EffectId} (left : ¬ among other) : other ≠ running :=
      fun same => left (same ▸ own running active)
    have touched := touches_subscribe reactor running dep
    rw [same]
    exact ⟨Array.size_modify .., fun left => found_modifyEffect _ (apart left),
      fun left => touched.subscribers _ _ (apart left)⟩

theorem leaves_stop (own : among effect) (reactor : Reactor β) :
    Leaves among reactor (reactor.stop effect) where
  size := size_stop reactor effect
  same {other} apart := by
    have apart : other ≠ effect := fun same => apart (same ▸ own)
    unfold Reactor.stop
    split
    · exact (found_modifyEffect _ apart).trans (found_unsubscribe apart)
    · rfl
  reads {other dep} apart := mem_subscribersOf_stop fun same => apart (same ▸ own)

theorem leaves_stopScope {group : EffectScopeId}
    (own : ∀ effect ∈ reactor.membersOf group, among effect) :
    Leaves among reactor (reactor.stopScope group) :=
  stopScope_along reactor group (fun _ => .of_eq rfl rfl) .trans
    (fun start effect member => leaves_stop (own effect member) start) fun _ _ => .of_eq rfl rfl

/-! ## Stopping where nothing waits -/

theorem Settled.stop {count : Nat} (settled : reactor.Settled count) (effect : EffectId) :
    (reactor.stop effect).Settled count := by
  obtain ⟨effects, subscribers, same⟩ := fields_stop reactor effect
  constructor
  case preQueue => rw [same]; exact settled.preQueue
  case postQueue => rw [same]; exact settled.postQueue
  case known =>
    intro other dep reads
    rw [size_stop]
    unfold Reactor.stop at reads
    split at reads
    case isTrue => exact settled.known (mem_dropAll reads).1
    case isFalse => exact settled.known reads

theorem Settled.stopScope {count : Nat} (settled : reactor.Settled count)
    (group : EffectScopeId) : (reactor.stopScope group).Settled count :=
  stopScope_along (R := fun before after => before.Settled count → after.Settled count) reactor
    group (fun _ => id) (fun first second => second ∘ first)
    (fun _ effect _ settled => settled.stop effect)
    (fun _ _ settled => ⟨settled.preQueue, settled.postQueue, settled.known⟩) settled

end Reactor

theorem View.settled_stopping {view : View} {reactor : Reactor Body} {count : Nat}
    (settled : reactor.Settled count) : (view.stopping reactor).Settled count := by
  unfold View.stopping
  split
  · exact settled
  · exact settled.stopScope _

theorem View.linked_stopping {view : View} {reactor : Reactor Body} (linked : reactor.Linked) :
    (view.stopping reactor).Linked := by
  unfold View.stopping
  split
  · exact linked
  · exact linked.stopScope _

theorem View.activeEffect_stopping (view : View) (reactor : Reactor Body) :
    (view.stopping reactor).activeEffect = reactor.activeEffect := by
  unfold View.stopping
  split
  · rfl
  · exact (Reactor.keeps_stopScope reactor _).activeEffect

theorem View.leaves_stopping {view : View} {reactor : Reactor Body} {among : EffectId → Prop}
    (own : ∀ effect ∈ view.resolversIn reactor, among effect) :
    reactor.Leaves among (view.stopping reactor) := by
  unfold View.resolversIn at own
  unfold View.stopping
  cases group : view.resolvers with
  | none => exact .of_eq rfl rfl
  | some group' =>
      rw [group] at own
      exact Reactor.leaves_stopScope own

/-! ## Compiling again -/

/-- The effects once a run of one of them has begun, which has read tracked state. -/
def Reactor.reading {β : Type} (effect : EffectId) (dep : DepId) (reactor : Reactor β) :
    Reactor β :=
  (((reactor.beginRun effect).asEffect (some effect)).track dep).asEffect none

namespace Reactor

variable {β : Type} {reactor : Reactor β} {among : EffectId → Prop} {effect : EffectId}
  {dep : DepId}

theorem scopes_asEffect (reactor : Reactor β) (running : Option EffectId) :
    (reactor.asEffect running).scopes = reactor.scopes := rfl

theorem scopes_reading (effect : EffectId) (dep : DepId) (reactor : Reactor β) :
    (reactor.reading effect dep).scopes = reactor.scopes := by
  rw [reading, scopes_asEffect, Moves.scopes_track, scopes_asEffect, Moves.scopes_beginRun]

theorem leaves_asEffect (reactor : Reactor β) (running : Option EffectId) :
    reactor.Leaves among (reactor.asEffect running) :=
  .of_eq rfl rfl

theorem leaves_reading (own : among effect) (dep : DepId) (reactor : Reactor β) :
    reactor.Leaves among (reactor.reading effect dep) := by
  have begun := (leaves_beginRun own reactor).trans (leaves_asEffect _ (some effect))
  have read := begun.trans (leaves_track (fun other same => by cases same; exact own) dep)
  unfold reading
  exact read.trans (leaves_asEffect _ none)

theorem Linked.asEffect (linked : reactor.Linked) (running : Option EffectId) :
    (reactor.asEffect running).Linked :=
  linked.of_eq rfl rfl

theorem linked_reading (linked : reactor.Linked) (effect : EffectId) (dep : DepId) :
    (reactor.reading effect dep).Linked := by
  unfold reading
  exact (((linked.beginRun effect).asEffect (some effect)).track dep).asEffect none

theorem subscribersOf_asEffect (reactor : Reactor β) (running : Option EffectId) (dep : DepId) :
    (reactor.asEffect running).subscribersOf dep = reactor.subscribersOf dep := rfl

theorem reads_reading (active : reactor.isActive effect = true) :
    effect ∈ (reactor.reading effect dep).subscribersOf dep := by
  have begun : ((reactor.beginRun effect).asEffect (some effect)).isActive effect = true :=
    ((touches_beginRun reactor effect).active effect).trans active
  rw [reading, subscribersOf_asEffect]
  generalize known : (reactor.beginRun effect).asEffect (some effect) = started at begun
  have running : started.activeEffect = some effect := by
    rw [← known]
    rfl
  unfold Reactor.track
  rw [running]
  dsimp only
  rw [if_pos begun]
  refine (?_ : effect ∈ (started.subscribe effect dep).subscribersOf dep)
  rw [subscribersOf_subscribe, if_pos rfl, mem_addNew]
  exact .inr rfl

end Reactor

/-- The effects once a view is to be compiled again. -/
def View.restarted (view : View) (dep : DepId) (reactor : Reactor Body) : Reactor Body :=
  view.stopping (reactor.reading view.compileEffect dep)

/-- Whom compiling again touches: the effect that compiles, and the resolving effects. -/
def View.Affects (view : View) (reactor : Reactor Body) (effect : EffectId) : Prop :=
  effect = view.compileEffect ∨ effect ∈ view.resolversIn reactor

namespace View

variable {view : View} {reactor : Reactor Body} {dep : DepId} {effect : EffectId}

theorem resolversIn_reading (view : View) (effect : EffectId) (dep : DepId)
    (reactor : Reactor Body) :
    view.resolversIn (reactor.reading effect dep) = view.resolversIn reactor := by
  unfold resolversIn Reactor.membersOf
  rw [Reactor.scopes_reading]

theorem leaves_restarted (view : View) (dep : DepId) (reactor : Reactor Body) :
    reactor.Leaves (view.Affects reactor) (view.restarted dep reactor) := by
  refine (Reactor.leaves_reading (.inl rfl) dep reactor).trans (leaves_stopping ?_)
  rw [resolversIn_reading]
  exact fun _ => .inr

theorem linked_restarted (linked : reactor.Linked) : (view.restarted dep reactor).Linked :=
  linked_stopping (Reactor.linked_reading linked view.compileEffect dep)

theorem isActive_restarted (dep : DepId) (member : effect ∈ view.resolversIn reactor) :
    (view.restarted dep reactor).isActive effect = false := by
  refine isActive_stopping_of_mem ?_
  rwa [resolversIn_reading]

/-- The effect that compiles is subscribed to what it has read. -/
theorem reads_restarted (active : reactor.isActive view.compileEffect = true)
    (apart : view.compileEffect ∉ view.resolversIn reactor) :
    view.compileEffect ∈ (view.restarted dep reactor).subscribersOf dep := by
  rw [← resolversIn_reading view view.compileEffect dep] at apart
  exact ((leaves_stopping fun _ => id).reads apart).mpr (Reactor.reads_reading active)

end View

/-! ## Assigning -/

/-- The world with another content of a cell. -/
def World.withContent (world : World) (id : RefId) (content : Value) : World :=
  world.withMemory ((world.memory.seeing world.outlook).withContent id content).settled

/-- The world once another schema was assigned, as the effect is to run that compiles it. -/
def World.assigned (world : World) (view : View) (cell : RefCell) (schema : Value) : World :=
  (world.withContent view.schema schema).withReactor fun reactor =>
    (reactor.note (.told cell.dep none)).whileFlushing true

/-- A view that is mounted: the effect that compiles it is the one to read its schema. -/
structure Mounted (world : World) (id : ViewId) (view : View) (cell : RefCell) : Prop where
  found : world.views[id]? = some view
  schema : world.memory.refs[view.schema]? = some cell
  readers : world.reactor.subscribersOf cell.dep = [view.compileEffect]
  compiles : ∃ timing, world.reactor.kindOf view.compileEffect = some (.compile id, timing)
  apart : view.compileEffect ∉ view.resolversIn world.reactor
  known {effect : EffectId} : effect ∈ view.resolversIn world.reactor →
    effect < world.reactor.effects.size

variable {world compared after failed : World} {runner : Runner} {id : ViewId} {view : View}
  {cell : RefCell} {schema : Value} {fault : Fault}

namespace Act

theorem run_observe_setRef (calm : world.reactor.activeEffect = none) (id : RefId)
    (content : Value) : (observe (Observe.setRef id content)).run world =
      (.ok (), world.withContent id content) :=
  run_observe_calm _ calm

/-- Looking while no effect runs finds out what there is. -/
theorem withMemory_of_observe {α : Type} {look : Observe α} {result : Except Fault α}
    (calm : world.reactor.activeEffect = none) (looks : look.IsLook)
    (ran : (observe look).run world = (result, after)) :
    ∃ memory, after = world.withMemory memory ∧ Memory.Grows world.memory memory := by
  rw [run_observe_calm _ calm] at ran
  obtain ⟨-, rfl⟩ := Prod.mk.inj ran
  have looked := looks _ looks_grows (world.memory.seeing world.outlook)
  exact ⟨_, rfl, ((Memory.grows_seeing _ _).trans looked).trans (Memory.grows_settled _)⟩

theorem reactor_of_observe {α : Type} {look : Observe α} {result : Except Fault α}
    (calm : world.reactor.activeEffect = none)
    (ran : (observe look).run world = (result, after)) : after.reactor = world.reactor := by
  rw [run_observe_calm _ calm] at ran
  obtain ⟨-, rfl⟩ := Prod.mk.inj ran
  rfl

/-- A schema that counts as another is told to be, and the effect is queued that compiles it. -/
theorem run_setSchema (runner : Runner) (rest : AtRest world.reactor)
    (mounted : Mounted world id view cell)
    (changed : (observe (Observe.hasChanged cell.content schema)).run world =
      (.ok true, compared)) :
    (setSchema runner id schema).run world = (flush runner).run
      (((compared.withContent view.schema schema).withReactor
        (·.note (.told cell.dep none))).withReactor (·.enqueue view.compileEffect)) := by
  have same := reactor_of_observe rest.activeEffect changed
  have calm : compared.reactor.activeEffect = none := same ▸ rest.activeEffect
  have idle : compared.reactor.idle = true := by
    rw [same]
    unfold Reactor.idle
    rw [rest.batchDepth, rest.flushing]
    rfl
  have readers : compared.reactor.subscribersOf cell.dep = [view.compileEffect] :=
    same ▸ mounted.readers
  unfold setSchema refSet
  rw [run_bind_of_ok (run_viewAt mounted.found), run_bind_of_ok (run_get world)]
  dsimp only
  rw [mounted.schema]
  dsimp only
  rw [run_bind_of_ok changed, if_pos rfl, run_bind_of_ok (run_observe_setRef calm _ _)]
  exact run_trigger_single (by exact calm) (by exact idle) (by exact readers)

theorem next?_enqueue {β : Type} {reactor : Reactor β} (preQueue : reactor.preQueue = [])
    (postQueue : reactor.postQueue = []) (effect : EffectId) :
    ((reactor.enqueue effect).whileFlushing true).next? =
      some (effect, reactor.whileFlushing true) := by
  obtain ⟨effects, scopes, subscribers, _, _⟩ := reactor
  cases preQueue
  cases postQueue
  unfold Reactor.enqueue
  split
  · rfl
  · rfl

/-- What assigning another schema comes to, before any effect runs. -/
structure Assigned (before : World) (view : View) (cell : RefCell) (schema : Value)
    (after : World) : Prop where
  reactor : after.reactor = (before.reactor.note (.told cell.dep none)).whileFlushing true
  views : after.views = before.views
  unread : after.memory.reads = []
  count : before.memory.depCount ≤ after.memory.depCount
  schema : after.memory.refs[view.schema]? = some { cell with content := schema }
  refs {other : RefId} {found : RefCell} : other ≠ view.schema →
    before.memory.refs[other]? = some found → after.memory.refs[other]? = some found

theorem assigned_of_changed (calm : world.reactor.activeEffect = none)
    (known : world.memory.refs[view.schema]? = some cell)
    (changed : (observe (Observe.hasChanged cell.content schema)).run world =
      (.ok true, compared)) :
    Assigned world view cell schema (compared.assigned view cell schema) := by
  obtain ⟨memory, rfl, grown⟩ := withMemory_of_observe calm
    (fun _ looks => looks.hasChanged _ _) changed
  have refs : ((world.withMemory memory).assigned view cell schema).memory.refs =
      memory.refs.modify view.schema fun found => { found with content := schema } := rfl
  constructor
  case reactor => rfl
  case views => rfl
  case unread => rfl
  case count => exact grown.depCount
  case schema =>
    rw [refs, Array.getElem?_modify, if_pos rfl, grown.refs _ _ known]
    rfl
  case refs =>
    intro other found apart known
    rw [refs, Array.getElem?_modify, if_neg apart.symm]
    exact grown.refs _ _ known

/-- Where the effect fails that is the first to run, the working off of the queues does. -/
theorem run_flush_failed {limit nesting : Nat} {effect : EffectId}
    (preQueue : world.reactor.preQueue = []) (postQueue : world.reactor.postQueue = [])
    (active : world.reactor.isActive effect = true)
    (raised : (runEffect (.bounded (limit + 1) nesting) effect).run
      (world.withReactor (.whileFlushing true)) = (.error fault, failed)) :
    (flush (.bounded (limit + 1) nesting)).run (world.withReactor (·.enqueue effect)) =
      (.error fault, (failed.withReactor (·.note .cutShort)).withReactor
        (.whileFlushing false)) := by
  have next : ((world.withReactor (·.enqueue effect)).withReactor
      (.whileFlushing true)).reactor.next? = some (effect, world.reactor.whileFlushing true) :=
    next?_enqueue preQueue postQueue effect
  have alive : (world.reactor.whileFlushing true).isActive effect = true := active
  have raised : (runEffect (.bounded (limit + 1) nesting) effect).run
      (((world.withReactor (·.enqueue effect)).withReactor (.whileFlushing true)).withReactor
        fun _ => world.reactor.whileFlushing true) = (.error fault, failed) := raised
  have ran : (drain (.bounded (limit + 1) nesting) (limit + 1)).run
      ((world.withReactor (·.enqueue effect)).withReactor (.whileFlushing true)) =
      (.error fault, failed) := by
    rw [run_drain_next _ limit next, if_pos alive, run_bind, raised]
  rw [run_flush, run_notingCut]
  have same : (Runner.bounded (limit + 1) nesting).flushLimit = limit + 1 := rfl
  rw [same, ran]

/-! ## Compiling fails -/

/-- While effects are put off, writing a handle never fails. -/
theorem run_refSet_handle_busy (runner : Runner) (busy : world.reactor.idle = false) (id : RefId)
    (kind : HandleKind) (handle : Nat) :
    ∃ after, (refSet runner id (.handle kind handle)).run world = (.ok (), after) := by
  have observed {α : Type} (look : Observe α) {world : World} (busy : world.reactor.idle = false) :
      ((observe look).run world).2.reactor.idle = false := by
    rw [run_observe]
    exact (Reactor.keeps_trackAll world.reactor _).toKept.idle.trans busy
  unfold refSet
  rw [run_bind_of_ok (run_get world)]
  dsimp only
  split
  case h_1 => exact ⟨_, rfl⟩
  case h_2 cell _ =>
    obtain ⟨changed, same⟩ := Observe.run_hasChanged_handle cell.content kind handle
      (world.memory.seeing world.outlook)
    have compared : (observe (Observe.hasChanged cell.content (.handle kind handle))).run world =
        (.ok changed, ((observe (Observe.hasChanged cell.content (.handle kind handle))).run
          world).2) := by
      rw [run_observe, same]
    rw [run_bind_of_ok compared]
    have busy := observed (Observe.hasChanged cell.content (.handle kind handle)) busy
    generalize ((observe (Observe.hasChanged cell.content (.handle kind handle))).run
      world).2 = compared at busy
    split
    case isTrue =>
      have written : (observe (Observe.setRef id (.handle kind handle))).run compared =
          (.ok (), ((observe (Observe.setRef id (.handle kind handle))).run compared).2) := rfl
      rw [run_bind_of_ok written, run_trigger_busy _ (observed _ busy)]
      exact ⟨_, rfl⟩
    case isFalse => exact ⟨_, rfl⟩

/--
The effect that compiles a view runs, in the course of working off the queues.  Where it
fails, compiling has failed, after the resolving effects of before were stopped.
-/
theorem compileView_failed {flushLimit nesting : Nat} {effect : EffectId}
    (settled : world.reactor.Settled world.memory.depCount)
    (running : world.reactor.activeEffect = some effect)
    (known : effect < world.reactor.effects.size) (busy : world.reactor.idle = false)
    (found : world.views[id]? = some view) (schema : world.memory.refs[view.schema]? = some cell)
    (inside : cell.dep < world.memory.depCount) (unread : world.memory.reads = [])
    (ran : (compileView (.bounded flushLimit nesting) id).run world = (.error fault, after)) :
    ∃ stopped last c, Compiled stopped id view (.error fault) last c ∧
      after = last.withReactor (.asEffect (some effect)) ∧ c.refs = world.memory.refs ∧
        stopped.reactor = view.stopping ((world.reactor.track cell.dep).asEffect none) ∧
          stopped.views = world.views ∧ stopped.reactor.Aside last.reactor := by
  obtain ⟨looking, read, reads⟩ := reads_refGet schema unread
  have tracked := settled.track running known inside
  rw [← reads.reactor, ← reads.depCount] at tracked
  have quieted : ((looking.withReactor (.asEffect none)).reactor).Settled looking.memory.depCount :=
    ⟨tracked.preQueue, tracked.postQueue, tracked.known⟩
  have still : looking.reactor.activeEffect = some effect := by
    rw [reads.reactor]
    exact (Reactor.keeps_track world.reactor cell.dep).activeEffect.trans running
  have busy : looking.reactor.idle = false := by
    rw [reads.reactor]
    exact (Reactor.keeps_track world.reactor cell.dep).toKept.idle.trans busy
  unfold compileView at ran
  rw [run_bind_of_ok (run_viewAt found), run_bind_of_ok read] at ran
  rcases compiling : (compileFor (.bounded flushLimit nesting) id cell.content).run
    (looking.withReactor (.asEffect none)) with ⟨ended, last⟩
  obtain ⟨c, compiled, refs, -⟩ := compileFor_spec (Compilation.performs_bounded flushLimit nesting)
    compiling (reads.views ▸ found) rfl (View.settled_stopping quieted)
    (View.activeEffect_stopping view _) looking.memory.refs (fun _ => False) (begins_refl _) nofun
  have kept := ((respected_bounded_keepsWorld flushLimit nesting).byCompiling).compileFor id
    cell.content (looking.withReactor (.asEffect none))
  rw [compiling] at kept
  have restored : (untracked (compileFor (.bounded flushLimit nesting) id cell.content)).run
      looking = (ended, last.withReactor (.asEffect (some effect))) := by
    unfold untracked
    rw [run_withActiveEffect, compiling, still]
  rcases run_bind_cases ran with ⟨fault, same, ended⟩ | ⟨value, middle, ended, rest⟩ <;>
    cases restored.symm.trans ended
  · cases same
    have aside := compiled.begun (View.settled_stopping quieted).aside
    exact ⟨_, last, c, compiled, rfl, refs.trans reads.refs, by rw [← reads.reactor]; rfl,
      reads.views, aside.trans compiled.sound.aside⟩
  · -- what has been compiled goes to the cell of the root, which does not fail
    obtain ⟨⟨closure, rfl⟩, -⟩ := compiled.ended rfl
    obtain ⟨store, viewed⟩ := compiled.found
    have viewed : (last.withReactor (.asEffect (some effect))).views[id]? = _ := viewed
    have busy : (last.withReactor (.asEffect (some effect))).reactor.idle = false :=
      kept.toKept.idle.trans busy
    rw [run_bind_of_ok (run_viewAt viewed)] at rest
    obtain ⟨written, good⟩ := run_refSet_handle_busy (.bounded flushLimit nesting) busy
      (view.recompiled c.group store (.ok (.handle .closure closure) : Except Fault Value)).root
      .closure closure
    cases good.symm.trans rest

/-- A view that failed to be compiled again, once it had a new store and a new group. -/
structure Recompiling (before : World) (id : ViewId) (view : View) (after : World) : Prop where
  shown : ∃ group store, after.views[id]? = some ((view.resolvedBy group).storing store) ∧
    ∀ effect, before.reactor.effects.size ≤ effect → effect < after.reactor.effects.size →
      effect ∈ after.reactor.membersOf group ∧ after.reactor.isActive effect = true
  others {other : ViewId} : other ≠ id → after.views[other]? = before.views[other]?

/-- The effect that compiles a view runs while the queues are worked off, and fails. -/
theorem runEffect_compile_failed {flushLimit nesting : Nat} {effect : Effect Body}
    (settled : world.reactor.Settled world.memory.depCount) (busy : world.reactor.flushing = true)
    (known : world.reactor.effects[view.compileEffect]? = some effect)
    (compiles : effect.body = .compile id) (active : effect.active = true)
    (found : world.views[id]? = some view) (schema : world.memory.refs[view.schema]? = some cell)
    (inside : cell.dep < world.memory.depCount) (unread : world.memory.reads = [])
    (raised : (runEffect (.bounded flushLimit (nesting + 1)) view.compileEffect).run world =
      (.error fault, failed)) :
    (view.restarted cell.dep world.reactor).Aside failed.reactor ∧
      Recompiling world id view failed ∧ Begins world.memory.refs failed.memory.refs := by
  rcases viewed : (compileView (.bounded flushLimit nesting) id).run
    ((world.withReactor (·.beginRun view.compileEffect)).withReactor
      (.asEffect (some view.compileEffect))) with ⟨ended, last⟩
  rw [run_runEffect_compile known compiles active viewed] at raised
  obtain ⟨same, rfl⟩ := Prod.mk.inj raised
  obtain rfl : ended = .error fault := by
    cases ended with
    | error other => cases same; rfl
    | ok _ => cases same
  generalize started : (world.withReactor (·.beginRun view.compileEffect)).withReactor
    (.asEffect (some view.compileEffect)) = begun at viewed
  have reactor : begun.reactor = (world.reactor.beginRun view.compileEffect).asEffect
    (some view.compileEffect) := started ▸ rfl
  have memory : begun.memory = world.memory := started ▸ rfl
  have sites : begun.views = world.views := started ▸ rfl
  have ready : begun.reactor.Settled begun.memory.depCount := by
    rw [reactor, memory]
    have ready := settled.beginRun view.compileEffect
    exact ⟨ready.preQueue, ready.postQueue, ready.known⟩
  have running : begun.reactor.activeEffect = some view.compileEffect := by rw [reactor]; rfl
  have inRange : view.compileEffect < begun.reactor.effects.size := by
    rw [reactor]
    refine Nat.lt_of_lt_of_eq ?_ (Reactor.size_beginRun world.reactor view.compileEffect).symm
    exact (Array.getElem?_eq_some_iff.mp known).1
  have deferred : begun.reactor.idle = false := by
    unfold Reactor.idle
    rw [reactor]
    have flushing := (Reactor.touches_beginRun world.reactor view.compileEffect).flushing
    refine (congrArg (_ && !·) (flushing.trans busy)).trans (Bool.and_false _)
  rw [← sites] at found
  rw [← memory] at schema inside unread
  obtain ⟨stopped, late, c, compiled, rfl, refs, restarted, views, aside⟩ :=
    compileView_failed ready running inRange deferred found schema inside unread viewed
  have restarted : stopped.reactor = view.restarted cell.dep world.reactor := by
    rw [restarted, reactor]
    rfl
  have size : c.before.effects.size = world.reactor.effects.size := by
    rw [compiled.size, restarted]
    exact (view.leaves_restarted cell.dep world.reactor).size
  obtain ⟨store, shown⟩ := compiled.found
  refine ⟨restarted ▸ aside.of_eq rfl rfl (fun _ => .inl) fun _ => .inl,
    ⟨⟨c.group, store, shown, fun other new known => ?_⟩, fun apart => ?_⟩, ?_⟩
  · obtain ⟨cell, found⟩ : ∃ cell, late.reactor.effects[other]? = some cell :=
      ⟨_, Array.getElem?_eq_getElem known⟩
    have kind := Reactor.kindOf_of_found found
    exact ⟨(compiled.sound.members (size ▸ new) kind).1, compiled.sound.active (size ▸ new) kind⟩
  · exact (compiled.others apart).trans (congrArg (·[_]?) (views.trans sites))
  · have kept := compiled.sound.kept
    rw [refs, memory] at kept
    exact kept

end Act

/-! ## What is lost -/

/-- A view has lost its resolving effects; the one that compiles it is the only other touched. -/
structure Bereft (view : View) (dep : DepId) (before after : Reactor Body) : Prop where
  deaf {effect : EffectId} : effect ∈ view.resolversIn before →
    after.isActive effect = false ∧ ∀ dep, effect ∉ after.subscribersOf dep
  spared {effect : EffectId} : effect < before.effects.size → ¬ view.Affects before effect →
    after.effects[effect]? = before.effects[effect]? ∧
      ∀ dep, effect ∈ after.subscribersOf dep ↔ effect ∈ before.subscribersOf dep
  /-- The next schema that is assigned is compiled. -/
  again : view.compileEffect ∈ after.subscribersOf dep

theorem Bereft.of_aside {reactor ended : Reactor Body} {dep : DepId}
    (linked : reactor.Linked) (reads : view.compileEffect ∈ reactor.subscribersOf dep)
    (apart : view.compileEffect ∉ view.resolversIn reactor)
    (known : ∀ effect ∈ view.resolversIn reactor, effect < reactor.effects.size)
    (aside : (view.restarted dep reactor).Aside ended) : Bereft view dep reactor ended := by
  have leaves := view.leaves_restarted dep reactor
  have old {effect : EffectId} (known : effect < reactor.effects.size) :
      effect < (view.restarted dep reactor).effects.size := leaves.size ▸ known
  constructor
  case deaf =>
    intro effect member
    have known := old (known effect member)
    have inactive := View.isActive_restarted dep member
    refine ⟨?_, fun item reads => ?_⟩
    · unfold Reactor.isActive at inactive ⊢
      rwa [aside.old known]
    · have active := (View.linked_restarted linked).active ((aside.reads_iff known).mp reads)
      cases inactive.symm.trans active
  case spared =>
    intro effect known apart
    exact ⟨(aside.old (old known)).trans (leaves.same apart),
      fun item => (aside.reads_iff (old known)).trans (leaves.reads apart)⟩
  case again =>
    exact (aside.reads_iff (old (linked.known reads))).mpr
      (View.reads_restarted (linked.active reads) apart)

/-- What is left of a view whose schema was replaced by one that does not compile. -/
structure Deafened (before : World) (id : ViewId) (view : View) (cell : RefCell) (after : World) :
    Prop extends Bereft view cell.dep before.reactor after.reactor where
  /-- Nothing of the view has changed but its store and its group, which has all new effects. -/
  shown : ∃ group store, after.views[id]? = some ((view.resolvedBy group).storing store) ∧
    ∀ effect, before.reactor.effects.size ≤ effect → effect < after.reactor.effects.size →
      effect ∈ after.reactor.membersOf group ∧ after.reactor.isActive effect = true
  others {other : ViewId} : other ≠ id → after.views[other]? = before.views[other]?
  refs {other : RefId} {found : RefCell} : other ≠ view.schema →
    before.memory.refs[other]? = some found → after.memory.refs[other]? = some found

/--
While nothing runs or waits, another schema is assigned to a view that is mounted.  If the effect
that compiles it fails then, so does the assignment.  The view keeps its output, its counts, its
listeners and what its last schema was compiled to, and nothing happens to the effects of others.
But its resolving effects are stopped, and subscribed to nothing: what it shows stays as it is.
-/
theorem failed_assignment_deafens {limit nesting : Nat} (linked : world.reactor.Linked)
    (settled : world.reactor.Settled world.memory.depCount) (rest : Act.AtRest world.reactor)
    (mounted : Mounted world id view cell)
    (changed : (Act.observe (Observe.hasChanged cell.content schema)).run world =
      (.ok true, compared))
    (raised : (Act.runEffect (.bounded (limit + 1) (nesting + 1)) view.compileEffect).run
      (compared.assigned view cell schema) = (.error fault, failed)) :
    ∃ after, (Act.setSchema (.bounded (limit + 1) (nesting + 1)) id schema).run world =
      (.error fault, after) ∧ Deafened world id view cell after := by
  have reads : view.compileEffect ∈ world.reactor.subscribersOf cell.dep :=
    mounted.readers ▸ List.mem_singleton_self _
  obtain ⟨timing, compiles⟩ := mounted.compiles
  obtain ⟨effect, known, alive⟩ := Reactor.found_of_isActive (linked.active reads)
  have body : effect.body = .compile id := by
    rw [Reactor.kindOf_of_found known] at compiles
    exact congrArg Prod.fst (Option.some.inj compiles)
  have told := Act.run_setSchema (.bounded (limit + 1) (nesting + 1)) rest mounted changed
  have same := Act.reactor_of_observe rest.activeEffect changed
  have queues : compared.reactor.preQueue = [] ∧ compared.reactor.postQueue = [] :=
    same ▸ ⟨rest.preQueue, rest.postQueue⟩
  have active : compared.reactor.isActive view.compileEffect = true := same ▸ linked.active reads
  refine ⟨_, told.trans (Act.run_flush_failed (by exact queues.1) (by exact queues.2)
    (by exact active) raised), ?_⟩
  have assigned := Act.assigned_of_changed rest.activeEffect mounted.schema changed
  generalize compared.assigned view cell schema = ready at raised assigned
  have reactor := assigned.reactor
  have settled : ready.reactor.Settled ready.memory.depCount := by
    rw [reactor]
    have weaker := settled.weaken assigned.count
    exact ⟨weaker.preQueue, weaker.postQueue, weaker.known⟩
  obtain ⟨aside, recompiling, kept⟩ := Act.runEffect_compile_failed settled (by rw [reactor]; rfl)
    (by rw [reactor]; exact known) body alive (by rw [assigned.views]; exact mounted.found)
    assigned.schema (settled.known (by rw [reactor]; exact reads)).2 assigned.unread raised
  have bereft : Bereft view cell.dep ready.reactor failed.reactor := by
    refine .of_aside ?_ ?_ ?_ ?_ aside <;> rw [reactor]
    · exact linked.of_eq rfl rfl
    · exact reads
    · exact mounted.apart
    · exact fun _ => mounted.known
  obtain ⟨group, store, shown, members⟩ := recompiling.shown
  rw [reactor] at bereft members
  constructor
  case toBereft => exact ⟨bereft.deaf, bereft.spared, bereft.again⟩
  case shown => exact ⟨group, store, shown, members⟩
  case others =>
    exact fun apart => (recompiling.others apart).trans (congrArg (·[_]?) assigned.views)
  case refs => exact fun apart known => kept _ _ (assigned.refs apart known)

/-- Does an effect compile a view? -/
def Body.isCompiling (id : ViewId) : Body → Bool
  | .compile view => view == id
  | _ => false

theorem Body.eq_of_isCompiling {body : Body} (compiles : body.isCompiling id = true) :
    body = .compile id := by
  cases body with
  | compile view => exact congrArg Body.compile (beq_iff_eq.mp compiles)
  | resolve | render | program => cases compiles

/-- A schema is made that does not compile. -/
def breaking : Act Value :=
  Act.observe (Observe.newMap [(.str "$el", .str "p"), (.str "children", .str "$a +")])

def brokenWorld : World :=
  (breaking.run shownWorld).2

def brokenSchema : Value :=
  .map (brokenWorld.memory.maps.size - 1)

def brokenView : View :=
  brokenWorld.views[0]?.get (by decide +kernel)

def brokenCell : RefCell :=
  brokenWorld.memory.refs[brokenView.schema]?.get (by decide +kernel)

theorem mounted_brokenWorld : Mounted brokenWorld 0 brokenView brokenCell where
  found := (Option.some_get _).symm
  schema := (Option.some_get _).symm
  readers := by decide +kernel
  compiles := by
    have known : (brokenWorld.reactor.kindOf brokenView.compileEffect).any
        (·.1.isCompiling 0) = true := by decide +kernel
    cases found : brokenWorld.reactor.kindOf brokenView.compileEffect with
    | none =>
        rw [found] at known
        cases known
    | some kind =>
        rw [found] at known
        exact ⟨kind.2, congrArg (fun body => some (body, kind.2)) (Body.eq_of_isCompiling known)⟩
  apart := by decide +kernel
  known {effect} member := by
    have all : ∀ effect ∈ brokenView.resolversIn brokenWorld.reactor,
        effect < brokenWorld.reactor.effects.size := by decide +kernel
    exact all effect member

/-- The cell of the schema, compared with the one to be assigned. -/
def comparedWorld : World :=
  ((Act.observe (Observe.hasChanged brokenCell.content brokenSchema)).run brokenWorld).2

theorem failed_assignment_deafens_broken :
    brokenView.resolversIn brokenWorld.reactor = [1] ∧
      ∃ fault after, (Act.setSchema (.bounded 8 3) 0 brokenSchema).run brokenWorld =
        (.error fault, after) ∧ Deafened brokenWorld 0 brokenView brokenCell after := by
  have linked : brokenWorld.reactor.Linked := by
    unfold brokenWorld breaking
    refine elementary_linked.observe _ shownWorld ?_
    unfold shownWorld
    exact linked_steps 8 3 showing
  have settled : brokenWorld.reactor.Settled brokenWorld.memory.depCount := by
    apply Reactor.Settled.of_rows
    all_goals decide +kernel
  have rest : Act.AtRest brokenWorld.reactor := by
    constructor
    all_goals decide +kernel
  have differs : ((Act.observe (Observe.hasChanged brokenCell.content brokenSchema)).run
      brokenWorld).1.toOption = some true := by decide +kernel
  have changed : (Act.observe (Observe.hasChanged brokenCell.content brokenSchema)).run
      brokenWorld = (.ok true, comparedWorld) := by
    unfold comparedWorld
    generalize (Act.observe (Observe.hasChanged brokenCell.content brokenSchema)).run
      brokenWorld = ran at differs
    obtain ⟨fault | value, after⟩ := ran
    · cases differs
    · cases differs
      rfl
  have fails : ((Act.runEffect (.bounded 8 3) brokenView.compileEffect).run
      (comparedWorld.assigned brokenView brokenCell brokenSchema)).1.isOk = false := by
    decide +kernel
  refine ⟨by decide +kernel, ?_⟩
  rcases raised : (Act.runEffect (.bounded 8 3) brokenView.compileEffect).run
    (comparedWorld.assigned brokenView brokenCell brokenSchema) with ⟨fault | value, failed⟩
  · exact ⟨fault, failed_assignment_deafens linked settled rest mounted_brokenWorld changed raised⟩
  · rw [raised] at fails
    cases fails

end ReactiveSchema
