import ReactiveSchema.Proofs.Act.Along
import ReactiveSchema.Reactive.Schedule

/-!
# What the operations on effects come to

Each operation on effects, queues and batches, run in a given world, in terms
of what it is made of.
-/

namespace ReactiveSchema

/-- The world with its effects changed. -/
def World.withReactor (world : World) (change : Reactor Body → Reactor Body) : World :=
  { world with reactor := change world.reactor }

@[simp] theorem World.withReactor_reactor (world : World)
    (change : Reactor Body → Reactor Body) :
    (world.withReactor change).reactor = change world.reactor := rfl

/-- Set the effect that is running. -/
def Reactor.asEffect {β : Type} (effect : Option EffectId) (reactor : Reactor β) : Reactor β :=
  { reactor with activeEffect := effect }

/-- The world as a run of an effect begins. -/
def World.begun (world : World) (effect : EffectId) : World :=
  (world.withReactor (·.beginRun effect)).withReactor (.asEffect (some effect))

/-- Set the group that new effects join. -/
def Reactor.inScope {β : Type} (scope : Option EffectScopeId) (reactor : Reactor β) :
    Reactor β :=
  { reactor with activeScope := scope }

/-- Set whether the queues are being worked off. -/
def Reactor.whileFlushing {β : Type} (flushing : Bool) (reactor : Reactor β) : Reactor β :=
  { reactor with flushing }

/-- Be one batch deeper. -/
def Reactor.deeper {β : Type} (reactor : Reactor β) : Reactor β :=
  { reactor with batchDepth := reactor.batchDepth + 1 }

/-- Be one batch less deep. -/
def Reactor.shallower {β : Type} (reactor : Reactor β) : Reactor β :=
  { reactor with batchDepth := reactor.batchDepth - 1 }

namespace Act

variable {α : Type}

theorem run_modifyReactor (change : Reactor Body → Reactor Body) (world : World) :
    (modifyReactor change).run world = (.ok (), world.withReactor change) := rfl

theorem run_ensuring (leave : Act Unit) (body : Act α) (world : World) :
    (ensuring leave body).run world =
      match leave.run (body.run world).2 with
      | (.ok _, last) => ((body.run world).1, last)
      | (.error fault, last) => (.error fault, last) := by
  simp only [ensuring, ExceptT.run, ExceptT.mk]
  rcases body world with ⟨result, after⟩
  dsimp only
  rcases leave after with ⟨fault | value, last⟩ <;> rfl

theorem run_ensuring_modifyReactor (change : Reactor Body → Reactor Body) (body : Act α)
    (world : World) :
    (ensuring (modifyReactor change) body).run world =
      ((body.run world).1, (body.run world).2.withReactor change) := by
  rw [run_ensuring, run_modifyReactor]

theorem run_withActiveEffect (effect : Option EffectId) (body : Act α) (world : World) :
    (withActiveEffect effect body).run world =
      ((body.run (world.withReactor (.asEffect effect))).1,
        (body.run (world.withReactor (.asEffect effect))).2.withReactor
          (.asEffect world.reactor.activeEffect)) := by
  unfold withActiveEffect setActiveEffect
  rw [run_bind, run_get]
  dsimp only
  rw [run_bind, run_modifyReactor]
  dsimp only
  rw [run_ensuring_modifyReactor]
  rfl

theorem run_within (scope : EffectScopeId) (body : Act α) (world : World) :
    (within scope body).run world =
      ((body.run (world.withReactor (.inScope (some scope)))).1,
        (body.run (world.withReactor (.inScope (some scope)))).2.withReactor
          (.inScope world.reactor.activeScope)) := by
  unfold within setActiveScope
  rw [run_bind, run_get]
  dsimp only
  rw [run_bind, run_modifyReactor]
  dsimp only
  rw [run_ensuring_modifyReactor]
  rfl

/-- A run of an effect that exists. -/
theorem run_runEffect (runner : Runner) {effect : EffectId} {world : World}
    {cell : Effect Body} (found : world.reactor.effects[effect]? = some cell) :
    (runEffect runner effect).run world =
      if cell.active then
        (withActiveEffect (some effect) (runner.perform cell.body)).run
          (world.withReactor (·.beginRun effect))
      else (runner.perform cell.body).run world := by
  unfold runEffect
  rw [run_bind, run_get]
  dsimp only
  rw [found]
  dsimp only
  split
  · rw [run_bind, run_modifyReactor]
  · rfl

theorem run_runEffect_missing (runner : Runner) {effect : EffectId} {world : World}
    (missing : world.reactor.effects[effect]? = none) :
    (runEffect runner effect).run world = (.ok .none, world) := by
  unfold runEffect
  rw [run_bind, run_get]
  dsimp only
  rw [missing]
  rfl

theorem run_drain_next (runner : Runner) (limit : Nat) {world : World} {effect : EffectId}
    {rest : Reactor Body} (found : world.reactor.next? = some (effect, rest)) :
    (drain runner (limit + 1)).run world =
      if rest.isActive effect then
        (do let _ ← runEffect runner effect; drain runner limit).run
          (world.withReactor fun _ => rest)
      else (drain runner limit).run (world.withReactor fun _ => rest) := by
  rw [drain]
  rw [run_bind, run_get]
  dsimp only
  rw [found]
  dsimp only
  rw [run_bind, run_modifyReactor]
  dsimp only
  split
  · rfl
  · rfl

theorem run_drain_none (runner : Runner) (limit : Nat) {world : World}
    (found : world.reactor.next? = none) :
    (drain runner (limit + 1)).run world = (.ok (), world) := by
  rw [drain]
  rw [run_bind, run_get]
  dsimp only
  rw [found]
  rfl

theorem run_notingCut (body : Act α) (world : World) :
    (notingCut body).run world =
      match body.run world with
      | (.ok value, after) => (.ok value, after)
      | (.error fault, after) => (.error fault, after.withReactor (·.note .cutShort)) := by
  unfold notingCut
  rw [run_tryCatch]
  rcases body.run world with ⟨fault | value, after⟩
  · dsimp only
    rw [run_bind, run_modifyReactor]
    rfl
  · rfl

theorem run_flush (runner : Runner) (world : World) :
    (flush runner).run world =
      (((notingCut (drain runner runner.flushLimit)).run
          (world.withReactor (.whileFlushing true))).1,
        ((notingCut (drain runner runner.flushLimit)).run
          (world.withReactor (.whileFlushing true))).2.withReactor (.whileFlushing false)) := by
  unfold flush setFlushing
  rw [run_bind, run_modifyReactor]
  dsimp only
  rw [run_ensuring_modifyReactor]
  rfl

theorem run_schedule (runner : Runner) (effect : EffectId) (world : World) :
    (schedule runner effect).run world =
      if (world.reactor.enqueue effect).idle then
        (flush runner).run (world.withReactor (·.enqueue effect))
      else (.ok (), world.withReactor (·.enqueue effect)) := by
  unfold schedule
  rw [run_bind, run_modifyReactor]
  dsimp only
  rw [run_bind, run_get]
  dsimp only
  split
  case isTrue idle =>
    have idle : (world.reactor.enqueue effect).idle = true := idle
    rw [if_pos idle]
  case isFalse busy =>
    have busy : ¬ (world.reactor.enqueue effect).idle = true := busy
    rw [if_neg busy]
    rfl

theorem run_trigger (runner : Runner) (dep : DepId) (world : World) :
    (trigger runner dep).run world =
      (scheduleAll runner world.reactor.activeEffect (world.reactor.subscribersOf dep)).run
        (world.withReactor (·.note (.told dep world.reactor.activeEffect))) := by
  unfold trigger
  rw [run_bind, run_get]
  dsimp only
  rw [run_bind, run_modifyReactor]

theorem run_leaveBatch (runner : Runner) (world : World) :
    (leaveBatch runner).run world =
      if world.reactor.shallower.idle && world.reactor.shallower.pending then
        (flush runner).run (world.withReactor .shallower)
      else (.ok (), world.withReactor .shallower) := by
  unfold leaveBatch
  rw [run_bind, run_modifyReactor]
  dsimp only
  rw [run_bind, run_get]
  dsimp only
  split
  case isTrue ready =>
    have ready : (world.reactor.shallower.idle && world.reactor.shallower.pending) = true := ready
    rw [if_pos ready]
    rfl
  case isFalse waits =>
    have waits : ¬ (world.reactor.shallower.idle && world.reactor.shallower.pending) = true :=
      waits
    rw [if_neg waits]
    rfl

theorem run_batch (runner : Runner) (body : Act α) (world : World) :
    (batch runner body).run world =
      (ensuring (leaveBatch runner) body).run (world.withReactor .deeper) := by
  unfold batch enterBatch
  rw [run_bind, run_modifyReactor]
  rfl

theorem run_newMember (body : Body) (timing : Timing) (world : World) :
    (newMember body timing).run world =
      (.ok (world.reactor.addEffect body timing true).1,
        world.withReactor fun reactor => (reactor.addEffect body timing true).2) := rfl

/-- Where the first run of a new effect ends. -/
theorem run_watch (runner : Runner) (body : Body) (timing : Timing) (world : World) :
    ((watch runner body timing).run world).2 =
      ((runEffect runner (world.reactor.addEffect body timing true).1).run
        (world.withReactor fun reactor => (reactor.addEffect body timing true).2)).2 := by
  unfold watch
  rw [run_bind, run_newMember]
  dsimp only
  rw [run_bind]
  rcases (runEffect runner (world.reactor.addEffect body timing true).1).run
    (world.withReactor fun reactor => (reactor.addEffect body timing true).2) with
    ⟨fault | value, after⟩
  · rfl
  · rfl

end Act

/-! ## Leaving -/

theorem Composable.ensuring {R : World → World → Prop} {α : Type} (path : Composable R)
    {leave : Act Unit} {body : Act α} (start : Along R body) (rest : Along R leave) :
    Along R (Act.ensuring leave body) := by
  intro world
  have whole := path.trans (start world) (rest _)
  rw [Act.run_ensuring]
  rcases left : leave.run (body.run world).2 with ⟨fault | value, last⟩ <;>
    rw [left] at whole <;> exact whole

theorem Composable.orderly_ensuring {I : World → Prop} {R : World → World → Prop} {α : Type}
    (path : Composable R) {leave : Act Unit} {body : Act α} (start : Orderly I R body)
    (rest : Orderly I R leave) : Orderly I R (Act.ensuring leave body) := by
  intro world holds
  have begun := start world holds
  have left := rest (body.run world).2 begun.keeps
  rw [Act.run_ensuring]
  rcases ran : leave.run (body.run world).2 with ⟨fault | value, last⟩ <;> rw [ran] at left
  · exact ⟨left.keeps, path.trans begun.along left.along,
      fun _ same => left.calm _ (by cases same; rfl)⟩
  · exact ⟨left.keeps, path.trans begun.along left.along, begun.calm⟩

end ReactiveSchema
