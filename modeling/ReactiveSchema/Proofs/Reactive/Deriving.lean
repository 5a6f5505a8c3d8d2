import ReactiveSchema.Proofs.Act.RespectPrograms
import ReactiveSchema.Proofs.Reactive.Kinds

/-!
# Deriving values

While effects are put off, compiling a schema and bringing a cell up to date run no
effect that uses values.  They make effects that derive values and queue what has read
the cells they change; each effect waits in the queue of its timing.
-/

namespace ReactiveSchema

/-! ## Worlds in which values are derived -/

/-- From one world to another, values are derived, and no effect that uses them runs. -/
structure Meek (before after : World) : Prop
    extends Reactor.Kept before.reactor after.reactor where
  steps (id : ListenerId) : after.stepsOf id = before.stepsOf id
  /-- New effects bring cells up to date. -/
  kinds (effect : EffectId) : after.reactor.kindOf effect = before.reactor.kindOf effect ∨
    before.reactor.kindOf effect = none ∧ ∃ cell data store scopes path,
      after.reactor.kindOf effect = some (.resolve cell data store scopes path, .pre)
  unrun {effect : EffectId} : before.reactor.timingOf effect = .post →
    ¬ Reactor.Since before.reactor.history after.reactor (.began effect)
  sorted : before.reactor.Sorted → after.reactor.Sorted

namespace Meek

variable {before middle after : World}

theorem timing (meek : Meek before after) (effect : EffectId) :
    after.reactor.timingOf effect = before.reactor.timingOf effect := by
  rw [Reactor.timingOf_eq, Reactor.timingOf_eq]
  rcases meek.kinds effect with same | ⟨missing, cell, data, store, scopes, path, known⟩
  · rw [same]
  · rw [missing, known]
    rfl

theorem trans (first : Meek before middle) (second : Meek middle after) : Meek before after where
  toKept := first.toKept.trans second.toKept
  steps id := (second.steps id).trans (first.steps id)
  kinds effect := by
    rcases second.kinds effect with same | ⟨missing, known⟩
    · rw [same]
      exact first.kinds effect
    · rcases first.kinds effect with same | ⟨-, _, _, _, _, _, known'⟩
      · exact .inr ⟨same ▸ missing, known⟩
      · rw [missing] at known'
        cases known'
  unrun late began := by
    rcases began.cases first.older second.older with early | later
    · exact first.unrun late early
    · exact second.unrun ((first.timing _).trans late) later
  sorted := second.sorted ∘ first.sorted

/-- What leaves effects what they are and changes no queue. -/
theorem of_kinds (kept : Reactor.Kept before.reactor after.reactor)
    (listeners : after.listeners = before.listeners)
    (kinds : ∀ effect, after.reactor.kindOf effect = before.reactor.kindOf effect)
    (preQueue : after.reactor.preQueue = before.reactor.preQueue)
    (postQueue : after.reactor.postQueue = before.reactor.postQueue)
    (unrun : ∀ effect, before.reactor.timingOf effect = .post →
      ¬ Reactor.Since before.reactor.history after.reactor (.began effect)) :
    Meek before after where
  toKept := kept
  steps := World.stepsOf_of_listeners listeners
  kinds effect := .inl (kinds effect)
  unrun := unrun _
  sorted sorted := by
    refine sorted.of_eq preQueue postQueue fun effect => ?_
    rw [Reactor.timingOf_eq, Reactor.timingOf_eq, kinds]

theorem asEffect {running : Option EffectId}
    (meek : Meek (before.withReactor (.asEffect running)) after) :
    Meek before (after.withReactor (.asEffect before.reactor.activeEffect)) where
  toKept := ⟨meek.older, meek.batchDepth, meek.flushing, rfl, meek.activeScope⟩
  steps := meek.steps
  kinds := meek.kinds
  unrun := meek.unrun
  sorted sorted :=
    have sorted := meek.sorted ⟨sorted.pre, sorted.post, sorted.once⟩
    ⟨sorted.pre, sorted.post, sorted.once⟩

theorem inScope {scope : Option EffectScopeId}
    (meek : Meek (before.withReactor (.inScope scope)) after) :
    Meek before (after.withReactor (.inScope before.reactor.activeScope)) where
  toKept := ⟨meek.older, meek.batchDepth, meek.flushing, meek.activeEffect, rfl⟩
  steps := meek.steps
  kinds := meek.kinds
  unrun := meek.unrun
  sorted sorted :=
    have sorted := meek.sorted ⟨sorted.pre, sorted.post, sorted.once⟩
    ⟨sorted.pre, sorted.post, sorted.once⟩

theorem ofBatch (meek : Meek (before.withReactor .deeper) after) :
    Meek before (after.withReactor .shallower) where
  toKept := ⟨meek.older, (congrArg (· - 1) meek.batchDepth).trans (Nat.add_sub_cancel _ 1),
    meek.flushing, meek.activeEffect, meek.activeScope⟩
  steps := meek.steps
  kinds := meek.kinds
  unrun := meek.unrun
  sorted sorted :=
    have sorted := meek.sorted ⟨sorted.pre, sorted.post, sorted.once⟩
    ⟨sorted.pre, sorted.post, sorted.once⟩

theorem refl (world : World) : Meek world world :=
  .of_kinds (.refl _) rfl (fun _ => rfl) rfl rfl fun _ _ => Reactor.not_since rfl

end Meek

/-- What happens while effects are put off. -/
def Busily (R : World → World → Prop) (before after : World) : Prop :=
  before.reactor.idle = false → R before after

theorem composable_busily_meek : Composable (Busily Meek) where
  refl world _ := .refl world
  trans first second busy :=
    (first busy).trans (second ((first busy).toKept.idle.trans busy))

theorem meek_of_signals {before after : World} (signals : List Signal)
    (same : after.reactor = before.reactor.signalAll signals)
    (steps : ∀ id, after.stepsOf id = before.stepsOf id) :
    Meek before after where
  toKept := same ▸ Reactor.kept_signalAll before.reactor signals
  steps := steps
  kinds _ := .inl (same ▸ Reactor.kindOf_signalAll before.reactor signals)
  unrun _ := same ▸ Reactor.not_began_signalAll before.reactor signals
  sorted sorted := same ▸ sorted.signalAll signals

namespace Act

variable {α : Type} {runner : Runner} {effect : EffectId}

theorem meek_observe (look : Observe α) : Along (Busily Meek) (observe look) :=
  fun world _ => meek_of_signals _ (Reactor.trackAll_eq_signalAll world.reactor _) fun _ => rfl

theorem meek_trigger (dep : DepId) : Along (Busily Meek) (trigger runner dep) := by
  intro world busy
  rw [run_trigger_busy dep busy]
  exact meek_of_signals [.told dep] rfl fun _ => rfl

theorem meek_batch {body : Act α} (each : Along (Busily Meek) body) :
    Along (Busily Meek) (batch runner body) := by
  intro world busy
  have inside := each (world.withReactor .deeper) rfl
  rw [run_batch, run_ensuring]
  rcases ran : body.run (world.withReactor .deeper) with ⟨result, late⟩
  rw [ran] at inside
  have meek := inside.ofBatch
  have deferred : late.reactor.shallower.idle = false := meek.toKept.idle.trans busy
  rw [run_leaveBatch, deferred, Bool.false_and, if_neg Bool.false_ne_true]
  exact meek

theorem meek_untracked {body : Act α} (each : Along (Busily Meek) body) :
    Along (Busily Meek) (untracked body) := by
  intro world busy
  unfold untracked
  rw [run_withActiveEffect]
  exact (each (world.withReactor (.asEffect none)) busy).asEffect

theorem meek_within (scope : EffectScopeId) {body : Act α} (each : Along (Busily Meek) body) :
    Along (Busily Meek) (within scope body) := by
  intro world busy
  rw [run_within]
  exact (each (world.withReactor (.inScope (some scope))) busy).inScope

theorem meek_beginRun {world : World} (early : world.reactor.timingOf effect = .pre) :
    Meek world (world.withReactor (·.beginRun effect)) where
  toKept := (Reactor.settles_beginRun world.reactor effect).toKept
  steps _ := rfl
  kinds _ := .inl Reactor.kindOf_beginRun
  unrun late began := by
    cases Reactor.eq_of_since_beginRun began
    rw [early] at late
    cases late
  sorted sorted := by
    have touched := Reactor.touches_beginRun world.reactor effect
    have timing (other : EffectId) :
        (world.reactor.beginRun effect).timingOf other = world.reactor.timingOf other := by
      rw [Reactor.timingOf_eq, Reactor.timingOf_eq, Reactor.kindOf_beginRun]
    exact sorted.of_eq touched.preQueue touched.postQueue timing

/-- A run of an effect that derives values, whose body does. -/
theorem meek_runEffect (world : World) {cell : Effect Body}
    (found : world.reactor.effects[effect]? = some cell) (early : cell.timing = .pre)
    (each : Along (Busily Meek) (runner.perform cell.body)) :
    Busily Meek world ((runEffect runner effect).run world).2 := by
  intro busy
  rw [run_runEffect runner found]
  split
  case isTrue =>
    rw [run_withActiveEffect]
    have kept : Reactor.Kept world.reactor (world.reactor.beginRun effect) :=
      (Reactor.settles_beginRun world.reactor effect).toKept
    have early : world.reactor.timingOf effect = .pre := by
      unfold Reactor.timingOf
      rw [found, Option.map_some, Option.getD_some, early]
    have begun := meek_beginRun early
    have inside := each
      ((world.withReactor (·.beginRun effect)).withReactor (.asEffect (some effect)))
      (kept.idle.trans busy)
    exact begun.trans inside.asEffect
  case isFalse => exact each world busy

/-! ## Making and stopping effects -/

theorem meek_stop (effect : EffectId) (world : World) :
    Meek world (world.withReactor (·.stop effect)) := by
  obtain ⟨effects, subscribers, same⟩ := Reactor.fields_stop world.reactor effect
  have kinds (other : EffectId) :
      (world.reactor.stop effect).kindOf other = world.reactor.kindOf other :=
    Reactor.kindOf_stop
  exact .of_kinds (Reactor.keeps_stop world.reactor effect).toKept rfl kinds
    (congrArg Reactor.preQueue same :) (congrArg Reactor.postQueue same :)
    fun _ _ => Reactor.not_since (congrArg Reactor.history same :)

theorem meek_scopes (scopes : Array EffectScope) (world : World) :
    Meek world (world.withReactor ({ · with scopes })) :=
  .of_kinds (Reactor.keeps_scopes world.reactor scopes).toKept rfl (fun _ => rfl) rfl rfl
    fun _ _ => Reactor.not_since rfl

theorem meek_stopScope (scope : EffectScopeId) (world : World) :
    Meek world (world.withReactor (·.stopScope scope)) :=
  Reactor.stopScope_along
    (R := fun before after =>
      Meek (world.withReactor fun _ => before) (world.withReactor fun _ => after))
    world.reactor scope (fun _ => .refl _) .trans (fun _ effect _ => meek_stop effect _)
    fun _ scopes => meek_scopes scopes _

/-- A new effect that brings a cell up to date. -/
theorem meek_addEffect (cell : RefId) (data : Value) (store : LiveMapId) (scopes : ScopePath)
    (path : List String) (world : World) :
    Meek world (world.withReactor
      fun reactor => (reactor.addEffect (.resolve cell data store scopes path) .pre true).2) := by
  have kinds (other : EffectId) : (world.reactor.addEffect
      (Body.resolve cell data store scopes path) .pre true).2.kindOf other =
        if other = world.reactor.effects.size then some (.resolve cell data store scopes path, .pre)
        else world.reactor.kindOf other := Reactor.kindOf_addEffect world.reactor _ .pre true
  have none := Reactor.kindOf_of_size_le (Nat.le_refl world.reactor.effects.size)
  obtain ⟨groups, same⟩ := Reactor.fields_addEffect world.reactor
    (Body.resolve cell data store scopes path) .pre true
  constructor
  case toKept => exact (Reactor.keeps_addEffect world.reactor _ .pre true).toKept
  case steps => exact fun _ => rfl
  case kinds =>
    intro effect
    by_cases new : effect = world.reactor.effects.size
    · exact .inr ⟨new ▸ none, cell, data, store, scopes, path, (kinds effect).trans (if_pos new)⟩
    · exact .inl ((kinds effect).trans (if_neg new))
  case unrun => exact fun _ => Reactor.not_since (congrArg (·.2.history) same :)
  case sorted =>
    refine fun sorted => sorted.of_eq (congrArg (·.2.preQueue) same :)
      (congrArg (·.2.postQueue) same :) fun effect => ?_
    rw [Reactor.timingOf_eq, Reactor.timingOf_eq, World.withReactor_reactor, kinds]
    split
    case isTrue new => rw [new, none]; rfl
    case isFalse => rfl

/-! ## Compiling and bringing up to date -/

theorem respectedByWrites_busily_meek : RespectedByWrites runner fun _ => Along (Busily Meek) where
  toClosed := composable_busily_meek.closed
  observe _ := meek_observe _
  trigger := meek_trigger
  batch := meek_batch

/-- A cell is brought up to date. -/
theorem meek_carryOut_resolve (runner : Runner) (cell : RefId) (data : Value) (store : LiveMapId)
    (scopes : ScopePath) (path : List String) :
    Along (Busily Meek) (Body.carryOut runner (.resolve cell data store scopes path)) :=
  composable_busily_meek.bind (respectedByWrites_busily_meek.updateCell cell data store scopes path)
    fun _ => composable_busily_meek.pure _

/-- A new effect brings its cell up to date at once. -/
theorem meek_watch {cell : RefId} {data : Value} {store : LiveMapId} {scopes : ScopePath}
    {path : List String}
    (each : Along (Busily Meek) (runner.perform (.resolve cell data store scopes path))) :
    Along (Busily Meek) (watch runner (.resolve cell data store scopes path) .pre) := by
  intro world busy
  have made := meek_addEffect cell data store scopes path world
  have first := meek_runEffect (world.withReactor fun reactor =>
      (reactor.addEffect (.resolve cell data store scopes path) .pre true).2)
    (Reactor.found_addEffect world.reactor _ .pre true) rfl each (made.toKept.idle.trans busy)
  rw [run_watch]
  exact made.trans first

theorem meek_resolve (data : Value) (store : LiveMapId) (scopes : ScopePath) (token : String)
    (each : ∀ cell path,
      Along (Busily Meek) (runner.perform (.resolve cell data store scopes path))) :
    Along (Busily Meek) (resolve runner data store scopes token) := by
  refine composable_busily_meek.bind (meek_observe _) fun cell => ?_
  exact composable_busily_meek.bind (meek_watch (each cell _)) fun _ =>
    composable_busily_meek.pure _

end Act

open Act

variable {flushLimit nesting : Nat}

theorem Runner.meek_resolve (cell : RefId) (data : Value) (store : LiveMapId)
    (scopes : ScopePath) (path : List String) : Along (Busily Meek)
      ((Runner.bounded flushLimit nesting).perform (.resolve cell data store scopes path)) := by
  cases nesting with
  | zero => exact composable_busily_meek.throw _
  | succ nesting => exact meek_carryOut_resolve _ cell data store scopes path

theorem respectedByCompiling_busily_meek :
    RespectedByCompiling (.bounded flushLimit nesting) fun _ => Along (Busily Meek) where
  toRespectedByWrites := respectedByWrites_busily_meek
  beside same world _ :=
    meek_of_signals [] (same world).reactor (World.stepsOf_of_listeners (same world).listeners)
  untracked := meek_untracked
  within := meek_within
  newEffectScope world _ := meek_scopes _ world
  stopEffectScope scope world _ := meek_stopScope scope world
  resolve data store scopes token :=
    Act.meek_resolve data store scopes token fun cell path =>
      Runner.meek_resolve cell data store scopes path

/-- A view is compiled. -/
theorem Runner.meek_compile (view : ViewId) : Along (Busily Meek)
    ((Runner.bounded flushLimit nesting).perform (.compile view)) := by
  cases nesting with
  | zero => exact composable_busily_meek.throw _
  | succ nesting =>
      have compiles : RespectedByCompiling (.bounded flushLimit nesting) fun _ => Along (Busily Meek) :=
        respectedByCompiling_busily_meek
      exact compiles.bind (compiles.compileView view) fun _ => compiles.pure _

end ReactiveSchema
