import ReactiveSchema.Proofs.Act.PlainPrograms
import ReactiveSchema.Proofs.Reactive.Rendering
import ReactiveSchema.Proofs.Reactive.Replay

/-!
# Runs of plain programs

While effects are put off, a plain program reads and tells.  If it may, it also stops effects,
and makes new ones, each of which runs once.  None of the effects that there were runs.
-/

namespace ReactiveSchema

variable {making : Bool} {before middle after world : World} {runner : Runner}
  {effect : EffectId} {flushLimit nesting : Nat}

/-! ## What happens meanwhile -/

/--
From one world to another nobody is taken off the queues, and only new effects run, each once.
Unless effects may be made and stopped, the same ones are there and active.
-/
structure Proceeds (making : Bool) (before after : World) : Prop
    extends Reactor.Kept before.reactor after.reactor where
  steps (id : ListenerId) : after.stepsOf id = before.stepsOf id
  replays : Reactor.Replays before.reactor after.reactor
  fresh {effect : EffectId} : effect ∈ runsIn (after.reactor.eventsSince before.reactor) →
    before.reactor.effects.size ≤ effect ∧ effect < after.reactor.effects.size
  once : (runsIn (after.reactor.eventsSince before.reactor)).Nodup
  owned : OwnReads before.reactor.activeEffect (after.reactor.eventsSince before.reactor)
  still : making = false → Reactor.Carries before.reactor after.reactor

namespace Proceeds

/-- Where no effects are made, none of them runs. -/
theorem silent (proceeds : Proceeds false before after) :
    runsIn (after.reactor.eventsSince before.reactor) = [] := by
  refine List.eq_nil_iff_forall_not_mem.mpr fun effect ran => ?_
  obtain ⟨new, known⟩ := proceeds.fresh ran
  rw [(proceeds.still rfl).size] at known
  exact Nat.not_lt_of_le new known

/-- What nobody notes, and starts no run. -/
theorem of_unnoted (kept : Reactor.Kept before.reactor after.reactor)
    (steps : ∀ id, after.stepsOf id = before.stepsOf id)
    (replays : Reactor.Replays before.reactor after.reactor)
    (unnoted : after.reactor.history = before.reactor.history)
    (still : making = false → Reactor.Carries before.reactor after.reactor) :
    Proceeds making before after := by
  have nothing := Reactor.eventsSince_of_same unnoted
  constructor
  case toKept => exact kept
  case steps => exact steps
  case replays => exact replays
  case fresh => exact fun ran => nomatch nothing ▸ ran
  case once => exact nothing ▸ List.nodup_nil
  case owned => exact nothing ▸ trivial
  case still => exact still

theorem of_signals (signals : List Signal)
    (same : after.reactor = before.reactor.signalAll signals)
    (steps : ∀ id, after.stepsOf id = before.stepsOf id) : Proceeds making before after := by
  have kept : Reactor.Kept before.reactor after.reactor :=
    same ▸ Reactor.kept_signalAll before.reactor signals
  have unrun (effect : EffectId) :
      ¬ Reactor.Since before.reactor.history after.reactor (.began effect) :=
    same ▸ Reactor.not_began_signalAll before.reactor signals
  have carries : Reactor.Carries before.reactor after.reactor :=
    same ▸ .signalAll before.reactor signals
  have silent := Reactor.runsIn_eventsSince_eq_nil kept.older unrun
  constructor
  case toKept => exact kept
  case steps => exact steps
  case replays => exact carries.replays
  case fresh => exact fun ran => nomatch silent ▸ ran
  case once => exact silent ▸ List.nodup_nil
  case owned => exact same ▸ Reactor.ownReads_signalAll before.reactor signals
  case still => exact fun _ => carries

theorem refl (world : World) : Proceeds making world world :=
  .of_signals [] rfl fun _ => rfl

theorem trans (first : Proceeds making before middle) (second : Proceeds making middle after) :
    Proceeds making before after := by
  have joined := Reactor.eventsSince_trans first.older second.older
  constructor
  case toKept => exact first.toKept.trans second.toKept
  case steps => exact fun id => (second.steps id).trans (first.steps id)
  case replays => exact first.replays.trans second.replays
  case fresh =>
    intro effect ran
    rw [joined, runsIn_append] at ran
    rcases List.mem_append.mp ran with early | late
    · exact (first.fresh early).imp_right second.replays.grown
    · exact (second.fresh late).imp_left (Nat.le_trans first.replays.size_le)
  case once =>
    rw [joined, runsIn_append]
    refine first.once.append second.once fun effect early late => ?_
    exact Nat.not_lt_of_le (second.fresh late).1 (first.fresh early).2
  case owned =>
    rw [joined]
    exact (first.activeEffect ▸ second.owned).append first.owned
  case still => exact fun none => (first.still none).trans (second.still none)

/-- Who runs has not been triggered: where nobody was running, nobody who waits runs. -/
theorem untriggered (proceeds : Proceeds making before after)
    (linked : before.reactor.Linked) (calm : before.reactor.activeEffect = none)
    {newer older : List Event}
    (split : after.reactor.eventsSince before.reactor = newer ++ .began effect :: older) :
    effect ∉ triggered before.reactor.subscribersOf older := by
  intro due
  obtain ⟨dep, -, -, reads⟩ := told_of_mem_triggered due
  have owned := proceeds.owned
  have once := proceeds.once
  rw [calm, split] at owned
  rw [split, runsIn_append, runsIn, List.append_assoc] at once
  rcases reads with known | read
  · have new := (proceeds.fresh (mem_runsIn.mpr (split ▸ List.mem_append_right _
      List.mem_cons_self))).1
    exact Nat.not_lt_of_le new (linked.known known)
  · have begun : effect ∈ runsIn older := mem_runsIn.mpr (OwnReads.began owned.of_append read)
    exact List.disjoint_of_nodup_append once begun List.mem_cons_self

/-! ### Being the running effect, in a group or in a batch for a time -/

theorem untracked (proceeds : Proceeds making (before.withReactor (.asEffect none)) after) :
    Proceeds making before
      (after.withReactor (.asEffect before.reactor.activeEffect)) where
  toKept := ⟨proceeds.older, proceeds.batchDepth, proceeds.flushing, rfl, proceeds.activeScope⟩
  steps := proceeds.steps
  replays := (Reactor.Carries.asEffect _ none).replays.trans
    (proceeds.replays.trans (Reactor.Carries.asEffect _ _).replays)
  fresh := proceeds.fresh
  once := proceeds.once
  owned := proceeds.owned.of_none
  still none := (Reactor.Carries.asEffect _ _).trans ((proceeds.still none).trans (.asEffect _ _))

theorem inScope {scope : Option EffectScopeId}
    (proceeds : Proceeds making (before.withReactor (.inScope scope)) after) :
    Proceeds making before (after.withReactor (.inScope before.reactor.activeScope)) where
  toKept := ⟨proceeds.older, proceeds.batchDepth, proceeds.flushing, proceeds.activeEffect, rfl⟩
  steps := proceeds.steps
  replays := (Reactor.Carries.inScope _ scope).replays.trans
    (proceeds.replays.trans (Reactor.Carries.inScope _ _).replays)
  fresh := proceeds.fresh
  once := proceeds.once
  owned := proceeds.owned
  still none := (Reactor.Carries.inScope _ scope).trans ((proceeds.still none).trans (.inScope _ _))

theorem ofBatch (proceeds : Proceeds making (before.withReactor .deeper) after) :
    Proceeds making before (after.withReactor .shallower) where
  toKept := ⟨proceeds.older,
    (congrArg (· - 1) proceeds.batchDepth).trans (Nat.add_sub_cancel _ 1),
    proceeds.flushing, proceeds.activeEffect, proceeds.activeScope⟩
  steps := proceeds.steps
  replays := (Reactor.Carries.deeper _).replays.trans
    (proceeds.replays.trans (Reactor.Carries.shallower _).replays)
  fresh := proceeds.fresh
  once := proceeds.once
  owned := proceeds.owned
  still none := (Reactor.Carries.deeper _).trans ((proceeds.still none).trans (.shallower _))

end Proceeds

theorem composable_busily_proceeds : Composable (Busily (Proceeds making)) where
  refl world _ := .refl world
  trans first second busy :=
    (first busy).trans (second ((first busy).toKept.idle.trans busy))

/-! ## One run of an effect -/

/-- From one world to another an effect has run once, and no more than read and told. -/
structure RunsOnce (effect : EffectId) (before after : World) : Prop
    extends Reactor.Kept before.reactor after.reactor where
  steps (id : ListenerId) : after.stepsOf id = before.stepsOf id
  carries : Reactor.Carries before.reactor after.reactor
  ran : ∃ events, after.reactor.eventsSince before.reactor = events ++ [.began effect] ∧
    runsIn events = [] ∧ OwnReads (some effect) events

theorem RunsOnce.runsIn_eq (runs : RunsOnce effect before after) :
    runsIn (after.reactor.eventsSince before.reactor) = [effect] := by
  obtain ⟨events, same, silent, -⟩ := runs.ran
  rw [same, runsIn_append, silent]
  rfl

/-- What is told during a run, its effect tells. -/
theorem RunsOnce.mem_tellers (runs : RunsOnce effect before after) {dep : DepId}
    {running : Option EffectId}
    (told : .told dep running ∈ after.reactor.eventsSince before.reactor) :
    effect ∈ tellers (after.reactor.eventsSince before.reactor) := by
  obtain ⟨events, same, silent, -⟩ := runs.ran
  rw [same] at told ⊢
  refine mem_tellers_of_run silent ((List.mem_append.mp told).resolve_right ?_)
  exact fun own => nomatch List.mem_singleton.mp own

/-- What is read during a run, its effect reads. -/
theorem RunsOnce.owned (runs : RunsOnce effect before after) (running : Option EffectId) :
    OwnReads running (after.reactor.eventsSince before.reactor) := by
  obtain ⟨events, same, -, owned⟩ := runs.ran
  exact same ▸ owned.of_run

/-- A new effect may run once. -/
theorem Proceeds.thenRuns (made : Proceeds true before middle)
    (silent : runsIn (middle.reactor.eventsSince before.reactor) = [])
    (new : before.reactor.effects.size ≤ effect) (known : effect < middle.reactor.effects.size)
    (runs : RunsOnce effect middle after) : Proceeds true before after := by
  have joined := Reactor.eventsSince_trans made.older runs.older
  have ran : runsIn (after.reactor.eventsSince before.reactor) = [effect] := by
    rw [joined, runsIn_append, silent, runs.runsIn_eq]
    rfl
  constructor
  case toKept => exact made.toKept.trans runs.toKept
  case steps => exact fun id => (runs.steps id).trans (made.steps id)
  case replays => exact made.replays.trans runs.carries.replays
  case fresh =>
    intro other now
    rw [ran] at now
    cases List.mem_singleton.mp now
    exact ⟨new, runs.carries.replays.grown known⟩
  case once => exact ran ▸ List.nodup_singleton effect
  case owned => exact joined ▸ (runs.owned _).append made.owned
  case still => exact nofun

theorem Proceeds.runsOnce (proceeds : Proceeds false (world.begun effect) after) :
    RunsOnce effect world
      (after.withReactor (.asEffect (world.reactor.beginRun effect).activeEffect)) := by
  have begins := Reactor.begins_beginRun world.reactor effect
  constructor
  case toKept =>
    exact begins.toKept.trans ⟨proceeds.older, proceeds.batchDepth, proceeds.flushing, rfl,
      proceeds.activeScope⟩
  case steps => exact proceeds.steps
  case carries =>
    exact (Reactor.Carries.beginRun world.reactor effect).trans
      ((Reactor.Carries.asEffect _ (some effect)).trans
        ((proceeds.still rfl).trans (.asEffect _ _)))
  case ran =>
    have happened : after.reactor.history = _ ++ (world.reactor.beginRun effect).history :=
      Reactor.history_of_older proceeds.older
    refine ⟨_, Reactor.eventsSince_of_history ?_, proceeds.silent, proceeds.owned⟩
    rw [World.withReactor_reactor, List.append_assoc]
    exact happened.trans (congrArg (_ ++ ·) begins.began)

namespace Act

variable {α : Type}

/-- A run of an active effect whose body reads and tells. -/
theorem runsOnce_runEffect {cell : Effect Body}
    (found : world.reactor.effects[effect]? = some cell) (active : cell.active = true)
    (each : Proceeds false (world.begun effect)
      ((runner.perform cell.body).run (world.begun effect)).2) :
    RunsOnce effect world ((runEffect runner effect).run world).2 := by
  rw [run_runEffect runner found, if_pos active, run_withActiveEffect]
  exact each.runsOnce

/-! ## What plain programs come to -/

theorem proceeds_observe (look : Observe α) : Along (Busily (Proceeds making)) (observe look) :=
  fun world _ => .of_signals _ (Reactor.trackAll_eq_signalAll world.reactor _) fun _ => rfl

theorem proceeds_trigger (dep : DepId) :
    Along (Busily (Proceeds making)) (trigger runner dep) := by
  intro world busy
  rw [run_trigger_busy dep busy]
  exact .of_signals [.told dep] rfl fun _ => rfl

theorem proceeds_batch {body : Act α} (each : Along (Busily (Proceeds making)) body) :
    Along (Busily (Proceeds making)) (batch runner body) := by
  intro world busy
  have inside := each (world.withReactor .deeper) rfl
  rw [run_batch, run_ensuring]
  rcases ran : body.run (world.withReactor .deeper) with ⟨result, late⟩
  rw [ran] at inside
  have proceeds := inside.ofBatch
  have deferred : late.reactor.shallower.idle = false := proceeds.toKept.idle.trans busy
  rw [run_leaveBatch, deferred, Bool.false_and, if_neg Bool.false_ne_true]
  exact proceeds

theorem proceeds_untracked {body : Act α} (each : Along (Busily (Proceeds making)) body) :
    Along (Busily (Proceeds making)) (untracked body) := by
  intro world busy
  unfold untracked
  rw [run_withActiveEffect]
  exact (each (world.withReactor (.asEffect none)) busy).untracked

theorem proceeds_within (scope : EffectScopeId) {body : Act α}
    (each : Along (Busily (Proceeds making)) body) :
    Along (Busily (Proceeds making)) (within scope body) := by
  intro world busy
  rw [run_within]
  exact (each (world.withReactor (.inScope (some scope))) busy).inScope

theorem respectedByWrites_proceeds :
    RespectedByWrites runner fun _ => Along (Busily (Proceeds making)) where
  toClosed := composable_busily_proceeds.closed
  observe _ := proceeds_observe _
  trigger := proceeds_trigger
  batch := proceeds_batch

theorem proceeds_scopes (scopes : Array EffectScope) (world : World) :
    Proceeds making world (world.withReactor ({ · with scopes })) :=
  have carries : Reactor.Carries world.reactor { world.reactor with scopes } :=
    .of_eq rfl rfl rfl rfl rfl
  .of_unnoted (Reactor.keeps_scopes world.reactor scopes).toKept (fun _ => rfl) carries.replays rfl
    fun _ => carries

/-! ## Making and stopping effects -/

theorem proceeds_addEffect (body : Body) (timing : Timing) (joins : Bool) (world : World) :
    Proceeds true world
      (world.withReactor fun reactor => (reactor.addEffect body timing joins).2) :=
  .of_unnoted (Reactor.keeps_addEffect world.reactor body timing joins).toKept (fun _ => rfl)
    (.addEffect world.reactor body timing joins) (Reactor.history_addEffect ..) nofun

theorem proceeds_stop (effect : EffectId) (world : World) :
    Proceeds true world (world.withReactor (·.stop effect)) := by
  obtain ⟨effects, subscribers, same⟩ := Reactor.fields_stop world.reactor effect
  have history : (world.reactor.stop effect).history = world.reactor.history :=
    (congrArg Reactor.history same :)
  exact .of_unnoted (Reactor.keeps_stop world.reactor effect).toKept (fun _ => rfl)
    (.stop world.reactor effect) history nofun

theorem proceeds_stopScope (scope : EffectScopeId) (world : World) :
    Proceeds true world (world.withReactor (·.stopScope scope)) :=
  Reactor.stopScope_along
    (R := fun before after =>
      Proceeds true (world.withReactor fun _ => before) (world.withReactor fun _ => after))
    world.reactor scope (fun _ => .refl _) .trans (fun _ effect _ => proceeds_stop effect _)
    fun _ scopes => proceeds_scopes scopes _

/-- A new effect runs once. -/
theorem proceeds_watch {body : Body} (timing : Timing)
    (each : Along (Busily (Proceeds false)) (runner.perform body)) :
    Along (Busily (Proceeds true)) (watch runner body timing) := by
  intro world busy
  have made := proceeds_addEffect body timing true world
  have found := Reactor.found_addEffect world.reactor body timing true
  have new := Reactor.fst_addEffect world.reactor body timing true
  have size := Reactor.size_addEffect world.reactor body timing true
  have history := Reactor.history_addEffect world.reactor body timing true
  have begun : ((world.withReactor fun reactor => (reactor.addEffect body timing true).2).begun
      (world.reactor.addEffect body timing true).1).reactor.idle = false :=
    (Reactor.begins_beginRun _ _).toKept.idle.trans (made.toKept.idle.trans busy)
  rw [run_watch]
  refine made.thenRuns (congrArg runsIn (Reactor.eventsSince_of_same history))
    (Nat.le_of_eq new.symm) ?_ (runsOnce_runEffect found rfl (each _ begun))
  rw [new, World.withReactor_reactor, size]
  exact Nat.lt_succ_self _

theorem proceeds_resolve (data : Value) (store : LiveMapId) (scopes : ScopePath) (token : String)
    (each : ∀ cell path, Along (Busily (Proceeds false))
      (runner.perform (.resolve cell data store scopes path))) :
    Along (Busily (Proceeds true)) (resolve runner data store scopes token) := by
  have path : Composable (Busily (Proceeds true)) := composable_busily_proceeds
  refine path.bind (proceeds_observe _) fun cell => ?_
  exact path.bind (proceeds_watch .pre (each cell _)) fun _ => path.pure _

/-- Plain programs proceed, if the effects that they may make are carried out so. -/
theorem respectedByPlain_proceeds
    (programs : making = true → ∀ name steps, Action.allPlain false steps = true →
      Along (Busily (Proceeds false)) (runner.perform (.program name steps)))
    (resolvers : making = true → ∀ cell data store scopes path, Along (Busily (Proceeds false))
      (runner.perform (.resolve cell data store scopes path))) :
    RespectedByPlain runner making (Busily (Proceeds making)) where
  toRespectedByWrites := respectedByWrites_proceeds
  path := composable_busily_proceeds
  look := proceeds_observe
  beside reactor listeners _ := .of_signals [] reactor (World.stepsOf_of_listeners listeners)
  untracked := proceeds_untracked
  within := proceeds_within
  newEffectScope world _ := proceeds_scopes _ world
  newEffect may body timing world _ := may ▸ proceeds_addEffect body timing false world
  watch may name timing steps plain := by
    subst may
    exact proceeds_watch timing (programs rfl name steps plain)
  resolve may data store scopes token := by
    subst may
    exact proceeds_resolve data store scopes token fun cell => resolvers rfl cell data store scopes
  stopEffect may effect world _ := may ▸ proceeds_stop effect world
  stopEffectScope may scope world _ := may ▸ proceeds_stopScope scope world

end Act

/-! ## Carrying effects out -/

/-- Do all listeners only look, write and compute? -/
def World.HearsPlain (world : World) : Prop :=
  ∀ id steps, world.stepsOf id = some steps → Action.allPlain false steps = true

/-- What happens while effects are put off, where listeners are plain. -/
def Plainly (R : World → World → Prop) (before after : World) : Prop :=
  before.HearsPlain → before.reactor.idle = false → R before after

theorem World.HearsPlain.of_steps (hears : before.HearsPlain)
    (same : ∀ id, after.stepsOf id = before.stepsOf id) : after.HearsPlain :=
  fun id steps found => hears id steps ((same id).symm.trans found)

theorem composable_plainly_proceeds : Composable (Plainly (Proceeds making)) where
  refl world _ _ := .refl world
  trans first second hears busy :=
    have begun := first hears busy
    begun.trans (second (hears.of_steps begun.steps) (begun.toKept.idle.trans busy))

namespace Runner

theorem proceeds_program (name : String) {steps : List Action}
    (plain : Action.allPlain false steps = true) : Along (Busily (Proceeds false))
      ((Runner.bounded flushLimit nesting).perform (.program name steps)) := by
  cases nesting with
  | zero => exact composable_busily_proceeds.throw _
  | succ nesting =>
      have respected : RespectedByPlain (.bounded flushLimit nesting) false
          (Busily (Proceeds false)) := Act.respectedByPlain_proceeds nofun nofun
      exact respected.performsSteps .none steps plain

theorem proceeds_resolver (cell : RefId) (data : Value) (store : LiveMapId) (scopes : ScopePath)
    (path : List String) : Along (Busily (Proceeds false))
      ((Runner.bounded flushLimit nesting).perform (.resolve cell data store scopes path)) := by
  cases nesting with
  | zero => exact composable_busily_proceeds.throw _
  | succ nesting =>
      have respected : RespectedByWrites (.bounded flushLimit nesting)
          fun _ => Along (Busily (Proceeds false)) := Act.respectedByWrites_proceeds
      exact respected.silently (respected.updateCell cell data store scopes path)

theorem respectedByRendering_proceeds :
    RespectedByRendering (.bounded flushLimit nesting)
      (fun steps => Action.allPlain false steps = true)
      fun _ => Along (Plainly (Proceeds false)) where
  toClosed := composable_plainly_proceeds.closed
  observe _ world _ := Act.proceeds_observe _ world
  beside same world _ _ :=
    .of_signals [] (same world).reactor (World.stepsOf_of_listeners (same world).listeners)
  untracked each world hears busy := by
    unfold Act.untracked
    rw [Act.run_withActiveEffect]
    exact (each (world.withReactor (.asEffect none)) hears busy).untracked
  hearing each world hears busy := each world hears world hears busy
  calledOnce id world _ _ := .of_signals [] rfl (world.stepsOf_calledOnce id)
  perform name steps plain world _ := proceeds_program name plain world

/-- Plain effects are carried out without making or stopping any. -/
theorem proceeds_perform {body : Body} (plain : body.isPlain = true) :
    Along (Plainly (Proceeds false)) ((Runner.bounded flushLimit nesting).perform body) := by
  cases body with
  | resolve cell data store scopes path =>
      exact fun world _ => proceeds_resolver cell data store scopes path world
  | compile view => cases plain
  | render view =>
      have path : Composable (Plainly (Proceeds false)) := composable_plainly_proceeds
      cases nesting with
      | zero => exact path.throw _
      | succ nesting =>
          refine path.bind (respectedByRendering_proceeds.renderView fun _ _ _ _ => ?_) fun _ =>
            path.pure _
          exact .of_signals [] rfl fun _ => rfl
  | program name steps => exact fun world _ => proceeds_program name plain world

end Runner

/-- While effects are put off, a program that may make and stop effects has only new ones run. -/
theorem proceeds_performSteps {steps : List Action} (plain : Action.allPlain true steps = true)
    (last : Value) : Along (Busily (Proceeds true))
      (Action.perform.performSteps (.bounded flushLimit nesting) last steps) := by
  have respected : RespectedByPlain (.bounded flushLimit nesting) true (Busily (Proceeds true)) :=
    Act.respectedByPlain_proceeds (fun _ name _ plain => Runner.proceeds_program name plain)
      fun _ => Runner.proceeds_resolver
  exact respected.performsSteps last steps plain

end ReactiveSchema
