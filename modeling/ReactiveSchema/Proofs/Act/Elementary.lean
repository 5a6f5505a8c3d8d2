import ReactiveSchema.Proofs.Act.RespectSessions
import ReactiveSchema.Proofs.Act.Working
import ReactiveSchema.Proofs.Reactive.Subscriptions

/-!
# Elementary changes of the effects

Whatever programs do to effects is made of few elementary changes.  A relation that can be
composed and holds for each of these holds from the start to the end of every program.
-/

namespace ReactiveSchema

/-- A relation that each elementary change of the effects keeps to. -/
structure Elementary (S : Reactor Body → Reactor Body → Prop) : Prop where
  refl (reactor : Reactor Body) : S reactor reactor
  trans {before middle after : Reactor Body} : S before middle → S middle after → S before after
  /-- What is set for a time does not matter. -/
  setting (reactor : Reactor Body) (batchDepth : Nat) (flushing : Bool)
    (activeEffect : Option EffectId) (activeScope : Option EffectScopeId) :
    S reactor { reactor with batchDepth, flushing, activeEffect, activeScope }
  scopes (reactor : Reactor Body) (scopes : Array EffectScope) : S reactor { reactor with scopes }
  note (reactor : Reactor Body) (event : Event) : S reactor (reactor.note event)
  track (reactor : Reactor Body) (dep : DepId) : S reactor (reactor.track dep)
  enqueue (reactor : Reactor Body) (effect : EffectId) : S reactor (reactor.enqueue effect)
  next {reactor rest : Reactor Body} {effect : EffectId} :
    reactor.next? = some (effect, rest) → S reactor rest
  beginRun {reactor : Reactor Body} {effect : EffectId} :
    reactor.isActive effect = true → S reactor (reactor.beginRun effect)
  addEffect (reactor : Reactor Body) (body : Body) (timing : Timing) (joins : Bool) :
    S reactor (reactor.addEffect body timing joins).2
  stop (reactor : Reactor Body) (effect : EffectId) : S reactor (reactor.stop effect)

namespace Elementary

/-- Two worlds whose effects are related. -/
abbrev InWorld (S : Reactor Body → Reactor Body → Prop) (before after : World) : Prop :=
  S before.reactor after.reactor

variable {S : Reactor Body → Reactor Body → Prop} {α : Type} {runner : Runner}

theorem path (elementary : Elementary S) : Composable (InWorld S) where
  refl world := elementary.refl world.reactor
  trans := elementary.trans

theorem modifying {change : Reactor Body → Reactor Body}
    (each : ∀ reactor, S reactor (change reactor)) :
    Along (InWorld S) (Act.modifyReactor change) :=
  fun world => each world.reactor

theorem observe (elementary : Elementary S) (look : Observe α) :
    Along (InWorld S) (Act.observe look) := by
  have all (deps : List DepId) (reactor : Reactor Body) : S reactor (reactor.trackAll deps) := by
    induction deps generalizing reactor with
    | nil => exact elementary.refl reactor
    | cons dep rest ih => exact elementary.trans (elementary.track reactor dep) (ih _)
  exact fun world => all _ world.reactor

theorem stopScope (elementary : Elementary S) (reactor : Reactor Body) (scope : EffectScopeId) :
    S reactor (reactor.stopScope scope) :=
  Reactor.stopScope_along reactor scope elementary.refl elementary.trans
    (fun start effect _ => elementary.stop start effect) elementary.scopes

/-! ## Runs and queues -/

theorem sets (elementary : Elementary S) : Sets fun _ => Along (InWorld S) where
  toClosed := elementary.path.closed
  ensuring := elementary.path.ensuring
  setting {change} same := modifying fun reactor => by
    obtain ⟨batchDepth, flushing, activeEffect, activeScope, changed⟩ := same reactor
    rw [changed]
    exact elementary.setting reactor batchDepth flushing activeEffect activeScope

section Performing

variable (performs : ∀ body, Along (InWorld S) (runner.perform body))
include performs

theorem runEffect (elementary : Elementary S) (effect : EffectId) :
    Along (InWorld S) (Act.runEffect runner effect) := by
  intro world
  cases found : world.reactor.effects[effect]? with
  | none =>
      rw [Act.run_runEffect_missing runner found]
      exact elementary.refl world.reactor
  | some cell =>
      rw [Act.run_runEffect runner found]
      split
      case isTrue active =>
        have alive : world.reactor.isActive effect = true := by
          unfold Reactor.isActive
          rw [found]
          exact active
        have begun := elementary.beginRun alive
        exact elementary.trans begun
          (elementary.sets.withActiveEffect (some effect) (performs cell.body)
            (world.withReactor (·.beginRun effect)))
      case isFalse => exact performs cell.body world

theorem works (elementary : Elementary S) : Works runner fun _ => Along (InWorld S) where
  toSets := elementary.sets
  note event := modifying fun reactor => elementary.note reactor event
  enqueue effect := modifying fun reactor => elementary.enqueue reactor effect
  taking {next} each world := by
    cases found : world.reactor.next? with
    | none =>
        rw [Act.run_taking_none next found]
        exact elementary.refl world.reactor
    | some entry =>
        rw [Act.run_taking_some next found]
        exact elementary.trans (elementary.next found)
          (each _ _ (world.withReactor fun _ => entry.2))
  runEffect := elementary.runEffect performs

end Performing

/-! ## Programs -/

theorem respects (elementary : Elementary S) {flushLimit : Nat} {perform : Body → Act Value}
    (performs : ∀ body, Along (InWorld S) (perform body)) :
    Respected ⟨flushLimit, perform⟩ (InWorld S) where
  toComposable := elementary.path
  observe := elementary.observe
  trigger := (elementary.works performs).trigger
  batch := (elementary.works performs).batch
  beside same := by
    unfold InWorld
    rw [same]
    exact elementary.refl _
  perform := performs
  runEffect := elementary.runEffect performs
  untracked := elementary.sets.withActiveEffect none
  within := elementary.sets.within
  newEffect body timing world := elementary.addEffect world.reactor body timing false
  newMember body timing world := elementary.addEffect world.reactor body timing true
  newEffectScope world := elementary.scopes world.reactor _
  stopEffect effect world := elementary.stop world.reactor effect
  stopEffectScope scope world := elementary.stopScope world.reactor scope

/-- What each elementary change keeps to, every program does. -/
theorem respected (elementary : Elementary S) (flushLimit nesting : Nat) :
    Respected (.bounded flushLimit nesting) (InWorld S) :=
  respected_bounded elementary.path (fun _ => elementary.respects) nesting

end Elementary

end ReactiveSchema
