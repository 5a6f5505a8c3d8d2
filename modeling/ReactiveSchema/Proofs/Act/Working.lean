import ReactiveSchema.Proofs.Act.Steps

/-!
# Working effects

Runs, flushes and batches lie inside one another, but each is made of a few changes of the
effects and of runs.  A property of computations that these have, and that programs have as
soon as their parts do, is one of everything that tells or defers.
-/

namespace ReactiveSchema

/-- What a property of computations needs so that what is set for a time does not matter. -/
structure Sets (P : (α : Type) → Act α → Prop) : Prop extends Closed P where
  ensuring {α : Type} {leave : Act Unit} {body : Act α} :
    P α body → P _ leave → P α (Act.ensuring leave body)
  setting {change : Reactor Body → Reactor Body} :
    (∀ reactor, ∃ batchDepth flushing activeEffect activeScope,
      change reactor = { reactor with batchDepth, flushing, activeEffect, activeScope }) →
        P _ (Act.modifyReactor change)

namespace Sets

variable {P : (α : Type) → Act α → Prop} {α : Type}

theorem setActiveEffect (sets : Sets P) (effect : Option EffectId) :
    P _ (Act.setActiveEffect effect) :=
  sets.setting fun _ => ⟨_, _, _, _, rfl⟩

theorem withActiveEffect (sets : Sets P) (effect : Option EffectId) {body : Act α}
    (each : P α body) : P α (Act.withActiveEffect effect body) := by
  refine sets.bind sets.get fun world => ?_
  refine sets.bind (sets.setActiveEffect effect) fun _ => ?_
  exact sets.ensuring each (sets.setActiveEffect _)

theorem setActiveScope (sets : Sets P) (scope : Option EffectScopeId) :
    P _ (Act.setActiveScope scope) :=
  sets.setting fun _ => ⟨_, _, _, _, rfl⟩

theorem within (sets : Sets P) (scope : EffectScopeId) {body : Act α} (each : P α body) :
    P α (Act.within scope body) := by
  refine sets.bind sets.get fun world => ?_
  refine sets.bind (sets.setActiveScope (some scope)) fun _ => ?_
  exact sets.ensuring each (sets.setActiveScope _)

theorem setFlushing (sets : Sets P) (flushing : Bool) : P _ (Act.setFlushing flushing) :=
  sets.setting fun _ => ⟨_, _, _, _, rfl⟩

end Sets

namespace Act

/-- Take the next effect off the queues, if one waits, and go on with it. -/
def taking (next : EffectId → Bool → Act Unit) : Act Unit := do
  match (← get).reactor.next? with
  | none => return ()
  | some (effect, rest) => do
      modifyReactor fun _ => rest
      next effect (rest.isActive effect)

theorem drain_succ (runner : Runner) (limit : Nat) :
    drain runner (limit + 1) = taking (fun effect active => do
      if active then
        let _ ← runEffect runner effect
      drain runner limit) := by
  rfl

theorem run_taking_none (next : EffectId → Bool → Act Unit) {world : World}
    (none : world.reactor.next? = none) : (taking next).run world = (.ok (), world) := by
  unfold taking
  rw [run_bind, run_get]
  dsimp only
  rw [none]
  rfl

theorem run_taking_some (next : EffectId → Bool → Act Unit) {world : World} {effect : EffectId}
    {rest : Reactor Body} (found : world.reactor.next? = some (effect, rest)) :
    (taking next).run world =
      (next effect (rest.isActive effect)).run (world.withReactor fun _ => rest) := by
  unfold taking
  rw [run_bind, run_get]
  dsimp only
  rw [found]
  dsimp only
  rw [run_bind, run_modifyReactor]

end Act

/-- What a property of computations needs so that working effects has it. -/
structure Works (runner : Runner) (P : (α : Type) → Act α → Prop) : Prop extends Sets P where
  note (event : Event) : P _ (Act.modifyReactor (·.note event))
  enqueue (effect : EffectId) : P _ (Act.modifyReactor (·.enqueue effect))
  taking {next : EffectId → Bool → Act Unit} :
    (∀ effect active, P _ (next effect active)) → P _ (Act.taking next)
  runEffect (effect : EffectId) : P _ (Act.runEffect runner effect)

namespace Works

variable {runner : Runner} {P : (α : Type) → Act α → Prop} {α : Type}

/-! ## Queues -/

theorem drain (works : Works runner P) (limit : Nat) : P _ (Act.drain runner limit) := by
  induction limit with
  | zero => exact works.throw rfl
  | succ limit ih =>
      rw [Act.drain_succ]
      refine works.taking fun effect active => ?_
      split
      · exact works.bind (works.runEffect effect) fun _ => ih
      · exact ih

theorem notingCut (works : Works runner P) {body : Act α} (each : P α body) :
    P α (Act.notingCut body) :=
  works.tryCatch each fun _ again => works.bind (works.note .cutShort) fun _ => again

theorem flush (works : Works runner P) : P _ (Act.flush runner) := by
  refine works.bind (works.setFlushing true) fun _ => ?_
  exact works.ensuring (works.notingCut (works.drain _)) (works.setFlushing false)

theorem schedule (works : Works runner P) (effect : EffectId) :
    P _ (Act.schedule runner effect) := by
  refine works.bind (works.enqueue effect) fun _ => works.bind works.get fun world => ?_
  split
  · exact works.flush
  · exact works.pure _

theorem scheduleAll (works : Works runner P) (current : Option EffectId)
    (effects : List EffectId) : P _ (Act.scheduleAll runner current effects) := by
  induction effects with
  | nil => exact works.pure _
  | cons effect rest ih =>
      unfold Act.scheduleAll
      split
      · exact works.bind (works.schedule effect) fun _ => ih
      · exact ih

theorem trigger (works : Works runner P) (dep : DepId) : P _ (Act.trigger runner dep) := by
  refine works.bind works.get fun world => ?_
  exact works.bind (works.note _) fun _ => works.scheduleAll _ _

/-! ## Batches -/

theorem leaveBatch (works : Works runner P) : P _ (Act.leaveBatch runner) := by
  refine works.bind (works.setting fun _ => ⟨_, _, _, _, rfl⟩) fun _ => ?_
  refine works.bind works.get fun world => ?_
  dsimp only
  split
  · exact works.flush
  · exact works.pure _

theorem batch (works : Works runner P) {body : Act α} (each : P α body) :
    P α (Act.batch runner body) :=
  works.bind (works.setting fun _ => ⟨_, _, _, _, rfl⟩) fun _ =>
    works.ensuring each works.leaveBatch

end Works

end ReactiveSchema
