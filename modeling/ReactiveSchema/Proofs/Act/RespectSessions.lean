import ReactiveSchema.Proofs.Act.RespectPrograms
import ReactiveSchema.Script.Session

/-!
# Relations that sessions respect

A relation between worlds that the operations on effects respect, and that does not look
beyond the effects, is respected by every program, whatever it is allowed to do, and by
whole sessions.
-/

namespace ReactiveSchema

/-! ## Passes and frames of programs -/

namespace Composable

variable {R : World → World → Prop}

theorem withContext (path : Composable R)
    (looks : ∀ {α : Type} (look : Observe α), Along R (Act.observe look))
    (context : Option EvaluationContext) {body : Act Value} (each : Along R body) :
    Along R (Act.withContext context body) := by
  refine path.bind path.get fun world => ?_
  exact path.bind (looks _) fun _ => path.ensuring each (looks _)

theorem insideFrame (path : Composable R)
    (looks : ∀ {α : Type} (look : Observe α), Along R (Act.observe look))
    (bindings : Value) {body : Act Value} (each : Along R body) :
    Along R (Act.insideFrame bindings body) := by
  refine path.bind (looks _) fun depth => ?_
  exact path.bind (looks _) fun _ => path.ensuring each (looks _)

theorem leak (path : Composable R)
    (looks : ∀ {α : Type} (look : Observe α), Along R (Act.observe look)) (value count : Value) :
    Along R (Act.leak value count) := by
  unfold Act.leak Act.viewOf
  refine path.bind ?_ fun id => ?_
  · split
    · exact path.pure _
    · exact looks _
  refine path.bind (path.closed.viewAt id) fun view => ?_
  exact path.bind (path.closed.isChecked view) fun _ => looks _

end Composable

/-! ## Sessions -/

namespace Session

variable {R : World → World → Prop} {runner : Runner}

theorem along_reportMarkup (markup : ∀ value, Along R (Act.observe (Observe.html value)))
    (value : Value) (world : World) : R world (reportMarkup value world).2 := by
  have looked := markup value world
  unfold reportMarkup
  rcases ran : (Act.observe (Observe.html value)).run world with ⟨fault | text, after⟩ <;>
    rw [ran] at looked <;> exact looked

theorem along_reportViews (path : Composable R)
    (markup : ∀ value, Along R (Act.observe (Observe.html value)))
    (mounted : List (String × ViewId)) (world : World) :
    R world (reportViews mounted world).2 := by
  induction mounted generalizing world with
  | nil => exact path.refl world
  | cons entry rest ih =>
      unfold reportViews
      split
      · exact ih world
      · exact path.trans (along_reportMarkup markup _ world) (ih _)

/-- A step of a session goes along a relation along which its action goes. -/
theorem along_step (path : Composable R)
    (markup : ∀ value, Along R (Act.observe (Observe.html value)))
    (cleared : ∀ world, R world { world with entries := [] }) {action : Action}
    (each : Along R (action.perform runner)) (world : World) :
    R world (step runner action world).2 := by
  have done := path.trans (cleared world) (each _)
  unfold step
  rcases ran : (action.perform runner).run { world with entries := [] } with ⟨result, after⟩
  rw [ran] at done
  dsimp only
  split
  · exact done
  · exact path.trans done (along_reportViews path markup _ after)

/-- A session goes along a relation along which all its actions go. -/
theorem along_steps (path : Composable R)
    (markup : ∀ value, Along R (Act.observe (Observe.html value)))
    (cleared : ∀ world, R world { world with entries := [] }) {program : List Action}
    (each : ∀ action ∈ program, Along R (action.perform runner)) (world : World) :
    R world (steps runner program world).2 := by
  induction program generalizing world with
  | nil => exact path.refl world
  | cons action rest ih =>
      have first := along_step path markup cleared (each action List.mem_cons_self) world
      unfold steps
      rcases ran : step runner action world with ⟨fault | report, after⟩ <;> rw [ran] at first
      · exact first
      · exact path.trans first (ih (fun other later => each other (List.mem_cons_of_mem _ later)) _)

end Session

/-! ## Programs -/

/-- What a relation between worlds has to respect, given how effects are carried out. -/
structure Respected (runner : Runner) (R : World → World → Prop) : Prop
    extends Composable R where
  observe {α : Type} (look : Observe α) : Along R (Act.observe look)
  trigger (dep : DepId) : Along R (Act.trigger runner dep)
  batch {α : Type} {body : Act α} : Along R body → Along R (Act.batch runner body)
  /-- Whatever lies beside the effects may change. -/
  beside {world after : World} : after.reactor = world.reactor → R world after
  perform (body : Body) : Along R (runner.perform body)
  runEffect (effect : EffectId) : Along R (Act.runEffect runner effect)
  untracked {α : Type} {body : Act α} : Along R body → Along R (Act.untracked body)
  within {α : Type} (scope : EffectScopeId) {body : Act α} :
    Along R body → Along R (Act.within scope body)
  newEffect (body : Body) (timing : Timing) : Along R (Act.newEffect body timing)
  newMember (body : Body) (timing : Timing) : Along R (Act.newMember body timing)
  newEffectScope : Along R Act.newEffectScope
  stopEffect (effect : EffectId) : Along R (Act.stopEffect effect)
  stopEffectScope (scope : EffectScopeId) : Along R (Act.stopEffectScope scope)

namespace Respected

variable {runner : Runner} {R : World → World → Prop} {α : Type}

/-- Programs go along the relation, whatever they are allowed to do. -/
theorem byPrograms (respected : Respected runner R) :
    RespectedByPrograms runner (fun _ => true) fun _ => Along R where
  toClosed := respected.toComposable.closed
  observe _ := respected.observe _
  trigger := respected.trigger
  batch := respected.batch
  beside same world := respected.beside (same world).reactor
  untracked := respected.untracked
  within := respected.within
  newEffect timing _ := respected.newEffect _ timing
  newMember timing _ := respected.newMember _ timing
  runEffect := respected.runEffect
  stopEffect := respected.stopEffect
  newEffectScope := respected.newEffectScope
  stopEffectScope := respected.stopEffectScope
  newListener _ _ _ := respected.beside rfl
  hearing each :=
    respected.bind respected.get fun world => each world fun _ steps _ => Action.allUse_any steps
  calledOnce _ _ := respected.beside rfl
  perform name steps _ := respected.perform (.program name steps)
  withContext context _ := respected.withContext respected.observe context
  insideFrame bindings _ := respected.insideFrame respected.observe bindings
  pushFrame _ _ := respected.observe _
  leak _ := respected.toComposable.leak respected.observe

theorem performs (respected : Respected runner R) (action : Action) :
    Along R (action.perform runner) :=
  respected.byPrograms.performs action action.uses_any

theorem carryOut (respected : Respected runner R) (body : Body) :
    Along R (body.carryOut runner) := by
  refine respected.byPrograms.carryOut ?_ fun _ _ _ _ => respected.beside rfl
  cases body with
  | program name steps => exact Action.allUse_any steps
  | _ => trivial

/-- Compiling goes along the relation. -/
theorem byCompiling (respected : Respected runner R) :
    RespectedByCompiling runner fun _ => Along R :=
  respected.byPrograms.byCompiling

theorem unmount (respected : Respected runner R) (id : ViewId) : Along R (Act.unmount id) :=
  respected.byPrograms.unmount id

theorem step (respected : Respected runner R) (action : Action) (world : World) :
    R world (Session.step runner action world).2 :=
  Session.along_step respected.toComposable (fun _ => respected.observe _)
    (fun _ => respected.beside rfl) (respected.performs action) world

theorem steps (respected : Respected runner R) (program : List Action) (world : World) :
    R world (Session.steps runner program world).2 :=
  Session.along_steps respected.toComposable (fun _ => respected.observe _)
    (fun _ => respected.beside rfl) (fun action _ => respected.performs action) world

end Respected

/--
What every runner respects whose effects go along it, all bounded runners respect: effects
inside effects are carried out by runners of lower bounds.
-/
theorem respected_bounded {R : World → World → Prop} {flushLimit : Nat}
    (path : Composable R)
    (respects : ∀ perform : Body → Act Value, (∀ body, Along R (perform body)) →
      Respected ⟨flushLimit, perform⟩ R) (nesting : Nat) :
    Respected (Runner.bounded flushLimit nesting) R := by
  refine respects _ fun body => ?_
  induction nesting generalizing body with
  | zero => exact path.throw _
  | succ nesting ih => exact (respects _ ih).carryOut body

end ReactiveSchema
