import ReactiveSchema.Proofs.Act.RespectSessions
import ReactiveSchema.Proofs.Act.Working
import ReactiveSchema.Proofs.Reactive.Kinds
import ReactiveSchema.Proofs.Reactive.NoLostWake

/-!
# Programs that leave no frame behind

A program that pushes no frame by hand, and whose effects and listeners push none either,
ends in the render pass that it began in, with the frames that were open then, however it
ends.  What else is set for the time of an operation is set back by all programs.
-/

namespace ReactiveSchema

/-- Does an operation leave the frames to those who have opened them? -/
def Operation.isTidy : Operation → Bool
  | .pushFrame | .leak => false
  | _ => true

/-- Do all steps, and all effects and listeners that they make, leave the frames alone? -/
abbrev Action.AllTidy (steps : List Action) : Prop :=
  Action.allUse Operation.isTidy steps = true

/-- A world whose effects and listeners leave the frames alone. -/
structure World.IsTidy (world : World) : Prop where
  listeners : world.Hears Action.AllTidy
  effects {effect : EffectId} {body : Body} {timing : Timing} :
    world.reactor.kindOf effect = some (body, timing) → body.Runs Action.AllTidy

theorem World.IsTidy.of_kinds {before after : World} (tidy : before.IsTidy)
    (listeners : ∀ id, after.stepsOf id = before.stepsOf id)
    (kinds : ∀ effect, after.reactor.kindOf effect = before.reactor.kindOf effect) :
    after.IsTidy where
  listeners := tidy.listeners.of_steps listeners
  effects known := tidy.effects ((kinds _).symm.trans known)

/-- The same render pass is under way, with the same frames. -/
abbrev World.KeepsPass (before after : World) : Prop :=
  SamePass before.memory.context after.memory.context

theorem Memory.context_seeing (memory : Memory) (outlook : HandleKind → Nat → Outlook) :
    (memory.seeing outlook).context = memory.context := rfl

namespace Act

open Observe

variable {α : Type} {runner : Runner}

/-- A computation keeps worlds tidy, ends in the pass that it began in and in no frame fault. -/
abbrev IsTidy (body : Act α) : Prop :=
  Orderly World.IsTidy World.KeepsPass body

theorem composable_keepsPass : Composable World.KeepsPass where
  refl world := .refl world.memory.context
  trans := SamePass.trans

theorem tidy_closed : Closed fun _ => IsTidy :=
  composable_keepsPass.orderly _

/-! ## Changing the world -/

theorem tidy_modifyGet {change : World → α × World}
    (tidy : ∀ world, world.IsTidy → (change world).2.IsTidy)
    (same : ∀ world, (change world).2.memory.context = world.memory.context) :
    IsTidy (modifyGet change) := by
  intro world held
  refine ⟨tidy world held, (?_ : SamePass _ (change world).2.memory.context), nofun⟩
  rw [same]
  exact .refl _

theorem tidy_beside {change : World → α × World}
    (same : ∀ world, Beside world (change world).2) : IsTidy (modifyGet change) :=
  tidy_modifyGet
    (fun world tidy => tidy.of_kinds (World.stepsOf_of_listeners (same world).listeners)
      fun effect => congrArg (Reactor.kindOf · effect) (same world).reactor)
    fun world => (same world).context

theorem tidy_showing (id : ViewId) (output : Value) : IsTidy (modify (World.showing id output)) :=
  tidy_modifyGet (fun _ tidy => tidy.of_kinds (fun _ => rfl) fun _ => rfl) fun _ => rfl

theorem tidy_modifyReactor {change : Reactor Body → Reactor Body}
    (kinds : ∀ reactor effect, (change reactor).kindOf effect = reactor.kindOf effect) :
    IsTidy (modifyReactor change) :=
  tidy_modifyGet (fun world tidy => tidy.of_kinds (fun _ => rfl) (kinds world.reactor))
    fun _ => rfl

/-- Whatever a look comes to, the world is as tidy as before. -/
theorem tidy_after_observe (look : Observe α) {world : World} (tidy : world.IsTidy) :
    ((observe look).run world).2.IsTidy := by
  refine tidy.of_kinds (fun _ => rfl) fun effect => ?_
  rw [run_observe]
  dsimp only
  rw [Reactor.trackAll_eq_signalAll, Reactor.kindOf_signalAll]

theorem tidy_observe {look : Observe α} (each : look.IsBalanced) : IsTidy (observe look) := by
  intro world tidy
  have looked := each (world.memory.seeing world.outlook) trivial
  exact ⟨tidy_after_observe look tidy, looked.along, looked.calm⟩

/-! ## Passes and frames of programs -/

/-- A look that does no more than change the pass. -/
theorem observe_inPass {look : Observe α} {value : α} {world : World} (tidy : world.IsTidy)
    {context : Option EvaluationContext}
    (looked : look.run (world.memory.seeing world.outlook) =
      (.ok value, (world.memory.seeing world.outlook).inPass context)) :
    ∃ after, (observe look).run world = (.ok value, after) ∧ after.IsTidy ∧
      after.memory.context = context := by
  have kept := tidy_after_observe look tidy
  rw [run_observe, looked] at kept ⊢
  exact ⟨_, rfl, kept, rfl⟩

theorem tidy_withContext (context : Option EvaluationContext) {body : Act Value}
    (each : IsTidy body) : IsTidy (withContext context body) := by
  intro world tidy
  obtain ⟨inner, entered, begun, -⟩ := observe_inPass tidy (run_setContext context _)
  have ended := each inner begun
  obtain ⟨last, left, kept, same⟩ :=
    observe_inPass ended.keeps (run_setContext world.memory.context _)
  unfold withContext
  rw [run_bind_of_ok (run_get world), run_bind_of_ok entered, run_ensuring, left]
  have along : world.KeepsPass last := by
    rw [World.KeepsPass, same]
    exact .refl _
  exact ⟨kept, along, ended.calm⟩

/-- A frame of a program is closed on every way out, in the pass that it was opened in. -/
theorem tidy_insideFrame (bindings : Value) {body : Act Value} (each : IsTidy body) :
    IsTidy (insideFrame bindings body) := by
  intro world tidy
  obtain ⟨outer, measured, begun, same⟩ := observe_inPass tidy (run_frameDepth _)
  rw [Memory.context_seeing] at measured
  obtain ⟨inner, opened, within, deeper⟩ := observe_inPass begun (run_openFrame bindings _)
  rw [Memory.context_seeing, same] at deeper
  have ended := each inner within
  have deepest : SamePass (world.memory.context.map (·.inside bindings))
      ((body.run inner).2.memory.seeing (body.run inner).2.outlook).context := by
    have passed := ended.along
    rwa [World.KeepsPass, deeper] at passed
  obtain ⟨context, closes, popped⟩ := run_popFrame deepest
  obtain ⟨last, left, kept, closed⟩ := observe_inPass ended.keeps popped
  unfold insideFrame
  rw [run_bind_of_ok measured, run_bind_of_ok opened, run_ensuring, left]
  have along : world.KeepsPass last := by
    rwa [World.KeepsPass, closed]
  exact ⟨kept, along, ended.calm⟩

/-! ## Effects -/

theorem sets_tidy : Sets fun _ => IsTidy where
  toClosed := tidy_closed
  ensuring := composable_keepsPass.orderly_ensuring
  setting same := tidy_modifyReactor fun reactor effect => by
    obtain ⟨_, _, _, _, changed⟩ := same reactor
    rw [changed]
    rfl

theorem tidy_addEffect {body : Body} (fits : body.Runs Action.AllTidy) (timing : Timing)
    (joins : Bool) {world : World} (tidy : world.IsTidy) :
    (world.withReactor fun reactor => (reactor.addEffect body timing joins).2).IsTidy where
  listeners := tidy.listeners.of_steps fun _ => rfl
  effects known := by
    rw [World.withReactor_reactor, Reactor.kindOf_addEffect] at known
    split at known
    · cases known
      exact fits
    · exact tidy.effects known

theorem tidy_withListener {listener : Listener} (fits : Action.AllTidy listener.steps)
    {world : World} (tidy : world.IsTidy) : (world.withListener listener).IsTidy where
  effects := tidy.effects
  listeners id steps found := by
    unfold World.stepsOf World.withListener at found
    rw [Array.getElem?_push] at found
    split at found
    · cases found
      exact fits
    · exact tidy.listeners id steps found

theorem kindOf_stopScope (reactor : Reactor Body) (scope : EffectScopeId) (effect : EffectId) :
    (reactor.stopScope scope).kindOf effect = reactor.kindOf effect :=
  Reactor.stopScope_along
    (R := fun before after => after.kindOf effect = before.kindOf effect)
    reactor scope (fun _ => rfl) (fun first second => second.trans first)
    (fun _ _ _ => Reactor.kindOf_stop) fun _ _ => rfl

theorem kindOf_next? {reactor rest : Reactor Body} {next effect : EffectId}
    (found : reactor.next? = some (next, rest)) :
    rest.kindOf effect = reactor.kindOf effect := by
  unfold Reactor.next? at found
  split at found
  case h_1 | h_2 =>
    cases found
    rfl
  case h_3 => cases found

section Performing

variable (performs : ∀ body : Body, body.Runs Action.AllTidy → IsTidy (runner.perform body))
include performs

theorem tidy_runEffect (effect : EffectId) : IsTidy (runEffect runner effect) := by
  intro world tidy
  cases found : world.reactor.effects[effect]? with
  | none =>
      rw [run_runEffect_missing runner found]
      exact ⟨tidy, .refl _, nofun⟩
  | some cell =>
      have fits := tidy.effects (Reactor.kindOf_of_found found)
      rw [run_runEffect runner found]
      split
      case isTrue =>
        have begun : (world.withReactor (·.beginRun effect)).IsTidy :=
          tidy.of_kinds (fun _ => rfl) fun _ => Reactor.kindOf_beginRun
        have done := sets_tidy.withActiveEffect (some effect) (performs cell.body fits) _ begun
        exact ⟨done.keeps, done.along, done.calm⟩
      case isFalse => exact performs cell.body fits world tidy

theorem works_tidy : Works runner fun _ => IsTidy where
  toSets := sets_tidy
  note event := tidy_modifyReactor fun _ _ => rfl
  enqueue effect := tidy_modifyReactor fun reactor _ =>
    Reactor.kindOf_of_effects (Reactor.fields_enqueue reactor effect).1
  taking {next} each world tidy := by
    cases found : world.reactor.next? with
    | none =>
        rw [run_taking_none next found]
        exact ⟨tidy, .refl _, nofun⟩
    | some entry =>
        rw [run_taking_some next found]
        have taken : (world.withReactor fun _ => entry.2).IsTidy :=
          tidy.of_kinds (fun _ => rfl) fun _ => kindOf_next? found
        have done := each entry.1 (entry.2.isActive entry.1) _ taken
        exact ⟨done.keeps, done.along, done.calm⟩
  runEffect := tidy_runEffect performs

theorem respectedByPrograms_tidy : RespectedByPrograms runner Operation.isTidy fun _ => IsTidy where
  toClosed := tidy_closed
  observe := tidy_observe
  trigger := (works_tidy performs).trigger
  batch := (works_tidy performs).batch
  beside := tidy_beside
  untracked := sets_tidy.withActiveEffect none
  within := sets_tidy.within
  newEffect timing fits :=
    tidy_modifyGet (fun _ => tidy_addEffect fits timing false) fun _ => rfl
  newMember timing fits :=
    tidy_modifyGet (fun _ => tidy_addEffect fits timing true) fun _ => rfl
  runEffect := tidy_runEffect performs
  stopEffect _ := tidy_modifyReactor fun _ _ => Reactor.kindOf_stop
  newEffectScope :=
    tidy_modifyGet (fun _ tidy => tidy.of_kinds (fun _ => rfl) fun _ => rfl) fun _ => rfl
  stopEffectScope scope := tidy_modifyReactor fun reactor => kindOf_stopScope reactor scope
  newListener _ fits :=
    tidy_modifyGet (fun _ => tidy_withListener fits) fun _ => rfl
  hearing each world tidy := each world tidy.listeners world tidy
  calledOnce id :=
    tidy_modifyGet
      (fun world tidy => tidy.of_kinds (world.stepsOf_calledOnce id) fun _ => rfl) fun _ => rfl
  perform name steps fits := performs (.program name steps) fits
  withContext := tidy_withContext
  insideFrame := tidy_insideFrame
  pushFrame := nofun
  leak := nofun

end Performing

end Act

/-! ## Carrying effects out -/

open Act

/-- However deep effects may run inside effects. -/
theorem Runner.tidy_perform (flushLimit nesting : Nat) (body : Body)
    (fits : body.Runs Action.AllTidy) :
    IsTidy ((Runner.bounded flushLimit nesting).perform body) := by
  induction nesting generalizing body with
  | zero => exact tidy_closed.throw rfl
  | succ nesting ih =>
      have respected : RespectedByPrograms (.bounded flushLimit nesting) Operation.isTidy
          fun _ => IsTidy := respectedByPrograms_tidy ih
      exact respected.carryOut fits fun _ _ _ => tidy_showing _ _

theorem respectedByPrograms_bounded_tidy (flushLimit nesting : Nat) :
    RespectedByPrograms (.bounded flushLimit nesting) Operation.isTidy fun _ => IsTidy :=
  respectedByPrograms_tidy (Runner.tidy_perform flushLimit nesting)

end ReactiveSchema
