import ReactiveSchema.Proofs.Act.Whole

/-!
# Acts that keep everything in reach

Looking on behalf of an effect, running effects, queues, batches and groups:
as long as what effects do keeps the world whole, all of these do.
-/

namespace ReactiveSchema

variable {α β : Type} {extent small large : Extent}

/-! ## What effects do -/

namespace Reactor

variable {before middle after : Reactor β}

/-- All effects do what they did. -/
abbrev SameBodies (before after : Reactor β) : Prop :=
  ∀ effect : EffectId, (after.effects[effect]?).map (·.body) =
    (before.effects[effect]?).map (·.body)

theorem sameBodies_trackAll (reactor : Reactor β) (deps : List DepId) :
    SameBodies reactor (reactor.trackAll deps) := by
  cases running : reactor.activeEffect with
  | none => rw [trackAll_of_none _ running]; exact fun _ => rfl
  | some effect => exact (touches_trackAll deps running).1.bodies

theorem sameBodies_unsubscribe (reactor : Reactor β) (effect : EffectId) :
    SameBodies reactor (reactor.unsubscribe effect) := by
  obtain ⟨subscribers, same⟩ := fields_dropAll effect (reactor.depsOf effect) reactor
  unfold unsubscribe
  rw [same]
  exact bodies_modifyEffect fun _ => rfl

theorem sameBodies_stop (reactor : Reactor β) (effect : EffectId) :
    SameBodies reactor (reactor.stop effect) := by
  unfold stop
  split
  · intro other
    refine Eq.trans (bodies_modifyEffect ?_ other) (sameBodies_unsubscribe reactor effect other)
    exact fun _ => rfl
  · exact fun _ => rfl

theorem sameBodies_stopScope (reactor : Reactor β) (scope : EffectScopeId) :
    SameBodies reactor (reactor.stopScope scope) := by
  have stopped (effects : List EffectId) : SameBodies reactor (effects.foldl stop reactor) := by
    induction effects generalizing reactor with
    | nil => exact fun _ => rfl
    | cons effect rest ih =>
        exact fun other => (ih _ other).trans (sameBodies_stop reactor effect other)
  exact stopped _

theorem sameBodies_enqueue (reactor : Reactor β) (effect : EffectId) :
    SameBodies reactor (reactor.enqueue effect) := by
  unfold enqueue
  split <;> exact fun _ => rfl

theorem sameBodies_next {reactor rest : Reactor β} {effect : EffectId}
    (found : reactor.next? = some (effect, rest)) : SameBodies reactor rest := by
  unfold next? at found
  split at found <;> cases found <;> exact fun _ => rfl

end Reactor

/-! ## Changes of the world -/

/-- The world has changed no more than its memory, where effects do what they did. -/
theorem World.Within.remembering {world : World} {memory : Memory} {reactor : Reactor Body}
    (within : world.Within small) (fits : small.Fits large) (whole : memory.Whole large)
    (same : world.reactor.SameBodies reactor) :
    World.Within { world with memory, reactor } large :=
  have ⟨_, bodies, closures, environments, compilers, views, chosen, names⟩ := within.mono fits
  ⟨whole, fun {effect _} found => bodies ((same effect).symm.trans found), closures,
    environments, compilers, views, chosen, names⟩

namespace Keeps

variable {R : Extent → α → Prop}

/-- A look on behalf of the running effect. -/
theorem observe {look : Observe α} (keeps : Keeps extent R look) :
    Keeps extent R (Act.observe look) := by
  intro large world fits held reach
  change world.reach = large at reach
  subst reach
  obtain ⟨lists, maps, nodes, refs, objects, liveLists, liveMaps, context, _⟩ := held.memory
  obtain ⟨whole, more, outcome⟩ := keeps world.reach (world.memory.seeing world.outlook) fits
    ⟨lists, maps, nodes, refs, objects, liveLists, liveMaps, context, held.outlook⟩ rfl
  obtain ⟨lists, maps, nodes, refs, objects, liveLists, liveMaps, context, _⟩ := whole
  rw [Act.run_observe]
  refine ⟨held.remembering more ?_ (Reactor.sameBodies_trackAll _ _), more, outcome⟩
  exact ⟨lists, maps, nodes, refs, objects, liveLists, liveMaps, context,
    fun _ _ => ⟨rfl, rfl, .nil⟩⟩

theorem modifyReactor {change : Reactor Body → Reactor Body}
    (same : ∀ reactor, Reactor.SameBodies reactor (change reactor)) :
    Keeps extent Anything (Act.modifyReactor change) := by
  refine modifyGet fun large world _ held reach => ?_
  change world.reach = large at reach
  subst reach
  exact ⟨held.remembering (.refl _) held.memory (same _), .refl _, trivial⟩

/-- A change beside memory and effects that adds no place. -/
theorem besides {change : World → World} (same : ∀ world : World, (change world).reach = world.reach)
    (each : ∀ (large : Extent) (world : World), extent.Fits large → world.Within large →
      (change world).Within large) : Keeps extent Anything (modify change : Act Unit) := by
  refine modifyGet fun large world fits held reach => ?_
  change world.reach = large at reach
  subst reach
  change World.Within (change world) (change world).reach ∧ Extent.Fits _ (change world).reach ∧ True
  rw [same]
  exact ⟨each _ world fits held, .refl _, trivial⟩

/-! ## Runs -/

theorem ensuring (abiding : Abiding R) {leave : Act Unit} {body : Act α}
    (start : Keeps extent R body)
    (close : ∀ large, extent.Fits large → Keeps large Anything leave) :
    Keeps extent R (Act.ensuring leave body) := by
  refine closing abiding start close fun world => ?_
  rw [Act.run_ensuring]
  rcases leave.run (body.run world).2 with ⟨fault | left, last⟩ <;> rfl

theorem withActiveEffect (abiding : Abiding R) (effect : Option EffectId) {body : Act α}
    (keeps : Keeps extent R body) : Keeps extent R (Act.withActiveEffect effect body) := by
  refine bind get fun large world fits _ => ?_
  refine bind (modifyReactor fun _ _ => rfl) fun larger _ more _ => ?_
  exact ensuring abiding (keeps.mono (fits.trans more)) fun _ _ => modifyReactor fun _ _ => rfl

theorem untracked (abiding : Abiding R) {body : Act α} (keeps : Keeps extent R body) :
    Keeps extent R (Act.untracked body) :=
  withActiveEffect abiding none keeps

theorem within (abiding : Abiding R) (scope : EffectScopeId) {body : Act α}
    (keeps : Keeps extent R body) : Keeps extent R (Act.within scope body) := by
  refine bind get fun large world fits _ => ?_
  refine bind (modifyReactor fun _ _ => rfl) fun larger _ more _ => ?_
  exact ensuring abiding (keeps.mono (fits.trans more)) fun _ _ => modifyReactor fun _ _ => rfl

theorem stopEffect (effect : EffectId) : Keeps extent Anything (Act.stopEffect effect) :=
  modifyReactor fun reactor => reactor.sameBodies_stop effect

theorem stopEffectScope (scope : EffectScopeId) :
    Keeps extent Anything (Act.stopEffectScope scope) :=
  modifyReactor fun reactor => reactor.sameBodies_stopScope scope

end Keeps

/-- What effects do keeps the world whole. -/
def Runner.Keeps (runner : Runner) : Prop :=
  ∀ {extent : Extent} {body : Body}, body.Within extent →
    ReactiveSchema.Keeps extent Known (runner.perform body)

namespace Keeps

variable {R : Extent → α → Prop} {runner : Runner}

section Runs

variable (keeps : runner.Keeps)
include keeps

theorem runEffect (effect : EffectId) :
    Keeps extent Known (Act.runEffect runner effect) := by
  refine bind get fun large world fits held => ?_
  dsimp only
  split
  · exact pure fun _ _ => .none
  case h_2 cell found =>
    have within : cell.body.Within large :=
      held.1.bodies (congrArg (Option.map Effect.body) found)
    split
    · refine bind (modifyReactor fun reactor => (Reactor.touches_beginRun reactor effect).bodies) ?_
      exact fun _ _ more _ => withActiveEffect abiding_known _ (keeps (within.mono more))
    · exact keeps within

theorem drain (limit : Nat) : Keeps extent Anything (Act.drain runner limit) := by
  induction limit generalizing extent with
  | zero => exact throw .exhausted
  | succ limit ih =>
      intro large world fits held reach
      change world.reach = large at reach
      subst reach
      cases found : world.reactor.next? with
      | none =>
          rw [Act.run_drain_none runner limit found]
          exact ⟨held, .refl _, .ok trivial⟩
      | some next =>
          obtain ⟨effect, rest⟩ := next
          have within : World.Within (world.withReactor fun _ => rest) world.reach :=
            held.remembering (.refl _) held.memory (Reactor.sameBodies_next found)
          have again : Keeps world.reach Anything (do
              let _ ← Act.runEffect runner effect
              Act.drain runner limit) :=
            bind (runEffect keeps effect) fun _ _ _ _ => ih
          rw [Act.run_drain_next runner limit found]
          split
          · exact again _ _ (.refl _) within rfl
          · exact ih _ _ (.refl _) within rfl

theorem flush : Keeps extent Anything (Act.flush runner) := by
  refine bind (modifyReactor fun _ _ => rfl) fun large _ _ _ => ?_
  refine ensuring abiding_anything ?_ fun _ _ => modifyReactor fun _ _ => rfl
  refine tryCatch (drain keeps _) fun larger fault _ within => ?_
  exact bind (modifyReactor fun _ _ => rfl) fun _ _ more _ => throw (within.mono more)

theorem schedule (effect : EffectId) : Keeps extent Anything (Act.schedule runner effect) := by
  refine bind (modifyReactor fun reactor => reactor.sameBodies_enqueue effect) fun _ _ _ _ => ?_
  refine bind get fun _ _ _ _ => ?_
  split
  · exact flush keeps
  · exact done

theorem scheduleAll (current : Option EffectId) (effects : List EffectId) :
    Keeps extent Anything (Act.scheduleAll runner current effects) := by
  induction effects generalizing extent with
  | nil => exact done
  | cons effect rest ih =>
      unfold Act.scheduleAll
      dsimp only
      split
      · exact bind (schedule keeps effect) fun _ _ _ _ => ih
      · exact ih

theorem trigger (dep : DepId) : Keeps extent Anything (Act.trigger runner dep) := by
  refine bind get fun _ _ _ _ => ?_
  exact bind (modifyReactor fun _ _ => rfl) fun _ _ _ _ => scheduleAll keeps _ _

theorem batch (abiding : Abiding R) {body : Act α} (each : Keeps extent R body) :
    Keeps extent R (Act.batch runner body) := by
  refine bind (modifyReactor fun _ _ => rfl) fun large _ fits _ => ?_
  refine ensuring abiding (each.mono fits) fun larger _ => ?_
  refine bind (modifyReactor fun _ _ => rfl) fun _ _ _ _ => bind get fun _ _ _ _ => ?_
  dsimp only
  split
  · exact flush keeps
  · exact done

end Runs

/-! ## New effects -/

theorem addBody {body : Body} (within : body.Within extent) (timing : Timing) (joins : Bool) :
    Keeps extent Anything (MonadState.modifyGet fun world : World =>
      ((world.reactor.addEffect body timing joins).1,
        { world with reactor := (world.reactor.addEffect body timing joins).2 }) : Act EffectId) := by
  refine modifyGet fun large world fits held reach => ?_
  change world.reach = large at reach
  subst reach
  obtain ⟨memory, bodies, closures, environments, compilers, views, chosen, names⟩ := held
  refine ⟨⟨memory, fun {effect known} found => ?_, closures, environments, compilers, views,
    chosen, names⟩, .refl _, trivial⟩
  obtain ⟨scopes, same⟩ := world.reactor.fields_addEffect body timing joins
  dsimp only at found
  rw [same, Array.getElem?_push] at found
  split at found
  · cases found
    exact within.mono fits
  · exact bodies found

theorem newMember {body : Body} (within : body.Within extent) (timing : Timing) :
    Keeps extent Anything (Act.newMember body timing) :=
  addBody within timing true

theorem newEffect {body : Body} (within : body.Within extent) (timing : Timing) :
    Keeps extent Anything (Act.newEffect body timing) :=
  addBody within timing false

theorem watch (keeps : runner.Keeps) {body : Body} (within : body.Within extent)
    (timing : Timing) : Keeps extent Anything (Act.watch runner body timing) := by
  refine bind (newMember within timing) fun _ effect _ _ => ?_
  exact bind (runEffect keeps effect) fun _ _ _ _ => done

end Keeps

end ReactiveSchema
