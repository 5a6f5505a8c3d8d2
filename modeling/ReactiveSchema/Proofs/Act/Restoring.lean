import ReactiveSchema.Proofs.Act.TidyPrograms

/-!
# What is set for a time is set back

The render pass with its frames, the effect that runs, the group that new effects join, the
depth of batches and the flag of a flush are each set for the time of an operation.  However
operations lie inside one another and wherever they fail, they leave all of this as it was.
-/

namespace ReactiveSchema

/-- What is set for the time of an operation is as it was. -/
structure World.Restored (before after : World) : Prop where
  /-- The same pass is under way, with the same frames. -/
  pass : before.KeepsPass after
  activeEffect : after.reactor.activeEffect = before.reactor.activeEffect
  activeScope : after.reactor.activeScope = before.reactor.activeScope
  batchDepth : after.reactor.batchDepth = before.reactor.batchDepth
  flushing : after.reactor.flushing = before.reactor.flushing

theorem composable_restored : Composable World.Restored where
  refl _ := ⟨.refl _, rfl, rfl, rfl, rfl⟩
  trans first second :=
    { pass := first.pass.trans second.pass
      activeEffect := second.activeEffect.trans first.activeEffect
      activeScope := second.activeScope.trans first.activeScope
      batchDepth := second.batchDepth.trans first.batchDepth
      flushing := second.flushing.trans first.flushing }

namespace Act

variable {α : Type} {body : Act α} {flushLimit nesting : Nat}

/--
Started in a tidy world, a computation ends in one where all that is set for a time is as it
was, and if it ends in a fault, that is not about frames.
-/
def IsBalanced (body : Act α) : Prop :=
  Orderly World.IsTidy World.Restored body

theorem IsTidy.balanced (tidy : IsTidy body) (keeps : Along KeepsWorld body) :
    IsBalanced body := by
  intro world held
  have ended := tidy world held
  have kept := keeps world
  exact ⟨ended.keeps, ⟨ended.along, kept.activeEffect, kept.activeScope, kept.batchDepth,
    kept.flushing⟩, ended.calm⟩

/-! ## Programs, effects and views -/

theorem balanced_perform {action : Action} (tidy : action.uses Operation.isTidy = true) :
    IsBalanced (action.perform (.bounded flushLimit nesting)) :=
  IsTidy.balanced ((respectedByPrograms_bounded_tidy flushLimit nesting).performs action tidy)
    ((respected_bounded_keepsWorld flushLimit nesting).performs action)

theorem balanced_runEffect (effect : EffectId) :
    IsBalanced (runEffect (.bounded flushLimit nesting) effect) :=
  IsTidy.balanced ((respectedByPrograms_bounded_tidy flushLimit nesting).runEffect effect)
    ((respected_bounded_keepsWorld flushLimit nesting).runEffect effect)

theorem balanced_trigger (dep : DepId) :
    IsBalanced (trigger (.bounded flushLimit nesting) dep) :=
  IsTidy.balanced ((respectedByPrograms_bounded_tidy flushLimit nesting).trigger dep)
    ((respected_bounded_keepsWorld flushLimit nesting).trigger dep)

theorem balanced_compileView (view : ViewId) :
    IsBalanced (compileView (.bounded flushLimit nesting) view) :=
  IsTidy.balanced
    ((respectedByPrograms_bounded_tidy flushLimit nesting).byCompiling.compileView view)
    ((respected_bounded_keepsWorld flushLimit nesting).byCompiling.compileView view)

theorem balanced_renderView (view : ViewId) :
    IsBalanced (renderView (.bounded flushLimit nesting) view) :=
  IsTidy.balanced
    ((respectedByPrograms_bounded_tidy flushLimit nesting).byRendering.renderView
      (tidy_showing view))
    ((respected_bounded_keepsWorld flushLimit nesting).byPrograms.byRendering.renderView
      fun _ _ => (respected_bounded_keepsWorld flushLimit nesting).beside rfl)

theorem balanced_observe {look : Observe α} (each : look.IsBalanced) :
    IsBalanced (observe look) :=
  (tidy_observe each).balanced fun world => Reactor.keeps_trackAll world.reactor _

end Act

/-! ## Sessions -/

open Act Observe

theorem World.isTidy_empty : World.empty.IsTidy where
  listeners := nofun
  effects := nofun

/-- A session of tidy programs keeps the world tidy, and leaves no pass and no batch open. -/
theorem restored_steps {program : List Action} {world : World} (own : Action.AllTidy program)
    (tidy : world.IsTidy) (flushLimit nesting : Nat) :
    (Session.steps (.bounded flushLimit nesting) program world).2.IsTidy ∧
      world.Restored (Session.steps (.bounded flushLimit nesting) program world).2 := by
  have path : Composable fun before after : World =>
      before.IsTidy → after.IsTidy ∧ before.Restored after :=
    { refl := fun world tidy => ⟨tidy, composable_restored.refl world⟩
      trans := fun first second tidy =>
        have begun := first tidy
        have ended := second begun.1
        ⟨ended.1, composable_restored.trans begun.2 ended.2⟩ }
  refine Session.along_steps path (fun value => ?_) (fun world tidy => ?_) (fun action one => ?_)
    world tidy
  · exact (balanced_observe (looks_balanced.html value)).along
  · exact ⟨tidy.of_kinds (fun _ => rfl) fun _ => rfl, ⟨.refl _, rfl, rfl, rfl, rfl⟩⟩
  · exact (balanced_perform (Action.uses_of_mem _ own one)).along

/-! ## Everything that is set for a time -/

/--
However programs, runs of effects, what they tell, and the compiling and rendering of views lie
inside one another, and wherever an expression, an effect or a listener fails: what is set for
the time of each of them is as it was once it is over.  None of them fails because of frames.
The same holds of each part that a schema is compiled to, down to the loops inside loops; and
tidy programs lead from an empty world to tidy ones only.
-/
theorem dynamic_context_balanced (flushLimit nesting : Nat) :
    (∀ action : Action, action.uses Operation.isTidy = true →
      IsBalanced (action.perform (.bounded flushLimit nesting))) ∧
    (∀ effect, IsBalanced (runEffect (.bounded flushLimit nesting) effect)) ∧
    (∀ dep, IsBalanced (trigger (.bounded flushLimit nesting) dep)) ∧
    (∀ view, IsBalanced (compileView (.bounded flushLimit nesting) view) ∧
      IsBalanced (renderView (.bounded flushLimit nesting) view)) ∧
    (∀ part : Thunk, part.run.IsBalanced) ∧
    (∀ program, Action.AllTidy program →
      (Session.steps (.bounded flushLimit nesting) program .empty).2.IsTidy) :=
  ⟨fun _ => balanced_perform, balanced_runEffect, balanced_trigger,
    fun view => ⟨balanced_compileView view, balanced_renderView view⟩, Thunk.balanced_run,
    fun _ own => (restored_steps own World.isTidy_empty flushLimit nesting).1⟩

/-- A view shows the differences of some numbers and one, in a loop inside a loop. -/
def tabling : List Action :=
  [.assign "data" (.operate .makeLive [.literal (.map
      [(.str "rows", .list [.list [.int 3, .int 4], .list [.int 5]]), (.str "by", .int 1)])]),
    .mount "view" (.literal (.map [(.str "$el", .str "table"), (.str "children", .list [.map
        [(.str "$el", .str "tr"), (.str "for", .list [.str "row", .str "$rows"]),
          (.str "children", .list [.map
            [(.str "$el", .str "td"), (.str "for", .list [.str "cell", .str "$row"]),
              (.str "children", .str "$cell - $by")]])]])]))
      (.named "data") (.literal .none) (.literal .none)]

def tableWorld : World :=
  (Session.steps (.bounded 8 3) tabling .empty).2

/-- A text takes the place of the one, so that the view fails inside both loops. -/
def spoiling : Action :=
  .batch [.untracked [.freshContext [.frame (.literal (.map []))
    [.operate .set [.literal (.str "x"), .named "data", .literal (.str "by")]]]]]

theorem dynamic_context_balanced_spoiling :
    ∃ fault after, (spoiling.perform (.bounded 8 3)).run tableWorld = (.error fault, after) ∧
      fault.isFrameFault = false ∧ tableWorld.Restored after := by
  obtain ⟨balanced, -, -, -, -, tidy⟩ := dynamic_context_balanced 8 3
  have ended := balanced spoiling (by decide) tableWorld (tidy tabling (by decide))
  have failed : ((spoiling.perform (.bounded 8 3)).run tableWorld).1.isOk = false := by
    decide +kernel
  rcases ran : (spoiling.perform (.bounded 8 3)).run tableWorld with ⟨fault | value, after⟩ <;>
    rw [ran] at failed ended
  · exact ⟨fault, after, rfl, ended.calm fault rfl, ended.along⟩
  · cases failed

end ReactiveSchema
