import ReactiveSchema.Proofs.Act.KeepingPrograms
import ReactiveSchema.Proofs.Act.Steps
import ReactiveSchema.Proofs.Observe.SecondLook
import ReactiveSchema.Proofs.View.FirstCompile

/-!
# Rendering on demand

A view that is rendered on demand is only looked at, whoever asks for it and
whether its pass comes to a value or to a fault.  Nothing is written and nobody
is told, the frames of whoever asks make no difference, and as long as nothing
is written the view looks the same every time.
-/

namespace ReactiveSchema

variable {world after later : World} {extent : Extent}

/-! ## The pass of a view -/

namespace World

/-- A view by its number; there is nothing to a view that was never made. -/
def viewOf (world : World) (id : ViewId) : View :=
  world.views[id]?.getD ⟨0, [], .none, 0, 0, 0, none, [], .none, 0, 0, 0, 0⟩

/-- The compiled part that a value names. -/
def partOf (world : World) (closure : Value) : Thunk :=
  match closure with
  | .handle .closure id =>
      match world.closures[id]? with
      | some (.thunk part) => part
      | _ => .nothing
  | _ => .nothing

/-- What the schema of a view is compiled to. -/
def rootOf (world : World) (id : ViewId) : Thunk :=
  world.partOf (world.memory.refAt (world.viewOf id).root)

/-- Are the passes of a view checked? -/
def checks (world : World) (id : ViewId) : Bool :=
  world.environments[(world.viewOf id).environment]?.any (·.debug)

/-- Memory as a pass begins with it. -/
def opened (world : World) : Memory :=
  world.memory.settled.seeing world.outlook

/-- What the pass of a view comes to. -/
def passOf (world : World) (id : ViewId) : Except Fault Value × Memory :=
  (Observe.evaluatePass (world.checks id) (world.rootOf id).run).run world.opened

/-- The same world during another pass. -/
def during (world : World) (context : Option EvaluationContext) : World :=
  { world with memory := world.memory.inPass context }

end World

namespace Act

theorem run_viewAt_viewOf (id : ViewId) (world : World) :
    (viewAt id).run world = (.ok (world.viewOf id), world) := by
  unfold viewAt World.viewOf
  rw [run_bind, run_get]
  dsimp only
  cases world.views[id]? <;> rfl

theorem run_thunkOf_partOf (closure : Value) (world : World) :
    (thunkOf closure).run world = (.ok (world.partOf closure), world) := by
  cases closure
  case handle kind id =>
    cases kind
    case closure =>
      unfold thunkOf World.partOf
      refine (run_bind_of_ok (run_get world)).trans ?_
      dsimp only
      rcases world.closures[id]? with - | - | - <;> rfl
    all_goals rfl
  all_goals rfl

theorem run_isChecked (id : ViewId) (world : World) :
    (isChecked (world.viewOf id)).run world = (.ok (world.checks id), world) := rfl

/-- A view that is rendered on demand is passed over once, and memory is all that is touched. -/
theorem run_renderNow (id : ViewId) (world : World) :
    (renderNow id).run world =
      ((world.passOf id).1, { world with memory := (world.passOf id).2.settled }) := by
  let calm := world.withReactor (.asEffect none)
  have peeked : (observe (Observe.refPeek (world.viewOf id).root)).run calm =
      (.ok (world.memory.refAt (world.viewOf id).root),
        { calm with memory := world.memory.settled }) :=
    run_observe_calm _ rfl
  have passed : (observe (Observe.evaluatePass (world.checks id) (world.rootOf id).run)).run
      { calm with memory := world.memory.settled } =
        ((world.passOf id).1, { calm with memory := (world.passOf id).2.settled }) :=
    run_observe_calm _ rfl
  have ran : (do
      let view ← viewAt id
      let root ← thunkOf (← observe (Observe.refPeek view.root))
      observe (Observe.evaluatePass (← isChecked view) root.run) : Act Value).run calm =
        ((world.passOf id).1, { calm with memory := (world.passOf id).2.settled }) := by
    refine (run_bind_of_ok (run_viewAt_viewOf id calm)).trans ?_
    refine (run_bind_of_ok peeked).trans ?_
    refine (run_bind_of_ok (run_thunkOf_partOf _ _)).trans ?_
    refine (run_bind_of_ok (run_isChecked id _)).trans passed
  unfold renderNow untracked
  rw [run_withActiveEffect]
  rw [ran]
  rfl

end Act

theorem AlikeOutcome.settled {memory other : Memory} {result twin : Except Fault Value}
    (same : AlikeOutcome memory other result twin) :
    AlikeOutcome memory.settled other.settled result twin :=
  same.meanwhile memory.context other.context [] [] Memory.empty.outlook Memory.empty.outlook

/-! ## Where nothing is written -/

/-- Nothing has been written between two worlds that a view could show. -/
structure World.Unwritten (before after : World) : Prop where
  memory : before.memory.Unwritten after.memory
  views : after.views = before.views
  closures : after.closures = before.closures
  environments : after.environments = before.environments
  outlook : after.outlook = before.outlook

namespace World

theorem Unwritten.refl (world : World) : world.Unwritten world :=
  ⟨.refl _, rfl, rfl, rfl, rfl⟩

theorem opened_whole (whole : world.Whole) :
    world.opened.Whole (world.opened.bounds world.reach) := by
  obtain ⟨lists, maps, nodes, refs, objects, liveLists, liveMaps, context, _⟩ := whole.memory
  exact ⟨lists, maps, nodes, refs, objects, liveLists, liveMaps, context, whole.outlook⟩

/-- All values in what a schema is compiled to are there. -/
theorem rootOf_known (whole : world.Whole) (id : ViewId) :
    PartKnown (world.opened.bounds world.reach) (world.rootOf id) := by
  unfold rootOf partOf
  split
  · split
    case h_1 part found => exact World.Within.closures whole found
    case h_2 => exact Twin.none
  · exact Twin.none

theorem Unwritten.viewOf (unwritten : world.Unwritten later) (id : ViewId) :
    later.viewOf id = world.viewOf id := by
  unfold World.viewOf
  rw [unwritten.views]

theorem Unwritten.rootOf (unwritten : world.Unwritten later) (id : ViewId) :
    later.rootOf id = world.rootOf id := by
  unfold World.rootOf World.partOf Memory.refAt
  rw [unwritten.viewOf, unwritten.closures, unwritten.memory.refs]

theorem Unwritten.checks (unwritten : world.Unwritten later) (id : ViewId) :
    later.checks id = world.checks id := by
  unfold World.checks
  rw [unwritten.viewOf, unwritten.environments]

/-! ## What a pass leaves as it is -/

theorem lasts_passOf (whole : world.Whole) (id : ViewId) :
    world.opened.Lasts world.reach (world.passOf id).2 :=
  Observe.lasts_evaluatePass _ (opened_whole whole) (rootOf_known whole id)

/-- A pass makes memory no more than larger. -/
theorem unwritten_passOf (whole : world.Whole) (id : ViewId) :
    world.memory.Unwritten (world.passOf id).2.settled :=
  (lasts_passOf whole id).toUnwritten.meanwhile _ _ _ _ _ _

theorem context_passOf (world : World) (id : ViewId) :
    (world.passOf id).2.context = world.memory.context :=
  Observe.context_evaluatePass _ _ world.opened

theorem passOf_during (world : World) (id : ViewId) (context : Option EvaluationContext) :
    (world.during context).passOf id =
      ((world.passOf id).1, (world.passOf id).2.inPass context) :=
  Observe.run_evaluatePass_inPass _ _ world.opened context

/-- A pass has the same outcome as one before it, where nothing was written since. -/
theorem alikeOutcome_passOf (whole : world.Whole) (id : ViewId)
    (unwritten : World.Unwritten { world with memory := (world.passOf id).2.settled } later) :
    AlikeOutcome (world.passOf id).2 (later.passOf id).2 (world.passOf id).1
      (later.passOf id).1 := by
  have since : world.Unwritten later :=
    ⟨(unwritten_passOf whole id).trans unwritten.memory, unwritten.views, unwritten.closures,
      unwritten.environments, unwritten.outlook⟩
  -- The pass around the later one is exchanged for the pass around the first one.
  let here := later.during world.memory.context
  have parted : (world.passOf id).2.Unwritten here.opened :=
    unwritten.memory.meanwhile _ _ _ _ _ _
  have same := Observe.alikeOutcome_evaluatePass (world.checks id) (opened_whole whole)
    (rootOf_known whole id) parted rfl unwritten.outlook
  have again : (Observe.evaluatePass (world.checks id) (world.rootOf id).run).run here.opened =
      ((later.passOf id).1, (later.passOf id).2.inPass world.memory.context) := by
    rw [← since.checks, ← since.rootOf]
    exact passOf_during later id _
  rw [again] at same
  exact same.of_inPass

end World

/-! ## Observation -/

/-- Rendering a view on demand changes nothing, and does so again and again. -/
structure World.RendersPurely (world : World) (id : ViewId) : Prop where
  /-- No view, listener, effect, queue or subscription changes. -/
  beside : ((Act.renderNow id).run world).2 =
    { world with memory := ((Act.renderNow id).run world).2.memory }
  /-- No cell, container or object is written. -/
  unwritten : world.memory.Unwritten ((Act.renderNow id).run world).2.memory
  /-- The pass that is under way goes on as it was. -/
  context : ((Act.renderNow id).run world).2.memory.context = world.memory.context
  /-- The frames of the pass that is under way make no difference. -/
  during (context : Option EvaluationContext) : (Act.renderNow id).run (world.during context) =
    (((Act.renderNow id).run world).1, ((Act.renderNow id).run world).2.during context)
  /-- As long as nothing is written, there is the same to see. -/
  again {later : World} : ((Act.renderNow id).run world).2.Unwritten later →
    AlikeOutcome ((Act.renderNow id).run world).2.memory ((Act.renderNow id).run later).2.memory
      ((Act.renderNow id).run world).1 ((Act.renderNow id).run later).1

/-- Rendered twice in a row, a view looks the same. -/
def World.RendersTwice (world : World) (id : ViewId) : Prop :=
  AlikeOutcome ((Act.renderNow id).run world).2.memory
    ((Act.renderNow id).run ((Act.renderNow id).run world).2).2.memory
    ((Act.renderNow id).run world).1 ((Act.renderNow id).run ((Act.renderNow id).run world).2).1

theorem World.RendersPurely.twice {id : ViewId} (pure : world.RendersPurely id) :
    world.RendersTwice id :=
  pure.again (.refl _)

theorem World.Whole.rendersPurely (whole : world.Whole) (id : ViewId) :
    world.RendersPurely id where
  beside := by rw [Act.run_renderNow]
  unwritten := by
    rw [Act.run_renderNow]
    exact unwritten_passOf whole id
  context := by
    rw [Act.run_renderNow]
    exact context_passOf world id
  during context := by
    rw [Act.run_renderNow, Act.run_renderNow, passOf_during]
    rfl
  again unwritten := by
    rw [Act.run_renderNow] at unwritten
    rw [Act.run_renderNow, Act.run_renderNow]
    exact (World.alikeOutcome_passOf whole id unwritten).settled

/-- Whoever may run, wait or be told, a world stays whole as long as effects do what they did. -/
theorem World.Whole.reacting (whole : world.Whole) {reactor : Reactor Body}
    (same : world.reactor.SameBodies reactor) : World.Whole { world with reactor } :=
  World.Within.remembering whole (.refl _) whole.memory same

/-- Whatever pass is under way, a world stays whole as long as its frames are there. -/
theorem World.Whole.during (whole : world.Whole) {context : Option EvaluationContext}
    (known : ContextKnown world.reach context) : (world.during context).Whole := by
  obtain ⟨lists, maps, nodes, refs, objects, liveLists, liveMaps, _, outlook⟩ := whole.memory
  exact World.Within.remembering whole (.refl _)
    ⟨lists, maps, nodes, refs, objects, liveLists, liveMaps, known, outlook⟩ fun _ => rfl

/--
Rendering a view on demand is nothing but an observation, in every world in
which all that is named is there.  Such is the world at the start and whatever
becomes of it by sessions, actions and effects, and whoever asks for the view,
be it an effect that runs while others wait or something inside the frames of
another pass.
-/
theorem rendering_observes (flushLimit nesting : Nat) :
    World.empty.Whole ∧
      (∀ world : World, world.Whole →
        (∀ program, (Session.steps (.bounded flushLimit nesting) program world).2.Whole) ∧
        (∀ action : Action,
          ((action.perform (.bounded flushLimit nesting)).run world).2.Whole) ∧
        (∀ body : Body, body.Within world.reach →
          (((Runner.bounded flushLimit nesting).perform body).run world).2.Whole) ∧
        (∀ reactor, world.reactor.SameBodies reactor → World.Whole { world with reactor }) ∧
        ∀ context, ContextKnown world.reach context → (world.during context).Whole) ∧
      ∀ world : World, world.Whole → ∀ id, world.RendersPurely id := by
  have keeps : (Runner.bounded flushLimit nesting).Keeps := keeps_bounded flushLimit nesting
  refine ⟨World.whole_empty, fun world whole => ⟨?_, ?_, ?_, ?_, ?_⟩,
    fun world whole id => whole.rendersPurely id⟩
  · exact fun program => World.Whole.steps whole keeps program
  · exact fun action => World.Whole.performing whole keeps action
  · exact fun body within => World.Whole.acting whole (keeps within)
  · exact fun reactor same => whole.reacting same
  · exact fun context known => whole.during known

/-- A view lists the words of live data, and an effect watches them. -/
def listing : List Action :=
  [.assign "data" (.operate .makeLive
      [.literal (.map [(.str "words", .list [.str "a", .str "b"])])]),
    .mount "view" (.literal (.map [(.str "$el", .str "p"),
        (.str "for", .list [.str "word", .str "$words"]), (.str "children", .str "$word")]))
      (.named "data") (.literal .none) (.literal .none),
    .effect "watcher" .pre true [.operate .at [.named "data", .literal (.str "words")]]]

def listedWorld : World :=
  (Session.steps (.bounded 8 3) listing .empty).2

/-- An effect runs inside a frame of a pass. -/
def World.watching (world : World) (effect : EffectId) (frame : MapId) : World :=
  (world.withReactor (.asEffect (some effect))).during (some ⟨[.map frame], 1⟩)

theorem rendering_observes_listing :
    ((Act.renderNow 0).run (listedWorld.watching 3 0)).1.isOk = true ∧
      (listedWorld.watching 3 0).RendersPurely 0 ∧
      (listedWorld.watching 3 0).RendersTwice 0 := by
  obtain ⟨start, keeps, renders⟩ := rendering_observes 8 3
  have watching {world : World} (whole : world.Whole) (effect : EffectId) {frame : MapId}
      (there : frame < world.memory.maps.size) : (world.watching effect frame).Whole := by
    obtain ⟨_, _, _, reacting, _⟩ := keeps _ whole
    have running := reacting (.asEffect (some effect) world.reactor) fun _ => rfl
    obtain ⟨_, _, _, _, during⟩ := keeps _ running
    exact during _ (.some ⟨.cons (.map there (Shift.move_still frame)) .nil, rfl⟩)
  have listed : listedWorld.Whole := (keeps _ start).1 listing
  have there : 0 < listedWorld.memory.maps.size := by decide +kernel
  have pure := renders _ (watching listed 3 there) 0
  exact ⟨by decide +kernel, pure, pure.twice⟩

end ReactiveSchema
