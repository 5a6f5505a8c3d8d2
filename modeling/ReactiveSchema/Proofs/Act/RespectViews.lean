import ReactiveSchema.Proofs.Act.Compiling
import ReactiveSchema.Proofs.Act.Respect
import ReactiveSchema.View

/-!
# What views respect

Compiling a schema makes effects and binds names, rendering looks at memory
and tells listeners.  Both have whatever property the operations on effects have.
-/

namespace ReactiveSchema

/-! ## Looking up -/

namespace Closed

variable {P : (α : Type) → Act α → Prop}

theorem compilerAt (closed : Closed P) (id : CompilerId) : P _ (Act.compilerAt id) := by
  unfold Act.compilerAt
  refine closed.bind closed.get fun world => ?_
  split
  · exact closed.pure _
  · exact closed.pure _

theorem viewAt (closed : Closed P) (id : ViewId) : P _ (Act.viewAt id) := by
  unfold Act.viewAt
  refine closed.bind closed.get fun world => ?_
  split
  · exact closed.pure _
  · exact closed.pure _

theorem thunkOf (closed : Closed P) (closure : Value) : P _ (Act.thunkOf closure) := by
  unfold Act.thunkOf
  split
  · refine closed.bind closed.get fun world => ?_
    split
    · exact closed.pure _
    · exact closed.pure _
  · exact closed.pure _

theorem isChecked (closed : Closed P) (view : View) : P _ (Act.isChecked view) :=
  closed.getting _

theorem stopResolvers (closed : Closed P) (stops : ∀ scope, P _ (Act.stopEffectScope scope))
    (id : ViewId) : P _ (Act.stopResolvers id) := by
  unfold Act.stopResolvers
  refine closed.bind (closed.viewAt id) fun view => ?_
  split
  · exact closed.pure _
  · exact stops _

end Closed

theorem RespectedByWrites.setSchema {runner : Runner} {P : (α : Type) → Act α → Prop}
    (respected : RespectedByWrites runner P) (id : ViewId) (schema : Value) :
    P _ (Act.setSchema runner id schema) :=
  respected.bind (respected.viewAt id) fun _ => respected.refSet _ schema

theorem RespectedByWrites.newStore {runner : Runner} {P : (α : Type) → Act α → Prop}
    (respected : RespectedByWrites runner P) : P _ Act.newStore :=
  respected.observe
    (Observe.balanced_closed.bind (looks_balanced.newMapId _) looks_balanced.newLiveMapId)

/-- What a view shows, and how many passes it took. -/
def View.shown (view : View) : Value × Nat :=
  (view.output, view.renderCount)

/-- What a view shows, if it exists. -/
def World.shownBy (world : World) (id : ViewId) : Option (Value × Nat) :=
  world.views[id]?.map View.shown

/-- From one world to another all views show the same. -/
def World.ShowsOn (before after : World) : Prop :=
  ∀ id shown, before.shownBy id = some shown → after.shownBy id = some shown

theorem World.ShowsOn.of_views {before after : World} (same : after.views = before.views) :
    before.ShowsOn after := by
  intro id shown shows
  unfold World.shownBy at shows ⊢
  rwa [same]

theorem World.showsOn_modify (world : World) (id : ViewId) {change : View → View}
    (same : ∀ view, (change view).shown = view.shown) :
    world.ShowsOn { world with views := world.views.modify id change } := by
  intro other shown shows
  unfold World.shownBy at shows ⊢
  dsimp only
  rw [Array.getElem?_modify]
  split
  · rw [Option.map_map]
    exact (congrArg (world.views[other]?.map ·) (funext same)).trans shows
  · exact shows

theorem World.showsOn_push (world : World) (view : View) :
    world.ShowsOn { world with views := world.views.push view } := by
  intro other shown shows
  unfold World.shownBy at shows ⊢
  obtain ⟨found, known, same⟩ := Option.map_eq_some_iff.mp shows
  have inside : other < world.views.size := (Array.getElem?_eq_some_iff.mp known).1
  dsimp only
  rw [Array.getElem?_push, if_neg (Nat.ne_of_lt inside)]
  exact shows

/--
Two worlds with the same effects, the same listeners and the same pass under way, in which
all views show the same.
-/
structure Beside (before after : World) : Prop where
  reactor : after.reactor = before.reactor
  listeners : after.listeners = before.listeners
  context : after.memory.context = before.memory.context
  shown : before.ShowsOn after

theorem Beside.of_views {before after : World} (reactor : after.reactor = before.reactor)
    (listeners : after.listeners = before.listeners)
    (context : after.memory.context = before.memory.context)
    (views : after.views = before.views) : Beside before after :=
  ⟨reactor, listeners, context, .of_views views⟩

theorem beside_modifyView (world : World) (id : ViewId) {change : View → View}
    (same : ∀ view, (change view).shown = view.shown) :
    Beside world { world with views := world.views.modify id change } :=
  ⟨rfl, rfl, rfl, world.showsOn_modify id same⟩

/-- A world in which a view shows the output of one more pass. -/
def World.showing (id : ViewId) (output : Value) (world : World) : World :=
  { world with
    views := world.views.modify id fun view =>
      { view with output, renderCount := view.renderCount + 1 } }

open Observe

/-! ## Compiling -/

/-- What a property of computations needs so that compiling views has it. -/
structure RespectedByCompiling (runner : Runner) (P : (α : Type) → Act α → Prop) : Prop
    extends RespectedByWrites runner P where
  beside {α : Type} {change : World → α × World} :
    (∀ world, Beside world (change world).2) → P α (modifyGet change)
  untracked {α : Type} {body : Act α} : P α body → P α (Act.untracked body)
  within {α : Type} (scope : EffectScopeId) {body : Act α} :
    P α body → P α (Act.within scope body)
  newEffectScope : P _ Act.newEffectScope
  stopEffectScope (scope : EffectScopeId) : P _ (Act.stopEffectScope scope)
  resolve (data : Value) (store : LiveMapId) (scopes : ScopePath) (token : String) :
    P _ (Act.resolve runner data store scopes token)

namespace RespectedByCompiling

variable {runner : Runner} {P : (α : Type) → Act α → Prop}

theorem compiles (respected : RespectedByCompiling runner P) (id : CompilerId) :
    Compiles runner id (fun _ => True) P where
  pure := respected.pure
  throw := respected.throw
  bind := respected.bind
  look looks := respected.observe looks.balanced
  reads _ each := respected.bind respected.get each
  compiler each := respected.bind (respected.compilerAt id) fun compiler => each compiler trivial
  count := respected.beside fun _ => .of_views rfl rfl rfl rfl
  resolve _ := respected.resolve _ _
  binding _ scopes bindings := respected.bindings _ scopes (looks_balanced.copyMap bindings)

theorem modifyView (respected : RespectedByCompiling runner P) (id : ViewId)
    {change : View → View} (same : ∀ view, (change view).shown = view.shown) :
    P _ (Act.modifyView id change) :=
  respected.beside fun world => beside_modifyView world id same

theorem compileFor (respected : RespectedByCompiling runner P) (id : ViewId) (schema : Value) :
    P _ (Act.compileFor runner id schema) := by
  refine respected.bind (respected.stopResolvers respected.stopEffectScope id) fun _ => ?_
  refine respected.bind respected.newEffectScope fun resolvers => ?_
  refine respected.bind (respected.modifyView id fun _ => rfl) fun _ => ?_
  refine respected.bind respected.newStore fun store => ?_
  refine respected.bind (respected.modifyView id fun _ => rfl) fun _ => ?_
  refine respected.bind (respected.viewAt id) fun view => ?_
  refine respected.bind (respected.beside fun _ => .of_views rfl rfl rfl rfl) fun compiler => ?_
  refine respected.bind (respected.within resolvers ?_) fun root => ?_
  · exact respected.bind (respected.observe (looks_balanced.newScope _)) fun scope =>
      (respected.compiles compiler).schema [scope] schema
  refine respected.bind (respected.modifyView id fun _ => rfl) fun _ => ?_
  refine respected.bind respected.get fun world => ?_
  refine respected.bind (respected.compilerAt compiler) fun _ => ?_
  exact respected.bind (respected.observe (looks_balanced.log _)) fun _ =>
    respected.beside fun _ => .of_views rfl rfl rfl rfl

theorem compileView (respected : RespectedByCompiling runner P) (id : ViewId) :
    P _ (Act.compileView runner id) := by
  refine respected.bind (respected.viewAt id) fun view => ?_
  refine respected.bind (respected.observe (looks_balanced.refGet _)) fun schema => ?_
  refine respected.bind (respected.untracked (respected.compileFor id schema)) fun root => ?_
  exact respected.bind (respected.viewAt id) fun view => respected.refSet _ root

end RespectedByCompiling

/-! ## Rendering -/

/-- What a listener does when it is called. -/
def World.stepsOf (world : World) (id : ListenerId) : Option (List Action) :=
  world.listeners[id]?.map (·.steps)

theorem World.stepsOf_of_found {world : World} {id : ListenerId} {listener : Listener}
    (found : world.listeners[id]? = some listener) : world.stepsOf id = some listener.steps :=
  congrArg (Option.map Listener.steps) found

theorem World.stepsOf_of_listeners {before after : World}
    (same : after.listeners = before.listeners) (id : ListenerId) :
    after.stepsOf id = before.stepsOf id := by
  unfold stepsOf
  rw [same]

theorem World.stepsOf_modify (world : World) (id other : ListenerId)
    {change : Listener → Listener} (same : ∀ listener, (change listener).steps = listener.steps) :
    { world with listeners := world.listeners.modify id change }.stepsOf other =
      world.stepsOf other := by
  unfold stepsOf
  dsimp only
  rw [Array.getElem?_modify]
  split
  · cases world.listeners[other]? with
    | none => rfl
    | some listener => exact congrArg some (same listener)
  · rfl

/-- Have one call of a listener less before its steps are over. -/
def World.calledOnce (id : ListenerId) (world : World) : World :=
  { world with
    listeners := world.listeners.modify id fun listener =>
      { listener with times := listener.times - 1 } }

theorem World.stepsOf_calledOnce (world : World) (id other : ListenerId) :
    (world.calledOnce id).stepsOf other = world.stepsOf other :=
  world.stepsOf_modify id other fun _ => rfl

/-- A world with one more listener. -/
def World.withListener (world : World) (listener : Listener) : World :=
  { world with listeners := world.listeners.push listener }

/-- Is all that listeners do of some kind? -/
def World.Hears (Fit : List Action → Prop) (world : World) : Prop :=
  ∀ id steps, world.stepsOf id = some steps → Fit steps

theorem World.Hears.of_steps {Fit : List Action → Prop} {before after : World}
    (hears : before.Hears Fit) (same : ∀ id, after.stepsOf id = before.stepsOf id) :
    after.Hears Fit :=
  fun id steps found => hears id steps ((same id).symm.trans found)

/--
What a property of computations needs so that rendering views has it, where what listeners
do is of some kind.
-/
structure RespectedByRendering (runner : Runner) (Fit : List Action → Prop)
    (P : (α : Type) → Act α → Prop) : Prop extends Closed P where
  observe {α : Type} {look : Observe α} : look.IsBalanced → P α (Act.observe look)
  beside {α : Type} {change : World → α × World} :
    (∀ world, Beside world (change world).2) → P α (modifyGet change)
  untracked {α : Type} {body : Act α} : P α body → P α (Act.untracked body)
  /-- What listeners do is looked up before they are called. -/
  hearing {α : Type} {next : World → Act α} :
    (∀ world, world.Hears Fit → P α (next world)) → P α (MonadState.get >>= next)
  calledOnce (id : ListenerId) : P _ (modify (World.calledOnce id))
  perform (name : String) (steps : List Action) : Fit steps →
    P _ (runner.perform (.program name steps))

namespace RespectedByRendering

variable {runner : Runner} {Fit : List Action → Prop} {P : (α : Type) → Act α → Prop}

theorem callListener (respected : RespectedByRendering runner Fit P) (id : ListenerId)
    (output : Value) : P _ (Act.callListener runner id output) := by
  refine respected.hearing fun world fits => ?_
  cases found : world.listeners[id]? with
  | none => exact respected.pure _
  | some listener =>
      refine respected.bind (respected.observe (looks_balanced.html output)) fun text => ?_
      refine respected.bind (respected.beside fun _ => .of_views rfl rfl rfl rfl) fun _ => ?_
      split
      · refine respected.bind (respected.calledOnce id) fun _ => ?_
        have fit : Fit listener.steps := fits id _ (World.stepsOf_of_found found)
        exact respected.bind (respected.perform _ _ fit) fun _ => respected.pure _
      · exact respected.pure _

theorem callListeners (respected : RespectedByRendering runner Fit P) (output : Value)
    (listeners : List ListenerId) : P _ (Act.callListeners runner output listeners) := by
  induction listeners with
  | nil => exact respected.pure _
  | cons id rest ih => exact respected.bind (respected.callListener id output) fun _ => ih

theorem renderView (respected : RespectedByRendering runner Fit P) {id : ViewId}
    (shows : ∀ output, P _ (modify (World.showing id output))) :
    P _ (Act.renderView runner id) := by
  refine respected.bind (respected.viewAt id) fun view => ?_
  refine respected.bind (respected.observe (looks_balanced.refGet _)) fun closure => ?_
  refine respected.bind (respected.thunkOf closure) fun root => ?_
  refine respected.bind (respected.isChecked view) fun checked => ?_
  refine respected.bind (respected.observe (balanced_evaluatePass checked root.balanced_run))
    fun output => ?_
  refine respected.bind (shows output) fun _ => ?_
  refine respected.bind (respected.viewAt id) fun view => ?_
  refine respected.bind (respected.observe (looks_balanced.log _)) fun _ => ?_
  exact respected.untracked (respected.callListeners output _)

end RespectedByRendering

/-! ## Views -/

/-- Does an effect, if it runs the steps of a program, run fitting ones? -/
def Body.Runs (Fit : List Action → Prop) : Body → Prop
  | .program _ steps => Fit steps
  | _ => True

/--
What a property of computations needs so that mounting views has it, where the steps of
effects and listeners are of some kind.
-/
structure RespectedByViews (runner : Runner) (Fit : List Action → Prop)
    (P : (α : Type) → Act α → Prop) : Prop extends RespectedByWrites runner P where
  /-- Whatever lies beside the effects, the listeners and the pass under way may change. -/
  beside {α : Type} {change : World → α × World} :
    (∀ world, Beside world (change world).2) → P α (modifyGet change)
  untracked {α : Type} {body : Act α} : P α body → P α (Act.untracked body)
  within {α : Type} (scope : EffectScopeId) {body : Act α} :
    P α body → P α (Act.within scope body)
  newEffect {body : Body} (timing : Timing) : body.Runs Fit → P _ (Act.newEffect body timing)
  newMember {body : Body} (timing : Timing) : body.Runs Fit → P _ (Act.newMember body timing)
  runEffect (effect : EffectId) : P _ (Act.runEffect runner effect)
  stopEffect (effect : EffectId) : P _ (Act.stopEffect effect)
  newEffectScope : P _ Act.newEffectScope
  stopEffectScope (scope : EffectScopeId) : P _ (Act.stopEffectScope scope)
  newListener (listener : Listener) : Fit listener.steps →
    P _ (modifyGet fun world => (world.listeners.size, world.withListener listener))
  /-- What listeners do is looked up before they are called. -/
  hearing {α : Type} {next : World → Act α} :
    (∀ world, world.Hears Fit → P α (next world)) → P α (MonadState.get >>= next)
  calledOnce (id : ListenerId) : P _ (modify (World.calledOnce id))
  perform (name : String) (steps : List Action) : Fit steps →
    P _ (runner.perform (.program name steps))

namespace RespectedByViews

variable {runner : Runner} {Fit : List Action → Prop} {P : (α : Type) → Act α → Prop}

theorem newClosure (respected : RespectedByViews runner Fit P) (closure : Closure) :
    P _ (Act.newClosure closure) :=
  respected.beside fun _ => .of_views rfl rfl rfl rfl

theorem watch (respected : RespectedByViews runner Fit P) {body : Body}
    (fits : body.Runs Fit) (timing : Timing) : P _ (Act.watch runner body timing) := by
  refine respected.bind (respected.newMember timing fits) fun effect => ?_
  exact respected.bind (respected.runEffect effect) fun _ => respected.pure _

theorem resolve (respected : RespectedByViews runner Fit P) (data : Value) (store : LiveMapId)
    (scopes : ScopePath) (token : String) :
    P _ (Act.resolve runner data store scopes token) := by
  refine respected.bind (respected.observe (looks_balanced.newRef _)) fun cell => ?_
  refine respected.bind (respected.watch ?_ .pre) fun _ => respected.pure _
  trivial

/-- What mounting has, compiling has. -/
theorem byCompiling (respected : RespectedByViews runner Fit P) :
    RespectedByCompiling runner P :=
  { respected with resolve := respected.resolve }

/-- What mounting has, rendering has. -/
theorem byRendering (respected : RespectedByViews runner Fit P) :
    RespectedByRendering runner Fit P :=
  { respected with }

theorem compiles (respected : RespectedByViews runner Fit P) (id : CompilerId) :
    Compiles runner id (fun _ => True) P :=
  respected.byCompiling.compiles id

/-! ## Mounting -/

theorem newEnvironment (respected : RespectedByViews runner Fit P)
    (components : Entries Value) (debug : Bool) : P _ (Act.newEnvironment components debug) :=
  respected.bind (respected.observe (looks_balanced.newMapId _)) fun _ =>
    respected.beside fun _ => .of_views rfl rfl rfl rfl

theorem defaultEnvironment (respected : RespectedByViews runner Fit P) :
    P _ Act.defaultEnvironment := by
  unfold Act.defaultEnvironment
  refine respected.bind respected.get fun world => ?_
  split
  · exact respected.pure _
  · refine respected.bind (respected.newEnvironment [] true) fun id => ?_
    exact respected.bind (respected.beside fun _ => .of_views rfl rfl rfl rfl) fun _ => respected.pure _

theorem componentsOf (respected : RespectedByViews runner Fit P) (id : EnvironmentId) :
    P _ (Act.componentsOf id) :=
  respected.getting _

theorem changeComponents (respected : RespectedByViews runner Fit P) (id : EnvironmentId)
    {change : MapId → Observe Unit} (each : ∀ copy, (change copy).IsBalanced) :
    P _ (Act.changeComponents id change) := by
  refine respected.bind (respected.componentsOf id) fun old => ?_
  refine respected.bind (respected.observe ?_) fun new => respected.beside fun _ => .of_views rfl rfl rfl rfl
  refine balanced_closed.bind balanced_closed.get fun memory => ?_
  refine balanced_closed.bind (looks_balanced.newMapId _) fun copy => ?_
  exact balanced_closed.bind (each copy) fun _ => balanced_closed.pure _

theorem newCompiler (respected : RespectedByViews runner Fit P) (compiler : Compiler) :
    P _ (Act.newCompiler compiler) :=
  respected.beside fun _ => .of_views rfl rfl rfl rfl

theorem modifyView (respected : RespectedByViews runner Fit P) (id : ViewId)
    {change : View → View} (same : ∀ view, (change view).shown = view.shown) :
    P _ (Act.modifyView id change) :=
  respected.byCompiling.modifyView id same

theorem mount (respected : RespectedByViews runner Fit P) (environment : EnvironmentId)
    (schema data : Value) (library : List (String × Value)) :
    P _ (Act.mount runner environment schema data library) := by
  refine respected.bind (respected.observe ?_) fun data => ?_
  · split
    · exact balanced_closed.bind (looks_balanced.newMap _) looks_balanced.makeLive
    · exact looks_balanced.makeLive _
  refine respected.bind (respected.observe (looks_balanced.newRef schema)) fun schema => ?_
  refine respected.bind (respected.newClosure _) fun closure => ?_
  refine respected.bind (respected.observe (looks_balanced.newRef closure)) fun root => ?_
  refine respected.bind respected.newStore fun store => ?_
  refine respected.bind (respected.beside fun world =>
    ⟨rfl, rfl, rfl, world.showsOn_push _⟩) fun id => ?_
  refine respected.bind (respected.newMember .pre trivial) fun compileEffect => ?_
  refine respected.bind (respected.modifyView id fun _ => rfl) fun _ => ?_
  refine respected.bind (respected.runEffect compileEffect) fun _ => ?_
  refine respected.bind (respected.newMember .post trivial) fun renderEffect => ?_
  refine respected.bind (respected.modifyView id fun _ => rfl) fun _ => ?_
  exact respected.bind (respected.runEffect renderEffect) fun _ => respected.pure _

theorem unmount (respected : RespectedByViews runner Fit P) (id : ViewId) :
    P _ (Act.unmount id) := by
  refine respected.bind (respected.viewAt id) fun view => ?_
  refine respected.bind (respected.stopEffect _) fun _ => ?_
  refine respected.bind (respected.stopEffect _) fun _ => ?_
  refine respected.bind (respected.stopResolvers respected.stopEffectScope id) fun _ => ?_
  exact respected.modifyView id fun _ => rfl

theorem renderOnce (respected : RespectedByViews runner Fit P) (environment : EnvironmentId)
    (schema data : Value) (library : List (String × Value)) :
    P _ (Act.renderOnce runner environment schema data library) := by
  refine respected.bind (respected.mount environment schema data library) fun id => ?_
  refine respected.bind (respected.viewAt id) fun view => ?_
  exact respected.bind (respected.unmount id) fun _ => respected.pure _

theorem renderNow (respected : RespectedByViews runner Fit P) (id : ViewId) :
    P _ (Act.renderNow id) := by
  refine respected.untracked (respected.bind (respected.viewAt id) fun view => ?_)
  refine respected.bind (respected.observe (looks_balanced.refPeek _)) fun closure => ?_
  refine respected.bind (respected.thunkOf closure) fun root => ?_
  exact respected.bind (respected.isChecked view) fun checked =>
    respected.observe (balanced_evaluatePass checked root.balanced_run)

theorem isMounted (respected : RespectedByViews runner Fit P) (id : ViewId) :
    P _ (Act.isMounted id) :=
  respected.bind respected.get fun _ =>
    respected.bind (respected.viewAt id) fun _ => respected.pure _

theorem subscribe (respected : RespectedByViews runner Fit P) (id : ViewId)
    (listener : ListenerId) : P _ (Act.subscribe id listener) :=
  respected.bind (respected.modifyView id fun _ => rfl) fun _ => respected.newClosure _

theorem callClosure (respected : RespectedByViews runner Fit P) (id : Nat) :
    P _ (Act.callClosure id) := by
  unfold Act.callClosure
  refine respected.bind respected.get fun world => ?_
  split
  · exact respected.pure _
  · exact respected.observe (Thunk.balanced_run _)
  · exact respected.bind (respected.modifyView _ fun _ => rfl) fun _ => respected.pure _

end RespectedByViews

end ReactiveSchema
