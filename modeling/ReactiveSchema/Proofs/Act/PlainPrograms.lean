import ReactiveSchema.Proofs.Act.RespectSessions

/-!
# Programs that look and write

Programs that look at memory, write and compute, but handle neither compilers nor views,
and run no effect by hand.  Some of them may also make and stop effects; the effects that
they make may not.
-/

namespace ReactiveSchema

/-! ## The programs -/

/--
Does an operation leave effects, compilers and environments alone?  With `making`, it may
also make and stop effects.
-/
def Operation.isPlain (making : Bool) : Operation → Bool
  | .stop | .newEffectScope | .resolve => making
  | .runEffect | .newCompiler | .newPlainCompiler | .compile | .compileNode | .compileAttributes
  | .compileCondition | .compileExpression | .parse | .call | .calls | .compilerState
  | .newEnvironment | .defaultEnvironment | .renderOnce | .viewRender | .viewState | .unmount
  | .leak | .registrySet | .registryDelete | .registryAt | .registryGet | .registryHas | .registryUpdate
  | .registryEntries | .registryMap => false
  | _ => true

namespace Action

mutual

/--
Does an action only look, write and compute?  With `making`, it may also make effects that
only do so, and stop effects.
-/
def isPlain (making : Bool) : Action → Bool
  | literal _ | named _ => true
  | group items => allPlain making items
  | assign _ value => isPlain making value
  | log values => allPlain making values
  | sequence steps => allPlain making steps
  | choose test body otherwise =>
      isPlain making test && isPlain making body && isPlain making otherwise
  | raise message => isPlain making message
  | attempt steps => allPlain making steps
  | operate operation operands => operation.isPlain making && allPlain making operands
  | effect _ _ _ steps => making && allPlain false steps
  | within scope steps => isPlain making scope && allPlain making steps
  | batch steps => allPlain making steps
  | untracked steps => allPlain making steps
  | freshContext steps => allPlain making steps
  | someContext steps => allPlain making steps
  | frame bindings steps => isPlain making bindings && allPlain making steps
  | compileLoop .. | compileConditional .. | mount .. | subscribe .. => false

/-- Do actions only look, write and compute? -/
def allPlain (making : Bool) : List Action → Bool
  | [] => true
  | action :: rest => isPlain making action && allPlain making rest

end

end Action

/-- Does an effect only look, write and compute?  What a view's listeners do is not looked at. -/
def Body.isPlain : Body → Bool
  | .resolve .. | .render _ => true
  | .compile _ => false
  | .program _ steps => Action.allPlain false steps

/-! ## What they respect -/

/-- What a relation between worlds has to respect so that plain programs do. -/
structure RespectedByPlain (runner : Runner) (making : Bool) (R : World → World → Prop) : Prop
    extends RespectedByWrites runner fun _ => Along R where
  path : Composable R
  look {α : Type} (look : Observe α) : Along R (Act.observe look)
  /-- Whatever lies beside the effects and the listeners may change. -/
  beside {world after : World} : after.reactor = world.reactor →
    after.listeners = world.listeners → R world after
  untracked {α : Type} {body : Act α} : Along R body → Along R (Act.untracked body)
  within {α : Type} (scope : EffectScopeId) {body : Act α} :
    Along R body → Along R (Act.within scope body)
  newEffectScope : Along R Act.newEffectScope
  newEffect : making = true → ∀ body timing, Along R (Act.newEffect body timing)
  watch : making = true → ∀ name timing steps, Action.allPlain false steps = true →
    Along R (Act.watch runner (.program name steps) timing)
  resolve : making = true → ∀ data store scopes token,
    Along R (Act.resolve runner data store scopes token)
  stopEffect : making = true → ∀ effect, Along R (Act.stopEffect effect)
  stopEffectScope : making = true → ∀ scope, Along R (Act.stopEffectScope scope)

namespace RespectedByPlain

variable {runner : Runner} {making : Bool} {R : World → World → Prop}

theorem modifying (respected : RespectedByPlain runner making R) {change : World → World}
    (reactor : ∀ world, (change world).reactor = world.reactor)
    (listeners : ∀ world, (change world).listeners = world.listeners) :
    Along R (modify change : Act Unit) :=
  fun world => respected.beside (reactor world) (listeners world)

theorem assign (respected : RespectedByPlain runner making R) (name : String) (value : Value) :
    Along R (Act.assign name value) :=
  respected.modifying (fun _ => rfl) fun _ => rfl

theorem stopHandle (respected : RespectedByPlain runner making R) (may : making = true)
    (value : Value) : Along R (Act.stopHandle value) := by
  unfold Act.stopHandle
  split
  · exact respected.stopEffect may _
  · exact respected.stopEffectScope may _
  · exact respected.look _

theorem operate (respected : RespectedByPlain runner making R) {operation : Operation}
    (plain : operation.isPlain making = true) (operands : List Value) :
    Along R (Act.operate runner operation operands) := by
  cases operation
  case stop => exact respected.silently (respected.stopHandle plain _)
  case newEffectScope => exact respected.bind respected.newEffectScope fun _ => respected.pure _
  case resolve =>
    refine respected.bind (respected.storeOf _) fun store => ?_
    exact respected.bind (respected.resolve plain _ store _ _) fun _ => respected.pure _
  case pushFrame =>
    exact respected.bind (respected.needContext _) fun _ =>
      respected.silently (respected.look _)
  all_goals first
    | exact respected.toRespectedByWrites.operate rfl operands
    | exact absurd plain Bool.false_ne_true

theorem addEffect (respected : RespectedByPlain runner making R) (may : making = true)
    (name : String) (timing : Timing) (started : Bool) {steps : List Action}
    (plain : Action.allPlain false steps = true) :
    Along R (Act.addEffect runner name timing started steps) := by
  refine respected.branch (respected.watch may name timing steps plain)
    (respected.newEffect may _ timing) fun effect => ?_
  exact respected.silently (respected.assign name _)

/-! ## Programs -/

mutual

theorem performs (respected : RespectedByPlain runner making R) : ∀ action : Action,
    action.isPlain making = true → Along R (action.perform runner)
  | .literal _, _ => respected.look _
  | .named name, _ => respected.variableOf name
  | .group items, plain =>
      respected.bind (respected.performsAll items plain) fun _ => respected.pure _
  | .assign name value, plain =>
      respected.bind (respected.performs value plain) fun _ =>
        respected.silently (respected.assign name _)
  | .log values, plain =>
      respected.bind (respected.performsShown values plain) fun _ =>
        respected.silently (respected.modifying (fun _ => rfl) fun _ => rfl)
  | .sequence steps, plain => respected.performsSteps .none steps plain
  | .choose test body otherwise, plain => by
      simp only [Action.isPlain, Bool.and_eq_true] at plain
      refine respected.bind (respected.performs test plain.1.1) fun value => ?_
      refine respected.bind (respected.look _) fun holds => ?_
      split
      · exact respected.performs body plain.1.2
      · exact respected.performs otherwise plain.2
  | .raise message, plain =>
      respected.bind (respected.performs message plain) fun _ =>
        respected.bind (respected.look _) fun _ => respected.fail rfl
  | .attempt steps, plain => respected.attempt (respected.performsSteps .none steps plain)
  | .operate operation operands, plain => by
      simp only [Action.isPlain, Bool.and_eq_true] at plain
      exact respected.bind (respected.performsAll operands plain.2) fun values =>
        respected.operate plain.1 values
  | .effect name timing started steps, plain => by
      simp only [Action.isPlain, Bool.and_eq_true] at plain
      exact respected.addEffect plain.1 name timing started plain.2
  | .within scope steps, plain => by
      simp only [Action.isPlain, Bool.and_eq_true] at plain
      refine respected.bind (respected.performs scope plain.1) fun value => ?_
      split
      · exact respected.within _ (respected.performsSteps .none steps plain.2)
      · exact respected.look _
  | .batch steps, plain => respected.batch (respected.performsSteps .none steps plain)
  | .untracked steps, plain => respected.untracked (respected.performsSteps .none steps plain)
  | .freshContext steps, plain =>
      respected.path.withContext respected.look _ (respected.performsSteps .none steps plain)
  | .someContext steps, plain => by
      refine respected.bind respected.get fun world => ?_
      split
      · exact respected.path.withContext respected.look _
          (respected.performsSteps .none steps plain)
      · exact respected.performsSteps .none steps plain
  | .frame bindings steps, plain => by
      simp only [Action.isPlain, Bool.and_eq_true] at plain
      exact respected.bind (respected.needContext _) fun _ =>
        respected.bind (respected.performs bindings plain.1) fun _ =>
          respected.path.insideFrame respected.look _ (respected.performsSteps .none steps plain.2)

theorem performsAll (respected : RespectedByPlain runner making R) : ∀ actions : List Action,
    Action.allPlain making actions = true → Along R (Action.perform.performAll runner actions)
  | [], _ => respected.pure _
  | action :: rest, plain => by
      simp only [Action.allPlain, Bool.and_eq_true] at plain
      exact respected.bind (respected.performs action plain.1) fun _ =>
        respected.bind (respected.performsAll rest plain.2) fun _ => respected.pure _

theorem performsShown (respected : RespectedByPlain runner making R) : ∀ actions : List Action,
    Action.allPlain making actions = true → Along R (Action.perform.performShown runner actions)
  | [], _ => respected.pure _
  | action :: rest, plain => by
      simp only [Action.allPlain, Bool.and_eq_true] at plain
      exact respected.bind (respected.performs action plain.1) fun _ =>
        respected.bind (respected.look _) fun _ =>
          respected.bind (respected.performsShown rest plain.2) fun _ => respected.pure _

theorem performsSteps (respected : RespectedByPlain runner making R) (last : Value) :
    ∀ actions : List Action, Action.allPlain making actions = true →
      Along R (Action.perform.performSteps runner last actions)
  | [], _ => respected.pure _
  | action :: rest, plain => by
      simp only [Action.allPlain, Bool.and_eq_true] at plain
      exact respected.bind (respected.performs action plain.1) fun value =>
        respected.performsSteps value rest plain.2

end

end RespectedByPlain

end ReactiveSchema
