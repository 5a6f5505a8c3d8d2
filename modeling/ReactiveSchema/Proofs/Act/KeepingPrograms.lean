import ReactiveSchema.Proofs.Act.KeepingOperations
import ReactiveSchema.Script.Session

/-!
# Programs that keep everything in reach

Whatever the steps of a program do, in whatever order, every place that is
named in the world is there before and after.  So it is in every world that a
session can come to.
-/

namespace ReactiveSchema

variable {extent small large : Extent}

namespace Keeps

variable {runner : Runner} {value : Value}

/-! ## Parts of programs -/

theorem variableOf (name : String) : Keeps extent Known (Act.variableOf name) := by
  refine bind get fun large world _ ⟨held, _⟩ => ?_
  split
  case h_1 value found =>
    obtain ⟨before, after, all, -⟩ := List.lookup_eq_some_iff.mp found
    have known : Known large value := World.Within.names held (name, value) (all ▸ by simp)
    exact pure fun _ more => known.mono more
  case h_2 => exact fail _

theorem assign (name : String) (known : Known extent value) :
    Keeps extent Anything (Act.assign name value) := by
  refine besides (fun _ => rfl) fun large world fits held => ?_
  obtain ⟨memory, bodies, closures, environments, compilers, views, chosen, names⟩ := held
  refine ⟨memory, bodies, closures, environments, compilers, views, chosen, fun entry has => ?_⟩
  obtain rfl | has := List.mem_cons.mp has
  · exact known.mono fits
  · exact names entry (List.mem_of_mem_filter has)

/-- A change of what nothing else is read off. -/
theorem noting {change : World → World} (same : ∀ world, ∃ mounted entries,
    change world = { world with mounted, entries }) :
    Keeps extent Anything (modify change : Act Unit) := by
  refine besides (fun world => ?_) fun large world _ held => ?_
  · obtain ⟨_, _, same⟩ := same world
    rw [same]
    rfl
  · obtain ⟨_, _, same⟩ := same world
    rw [same]
    obtain ⟨memory, bodies, closures, environments, compilers, views, chosen, names⟩ := held
    exact ⟨memory, bodies, closures, environments, compilers, views, chosen, names⟩

theorem logEntry (entry : List Datum) : Keeps extent Anything (Act.logEntry entry) :=
  noting fun _ => ⟨_, _, rfl⟩

theorem addMounted (name : String) {id : ViewId} (there : id < extent.views) :
    Keeps extent Anything (Act.addMounted name id) :=
  bind (assign name (known_view there)) fun _ _ _ _ => noting fun _ => ⟨_, _, rfl⟩

theorem attempt {action : Act Value} (each : Keeps extent Known action) :
    Keeps extent Known (Act.attempt action) := by
  refine tryCatch each fun _ fault _ within => ?_
  split
  · exact observe (bind (reportFault fault) fun _ datum _ _ => build datum)
  · exact throw within

theorem setContext {context : Option EvaluationContext} (known : ContextKnown extent context) :
    Keeps extent Anything (Observe.setContext context) := by
  have same {large : Extent} (fits : extent.Fits large) :
      Option.Rel (ContextTwin FirstLook.idle.moves large) context context :=
    context_mono fits known
  exact Tandem.keeps_done fun _ fits => Tandem.setContext (same fits)

theorem withContext {context : Option EvaluationContext} (known : ContextKnown extent context)
    {body : Act Value} (each : Keeps extent Known body) :
    Keeps extent Known (Act.withContext context body) := by
  refine bind get fun _ world f₁ held => ?_
  have outer := (remembered held).1.context
  refine bind (observe (setContext (context_mono f₁ known))) fun _ _ f₂ _ => ?_
  exact ensuring abiding_known (each.mono (f₁.trans f₂)) fun _ more =>
    observe (setContext (context_mono (f₂.trans more) outer))

theorem popFrame (known : Known extent value) (depth : Nat) :
    Keeps extent Anything (Observe.popFrame value depth) := by
  have same {large : Extent} (fits : extent.Fits large) :
      Twin FirstLook.idle.moves large value value := known.mono fits
  exact Tandem.keeps_done fun _ fits => Tandem.popFrame (same fits) depth

theorem insideFrame {bindings : Value} (known : Known extent bindings) {body : Act Value}
    (each : Keeps extent Known body) :
    Keeps extent Known (Act.insideFrame bindings body) := by
  have entered {large : Extent} (fits : extent.Fits large) : Keeps large Anything (do
      Observe.pushFrame bindings
      Observe.noteDepth) :=
    bind (pushFrame (known.mono fits)) fun _ _ _ _ => Tandem.keeps_done fun _ _ => Tandem.noteDepth
  have left {large : Extent} (fits : extent.Fits large) (depth : Nat) :
      Keeps large Anything (Observe.popFrame bindings depth) :=
    popFrame (known.mono fits) depth
  refine bind (observe (Tandem.keeps_done fun _ _ => Tandem.frameDepth)) fun _ depth f₁ _ => ?_
  refine bind (observe (entered f₁)) fun _ _ f₂ _ => ?_
  exact ensuring abiding_known (each.mono (f₁.trans f₂)) fun _ more =>
    observe (left ((f₁.trans f₂).trans more) depth)

section Running

variable (keeps : runner.Keeps)
include keeps

theorem assignLoop (name : String) {compiler raw : Value} (compilers : Known extent compiler)
    (known : Known extent raw) :
    Keeps extent Known (Act.assignLoop runner name compiler raw) := by
  refine bind (compilerOf compilers) fun _ id f₁ there => ?_
  refine bind (observe (parseLoop (known.mono f₁))) fun _ loop f₂ loops => ?_
  cases loop with
  | none => exact observe (unknown _ _)
  | some loop =>
      have there := Nat.lt_of_lt_of_le there f₂.compilers
      refine bind (compilerAt there) fun _ _ f₃ _ => ?_
      refine bind (compileLoop keeps (Nat.lt_of_lt_of_le there f₃.compilers) _
        ((loops loop rfl).mono f₃)) fun _ compiled f₄ known => ?_
      refine bind (newClosure known) fun _ closure _ closed => ?_
      refine bind (assign name closed) fun _ _ _ _ => listed (pure fun _ _ => ?_)
      exact .cons (.str _) (.cons (nameOrNone _) .nil)

theorem assignConditional (name : String) {compiler raw : Value}
    (compilers : Known extent compiler) (known : Known extent raw) :
    Keeps extent Known (Act.assignConditional runner name compiler raw) := by
  refine bind (compilerOf compilers) fun _ id f₁ there => ?_
  refine bind (observe (parseNode (known.mono f₁))) fun _ node f₂ nodes => ?_
  split
  case h_1 condition body otherwise =>
    cases nodes _ rfl with
    | conditional asked yes no =>
        have there := Nat.lt_of_lt_of_le there f₂.compilers
        refine bind (compilerAt there) fun _ _ f₃ _ => ?_
        have there := Nat.lt_of_lt_of_le there f₃.compilers
        refine bind (compiling keeps there) fun _ _ f₄ each => ?_
        have ahead := f₃.trans f₄
        refine bind (compileConditional keeps (Nat.lt_of_lt_of_le there f₄.compilers) each _
          (asked.mono ahead) (yes.mono ahead) (abiding_maybe ahead no)) fun _ parts f₅ known => ?_
        obtain ⟨conditions, bodies, alternates⟩ := known
        refine bind (newClosure conditions) fun _ _ f₆ closed => ?_
        refine bind (assign _ closed) fun _ _ f₇ _ => ?_
        refine bind (newClosure (PartKnown.mono bodies (f₆.trans f₇))) fun _ _ f₈ closed => ?_
        refine bind (assign _ closed) fun _ _ f₉ _ => ?_
        split
        · exact pure fun _ _ => .bool _
        case h_2 other found =>
          have others := (alternates other found).mono (f₆.trans (f₇.trans (f₈.trans f₉)))
          refine bind (newClosure others) fun _ _ _ closed => ?_
          exact bind (assign _ closed) fun _ _ _ _ => pure fun _ _ => .bool _
  case h_2 => exact observe (unknown _ _)

end Running

theorem newListener (listener : Listener) :
    Keeps extent Anything (MonadState.modifyGet fun world : World => (world.listeners.size,
      { world with listeners := world.listeners.push listener }) : Act ListenerId) := by
  refine modifyGet fun large world _ held reach => ?_
  change world.reach = large at reach
  subst reach
  obtain ⟨memory, bodies, closures, environments, compilers, views, chosen, names⟩ := held
  exact ⟨⟨memory, bodies, closures, environments, compilers, views, chosen, names⟩, .refl _, trivial⟩

theorem addListener (view name : String) (times : Nat) (steps : List Action) :
    Keeps extent Known (Act.addListener view name times steps) := by
  refine bind (variableOf view) fun _ _ _ known => bind (viewOf known) fun _ id _ _ => ?_
  refine bind (newListener _) fun _ listener _ _ => silently ?_
  exact bind (subscribe id listener) fun _ _ _ known => assign name known

theorem addEffect (keeps : runner.Keeps) (name : String) (timing : Timing) (started : Bool)
    (steps : List Action) :
    Keeps extent Known (Act.addEffect runner name timing started steps) := by
  have named (effect : EffectId) {large : Extent} :
      Keeps large Known (Act.silently (Act.assign name (.handle .effect effect))) :=
    silently (assign name (.handle trivial))
  have within : Body.Within extent (.program name steps) := trivial
  unfold Act.addEffect
  cases started with
  | true => exact bind (watch keeps within timing) fun _ effect _ _ => named effect
  | false => exact bind (newEffect within timing) fun _ effect _ _ => named effect

/-! ## Programs -/

mutual

/-- Whatever an action is, it keeps the world whole and gives what is there. -/
theorem performs (keeps : runner.Keeps) : ∀ {extent : Extent} (action : Action),
    Keeps extent Known (action.perform runner)
  | _, .literal value => observe (build value)
  | _, .named name => variableOf name
  | _, .group items => bind (performsAll keeps items) fun _ _ _ all => pure fun _ fits =>
      .tuple (AllKnown.mono all fits)
  | _, .assign name value => bind (performs keeps value) fun _ _ _ known => silently (assign name known)
  | _, .log values => bind (performsShown keeps values) fun _ _ _ _ => silently (logEntry _)
  | _, .sequence steps => performsSteps keeps steps .none
  | _, .choose test body otherwise => by
      refine bind (performs keeps test) fun _ value _ known => ?_
      refine bind (observe (isTrue known)) fun _ holds _ _ => ?_
      split
      · exact performs keeps body
      · exact performs keeps otherwise
  | _, .raise message => bind (performs keeps message) fun _ _ _ known =>
      bind (observe (textOf known)) fun _ _ _ _ => fail _
  | _, .attempt steps => attempt (performsSteps keeps steps .none)
  | _, .operate operation operands => bind (performsAll keeps operands) fun _ _ _ all =>
      operate keeps operation all
  | _, .effect name timing started steps => addEffect keeps name timing started steps
  | _, .within scope steps => by
      refine bind (performs keeps scope) fun _ value _ _ => ?_
      split
      · exact within abiding_known _ (performsSteps keeps steps .none)
      · exact observe (unknown _ _)
  | _, .batch steps => batch keeps abiding_known (performsSteps keeps steps .none)
  | _, .untracked steps => untracked abiding_known (performsSteps keeps steps .none)
  | _, .freshContext steps => withContext (.some ⟨.nil, rfl⟩) (performsSteps keeps steps .none)
  | _, .someContext steps => by
      refine bind get fun _ world _ _ => ?_
      split
      · exact withContext (.some ⟨.nil, rfl⟩) (performsSteps keeps steps .none)
      · exact performsSteps keeps steps .none
  | _, .frame bindings steps => bind (needContext _) fun _ _ _ _ =>
      bind (performs keeps bindings) fun _ _ _ known => insideFrame known (performsSteps keeps steps .none)
  | _, .compileLoop name compiler raw => bind (variableOf compiler) fun _ _ _ compilers =>
      bind (performs keeps raw) fun _ _ fits known =>
        assignLoop keeps name (compilers.mono fits) known
  | _, .compileConditional name compiler raw => bind (variableOf compiler) fun _ _ _ compilers =>
      bind (performs keeps raw) fun _ _ fits known =>
        assignConditional keeps name (compilers.mono fits) known
  | _, .mount name schema data environment library => by
      refine bind (performs keeps schema) fun _ _ _ schemas => ?_
      refine bind (performs keeps data) fun _ _ f₁ known => ?_
      refine bind (performs keeps environment) fun _ _ f₂ environments => ?_
      refine bind (performs keeps library) fun _ library f₃ _ => silently ?_
      exact bind (mountOperands keeps (schemas.mono (f₁.trans (f₂.trans f₃)))
        (known.mono (f₂.trans f₃)) (environments.mono f₃) library) fun _ _ _ there =>
          addMounted name there
  | _, .subscribe view name times steps => addListener view name times steps

theorem performsAll (keeps : runner.Keeps) : ∀ {extent : Extent} (actions : List Action),
    Keeps extent AllKnown (Action.perform.performAll runner actions)
  | _, [] => pure fun _ _ => .nil
  | _, action :: rest => bind (performs keeps action) fun _ _ _ known =>
      bind (performsAll keeps rest) fun _ _ fits all => pure fun _ more =>
        .cons (known.mono (fits.trans more)) (AllKnown.mono all more)

theorem performsShown (keeps : runner.Keeps) : ∀ {extent : Extent} (actions : List Action),
    Keeps extent Anything (Action.perform.performShown runner actions)
  | _, [] => done
  | _, action :: rest => bind (performs keeps action) fun _ _ _ known =>
      bind (observe (snapshot known)) fun _ _ _ _ =>
        bind (performsShown keeps rest) fun _ _ _ _ => done

theorem performsSteps (keeps : runner.Keeps) : ∀ {extent : Extent} {last : Value} (actions : List Action),
    Known extent last → Keeps extent Known (Action.perform.performSteps runner last actions)
  | _, _, [], known => pure fun _ fits => known.mono fits
  | _, _, action :: rest, _ => bind (performs keeps action) fun _ _ _ known => performsSteps keeps rest known

end

theorem carryOut (keeps : runner.Keeps) {body : Body} (within : body.Within extent) :
    Keeps extent Known (body.carryOut runner) := by
  cases body with
  | resolve cell data store scopes path =>
      exact silently (updateCell keeps cell within.2 scopes within.1 path)
  | compile view => exact silently (compileView keeps within)
  | render view => exact silently (renderView keeps within)
  | program name steps => exact performsSteps keeps steps .none

end Keeps

/-- Effects inside effects keep the world whole, to whatever depth they may run. -/
theorem keeps_bounded (flushLimit nesting : Nat) : (Runner.bounded flushLimit nesting).Keeps := by
  induction nesting with
  | zero => exact fun _ => Keeps.throw .exhausted
  | succ nesting ih => exact fun within => Keeps.carryOut ih within

/-! ## Sessions -/

namespace World.Whole

variable {world : World}

/-- What an act has come to from a whole world is whole. -/
theorem acting {α : Type} {R : Extent → α → Prop} {action : Act α} (whole : world.Whole)
    (keeps : Keeps world.reach R action) : (action.run world).2.Whole :=
  (keeps world.reach world (.refl _) whole rfl).holds

theorem performing (whole : world.Whole) {runner : Runner} (keeps : runner.Keeps)
    (action : Action) : ((action.perform runner).run world).2.Whole :=
  whole.acting (Keeps.performs keeps action)

theorem reportMarkup (whole : world.Whole) {value : Value} (known : Known world.reach value) :
    (Session.reportMarkup value world).2.Whole := by
  have looked := whole.acting (Keeps.observe (Keeps.html known))
  unfold Session.reportMarkup
  rcases ran : (Act.observe (Observe.html value)).run world with ⟨fault | text, after⟩ <;>
    rw [ran] at looked <;> exact looked

theorem reportViews (whole : world.Whole) (mounted : List (String × ViewId)) :
    (Session.reportViews mounted world).2.Whole := by
  induction mounted generalizing world with
  | nil => exact whole
  | cons entry rest ih =>
      unfold Session.reportViews
      split
      · exact ih whole
      case h_2 view found => exact ih (whole.reportMarkup (World.Within.views whole found).output)

theorem step (whole : world.Whole) {runner : Runner} (keeps : runner.Keeps) (action : Action) :
    (Session.step runner action world).2.Whole := by
  have cleared : World.Whole { world with entries := [] } := by
    obtain ⟨memory, bodies, closures, environments, compilers, views, chosen, names⟩ := whole
    exact ⟨memory, bodies, closures, environments, compilers, views, chosen, names⟩
  have done := cleared.performing keeps action
  unfold Session.step
  rcases ran : (action.perform runner).run { world with entries := [] } with ⟨result, after⟩
  rw [ran] at done
  dsimp only
  split
  · exact done
  · exact done.reportViews _

/-- Every world that a session comes to is whole. -/
theorem steps (whole : world.Whole) {runner : Runner} (keeps : runner.Keeps)
    (program : List Action) : (Session.steps runner program world).2.Whole := by
  induction program generalizing world with
  | nil => exact whole
  | cons action rest ih =>
      have first := whole.step keeps action
      unfold Session.steps
      rcases ran : Session.step runner action world with ⟨fault | report, after⟩ <;>
        rw [ran] at first
      · exact first
      · exact ih first

end World.Whole

end ReactiveSchema
