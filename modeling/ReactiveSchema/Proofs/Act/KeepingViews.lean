import ReactiveSchema.Proofs.Act.KeepingSchemas
import ReactiveSchema.Proofs.Act.RespectViews

/-!
# Views that keep everything in reach

Mounting, compiling, rendering and unmounting.
-/

namespace ReactiveSchema

variable {extent small large : Extent}

theorem lt_of_fits_views {id : ViewId} (there : id < small.views) (fits : small.Fits large) :
    id < large.views :=
  Nat.lt_of_lt_of_le there fits.views

namespace Keeps

variable {runner : Runner} {id : ViewId} {value : Value}

/-! ## New things -/

theorem newClosure {closure : Closure} (within : closure.Within extent) :
    Keeps extent Known (Act.newClosure closure) := by
  refine modifyGet fun large world fits held reach => ?_
  change world.reach = large at reach
  subst reach
  obtain ⟨memory, bodies, closures, environments, compilers, views, chosen, names⟩ := held
  refine ⟨⟨memory, bodies, fun {other known} found => ?_, environments, compilers, views, chosen,
    names⟩, .refl _, .handle trivial⟩
  dsimp only at found
  rw [Array.getElem?_push] at found
  split at found
  · cases found
    exact within.mono fits
  · exact closures found

theorem newEnvironment {components : Entries Value} (known : EntriesKnown extent components)
    (debug : Bool) : Keeps extent (fun large id => id < large.environments)
      (Act.newEnvironment components debug) := by
  refine bind (observe (newMapId known)) fun e₁ map f₁ there => ?_
  refine modifyGet fun large world fits held reach => ?_
  change world.reach = large at reach
  subst reach
  have grown : world.reach.Fits (World.reach
      { world with environments := world.environments.push ⟨map, debug⟩ }) :=
    ⟨Nat.le_refl _, Nat.le_refl _, Nat.le_refl _, Nat.le_refl _, Nat.le_refl _, Nat.le_refl _,
      Nat.le_refl _, by simp [World.reach, Memory.bounds], Nat.le_refl _⟩
  obtain ⟨memory, bodies, closures, environments, compilers, views, chosen, names⟩ := held.mono grown
  refine ⟨⟨memory, bodies, closures, fun {other known} found => ?_, compilers, views, chosen, names⟩,
    grown, ?_⟩
  · dsimp only at found
    rw [Array.getElem?_push] at found
    split at found
    · cases found
      exact Nat.lt_of_lt_of_le there (fits.trans grown).maps
    · exact environments found
  · show world.environments.size < _
    simp [Bounded.bounds, World.reach, Memory.bounds]

theorem defaultEnvironment :
    Keeps extent (fun large id => id < large.environments) Act.defaultEnvironment := by
  refine bind get fun large world fits held => ?_
  split
  case h_1 id found =>
    exact pure fun _ more =>
      Nat.lt_of_lt_of_le (World.Within.defaultEnvironment held.1 found) more.environments
  case h_2 =>
    refine bind (newEnvironment .nil true) fun e₁ id f₁ there => ?_
    refine bind (besides (fun _ => rfl) fun larger world f₂ held => ?_) fun _ _ f₂ _ =>
      pure fun _ last => Nat.lt_of_lt_of_le there (f₂.trans last).environments
    obtain ⟨memory, bodies, closures, environments, compilers, views, _, names⟩ := held
    refine ⟨memory, bodies, closures, environments, compilers, views, fun found => ?_, names⟩
    cases found
    exact Nat.lt_of_lt_of_le there f₂.environments

theorem componentsOf {id : EnvironmentId} (there : id < extent.environments) :
    Keeps extent (fun large map => map < large.maps) (Act.componentsOf id) := by
  refine bind get fun large world fits ⟨held, reach⟩ => pure fun _ more => ?_
  change world.reach = large at reach
  subst reach
  have small : id < world.environments.size := Nat.lt_of_lt_of_le there fits.environments
  have found := Array.getElem?_eq_getElem small
  rw [found]
  exact Nat.lt_of_lt_of_le (held.environments found) more.maps

theorem changeComponents {id : EnvironmentId} (there : id < extent.environments)
    {change : MapId → Observe Unit}
    (each : ∀ large map, extent.Fits large → Keeps large Anything (change map)) :
    Keeps extent Anything (Act.changeComponents id change) := by
  refine bind (componentsOf there) fun e₁ old f₁ _ => ?_
  have copied : Keeps e₁ (fun large map => map < large.maps) (do
      let copy ← Observe.newMapId ((← MonadState.get).mapAt old)
      change copy
      return copy) := by
    refine bind get fun e₂ memory f₂ held => ?_
    refine bind (newMapId (held.1.maps old)) fun e₃ copy f₃ there => ?_
    exact bind (each _ copy ((f₁.trans f₂).trans f₃)) fun _ _ f₄ _ =>
      pure fun _ last => Nat.lt_of_lt_of_le there (f₄.trans last).maps
  refine bind (observe copied) fun e₂ new f₂ there => ?_
  refine besides (fun _ => by simp [World.reach]) fun large world fits held => ?_
  obtain ⟨memory, bodies, closures, environments, compilers, views, chosen, names⟩ := held
  refine ⟨memory, bodies, closures, fun {other environment} found => ?_, compilers, views, chosen,
    names⟩
  dsimp only at found
  rw [Array.getElem?_modify] at found
  split at found
  · obtain ⟨old, _, rfl⟩ := Option.map_eq_some_iff.mp found
    exact Nat.lt_of_lt_of_le there fits.maps
  · exact environments found

theorem newCompiler {compiler : Compiler} (within : compiler.Within extent) :
    Keeps extent (fun large id => id < large.compilers) (Act.newCompiler compiler) := by
  refine modifyGet fun large world fits held reach => ?_
  change world.reach = large at reach
  subst reach
  have grown : world.reach.Fits (World.reach
      { world with compilers := world.compilers.push compiler }) :=
    ⟨Nat.le_refl _, Nat.le_refl _, Nat.le_refl _, Nat.le_refl _, Nat.le_refl _, Nat.le_refl _,
      Nat.le_refl _, Nat.le_refl _, by simp [World.reach, Memory.bounds]⟩
  obtain ⟨memory, bodies, closures, environments, compilers, views, chosen, names⟩ := held.mono grown
  refine ⟨⟨memory, bodies, closures, environments, fun {other known} found => ?_, views, chosen,
    names⟩, grown, ?_⟩
  · dsimp only at found
    rw [Array.getElem?_push] at found
    split at found
    · cases found
      exact within.mono (fits.trans grown)
    · exact compilers found
  · show world.compilers.size < _
    simp [Bounded.bounds, World.reach, Memory.bounds]

/-! ## Views -/

theorem viewAt (there : id < extent.views) :
    Keeps extent (fun large view => view.Within large) (Act.viewAt id) := by
  refine bind get fun large world fits ⟨held, reach⟩ => ?_
  change world.reach = large at reach
  subst reach
  split
  case h_1 view found => exact pure fun _ more => (held.views found).mono more
  case h_2 missing =>
    have small : world.views.size ≤ id := Array.getElem?_eq_none_iff.mp missing
    exact absurd (Nat.lt_of_lt_of_le there fits.views) (Nat.not_lt.mpr small)

theorem modifyView (id : ViewId) {change : View → View}
    (each : ∀ large view, extent.Fits large → view.Within large → (change view).Within large) :
    Keeps extent Anything (Act.modifyView id change) := by
  refine besides (fun _ => by simp [World.reach]) fun large world fits held => ?_
  obtain ⟨memory, bodies, closures, environments, compilers, views, chosen, names⟩ := held
  refine ⟨memory, bodies, closures, environments, compilers, fun {other view} found => ?_, chosen,
    names⟩
  dsimp only at found
  rw [Array.getElem?_modify] at found
  split at found
  · obtain ⟨old, known, rfl⟩ := Option.map_eq_some_iff.mp found
    exact each large old fits (views known)
  · exact views found

/-- What is within does not depend on listeners, counts and effects. -/
theorem modifyNotes (id : ViewId) {change : View → View}
    (same : ∀ view, (change view).environment = view.environment ∧
      (change view).library = view.library ∧ (change view).data = view.data ∧
      (change view).store = view.store ∧ (change view).output = view.output) :
    Keeps extent Anything (Act.modifyView id change) :=
  modifyView id fun _ view _ ⟨environment, library, data, store, output⟩ => by
    obtain ⟨one, two, three, four, five⟩ := same view
    exact ⟨one ▸ environment, two ▸ library, three ▸ data, four ▸ store, five ▸ output⟩

theorem thunkOf (closure : Value) : Keeps extent PartKnown (Act.thunkOf closure) := by
  unfold Act.thunkOf
  split
  · refine bind get fun large world fits held => ?_
    split
    case h_1 part found =>
      have within : Closure.Within large (.thunk part) := World.Within.closures held.1 found
      exact pure fun _ more => PartKnown.mono within more
    case h_2 => exact pure fun _ _ => .none
  · exact pure fun _ _ => .none

theorem isChecked (view : View) : Keeps extent Anything (Act.isChecked view) :=
  bind get fun _ _ _ _ => done

theorem stopResolvers (there : id < extent.views) :
    Keeps extent Anything (Act.stopResolvers id) := by
  refine bind (viewAt there) fun _ view _ _ => ?_
  split
  · exact done
  · exact stopEffectScope _

theorem newEffectScope : Keeps extent Anything Act.newEffectScope := by
  refine modifyGet fun large world _ held reach => ?_
  change world.reach = large at reach
  subst reach
  exact ⟨held.remembering (.refl _) held.memory fun _ => rfl, .refl _, trivial⟩

theorem runPart {part : Thunk} (known : PartKnown extent part) : Keeps extent Known part.run := by
  have stays {large : Extent} (fits : extent.Fits large) :
      part.Names (Tandem.Stays .idle large) := PartKnown.mono known fits
  exact Tandem.keeps_value fun _ fits => Tandem.runPart part (stays fits)

theorem evaluatePass (checked : Bool) {root : Observe Value}
    (each : ∀ large, extent.Fits large →
      Tandem .idle large (Twin FirstLook.idle.moves) root root) :
    Keeps extent Known (Observe.evaluatePass checked root) :=
  Tandem.keeps_value fun _ fits =>
    Tandem.evaluatePass checked fun _ more => each _ (fits.trans more)

theorem evaluateRoot (checked : Bool) {root : Thunk} (known : PartKnown extent root) :
    Keeps extent Known (Observe.evaluatePass checked root.run) := by
  have stays {large : Extent} (fits : extent.Fits large) :
      root.Names (Tandem.Stays .idle large) := PartKnown.mono known fits
  exact evaluatePass checked fun _ fits => Tandem.runPart root (stays fits)

theorem refGet (id : RefId) : Keeps extent Known (Observe.refGet id) :=
  Tandem.keeps_value fun _ _ => Tandem.refGet id

theorem refPeek (id : RefId) : Keeps extent Known (Observe.refPeek id) :=
  Tandem.keeps_value fun _ _ => Tandem.refPeek id

section Rendering

variable (keeps : runner.Keeps)
include keeps

theorem compileFor (there : id < extent.views) (known : Known extent value) :
    Keeps extent Known (Act.compileFor runner id value) := by
  refine bind (stopResolvers there) fun e₁ _ f₁ _ => ?_
  refine bind newEffectScope fun e₂ resolvers f₂ _ => ?_
  refine bind (modifyNotes id fun _ => ⟨rfl, rfl, rfl, rfl, rfl⟩) fun e₃ _ f₃ _ => ?_
  refine bind newStore fun e₄ store f₄ stored => ?_
  refine bind (modifyView id fun _ view fits ⟨environment, library, data, _, output⟩ => ?_) ?_
  · exact ⟨environment, library, data, Nat.lt_of_lt_of_le stored fits.liveMaps, output⟩
  intro e₅ _ f₅ _
  have before := ((f₁.trans f₂).trans f₃).trans (f₄.trans f₅)
  refine bind (viewAt (lt_of_fits_views there before)) fun e₆ view f₆ within => ?_
  have compiler : Compiler.Within e₆
      ⟨view.data, store, view.library, view.environment, none, [], 0⟩ :=
    ⟨within.data, Nat.lt_of_lt_of_le stored (f₅.trans f₆).liveMaps, within.library,
      within.environment⟩
  refine bind (newCompiler compiler) fun e₇ compiler f₇ made => ?_
  have compiled : Keeps e₇ PartKnown (do
      let scope ← Act.observe (Observe.newScope "root")
      Act.compileSchema runner compiler [scope] value) :=
    bind (observe (newScope "root")) fun _ _ fits _ =>
      compileSchema keeps (Nat.lt_of_lt_of_le made fits.compilers) _
        (known.mono ((before.trans (f₆.trans f₇)).trans fits))
  refine bind (ReactiveSchema.Keeps.within abiding_part resolvers compiled) fun e₈ root f₈ parts => ?_
  refine bind (modifyNotes id fun _ => ⟨rfl, rfl, rfl, rfl, rfl⟩) fun e₉ _ f₉ _ => ?_
  refine bind get fun e₁₀ world f₁₀ _ => ?_
  have ahead := f₈.trans (f₉.trans f₁₀)
  refine bind (compilerAt (Nat.lt_of_lt_of_le made ahead.compilers)) fun e₁₁ _ f₁₁ _ => ?_
  refine bind (observe (log _)) fun e₁₂ _ f₁₂ _ => ?_
  exact newClosure (PartKnown.mono parts (f₉.trans (f₁₀.trans (f₁₁.trans f₁₂))))

theorem compileView (there : id < extent.views) :
    Keeps extent Anything (Act.compileView runner id) := by
  refine bind (viewAt there) fun e₁ view f₁ _ => ?_
  refine bind (observe (refGet _)) fun e₂ schema f₂ known => ?_
  have there := lt_of_fits_views there (f₁.trans f₂)
  refine bind (untracked abiding_known (compileFor keeps there known)) fun e₃ root f₃ roots => ?_
  refine bind (viewAt (lt_of_fits_views there f₃)) fun e₄ view f₄ _ => ?_
  exact refSet keeps _ (roots.mono f₄)

theorem callListener (id : ListenerId) (known : Known extent value) :
    Keeps extent Anything (Act.callListener runner id value) := by
  refine bind get fun e₁ world f₁ _ => ?_
  split
  · exact done
  · refine bind (observe (html (known.mono f₁))) fun e₂ text f₂ _ => ?_
    refine bind (besides (fun _ => rfl) fun _ _ _ held => ?_) fun e₃ _ f₃ _ => ?_
    · obtain ⟨memory, bodies, closures, environments, compilers, views, chosen, names⟩ := held
      exact ⟨memory, bodies, closures, environments, compilers, views, chosen, names⟩
    split
    · refine bind (besides (fun _ => rfl) fun _ _ _ held => ?_) fun e₄ _ f₄ _ => ?_
      · obtain ⟨memory, bodies, closures, environments, compilers, views, chosen, names⟩ := held
        exact ⟨memory, bodies, closures, environments, compilers, views, chosen, names⟩
      exact bind (keeps trivial) fun _ _ _ _ => done
    · exact done

theorem callListeners (known : Known extent value) (listeners : List ListenerId) :
    Keeps extent Anything (Act.callListeners runner value listeners) := by
  induction listeners generalizing extent with
  | nil => exact done
  | cons id rest ih =>
      exact bind (callListener keeps id known) fun _ _ fits _ => ih (known.mono fits)

theorem renderView (there : id < extent.views) :
    Keeps extent Anything (Act.renderView runner id) := by
  refine bind (viewAt there) fun e₁ view f₁ _ => ?_
  refine bind (observe (refGet _)) fun e₂ closure f₂ _ => ?_
  refine bind (thunkOf closure) fun e₃ root f₃ parts => ?_
  refine bind (isChecked view) fun e₄ checked f₄ _ => ?_
  refine bind (observe (evaluateRoot checked (PartKnown.mono parts f₄))) fun e₅ output f₅ known => ?_
  refine bind (modifyView id fun _ _ fits ⟨environment, library, data, store, _⟩ => ?_) ?_
  · exact ⟨environment, library, data, store, known.mono fits⟩
  intro e₆ _ f₆ _
  have before := ((f₁.trans f₂).trans f₃).trans ((f₄.trans f₅).trans f₆)
  refine bind (viewAt (lt_of_fits_views there before)) fun e₇ view f₇ _ => ?_
  refine bind (observe (log _)) fun e₈ _ f₈ _ => ?_
  exact untracked abiding_anything
    (callListeners keeps (known.mono (f₆.trans (f₇.trans f₈))) _)

/-! ## Mounting -/

omit keeps in
theorem newView {view : View} (within : view.Within extent) :
    Keeps extent (fun large id => id < large.views) (MonadState.modifyGet fun world : World =>
      (world.views.size, { world with views := world.views.push view }) : Act ViewId) := by
  refine modifyGet fun large world fits held reach => ?_
  change world.reach = large at reach
  subst reach
  have grown : world.reach.Fits (World.reach { world with views := world.views.push view }) :=
    ⟨Nat.le_refl _, Nat.le_refl _, Nat.le_refl _, Nat.le_refl _, Nat.le_refl _, Nat.le_refl _,
      by simp [World.reach, Memory.bounds], Nat.le_refl _, Nat.le_refl _⟩
  obtain ⟨memory, bodies, closures, environments, compilers, views, chosen, names⟩ := held.mono grown
  refine ⟨⟨memory, bodies, closures, environments, compilers, fun {other known} found => ?_, chosen,
    names⟩, grown, ?_⟩
  · dsimp only at found
    rw [Array.getElem?_push] at found
    split at found
    · cases found
      exact within.mono (fits.trans grown)
    · exact views found
  · show world.views.size < _
    simp [Bounded.bounds, World.reach, Memory.bounds]

theorem mount {environment : EnvironmentId} {schema data : Value}
    {library : List (String × Value)} (there : environment < extent.environments)
    (schemas : Known extent schema) (known : Known extent data)
    (libraries : NamedKnown extent library) :
    Keeps extent (fun large id => id < large.views)
      (Act.mount runner environment schema data library) := by
  refine bind (R := Known) (observe ?live) fun e₁ data f₁ given => ?_
  case live =>
    split
    · exact bind (newMap .nil) fun _ _ _ made => makeLive made
    · exact makeLive known
  refine bind (observe (newRef (schemas.mono f₁))) fun e₂ schema f₂ _ => ?_
  have nothing : Closure.Within e₂ (.thunk .nothing) := Twin.none
  refine bind (newClosure nothing) fun e₃ closure f₃ closed => ?_
  refine bind (observe (newRef closed)) fun e₄ root f₄ _ => ?_
  refine bind newStore fun e₅ store f₅ stored => ?_
  have before := (f₁.trans f₂).trans (f₃.trans (f₄.trans f₅))
  have view : View.Within e₅
      ⟨environment, library, data, schema, root, store, none, [], .none, 0, 0, 0, 0⟩ :=
    ⟨Nat.lt_of_lt_of_le there before.environments, libraries.mono before,
      given.mono (f₂.trans (f₃.trans (f₄.trans f₅))), stored, .none⟩
  refine bind (newView view) fun e₆ id f₆ made => ?_
  refine bind (newMember (show Body.Within _ (.compile id) from made) .pre) fun e₇ compiles f₇ _ => ?_
  refine bind (modifyNotes id fun _ => ⟨rfl, rfl, rfl, rfl, rfl⟩) fun e₈ _ f₈ _ => ?_
  refine bind (runEffect keeps compiles) fun e₉ _ f₉ _ => ?_
  have made := lt_of_fits_views made ((f₇.trans f₈).trans f₉)
  refine bind (newMember (show Body.Within _ (.render id) from made) .post) fun e₁₀ renders f₁₀ _ => ?_
  refine bind (modifyNotes id fun _ => ⟨rfl, rfl, rfl, rfl, rfl⟩) fun e₁₁ _ f₁₁ _ => ?_
  refine bind (runEffect keeps renders) fun e₁₂ _ f₁₂ _ => pure fun _ last => ?_
  exact lt_of_fits_views made ((f₁₀.trans f₁₁).trans (f₁₂.trans last))

omit keeps in
theorem unmount (there : id < extent.views) : Keeps extent Anything (Act.unmount id) := by
  refine bind (viewAt there) fun e₁ view f₁ _ => ?_
  refine bind (stopEffect _) fun e₂ _ f₂ _ => ?_
  refine bind (stopEffect _) fun e₃ _ f₃ _ => ?_
  refine bind (stopResolvers (lt_of_fits_views there ((f₁.trans f₂).trans f₃))) fun e₄ _ f₄ _ => ?_
  exact modifyNotes id fun _ => ⟨rfl, rfl, rfl, rfl, rfl⟩

theorem renderOnce {environment : EnvironmentId} {schema data : Value}
    {library : List (String × Value)} (there : environment < extent.environments)
    (schemas : Known extent schema) (known : Known extent data)
    (libraries : NamedKnown extent library) :
    Keeps extent Known (Act.renderOnce runner environment schema data library) := by
  refine bind (mount keeps there schemas known libraries) fun _ id _ made => ?_
  refine bind (viewAt made) fun _ view f₁ within => ?_
  refine bind (unmount (lt_of_fits_views made f₁)) fun _ _ f₂ _ => ?_
  exact pure fun _ last => within.output.mono (f₂.trans last)

theorem setSchema (there : id < extent.views) (known : Known extent value) :
    Keeps extent Anything (Act.setSchema runner id value) :=
  bind (viewAt there) fun _ _ fits _ => refSet keeps _ (known.mono fits)

omit keeps in
theorem renderNow (there : id < extent.views) : Keeps extent Known (Act.renderNow id) := by
  refine untracked abiding_known (bind (viewAt there) fun e₁ view f₁ _ => ?_)
  refine bind (observe (refPeek _)) fun e₂ closure f₂ _ => ?_
  refine bind (thunkOf closure) fun e₃ root f₃ parts => ?_
  exact bind (isChecked view) fun e₄ checked f₄ _ =>
    observe (evaluateRoot checked (PartKnown.mono parts f₄))

omit keeps in
theorem isMounted (there : id < extent.views) : Keeps extent Anything (Act.isMounted id) :=
  bind get fun _ _ fits _ => bind (viewAt (lt_of_fits_views there fits)) fun _ _ _ _ => done

omit keeps in
theorem subscribe (id : ViewId) (listener : ListenerId) :
    Keeps extent Known (Act.subscribe id listener) :=
  bind (modifyNotes id fun _ => ⟨rfl, rfl, rfl, rfl, rfl⟩) fun _ _ _ _ => newClosure trivial

omit keeps in
theorem callClosure (id : Nat) : Keeps extent Known (Act.callClosure id) := by
  refine bind get fun large world fits held => ?_
  split
  · exact pure fun _ _ => .none
  case h_2 part found =>
    exact observe (runPart (World.Within.closures held.1 found))
  · refine bind (modifyNotes _ fun _ => ⟨rfl, rfl, rfl, rfl, rfl⟩) fun _ _ _ _ => ?_
    exact pure fun _ _ => .none

end Rendering

end Keeps

end ReactiveSchema
