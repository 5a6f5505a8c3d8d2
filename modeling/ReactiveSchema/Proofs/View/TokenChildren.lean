import ReactiveSchema.Proofs.Expr.Refusals
import ReactiveSchema.Proofs.Observe.Unbound
import ReactiveSchema.Proofs.View.Assignment
import ReactiveSchema.Proofs.View.LiteralChildren

/-!
# Tokens inside of elements

What the compiler makes of a lone token inside of an element.  A cell is made for its value, and
an effect that keeps the cell up to date: it looks the token up among cells and keys that nobody
has read before, so that nobody is told of what it writes.
-/

namespace ReactiveSchema

open Observe Text

variable {world : World} {runner : Runner} {tag : String} {value : Value}

/-! ## A lone token as it is run -/

section

variable {memory : Memory} {cell : RefId} {dep : DepId}

/-- The expression that is a lone token, whose value is in a cell. -/
def loneToken (cell : RefId) : BoundExpression :=
  ⟨⟨"$x", ["x"], .token 0⟩, [cell]⟩

/-- Outside of loops a token gives what is in its cell. -/
theorem run_loneToken (known : memory.refs[cell]? = some ⟨value, dep⟩)
    (outside : memory.context = some .fresh) :
    (loneToken cell).evaluate.run memory = (.ok value, memory.reading dep) := by
  have token : ((loneToken cell).token 0).run memory = (.ok value, memory.reading dep) := by
    refine (run_bind_of_ok (run_refGet known)).trans ?_
    have context : context?.run (memory.reading dep) = (.ok (some .fresh), memory.reading dep) := by
      rw [← outside]
      rfl
    exact run_bind_of_ok context
  unfold BoundExpression.evaluate Expression.evaluate
  rw [run_tryCatch]
  have same : (loneToken cell).expression.body.evaluate (loneToken cell).token =
      (loneToken cell).token 0 := rfl
  rw [same, token]

theorem fills_loneToken (known : memory.refs[cell]? = some ⟨value, dep⟩)
    (outside : memory.context = some .fresh) (scalar : value.isScalar = true) :
    (Thunk.text (.expression (loneToken cell))).Fills value.outputText? memory := by
  have ran : (Thunk.text (.expression (loneToken cell))).run.run memory =
      (do return .str (← stringify value) : Observe Value).run (memory.reading dep) := by
    unfold Thunk.run Thunk.run
    exact run_bind_of_ok (run_loneToken known outside)
  unfold Thunk.Fills
  rw [ran, run_bind, run_stringify scalar]
  cases written : value.outputText? with
  | some text => exact .well ⟨rfl, text, rfl, .text text⟩
  | none => exact .badly ⟨rfl, rfl⟩

end

/-! ## Who has read what -/

namespace Reactor

variable {β : Type} {reactor : Reactor β} {dep : DepId} {effect : EffectId}

theorem subscribersOf_trackAll {deps : List DepId} (apart : ∀ other ∈ deps, dep ≠ other) :
    (reactor.trackAll deps).subscribersOf dep = reactor.subscribersOf dep := by
  induction deps generalizing reactor with
  | nil => rfl
  | cons first rest ih =>
      refine (ih fun other known => apart other (List.mem_cons_of_mem _ known)).trans ?_
      exact subscribersOf_track_of_ne (apart first List.mem_cons_self)

theorem subscribersOf_addEffect (body : β) (timing : Timing) (joins : Bool) :
    (reactor.addEffect body timing joins).2.subscribersOf dep = reactor.subscribersOf dep := by
  obtain ⟨scopes, same⟩ := fields_addEffect reactor body timing joins
  rw [same]
  rfl

theorem unread_beginRun (unread : reactor.subscribersOf dep = []) (effect : EffectId) :
    (reactor.beginRun effect).subscribersOf dep = [] := by
  apply List.eq_nil_iff_forall_not_mem.mpr
  intro other reads
  have reads := mem_subscribersOf_of_beginRun reads
  rw [unread] at reads
  cases reads

end Reactor

/-! ## Cells that nobody has read -/

/-- A change after which nobody has read what nobody had read before, among so much. -/
structure World.Onward (bound : DepId) (before after : World) : Prop where
  unread {dep : DepId} : dep < bound → before.reactor.subscribersOf dep = [] →
    after.reactor.subscribersOf dep = []
  running : after.reactor.activeEffect = before.reactor.activeEffect
  views : after.views = before.views
  closures : after.closures = before.closures
  compilers : after.compilers = before.compilers
  rest : after.memory.settled = after.memory

namespace Act

theorem run_refSet_unheard (runner : Runner) {cell : RefId} {found : RefCell} {content : Value}
    (known : world.memory.refs[cell]? = some found) (rest : world.memory.settled = world.memory)
    (changed : ∀ memory : Memory, memory.Gives (hasChanged found.content content) true)
    (unheard : world.reactor.subscribersOf found.dep = []) :
    (refSet runner cell content).run world = (.ok (), (world.withContent cell content).withReactor
      (·.note (.told found.dep world.reactor.activeEffect))) := by
  have compared := run_observe_gives rest (changed (world.memory.seeing world.outlook))
  have written : (observe (setRef cell content)).run world =
      (.ok (), world.withContent cell content) := by
    rw [run_observe]
    have unread : ((setRef cell content).run (world.memory.seeing world.outlook)).2.reads = [] :=
      World.unread_of_rest rest
    rw [unread]
    rfl
  unfold refSet
  rw [run_bind_of_ok (run_get world)]
  dsimp only
  rw [known]
  refine (run_bind_of_ok compared).trans ?_
  rw [if_pos rfl]
  refine (run_bind_of_ok written).trans ?_
  rw [run_trigger]
  have nobody : (world.withContent cell content).reactor.subscribersOf found.dep = [] := unheard
  rw [nobody]
  rfl

variable {store face : LiveMapId} {name : String} {value : Value}

/-- Looking a token up for the first time. -/
theorem run_find_offered (offers : world.memory.Offers store face name value)
    (rest : world.memory.settled = world.memory) (scopes : ScopePath) :
    ∃ after, (observe (findInScopes store scopes (.liveMap face) [name])).run world =
        (.ok value, after) ∧ Begins world.memory.refs after.memory.refs ∧
      World.Onward world.memory.depCount world after := by
  have seeing : (world.memory.seeing world.outlook).Offers store face name value :=
    offers.begins (begins_refl _) (begins_refl _)
  obtain ⟨memory, ran, reads⟩ := seeing.run_findInScopes (World.unread_of_rest rest) scopes
  refine ⟨{ world with
    memory := memory.settled
    reactor := world.reactor.trackAll memory.reads.reverse }, ?_, reads.grows.refs, ?_⟩
  · rw [run_observe, ran]
  · constructor
    case unread =>
      intro dep low unread
      refine Eq.trans (Reactor.subscribersOf_trackAll ?_) unread
      rintro _ read rfl
      exact absurd (reads.reads (List.mem_reverse.mp read)) (Nat.not_le_of_lt low)
    case running => exact (Reactor.keeps_trackAll world.reactor _).activeEffect
    all_goals rfl

/-- A cell that nobody has read is brought up to date. -/
theorem run_updateCell_offered (runner : Runner) {cell : RefId} {dep : DepId}
    (offers : world.memory.Offers store face name value)
    (rest : world.memory.settled = world.memory)
    (known : world.memory.refs[cell]? = some ⟨.none, dep⟩) (inside : dep < world.memory.depCount)
    (unheard : world.reactor.subscribersOf dep = []) (scopes : ScopePath) :
    ∃ after, (updateCell runner cell (.liveMap face) store scopes [name]).run world =
        (.ok (), after) ∧ after.memory.refs[cell]? = some ⟨value, dep⟩ ∧
      (∀ {other : RefId} {found : RefCell}, other ≠ cell →
        world.memory.refs[other]? = some found → after.memory.refs[other]? = some found) ∧
      World.Onward world.memory.depCount world after := by
  obtain ⟨looked, ran, refs, onward⟩ := run_find_offered offers rest scopes
  have still := refs _ _ known
  have set : (updateCell runner cell (.liveMap face) store scopes [name]).run world =
      (refSet runner cell value).run looked := by
    refine (run_bind_of_ok ran).trans ?_
    have scalar := offers.scalar
    cases value <;> first | rfl | cases scalar
  have unread := onward.unread inside unheard
  by_cases same : value = .none
  · subst same
    refine ⟨looked, set.trans ?_, still, fun _ known => refs _ _ known, onward⟩
    have compared : (observe (hasChanged .none .none)).run looked = (.ok false, looked) :=
      run_observe_gives onward.rest rfl
    unfold refSet
    rw [run_bind_of_ok (run_get looked)]
    dsimp only
    rw [still]
    exact run_bind_of_ok compared
  · have changed (memory : Memory) : memory.Gives (hasChanged .none value) true := by
      refine (run_hasChanged rfl memory).trans ?_
      have scalar := offers.scalar
      cases value <;> first | exact absurd rfl same | rfl | cases scalar
    have written := run_refSet_unheard runner still onward.rest changed unread
    have modified (other : RefId) : (looked.withContent cell value).memory.refs[other]? =
        if cell = other then
          looked.memory.refs[other]?.map fun found => { found with content := value }
        else looked.memory.refs[other]? := Array.getElem?_modify
    refine ⟨_, set.trans written, ?_, ?_, ?_⟩
    · refine (modified cell).trans ?_
      rw [if_pos rfl, still]
      rfl
    · intro other found apart known
      refine (modified other).trans ?_
      rw [if_neg (Ne.symm apart)]
      exact refs _ _ known
    · exact ⟨onward.unread, onward.running, onward.views, onward.closures, onward.compilers, rfl⟩

/-- A token that nothing binds gets a cell with its value. -/
theorem run_resolve_offered (limit nesting : Nat)
    (offers : world.memory.Offers store face name value) (calm : world.reactor.activeEffect = none)
    (unknown : world.reactor.subscribersOf world.memory.depCount = []) (scopes : ScopePath)
    (simple : splitToken name = [name]) :
    ∃ dep after,
      (resolve (.bounded limit (nesting + 1)) (.liveMap face) store scopes name).run world =
        (.ok world.memory.refs.size, after) ∧
      after.memory.refs[world.memory.refs.size]? = some ⟨value, dep⟩ ∧
      Begins world.memory.refs after.memory.refs ∧
      World.Onward world.memory.depCount world after := by
  let made := world.withMemory (world.memory.withRef .none).settled
  let body : Body := .resolve world.memory.refs.size (.liveMap face) store scopes [name]
  let added := made.withReactor fun reactor => (reactor.addEffect body .pre true).2
  let effect := (world.reactor.addEffect body .pre true).1
  have active : (added.withReactor (·.beginRun effect)).reactor.activeEffect = none := by
    refine (Reactor.settles_beginRun added.reactor effect).activeEffect.trans ?_
    obtain ⟨scopes, same⟩ := Reactor.fields_addEffect world.reactor body .pre true
    exact (congrArg (fun pair => pair.2.activeEffect) same).trans calm
  have unread {dep : DepId} (unread : world.reactor.subscribersOf dep = []) :
      (added.begun effect).reactor.subscribersOf dep = [] := by
    refine Reactor.unread_beginRun ?_ effect
    exact (Reactor.subscribersOf_addEffect body .pre true).trans unread
  have offered : (added.begun effect).memory.Offers store face name value :=
    offers.begins (begins_refl _) (begins_refl _)
  obtain ⟨last, updated, held, others, onward⟩ := run_updateCell_offered
    (.bounded limit nesting) offered rfl Array.getElem?_push_size (Nat.lt_succ_self _)
    (unread unknown) scopes
  refine ⟨world.memory.depCount, last.withReactor (.asEffect none), ?_, held, ?_, ?_⟩
  · have found : added.reactor.effects[effect]? = some ⟨body, .pre, true, 0, []⟩ :=
      Reactor.found_addEffect world.reactor body .pre true
    have performed : ((Runner.bounded limit (nesting + 1)).perform body).run
        (added.begun effect) = (.ok .none, last) := run_bind_of_ok updated
    have ran : (runEffect (.bounded limit (nesting + 1)) effect).run added =
        (.ok .none, last.withReactor (.asEffect none)) := by
      rw [run_runEffect _ found, if_pos rfl, run_withActiveEffect, active]
      exact congrArg (fun ran => (ran.1, ran.2.withReactor (.asEffect none))) performed
    have watched : (watch (.bounded limit (nesting + 1)) body .pre).run made =
        (.ok effect, last.withReactor (.asEffect none)) :=
      (run_bind_of_ok (run_newMember body .pre made)).trans (run_bind_of_ok ran)
    unfold resolve
    rw [simple]
    exact (run_bind_of_ok (run_newRef calm .none)).trans (run_bind_of_ok watched)
  · intro other found known
    have early : other < world.memory.refs.size := (Array.getElem?_eq_some_iff.mp known).1
    exact others (Nat.ne_of_lt early) (begins_push _ _ _ _ known)
  · constructor
    case unread =>
      intro dep low free
      exact onward.unread (Nat.lt_succ_of_lt low) (unread free)
    case running => exact calm.symm
    case rest => exact onward.rest
    · exact onward.views
    · exact onward.closures
    · exact onward.compilers

end Act

/-! ## Compiling a lone token -/

theorem gives_compileSource_loneToken (memory : Memory) :
    memory.Gives (compileSource "$x") ⟨"$x", ["x"], .token 0⟩ := by
  refine run_compileSource_ok ?_ memory
  have trimmed : trimBlanks "$x".toList = ['$', 'x'] := by decide
  rw [trimmed]
  cbv

namespace Act

theorem run_compileLeaf_token {compiler : Compiler} {id : CompilerId} {face : LiveMapId}
    (limit nesting : Nat) (found : world.compilers[id]? = some compiler)
    (data : compiler.data = .liveMap face)
    (offers : world.memory.Offers compiler.store face "x" value)
    (rest : world.memory.settled = world.memory) (calm : world.reactor.activeEffect = none)
    (unknown : world.reactor.subscribersOf world.memory.depCount = [])
    (deeper : CompileSchema) (scopes : ScopePath) :
    ∃ dep after,
      (compileLeaf (.bounded limit (nesting + 1)) id deeper scopes tag (.str "$x")).run world =
        (.ok (.node compiler.recorder (.str tag) .nothing
          (.text (.expression (loneToken world.memory.refs.size)))), after) ∧
      after.memory.refs[world.memory.refs.size]? = some ⟨value, dep⟩ ∧
      Begins world.memory.refs after.memory.refs ∧
      World.Onward world.memory.depCount world after := by
  obtain ⟨dep, after, ran, held, refs, onward⟩ :=
    run_resolve_offered limit nesting offers calm unknown scopes (by decide)
  refine ⟨dep, after, ?_, held, refs, onward⟩
  have truth : (observe (Observe.isTrue (.str "$x"))).run world = (.ok true, world) :=
    run_observe_gives rest rfl
  have read : (observe (compileSource "$x")).run world = (.ok ⟨"$x", ["x"], .token 0⟩, world) :=
    run_observe_gives rest (gives_compileSource_loneToken _)
  have compiled : (compileChildren (.bounded limit (nesting + 1)) id deeper scopes (.str "$x")).run
      world = (.ok (.text (.expression (loneToken world.memory.refs.size))), after) := by
    have resolved : (resolveAll (.bounded limit (nesting + 1)) compiler scopes ["x"]).run world =
        (.ok [world.memory.refs.size], after) := by
      rw [← data] at ran
      exact run_bind_of_ok ran
    have expression : (compileExpression (.bounded limit (nesting + 1)) id scopes "$x").run world =
        (.ok (.expression (loneToken world.memory.refs.size)), after) :=
      (run_bind_of_ok read).trans ((run_bind_of_ok (run_compilerAt_of_found found)).trans
        (run_bind_of_ok resolved))
    exact run_bind_of_ok expression
  refine (run_bind_of_ok truth).trans ((run_bind_of_ok compiled).trans ?_)
  exact run_bind_of_ok (run_compilerAt_of_found (onward.compilers ▸ found))

end Act

end ReactiveSchema
