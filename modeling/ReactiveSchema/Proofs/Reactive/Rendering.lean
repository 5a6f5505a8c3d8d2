import ReactiveSchema.Proofs.Reactive.Deriving
import ReactiveSchema.Proofs.Reactive.NoLostWake
import ReactiveSchema.Proofs.Reactive.SingleWrite

/-!
# Rendering what was derived

Working the queues off has two phases.  First all effects run that derive values; they
queue one another and the effects that render.  Rendering then only reads: it queues
nothing, so each effect that waits to render runs once, and sees derived values that are
all up to date.
-/

namespace ReactiveSchema

/-! ## Looking on -/

/-- The running effect may have read, and listeners have kept their steps. -/
structure Beholds (before after : World) : Prop where
  tracked : ∃ deps, after.reactor = before.reactor.trackAll deps
  steps (id : ListenerId) : after.stepsOf id = before.stepsOf id

/-- Steps that only look, however effects are carried out. -/
def Looking (steps : List Action) : Prop :=
  ∀ runner, Along (Busily Beholds) (Action.perform.performSteps runner .none steps)

/-- Views derive values early and render late; programs may be anything that only looks. -/
def Body.Fits : Body → Timing → Prop
  | .resolve .., timing | .compile _, timing => timing = .pre
  | .render _, timing => timing = .post
  | .program _ steps, _ => Looking steps

/-- All effects are those of views, or only look, and so do all listeners. -/
structure Gentle (world : World) : Prop where
  listeners {id : ListenerId} {steps : List Action} :
    world.stepsOf id = some steps → Looking steps
  effects {effect : EffectId} {body : Body} {timing : Timing} :
    world.reactor.kindOf effect = some (body, timing) → body.Fits timing

/-- What happens in a gentle world while effects are put off. -/
def Gently (R : World → World → Prop) (before after : World) : Prop :=
  Gentle before → before.reactor.idle = false → R before after

variable {before middle after world : World} {runner : Runner} {effect : EffectId}
  {flushLimit nesting : Nat}

theorem Meek.gentle (meek : Meek before after) (gentle : Gentle before) : Gentle after where
  listeners {id steps} found := gentle.listeners ((meek.steps id).symm.trans found)
  effects {effect body timing} found := by
    rcases meek.kinds effect with same | ⟨-, cell, data, store, scopes, path, known⟩
    · exact gentle.effects (same.symm.trans found)
    · rw [known] at found
      cases found
      rfl

namespace Beholds

theorem refl (world : World) : Beholds world world :=
  ⟨⟨[], rfl⟩, fun _ => rfl⟩

theorem trans (first : Beholds before middle) (second : Beholds middle after) :
    Beholds before after := by
  obtain ⟨deps, tracked⟩ := first.tracked
  obtain ⟨more, tracked'⟩ := second.tracked
  refine ⟨⟨deps ++ more, ?_⟩, fun id => (second.steps id).trans (first.steps id)⟩
  rw [tracked', tracked]
  unfold Reactor.trackAll
  rw [List.foldl_append]

theorem meek (beholds : Beholds before after) : Meek before after := by
  obtain ⟨deps, tracked⟩ := beholds.tracked
  exact meek_of_signals _ (tracked.trans (Reactor.trackAll_eq_signalAll _ deps)) beholds.steps

end Beholds

theorem composable_gently_beholds : Composable (Gently Beholds) where
  refl world _ _ := .refl world
  trans first second gentle busy :=
    have begun := first gentle busy
    begun.trans (second (begun.meek.gentle gentle) (begun.meek.toKept.idle.trans busy))

namespace Act

variable {α : Type}

theorem beholds_observe (look : Observe α) : Along Beholds (observe look) :=
  fun _ => ⟨⟨_, rfl⟩, fun _ => rfl⟩

theorem beholds_untracked {body : Act α} (each : Along (Gently Beholds) body) :
    Along (Gently Beholds) (untracked body) := by
  intro world gentle busy
  obtain ⟨⟨deps, tracked⟩, steps⟩ := each (world.withReactor (.asEffect none))
    ⟨gentle.listeners, gentle.effects⟩ busy
  unfold untracked
  rw [run_withActiveEffect]
  refine ⟨⟨[], ?_⟩, steps⟩
  rw [World.withReactor_reactor, tracked, Reactor.trackAll_of_none deps rfl]
  rfl

theorem respectedByRendering_gently_beholds
    (performs : ∀ name steps, Looking steps →
      Along (Busily Beholds) (runner.perform (.program name steps))) :
    RespectedByRendering runner Looking fun _ => Along (Gently Beholds) where
  toClosed := composable_gently_beholds.closed
  observe _ world _ _ := beholds_observe _ world
  beside same world _ _ :=
    ⟨⟨[], (same world).reactor⟩, World.stepsOf_of_listeners (same world).listeners⟩
  untracked := beholds_untracked
  hearing each world gentle busy :=
    each world (fun _ _ found => gentle.listeners found) world gentle busy
  calledOnce id world _ _ := ⟨⟨[], rfl⟩, world.stepsOf_calledOnce id⟩
  perform name steps looking world _ := performs name steps looking world

end Act

/-! ## What reading leaves alone -/

namespace Reactor

variable {β : Type} {reactor : Reactor β} {dep : DepId} {effect other : EffectId}

theorem found_trackAll (deps : List DepId) (apart : some other ≠ reactor.activeEffect) :
    (reactor.trackAll deps).effects[other]? = reactor.effects[other]? := by
  induction deps generalizing reactor with
  | nil => rfl
  | cons dep rest ih =>
      have once : (reactor.track dep).effects[other]? = reactor.effects[other]? := by
        rcases track_cases reactor dep with same | ⟨running, known, same⟩
        · rw [same]
        · have apart : other ≠ running := fun own => apart (own ▸ known.symm)
          rw [same]
          exact found_modifyEffect _ apart
      refine Eq.trans (ih ?_) once
      rw [(keeps_track reactor dep).activeEffect]
      exact apart

theorem history_track (reactor : Reactor β) (dep : DepId) :
    (reactor.track dep).history = reactor.history ∨
      ∃ running, (reactor.track dep).history = .read running dep :: reactor.history := by
  rcases track_cases reactor dep with same | ⟨running, -, same⟩
  · exact .inl (congrArg history same)
  · exact .inr ⟨running, congrArg history same⟩

/-- A run of an effect begins: no more than its own runs and subscriptions change. -/
structure Begins (effect : EffectId) (before after : Reactor β) : Prop extends Kept before after where
  kinds (other : EffectId) : after.kindOf other = before.kindOf other
  others {other : EffectId} : other ≠ effect → after.effects[other]? = before.effects[other]?
  preQueue : after.preQueue = before.preQueue
  postQueue : after.postQueue = before.postQueue
  began : after.history = .began effect :: before.history

theorem begins_beginRun (reactor : Reactor β) (effect : EffectId) :
    Begins effect reactor (reactor.beginRun effect) where
  toKept := (settles_beginRun reactor effect).toKept
  kinds _ := kindOf_beginRun
  others apart := by
    obtain ⟨subscribers, same⟩ := fields_dropAll effect (reactor.depsOf effect) reactor
    refine (found_modifyEffect _ apart).trans ((found_modifyEffect _ apart).trans ?_)
    rw [same]
  preQueue := (touches_beginRun reactor effect).preQueue
  postQueue := (touches_beginRun reactor effect).postQueue
  began := by
    obtain ⟨effects, subscribers, same⟩ := fields_unsubscribe reactor effect
    unfold beginRun
    rw [same]
    rfl

end Reactor

/-! ## Rendering -/

/-- Effects begin to run, each at most as often as it waits, and tracked state is read. -/
structure Rendered (waiting : List EffectId) (events : List Event) : Prop where
  only {event : Event} : event ∈ events →
    (∃ running dep, event = .read running dep) ∨ ∃ effect, event = .began effect
  often (effect : EffectId) : events.count (.began effect) ≤ waiting.count effect

namespace Rendered

variable {waiting more : List EffectId} {newer older : List Event}

theorem nil : Rendered waiting [] where
  only := nofun
  often _ := Nat.zero_le _

theorem append (first : Rendered waiting older) (second : Rendered more newer) :
    Rendered (waiting ++ more) (newer ++ older) where
  only happened := (List.mem_append.mp happened).elim second.only first.only
  often effect := by
    rw [List.count_append, List.count_append, Nat.add_comm]
    exact Nat.add_le_add (first.often effect) (second.often effect)

theorem read (running : EffectId) (dep : DepId) : Rendered [] [.read running dep] where
  only happened := .inl ⟨running, dep, List.mem_singleton.mp happened⟩
  often effect := by
    rw [List.count_singleton]
    exact Nat.le_of_eq rfl

theorem began (effect : EffectId) : Rendered [effect] [.began effect] where
  only happened := .inr ⟨effect, List.mem_singleton.mp happened⟩
  often other := by
    rw [List.count_singleton, List.count_singleton]
    simp

end Rendered

theorem Reactor.rendered_trackAll {β : Type} (reactor : Reactor β) (deps : List DepId) :
    ∃ reads, (reactor.trackAll deps).history = reads ++ reactor.history ∧ Rendered [] reads := by
  induction deps generalizing reactor with
  | nil => exact ⟨[], rfl, .nil⟩
  | cons dep rest ih =>
      obtain ⟨reads, same, rendered⟩ := ih (reactor.track dep)
      rcases reactor.history_track dep with still | ⟨running, noted⟩
      · exact ⟨reads, same.trans (congrArg (reads ++ ·) still), rendered⟩
      · have all : Rendered [] (reads ++ [.read running dep]) :=
          (Rendered.read running dep).append rendered
        refine ⟨_, ?_, all⟩
        rw [List.append_assoc]
        exact same.trans (congrArg (reads ++ ·) noted)

/-- From one world to another, effects that wait to render have run. -/
structure Renders (waiting : List EffectId) (before after : World) : Prop
    extends Reactor.Kept before.reactor after.reactor where
  steps (id : ListenerId) : after.stepsOf id = before.stepsOf id
  kinds (effect : EffectId) : after.reactor.kindOf effect = before.reactor.kindOf effect
  /-- Effects that derive values are left alone. -/
  early {effect : EffectId} : before.reactor.timingOf effect = .pre →
    after.reactor.effects[effect]? = before.reactor.effects[effect]?
  happened : ∃ events, after.reactor.history = events ++ before.reactor.history ∧
    Rendered waiting events

namespace Renders

variable {waiting more : List EffectId}

theorem timing (renders : Renders waiting before after) (effect : EffectId) :
    after.reactor.timingOf effect = before.reactor.timingOf effect := by
  rw [Reactor.timingOf_eq, Reactor.timingOf_eq, renders.kinds]

theorem trans (first : Renders waiting before middle) (second : Renders more middle after) :
    Renders (waiting ++ more) before after where
  toKept := first.toKept.trans second.toKept
  steps id := (second.steps id).trans (first.steps id)
  kinds effect := (second.kinds effect).trans (first.kinds effect)
  early known := (second.early ((first.timing _).trans known)).trans (first.early known)
  happened := by
    obtain ⟨older, same, rendered⟩ := first.happened
    obtain ⟨newer, same', rendered'⟩ := second.happened
    refine ⟨newer ++ older, ?_, rendered.append rendered'⟩
    rw [same', same, List.append_assoc]

theorem gentle (renders : Renders waiting before after) (gentle : Gentle before) :
    Gentle after where
  listeners {id _} found := gentle.listeners ((renders.steps id).symm.trans found)
  effects {effect _ _} found := gentle.effects ((renders.kinds effect).symm.trans found)

theorem weaken (renders : Renders waiting before after)
    (fewer : ∀ effect, waiting.count effect ≤ more.count effect) : Renders more before after where
  toKept := renders.toKept
  steps := renders.steps
  kinds := renders.kinds
  early := renders.early
  happened := by
    obtain ⟨events, same, rendered⟩ := renders.happened
    exact ⟨events, same, rendered.only, fun effect => Nat.le_trans (rendered.often effect) (fewer effect)⟩

/-- What changes neither history nor effects. -/
theorem of_eq (kept : Reactor.Kept before.reactor after.reactor)
    (steps : ∀ id, after.stepsOf id = before.stepsOf id)
    (effects : after.reactor.effects = before.reactor.effects)
    (history : after.reactor.history = before.reactor.history) : Renders waiting before after where
  toKept := kept
  steps := steps
  kinds _ := Reactor.kindOf_of_effects effects
  early _ := by rw [effects]
  happened := ⟨[], history, .nil⟩

end Renders

namespace Act

/-- A run of an effect that uses values, from its beginning. -/
theorem renders_begun {begun : Reactor Body} {inside : World}
    (begins : Reactor.Begins effect world.reactor begun)
    (late : world.reactor.timingOf effect = .post)
    (beholds : Beholds ((world.withReactor fun _ => begun).withReactor (.asEffect (some effect)))
      inside) :
    Renders [effect] world (inside.withReactor (.asEffect begun.activeEffect)) ∧
      inside.reactor.preQueue = world.reactor.preQueue ∧
        inside.reactor.postQueue = world.reactor.postQueue := by
  have kept := beholds.meek.toKept
  obtain ⟨⟨deps, tracked⟩, steps⟩ := beholds
  obtain ⟨queues, -⟩ := Reactor.touches_trackAll deps
    (rfl : (begun.asEffect (some effect)).activeEffect = some effect)
  obtain ⟨reads, history, rendered⟩ :=
    Reactor.rendered_trackAll (begun.asEffect (some effect)) deps
  refine ⟨?_, ?_, ?_⟩
  · constructor
    case toKept => exact ⟨begins.older.trans kept.older, kept.batchDepth.trans begins.batchDepth,
      kept.flushing.trans begins.flushing, begins.activeEffect,
      kept.activeScope.trans begins.activeScope⟩
    case steps => exact steps
    case kinds =>
      intro other
      change inside.reactor.kindOf other = _
      rw [tracked, Reactor.trackAll_eq_signalAll, Reactor.kindOf_signalAll]
      exact begins.kinds other
    case early =>
      intro other early
      have apart : other ≠ effect := by
        rintro rfl
        rw [late] at early
        cases early
      change inside.reactor.effects[other]? = _
      rw [tracked, Reactor.found_trackAll deps (apart ∘ Option.some.inj)]
      exact begins.others apart
    case happened =>
      have all : Rendered [effect] (reads ++ [.began effect]) :=
        (Rendered.began effect).append rendered
      refine ⟨_, ?_, all⟩
      change inside.reactor.history = _
      rw [tracked, List.append_assoc]
      exact history.trans (congrArg (reads ++ ·) begins.began)
  · rw [tracked]
    exact queues.preQueue.trans begins.preQueue
  · rw [tracked]
    exact queues.postQueue.trans begins.postQueue

/-- A run of an effect that uses values. -/
theorem renders_runEffect {cell : Effect Body} (gentle : Gentle world)
    (busy : world.reactor.idle = false) (found : world.reactor.effects[effect]? = some cell)
    (alive : cell.active = true) (late : cell.timing = .post)
    (each : Along (Gently Beholds) (runner.perform cell.body)) :
    Renders [effect] world ((runEffect runner effect).run world).2 ∧
      ((runEffect runner effect).run world).2.reactor.preQueue = world.reactor.preQueue ∧
        ((runEffect runner effect).run world).2.reactor.postQueue = world.reactor.postQueue := by
  have begins := Reactor.begins_beginRun world.reactor effect
  have late : world.reactor.timingOf effect = .post := by
    unfold Reactor.timingOf
    rw [found, Option.map_some, Option.getD_some, late]
  have same : world.withReactor (·.beginRun effect) =
      world.withReactor fun _ => world.reactor.beginRun effect := rfl
  rw [run_runEffect runner found, if_pos alive, run_withActiveEffect, same]
  generalize world.reactor.beginRun effect = begun at begins ⊢
  have gentle : Gentle ((world.withReactor fun _ => begun).withReactor (.asEffect (some effect))) :=
    ⟨gentle.listeners, fun {other _ _} found =>
      gentle.effects ((begins.kinds other).symm.trans found)⟩
  exact renders_begun begins late (each _ gentle (begins.toKept.idle.trans busy))

end Act

/-! ## Carrying effects out -/

namespace Runner

theorem beholds_program {name : String} {steps : List Action} (looking : Looking steps) :
    Along (Busily Beholds)
      ((Runner.bounded flushLimit nesting).perform (.program name steps)) := by
  cases nesting with
  | zero => exact fun world _ => .refl world
  | succ nesting => exact looking _

/-- Effects that use values look on. -/
theorem beholds_perform {body : Body} (late : body.Fits .post) :
    Along (Gently Beholds) ((Runner.bounded flushLimit nesting).perform body) := by
  cases body with
  | resolve | compile => cases late
  | render view =>
      have path := composable_gently_beholds
      cases nesting with
      | zero => exact path.throw _
      | succ nesting =>
          have respected : RespectedByRendering (.bounded flushLimit nesting) Looking
              fun _ => Along (Gently Beholds) :=
            Act.respectedByRendering_gently_beholds fun _ _ => beholds_program
          refine path.bind (respected.renderView fun _ _ _ _ => ⟨⟨[], rfl⟩, fun _ => rfl⟩) fun _ => ?_
          exact path.pure _
  | program name steps => exact fun world _ => beholds_program late world

/-- Effects that run early derive values. -/
theorem meek_perform {body : Body} (early : body.Fits .pre) :
    Along (Busily Meek) ((Runner.bounded flushLimit nesting).perform body) := by
  cases body with
  | resolve cell data store scopes path => exact meek_resolve cell data store scopes path
  | compile view => exact meek_compile view
  | render view => cases early
  | program name steps => exact fun world busy => (beholds_program early world busy).meek

end Runner

/-! ## Working the queues off -/

namespace Act

/-- The next effect is the first that waits to derive values, or else the first of the others. -/
theorem next?_cases {reactor rest : Reactor Body}
    (found : reactor.next? = some (effect, rest)) :
    reactor.preQueue = effect :: rest.preQueue ∧ reactor.postQueue = rest.postQueue ∨
      reactor.preQueue = [] ∧ rest.preQueue = [] ∧
        reactor.postQueue = effect :: rest.postQueue := by
  unfold Reactor.next? at found
  split at found
  case h_1 waits =>
    cases found
    exact .inl ⟨waits, rfl⟩
  case h_2 settled waits =>
    cases found
    exact .inr ⟨settled, settled, waits⟩
  case h_3 => cases found

/-- Taking an effect off the queues leaves them in order. -/
theorem sorted_next? {reactor rest : Reactor Body}
    (found : reactor.next? = some (effect, rest)) (sorted : reactor.Sorted) : rest.Sorted := by
  have timing (other : EffectId) : rest.timingOf other = reactor.timingOf other := by
    unfold Reactor.timingOf
    rw [(waits_next? found).2.2.2.2]
  rcases next?_cases found with ⟨first, last⟩ | ⟨first, first', last⟩
  · exact sorted.of_sublist (first ▸ List.sublist_cons_self ..) (last ▸ .refl _) timing
  · exact sorted.of_sublist (first' ▸ List.nil_sublist _)
      (last ▸ List.sublist_cons_self ..) timing

theorem renders_drain (limit : Nat) {result : Except Fault Unit} (gentle : Gentle world)
    (busy : world.reactor.idle = false) (sorted : world.reactor.Sorted)
    (settled : world.reactor.preQueue = [])
    (ran : (drain (.bounded flushLimit nesting) limit).run world = (result, after)) :
    Renders world.reactor.postQueue world after := by
  have still (world : World) : Renders world.reactor.postQueue world world :=
    .of_eq (.refl _) (fun _ => rfl) rfl rfl
  induction limit generalizing world with
  | zero =>
      obtain ⟨-, rfl⟩ := Prod.mk.inj ran
      exact still world
  | succ limit ih =>
      cases found : world.reactor.next? with
      | none =>
          rw [run_drain_none _ limit found] at ran
          obtain ⟨-, rfl⟩ := Prod.mk.inj ran
          exact still world
      | some entry =>
          obtain ⟨effect, rest⟩ := entry
          obtain ⟨-, settled', waits⟩ := (next?_cases found).resolve_left fun ⟨first, _⟩ => by
            rw [settled] at first
            cases first
          have taken : Renders [] world (world.withReactor fun _ => rest) :=
            .of_eq (Reactor.kept_next? found) (fun _ => rfl) (waits_next? found).2.2.2.2
              (Reactor.fields_next? found).1
          have late : rest.timingOf effect = .post :=
            (taken.timing effect).trans (sorted.post (waits ▸ List.mem_cons_self))
          have sorted : rest.Sorted := sorted_next? found sorted
          have gentle := taken.gentle gentle
          have busy := taken.toKept.idle.trans busy
          rw [run_drain_next _ limit found] at ran
          rw [waits]
          split at ran
          case isTrue active =>
            obtain ⟨cell, known, alive⟩ := Reactor.found_of_isActive active
            have kind := Reactor.kindOf_of_found known
            have fits := gentle.effects kind
            rw [Reactor.timingOf_eq, kind] at late
            have late : cell.timing = .post := late
            rw [late] at fits
            obtain ⟨renders, first, last⟩ := renders_runEffect gentle busy known alive late
              (Runner.beholds_perform fits)
            rw [run_bind] at ran
            rcases begun : (runEffect (.bounded flushLimit nesting) effect).run
              (world.withReactor fun _ => rest) with ⟨fault | value, middle⟩ <;>
                rw [begun] at ran renders first last
            · obtain ⟨-, rfl⟩ := Prod.mk.inj ran
              refine (taken.trans renders).weaken fun other => ?_
              exact (List.singleton_sublist.mpr List.mem_cons_self).count_le _
            · have sorted : middle.reactor.Sorted := sorted.of_sublist (first ▸ .refl _)
                (last ▸ .refl _) renders.timing
              have rested := ih (renders.gentle gentle) (renders.toKept.idle.trans busy) sorted
                (first.trans settled') ran
              rw [last] at rested
              exact taken.trans (renders.trans rested)
          case isFalse =>
            exact taken.trans (ih gentle busy sorted settled' ran) |>.weaken fun other =>
              List.count_le_count_cons ..

/--
Effects that derive values run first, and leave all of their kind up to date; then those run
that use values.
-/
theorem phases_drain (limit : Nat) (gentle : Gentle world) (busy : world.reactor.idle = false)
    (sorted : world.reactor.Sorted) (watched : world.reactor.Watched fun _ => False)
    (ran : (drain (.bounded flushLimit nesting) limit).run world = (.ok (), after))
    (calm : .cutShort ∉ after.reactor.history) :
    ∃ settled, Meek world settled ∧ settled.reactor.preQueue = [] ∧
      settled.reactor.Watched (fun _ => False) ∧
        Renders settled.reactor.postQueue settled after := by
  have performs := (respected_bounded_keepsWorld flushLimit nesting).perform
  induction limit generalizing world with
  | zero => cases ran
  | succ limit ih =>
      have render (settled : world.reactor.preQueue = []) :
          ∃ settled, Meek world settled ∧ settled.reactor.preQueue = [] ∧
            settled.reactor.Watched (fun _ => False) ∧
              Renders settled.reactor.postQueue settled after :=
        ⟨world, .refl world, settled, watched, renders_drain _ gentle busy sorted settled ran⟩
      cases found : world.reactor.next? with
      | none => exact render (not_waits_of_next?_none found).1
      | some entry =>
          obtain ⟨effect, rest⟩ := entry
          rcases next?_cases found with ⟨waits, -⟩ | ⟨settled, -⟩
          case inr => exact render settled
          case inl =>
          have effects := (waits_next? found).2.2.2.2
          have taken : Meek world (world.withReactor fun _ => rest) := {
            Reactor.kept_next? found with
            steps := fun _ => rfl
            kinds := fun _ => .inl (Reactor.kindOf_of_effects effects)
            unrun := fun _ => Reactor.not_since (Reactor.fields_next? found).1
            sorted := sorted_next? found }
          have early : rest.timingOf effect = .pre :=
            (taken.timing effect).trans (sorted.pre (waits ▸ List.mem_cons_self))
          have sorted : rest.Sorted := sorted_next? found sorted
          have gentle := taken.gentle gentle
          have busy := taken.toKept.idle.trans busy
          have due := Reactor.watched_next? found watched
          rw [run_drain_next _ limit found] at ran
          split at ran
          case isTrue active =>
            obtain ⟨cell, known, alive⟩ := Reactor.found_of_isActive active
            have kind := Reactor.kindOf_of_found known
            have fits := gentle.effects kind
            rw [Reactor.timingOf_eq, kind] at early
            have early : cell.timing = .pre := early
            rw [early] at fits
            obtain ⟨value, middle, begun, ran⟩ := run_bind_ok ran
            have derives : Along (Busily Meek) ((Runner.bounded flushLimit nesting).perform
              cell.body) := Runner.meek_perform fits
            have run := meek_runEffect _ known early derives busy
            have cared := settles_runEffect performs effect (world.withReactor fun _ => rest)
            rw [begun] at run cared
            have calm := (drain_spec performs limit ran).1.calm calm
            obtain ⟨settled, meek, rested⟩ := ih (run.gentle gentle) (run.toKept.idle.trans busy)
              (run.sorted sorted) (cared.watched calm _ due) ran
            exact ⟨settled, (taken.trans run).trans meek, rested⟩
          case isFalse stopped =>
            have cared := (settles_inactive _ stopped).watched
              ((drain_spec performs limit ran).1.calm calm) _ due
            obtain ⟨settled, meek, rested⟩ := ih gentle busy sorted cared ran
            exact ⟨settled, taken.trans meek, rested⟩

end Act

end ReactiveSchema
