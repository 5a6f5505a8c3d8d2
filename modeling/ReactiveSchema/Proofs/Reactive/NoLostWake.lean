import ReactiveSchema.Proofs.Act.RespectSessions
import ReactiveSchema.Proofs.Reactive.Wake

/-!
# No wake-up is lost

Running effects, queueing them and working the queues off take care of all
effects, however runs, batches and flushes lie inside one another.  So when a
program is over nothing waits, and every active effect is up to date with all
that it has subscribed to.
-/

namespace ReactiveSchema

/-- From one world to another, effects that are `due` are taken care of. -/
abbrev SettlesWorld (due : EffectId → Prop) (before after : World) : Prop :=
  Reactor.Settles due before.reactor after.reactor

/-- From one world to another, all effects are still taken care of. -/
abbrev KeepsWorld (before after : World) : Prop :=
  Reactor.Keeps before.reactor after.reactor

theorem composable_keepsWorld : Composable KeepsWorld where
  refl world := .refl _ (fun _ => id) world.reactor
  trans := Reactor.Keeps.trans

namespace Act

variable {α : Type} {due : EffectId → Prop}

theorem keeps_withActiveEffect (effect : Option EffectId) {body : Act α}
    (each : Along KeepsWorld body) : Along KeepsWorld (withActiveEffect effect body) := by
  intro world
  rw [run_withActiveEffect]
  exact (each (world.withReactor (.asEffect effect))).asEffect

theorem keeps_within (scope : EffectScopeId) {body : Act α} (each : Along KeepsWorld body) :
    Along KeepsWorld (within scope body) := by
  intro world
  rw [run_within]
  exact (each (world.withReactor (.inScope (some scope)))).inScope

/-! ## Runs -/

/-- An effect that is not active needs no care. -/
theorem settles_inactive {effect : EffectId} (world : World)
    (stopped : world.reactor.isActive effect ≠ true) :
    SettlesWorld (· = effect) world world := by
  refine Reactor.Kept.settles (.refl _) rfl rfl fun more watched => ?_
  refine ⟨watched.mirrored, fun {other dep} active read => ?_⟩
  refine (watched.attended active read).mono id id (·.resolve_left ?_) id
  rintro rfl
  exact stopped active

section Working

variable {runner : Runner} (performs : ∀ body, Along KeepsWorld (runner.perform body))
include performs

theorem settles_runEffect (effect : EffectId) (world : World) :
    SettlesWorld (· = effect) world ((runEffect runner effect).run world).2 := by
  cases found : world.reactor.effects[effect]? with
  | none =>
      rw [run_runEffect_missing runner found]
      refine settles_inactive world fun active => ?_
      rw [Reactor.isActive, found] at active
      cases active
  | some cell =>
      rw [run_runEffect runner found]
      split
      case isTrue =>
        have begun := Reactor.settles_beginRun world.reactor effect
        exact begun.thenKeeps (keeps_withActiveEffect (some effect) (performs cell.body)
          (world.withReactor (·.beginRun effect)))
      case isFalse stopped =>
        have idle : SettlesWorld (· = effect) world world := by
          refine settles_inactive world fun active => ?_
          rw [Reactor.isActive, found] at active
          exact stopped active
        exact idle.thenKeeps (performs cell.body world)

theorem keeps_runEffect (effect : EffectId) : Along KeepsWorld (runEffect runner effect) :=
  fun world => (settles_runEffect performs effect world).weaken fun _ => False.elim

/-! ## Queues -/

/-- Working the queues off takes care of all effects, and leaves none waiting. -/
theorem drain_spec (limit : Nat) {world after : World} {result : Except Fault Unit}
    (ran : (drain runner limit).run world = (result, after)) :
    Reactor.Kept world.reactor after.reactor ∧
      (result = .ok () → after.reactor.pending = false ∧
        (.cutShort ∉ after.reactor.history → ∀ more, world.reactor.Watched more →
          after.reactor.Watched more)) := by
  induction limit generalizing world with
  | zero =>
      obtain ⟨rfl, rfl⟩ := Prod.mk.inj ran
      exact ⟨.refl _, fun never => nomatch never⟩
  | succ limit ih =>
      cases found : world.reactor.next? with
      | none =>
          rw [run_drain_none runner limit found] at ran
          obtain ⟨rfl, rfl⟩ := Prod.mk.inj ran
          exact ⟨.refl _, fun _ => ⟨Reactor.pending_of_next?_none found, fun _ _ => id⟩⟩
      | some entry =>
          obtain ⟨effect, rest⟩ := entry
          have taken := Reactor.kept_next? found
          -- the effect that is taken off the queues is due until its run begins
          have goesOn {middle : World} (settled : Reactor.Settles (· = effect) rest middle.reactor)
              (ran : (drain runner limit).run middle = (result, after)) :
              Reactor.Kept world.reactor after.reactor ∧
                (result = .ok () → after.reactor.pending = false ∧
                  (.cutShort ∉ after.reactor.history → ∀ more, world.reactor.Watched more →
                    after.reactor.Watched more)) := by
            obtain ⟨kept, done⟩ := ih ran
            refine ⟨(taken.trans settled.toKept).trans kept, fun well => ?_⟩
            obtain ⟨nothing, watched⟩ := done well
            refine ⟨nothing, fun calm more before => watched calm more ?_⟩
            exact settled.watched (kept.calm calm) more (Reactor.watched_next? found before)
          rw [run_drain_next runner limit found] at ran
          split at ran
          case isTrue =>
            have settled := settles_runEffect performs effect (world.withReactor fun _ => rest)
            rw [run_bind] at ran
            rcases once : (runEffect runner effect).run (world.withReactor fun _ => rest) with
              ⟨fault | value, middle⟩ <;> rw [once] at ran settled
            · obtain ⟨rfl, rfl⟩ := Prod.mk.inj ran
              exact ⟨taken.trans settled.toKept, fun never => nomatch never⟩
            · exact goesOn settled ran
          case isFalse stopped =>
            exact goesOn (settles_inactive (world.withReactor fun _ => rest) stopped) ran

/-- A flush that nothing defers takes care of all effects, and leaves none waiting. -/
theorem flush_spec (world : World) {after : World} {result : Except Fault Unit}
    (idle : world.reactor.idle = true) (ran : (flush runner).run world = (result, after)) :
    KeepsWorld world after ∧
      (.cutShort ∉ after.reactor.history → result = .ok () ∧ after.reactor.pending = false) := by
  have still : world.reactor.flushing = false := by
    unfold Reactor.idle at idle
    simpa using ((Bool.and_eq_true _ _).mp idle).2
  rw [run_flush, run_notingCut] at ran
  rcases drained : (drain runner runner.flushLimit).run (world.withReactor (.whileFlushing true))
    with ⟨fault | value, late⟩ <;> rw [drained] at ran <;>
    obtain ⟨rfl, rfl⟩ := Prod.mk.inj ran <;>
    obtain ⟨kept, done⟩ := drain_spec performs _ drained
  · have cut : Event.cutShort ∈ Event.cutShort :: late.reactor.history := List.mem_cons_self
    refine ⟨Reactor.Kept.settles_of_cut ?_ cut, fun calm => absurd cut calm⟩
    exact ⟨kept.older.trans (List.suffix_cons _ _), kept.batchDepth, still.symm,
      kept.activeEffect, kept.activeScope⟩
  · obtain ⟨nothing, watched⟩ := done rfl
    refine ⟨⟨⟨kept.older, kept.batchDepth, still.symm, kept.activeEffect, kept.activeScope⟩,
      fun calm more before => ?_, fun _ _ _ => nothing⟩, fun _ => ⟨rfl, nothing⟩⟩
    have before := Reactor.watched_none_due.mp before
    have late := watched calm more ⟨before.mirrored, before.attended⟩
    exact ⟨late.mirrored, late.attended⟩

/-- An effect that is scheduled is taken care of; only a fault that cuts a flush short escapes. -/
theorem schedule_spec {effect : EffectId} {world after : World} {result : Except Fault Unit}
    (ran : (schedule runner effect).run world = (result, after)) :
    SettlesWorld (· = effect) world after ∧
      (.cutShort ∉ after.reactor.history → result = .ok ()) := by
  have kept := Reactor.kept_enqueue world.reactor effect
  rw [run_schedule] at ran
  split at ran
  case isTrue idle =>
    obtain ⟨done, well⟩ := flush_spec performs (world.withReactor (·.enqueue effect)) idle ran
    refine ⟨⟨kept.trans done.toKept, fun calm more watched => ?_, fun calm _ _ => (well calm).2⟩,
      fun calm => (well calm).1⟩
    exact done.watched calm more
      (Reactor.watched_none_due.mpr (Reactor.watched_enqueue effect watched))
  case isFalse busy =>
    obtain ⟨rfl, rfl⟩ := Prod.mk.inj ran
    refine ⟨⟨kept, fun _ more watched => Reactor.watched_enqueue effect watched, ?_⟩,
      fun _ => rfl⟩
    exact fun _ _ idle => absurd idle busy

theorem settles_scheduleAll (current : Option EffectId) (effects : List EffectId)
    (world : World) :
    SettlesWorld (fun effect => effect ∈ effects ∧ some effect ≠ current) world
      ((scheduleAll runner current effects).run world).2 := by
  induction effects generalizing world with
  | nil => exact .refl _ (fun _ never => nomatch never.1) world.reactor
  | cons effect rest ih =>
      unfold scheduleAll
      split
      case isTrue other =>
        rw [run_bind]
        rcases once : (schedule runner effect).run world with ⟨fault | value, middle⟩ <;>
          obtain ⟨first, well⟩ := schedule_spec performs once
        · have cut : Event.cutShort ∈ middle.reactor.history :=
            Classical.not_not.mp fun calm => nomatch well calm
          exact first.toKept.settles_of_cut cut
        · refine (first.trans (ih middle)).weaken ?_
          rintro other ⟨known, apart⟩
          exact (List.mem_cons.mp known).imp_right fun later => ⟨later, apart⟩
      case isFalse own =>
        refine (ih world).weaken ?_
        rintro other ⟨known, apart⟩
        refine ⟨(List.mem_cons.mp known).resolve_left ?_, apart⟩
        rintro rfl
        exact own (by simpa using apart)

theorem keeps_trigger (dep : DepId) : Along KeepsWorld (trigger runner dep) := by
  intro world
  rw [run_trigger]
  have all := settles_scheduleAll performs world.reactor.activeEffect
    (world.reactor.subscribersOf dep)
    (world.withReactor (·.note (.told dep world.reactor.activeEffect)))
  have told := Reactor.kept_note world.reactor (.told dep world.reactor.activeEffect)
  refine ⟨told.trans all.toKept, fun calm more watched => ?_, ?_⟩
  · refine all.watched calm more (Reactor.watched_told dep ?_)
    exact Reactor.watched_none_due.mp watched
  · exact fun calm quiet => all.quiet calm quiet

/-! ## Batches -/

theorem keeps_batch {body : Act α} (each : Along KeepsWorld body) :
    Along KeepsWorld (batch runner body) := by
  intro world
  have inside := each (world.withReactor .deeper)
  rw [run_batch, run_ensuring]
  rcases ran : body.run (world.withReactor .deeper) with ⟨result, late⟩
  rw [ran] at inside
  change Reactor.Keeps world.reactor.deeper late.reactor at inside
  have depth : late.reactor.batchDepth - 1 = world.reactor.batchDepth := by
    rw [inside.batchDepth]
    exact Nat.add_sub_cancel _ 1
  have left : Reactor.Kept world.reactor late.reactor.shallower :=
    ⟨inside.older, depth, inside.flushing, inside.activeEffect, inside.activeScope⟩
  have watched (calm : .cutShort ∉ late.reactor.history) (more : EffectId → Prop)
      (before : world.reactor.Watched fun effect => False ∨ more effect) :
      late.reactor.shallower.Watched more := by
    have after := inside.watched calm more ⟨before.mirrored, before.attended⟩
    exact ⟨after.mirrored, after.attended⟩
  have ended : KeepsWorld world ((leaveBatch runner).run late).2 := by
    rw [run_leaveBatch]
    split
    case isTrue ready =>
      have idle := ((Bool.and_eq_true _ _).mp ready).1
      rcases ran : (flush runner).run (late.withReactor .shallower) with ⟨flushed, last⟩
      obtain ⟨done, well⟩ := flush_spec performs (late.withReactor .shallower) idle ran
      refine ⟨left.trans done.toKept, fun calm more before => ?_, fun calm _ _ => (well calm).2⟩
      exact done.watched calm more
        (Reactor.watched_none_due.mpr (watched (done.calm calm) more before))
    case isFalse waits =>
      refine ⟨left, watched, fun _ _ idle => ?_⟩
      rw [Bool.and_eq_true] at waits
      exact Bool.eq_false_iff.mpr fun pending => waits ⟨idle, pending⟩
  dsimp only
  rcases left : (leaveBatch runner).run late with ⟨fault | value, last⟩ <;>
    rw [left] at ended <;> exact ended

end Working

end Act

/-! ## Programs -/

theorem respected_keepsWorld {flushLimit : Nat} {perform : Body → Act Value}
    (performs : ∀ body, Along KeepsWorld (perform body)) :
    Respected ⟨flushLimit, perform⟩ KeepsWorld where
  toComposable := composable_keepsWorld
  beside same := by
    unfold KeepsWorld
    rw [same]
    exact composable_keepsWorld.refl _
  observe look world := Reactor.keeps_trackAll world.reactor _
  perform := performs
  runEffect := Act.keeps_runEffect performs
  trigger := Act.keeps_trigger performs
  batch := Act.keeps_batch performs
  untracked := Act.keeps_withActiveEffect none
  within := Act.keeps_within
  newEffect body timing world := Reactor.keeps_addEffect world.reactor body timing false
  newMember body timing world := Reactor.keeps_addEffect world.reactor body timing true
  newEffectScope world := Reactor.keeps_scopes world.reactor _
  stopEffect effect world := Reactor.keeps_stop world.reactor effect
  stopEffectScope scope world := Reactor.keeps_stopScope world.reactor scope

theorem respected_bounded_keepsWorld (flushLimit nesting : Nat) :
    Respected (.bounded flushLimit nesting) KeepsWorld :=
  respected_bounded composable_keepsWorld (fun _ => respected_keepsWorld) nesting

theorem keepsWorld_steps (flushLimit nesting : Nat) (program : List Action) (world : World) :
    KeepsWorld world (Session.steps (.bounded flushLimit nesting) program world).2 :=
  (respected_bounded_keepsWorld flushLimit nesting).steps program world

/--
Once a program of whatever steps is back at top level, and no fault has cut the
working off of the queues short, both queues are empty, and since the last tracked
read of every subscription of an active effect nobody has told of a change but
while the effect itself was running.
-/
theorem no_lost_wake (flushLimit nesting : Nat) (program : List Action) :
    let reactor := (Session.steps (.bounded flushLimit nesting) program .empty).2.reactor
    Event.cutShort ∉ reactor.history →
      reactor.preQueue = [] ∧ reactor.postQueue = [] ∧
        ∀ effect dep, reactor.isActive effect = true → dep ∈ reactor.depsOf effect →
          UpToDate effect dep reactor.history := by
  intro reactor calm
  have kept := keepsWorld_steps flushLimit nesting program .empty
  have nothing : reactor.pending = false :=
    kept.quiet calm (fun _ => rfl) (kept.idle.trans rfl)
  have queues : reactor.preQueue = [] ∧ reactor.postQueue = [] := by
    simpa [Reactor.pending] using nothing
  refine ⟨queues.1, queues.2, fun effect dep active read => ?_⟩
  have watched := kept.watched calm (fun _ => False) (Reactor.watched_empty _)
  rcases watched.attended active read with waits | waits | never | fresh
  · exact absurd waits (queues.1 ▸ List.not_mem_nil)
  · exact absurd waits (queues.2 ▸ List.not_mem_nil)
  · exact never.elim
  · exact fresh

/-- An effect copies one cell to another one, which a later effect reads; a batch writes twice. -/
def copying : List Action :=
  [.assign "source" (.operate .newRef [.literal (.int 0)]),
    .assign "target" (.operate .newRef [.literal (.int 0)]),
    .effect "reader" .post true [.operate .getRef [.named "target"]],
    .effect "copier" .pre true
      [.operate .setRef [.operate .getRef [.named "source"], .named "target"]],
    .batch
      [.operate .setRef [.literal (.int 1), .named "source"],
        .operate .setRef [.literal (.int 2), .named "source"]]]

theorem no_lost_wake_copying :
    let reactor := (Session.steps (.bounded 4 2) copying .empty).2.reactor
    Event.cutShort ∉ reactor.history ∧ reactor.preQueue = [] ∧ reactor.postQueue = [] ∧
      UpToDate 0 1 reactor.history ∧ UpToDate 1 0 reactor.history := by
  intro reactor
  have calm : Event.cutShort ∉ reactor.history := by decide +kernel
  obtain ⟨first, last, fresh⟩ := no_lost_wake 4 2 copying calm
  have reader := fresh 0 1 (by decide +kernel) (by decide +kernel)
  have copier := fresh 1 0 (by decide +kernel) (by decide +kernel)
  exact ⟨calm, first, last, reader, copier⟩

end ReactiveSchema
