import ReactiveSchema.Proofs.Reactive.Phases

/-!
# Batches in order

At the end of the outermost batch the effects run that are still active and that were triggered
since it began: first those that derive values, then those that use them, each once, and in
the order in which they were triggered first.
-/

namespace ReactiveSchema

open Act (run_batch run_ensuring)

variable {world inside after : World} {steps : List Action} {flushLimit nesting : Nat}

/-- The effects that a batch calls for at its end, each once, in the order of first triggering. -/
def World.due (world inside after : World) : List EffectId :=
  (firsts (triggered world.reactor.subscribersOf
    (after.reactor.eventsSince world.reactor))).filter inside.reactor.isActive

/-- What runs in a batch, and what at its end. -/
structure RunsInOrder (world inside after : World) : Prop where
  /-- Inside nobody runs who waits, but new effects only. -/
  deferred {effect : EffectId} {newer older : List Event} :
    inside.reactor.eventsSince world.reactor = newer ++ .began effect :: older →
      world.reactor.effects.size ≤ effect ∧ effect ∉ triggered world.reactor.subscribersOf older
  /-- At the end effects that derive values run first, and both kinds as they were triggered. -/
  phases : runsIn (after.reactor.eventsSince inside.reactor) =
    Agenda.ofTiming inside.reactor.timingOf .pre (world.due inside after) ++
      Agenda.ofTiming inside.reactor.timingOf .post (world.due inside after)
  /-- Each active effect that was triggered runs once, and no other one runs. -/
  once (effect : EffectId) : (runsIn (after.reactor.eventsSince inside.reactor)).count effect =
    if inside.reactor.isActive effect = true ∧ effect ∈ triggered world.reactor.subscribersOf
      (after.reactor.eventsSince world.reactor) then 1 else 0
  quiet : after.reactor.pending = false

theorem ofTiming_due (timing : EffectId → Timing) (time : Timing) (alive : EffectId → Bool)
    (effects : List EffectId) :
    (firsts (Agenda.ofTiming timing time effects)).filter alive =
      Agenda.ofTiming timing time ((firsts effects).filter alive) := by
  unfold Agenda.ofTiming
  rw [← filter_firsts, List.filter_comm]

theorem count_phases (timing : EffectId → Timing) {effects : List EffectId}
    (once : effects.Nodup) (effect : EffectId) :
    (Agenda.ofTiming timing .pre effects ++ Agenda.ofTiming timing .post effects).count effect =
      if effect ∈ effects then 1 else 0 := by
  have own (time : Timing) (same : timing effect = time) :
      (Agenda.ofTiming timing time effects).count effect = if effect ∈ effects then 1 else 0 := by
    unfold Agenda.ofTiming
    rw [List.count_filter (by simpa using same), once.count]
  have other (time : Timing) (apart : timing effect ≠ time) :
      (Agenda.ofTiming timing time effects).count effect = 0 := by
    refine List.count_eq_zero.mpr fun known => apart ?_
    simpa using (List.mem_filter.mp known).2
  rw [List.count_append]
  cases time : timing effect with
  | pre => rw [own .pre time, other .post (by simp [time]), Nat.add_zero]
  | post => rw [own .post time, other .pre (by simp [time]), Nat.zero_add]

namespace Act

/-- The outermost batch is left, and the queues are worked off in two phases. -/
theorem phases_leaveBatch {outcome : Except Fault Unit} (hears : inside.HearsPlain)
    (idle : inside.reactor.shallower.idle = true) (linked : inside.reactor.Linked)
    (orderly : inside.reactor.Orderly) (ample : 2 * inside.reactor.effects.size < flushLimit)
    (well : unfailing (.bounded flushLimit nesting) flushLimit
      (inside.withReactor (·.shallower.whileFlushing true)) = true)
    (modest : Modest inside after)
    (ran : (leaveBatch (.bounded flushLimit nesting)).run inside = (outcome, after)) :
    outcome = .ok () ∧ after.reactor.pending = false ∧
      inside.reactor.history <:+ after.reactor.history ∧
      runsIn (after.reactor.eventsSince inside.reactor) =
        inside.reactor.preQueue.filter inside.reactor.isActive ++
          (inside.reactor.agenda.after inside.reactor.timingOf
            (after.reactor.eventsSince inside.reactor)).late.filter inside.reactor.isActive := by
  rw [run_leaveBatch, idle, Bool.true_and] at ran
  split at ran
  case isFalse nothing =>
    obtain ⟨rfl, rfl⟩ := Prod.mk.inj ran
    have still : inside.reactor.pending = false := Bool.eq_false_iff.mpr nothing
    obtain ⟨early, late⟩ := Reactor.queues_of_not_pending still
    have silent : (inside.withReactor .shallower).reactor.eventsSince inside.reactor = [] :=
      Reactor.eventsSince_of_same rfl
    have agenda : (inside.reactor.agenda.after inside.reactor.timingOf []).late = [] := late
    rw [silent, early, agenda]
    exact ⟨rfl, still, List.suffix_rfl, rfl⟩
  case isTrue =>
    have performs := (respected_bounded_keepsWorld flushLimit nesting).perform
    rw [run_flush, run_notingCut] at ran
    rcases drained : (drain (.bounded flushLimit nesting)
        (Runner.bounded flushLimit nesting).flushLimit).run
      ((inside.withReactor .shallower).withReactor (.whileFlushing true)) with ⟨flushed, last⟩
    obtain ⟨kept, done⟩ := drain_spec performs _ drained
    have older : last.reactor.history <:+ after.reactor.history := by
      rw [drained] at ran
      cases flushed with
      | ok => cases ran; exact List.suffix_rfl
      | error => cases ran; exact List.suffix_cons _ _
    have draining : Draining
        ((inside.withReactor .shallower).withReactor (.whileFlushing true)) last := by
      have modest := modest.earlier kept.older older
      refine ⟨hears, Bool.and_false _, linked.of_eq rfl rfl, ?_, ?_⟩
      · exact orderly.of_eq rfl rfl (fun _ => rfl) (Nat.le_refl _)
      · exact ⟨modest.plain, modest.unread, modest.silent⟩
    have left : Left flushLimit nesting flushLimit flushed
        ((inside.withReactor .shallower).withReactor (.whileFlushing true)) last :=
      ⟨draining, well, drained⟩
    have few := draining.orderly.length_preQueue_le
    obtain ⟨rfl, runs⟩ := left.phases (by
      have same : ((inside.withReactor .shallower).withReactor
        (.whileFlushing true)).reactor.effects = inside.reactor.effects := rfl
      rw [same] at few ⊢
      omega)
    rw [drained] at ran
    cases ran
    exact ⟨rfl, (done rfl).1, kept.older, runs⟩

end Act

theorem Act.AtRest.idle {reactor : Reactor Body} (rest : AtRest reactor) : reactor.idle = true := by
  unfold Reactor.idle
  rw [rest.batchDepth, rest.flushing]
  rfl

theorem Act.AtRest.orderly {reactor : Reactor Body} (rest : AtRest reactor) : reactor.Orderly := by
  constructor
  case toSorted =>
    constructor
    case pre => rw [rest.preQueue]; exact nofun
    case post => rw [rest.postQueue]; exact nofun
    case once => rw [rest.postQueue]; exact List.nodup_nil
  case preOnce => rw [rest.preQueue]; exact List.nodup_nil
  case known => rw [rest.preQueue, rest.postQueue]; exact nofun

/-- What waits to run, when a batch is left, is what was triggered in it. -/
theorem agenda_leaving (rest : Act.AtRest world.reactor) (linked : world.reactor.Linked)
    (replays : Reactor.Replays world.reactor inside.reactor)
    (older : inside.reactor.history <:+ after.reactor.history) :
    (inside.reactor.agenda.after inside.reactor.timingOf
        (after.reactor.eventsSince inside.reactor)).only inside.reactor.isActive =
      (Agenda.after inside.reactor.timingOf ⟨world.reactor.subscribersOf, [], []⟩
        (after.reactor.eventsSince world.reactor)).only inside.reactor.isActive := by
  have empty : world.reactor.agenda = ⟨world.reactor.subscribersOf, [], []⟩ := by
    unfold Reactor.agenda
    rw [rest.preQueue, rest.postQueue]
  rw [← empty, Reactor.eventsSince_trans replays.older older, Agenda.after_append]
  exact Agenda.only_after_congr (replays.agenda linked fun _ _ => ⟨id, rfl⟩) _

/--
A batch at top level, in which effects are made and stopped, and where no effect raises.  No
effect that waits runs before its end.  There the active effects run that were triggered, in
the batch or meanwhile, once and in the order of first triggering, and those that derive values
before the others.
-/
theorem batch_runs_in_order {result : Except Fault Value} {outcome : Except Fault Value}
    (rest : Act.AtRest world.reactor) (linked : world.reactor.Linked) (hears : world.HearsPlain)
    (plain : Action.allPlain true steps = true)
    (block : (Action.perform.performSteps (.bounded flushLimit nesting) .none steps).run
      (world.withReactor .deeper) = (result, inside))
    (ample : 2 * inside.reactor.effects.size < flushLimit)
    (well : Act.unfailing (.bounded flushLimit nesting) flushLimit
      (inside.withReactor (·.shallower.whileFlushing true)) = true)
    (modest : Modest inside after)
    (ran : ((Action.batch steps).perform (.bounded flushLimit nesting)).run world =
      (outcome, after)) :
    outcome = result ∧ RunsInOrder world inside after := by
  have proceeds : Proceeds true world (inside.withReactor .shallower) := by
    have each : Along (Busily (Proceeds true))
        (Action.perform.performSteps (.bounded flushLimit nesting) .none steps) :=
      proceeds_performSteps plain .none
    have made := each (world.withReactor .deeper) rfl
    rw [block] at made
    exact made.ofBatch
  have outer : Reactor.Carries (inside.withReactor .shallower).reactor inside.reactor :=
    .of_eq rfl rfl rfl rfl rfl
  have replays : Reactor.Replays world.reactor inside.reactor :=
    proceeds.replays.trans outer.replays
  have idle : inside.reactor.shallower.idle = true := proceeds.toKept.idle.trans rest.idle
  have noted := replays.linked linked
  have sorted := replays.orderly linked rest.orderly
  have hears : inside.HearsPlain := hears.of_steps proceeds.steps
  have begun : (Act.batch (.bounded flushLimit nesting)
      (Action.perform.performSteps (.bounded flushLimit nesting) .none steps)).run world =
        (outcome, after) := ran
  rw [run_batch, run_ensuring, block] at begun
  dsimp only at begun
  rcases left : (Act.leaveBatch (.bounded flushLimit nesting)).run inside with ⟨flushed, last⟩
  rw [left] at begun
  have same : last = after := by
    cases flushed with
    | ok => exact (Prod.mk.inj begun).2
    | error => exact (Prod.mk.inj begun).2
  subst same
  obtain ⟨rfl, quiet, older, runs⟩ :=
    Act.phases_leaveBatch hears idle noted sorted ample well modest left
  refine ⟨(Prod.mk.inj begun).1.symm, ?_⟩
  have agenda := agenda_leaving rest linked replays older
  have phases : runsIn (last.reactor.eventsSince inside.reactor) =
      Agenda.ofTiming inside.reactor.timingOf .pre (world.due inside last) ++
        Agenda.ofTiming inside.reactor.timingOf .post (world.due inside last) := by
    have none := modest.triggers_none_early (List.nil_append _).symm
    have early : inside.reactor.preQueue.filter inside.reactor.isActive =
        Agenda.ofTiming inside.reactor.timingOf .pre (world.due inside last) := by
      calc inside.reactor.preQueue.filter inside.reactor.isActive
        _ = ((Agenda.ofTiming inside.reactor.timingOf .pre (triggered inside.reactor.subscribersOf
              (last.reactor.eventsSince inside.reactor))).foldl Reactor.addNew
                inside.reactor.preQueue).filter inside.reactor.isActive := by
          rw [none]
          rfl
        _ = (firsts (Agenda.ofTiming inside.reactor.timingOf .pre (triggered
              world.reactor.subscribersOf (last.reactor.eventsSince world.reactor)))).filter
                inside.reactor.isActive := congrArg Agenda.early agenda
        _ = _ := ofTiming_due ..
    have late := (congrArg Agenda.late agenda).trans (ofTiming_due ..)
    rw [runs, early]
    exact congrArg _ late
  constructor
  case deferred =>
    intro effect newer older split
    have ran := mem_runsIn.mpr (split ▸ List.mem_append_right newer List.mem_cons_self)
    exact ⟨(proceeds.fresh ran).1, proceeds.untriggered linked rest.activeEffect split⟩
  case phases => exact phases
  case once =>
    intro effect
    have once : (world.due inside last).Nodup := (nodup_firsts _).filter _
    rw [phases, count_phases _ once]
    refine if_congr ?_ rfl rfl
    rw [World.due, List.mem_filter, mem_firsts, and_comm]
  case quiet => exact quiet

/-! ## A batch with everything in it -/

/-- Has nothing happened but what modest effects do? -/
def World.isModest (world after : World) : Bool :=
  let events := after.reactor.eventsSince world.reactor
  let late (effect : EffectId) : Bool := decide (world.reactor.timingOf effect = .post)
  let unread (dep : DepId) : Bool :=
    (world.reactor.subscribersOf dep).all late && events.all fun event =>
      match event with
      | .read effect item => item != dep || late effect
      | _ => true
  (runsIn events).all (fun effect => (world.reactor.kindOf effect).all (·.1.isPlain)) &&
    (tellers events).all (!late ·) && events.all fun event =>
      match event with
      | .told dep _ => unread dep
      | _ => true

theorem modest_of_isModest (checked : world.isModest after = true) : Modest world after := by
  unfold World.isModest at checked
  obtain ⟨checked, unread⟩ := (Bool.and_eq_true _ _).mp checked
  obtain ⟨plain, silent⟩ := (Bool.and_eq_true _ _).mp checked
  constructor
  case plain =>
    intro effect body timing began found
    have known := List.all_eq_true.mp plain effect (mem_runsIn.mpr began)
    rw [found] at known
    exact known
  case unread =>
    intro effect dep running told early
    have known := List.all_eq_true.mp unread _ told
    obtain ⟨subscribed, reads⟩ := (Bool.and_eq_true _ _).mp known
    have apart : ¬ world.reactor.timingOf effect = .post := by simp [early]
    refine ⟨fun reader => ?_, fun read => ?_⟩
    · exact apart (of_decide_eq_true (List.all_eq_true.mp subscribed effect reader))
    · have late := List.all_eq_true.mp reads _ read
      simp [early] at late
  case silent =>
    intro effect teller
    have early := List.all_eq_true.mp silent effect teller
    cases timing : world.reactor.timingOf effect with
    | pre => rfl
    | post => simp [timing] at early

/--
A deriver copies one cell to another one, which a user reads.  A second user and an effect that
will be stopped read the first cell.
-/
def copyingOnce : List Action :=
  [.assign "source" (.operate .newRef [.literal (.int 0)]),
    .assign "target" (.operate .newRef [.literal (.int 0)]),
    .assign "aside" (.operate .newRef [.literal (.int 0)]),
    .effect "user" .post true [.operate .getRef [.named "target"]],
    .effect "stopped" .post true [.operate .getRef [.named "source"]],
    .effect "second" .post true [.operate .getRef [.named "source"]],
    .effect "deriver" .pre true
      [.operate .setRef [.operate .getRef [.named "source"], .named "target"]],
    .effect "other" .pre true [.operate .getRef [.named "aside"]]]

/-- A batch in a batch, a new effect, two triggers of a cell, and a stop of an effect that waits. -/
def blockOfAll : List Action :=
  [.batch
      [.operate .setRef [.literal (.int 1), .named "aside"],
        .operate .setRef [.literal (.int 1), .named "source"]],
    .effect "new" .post true [.operate .getRef [.named "source"]],
    .operate .setRef [.literal (.int 2), .named "source"],
    .operate .stop [.named "stopped"]]

def copiedWorld : World :=
  (Session.steps (.bounded 16 2) copyingOnce .empty).2

def blockRun : Except Fault Value × World :=
  (Action.perform.performSteps (.bounded 16 2) .none blockOfAll).run
    (copiedWorld.withReactor .deeper)

def exitRun : Except Fault Value × World :=
  ((Action.batch blockOfAll).perform (.bounded 16 2)).run copiedWorld

theorem batch_runs_in_order_blockOfAll :
    RunsInOrder copiedWorld blockRun.2 exitRun.2 ∧
      runsIn (exitRun.2.reactor.eventsSince blockRun.2.reactor) = [4, 3, 2, 5, 0] := by
  have rest : Act.AtRest copiedWorld.reactor := by
    constructor
    all_goals decide +kernel
  have linked : copiedWorld.reactor.Linked := by
    unfold copiedWorld
    exact linked_steps 16 2 copyingOnce
  have hears : copiedWorld.HearsPlain := by
    intro id steps found
    have unheard : copiedWorld.listeners = #[] := by decide +kernel
    rw [World.stepsOf, unheard] at found
    cases found
  have well : Act.unfailing (.bounded 16 2) 16
      (blockRun.2.withReactor (·.shallower.whileFlushing true)) = true := by decide +kernel
  have modest : Modest blockRun.2 exitRun.2 := modest_of_isModest (by decide +kernel)
  have ample : 2 * blockRun.2.reactor.effects.size < 16 := by decide +kernel
  have runs : runsIn (exitRun.2.reactor.eventsSince blockRun.2.reactor) = [4, 3, 2, 5, 0] := by
    decide +kernel
  have plain : Action.allPlain true blockOfAll = true := by decide
  have block : blockRun = (blockRun.1, blockRun.2) := (Prod.eta blockRun).symm
  have ran : exitRun = (exitRun.1, exitRun.2) := (Prod.eta exitRun).symm
  exact ⟨(batch_runs_in_order rest linked hears plain block ample well modest ran).2, runs⟩

end ReactiveSchema
