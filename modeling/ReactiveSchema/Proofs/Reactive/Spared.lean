import ReactiveSchema.Proofs.Act.RespectSessions
import ReactiveSchema.Proofs.Reactive.Signals

/-!
# Flushes and batches that end in a fault

However a flush or a batch ends, effects that waited when it began are minded, and
so are the readers of all that was told in it.  Outside of these, readers are
scheduled one by one, and each of them may be run at once: a fault then leaves out
those whose turn has not come.
-/

namespace ReactiveSchema

/-- From one world to another, no effect is forgotten. -/
abbrev MindsWorld (before after : World) : Prop :=
  Reactor.Minds before.reactor after.reactor

/-- From one world to another, all that was told was heeded. -/
abbrev HeedsWorld (before after : World) : Prop :=
  Reactor.Heeds before.reactor after.reactor

theorem composable_mindsWorld : Composable MindsWorld where
  refl world := .refl world.reactor
  trans := Reactor.Minds.trans

namespace Act

variable {α : Type} {runner : Runner} {effect : EffectId} {dep : DepId} {world after : World}

theorem minds_untracked {body : Act α} (each : Along MindsWorld body) :
    Along MindsWorld (untracked body) := by
  intro world
  have inside := each (world.withReactor (.asEffect none))
  unfold untracked
  rw [run_withActiveEffect]
  generalize (body.run (world.withReactor (.asEffect none))).2 = late at inside ⊢
  have kept : Reactor.Kept world.reactor (late.reactor.asEffect world.reactor.activeEffect) :=
    ⟨inside.older, inside.batchDepth, inside.flushing, rfl, inside.activeScope⟩
  exact ⟨kept, inside.size, inside.stopped, inside.waits, inside.reads,
    fun busy => ⟨fun told known reads _ => (inside.heeds busy).minded told known reads nofun⟩⟩

theorem minds_within (scope : EffectScopeId) {body : Act α} (each : Along MindsWorld body) :
    Along MindsWorld (within scope body) := by
  intro world
  have inside := each (world.withReactor (.inScope (some scope)))
  rw [run_within]
  generalize (body.run (world.withReactor (.inScope (some scope)))).2 = late at inside ⊢
  have kept : Reactor.Kept world.reactor (late.reactor.inScope world.reactor.activeScope) :=
    ⟨inside.older, inside.batchDepth, inside.flushing, inside.activeEffect, rfl⟩
  exact ⟨kept, inside.size, inside.stopped, inside.waits, inside.reads,
    fun busy => ⟨(inside.heeds busy).minded⟩⟩

/-- What is taken off the queues is minded if it begins to run, or runs no more. -/
theorem minds_next? {rest : Reactor Body} (found : world.reactor.next? = some (effect, rest))
    (minds : Reactor.Minds rest after.reactor)
    (own : effect < world.reactor.effects.size →
      Reactor.Minded world.reactor.history after.reactor effect) : MindsWorld world after := by
  obtain ⟨-, tends, -, waits, effects⟩ := waits_next? found
  have taken := Reactor.kept_next? found
  obtain ⟨history, subscribers⟩ := Reactor.fields_next? found
  have subscribers (dep : DepId) : rest.subscribersOf dep = world.reactor.subscribersOf dep := by
    unfold Reactor.subscribersOf
    rw [subscribers]
  have inner {other : EffectId} (known : other < world.reactor.effects.size) :
      other < rest.effects.size := by
    rw [effects]
    exact known
  refine ⟨taken.trans minds.toKept, ?_, ?_, ?_, ?_, ?_⟩
  · rw [← effects]
    exact minds.size
  · intro other known stopped
    exact minds.stopped (inner known) ((tends.active other).trans stopped)
  · intro other known waiting
    rcases (waits other).mp waiting with rfl | waiting
    · exact own known
    · exact history ▸ minds.waits (inner known) waiting
  · intro other dep known reads
    rw [← subscribers] at reads
    exact history ▸ minds.reads (inner known) reads
  · refine fun busy => ⟨fun {dep running other} told known reads apart => ?_⟩
    rw [← subscribers] at reads
    rw [← history] at told
    have heeded := (minds.heeds (taken.idle.trans busy)).minded told (inner known) reads
      (taken.activeEffect.symm ▸ apart)
    exact history ▸ heeded

theorem still_of_idle {reactor : Reactor Body} (idle : reactor.idle = true) :
    reactor.flushing = false := by
  unfold Reactor.idle at idle
  simpa using ((Bool.and_eq_true _ _).mp idle).2

theorem minds_notingCut {body : Act α} (each : Along MindsWorld body) :
    Along MindsWorld (notingCut body) := by
  refine composable_mindsWorld.tryCatch each fun fault => ?_
  refine composable_mindsWorld.bind (fun world => ?_) fun _ => composable_mindsWorld.throw _
  exact Reactor.minds_note world.reactor nofun

section Working

variable (performs : ∀ body, Along MindsWorld (runner.perform body))
include performs

/-! ## Runs -/

/-- A run of an active effect forgets none, and has begun however it ends. -/
theorem minds_runEffect_active {cell : Effect Body}
    (found : world.reactor.effects[effect]? = some cell) (alive : cell.active = true) :
    MindsWorld world ((runEffect runner effect).run world).2 ∧
      Reactor.Since world.reactor.history ((runEffect runner effect).run world).2.reactor
        (.began effect) := by
  have inside := performs cell.body
    ((world.withReactor (·.beginRun effect)).withReactor (.asEffect (some effect)))
  rw [run_runEffect runner found, if_pos alive, run_withActiveEffect]
  generalize ((runner.perform cell.body).run
    ((world.withReactor (·.beginRun effect)).withReactor (.asEffect (some effect)))).2 = late
    at inside ⊢
  have touched := Reactor.touches_beginRun world.reactor effect
  have begun : Reactor.Since world.reactor.history late.reactor (.began effect) :=
    (Reactor.since_beginRun world.reactor effect).later inside.older
  have size := Reactor.size_beginRun world.reactor effect
  have running : (world.reactor.beginRun effect).activeEffect = world.reactor.activeEffect :=
    Reactor.activeEffect_beginRun
  have scope := (Reactor.settles_beginRun world.reactor effect).activeScope
  have minded {other : EffectId}
      (apart : other ≠ effect → Reactor.Minded world.reactor.history late.reactor other) :
      Reactor.Minded world.reactor.history late.reactor other := by
    by_cases own : other = effect
    · exact Reactor.minded_of_since (own ▸ begun)
    · exact apart own
  have inner {other : EffectId} (known : other < world.reactor.effects.size) :
      other < (world.reactor.beginRun effect).effects.size := by
    rw [size]
    exact known
  refine ⟨⟨⟨touched.older.trans inside.older, inside.batchDepth.trans touched.batchDepth,
    inside.flushing.trans touched.flushing, running, inside.activeScope.trans scope⟩,
    Nat.le_trans (Nat.le_of_eq size.symm) inside.size, ?_, ?_, ?_, ?_⟩, begun⟩
  case refine_1 =>
    intro other known stopped
    exact inside.stopped (inner known) ((touched.active other).trans stopped)
  case refine_2 =>
    intro other known waits
    rw [← touched.preQueue, ← touched.postQueue] at waits
    exact (inside.waits (inner known) waits).earlier touched.older
  case refine_3 =>
    intro other dep known reads
    by_cases own : other = effect
    · exact .inr (Reactor.minded_of_since (own ▸ begun))
    · have reads := (touched.subscribers other dep own).mpr reads
      exact (inside.reads (inner known) reads).imp_right (·.earlier touched.older)
  case refine_4 =>
    refine fun busy => ⟨fun {dep running other} told known reads _ => minded fun own => ?_⟩
    have calm : ¬ Reactor.Since world.reactor.history (world.reactor.beginRun effect)
        (.told dep running) := fun told => nomatch Reactor.eq_of_since_beginRun told
    have told := (told.cases touched.older inside.older).resolve_left calm
    have reads := (touched.subscribers other dep own).mpr reads
    have busy : (world.reactor.beginRun effect).idle = false := by
      unfold Reactor.idle at busy ⊢
      rw [touched.batchDepth, touched.flushing]
      exact busy
    have heeded := (inside.heeds busy).minded told (inner known) reads fun same =>
      own (Option.some.inj same)
    exact heeded.earlier touched.older

theorem minds_runEffect (effect : EffectId) : Along MindsWorld (runEffect runner effect) := by
  intro world
  cases found : world.reactor.effects[effect]? with
  | none =>
      rw [run_runEffect_missing runner found]
      exact .refl world.reactor
  | some cell =>
      by_cases alive : cell.active = true
      · exact (minds_runEffect_active performs found alive).1
      · rw [run_runEffect runner found, if_neg alive]
        exact performs cell.body world

/-! ## Queues -/

/-- Working the queues off forgets none, whatever faults end it. -/
theorem minds_drain (limit : Nat) : Along MindsWorld (drain runner limit) := by
  induction limit with
  | zero => exact composable_mindsWorld.throw _
  | succ limit ih =>
      intro world
      cases found : world.reactor.next? with
      | none =>
          rw [run_drain_none runner limit found]
          exact .refl world.reactor
      | some entry =>
          obtain ⟨effect, rest⟩ := entry
          have history := (Reactor.fields_next? found).1
          have effects := (waits_next? found).2.2.2.2
          rw [run_drain_next runner limit found]
          split
          case isTrue active =>
            obtain ⟨cell, known, alive⟩ : ∃ cell, rest.effects[effect]? = some cell ∧
                cell.active = true := by
              unfold Reactor.isActive at active
              exact (Option.any_eq_true _ _).mp active
            have known : (world.withReactor fun _ => rest).reactor.effects[effect]? =
                some cell := known
            obtain ⟨minds, begun⟩ := minds_runEffect_active performs known alive
            rw [run_bind]
            rcases ran : (runEffect runner effect).run (world.withReactor fun _ => rest) with
              ⟨fault | value, middle⟩ <;> rw [ran] at minds begun
            · exact minds_next? found minds fun _ => Reactor.minded_of_since (history ▸ begun)
            · have later := ih middle
              refine minds_next? found (minds.trans later) fun _ => ?_
              exact Reactor.minded_of_since (history ▸ begun.later later.older)
          case isFalse stopped =>
            have later := ih (world.withReactor fun _ => rest)
            refine minds_next? found later fun known => Reactor.minded_of_stopped ?_
            refine later.stopped ?_ (Bool.eq_false_iff.mpr stopped)
            change effect < rest.effects.size
            rw [effects]
            exact known

/-- A flush that nothing defers forgets no effect and heeds all that is told. -/
theorem minds_flush (still : world.reactor.flushing = false) :
    MindsWorld world ((flush runner).run world).2 ∧
      HeedsWorld world ((flush runner).run world).2 := by
  have inside := minds_notingCut (minds_drain performs runner.flushLimit)
    (world.withReactor (.whileFlushing true))
  rw [run_flush]
  generalize ((notingCut (drain runner runner.flushLimit)).run
    (world.withReactor (.whileFlushing true))).2 = late at inside ⊢
  have busy : (world.withReactor (.whileFlushing true)).reactor.idle = false := by
    change (world.reactor.batchDepth == 0 && !true) = false
    exact Bool.and_false _
  have heeds : HeedsWorld world (late.withReactor (.whileFlushing false)) :=
    ⟨(inside.heeds busy).minded⟩
  have kept : Reactor.Kept world.reactor (late.reactor.whileFlushing false) :=
    ⟨inside.older, inside.batchDepth, still.symm, inside.activeEffect, inside.activeScope⟩
  exact ⟨⟨kept, inside.size, inside.stopped, inside.waits, inside.reads, fun _ => heeds⟩, heeds⟩

/-- An effect that is scheduled is minded, and the flush that this may set off forgets none. -/
theorem minds_schedule (effect : EffectId) (world : World) :
    MindsWorld world ((schedule runner effect).run world).2 ∧
      HeedsWorld world ((schedule runner effect).run world).2 ∧
        (effect < world.reactor.effects.size →
          Reactor.Minded world.reactor.history ((schedule runner effect).run world).2.reactor
            effect) := by
  have queued := Reactor.minds_enqueue world.reactor effect
  have waits := Reactor.waits_enqueue_self world.reactor effect
  have silent : Reactor.Heeds world.reactor (world.reactor.enqueue effect) :=
    Reactor.heeds_of_untold fun _ _ =>
      Reactor.not_since (Reactor.history_enqueue world.reactor effect)
  rw [run_schedule]
  split
  case isTrue idle =>
    have idle : (world.withReactor (·.enqueue effect)).reactor.idle = true := idle
    obtain ⟨minds, heeds⟩ := minds_flush performs (still_of_idle idle)
    refine ⟨queued.trans minds, Reactor.Heeds.trans queued silent minds heeds, fun known => ?_⟩
    have known := Nat.lt_of_lt_of_le known queued.size
    exact (minds.waits known waits).earlier queued.older
  case isFalse =>
    exact ⟨queued, silent, fun _ => waits.imp_right .inl⟩

/-- Effects are scheduled in turn; a fault leaves out those whose turn has not come. -/
theorem minds_scheduleAll (current : Option EffectId) (effects : List EffectId)
    {world after : World} {result : Except Fault Unit}
    (ran : (scheduleAll runner current effects).run world = (result, after)) :
    MindsWorld world after ∧ HeedsWorld world after ∧
      ∃ reached missed, effects = reached ++ missed ∧ (result = .ok () → missed = []) ∧
        (scheduleAll runner current reached).run world = (result, after) ∧
          ∀ effect ∈ reached, effect < world.reactor.effects.size → some effect ≠ current →
            Reactor.Minded world.reactor.history after.reactor effect := by
  induction effects generalizing world with
  | nil =>
      obtain ⟨rfl, rfl⟩ := Prod.mk.inj ran
      exact ⟨.refl _, Reactor.heeds_of_untold fun _ _ => Reactor.not_since rfl, [], [], rfl,
        fun _ => rfl, rfl, fun _ known => absurd known List.not_mem_nil⟩
  | cons effect rest ih =>
      unfold scheduleAll at ran
      split at ran
      case isTrue other =>
        obtain ⟨minds, heeds, own⟩ := minds_schedule performs effect world
        rw [run_bind] at ran
        rcases once : (schedule runner effect).run world with ⟨fault | _, middle⟩ <;>
          rw [once] at ran minds heeds own
        · obtain ⟨rfl, rfl⟩ := Prod.mk.inj ran
          refine ⟨minds, heeds, [effect], rest, rfl, ?_, ?_, fun _ known => ?_⟩
          · intro good
            cases good
          · unfold scheduleAll
            rw [if_pos other, run_bind, once]
          · rw [List.mem_singleton.mp known]
            exact fun known _ => own known
        · obtain ⟨minds', heeds', reached, missed, rfl, all, same, turns⟩ := ih ran
          refine ⟨minds.trans minds', Reactor.Heeds.trans minds heeds minds' heeds',
            effect :: reached, missed, rfl, all, ?_, fun turn known existed apart => ?_⟩
          · unfold scheduleAll
            rw [if_pos other, run_bind, once]
            exact same
          · have existed' := Nat.lt_of_lt_of_le existed minds.size
            rcases List.mem_cons.mp known with rfl | known
            · exact minds'.minded existed' minds.older (own existed)
            · exact (turns turn known existed' apart).earlier minds.older
      case isFalse own =>
        obtain ⟨minds, heeds, reached, missed, rfl, all, same, turns⟩ := ih ran
        refine ⟨minds, heeds, effect :: reached, missed, rfl, all, ?_,
          fun turn known existed apart => ?_⟩
        · unfold scheduleAll
          rw [if_neg own]
          exact same
        · rcases List.mem_cons.mp known with rfl | known
          · exact absurd (by simpa using apart) own
          · exact turns turn known existed apart

/-! ## Telling -/

/-- The readers of tracked state were told one by one, but for those that were `missed`. -/
structure TellsAll (runner : Runner) (dep : DepId) (missed : List EffectId) (world : World)
    (result : Except Fault Unit) (after : World) : Prop where
  minds : MindsWorld world after
  heeds {item : DepId} {running : Option EffectId} {effect : EffectId} :
    Reactor.Since world.reactor.history after.reactor (.told item running) →
      effect < world.reactor.effects.size → effect ∈ world.reactor.subscribersOf item →
        some effect ≠ world.reactor.activeEffect →
          Reactor.Minded world.reactor.history after.reactor effect ∨
            item = dep ∧ effect ∈ missed
  all : result = .ok () ∨ world.reactor.idle = false → missed = []
  reached : ∃ reached, world.reactor.subscribersOf dep = reached ++ missed ∧
    (scheduleAll runner world.reactor.activeEffect reached).run
      (world.withReactor (·.note (.told dep world.reactor.activeEffect))) = (result, after)

theorem tellsAll_trigger (dep : DepId) {result : Except Fault Unit}
    (ran : (trigger runner dep).run world = (result, after)) :
    ∃ missed, TellsAll runner dep missed world result after := by
  rw [run_trigger] at ran
  obtain ⟨minds, heeds, reached, missed, whole, all, same, turns⟩ :=
    minds_scheduleAll performs _ _ ran
  have noted : world.reactor.history <:+
      (world.reactor.note (.told dep world.reactor.activeEffect)).history :=
    List.suffix_cons _ _
  have heeds {item : DepId} {running : Option EffectId} {effect : EffectId}
      (told : Reactor.Since world.reactor.history after.reactor (.told item running))
      (known : effect < world.reactor.effects.size)
      (reads : effect ∈ world.reactor.subscribersOf item)
      (apart : some effect ≠ world.reactor.activeEffect) :
      Reactor.Minded world.reactor.history after.reactor effect ∨
        item = dep ∧ effect ∈ missed := by
    rcases told.cases noted minds.older with now | later
    · cases Reactor.eq_of_since_note now
      rw [whole] at reads
      rcases List.mem_append.mp reads with turn | missed
      · exact .inl ((turns effect turn known apart).earlier noted)
      · exact .inr ⟨rfl, missed⟩
    · exact .inl ((heeds.minded later known reads apart).earlier noted)
  have all (good : result = .ok () ∨ world.reactor.idle = false) : missed = [] := by
    refine all (good.elim id fun busy => ?_)
    have busy : (world.withReactor
        (·.note (.told dep world.reactor.activeEffect))).reactor.idle = false := busy
    exact (Prod.mk.inj (ran.symm.trans (run_scheduleAll_busy _ _ busy))).1
  refine ⟨missed, ?_, heeds, all, reached, whole, same⟩
  constructor
  case toKept => exact (Reactor.kept_note _ _).trans minds.toKept
  case size => exact minds.size
  case stopped => exact minds.stopped
  case waits => exact fun known waits => (minds.waits known waits).earlier noted
  case reads => exact fun known reads => (minds.reads known reads).imp_right (·.earlier noted)
  case heeds =>
    refine fun busy => ⟨fun told known reads apart => ?_⟩
    refine (heeds told known reads apart).resolve_right fun late => ?_
    rw [all (.inr busy)] at late
    exact nomatch late.2

theorem minds_trigger (dep : DepId) : Along MindsWorld (trigger runner dep) := by
  intro world
  obtain ⟨missed, tells⟩ := tellsAll_trigger performs dep (Prod.eta ((trigger runner dep).run world)).symm
  exact tells.minds

/-! ## Batches -/

/-- In a batch all that is told is heeded, whatever faults end it. -/
theorem minds_batch {body : Act α}
    (inside : MindsWorld (world.withReactor .deeper) (body.run (world.withReactor .deeper)).2) :
    MindsWorld world ((batch runner body).run world).2 ∧
      HeedsWorld world ((batch runner body).run world).2 := by
  rw [run_batch, run_ensuring]
  rcases ran : body.run (world.withReactor .deeper) with ⟨result, late⟩
  rw [ran] at inside
  change Reactor.Minds world.reactor.deeper late.reactor at inside
  have busy : world.reactor.deeper.idle = false := rfl
  have depth : late.reactor.batchDepth - 1 = world.reactor.batchDepth := by
    rw [inside.batchDepth]
    exact Nat.add_sub_cancel _ 1
  have kept : Reactor.Kept world.reactor late.reactor.shallower :=
    ⟨inside.older, depth, inside.flushing, inside.activeEffect, inside.activeScope⟩
  have heeds : Reactor.Heeds world.reactor late.reactor.shallower := ⟨(inside.heeds busy).minded⟩
  have minds : Reactor.Minds world.reactor late.reactor.shallower :=
    ⟨kept, inside.size, inside.stopped, inside.waits, inside.reads, fun _ => heeds⟩
  have ended : MindsWorld world ((leaveBatch runner).run late).2 ∧
      HeedsWorld world ((leaveBatch runner).run late).2 := by
    rw [run_leaveBatch]
    split
    case isTrue ready =>
      have idle : (late.withReactor .shallower).reactor.idle = true :=
        ((Bool.and_eq_true _ _).mp ready).1
      obtain ⟨minds', heeds'⟩ := minds_flush performs (still_of_idle idle)
      exact ⟨minds.trans minds', Reactor.Heeds.trans minds heeds minds' heeds'⟩
    case isFalse => exact ⟨minds, heeds⟩
  dsimp only
  rcases left : (leaveBatch runner).run late with ⟨fault | value, last⟩ <;>
    rw [left] at ended <;> exact ended

end Working

end Act

/-! ## Programs -/

theorem respected_mindsWorld {flushLimit : Nat} {perform : Body → Act Value}
    (performs : ∀ body, Along MindsWorld (perform body)) :
    Respected ⟨flushLimit, perform⟩ MindsWorld where
  toComposable := composable_mindsWorld
  beside same := by
    unfold MindsWorld
    rw [same]
    exact .refl _
  observe look world := Reactor.minds_trackAll world.reactor _
  perform := performs
  runEffect := Act.minds_runEffect performs
  trigger := Act.minds_trigger performs
  batch each world := (Act.minds_batch performs (each _)).1
  untracked := Act.minds_untracked
  within := Act.minds_within
  newEffect body timing world := Reactor.minds_addEffect world.reactor body timing false
  newMember body timing world := Reactor.minds_addEffect world.reactor body timing true
  newEffectScope world := Reactor.minds_scopes world.reactor _
  stopEffect effect world := Reactor.minds_stop world.reactor effect
  stopEffectScope scope world := Reactor.minds_stopScope world.reactor scope

/-- No program forgets an effect, whatever its effects do and wherever they fail. -/
theorem respected_bounded_mindsWorld (flushLimit nesting : Nat) :
    Respected (.bounded flushLimit nesting) MindsWorld :=
  respected_bounded composable_mindsWorld (fun _ => respected_mindsWorld) nesting

end ReactiveSchema
