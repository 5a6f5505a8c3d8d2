import ReactiveSchema.Proofs.Reactive.PlainRuns

/-!
# Working the queues off in two phases

Where effects that derive values write nothing that such effects read, and effects that use
values write nothing, the queues are worked off in two phases: the effects that wait to derive
values run, then those that wait to use them, each as it came, and each that was not stopped.
-/

namespace ReactiveSchema

open Reactor (addNew)

variable {before middle after world taken : World} {runner : Runner} {effect : EffectId}
  {dep : DepId} {flushLimit nesting : Nat}

/-! ## What effects may do -/

/--
Since some time, plain effects alone have run; what they told, no effect had read that derives
values; and effects that use values told nothing.
-/
structure Modest (world after : World) : Prop where
  plain {effect : EffectId} {body : Body} {timing : Timing} :
    .began effect ∈ after.reactor.eventsSince world.reactor →
      world.reactor.kindOf effect = some (body, timing) → body.isPlain = true
  unread {effect : EffectId} {dep : DepId} {running : Option EffectId} :
    .told dep running ∈ after.reactor.eventsSince world.reactor →
      world.reactor.timingOf effect = .pre → effect ∉ world.reactor.subscribersOf dep ∧
        .read effect dep ∉ after.reactor.eventsSince world.reactor
  silent {effect : EffectId} : effect ∈ tellers (after.reactor.eventsSince world.reactor) →
    world.reactor.timingOf effect = .pre

namespace Modest

/-- What modest effects trigger are effects that use values. -/
theorem triggered_late (modest : Modest world after) {older newer : List Event}
    (split : after.reactor.eventsSince world.reactor = newer ++ older)
    (due : effect ∈ triggered world.reactor.subscribersOf older) :
    world.reactor.timingOf effect = .post := by
  obtain ⟨dep, running, told, reads⟩ := told_of_mem_triggered due
  cases timing : world.reactor.timingOf effect with
  | post => rfl
  | pre =>
      have among {event : Event} (known : event ∈ older) :
          event ∈ after.reactor.eventsSince world.reactor :=
        split ▸ List.mem_append_right _ known
      obtain ⟨unsubscribed, unread⟩ := modest.unread (among told) timing
      exact absurd (among (reads.resolve_left unsubscribed)) unread

theorem triggers_none_early (modest : Modest world after) {older newer : List Event}
    (split : after.reactor.eventsSince world.reactor = newer ++ older) :
    Agenda.ofTiming world.reactor.timingOf .pre
      (triggered world.reactor.subscribersOf older) = [] := by
  refine List.filter_eq_nil_iff.mpr fun effect due => ?_
  simp [modest.triggered_late split due]

/-- What is modest for a long time is so for a shorter one. -/
theorem earlier (modest : Modest world after)
    (since : world.reactor.history <:+ middle.reactor.history)
    (older : middle.reactor.history <:+ after.reactor.history) : Modest world middle := by
  have joined := Reactor.eventsSince_trans since older
  have among {event : Event} (known : event ∈ middle.reactor.eventsSince world.reactor) :
      event ∈ after.reactor.eventsSince world.reactor :=
    joined ▸ List.mem_append_right _ known
  constructor
  case plain => exact fun began found => modest.plain (among began) found
  case unread =>
    intro effect dep running told timing
    obtain ⟨unsubscribed, unread⟩ := modest.unread (among told) timing
    exact ⟨unsubscribed, fun read => unread (among read)⟩
  case silent => exact fun teller => modest.silent (joined ▸ mem_tellers_append_right teller)

/-- What is modest from the beginning of a run on is so after it. -/
theorem later (modest : Modest before after) (linked : before.reactor.Linked)
    (carries : Reactor.Carries before.reactor middle.reactor)
    (older : middle.reactor.history <:+ after.reactor.history) : Modest middle after := by
  have joined := Reactor.eventsSince_trans carries.older older
  have among {event : Event} (known : event ∈ after.reactor.eventsSince middle.reactor) :
      event ∈ after.reactor.eventsSince before.reactor :=
    joined ▸ List.mem_append_left _ known
  constructor
  case plain =>
    exact fun began found => modest.plain (among began) ((carries.kinds _).symm.trans found)
  case unread =>
    intro effect dep running told timing
    rw [carries.timingOf_eq] at timing
    obtain ⟨unsubscribed, unread⟩ := modest.unread (among told) timing
    refine ⟨fun subscribed => ?_, fun read => unread (among read)⟩
    rw [carries.subscribersOf_eq linked] at subscribed
    refine (mem_readersAfter subscribed).elim unsubscribed fun read => unread ?_
    exact joined ▸ List.mem_append_right _ read
  case silent =>
    intro effect teller
    rw [carries.timingOf_eq]
    exact modest.silent (joined ▸ mem_tellers_append_left teller)

end Modest

/-! ## Taking effects off the queues -/

/-- The next effect has been taken off the queues, and all else is as it was. -/
structure Takes (effect : EffectId) (world taken : World) : Prop
    extends Reactor.Kept world.reactor taken.reactor where
  steps (id : ListenerId) : taken.stepsOf id = world.stepsOf id
  history : taken.reactor.history = world.reactor.history
  effects : taken.reactor.effects = world.reactor.effects
  subscribers : taken.reactor.subscribers = world.reactor.subscribers
  queues : world.reactor.preQueue = effect :: taken.reactor.preQueue ∧
      world.reactor.postQueue = taken.reactor.postQueue ∨
    world.reactor.preQueue = [] ∧ taken.reactor.preQueue = [] ∧
      world.reactor.postQueue = effect :: taken.reactor.postQueue

theorem takes_next? {rest : Reactor Body}
    (found : world.reactor.next? = some (effect, rest)) :
    Takes effect world (world.withReactor fun _ => rest) where
  toKept := Reactor.kept_next? found
  steps _ := rfl
  history := (Reactor.fields_next? found).1
  effects := (Act.waits_next? found).2.2.2.2
  subscribers := (Reactor.fields_next? found).2
  queues := Act.next?_cases found

namespace Takes

theorem eventsSince_eq (takes : Takes effect world taken) (after : World) :
    after.reactor.eventsSince taken.reactor = after.reactor.eventsSince world.reactor :=
  Reactor.eventsSince_congr takes.history

theorem isActive_eq (takes : Takes effect world taken) :
    taken.reactor.isActive = world.reactor.isActive :=
  funext fun _ => Reactor.isActive_of_effects takes.effects

theorem timingOf_eq (takes : Takes effect world taken) :
    taken.reactor.timingOf = world.reactor.timingOf := by
  funext other
  rw [Reactor.timingOf_eq, Reactor.timingOf_eq, Reactor.kindOf_of_effects takes.effects]

theorem subscribersOf_eq (takes : Takes effect world taken) :
    taken.reactor.subscribersOf = world.reactor.subscribersOf := by
  unfold Reactor.subscribersOf
  rw [takes.subscribers]

theorem orderly (takes : Takes effect world taken) (orderly : world.reactor.Orderly) :
    taken.reactor.Orderly := by
  have timing (other : EffectId) (_ : other < world.reactor.effects.size) :
      taken.reactor.timingOf other = world.reactor.timingOf other :=
    congrFun takes.timingOf_eq other
  have size : world.reactor.effects.size ≤ taken.reactor.effects.size :=
    Nat.le_of_eq (congrArg Array.size takes.effects).symm
  rcases takes.queues with ⟨early, late⟩ | ⟨none, settled, late⟩
  · exact orderly.of_sublist (early ▸ List.sublist_cons_self ..) (late ▸ .refl _) timing size
  · exact orderly.of_sublist (settled ▸ List.nil_sublist _) (late ▸ List.sublist_cons_self ..)
      timing size

theorem modest (takes : Takes effect world taken) (modest : Modest world after) :
    Modest taken after := by
  have same := takes.eventsSince_eq after
  constructor
  case plain =>
    exact fun began found => modest.plain (same ▸ began)
      ((Reactor.kindOf_of_effects takes.effects).symm.trans found)
  case unread =>
    intro effect dep running told timing
    rw [takes.timingOf_eq] at timing
    rw [takes.subscribersOf_eq, same]
    exact modest.unread (same ▸ told) timing
  case silent =>
    intro effect teller
    rw [takes.timingOf_eq]
    exact modest.silent (same ▸ teller)

end Takes

/-! ## Working the queues off -/

/-- Queues are being worked off, where listeners are plain and what is to come is modest. -/
structure Draining (world after : World) : Prop where
  hears : world.HearsPlain
  busy : world.reactor.idle = false
  linked : world.reactor.Linked
  orderly : world.reactor.Orderly
  modest : Modest world after

namespace Draining

theorem next (draining : Draining world after) (takes : Takes effect world taken) :
    Draining taken after where
  hears := draining.hears.of_steps takes.steps
  busy := takes.toKept.idle.trans draining.busy
  linked := draining.linked.of_eq takes.effects takes.subscribers
  orderly := takes.orderly draining.orderly
  modest := takes.modest draining.modest

theorem later (draining : Draining before after) (runs : RunsOnce effect before middle)
    (older : middle.reactor.history <:+ after.reactor.history) : Draining middle after where
  hears := draining.hears.of_steps runs.steps
  busy := runs.toKept.idle.trans draining.busy
  linked := runs.carries.linked draining.linked
  orderly := runs.carries.orderly draining.linked draining.orderly
  modest := draining.modest.later draining.linked runs.carries older

end Draining

namespace Act

/--
Do the effects end well whose turns come as the queues are worked off, as far as the limit
allows?
-/
def unfailing (runner : Runner) : Nat → World → Bool
  | 0, _ => true
  | limit + 1, world =>
      match world.reactor.next? with
      | none => true
      | some (effect, rest) =>
          let taken := world.withReactor fun _ => rest
          if rest.isActive effect then
            ((runEffect runner effect).run taken).1.isOk &&
              unfailing runner limit ((runEffect runner effect).run taken).2
          else unfailing runner limit taken

/-- A run of an effect is noted at its beginning, whatever it does. -/
theorem older_runEffect (flushLimit nesting : Nat) {cell : Effect Body}
    (found : world.reactor.effects[effect]? = some cell) (active : cell.active = true) :
    .began effect :: world.reactor.history <:+
      ((runEffect (.bounded flushLimit nesting) effect).run world).2.reactor.history := by
  have performs := (respected_bounded_keepsWorld flushLimit nesting).perform
  rw [run_runEffect _ found, if_pos active, ← (Reactor.begins_beginRun world.reactor effect).began]
  exact (keeps_withActiveEffect (some effect) (performs cell.body)
    (world.withReactor (·.beginRun effect))).older

/-- An active effect runs once when its turn has come. -/
theorem runsOnce_of_draining (draining : Draining world after)
    (active : world.reactor.isActive effect = true)
    (older : ((runEffect (.bounded flushLimit nesting) effect).run world).2.reactor.history <:+
      after.reactor.history) :
    RunsOnce effect world ((runEffect (.bounded flushLimit nesting) effect).run world).2 := by
  obtain ⟨cell, known, alive⟩ := Reactor.found_of_isActive active
  obtain ⟨newer, same⟩ := (older_runEffect flushLimit nesting known alive).trans older
  -- that the effect is plain is known from the record, which only grows
  have since : after.reactor.eventsSince world.reactor = newer ++ [.began effect] := by
    refine Reactor.eventsSince_of_history ?_
    rw [← same, List.append_assoc]
    rfl
  have plain : cell.body.isPlain = true :=
    draining.modest.plain (since ▸ List.mem_append_right _ List.mem_cons_self)
      (Reactor.kindOf_of_found known)
  have each : Along (Plainly (Proceeds false))
      ((Runner.bounded flushLimit nesting).perform cell.body) := Runner.proceeds_perform plain
  have busy : (world.begun effect).reactor.idle = false :=
    (Reactor.begins_beginRun world.reactor effect).toKept.idle.trans draining.busy
  have hears : (world.begun effect).HearsPlain := draining.hears.of_steps fun _ => rfl
  exact runsOnce_runEffect known alive (each _ hears busy)

/-- What is left of working the queues off, when the next turns have been taken. -/
structure Left (flushLimit nesting limit : Nat) (result : Except Fault Unit)
    (world after : World) : Prop where
  draining : Draining world after
  well : unfailing (.bounded flushLimit nesting) limit world = true
  ran : (drain (.bounded flushLimit nesting) limit).run world = (result, after)

variable {limit : Nat} {result : Except Fault Unit}

/--
Working the queues off ends where nothing waits; or it goes on after the next effect, which
was stopped, or which runs once.
-/
theorem Left.cases (left : Left flushLimit nesting (limit + 1) result world after) :
    (world.reactor.preQueue = [] ∧ world.reactor.postQueue = [] ∧ result = .ok () ∧
        after = world) ∨
      ∃ effect taken, Takes effect world taken ∧
        (taken.reactor.isActive effect = false ∧
            Left flushLimit nesting limit result taken after ∨
          taken.reactor.isActive effect = true ∧ ∃ middle, RunsOnce effect taken middle ∧
            middle.reactor.history <:+ after.reactor.history ∧
              Left flushLimit nesting limit result middle after) := by
  obtain ⟨draining, well, ran⟩ := left
  cases found : world.reactor.next? with
  | none =>
      rw [run_drain_none _ limit found] at ran
      obtain ⟨rfl, rfl⟩ := Prod.mk.inj ran
      obtain ⟨early, late⟩ := not_waits_of_next?_none found
      exact .inl ⟨early, late, rfl, rfl⟩
  | some entry =>
      obtain ⟨effect, rest⟩ := entry
      have takes := takes_next? found
      have draining := draining.next takes
      refine .inr ⟨effect, _, takes, ?_⟩
      rw [run_drain_next _ limit found] at ran
      rw [unfailing, found] at well
      dsimp only at well
      by_cases active : rest.isActive effect = true
      · rw [if_pos active] at ran well
        obtain ⟨good, well⟩ := (Bool.and_eq_true _ _).mp well
        obtain ⟨value, begun⟩ := exists_run_of_isOk good
        rw [run_bind_of_ok begun] at ran
        have performs := (respected_bounded_keepsWorld flushLimit nesting).perform
        have older := (drain_spec performs limit ran).1.older
        have runs := runsOnce_of_draining draining active older
        exact .inr ⟨active, _, runs, older, draining.later runs older, well, ran⟩
      · rw [if_neg active] at ran well
        exact .inl ⟨Bool.eq_false_iff.mpr active, draining, well, ran⟩

/-! ## Two phases -/

/-- Where no effect waits that derives values, the others run in order and tell nothing. -/
theorem Left.late (left : Left flushLimit nesting limit result world after)
    (settled : world.reactor.preQueue = []) (ample : world.reactor.postQueue.length < limit) :
    result = .ok () ∧
      runsIn (after.reactor.eventsSince world.reactor) =
        world.reactor.postQueue.filter world.reactor.isActive ∧
      ∀ dep running, .told dep running ∉ after.reactor.eventsSince world.reactor := by
  induction limit generalizing world with
  | zero => exact absurd ample (Nat.not_lt_zero _)
  | succ limit ih =>
      rcases left.cases with ⟨-, none, well, rfl⟩ | ⟨effect, taken, takes, next⟩
      · rw [Reactor.eventsSince_of_same rfl, none]
        exact ⟨well, rfl, fun _ _ => List.not_mem_nil⟩
      · obtain ⟨settled, waits⟩ : taken.reactor.preQueue = [] ∧
            world.reactor.postQueue = effect :: taken.reactor.postQueue := by
          rcases takes.queues with ⟨early, -⟩ | ⟨-, late⟩
          · cases settled.symm.trans early
          · exact late
        have draining := left.draining
        have timing := draining.orderly.post (waits ▸ List.mem_cons_self)
        rw [waits, List.length_cons] at ample
        have ample := Nat.lt_of_succ_lt_succ ample
        rw [← takes.eventsSince_eq, ← takes.isActive_eq, waits]
        rcases next with ⟨stopped, left⟩ | ⟨active, middle, runs, older, left⟩
        · rw [List.filter_cons_of_neg (Bool.eq_false_iff.mp stopped)]
          exact ih left settled ample
        · have joined := Reactor.eventsSince_trans runs.older older
          have since : after.reactor.eventsSince taken.reactor =
              after.reactor.eventsSince world.reactor := takes.eventsSince_eq after
          have untold (dep : DepId) (running : Option EffectId) :
              .told dep running ∉ middle.reactor.eventsSince taken.reactor := by
            intro told
            have teller : effect ∈ tellers (after.reactor.eventsSince middle.reactor ++
                middle.reactor.eventsSince taken.reactor) :=
              mem_tellers_append_right (runs.mem_tellers told)
            rw [← joined, since] at teller
            rw [draining.modest.silent teller] at timing
            cases timing
          have linked := (draining.next takes).linked
          have preQueue := runs.carries.preQueue_eq linked
          have postQueue := runs.carries.postQueue_eq linked
          rw [triggered_of_untold untold] at preQueue postQueue
          obtain ⟨well, later, silent⟩ := ih left (preQueue.trans settled) (postQueue ▸ ample)
          rw [postQueue, runs.carries.isActive_eq] at later
          rw [joined, runsIn_append, runs.runsIn_eq, later, List.filter_cons_of_pos active]
          refine ⟨well, rfl, fun dep running told => ?_⟩
          exact (List.mem_append.mp told).elim (silent dep running) (untold dep running)

/--
The effects run that wait to derive values; then those that wait to use values, and those
which the first ones have triggered.
-/
theorem Left.phases (left : Left flushLimit nesting limit result world after)
    (ample : world.reactor.preQueue.length + world.reactor.effects.size < limit) :
    result = .ok () ∧
      runsIn (after.reactor.eventsSince world.reactor) =
        world.reactor.preQueue.filter world.reactor.isActive ++
          (world.reactor.agenda.after world.reactor.timingOf
            (after.reactor.eventsSince world.reactor)).late.filter world.reactor.isActive := by
  induction limit generalizing world with
  | zero => exact absurd ample (Nat.not_lt_zero _)
  | succ limit ih =>
      have draining := left.draining
      by_cases settled : world.reactor.preQueue = []
      · have few := draining.orderly.length_postQueue_le
        have ample : world.reactor.postQueue.length < limit + 1 :=
          Nat.lt_of_le_of_lt (Nat.le_trans few (Nat.le_add_left ..)) ample
        obtain ⟨well, later, silent⟩ := left.late settled ample
        rw [later, settled, Agenda.after, triggered_of_untold silent]
        exact ⟨well, rfl⟩
      · rcases left.cases with ⟨none, -⟩ | ⟨effect, taken, takes, next⟩
        · exact absurd none settled
        · obtain ⟨waits, same⟩ := takes.queues.resolve_right fun late => settled late.1
          have draining := draining.next takes
          rw [waits, List.length_cons] at ample
          have ample : taken.reactor.preQueue.length + taken.reactor.effects.size < limit := by
            rw [takes.effects]
            omega
          have agenda (events : List Event) :
              (world.reactor.agenda.after taken.reactor.timingOf events).late =
                (taken.reactor.agenda.after taken.reactor.timingOf events).late := by
            unfold Agenda.after Reactor.agenda
            rw [takes.subscribersOf_eq, same]
          rw [← takes.eventsSince_eq, ← takes.isActive_eq, ← takes.timingOf_eq, waits, agenda]
          rcases next with ⟨stopped, left⟩ | ⟨active, middle, runs, older, left⟩
          · rw [List.filter_cons_of_neg (Bool.eq_false_iff.mp stopped)]
            exact ih left ample
          · have joined := Reactor.eventsSince_trans runs.older older
            have preQueue : middle.reactor.preQueue = taken.reactor.preQueue := by
              rw [runs.carries.preQueue_eq draining.linked,
                draining.modest.triggers_none_early joined]
              rfl
            have size := runs.carries.size
            obtain ⟨well, later⟩ := ih left (preQueue ▸ size ▸ ample)
            rw [preQueue, runs.carries.isActive_eq, runs.carries.timingOf_eq,
              runs.carries.agenda draining.linked fun _ _ => rfl, ← Agenda.after_append,
              ← joined] at later
            rw [List.filter_cons_of_pos active, joined, runsIn_append, runs.runsIn_eq, ← joined,
              later]
            exact ⟨well, rfl⟩

end Act

end ReactiveSchema
