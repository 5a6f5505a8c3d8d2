import ReactiveSchema.Proofs.Act.Steps
import ReactiveSchema.Proofs.Observe.Faces
import ReactiveSchema.Proofs.Reactive.Subscriptions

/-!
# Effects that only read

A run of an effect that only reads makes memory grow and subscribes the effect
to what it has read; it queues nothing and leaves all other effects alone.  So
where all effects only read, working off the queues runs the effects that
waited, and no other ones.
-/

namespace ReactiveSchema

namespace Reactor

variable {β : Type} {before middle after reactor : Reactor β} {effect other : EffectId}

/-- How often an effect has run. -/
def runsOf (reactor : Reactor β) (effect : EffectId) : Nat :=
  (reactor.effects[effect]?.map (·.runs)).getD 0

/-! ## One effect -/

/-- No more than the runs and subscriptions of one effect change. -/
structure Touches (effect : EffectId) (before after : Reactor β) : Prop where
  older : before.history <:+ after.history
  preQueue : after.preQueue = before.preQueue
  postQueue : after.postQueue = before.postQueue
  batchDepth : after.batchDepth = before.batchDepth
  flushing : after.flushing = before.flushing
  bodies (other : EffectId) : (after.effects[other]?).map (·.body) =
    (before.effects[other]?).map (·.body)
  active (other : EffectId) : after.isActive other = before.isActive other
  runs (other : EffectId) : other ≠ effect → after.runsOf other = before.runsOf other
  subscribers (other : EffectId) (dep : DepId) : other ≠ effect →
    (other ∈ after.subscribersOf dep ↔ other ∈ before.subscribersOf dep)

namespace Touches

theorem refl (reactor : Reactor β) : Touches effect reactor reactor :=
  ⟨List.suffix_rfl, rfl, rfl, rfl, rfl, fun _ => rfl, fun _ => rfl, fun _ _ => rfl,
    fun _ _ _ => Iff.rfl⟩

theorem trans (first : Touches effect before middle) (second : Touches effect middle after) :
    Touches effect before after where
  older := first.older.trans second.older
  preQueue := second.preQueue.trans first.preQueue
  postQueue := second.postQueue.trans first.postQueue
  batchDepth := second.batchDepth.trans first.batchDepth
  flushing := second.flushing.trans first.flushing
  bodies other := (second.bodies other).trans (first.bodies other)
  active other := (second.active other).trans (first.active other)
  runs other apart := (second.runs other apart).trans (first.runs other apart)
  subscribers other dep apart :=
    (second.subscribers other dep apart).trans (first.subscribers other dep apart)

end Touches

theorem bodies_modifyEffect {change : Effect β → Effect β}
    (same : ∀ cell, (change cell).body = cell.body) (other : EffectId) :
    ((reactor.modifyEffect effect change).effects[other]?).map (·.body) =
      (reactor.effects[other]?).map (·.body) := by
  rw [effects_getElem?_modifyEffect]
  split
  · cases reactor.effects[other]? with
    | none => rfl
    | some cell => exact congrArg some (same cell)
  · rfl

theorem runsOf_modifyEffect {change : Effect β → Effect β}
    (same : ∀ cell, (change cell).runs = cell.runs) (other : EffectId) :
    (reactor.modifyEffect effect change).runsOf other = reactor.runsOf other := by
  unfold runsOf
  rw [effects_getElem?_modifyEffect]
  split
  · cases reactor.effects[other]? with
    | none => rfl
    | some cell => exact same cell
  · rfl

theorem runsOf_modifyEffect_of_ne (change : Effect β → Effect β) (apart : other ≠ effect) :
    (reactor.modifyEffect effect change).runsOf other = reactor.runsOf other := by
  unfold runsOf
  rw [effects_getElem?_modifyEffect, if_neg apart]

theorem touches_subscribe (reactor : Reactor β) (effect : EffectId) (dep : DepId) :
    Touches effect reactor (reactor.subscribe effect dep) where
  older := List.suffix_rfl
  preQueue := rfl
  postQueue := rfl
  batchDepth := rfl
  flushing := rfl
  bodies other := by
    unfold subscribe
    refine Eq.trans (bodies_modifyEffect ?_ other) ?_
    · exact fun _ => rfl
    · rfl
  active other := isActive_subscribe
  runs other apart := by
    unfold subscribe
    exact runsOf_modifyEffect_of_ne _ apart
  subscribers other item apart := by
    rw [subscribersOf_subscribe]
    split
    case isTrue same =>
      subst same
      rw [mem_addNew]
      exact ⟨(·.resolve_right apart), .inl⟩
    case isFalse => rfl

theorem runsOf_subscribe (dep : DepId) :
    (reactor.subscribe effect dep).runsOf other = reactor.runsOf other := by
  unfold subscribe
  refine Eq.trans (runsOf_modifyEffect ?_ other) ?_
  · exact fun _ => rfl
  · rfl

theorem track_of_none (dep : DepId) (none : reactor.activeEffect = none) :
    reactor.track dep = reactor := by
  unfold track
  rw [none]

theorem trackAll_of_none (deps : List DepId) (none : reactor.activeEffect = none) :
    reactor.trackAll deps = reactor := by
  unfold trackAll
  induction deps with
  | nil => rfl
  | cons dep rest ih =>
      rw [List.foldl_cons, track_of_none dep none]
      exact ih

/-- Tracked reads of a running effect subscribe it, and change nothing else. -/
theorem touches_track (dep : DepId) (running : reactor.activeEffect = some effect) :
    Touches effect reactor (reactor.track dep) ∧
      (reactor.track dep).activeEffect = some effect ∧
        ∀ other, (reactor.track dep).runsOf other = reactor.runsOf other := by
  unfold track
  rw [running]
  dsimp only
  split
  case isTrue =>
    have touched := touches_subscribe reactor effect dep
    refine ⟨touched.trans ?_, running, fun other => runsOf_subscribe dep⟩
    exact ⟨List.suffix_cons _ _, rfl, rfl, rfl, rfl, fun _ => rfl, fun _ => rfl, fun _ _ => rfl,
      fun _ _ _ => Iff.rfl⟩
  case isFalse => exact ⟨.refl reactor, running, fun _ => rfl⟩

theorem touches_trackAll (deps : List DepId) (running : reactor.activeEffect = some effect) :
    Touches effect reactor (reactor.trackAll deps) ∧
      (reactor.trackAll deps).activeEffect = some effect ∧
        ∀ other, (reactor.trackAll deps).runsOf other = reactor.runsOf other := by
  unfold trackAll
  induction deps generalizing reactor with
  | nil => exact ⟨.refl reactor, running, fun _ => rfl⟩
  | cons dep rest ih =>
      obtain ⟨touched, still, runs⟩ := touches_track dep running
      obtain ⟨touched', still', runs'⟩ := ih still
      exact ⟨touched.trans touched', still', fun other => (runs' other).trans (runs other)⟩

theorem touches_beginRun (reactor : Reactor β) (effect : EffectId) :
    Touches effect reactor (reactor.beginRun effect) := by
  obtain ⟨subscribers, same⟩ := fields_dropAll effect (reactor.depsOf effect) reactor
  have ended : Touches effect reactor (reactor.unsubscribe effect) := by
    constructor
    case older => unfold unsubscribe; rw [same]; exact List.suffix_rfl
    case preQueue => unfold unsubscribe; rw [same]; rfl
    case postQueue => unfold unsubscribe; rw [same]; rfl
    case batchDepth => unfold unsubscribe; rw [same]; rfl
    case flushing => unfold unsubscribe; rw [same]; rfl
    case bodies =>
      intro other
      unfold unsubscribe
      rw [same]
      refine Eq.trans (bodies_modifyEffect ?_ other) ?_
      · exact fun _ => rfl
      · rfl
    case active => exact fun _ => isActive_unsubscribe
    case runs =>
      intro other apart
      unfold unsubscribe
      rw [same]
      exact runsOf_modifyEffect_of_ne _ apart
    case subscribers => exact fun other dep apart => mem_subscribersOf_unsubscribe apart
  refine ended.trans ⟨List.suffix_cons _ _, rfl, rfl, rfl, rfl, ?_, ?_, ?_, fun _ _ _ => Iff.rfl⟩
  · exact bodies_modifyEffect fun _ => rfl
  · exact fun other => isActive_modifyEffect fun _ => rfl
  · exact fun other apart => runsOf_modifyEffect_of_ne _ apart

theorem runsOf_beginRun (active : reactor.isActive effect = true) :
    (reactor.beginRun effect).runsOf effect = reactor.runsOf effect + 1 := by
  obtain ⟨subscribers, same⟩ := fields_dropAll effect (reactor.depsOf effect) reactor
  unfold isActive at active
  unfold beginRun unsubscribe note runsOf
  rw [same]
  dsimp only
  rw [effects_getElem?_modifyEffect, if_pos rfl, effects_getElem?_modifyEffect, if_pos rfl]
  cases found : reactor.effects[effect]? with
  | none => rw [found] at active; cases active
  | some cell => rfl

theorem activeEffect_beginRun :
    (reactor.beginRun effect).activeEffect = reactor.activeEffect := by
  obtain ⟨effects, subscribers, same⟩ := fields_unsubscribe reactor effect
  unfold beginRun
  rw [same]
  rfl

theorem touches_asEffect (running : Option EffectId) (reactor : Reactor β) :
    Touches effect reactor (reactor.asEffect running) :=
  ⟨List.suffix_rfl, rfl, rfl, rfl, rfl, fun _ => rfl, fun _ => rfl, fun _ _ => rfl,
    fun _ _ _ => Iff.rfl⟩

/-! ## All effects -/

/-- Effects may have run again; those that have not are subscribed as they were. -/
structure Tends (before after : Reactor β) : Prop where
  older : before.history <:+ after.history
  batchDepth : after.batchDepth = before.batchDepth
  flushing : after.flushing = before.flushing
  activeEffect : after.activeEffect = before.activeEffect
  bodies (effect : EffectId) : (after.effects[effect]?).map (·.body) =
    (before.effects[effect]?).map (·.body)
  active (effect : EffectId) : after.isActive effect = before.isActive effect
  runs (effect : EffectId) : before.runsOf effect ≤ after.runsOf effect
  still (effect : EffectId) (dep : DepId) : after.runsOf effect = before.runsOf effect →
    (effect ∈ after.subscribersOf dep ↔ effect ∈ before.subscribersOf dep)

namespace Tends

theorem refl (reactor : Reactor β) : Tends reactor reactor :=
  ⟨List.suffix_rfl, rfl, rfl, rfl, fun _ => rfl, fun _ => rfl, fun _ => Nat.le_refl _,
    fun _ _ _ => Iff.rfl⟩

theorem trans (first : Tends before middle) (second : Tends middle after) :
    Tends before after where
  older := first.older.trans second.older
  batchDepth := second.batchDepth.trans first.batchDepth
  flushing := second.flushing.trans first.flushing
  activeEffect := second.activeEffect.trans first.activeEffect
  bodies effect := (second.bodies effect).trans (first.bodies effect)
  active effect := (second.active effect).trans (first.active effect)
  runs effect := Nat.le_trans (first.runs effect) (second.runs effect)
  still effect dep same := by
    have low := first.runs effect
    have high := second.runs effect
    have early : middle.runsOf effect = before.runsOf effect :=
      Nat.le_antisymm (same ▸ high) low
    have late : after.runsOf effect = middle.runsOf effect := same.trans early.symm
    exact (second.still effect dep late).trans (first.still effect dep early)

/-- What changes neither effects nor subscriptions, nor what is set for a time. -/
theorem of_eq (older : before.history <:+ after.history) (effects : after.effects = before.effects)
    (subscribers : after.subscribers = before.subscribers)
    (batchDepth : after.batchDepth = before.batchDepth)
    (flushing : after.flushing = before.flushing)
    (activeEffect : after.activeEffect = before.activeEffect) : Tends before after where
  older := older
  batchDepth := batchDepth
  flushing := flushing
  activeEffect := activeEffect
  bodies effect := by rw [effects]
  active effect := by unfold isActive; rw [effects]
  runs effect := Nat.le_of_eq (by unfold runsOf; rw [effects])
  still effect dep _ := by unfold subscribersOf; rw [subscribers]

end Tends

/-- What touches one effect that has run again tends to all. -/
theorem Touches.tends (touched : Touches effect before after)
    (activeEffect : after.activeEffect = before.activeEffect)
    (again : before.runsOf effect < after.runsOf effect) : Tends before after where
  older := touched.older
  batchDepth := touched.batchDepth
  flushing := touched.flushing
  activeEffect := activeEffect
  bodies := touched.bodies
  active := touched.active
  runs other := by
    by_cases same : other = effect
    · subst same
      exact Nat.le_of_lt again
    · exact Nat.le_of_eq (touched.runs other same).symm
  still other dep unchanged := by
    by_cases same : other = effect
    · subst same
      exact absurd unchanged (Nat.ne_of_gt again)
    · exact touched.subscribers other dep same

end Reactor

/-! ## In the world -/

/-- Memory has grown and the running effect has read, and nothing else has happened. -/
structure Observed (before after : World) : Prop where
  memory : Memory.Grows before.memory after.memory
  tracked : ∃ deps, after.reactor = before.reactor.trackAll deps

theorem composable_observed : Composable Observed where
  refl world := ⟨.refl world.memory, [], rfl⟩
  trans first second := by
    obtain ⟨deps, tracked⟩ := first.tracked
    obtain ⟨more, tracked'⟩ := second.tracked
    refine ⟨first.memory.trans second.memory, deps ++ more, ?_⟩
    rw [tracked', tracked]
    unfold Reactor.trackAll
    rw [List.foldl_append]

/-- Memory as looking begins with it. -/
def Memory.seeing (memory : Memory) (outlook : HandleKind → Nat → Outlook) : Memory :=
  { memory with outlook }

/-- Memory as looking leaves it behind. -/
def Memory.settled (memory : Memory) : Memory :=
  { memory with reads := [], outlook := Memory.empty.outlook }

theorem Memory.grows_seeing (memory : Memory) (outlook : HandleKind → Nat → Outlook) :
    Memory.Grows memory (memory.seeing outlook) :=
  .of_plain (begins_refl _) (begins_refl _) (begins_refl _) (begins_refl _) (begins_refl _)
    rfl rfl (Nat.le_refl _)

theorem Memory.grows_settled (memory : Memory) : Memory.Grows memory memory.settled :=
  .of_plain (begins_refl _) (begins_refl _) (begins_refl _) (begins_refl _) (begins_refl _)
    rfl rfl (Nat.le_refl _)

namespace Act

variable {α : Type} {world after : World}

theorem run_observe (look : Observe α) (world : World) :
    (observe look).run world =
      ((look.run (world.memory.seeing world.outlook)).1,
        { world with
          memory := (look.run (world.memory.seeing world.outlook)).2.settled
          reactor := world.reactor.trackAll
            (look.run (world.memory.seeing world.outlook)).2.reads.reverse }) := rfl

/-- Looking that makes memory grow is no more than reading. -/
theorem observed_observe {look : Observe α} (grows : Along Memory.Grows look) :
    Along Observed (observe look) := by
  intro world
  rw [run_observe]
  refine ⟨?_, _, rfl⟩
  exact ((Memory.grows_seeing _ _).trans (grows _)).trans (Memory.grows_settled _)

theorem run_of_observe {look : Observe α} {result : Except Fault α}
    (ran : (observe look).run world = (result, after)) :
    ∃ memory, look.run (world.memory.seeing world.outlook) = (result, memory) ∧
      after.memory = memory.settled := by
  rw [run_observe] at ran
  obtain ⟨rfl, rfl⟩ := Prod.mk.inj ran
  exact ⟨_, rfl, rfl⟩

/-- Looking while no effect runs leaves the effects alone. -/
theorem observe_ok {look : Observe α} {result : Except Fault α}
    (calm : world.reactor.activeEffect = none)
    (ran : (observe look).run world = (result, after)) :
    ∃ memory, look.run (world.memory.seeing world.outlook) = (result, memory) ∧
      after = { world with memory := memory.settled } := by
  rw [run_observe, Reactor.trackAll_of_none _ calm] at ran
  obtain ⟨rfl, rfl⟩ := Prod.mk.inj ran
  exact ⟨_, rfl, rfl⟩

/-- All effects only read. -/
def Readers (runner : Runner) (reactor : Reactor Body) : Prop :=
  ∀ (effect : EffectId) (cell : Effect Body),
    reactor.effects[effect]? = some cell → Along Observed (runner.perform cell.body)

theorem Readers.tends {runner : Runner} {before after : Reactor Body}
    (readers : Readers runner before) (tends : Reactor.Tends before after) :
    Readers runner after := by
  intro effect cell found
  have same := tends.bodies effect
  rw [found] at same
  cases known : before.effects[effect]? with
  | none => rw [known] at same; cases same
  | some earlier =>
      rw [known] at same
      have same : cell.body = earlier.body := Option.some.inj same
      rw [same]
      exact readers effect earlier known

/-- Memory has grown, and effects may have run again. -/
structure Tended (before after : World) : Prop where
  memory : Memory.Grows before.memory after.memory
  reactor : Reactor.Tends before.reactor after.reactor

theorem Tended.refl (world : World) : Tended world world :=
  ⟨.refl _, .refl _⟩

theorem Tended.trans {before middle after : World} (first : Tended before middle)
    (second : Tended middle after) : Tended before after :=
  ⟨first.memory.trans second.memory, first.reactor.trans second.reactor⟩

variable {runner : Runner} {result : Except Fault Value} {effect : EffectId}

/-- A run of an active effect that only reads. -/
theorem tended_runEffect (readers : Readers runner world.reactor)
    (active : world.reactor.isActive effect = true)
    (ran : (runEffect runner effect).run world = (result, after)) :
    Tended world after ∧ Reactor.Touches effect world.reactor after.reactor ∧
      world.reactor.runsOf effect < after.reactor.runsOf effect := by
  cases found : world.reactor.effects[effect]? with
  | none =>
      unfold Reactor.isActive at active
      rw [found] at active
      cases active
  | some cell =>
      have running : cell.active = true := by
        unfold Reactor.isActive at active
        rw [found] at active
        exact active
      rw [run_runEffect runner found, if_pos running, run_withActiveEffect] at ran
      have observed := readers effect cell found
        ((world.withReactor (·.beginRun effect)).withReactor (.asEffect (some effect)))
      obtain ⟨deps, tracked⟩ := observed.tracked
      obtain ⟨-, rfl⟩ := Prod.mk.inj ran
      have begun := Reactor.touches_beginRun world.reactor effect
      have running : ((world.reactor.beginRun effect).asEffect (some effect)).activeEffect =
          some effect := rfl
      obtain ⟨during, -, runs⟩ := Reactor.touches_trackAll deps running
      change _ = ((world.reactor.beginRun effect).asEffect (some effect)).trackAll deps at tracked
      rw [← tracked] at during runs
      have touched := (begun.trans (Reactor.touches_asEffect _ _)).trans during
      have outer : (world.reactor.beginRun effect).activeEffect = world.reactor.activeEffect :=
        Reactor.activeEffect_beginRun
      have touched := touched.trans (Reactor.touches_asEffect
        (world.reactor.beginRun effect).activeEffect _)
      have again : world.reactor.runsOf effect < world.reactor.runsOf effect + 1 :=
        Nat.lt_succ_self _
      rw [← Reactor.runsOf_beginRun active] at again
      have again := Nat.lt_of_lt_of_eq again (runs effect).symm
      exact ⟨⟨observed.memory, touched.tends outer again⟩, touched, again⟩

/-! ## Queues -/

/-- An effect waits in one of the queues. -/
def Waits (reactor : Reactor Body) (effect : EffectId) : Prop :=
  effect ∈ reactor.preQueue ∨ effect ∈ reactor.postQueue

/-- Taking the next effect off the queues takes one that waited. -/
theorem waits_next? {reactor rest : Reactor Body}
    (found : reactor.next? = some (effect, rest)) :
    Waits reactor effect ∧ Reactor.Tends reactor rest ∧ rest.activeEffect = reactor.activeEffect ∧
      (∀ other, Waits reactor other ↔ other = effect ∨ Waits rest other) ∧
        rest.effects = reactor.effects := by
  unfold Reactor.next? at found
  unfold Waits
  split at found
  · rename_i first queue same
    cases found
    rw [same]
    refine ⟨.inl List.mem_cons_self, .of_eq List.suffix_rfl rfl rfl rfl rfl rfl, rfl, fun other => ?_, rfl⟩
    simp [or_assoc]
  · rename_i first queue empty same
    cases found
    rw [empty, same]
    refine ⟨.inr List.mem_cons_self, .of_eq List.suffix_rfl rfl rfl rfl rfl rfl, rfl, fun other => ?_, rfl⟩
    simp
  · cases found

theorem not_waits_of_next?_none {reactor : Reactor Body} (found : reactor.next? = none) :
    reactor.preQueue = [] ∧ reactor.postQueue = [] := by
  unfold Reactor.next? at found
  split at found
  · cases found
  · cases found
  · rename_i first last
    exact ⟨first, last⟩

/--
Working the queues off where all effects only read: what waited has run again if it
was active, and nothing else has run.
-/
theorem tended_drain (limit : Nat) {result : Unit}
    (readers : Readers runner world.reactor)
    (ran : (drain runner limit).run world = (.ok result, after)) :
    Tended world after ∧ after.reactor.preQueue = [] ∧ after.reactor.postQueue = [] ∧
      ∀ effect,
        (Waits world.reactor effect → world.reactor.isActive effect = true →
          world.reactor.runsOf effect < after.reactor.runsOf effect) ∧
        (¬ Waits world.reactor effect →
          after.reactor.runsOf effect = world.reactor.runsOf effect) := by
  induction limit generalizing world with
  | zero =>
      obtain ⟨never, -⟩ := Prod.mk.inj ran
      cases never
  | succ limit ih =>
      cases found : world.reactor.next? with
      | none =>
          rw [run_drain_none runner limit found] at ran
          obtain ⟨-, rfl⟩ := Prod.mk.inj ran
          obtain ⟨first, last⟩ := not_waits_of_next?_none found
          refine ⟨.refl world, first, last, fun effect => ⟨fun waits => ?_, fun _ => rfl⟩⟩
          unfold Waits at waits
          rw [first, last] at waits
          simp at waits
      | some entry =>
          obtain ⟨first, rest⟩ := entry
          obtain ⟨-, taken, -, waits, effects⟩ := waits_next? found
          have readers : Readers runner (world.withReactor fun _ => rest).reactor :=
            readers.tends taken
          have runs (effect : EffectId) : rest.runsOf effect = world.reactor.runsOf effect := by
            unfold Reactor.runsOf
            rw [effects]
          have next : Tended world (world.withReactor fun _ => rest) := ⟨.refl _, taken⟩
          rw [run_drain_next runner limit found] at ran
          split at ran
          case isTrue active =>
            obtain ⟨_, middle, once, later⟩ := run_bind_ok ran
            obtain ⟨tended, touched, again⟩ := tended_runEffect readers active once
            obtain ⟨tended', empty, empty', all⟩ := ih (readers.tends tended.reactor) later
            have same (effect : EffectId) : Waits middle.reactor effect ↔ Waits rest effect := by
              unfold Waits
              rw [touched.preQueue, touched.postQueue]
              rfl
            refine ⟨(next.trans tended).trans tended', empty, empty', fun effect => ⟨?_, ?_⟩⟩
            · intro waiting alive
              rw [← runs]
              rcases (waits effect).mp waiting with rfl | waiting
              · exact Nat.lt_of_lt_of_le again (tended'.reactor.runs effect)
              · refine Nat.lt_of_le_of_lt (tended.reactor.runs effect) ((all effect).1 ?_ ?_)
                · exact (same effect).mpr waiting
                · rw [← alive]
                  exact (tended.reactor.active effect).trans (taken.active effect)
            · intro idle
              have apart : effect ≠ first := fun same => idle ((waits effect).mpr (.inl same))
              have idle : ¬ Waits middle.reactor effect := fun waiting =>
                idle ((waits effect).mpr (.inr ((same effect).mp waiting)))
              rw [(all effect).2 idle, touched.runs effect apart]
              exact runs effect
          case isFalse stopped =>
            obtain ⟨tended', empty, empty', all⟩ := ih readers ran
            refine ⟨next.trans tended', empty, empty', fun effect => ⟨?_, ?_⟩⟩
            · intro waiting alive
              rw [← runs]
              rcases (waits effect).mp waiting with rfl | waiting
              · rw [← taken.active] at alive
                exact absurd alive stopped
              · exact (all effect).1 waiting (by rw [← alive]; exact taken.active effect)
            · intro idle
              have idle : ¬ Waits rest effect := fun waiting => idle ((waits effect).mpr (.inr waiting))
              rw [(all effect).2 idle]
              exact runs effect

/-- No effect runs or waits, and no batch is open. -/
structure AtRest (reactor : Reactor Body) : Prop where
  activeEffect : reactor.activeEffect = none
  batchDepth : reactor.batchDepth = 0
  flushing : reactor.flushing = false
  preQueue : reactor.preQueue = []
  postQueue : reactor.postQueue = []

theorem AtRest.not_waits {reactor : Reactor Body} (rest : AtRest reactor) (effect : EffectId) :
    ¬ Waits reactor effect := by
  unfold Waits
  rw [rest.preQueue, rest.postQueue]
  simp

/-- A flush likewise. -/
theorem tended_flush {result : Unit} (readers : Readers runner world.reactor)
    (still : world.reactor.flushing = false)
    (ran : (flush runner).run world = (.ok result, after)) :
    Tended world after ∧ after.reactor.preQueue = [] ∧ after.reactor.postQueue = [] ∧
      ∀ effect,
        (Waits world.reactor effect → world.reactor.isActive effect = true →
          world.reactor.runsOf effect < after.reactor.runsOf effect) ∧
        (¬ Waits world.reactor effect →
          after.reactor.runsOf effect = world.reactor.runsOf effect) := by
  rw [run_flush, run_notingCut] at ran
  rcases drained : (drain runner runner.flushLimit).run (world.withReactor (.whileFlushing true))
    with ⟨fault | value, late⟩ <;> rw [drained] at ran
  · cases (Prod.mk.inj ran).1
  · obtain ⟨-, rfl⟩ := Prod.mk.inj ran
    have readers : Readers runner (world.withReactor (.whileFlushing true)).reactor := readers
    obtain ⟨tended, empty, empty', all⟩ := tended_drain _ readers drained
    have reactor := tended.reactor
    refine ⟨⟨tended.memory, ?_⟩, empty, empty', all⟩
    exact ⟨reactor.older, reactor.batchDepth, still.symm, reactor.activeEffect, reactor.bodies,
      reactor.active, reactor.runs, reactor.still⟩

end Act

end ReactiveSchema
