import ReactiveSchema.Proofs.Act.Respect
import ReactiveSchema.Proofs.Memory.Overwrite
import ReactiveSchema.Proofs.Reactive.Readers
import ReactiveSchema.Proofs.Reactive.Wake

/-!
# Telling the readers of a key

A write through a live map, made while nothing runs, reaches the plain map and
tells the key in a batch of its own.  Where all effects only read, the end of
the batch runs the effects that had read the key, and no other ones; a write
that tells of no change leaves the effects as they were.
-/

namespace ReactiveSchema

namespace Reactor

variable {β : Type} {reactor : Reactor β} {effect other : EffectId}

/-- Queue the readers of tracked state that is told to have changed. -/
def telling (dep : DepId) (reactor : Reactor β) : Reactor β :=
  (reactor.subscribersOf dep).foldl enqueue (reactor.note (.told dep none))

theorem tends_enqueue (reactor : Reactor β) (effect : EffectId) :
    Tends reactor (reactor.enqueue effect) := by
  unfold enqueue
  split
  · exact .of_eq List.suffix_rfl rfl rfl rfl rfl rfl
  · exact .of_eq List.suffix_rfl rfl rfl rfl rfl rfl

theorem fields_enqueue (reactor : Reactor β) (effect : EffectId) :
    (reactor.enqueue effect).effects = reactor.effects ∧
      (reactor.enqueue effect).subscribers = reactor.subscribers := by
  unfold enqueue
  split
  · exact ⟨rfl, rfl⟩
  · exact ⟨rfl, rfl⟩

theorem fields_enqueueAll (effects : List EffectId) (reactor : Reactor β) :
    (effects.foldl enqueue reactor).effects = reactor.effects ∧
      (effects.foldl enqueue reactor).subscribers = reactor.subscribers := by
  induction effects generalizing reactor with
  | nil => exact ⟨rfl, rfl⟩
  | cons effect rest ih =>
      obtain ⟨effects, subscribers⟩ := ih (reactor.enqueue effect)
      obtain ⟨effects', subscribers'⟩ := fields_enqueue reactor effect
      exact ⟨effects.trans effects', subscribers.trans subscribers'⟩

theorem tends_enqueueAll (effects : List EffectId) (reactor : Reactor β) :
    Tends reactor (effects.foldl enqueue reactor) := by
  induction effects generalizing reactor with
  | nil => exact .refl reactor
  | cons effect rest ih => exact (tends_enqueue reactor effect).trans (ih (reactor.enqueue effect))

theorem tends_telling (dep : DepId) (reactor : Reactor β) :
    Tends reactor (reactor.telling dep) := by
  have noted : Tends reactor (reactor.note (.told dep none)) :=
    .of_eq (List.suffix_cons _ _) rfl rfl rfl rfl rfl
  exact noted.trans (tends_enqueueAll _ _)

theorem runsOf_telling (dep : DepId) :
    (reactor.telling dep).runsOf effect = reactor.runsOf effect := by
  unfold runsOf telling
  rw [(fields_enqueueAll _ _).1]
  rfl

theorem subscribersOf_telling (dep item : DepId) :
    (reactor.telling dep).subscribersOf item = reactor.subscribersOf item := by
  unfold telling subscribersOf
  rw [(fields_enqueueAll _ _).2]
  rfl

/-- What has happened in a batch has happened when the batch is left. -/
theorem Tends.ofBatch {before after : Reactor β}
    (tends : Tends before.deeper after) : Tends before after.shallower where
  older := tends.older
  batchDepth := congrArg (· - 1) tends.batchDepth
  flushing := tends.flushing
  activeEffect := tends.activeEffect
  bodies := tends.bodies
  active := tends.active
  runs := tends.runs
  still := tends.still

end Reactor

namespace Act

variable {world after : World} {runner : Runner} {effect : EffectId}

theorem waits_enqueue {reactor : Reactor Body} {queued : EffectId} :
    Waits (reactor.enqueue queued) effect ↔ Waits reactor effect ∨ effect = queued := by
  unfold Waits Reactor.enqueue
  split
  · simp only [Reactor.mem_addNew, or_assoc]
  · simp only [Reactor.mem_addNew]
    constructor
    · rintro ((first | same) | last)
      · exact .inl (.inl first)
      · exact .inr same
      · exact .inl (.inr last)
    · rintro ((first | last) | same)
      · exact .inl (.inl first)
      · exact .inr last
      · exact .inl (.inr same)

theorem waits_enqueueAll {reactor : Reactor Body} {effects : List EffectId} :
    Waits (effects.foldl Reactor.enqueue reactor) effect ↔
      Waits reactor effect ∨ effect ∈ effects := by
  induction effects generalizing reactor with
  | nil => simp
  | cons queued rest ih =>
      rw [List.foldl_cons, ih, waits_enqueue, List.mem_cons, or_assoc]

theorem waits_telling {reactor : Reactor Body} {dep : DepId} :
    Waits (reactor.telling dep) effect ↔
      Waits reactor effect ∨ effect ∈ reactor.subscribersOf dep := by
  unfold Reactor.telling
  exact waits_enqueueAll

/-! ## Batches -/

/-- While something defers them, effects are only queued. -/
theorem run_scheduleAll_busy (current : Option EffectId) (effects : List EffectId)
    (busy : world.reactor.idle = false) :
    (scheduleAll runner current effects).run world =
      (.ok (), world.withReactor fun reactor =>
        (effects.filter (some · != current)).foldl .enqueue reactor) := by
  induction effects generalizing world with
  | nil => rfl
  | cons effect rest ih =>
      unfold scheduleAll
      split
      case isTrue other =>
        have busy : (world.reactor.enqueue effect).idle = false :=
          (Reactor.kept_enqueue world.reactor effect).idle.trans busy
        rw [run_bind, run_schedule, if_neg (by rw [busy]; exact Bool.false_ne_true)]
        dsimp only
        have queued : (effect :: rest).filter (some · != current) =
            effect :: rest.filter (some · != current) := List.filter_cons_of_pos other
        rw [ih busy, queued]
        rfl
      case isFalse own =>
        have left : (effect :: rest).filter (some · != current) =
            rest.filter (some · != current) := List.filter_cons_of_neg own
        rw [ih busy, left]

/-- At top level, a single reader is queued, and the queues are worked off. -/
theorem run_trigger_single {dep : DepId} (calm : world.reactor.activeEffect = none)
    (idle : world.reactor.idle = true) (single : world.reactor.subscribersOf dep = [effect]) :
    (trigger runner dep).run world = (flush runner).run
      ((world.withReactor (·.note (.told dep none))).withReactor (·.enqueue effect)) := by
  have idle : ((world.withReactor (·.note (.told dep none))).reactor.enqueue effect).idle = true :=
    (Reactor.kept_enqueue _ effect).idle.trans idle
  rw [run_trigger, calm, single, scheduleAll, if_pos (by rfl), run_bind, run_schedule, if_pos idle]
  rcases (flush runner).run ((world.withReactor (·.note (.told dep none))).withReactor
    (·.enqueue effect)) with ⟨fault | _, after⟩
  · rfl
  · rfl

theorem run_trigger_deferred (dep : DepId) (calm : world.reactor.activeEffect = none)
    (deferred : world.reactor.batchDepth ≠ 0) :
    (trigger runner dep).run world = (.ok (), world.withReactor (·.telling dep)) := by
  have busy : (world.withReactor (·.note (.told dep none))).reactor.idle = false := by
    simp [Reactor.idle, Reactor.note, deferred]
  have all : (world.reactor.subscribersOf dep).filter (some · != none) =
      world.reactor.subscribersOf dep := List.filter_eq_self.mpr fun _ _ => rfl
  rw [run_trigger, calm, run_scheduleAll_busy _ _ busy, all]
  rfl

/-- A batch that ends well is its body, and the end of a batch. -/
theorem batch_ok {α : Type} {body : Act α} {value : α}
    (ran : (batch runner body).run world = (.ok value, after)) :
    ∃ inner, body.run (world.withReactor .deeper) = (.ok value, inner) ∧
      (leaveBatch runner).run inner = (.ok (), after) := by
  rw [run_batch, run_ensuring] at ran
  rcases done : body.run (world.withReactor .deeper) with ⟨result, inner⟩
  rw [done] at ran
  rcases left : (leaveBatch runner).run inner with ⟨fault | _, last⟩ <;> rw [left] at ran
  · cases (Prod.mk.inj ran).1
  · obtain ⟨rfl, rfl⟩ := Prod.mk.inj ran
    exact ⟨inner, rfl, left⟩

/-- The end of the only batch runs what waits, where all effects only read. -/
theorem tended_leaveBatch (readers : Readers runner world.reactor)
    (calm : world.reactor.activeEffect = none) (only : world.reactor.batchDepth = 1)
    (still : world.reactor.flushing = false)
    (ran : (leaveBatch runner).run world = (.ok (), after)) :
    Tended (world.withReactor .shallower) after ∧ AtRest after.reactor ∧
      ∀ effect,
        (Waits world.reactor effect → world.reactor.isActive effect = true →
          world.reactor.runsOf effect < after.reactor.runsOf effect) ∧
        (¬ Waits world.reactor effect →
          after.reactor.runsOf effect = world.reactor.runsOf effect) := by
  have depth : (world.withReactor .shallower).reactor.batchDepth = 0 := by
    change world.reactor.batchDepth - 1 = 0
    rw [only]
  have still' : (world.withReactor .shallower).reactor.flushing = false := still
  have readers : Readers runner (world.withReactor .shallower).reactor := readers
  rw [run_leaveBatch] at ran
  split at ran
  case isTrue =>
    obtain ⟨tended, empty, empty', all⟩ := tended_flush readers still' ran
    have reactor := tended.reactor
    refine ⟨tended, ⟨?_, ?_, ?_, empty, empty'⟩, all⟩
    · exact reactor.activeEffect.trans calm
    · exact reactor.batchDepth.trans depth
    · exact reactor.flushing.trans still
  case isFalse waits =>
    obtain ⟨-, rfl⟩ := Prod.mk.inj ran
    have idle : world.reactor.shallower.idle = true := by
      unfold Reactor.idle
      have depth : world.reactor.shallower.batchDepth = 0 := depth
      have still : world.reactor.shallower.flushing = false := still
      rw [depth, still]
      rfl
    have nothing : world.reactor.preQueue = [] ∧ world.reactor.postQueue = [] := by
      have idlePending : ¬ world.reactor.shallower.pending = true := fun pending =>
        waits (by rw [idle, pending]; rfl)
      simpa [Reactor.pending, Reactor.shallower] using idlePending
    refine ⟨.refl _, ⟨calm, depth, still, nothing.1, nothing.2⟩, fun effect => ⟨?_, fun _ => rfl⟩⟩
    intro waiting
    unfold Waits at waiting
    rw [nothing.1, nothing.2] at waiting
    simp at waiting

/-! ## Writes -/

/-- Memory with an entry written is found again behind everything that grows from it. -/
theorem run_write (id : LiveMapId) {key : Value} (hashable : key.isHashable = true)
    (value : Value) (memory : Memory) :
    (do Observe.mapSet ((← get).rawMap id) key value; dropFace id key : Observe Unit).run memory =
      (.ok (), memory.overwritten id key value) := by
  rw [run_bind, run_get]
  dsimp only
  unfold Observe.mapSet
  rw [run_bind, run_bind, Observe.run_checkKey hashable]
  rfl

theorem run_plainEntry (id : LiveMapId) {key : Value} (hashable : key.isHashable = true)
    (memory : Memory) :
    (plainEntry id key).run memory =
      (.ok ((memory.mapAt (memory.rawMap id)).find? key), memory) := by
  unfold plainEntry
  rw [run_bind, Observe.run_checkKey hashable]
  rfl

/-- The tracked state of a key: what it was, if there was any, and else something new. -/
structure KeyTold (before : Memory) (live : LiveMap) (key : Value) (dep : DepId) : Prop where
  known {old : DepId} : live.deps.find? key = some old → dep = old
  fresh : live.deps.find? key = none → before.depCount ≤ dep

theorem keyTold_of_grows {before memory : Memory} {id : LiveMapId} {live : LiveMap} (key : Value)
    (found : before.liveMaps[id]? = some live) (grows : Memory.Grows before memory) :
    KeyTold before live key (memory.keyed id key).1 := by
  obtain ⟨later, known, -, -, deps⟩ := grows.liveMaps found
  unfold Memory.keyed
  constructor
  case known =>
    intro old has
    simp only [Memory.liveMapAt, known, Option.getD_some, deps key old has]
  case fresh =>
    intro missing
    split
    case h_1 dep has =>
      rcases grows.newDeps has with old | new
      · simp only [Memory.liveMapAt, found, Option.getD_some, missing] at old
        cases old
      · exact new
    case h_2 => exact grows.depCount

theorem run_triggerKey {id : LiveMapId} {key : Value} (hashable : key.isHashable = true)
    (calm : world.reactor.activeEffect = none) (deferred : world.reactor.batchDepth ≠ 0) :
    (triggerKey runner id key).run world =
      (.ok (),
        { world with
          memory := ((world.memory.seeing world.outlook).keyed id key).2.settled
          reactor := world.reactor.telling
            ((world.memory.seeing world.outlook).keyed id key).1 }) := by
  unfold triggerKey
  rw [run_bind, run_observe, Observe.run_keyDep hashable, Reactor.trackAll_of_none _ calm]
  dsimp only
  rw [run_trigger_deferred]
  · rfl
  · exact calm
  · exact deferred

/-- A key has been told: its readers wait, and no others, but those of the keys if it is new. -/
structure Told (old : Option Value) (keysDep dep : DepId) (before after : Reactor Body) :
    Prop where
  tends : Reactor.Tends before after
  runs (effect : EffectId) : after.runsOf effect = before.runsOf effect
  longer : before.history.length < after.history.length
  waits {effect : EffectId} : effect ∈ before.subscribersOf dep → Waits after effect
  only {effect : EffectId} : Waits after effect → Waits before effect ∨
    effect ∈ before.subscribersOf dep ∨ (old = none ∧ effect ∈ before.subscribersOf keysDep)

theorem told_telling (old : Option Value) (keysDep dep : DepId) (reactor : Reactor Body) :
    Told old keysDep dep reactor (reactor.telling dep) where
  tends := Reactor.tends_telling dep reactor
  runs _ := Reactor.runsOf_telling dep
  longer := (Reactor.tends_enqueueAll (reactor.subscribersOf dep)
    (reactor.note (.told dep none))).older.length_le
  waits known := waits_telling.mpr (.inr known)
  only waits := (waits_telling.mp waits).imp_right .inl

theorem tellWritten_ok {id : LiveMapId} {key value : Value} {old : Option Value} {own : LiveMap}
    (hashable : key.isHashable = true) (found : world.memory.liveMaps[id]? = some own)
    (calm : world.reactor.activeEffect = none) (deferred : world.reactor.batchDepth ≠ 0)
    (ran : (tellWritten runner id key value old).run world = (.ok (), after)) :
    Memory.Grows world.memory after.memory ∧
      ((after.reactor = world.reactor ∧ ∃ before memory memory', old = some before ∧
        (Observe.hasChanged before value).run memory = (.ok false, memory')) ∨
      ∃ dep, KeyTold world.memory own key dep ∧
        Told old own.keysDep dep world.reactor after.reactor) := by
  -- telling the key, after memory has grown and what was noted or queued before
  have goesOn (middle : World) (grows : Memory.Grows world.memory middle.memory)
      (calm : middle.reactor.activeEffect = none) (deferred : middle.reactor.batchDepth ≠ 0)
      (ran : (triggerKey runner id key).run middle = (.ok (), after)) :
      Memory.Grows world.memory after.memory ∧ ∃ dep, KeyTold world.memory own key dep ∧
        after.reactor = middle.reactor.telling dep := by
    rw [run_triggerKey hashable calm deferred] at ran
    obtain ⟨-, rfl⟩ := Prod.mk.inj ran
    have seen := grows.trans (Memory.grows_seeing middle.memory middle.outlook)
    refine ⟨(seen.trans (Memory.grows_keyed _ id key)).trans (Memory.grows_settled _), _, ?_, rfl⟩
    exact keyTold_of_grows key found seen
  cases old with
  | none =>
      unfold tellWritten triggerKeys at ran
      rw [run_bind, run_bind, run_get] at ran
      dsimp only at ran
      rw [run_trigger_deferred _ calm deferred] at ran
      dsimp only at ran
      have keysDep : (world.memory.liveMapAt id).keysDep = own.keysDep := by
        unfold Memory.liveMapAt
        rw [found]
        rfl
      rw [keysDep] at ran
      have keys := told_telling none own.keysDep own.keysDep world.reactor
      have calm : (world.withReactor (·.telling own.keysDep)).reactor.activeEffect = none :=
        keys.tends.activeEffect.trans calm
      have deferred : (world.withReactor (·.telling own.keysDep)).reactor.batchDepth ≠ 0 :=
        fun none => deferred (keys.tends.batchDepth.symm.trans none)
      obtain ⟨grows, dep, told, same⟩ := goesOn (world.withReactor (·.telling own.keysDep))
        (.refl _) calm deferred ran
      have last := told_telling none own.keysDep dep (world.reactor.telling own.keysDep)
      refine ⟨grows, .inr ⟨dep, told, ?_⟩⟩
      rw [same]
      constructor
      case tends => exact keys.tends.trans last.tends
      case runs => exact fun effect => (last.runs effect).trans (keys.runs effect)
      case longer => exact Nat.lt_trans keys.longer last.longer
      case waits =>
        intro effect known
        rw [← Reactor.subscribersOf_telling own.keysDep dep] at known
        exact last.waits known
      case only =>
        intro effect waits
        rcases last.only waits with waits | reads | ⟨-, reads⟩
        · rcases keys.only waits with before | reads | ⟨-, reads⟩
          · exact .inl before
          · exact .inr (.inr ⟨rfl, reads⟩)
          · exact .inr (.inr ⟨rfl, reads⟩)
        · rw [Reactor.subscribersOf_telling] at reads
          exact .inr (.inl reads)
        · rw [Reactor.subscribersOf_telling] at reads
          exact .inr (.inr ⟨rfl, reads⟩)
  | some before =>
      obtain ⟨changed, middle, asked, ran⟩ := run_bind_ok ran
      obtain ⟨memory, compared, rfl⟩ := observe_ok calm asked
      have looked := looks_grows.hasChanged before value (world.memory.seeing world.outlook)
      rw [compared] at looked
      have grows := ((Memory.grows_seeing world.memory world.outlook).trans looked).trans
        (Memory.grows_settled memory)
      cases changed with
      | false =>
          obtain ⟨-, rfl⟩ := Prod.mk.inj ran
          exact ⟨grows, .inl ⟨rfl, before, _, _, rfl, compared⟩⟩
      | true =>
          obtain ⟨grows, dep, told, same⟩ := goesOn
            { world with memory := memory.settled } grows calm deferred ran
          refine ⟨grows, .inr ⟨dep, told, ?_⟩⟩
          rw [same]
          exact told_telling _ _ dep world.reactor

theorem run_leaveBatch_of_empty (empty : world.reactor.preQueue = [])
    (empty' : world.reactor.postQueue = []) :
    (leaveBatch runner).run world = (.ok (), world.withReactor .shallower) := by
  have nothing : ¬ (world.reactor.shallower.idle && world.reactor.shallower.pending) = true := by
    simp [Reactor.pending, Reactor.shallower, empty, empty']
  rw [run_leaveBatch, if_neg nothing]

/--
What comes of a write of a key: nobody is told, or the readers of the key run again, and no
others but those of the keys.
-/
inductive WriteOutcome (own : LiveMap) (key written : Value) (world after : World) : Prop where
  | silent (before : Value) (memory memory' : Memory) (same : after.reactor = world.reactor)
      (entry : (world.memory.mapAt own.raw).find? key = some before)
      (alike : (Observe.hasChanged before written).run memory = (.ok false, memory'))
  | told (dep : DepId) (tracked : KeyTold world.memory own key dep)
      (longer : world.reactor.history.length < after.reactor.history.length)
      (again : ∀ effect ∈ world.reactor.subscribersOf dep,
        world.reactor.isActive effect = true →
          world.reactor.runsOf effect < after.reactor.runsOf effect)
      (only : ∀ effect, effect ∉ world.reactor.subscribersOf dep →
        effect ∉ world.reactor.subscribersOf own.keysDep →
          after.reactor.runsOf effect = world.reactor.runsOf effect)

/-- A write of a key while nothing runs, where all effects only read. -/
theorem liveMapSet_ok {id : LiveMapId} {key value : Value} {own : LiveMap}
    (hashable : key.isHashable = true) (found : world.memory.liveMaps[id]? = some own)
    (rest : AtRest world.reactor) (readers : Readers runner world.reactor)
    (ran : (liveMapSet runner id key value).run world = (.ok (), after)) :
    AtRest after.reactor ∧ Reactor.Tends world.reactor after.reactor ∧
      Memory.Grows (world.memory.overwritten id key (world.memory.toRaw value)) after.memory ∧
        WriteOutcome own key (world.memory.toRaw value) world after := by
  rw [liveMapSet_eq, run_bind, run_get] at ran
  dsimp only at ran
  generalize world.memory.toRaw value = written at ran ⊢
  obtain ⟨old, first, asked, ran⟩ := run_bind_ok ran
  obtain ⟨memory, looked, rfl⟩ := observe_ok rest.activeEffect asked
  rw [run_plainEntry id hashable] at looked
  obtain ⟨entry, rfl⟩ := Prod.mk.inj looked
  have entry : (world.memory.mapAt own.raw).find? key = old := by
    have raw : (world.memory.seeing world.outlook).rawMap id = own.raw :=
      Memory.rawMap_of_found found
    rw [raw] at entry
    exact Except.ok.inj entry
  obtain ⟨_, second, wrote, ran⟩ := run_bind_ok ran
  obtain ⟨memory, changed, rfl⟩ := observe_ok (by exact rest.activeEffect) wrote
  rw [run_write id hashable] at changed
  obtain ⟨-, rfl⟩ := Prod.mk.inj changed
  obtain ⟨inner, told, left⟩ := batch_ok ran
  obtain ⟨later, known, -, keysDep, deps, -⟩ :=
    Memory.liveMaps_overwritten_of_found id key written found
  have deferred : world.reactor.deeper.batchDepth ≠ 0 := Nat.succ_ne_zero _
  obtain ⟨grows, outcome⟩ := tellWritten_ok hashable known
    (by exact rest.activeEffect) (by exact deferred) told
  have start : Memory.Grows (world.memory.overwritten id key written) inner.memory := by
    refine Memory.Grows.trans ?_ grows
    exact .of_plain (begins_refl _) (begins_refl _) (begins_refl _) (begins_refl _)
      (begins_refl _) rfl rfl (Nat.le_refl _)
  rcases outcome with ⟨same, before, memory, memory', rfl, alike⟩ | ⟨dep, tracked, told⟩
  · have same : inner.reactor = world.reactor.deeper := same
    rw [run_leaveBatch_of_empty (same ▸ rest.preQueue) (same ▸ rest.postQueue)] at left
    obtain ⟨-, rfl⟩ := Prod.mk.inj left
    have back : (inner.withReactor .shallower).reactor = world.reactor := by
      change inner.reactor.shallower = world.reactor
      rw [same]
      rfl
    rw [back]
    exact ⟨rest, .refl _, start, .silent before memory memory' back entry alike⟩
  · have told : Told old later.keysDep dep world.reactor.deeper inner.reactor := told
    have tends := told.tends
    have runs (effect : EffectId) : inner.reactor.runsOf effect = world.reactor.runsOf effect :=
      told.runs effect
    have only : inner.reactor.batchDepth = 1 := by
      rw [tends.batchDepth]
      exact congrArg (· + 1) rest.batchDepth
    have readersInside : Readers runner world.reactor.deeper := readers
    obtain ⟨tended, atRest, all⟩ := tended_leaveBatch (readersInside.tends tends)
      (tends.activeEffect.trans rest.activeEffect) only (tends.flushing.trans rest.flushing) left
    have whole := tends.ofBatch.trans tended.reactor
    refine ⟨atRest, whole, start.trans tended.memory, .told dep ?_ ?_ ?_ ?_⟩
    · exact ⟨fun has => tracked.known (deps ▸ has), fun missing => tracked.fresh (deps ▸ missing)⟩
    · exact Nat.lt_of_lt_of_le told.longer tended.reactor.older.length_le
    · intro effect reads alive
      have waits := told.waits reads
      have alive : inner.reactor.isActive effect = true := (tends.active effect).trans alive
      rw [← runs]
      exact (all effect).1 waits alive
    · intro effect unread unread'
      have idle : ¬ Waits inner.reactor effect := fun waits => by
        rcases told.only waits with before | reads | ⟨-, reads⟩
        · exact rest.not_waits effect before
        · exact unread reads
        · exact unread' (keysDep ▸ reads)
      rw [← runs]
      exact (all effect).2 idle

end Act

end ReactiveSchema
