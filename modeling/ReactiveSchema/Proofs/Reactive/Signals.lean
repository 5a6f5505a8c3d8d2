import ReactiveSchema.Proofs.Reactive.Minded

/-!
# What a write signals

A write reads tracked state on behalf of the running effect and tells of state that
has changed.  While queued effects are put off, these signals are all that it does to
the effects: the readers of what is told are queued, and none of them runs.
-/

namespace ReactiveSchema

/-- What a write does to tracked state. -/
inductive Signal where
  | read (dep : DepId)
  | told (dep : DepId)

namespace Reactor

variable {β : Type} {reactor : Reactor β} {dep : DepId} {effect : EffectId}

/-- Queue the readers of tracked state that is told to have changed, but for the running one. -/
def tell (reactor : Reactor β) (dep : DepId) : Reactor β :=
  ((reactor.subscribersOf dep).filter (some · != reactor.activeEffect)).foldl enqueue
    (reactor.note (.told dep reactor.activeEffect))

def signal (reactor : Reactor β) : Signal → Reactor β
  | .read dep => reactor.track dep
  | .told dep => reactor.tell dep

def signalAll (reactor : Reactor β) (signals : List Signal) : Reactor β :=
  signals.foldl signal reactor

theorem signalAll_append (reactor : Reactor β) (first second : List Signal) :
    reactor.signalAll (first ++ second) = (reactor.signalAll first).signalAll second :=
  List.foldl_append

theorem trackAll_eq_signalAll (reactor : Reactor β) (deps : List DepId) :
    reactor.trackAll deps = reactor.signalAll (deps.map .read) := by
  unfold trackAll signalAll
  rw [List.foldl_map]
  rfl

/-! ## What a signal leaves as it is -/

/-- A read subscribes the running effect, if there is one that may run again. -/
theorem track_cases (reactor : Reactor β) (dep : DepId) :
    reactor.track dep = reactor ∨
      ∃ running, reactor.activeEffect = some running ∧
        reactor.track dep = (reactor.subscribe running dep).note (.read running dep) := by
  unfold track
  split
  case h_1 => exact .inl rfl
  case h_2 running known =>
    split
    case isTrue => exact .inr ⟨running, known, rfl⟩
    case isFalse => exact .inl rfl

theorem kept_enqueueAll (effects : List EffectId) (reactor : Reactor β) :
    Kept reactor (effects.foldl enqueue reactor) := by
  induction effects generalizing reactor with
  | nil => exact .refl reactor
  | cons effect rest ih => exact (kept_enqueue reactor effect).trans (ih (reactor.enqueue effect))

theorem history_enqueueAll (effects : List EffectId) (reactor : Reactor β) :
    (effects.foldl enqueue reactor).history = reactor.history := by
  induction effects generalizing reactor with
  | nil => rfl
  | cons effect rest ih => exact (ih _).trans (history_enqueue reactor effect)

theorem history_tell (reactor : Reactor β) (dep : DepId) :
    (reactor.tell dep).history = .told dep reactor.activeEffect :: reactor.history :=
  history_enqueueAll _ _

theorem fields_tell (reactor : Reactor β) (dep : DepId) :
    (reactor.tell dep).effects = reactor.effects ∧
      (reactor.tell dep).subscribers = reactor.subscribers :=
  fields_enqueueAll _ _

theorem kept_signal (reactor : Reactor β) (signal : Signal) :
    Kept reactor (reactor.signal signal) := by
  cases signal with
  | read dep => exact (keeps_track reactor dep).toKept
  | told dep => exact (kept_note reactor _).trans (kept_enqueueAll _ _)

theorem kept_signalAll (reactor : Reactor β) (signals : List Signal) :
    Kept reactor (reactor.signalAll signals) := by
  induction signals generalizing reactor with
  | nil => exact .refl reactor
  | cons signal rest ih => exact (kept_signal reactor signal).trans (ih (reactor.signal signal))

/-! ## Signals while nothing runs -/

theorem tell_of_none (none : reactor.activeEffect = none) :
    reactor.tell dep = reactor.telling dep := by
  have all : (reactor.subscribersOf dep).filter (some · != reactor.activeEffect) =
      reactor.subscribersOf dep := by
    refine List.filter_eq_self.mpr fun effect _ => ?_
    rw [none]
    rfl
  unfold tell telling
  rw [all, none]

/-! ## Signals within a batch -/

theorem enqueueAll_deeper (effects : List EffectId) (reactor : Reactor β) :
    effects.foldl enqueue reactor.deeper = (effects.foldl enqueue reactor).deeper := by
  induction effects generalizing reactor with
  | nil => rfl
  | cons effect rest ih =>
      have once : reactor.deeper.enqueue effect = (reactor.enqueue effect).deeper := by
        unfold enqueue
        rw [apply_ite deeper]
        rfl
      rw [List.foldl_cons, once]
      exact ih (reactor.enqueue effect)

theorem signal_deeper (reactor : Reactor β) (signal : Signal) :
    reactor.deeper.signal signal = (reactor.signal signal).deeper := by
  cases signal with
  | read dep =>
      unfold Reactor.signal track
      cases running : reactor.activeEffect with
      | none =>
          have running : reactor.deeper.activeEffect = none := running
          rw [running]
      | some effect =>
          have running : reactor.deeper.activeEffect = some effect := running
          rw [running]
          dsimp only
          rw [apply_ite deeper]
          rfl
  | told dep => exact enqueueAll_deeper _ (reactor.note _)

theorem signalAll_deeper (reactor : Reactor β) (signals : List Signal) :
    reactor.deeper.signalAll signals = (reactor.signalAll signals).deeper := by
  induction signals generalizing reactor with
  | nil => rfl
  | cons signal rest ih =>
      unfold signalAll at ih ⊢
      rw [List.foldl_cons, signal_deeper, ih]
      rfl

/-! ## What has happened in signals -/

/-- A signal is noted as a read or as a telling. -/
theorem since_signal {signal : Signal} {event : Event}
    (since : Since reactor.history (reactor.signal signal) event) :
    (∃ running dep, event = .read running dep) ∨
      ∃ dep, signal = .told dep ∧ event = .told dep reactor.activeEffect := by
  cases signal with
  | read dep =>
      rcases track_cases reactor dep with same | ⟨running, -, same⟩
      · exact absurd since (not_since (congrArg history same))
      · obtain ⟨newer, split, known⟩ := since
        have noted : Since (reactor.subscribe running dep).history
            ((reactor.subscribe running dep).note (.read running dep)) event :=
          ⟨newer, (congrArg history same.symm).trans split, known⟩
        exact .inl ⟨running, dep, eq_of_since_note noted⟩
  | told dep =>
      obtain ⟨newer, split, known⟩ := since
      have noted : Since reactor.history (reactor.note (.told dep reactor.activeEffect)) event :=
        ⟨newer, (history_tell reactor dep).symm.trans split, known⟩
      exact .inr ⟨dep, rfl, eq_of_since_note noted⟩

/-- Signals begin no run. -/
theorem not_began_signalAll (reactor : Reactor β) (signals : List Signal) :
    ¬ Since reactor.history (reactor.signalAll signals) (.began effect) := by
  induction signals generalizing reactor with
  | nil => exact not_since rfl
  | cons signal rest ih =>
      intro began
      rcases began.cases (kept_signal reactor signal).older
        (kept_signalAll (reactor.signal signal) rest).older with first | later
      · rcases since_signal first with ⟨running, dep, same⟩ | ⟨dep, -, same⟩ <;> cases same
      · exact ih _ later

/-- A signal ends no subscription of another effect than the running one, and makes none. -/
theorem subscribersOf_signal (signal : Signal) (apart : some effect ≠ reactor.activeEffect) :
    effect ∈ (reactor.signal signal).subscribersOf dep ↔ effect ∈ reactor.subscribersOf dep := by
  cases signal with
  | read item =>
      rcases track_cases reactor item with same | ⟨running, known, same⟩
      · exact iff_of_eq (congrArg (effect ∈ subscribersOf · dep) same)
      · refine (iff_of_eq (congrArg (effect ∈ subscribersOf · dep) same)).trans ?_
        have other : effect ≠ running := fun own => apart (own ▸ known.symm)
        change effect ∈ (reactor.subscribe running item).subscribersOf dep ↔ _
        rw [subscribersOf_subscribe]
        split
        case isTrue own => rw [mem_addNew, own, or_iff_left other]
        case isFalse => exact Iff.rfl
  | told item =>
      unfold subscribersOf signal
      rw [(fields_tell reactor item).2]

theorem subscribersOf_signalAll (signals : List Signal)
    (apart : some effect ≠ reactor.activeEffect) :
    effect ∈ (reactor.signalAll signals).subscribersOf dep ↔
      effect ∈ reactor.subscribersOf dep := by
  induction signals generalizing reactor with
  | nil => exact Iff.rfl
  | cons signal rest ih =>
      have apart' : some effect ≠ (reactor.signal signal).activeEffect := by
        rw [(kept_signal reactor signal).activeEffect]
        exact apart
      exact (ih apart').trans (subscribersOf_signal signal apart)

theorem watched_enqueueAll {more : EffectId → Prop} (effects : List EffectId)
    (watched : reactor.Watched fun effect => effect ∈ effects ∨ more effect) :
    (effects.foldl enqueue reactor).Watched more := by
  induction effects generalizing reactor with
  | nil => exact watched.mono fun _ due => due.resolve_left List.not_mem_nil
  | cons effect rest ih =>
      refine ih (watched_enqueue effect (watched.mono fun other due => ?_))
      rw [List.mem_cons, or_assoc] at due
      exact due

/-- Whoever has read what signals tell is queued, so all effects are still taken care of. -/
theorem watched_signalAll {more : EffectId → Prop} (signals : List Signal)
    (watched : reactor.Watched more) : (reactor.signalAll signals).Watched more := by
  induction signals generalizing reactor with
  | nil => exact watched
  | cons signal rest ih =>
      refine ih ?_
      cases signal with
      | read dep =>
          change (reactor.track dep).Watched more
          unfold track
          split
          · exact watched
          · split
            case isTrue active => exact watched_subscribe dep active watched
            case isFalse => exact watched
      | told dep =>
          refine watched_enqueueAll _ ((watched_told dep watched).mono fun effect due => ?_)
          refine due.imp_left fun ⟨reads, apart⟩ => List.mem_filter.mpr ⟨reads, ?_⟩
          simpa using apart

end Reactor

/-! ## Who waits after signals -/

namespace Act

variable {reactor : Reactor Body} {dep : DepId} {effect : EffectId} {running : Option EffectId}

theorem waits_signal (waits : Waits reactor effect) (signal : Signal) :
    Waits (reactor.signal signal) effect := by
  cases signal with
  | read dep =>
      rcases Reactor.track_cases reactor dep with same | ⟨running, -, same⟩
      · exact (congrArg (Waits · effect) same).mpr waits
      · exact (congrArg (Waits · effect) same).mpr waits
  | told dep => exact waits_enqueueAll.mpr (.inl waits)

theorem waits_signalAll (waits : Waits reactor effect) (signals : List Signal) :
    Waits (reactor.signalAll signals) effect := by
  induction signals generalizing reactor with
  | nil => exact waits
  | cons signal rest ih => exact ih (waits_signal waits signal)

/-- Readers of what signals tell wait, but for the running effect. -/
theorem waits_of_told {signals : List Signal}
    (told : Reactor.Since reactor.history (reactor.signalAll signals) (.told dep running))
    (reads : effect ∈ reactor.subscribersOf dep) (apart : some effect ≠ reactor.activeEffect) :
    Waits (reactor.signalAll signals) effect := by
  induction signals generalizing reactor with
  | nil => exact absurd told (Reactor.not_since rfl)
  | cons signal rest ih =>
      have kept := Reactor.kept_signal reactor signal
      rcases told.cases kept.older
        (Reactor.kept_signalAll (reactor.signal signal) rest).older with now | later
      · refine waits_signalAll ?_ rest
        rcases Reactor.since_signal now with ⟨_, _, same⟩ | ⟨item, rfl, same⟩
        · cases same
        · cases same
          refine waits_enqueueAll.mpr (.inr (List.mem_filter.mpr ⟨reads, ?_⟩))
          simpa using apart
      · refine ih later ((Reactor.subscribersOf_signal signal apart).mpr reads) ?_
        rw [kept.activeEffect]
        exact apart

theorem heeds_signalAll (reactor : Reactor Body) (signals : List Signal) :
    Reactor.Heeds reactor (reactor.signalAll signals) :=
  ⟨fun told _ reads apart => (waits_of_told told reads apart).imp_right .inl⟩

/-- Signals forget no effect. -/
theorem minds_signalAll (reactor : Reactor Body) (signals : List Signal) :
    Reactor.Minds reactor (reactor.signalAll signals) := by
  induction signals generalizing reactor with
  | nil => exact .refl reactor
  | cons signal rest ih =>
      refine Reactor.Minds.trans ?_ (ih _)
      cases signal with
      | read dep => exact Reactor.minds_track reactor dep
      | told dep =>
          obtain ⟨effects, subscribers⟩ := Reactor.fields_tell reactor dep
          have heeds := heeds_signalAll reactor [.told dep]
          constructor
          case toKept => exact Reactor.kept_signal reactor (.told dep)
          case size => exact Nat.le_of_eq (congrArg Array.size effects.symm)
          case stopped =>
            exact fun _ stopped => (Reactor.isActive_of_effects effects).trans stopped
          case waits => exact fun _ waits => (waits_signal waits (.told dep)).imp_right .inl
          case reads =>
            intro effect item _ reads
            refine .inl ?_
            unfold Reactor.subscribersOf
            exact (congrArg (effect ∈ ·[item]?.getD []) subscribers).mpr reads
          case heeds => exact fun _ => heeds

/-! ## Writes signal -/

variable {α : Type} {runner : Runner} {world : World}

/-- What is done while effects are put off comes to signals. -/
structure Signals (before after : World) : Prop where
  signals : before.reactor.idle = false →
    ∃ signals, after.reactor = before.reactor.signalAll signals
  listeners : before.reactor.idle = false → after.listeners = before.listeners

theorem composable_signals : Composable Signals where
  refl world := ⟨fun _ => ⟨[], rfl⟩, fun _ => rfl⟩
  trans {before middle after} first second := by
    have deferred (busy : before.reactor.idle = false) : middle.reactor.idle = false := by
      obtain ⟨signals, same⟩ := first.signals busy
      exact same ▸ (Reactor.kept_signalAll before.reactor signals).idle.trans busy
    refine ⟨fun busy => ?_, fun busy =>
      (second.listeners (deferred busy)).trans (first.listeners busy)⟩
    obtain ⟨signals, same⟩ := first.signals busy
    obtain ⟨more, same'⟩ := second.signals (deferred busy)
    exact ⟨signals ++ more, by rw [same', same, Reactor.signalAll_append]⟩

theorem run_trigger_busy (dep : DepId) (busy : world.reactor.idle = false) :
    (trigger runner dep).run world = (.ok (), world.withReactor (·.tell dep)) := by
  have busy : (world.withReactor
      (·.note (.told dep world.reactor.activeEffect))).reactor.idle = false := busy
  rw [run_trigger, run_scheduleAll_busy _ _ busy]
  rfl

/-- What a batch comes to whose body only signals. -/
theorem run_batch_signals {body : Act α} (signals : Along Signals body) (world : World) :
    ∃ sent told result, told.reactor = world.reactor.signalAll sent ∧
      told.listeners = world.listeners ∧ (batch runner body).run world =
        if told.reactor.idle && told.reactor.pending then
          match (flush runner).run told with
          | (.ok _, last) => (result, last)
          | (.error fault, last) => (.error fault, last)
        else (result, told) := by
  obtain ⟨sent, same⟩ := (signals (world.withReactor .deeper)).signals rfl
  have heard := (signals (world.withReactor .deeper)).listeners rfl
  rcases ran : body.run (world.withReactor .deeper) with ⟨result, late⟩
  rw [ran] at same heard
  have back : late.reactor.shallower = world.reactor.signalAll sent := by
    rw [same, World.withReactor_reactor, Reactor.signalAll_deeper]
    rfl
  refine ⟨sent, late.withReactor .shallower, result, back, heard, ?_⟩
  rw [run_batch, run_ensuring, ran, run_leaveBatch]
  by_cases ready : (late.reactor.shallower.idle && late.reactor.shallower.pending) = true
  · rw [if_pos ready, World.withReactor_reactor, if_pos ready]
    rfl
  · rw [if_neg ready, World.withReactor_reactor, if_neg ready]

theorem respectedByWrites_signals : RespectedByWrites runner fun _ => Along Signals where
  toClosed := composable_signals.closed
  observe _ world :=
    ⟨fun _ => ⟨_, Reactor.trackAll_eq_signalAll world.reactor _⟩, fun _ => rfl⟩
  trigger dep world := by
    refine ⟨fun busy => ⟨[.told dep], ?_⟩, fun busy => ?_⟩
    · rw [run_trigger_busy dep busy]
      rfl
    · rw [run_trigger_busy dep busy]
      rfl
  batch each world := by
    obtain ⟨sent, told, result, same, heard, ran⟩ := run_batch_signals each world
    have waits (busy : world.reactor.idle = false) : told.reactor.idle = false :=
      same ▸ (Reactor.kept_signalAll world.reactor sent).idle.trans busy
    refine ⟨fun busy => ⟨sent, ?_⟩, fun busy => ?_⟩
    · rw [ran, waits busy, Bool.false_and, if_neg Bool.false_ne_true]
      exact same
    · rw [ran, waits busy, Bool.false_and, if_neg Bool.false_ne_true]
      exact heard

end Act

end ReactiveSchema
