import Mathlib.Data.List.Perm.Subperm
import ReactiveSchema.Proofs.Reactive.Linked
import ReactiveSchema.Proofs.Reactive.Record

/-!
# Replaying the record

Whatever is done to the graph of effects while nothing is taken off the queues: subscribers
and queues of the effects that are active in the end follow from the record, and who was
stopped does not count.
-/

namespace ReactiveSchema.Reactor

variable {β : Type} {before middle after reactor : Reactor β} {effect other : EffectId}
  {dep item : DepId} {alive : EffectId → Bool} {timing : EffectId → Timing} {events : List Event}

/-! ## Since an earlier time -/

/-- What has happened since an earlier time, newest first. -/
def eventsSince (after before : Reactor β) : List Event :=
  after.history.take (after.history.length - before.history.length)

theorem eventsSince_of_history (split : after.history = events ++ before.history) :
    after.eventsSince before = events := by
  unfold eventsSince
  rw [split, List.length_append, Nat.add_sub_cancel, List.take_left]

theorem eventsSince_of_same (same : after.history = before.history) :
    after.eventsSince before = [] :=
  eventsSince_of_history same

theorem eventsSince_congr (same : middle.history = before.history) :
    after.eventsSince middle = after.eventsSince before := by
  unfold eventsSince
  rw [same]

theorem history_of_older (older : before.history <:+ after.history) :
    after.history = after.eventsSince before ++ before.history := by
  obtain ⟨events, same⟩ := older
  rw [eventsSince_of_history same.symm, same]

theorem eventsSince_trans (first : before.history <:+ middle.history)
    (second : middle.history <:+ after.history) :
    after.eventsSince before = after.eventsSince middle ++ middle.eventsSince before := by
  refine eventsSince_of_history ?_
  rw [List.append_assoc, ← history_of_older first, ← history_of_older second]

/-- Where no run has begun, nobody runs. -/
theorem runsIn_eventsSince_eq_nil (older : before.history <:+ after.history)
    (unrun : ∀ effect, ¬ Since before.history after (.began effect)) :
    runsIn (after.eventsSince before) = [] :=
  List.eq_nil_iff_forall_not_mem.mpr fun effect ran =>
    unrun effect ⟨_, history_of_older older, mem_runsIn.mp ran⟩

/-- What a signal reads, the running effect reads. -/
theorem ownReads_signal (reactor : Reactor β) (signal : Signal) :
    OwnReads reactor.activeEffect ((reactor.signal signal).eventsSince reactor) := by
  cases signal with
  | read dep =>
      rcases track_cases reactor dep with same | ⟨running, now, same⟩
      · have nothing : (reactor.signal (.read dep)).eventsSince reactor = [] :=
          eventsSince_of_same (congrArg history same)
        exact nothing ▸ trivial
      · have read : (reactor.signal (.read dep)).eventsSince reactor = [.read running dep] :=
          eventsSince_of_history (congrArg history same)
        exact read ▸ ⟨.inl now, trivial⟩
  | told dep =>
      have told : (reactor.signal (.told dep)).eventsSince reactor =
          [.told dep reactor.activeEffect] := eventsSince_of_history (history_tell reactor dep)
      exact told ▸ trivial

theorem ownReads_signalAll (reactor : Reactor β) (signals : List Signal) :
    OwnReads reactor.activeEffect ((reactor.signalAll signals).eventsSince reactor) := by
  induction signals generalizing reactor with
  | nil =>
      have nothing : (reactor.signalAll []).eventsSince reactor = [] := eventsSince_of_same rfl
      exact nothing ▸ trivial
  | cons signal rest ih =>
      have first := kept_signal reactor signal
      have later := ih (reactor.signal signal)
      rw [first.activeEffect] at later
      have joined : (reactor.signalAll (signal :: rest)).eventsSince reactor = _ :=
        eventsSince_trans first.older (kept_signalAll (reactor.signal signal) rest).older
      exact joined ▸ later.append (ownReads_signal reactor signal)

/-! ## Queues of effects that there are -/

/-- Effects that there are wait, each once, in the queue of their timing. -/
structure Orderly (reactor : Reactor β) : Prop extends Sorted reactor where
  preOnce : reactor.preQueue.Nodup
  known {effect : EffectId} :
    effect ∈ reactor.preQueue ∨ effect ∈ reactor.postQueue → effect < reactor.effects.size

theorem Orderly.of_sublist (orderly : before.Orderly)
    (preQueue : after.preQueue.Sublist before.preQueue)
    (postQueue : after.postQueue.Sublist before.postQueue)
    (timing : ∀ effect < before.effects.size, after.timingOf effect = before.timingOf effect)
    (size : before.effects.size ≤ after.effects.size) : after.Orderly where
  pre waits := (timing _ (orderly.known (.inl (preQueue.subset waits)))).trans
    (orderly.pre (preQueue.subset waits))
  post waits := (timing _ (orderly.known (.inr (postQueue.subset waits)))).trans
    (orderly.post (postQueue.subset waits))
  once := orderly.once.sublist postQueue
  preOnce := orderly.preOnce.sublist preQueue
  known waits := Nat.lt_of_lt_of_le
    (orderly.known (waits.imp (preQueue.subset ·) (postQueue.subset ·))) size

theorem Orderly.of_eq (orderly : before.Orderly) (preQueue : after.preQueue = before.preQueue)
    (postQueue : after.postQueue = before.postQueue)
    (kinds : ∀ effect, after.kindOf effect = before.kindOf effect)
    (size : before.effects.size ≤ after.effects.size) : after.Orderly := by
  refine orderly.of_sublist (preQueue ▸ .refl _) (postQueue ▸ .refl _) (fun effect _ => ?_) size
  rw [timingOf_eq, timingOf_eq, kinds]

theorem Orderly.enqueue (orderly : reactor.Orderly) (known : effect < reactor.effects.size) :
    (reactor.enqueue effect).Orderly where
  toSorted := orderly.toSorted.enqueue effect
  preOnce := by
    unfold Reactor.enqueue
    split
    case isTrue => exact orderly.preOnce
    case isFalse => exact nodup_addNew orderly.preOnce effect
  known := by
    intro other waits
    rw [(fields_enqueue reactor effect).1]
    unfold Reactor.enqueue at waits
    split at waits
    case isTrue =>
      rcases waits with early | late
      · exact orderly.known (.inl early)
      · rcases mem_addNew.mp late with late | rfl
        · exact orderly.known (.inr late)
        · exact known
    case isFalse =>
      rcases waits with early | late
      · rcases mem_addNew.mp early with early | rfl
        · exact orderly.known (.inl early)
        · exact known
      · exact orderly.known (.inr late)

theorem Orderly.enqueueAll (orderly : reactor.Orderly) {effects : List EffectId}
    (known : ∀ effect ∈ effects, effect < reactor.effects.size) :
    (effects.foldl Reactor.enqueue reactor).Orderly := by
  induction effects generalizing reactor with
  | nil => exact orderly
  | cons effect rest ih =>
      obtain ⟨first, others⟩ := List.forall_mem_cons.mp known
      refine ih (orderly.enqueue first) ?_
      rw [(fields_enqueue reactor effect).1]
      exact others

/-- There are no more different numbers below a bound than it says. -/
theorem length_le_of_lt {items : List Nat} {bound : Nat} (once : items.Nodup)
    (below : ∀ item ∈ items, item < bound) : items.length ≤ bound := by
  have few := (List.subperm_of_subset once fun item known =>
    List.mem_range.mpr (below item known)).length_le
  rwa [List.length_range] at few

theorem Orderly.length_preQueue_le (orderly : reactor.Orderly) :
    reactor.preQueue.length ≤ reactor.effects.size :=
  length_le_of_lt orderly.preOnce fun _ waits => orderly.known (.inl waits)

theorem Orderly.length_postQueue_le (orderly : reactor.Orderly) :
    reactor.postQueue.length ≤ reactor.effects.size :=
  length_le_of_lt orderly.once fun _ waits => orderly.known (.inr waits)

/-! ## Agendas of effects -/

/-- Who has read what, and who waits. -/
def agenda (reactor : Reactor β) : Agenda :=
  ⟨reactor.subscribersOf, reactor.preQueue, reactor.postQueue⟩

theorem agenda_of_eq (subscribers : after.subscribers = before.subscribers)
    (preQueue : after.preQueue = before.preQueue)
    (postQueue : after.postQueue = before.postQueue) : after.agenda = before.agenda := by
  unfold agenda subscribersOf
  rw [subscribers, preQueue, postQueue]

/--
From one time to another effects read and tell, and runs begin, but none is taken off the
queues, made or stopped: who has read what and who waits is replayed from the record.
-/
structure Carries (before after : Reactor β) : Prop where
  older : before.history <:+ after.history
  size : after.effects.size = before.effects.size
  kinds (effect : EffectId) : after.kindOf effect = before.kindOf effect
  active (effect : EffectId) : after.isActive effect = before.isActive effect
  linked : before.Linked → after.Linked
  orderly : before.Linked → before.Orderly → after.Orderly
  agenda {timing : EffectId → Timing} : before.Linked →
    (∀ effect < before.effects.size, timing effect = before.timingOf effect) →
      after.agenda = before.agenda.after timing (after.eventsSince before)

namespace Carries

theorem timingOf_eq (carries : Carries before after) : after.timingOf = before.timingOf := by
  funext effect
  rw [Reactor.timingOf_eq, Reactor.timingOf_eq, carries.kinds]

theorem isActive_eq (carries : Carries before after) : after.isActive = before.isActive :=
  funext carries.active

theorem subscribersOf_eq (carries : Carries before after) (linked : before.Linked) :
    after.subscribersOf = readersAfter before.subscribersOf (after.eventsSince before) :=
  congrArg Agenda.readers (carries.agenda linked fun _ _ => rfl)

theorem preQueue_eq (carries : Carries before after) (linked : before.Linked) :
    after.preQueue = (Agenda.ofTiming before.timingOf .pre
      (triggered before.subscribersOf (after.eventsSince before))).foldl addNew before.preQueue :=
  congrArg Agenda.early (carries.agenda linked fun _ _ => rfl)

theorem postQueue_eq (carries : Carries before after) (linked : before.Linked) :
    after.postQueue = (Agenda.ofTiming before.timingOf .post
      (triggered before.subscribersOf (after.eventsSince before))).foldl addNew before.postQueue :=
  congrArg Agenda.late (carries.agenda linked fun _ _ => rfl)

theorem trans (first : Carries before middle) (second : Carries middle after) :
    Carries before after where
  older := first.older.trans second.older
  size := second.size.trans first.size
  kinds effect := (second.kinds effect).trans (first.kinds effect)
  active effect := (second.active effect).trans (first.active effect)
  linked := second.linked ∘ first.linked
  orderly linked := second.orderly (first.linked linked) ∘ first.orderly linked
  agenda {timing} linked same := by
    have late : ∀ effect < middle.effects.size, timing effect = middle.timingOf effect := by
      rw [first.size, first.timingOf_eq]
      exact same
    rw [second.agenda (first.linked linked) late, first.agenda linked same,
      eventsSince_trans first.older second.older, Agenda.after_append]

/-- What leaves effects, subscriptions, queues and the record as they are. -/
theorem of_eq (effects : after.effects = before.effects)
    (subscribers : after.subscribers = before.subscribers)
    (preQueue : after.preQueue = before.preQueue) (postQueue : after.postQueue = before.postQueue)
    (history : after.history = before.history) : Carries before after where
  older := history ▸ List.suffix_rfl
  size := congrArg Array.size effects
  kinds _ := kindOf_of_effects effects
  active _ := isActive_of_effects effects
  linked linked := linked.of_eq effects subscribers
  orderly _ orderly := orderly.of_eq preQueue postQueue (fun _ => kindOf_of_effects effects)
    (Nat.le_of_eq (congrArg Array.size effects).symm)
  agenda _ _ := by
    rw [agenda_of_eq subscribers preQueue postQueue, eventsSince_of_same history]
    rfl

theorem refl (reactor : Reactor β) : Carries reactor reactor :=
  .of_eq rfl rfl rfl rfl rfl

/-! ### What is set for a time -/

theorem asEffect (reactor : Reactor β) (running : Option EffectId) :
    Carries reactor (reactor.asEffect running) :=
  .of_eq rfl rfl rfl rfl rfl

theorem inScope (reactor : Reactor β) (scope : Option EffectScopeId) :
    Carries reactor (reactor.inScope scope) :=
  .of_eq rfl rfl rfl rfl rfl

theorem deeper (reactor : Reactor β) : Carries reactor reactor.deeper :=
  .of_eq rfl rfl rfl rfl rfl

theorem shallower (reactor : Reactor β) : Carries reactor reactor.shallower :=
  .of_eq rfl rfl rfl rfl rfl

/-! ### Signals -/

theorem track (reactor : Reactor β) (dep : DepId) : Carries reactor (reactor.track dep) := by
  have linked : reactor.Linked → (reactor.track dep).Linked := fun linked => linked.track dep
  rcases track_cases reactor dep with same | ⟨running, -, same⟩ <;> rw [same] at linked ⊢
  · exact .refl reactor
  · have size : (reactor.subscribe running dep).effects.size = reactor.effects.size :=
      Array.size_modify ..
    constructor
    case older => exact List.suffix_cons _ _
    case size => exact size
    case kinds => exact fun _ => kindOf_subscribe dep
    case active => exact fun _ => isActive_subscribe
    case linked => exact linked
    case orderly =>
      exact fun _ orderly =>
        orderly.of_eq rfl rfl (fun _ => kindOf_subscribe dep) (Nat.le_of_eq size.symm)
    case agenda =>
      intro timing _ _
      have read : ((reactor.subscribe running dep).note (.read running dep)).eventsSince reactor =
          [.read running dep] := eventsSince_of_history rfl
      have readers : (reactor.subscribe running dep).subscribersOf =
          readersAfter reactor.subscribersOf [.read running dep] := by
        funext item
        rw [subscribersOf_subscribe, readersAfter]
        split
        case isTrue same => rw [same]; rfl
        case isFalse => rfl
      rw [read]
      exact congrArg (Agenda.mk · reactor.preQueue reactor.postQueue) readers

/-- Effects wait in the queue of their timing, each once. -/
theorem queues_enqueueAll (effects : List EffectId) (reactor : Reactor β) :
    (effects.foldl enqueue reactor).preQueue =
        (Agenda.ofTiming reactor.timingOf .pre effects).foldl addNew reactor.preQueue ∧
      (effects.foldl enqueue reactor).postQueue =
        (Agenda.ofTiming reactor.timingOf .post effects).foldl addNew reactor.postQueue := by
  unfold Agenda.ofTiming
  induction effects generalizing reactor with
  | nil => exact ⟨rfl, rfl⟩
  | cons effect rest ih =>
      have timing : (reactor.enqueue effect).timingOf = reactor.timingOf := by
        funext other
        unfold timingOf
        rw [(fields_enqueue reactor effect).1]
      have rested := ih (reactor.enqueue effect)
      rw [timing] at rested
      rw [List.foldl_cons, rested.1, rested.2]
      unfold enqueue
      cases known : reactor.timingOf effect with
      | pre => simp [known]
      | post => simp [known]

theorem tell (reactor : Reactor β) (dep : DepId) : Carries reactor (reactor.tell dep) where
  older := (kept_signal reactor (.told dep)).older
  size := congrArg Array.size (fields_tell reactor dep).1
  kinds _ := kindOf_signal (.told dep)
  active _ := isActive_of_effects (fields_tell reactor dep).1
  linked linked := linked.of_eq (fields_tell reactor dep).1 (fields_tell reactor dep).2
  orderly linked orderly := by
    have noted : (reactor.note (.told dep reactor.activeEffect)).Orderly :=
      orderly.of_eq rfl rfl (fun _ => rfl) (Nat.le_refl _)
    exact noted.enqueueAll fun _ due => linked.known (List.mem_filter.mp due).1
  agenda {timing} linked same := by
    have told : (reactor.tell dep).eventsSince reactor = [.told dep reactor.activeEffect] :=
      eventsSince_of_history (history_tell reactor dep)
    -- the timings agree on the readers, who are all known
    have readers (time : Timing) :
        Agenda.ofTiming timing time
            (triggered reactor.subscribersOf [.told dep reactor.activeEffect]) =
          Agenda.ofTiming reactor.timingOf time
            ((reactor.subscribersOf dep).filter (some · != reactor.activeEffect)) := by
      refine List.filter_congr fun effect due => ?_
      rw [same effect (linked.known (List.mem_filter.mp due).1)]
    have queues := queues_enqueueAll
      ((reactor.subscribersOf dep).filter (some · != reactor.activeEffect))
      (reactor.note (.told dep reactor.activeEffect))
    have subscribers : (reactor.tell dep).subscribersOf = reactor.subscribersOf := by
      unfold subscribersOf
      rw [(fields_tell reactor dep).2]
    rw [told]
    refine (Agenda.mk.injEq ..).mpr ⟨subscribers, ?_, ?_⟩
    · exact queues.1.trans (congrArg (List.foldl addNew reactor.preQueue) (readers .pre).symm)
    · exact queues.2.trans (congrArg (List.foldl addNew reactor.postQueue) (readers .post).symm)

theorem signalAll (reactor : Reactor β) (signals : List Signal) :
    Carries reactor (reactor.signalAll signals) := by
  induction signals generalizing reactor with
  | nil => exact .refl reactor
  | cons signal rest ih =>
      refine trans ?_ (ih (reactor.signal signal))
      cases signal with
      | read dep => exact track reactor dep
      | told dep => exact tell reactor dep

/-! ### Runs -/

theorem beginRun (reactor : Reactor β) (effect : EffectId) :
    Carries reactor (reactor.beginRun effect) := by
  have touched := touches_beginRun reactor effect
  have size := size_beginRun reactor effect
  constructor
  case older => exact (settles_beginRun reactor effect).older
  case size => exact size
  case kinds => exact fun _ => kindOf_beginRun
  case active => exact touched.active
  case linked => exact fun linked => linked.beginRun effect
  case orderly =>
    exact fun _ orderly => orderly.of_eq touched.preQueue touched.postQueue
      (fun _ => kindOf_beginRun) (Nat.le_of_eq size.symm)
  case agenda =>
    intro timing linked _
    have began : (reactor.beginRun effect).eventsSince reactor = [.began effect] := by
      refine eventsSince_of_history ?_
      obtain ⟨effects, subscribers, same⟩ := fields_unsubscribe reactor effect
      unfold Reactor.beginRun
      rw [same]
      rfl
    have readers : (reactor.beginRun effect).subscribersOf =
        readersAfter reactor.subscribersOf [.began effect] :=
      funext (linked.subscribersOf_unsubscribe effect)
    rw [began]
    exact (Agenda.mk.injEq ..).mpr ⟨readers, touched.preQueue, touched.postQueue⟩

end Carries

/-! ## Making and stopping effects meanwhile -/

/-- Of the effects there are, some active ones, and when each effect runs. -/
def Suits (alive : EffectId → Bool) (timing : EffectId → Timing) (reactor : Reactor β) : Prop :=
  ∀ effect < reactor.effects.size, (alive effect = true → reactor.isActive effect = true) ∧
    timing effect = reactor.timingOf effect

/--
From one time to another nobody is taken off the queues.  Effects may be made and stopped;
who has read what and who waits is replayed from the record, for those never stopped.
-/
structure Replays (before after : Reactor β) : Prop where
  older : before.history <:+ after.history
  kinds {effect : EffectId} {kind : β × Timing} :
    before.kindOf effect = some kind → after.kindOf effect = some kind
  stopped {effect : EffectId} : effect < before.effects.size →
    after.isActive effect = true → before.isActive effect = true
  linked : before.Linked → after.Linked
  orderly : before.Linked → before.Orderly → after.Orderly
  agenda {alive : EffectId → Bool} {timing : EffectId → Timing} :
    before.Linked → after.Suits alive timing → after.agenda.only alive =
      (before.agenda.after timing (after.eventsSince before)).only alive

theorem kindOf_isSome : (reactor.kindOf effect).isSome = true ↔ effect < reactor.effects.size := by
  unfold kindOf
  rw [Option.isSome_map, isSome_getElem?]

theorem history_addEffect (reactor : Reactor β) (body : β) (timing : Timing) (joins : Bool) :
    (reactor.addEffect body timing joins).2.history = reactor.history := by
  obtain ⟨scopes, same⟩ := fields_addEffect reactor body timing joins
  rw [same]

theorem size_addEffect (reactor : Reactor β) (body : β) (timing : Timing) (joins : Bool) :
    (reactor.addEffect body timing joins).2.effects.size = reactor.effects.size + 1 := by
  obtain ⟨scopes, same⟩ := fields_addEffect reactor body timing joins
  rw [same]
  exact Array.size_push ..

theorem Carries.replays (carries : Carries before after) : Replays before after where
  older := carries.older
  kinds found := (carries.kinds _).trans found
  stopped _ active := (carries.active _).symm.trans active
  linked := carries.linked
  orderly := carries.orderly
  agenda linked suits := by
    refine congrArg (Agenda.only _) (carries.agenda linked fun effect known => ?_)
    rw [(suits effect (carries.size.symm ▸ known)).2, carries.timingOf_eq]

namespace Replays

theorem grown (replays : Replays before after) (known : effect < before.effects.size) :
    effect < after.effects.size := by
  obtain ⟨kind, found⟩ := Option.isSome_iff_exists.mp (kindOf_isSome.mpr known)
  exact kindOf_isSome.mp (Option.isSome_iff_exists.mpr ⟨kind, replays.kinds found⟩)

theorem size_le (replays : Replays before after) : before.effects.size ≤ after.effects.size :=
  Nat.le_of_not_lt fun fewer => Nat.lt_irrefl _ (replays.grown fewer)

theorem timing_eq (replays : Replays before after) (known : effect < before.effects.size) :
    after.timingOf effect = before.timingOf effect := by
  obtain ⟨kind, found⟩ := Option.isSome_iff_exists.mp (kindOf_isSome.mpr known)
  rw [timingOf_eq, timingOf_eq, found, replays.kinds found]

theorem suits (replays : Replays before after) (suits : after.Suits alive timing) :
    before.Suits alive timing := fun effect known =>
  ⟨fun live => replays.stopped known ((suits effect (replays.grown known)).1 live),
    (suits effect (replays.grown known)).2.trans (replays.timing_eq known)⟩

theorem refl (reactor : Reactor β) : Replays reactor reactor :=
  (Carries.refl reactor).replays

theorem trans (first : Replays before middle) (second : Replays middle after) :
    Replays before after where
  older := first.older.trans second.older
  kinds found := second.kinds (first.kinds found)
  stopped known active := first.stopped known (second.stopped (first.grown known) active)
  linked := second.linked ∘ first.linked
  orderly linked := second.orderly (first.linked linked) ∘ first.orderly linked
  agenda linked suits := by
    have early := first.agenda linked (second.suits suits)
    have late := second.agenda (first.linked linked) suits
    rw [late, Agenda.only_after_congr early, eventsSince_trans first.older second.older,
      Agenda.after_append]

theorem addEffect (reactor : Reactor β) (body : β) (timing : Timing) (joins : Bool) :
    Replays reactor (reactor.addEffect body timing joins).2 := by
  obtain ⟨scopes, same⟩ := fields_addEffect reactor body timing joins
  have preQueue : (reactor.addEffect body timing joins).2.preQueue = reactor.preQueue :=
    (congrArg (·.2.preQueue) same :)
  have postQueue : (reactor.addEffect body timing joins).2.postQueue = reactor.postQueue :=
    (congrArg (·.2.postQueue) same :)
  have history := history_addEffect reactor body timing joins
  have kinds {effect : EffectId} (known : effect < reactor.effects.size) :
      (reactor.addEffect body timing joins).2.kindOf effect = reactor.kindOf effect := by
    rw [kindOf_addEffect, if_neg (Nat.ne_of_lt known)]
  constructor
  case older => exact history ▸ List.suffix_rfl
  case kinds =>
    intro effect kind found
    refine (kinds ?_).trans found
    exact kindOf_isSome.mp (Option.isSome_iff_exists.mpr ⟨kind, found⟩)
  case stopped =>
    intro effect known active
    rw [isActive_addEffect, if_neg (Nat.ne_of_lt known)] at active
    exact active
  case linked => exact fun linked => linked.addEffect body timing joins
  case orderly =>
    intro _ orderly
    refine orderly.of_sublist (preQueue ▸ .refl _) (postQueue ▸ .refl _) ?_ ?_
    · intro effect known
      rw [timingOf_eq, timingOf_eq, kinds known]
    · exact size_addEffect reactor body timing joins ▸ Nat.le_succ _
  case agenda =>
    intro alive times _ _
    rw [eventsSince_of_same history, agenda_of_eq (congrArg (·.2.subscribers) same :) preQueue
      postQueue]
    rfl

theorem stop (reactor : Reactor β) (effect : EffectId) :
    Replays reactor (reactor.stop effect) where
  older := (keeps_stop reactor effect).older
  kinds found := kindOf_stop.trans found
  stopped {other} _ active := by
    by_cases own : other = effect
    · rw [own, isActive_stop_self] at active
      cases active
    · exact (isActive_stop_of_ne own).symm.trans active
  linked linked := linked.stop effect
  orderly _ orderly := by
    obtain ⟨effects, subscribers, same⟩ := fields_stop reactor effect
    exact orderly.of_eq (congrArg preQueue same :) (congrArg postQueue same :)
      (fun _ => kindOf_stop) (Nat.le_of_eq (size_stop reactor effect).symm)
  agenda {alive timing} linked suits := by
    obtain ⟨effects, subscribers, same⟩ := fields_stop reactor effect
    have history : (reactor.stop effect).history = reactor.history := (congrArg history same :)
    have queues : (reactor.stop effect).preQueue = reactor.preQueue ∧
        (reactor.stop effect).postQueue = reactor.postQueue :=
      ⟨(congrArg preQueue same :), (congrArg postQueue same :)⟩
    have readers (dep : DepId) : ((reactor.stop effect).subscribersOf dep).filter alive =
        (reactor.subscribersOf dep).filter alive := by
      unfold Reactor.stop
      split
      case isFalse => rfl
      case isTrue active =>
        -- the effect that is stopped is not alive
        have dead : ¬ alive effect = true := by
          intro live
          have known : effect < (reactor.stop effect).effects.size := by
            refine kindOf_isSome.mp ?_
            rw [kindOf_stop]
            exact kindOf_isSome.mpr (known_of_isActive active)
          have still := (suits effect known).1 live
          rw [isActive_stop_self] at still
          cases still
        have gone : ((reactor.unsubscribe effect).modifyEffect effect
            fun cell => { cell with active := false }).subscribersOf dep =
              (reactor.subscribersOf dep).filter (· != effect) :=
          linked.subscribersOf_unsubscribe effect dep
        rw [gone, List.filter_filter]
        refine List.filter_congr fun other _ => ?_
        by_cases live : alive other = true
        · have apart : other ≠ effect := fun own => dead (own ▸ live)
          simp [live, apart]
        · simp [live]
    rw [eventsSince_of_same history]
    unfold Agenda.only
    refine (Agenda.mk.injEq ..).mpr ⟨funext readers, ?_, ?_⟩
    · exact congrArg (List.filter alive) queues.1
    · exact congrArg (List.filter alive) queues.2

end Replays

end ReactiveSchema.Reactor
