import ReactiveSchema.Proofs.Reactive.Subscriptions

/-!
# Waking what has read

An effect that has read tracked state must run again once that state is told
to have changed, unless the effect itself was running then.  So every active
effect is either up to date with all that it has subscribed to, or it waits in
a queue, or somebody is about to queue or run it.  Each change of the graph of
effects keeps this, and says which effects it takes care of.
-/

namespace ReactiveSchema

/--
Since a tracked read of `dep` by `effect`, nobody has told that `dep` changed
but while the effect itself was running.  Histories list the newest event first.
-/
def UpToDate (effect : EffectId) (dep : DepId) (history : List Event) : Prop :=
  ∃ newer older, history = newer ++ .read effect dep :: older ∧
    ∀ running, .told dep running ∈ newer → running = some effect

theorem upToDate_of_read (effect : EffectId) (dep : DepId) (history : List Event) :
    UpToDate effect dep (.read effect dep :: history) :=
  ⟨[], history, rfl, fun _ told => nomatch told⟩

theorem UpToDate.after {effect : EffectId} {dep : DepId} {history : List Event}
    (fresh : UpToDate effect dep history) {event : Event}
    (harmless : ∀ running, event = .told dep running → running = some effect) :
    UpToDate effect dep (event :: history) := by
  obtain ⟨newer, older, rfl, own⟩ := fresh
  refine ⟨event :: newer, older, rfl, fun running told => ?_⟩
  rcases List.mem_cons.mp told with now | before
  · exact harmless running now.symm
  · exact own running before

namespace Reactor

variable {β : Type} {before middle after reactor : Reactor β} {due more : EffectId → Prop}

/-! ## Effects that are taken care of -/

/-- An effect waits to run, or is due to, or is up to date with what it has read. -/
def Attended (due : EffectId → Prop) (reactor : Reactor β) (effect : EffectId)
    (dep : DepId) : Prop :=
  effect ∈ reactor.preQueue ∨ effect ∈ reactor.postQueue ∨ due effect ∨
    UpToDate effect dep reactor.history

theorem Attended.mono {effect : EffectId} {dep : DepId} (attended : Attended due before effect dep)
    (first : effect ∈ before.preQueue → effect ∈ after.preQueue)
    (last : effect ∈ before.postQueue → effect ∈ after.postQueue)
    (wider : due effect → more effect)
    (fresh : UpToDate effect dep before.history → UpToDate effect dep after.history) :
    Attended more after effect dep :=
  attended.imp first (Or.imp last (Or.imp wider fresh))

/-- Subscriptions are kept on both sides, and every active effect is taken care of. -/
structure Watched (due : EffectId → Prop) (reactor : Reactor β) : Prop where
  mirrored {effect : EffectId} {dep : DepId} :
    dep ∈ reactor.depsOf effect → effect ∈ reactor.subscribersOf dep
  attended {effect : EffectId} {dep : DepId} : reactor.isActive effect = true →
    dep ∈ reactor.depsOf effect → Attended due reactor effect dep

theorem Watched.mono (watched : reactor.Watched due) (wider : ∀ effect, due effect → more effect) :
    reactor.Watched more where
  mirrored := watched.mirrored
  attended active read := (watched.attended active read).mono id id (wider _) id

theorem watched_empty (due : EffectId → Prop) : (empty : Reactor β).Watched due where
  mirrored read := nomatch read
  attended active := nomatch active

/-- Nothing waits while nothing defers it. -/
def Quiet (reactor : Reactor β) : Prop :=
  reactor.idle = true → reactor.pending = false

/-- History goes on, and all else that is set for a time is as it was. -/
structure Kept (before after : Reactor β) : Prop where
  older : before.history <:+ after.history
  batchDepth : after.batchDepth = before.batchDepth
  flushing : after.flushing = before.flushing
  activeEffect : after.activeEffect = before.activeEffect
  activeScope : after.activeScope = before.activeScope

theorem Kept.refl (reactor : Reactor β) : Kept reactor reactor :=
  ⟨List.suffix_rfl, rfl, rfl, rfl, rfl⟩

theorem Kept.trans (first : Kept before middle) (second : Kept middle after) :
    Kept before after where
  older := first.older.trans second.older
  batchDepth := second.batchDepth.trans first.batchDepth
  flushing := second.flushing.trans first.flushing
  activeEffect := second.activeEffect.trans first.activeEffect
  activeScope := second.activeScope.trans first.activeScope

theorem kept_note (reactor : Reactor β) (event : Event) : Kept reactor (reactor.note event) :=
  ⟨List.suffix_cons _ _, rfl, rfl, rfl, rfl⟩

theorem Kept.idle (kept : Kept before after) : after.idle = before.idle := by
  unfold Reactor.idle
  rw [kept.batchDepth, kept.flushing]

theorem Kept.calm (kept : Kept before after) (calm : .cutShort ∉ after.history) :
    .cutShort ∉ before.history :=
  fun cut => calm (kept.older.subset cut)

/--
Unless a fault cut something short, all effects are still taken care of, those
that were `due` for good, and nothing is left waiting that could run.
-/
structure Settles (due : EffectId → Prop) (before after : Reactor β) : Prop
    extends Kept before after where
  watched : .cutShort ∉ after.history → ∀ more,
    before.Watched (fun effect => due effect ∨ more effect) → after.Watched more
  quiet : .cutShort ∉ after.history → before.Quiet → after.Quiet

/-- Nobody in particular was due. -/
abbrev Keeps (before after : Reactor β) : Prop :=
  Settles (fun _ => False) before after

theorem watched_none_due :
    reactor.Watched (fun effect => False ∨ due effect) ↔ reactor.Watched due :=
  ⟨(·.mono fun _ soon => soon.resolve_left id), (·.mono fun _ => .inr)⟩

theorem Settles.refl (due : EffectId → Prop) (none : ∀ effect, ¬ due effect)
    (reactor : Reactor β) : Settles due reactor reactor where
  toKept := .refl reactor
  watched _ _ watched := watched.mono fun effect soon => soon.resolve_left (none effect)
  quiet _ quiet := quiet

theorem Settles.trans (first : Settles due before middle) (second : Settles more middle after) :
    Settles (fun effect => due effect ∨ more effect) before after where
  toKept := first.toKept.trans second.toKept
  watched calm rest watched := by
    refine second.watched calm rest (first.watched (second.calm calm) _ (watched.mono ?_))
    rintro effect ((soon | later) | other)
    · exact .inl soon
    · exact .inr (.inl later)
    · exact .inr (.inr other)
  quiet calm quiet := second.quiet calm (first.quiet (second.calm calm) quiet)

theorem Settles.weaken (settles : Settles due before after)
    (fewer : ∀ effect, more effect → due effect) : Settles more before after where
  toKept := settles.toKept
  watched calm rest watched := by
    refine settles.watched calm rest (watched.mono ?_)
    rintro effect (soon | other)
    · exact .inl (fewer effect soon)
    · exact .inr other
  quiet := settles.quiet

theorem Kept.settles_of_cut (kept : Kept before after) (cut : .cutShort ∈ after.history) :
    Settles due before after :=
  ⟨kept, fun calm => absurd cut calm, fun calm => absurd cut calm⟩

/-- What changes neither queue settles what it takes care of. -/
theorem Kept.settles (kept : Kept before after) (first : after.preQueue = before.preQueue)
    (last : after.postQueue = before.postQueue)
    (watched : ∀ more, before.Watched (fun effect => due effect ∨ more effect) →
      after.Watched more) : Settles due before after where
  toKept := kept
  watched _ := watched
  quiet _ quiet idle := by
    have pending : after.pending = before.pending := by
      unfold Reactor.pending
      rw [first, last]
    rw [pending]
    exact quiet (kept.idle ▸ idle)

/-! ## Being the running effect, or in the active group, for a time -/

theorem Settles.asEffect {running : Option EffectId}
    (settles : Settles due { before with activeEffect := running } after) :
    Settles due before { after with activeEffect := before.activeEffect } where
  toKept := ⟨settles.older, settles.batchDepth, settles.flushing, rfl, settles.activeScope⟩
  watched calm more watched := by
    have late := settles.watched calm more ⟨watched.mirrored, watched.attended⟩
    exact ⟨late.mirrored, late.attended⟩
  quiet := settles.quiet

theorem Settles.inScope {scope : Option EffectScopeId}
    (settles : Settles due { before with activeScope := scope } after) :
    Settles due before { after with activeScope := before.activeScope } where
  toKept := ⟨settles.older, settles.batchDepth, settles.flushing, settles.activeEffect, rfl⟩
  watched calm more watched := by
    have late := settles.watched calm more ⟨watched.mirrored, watched.attended⟩
    exact ⟨late.mirrored, late.attended⟩
  quiet := settles.quiet

/-! ## Reading -/

theorem watched_subscribe {effect : EffectId} (dep : DepId)
    (active : reactor.isActive effect = true) (watched : reactor.Watched due) :
    ((reactor.subscribe effect dep).note (.read effect dep)).Watched due := by
  constructor
  case mirrored =>
    intro other item read
    change item ∈ (reactor.subscribe effect dep).depsOf other at read
    change other ∈ (reactor.subscribe effect dep).subscribersOf item
    have known : other ∈ reactor.subscribersOf item ∨ other = effect ∧ item = dep := by
      by_cases same : other = effect
      · subst same
        rw [depsOf_subscribe_self active, mem_addNew] at read
        exact read.imp watched.mirrored fun new => ⟨rfl, new⟩
      · rw [depsOf_subscribe_of_ne same] at read
        exact .inl (watched.mirrored read)
    rw [subscribersOf_subscribe]
    split
    case isTrue same =>
      subst same
      exact mem_addNew.mpr (known.imp_right And.left)
    case isFalse apart => exact known.resolve_right fun new => apart new.2
  case attended =>
    intro other item live read
    change (reactor.subscribe effect dep).isActive other = true at live
    change item ∈ (reactor.subscribe effect dep).depsOf other at read
    rw [isActive_subscribe] at live
    have old (read : item ∈ reactor.depsOf other) :
        Attended due ((reactor.subscribe effect dep).note (.read effect dep)) other item :=
      (watched.attended live read).mono id id id (·.after fun _ told => nomatch told)
    by_cases same : other = effect
    · subst same
      rw [depsOf_subscribe_self active, mem_addNew] at read
      rcases read with known | rfl
      · exact old known
      · exact .inr (.inr (.inr (upToDate_of_read _ _ _)))
    · rw [depsOf_subscribe_of_ne same] at read
      exact old read

theorem keeps_track (reactor : Reactor β) (dep : DepId) :
    Keeps reactor (reactor.track dep) := by
  unfold track
  split
  case h_1 => exact .refl _ (fun _ => id) reactor
  case h_2 effect running =>
    split
    case isTrue active =>
      refine Kept.settles ⟨⟨[_], rfl⟩, rfl, rfl, rfl, rfl⟩ rfl rfl fun more watched => ?_
      exact watched_subscribe dep active (watched_none_due.mp watched)
    case isFalse => exact .refl _ (fun _ => id) reactor

theorem Keeps.trans (first : Keeps before middle) (second : Keeps middle after) :
    Keeps before after :=
  (Settles.trans first second).weaken fun _ => False.elim

theorem keeps_trackAll (reactor : Reactor β) (deps : List DepId) :
    Keeps reactor (reactor.trackAll deps) := by
  induction deps generalizing reactor with
  | nil => exact .refl _ (fun _ => id) reactor
  | cons dep rest ih => exact (keeps_track reactor dep).trans (ih (reactor.track dep))

/-! ## Ending subscriptions -/

/-- Without subscriptions, an effect is taken care of. -/
theorem settles_unsubscribe (reactor : Reactor β) (effect : EffectId) :
    Settles (· = effect) reactor (reactor.unsubscribe effect) := by
  have others {other : EffectId} {dep : DepId}
      (read : dep ∈ (reactor.unsubscribe effect).depsOf other) :
      other ≠ effect ∧ dep ∈ reactor.depsOf other := by
    by_cases gone : other = effect
    · subst gone
      rw [depsOf_unsubscribe_self] at read
      cases read
    · rw [depsOf_unsubscribe_of_ne gone] at read
      exact ⟨gone, read⟩
  have attended {more : EffectId → Prop}
      (watched : reactor.Watched fun other => other = effect ∨ more other) :
      (reactor.unsubscribe effect).Watched more := by
    refine ⟨fun read => ?_, fun active read => ?_⟩
    · obtain ⟨apart, read⟩ := others read
      exact (mem_subscribersOf_unsubscribe apart).mpr (watched.mirrored read)
    · obtain ⟨apart, read⟩ := others read
      rw [isActive_unsubscribe] at active
      obtain ⟨effects, subscribers, same⟩ := fields_unsubscribe reactor effect
      rw [same]
      exact (watched.attended active read).mono id id (·.resolve_left apart) id
  obtain ⟨effects, subscribers, same⟩ := fields_unsubscribe reactor effect
  rw [same] at attended ⊢
  exact Kept.settles ⟨List.suffix_rfl, rfl, rfl, rfl, rfl⟩ rfl rfl fun _ => attended

/-- Effects may be changed in what they do, and be stopped, but not in what they have read. -/
theorem keeps_modifyEffect (reactor : Reactor β) (effect : EffectId)
    (change : Effect β → Effect β) (deps : ∀ cell, (change cell).deps = cell.deps)
    (active : ∀ cell, (change cell).active = true → cell.active = true) :
    Keeps reactor (reactor.modifyEffect effect change) := by
  refine Kept.settles ⟨List.suffix_rfl, rfl, rfl, rfl, rfl⟩ rfl rfl fun more watched => ⟨?_, ?_⟩
  · intro other dep read
    rw [depsOf_modifyEffect deps] at read
    exact watched.mirrored read
  · intro other dep live read
    rw [depsOf_modifyEffect deps] at read
    have before : reactor.isActive other = true := by
      unfold isActive at live ⊢
      rw [effects_getElem?_modifyEffect] at live
      split at live
      · cases found : reactor.effects[other]? with
        | none => rw [found] at live; cases live
        | some cell =>
            rw [found] at live
            exact active cell live
      · exact live
    exact (watched.attended before read).mono id id (·.resolve_left id) id

/-- Noting an event that tells of no change changes nothing else. -/
theorem keeps_note (reactor : Reactor β) (event : Event)
    (harmless : ∀ dep running, event ≠ .told dep running) : Keeps reactor (reactor.note event) := by
  refine Kept.settles (kept_note reactor event) rfl rfl fun more watched => ?_
  refine ⟨watched.mirrored, fun active read => ?_⟩
  exact (watched.attended active read).mono id id (·.resolve_left id)
    (·.after fun running told => absurd told (harmless _ running))

theorem Settles.thenKeeps (first : Settles due before middle) (second : Keeps middle after) :
    Settles due before after :=
  (first.trans second).weaken fun _ => .inl

theorem settles_beginRun (reactor : Reactor β) (effect : EffectId) :
    Settles (· = effect) reactor (reactor.beginRun effect) := by
  have ended := settles_unsubscribe reactor effect
  have counted := keeps_modifyEffect (reactor.unsubscribe effect) effect
    (fun cell => { cell with runs := cell.runs + 1 }) (fun _ => rfl) (fun _ active => active)
  exact (ended.thenKeeps counted).thenKeeps (keeps_note _ _ fun _ _ told => nomatch told)

theorem keeps_stop (reactor : Reactor β) (effect : EffectId) :
    Keeps reactor (reactor.stop effect) := by
  unfold stop
  split
  · have ended := settles_unsubscribe reactor effect
    have stopped := keeps_modifyEffect (reactor.unsubscribe effect) effect
      (fun cell => { cell with active := false }) (fun _ => rfl) (fun _ active => nomatch active)
    exact (ended.thenKeeps stopped).weaken fun _ => False.elim
  · exact .refl _ (fun _ => id) reactor

theorem keeps_scopes (reactor : Reactor β) (scopes : Array EffectScope) :
    Keeps reactor { reactor with scopes } :=
  Kept.settles ⟨List.suffix_rfl, rfl, rfl, rfl, rfl⟩ rfl rfl fun _ watched =>
    have watched := watched_none_due.mp watched
    ⟨watched.mirrored, watched.attended⟩

theorem keeps_stopScope (reactor : Reactor β) (scope : EffectScopeId) :
    Keeps reactor (reactor.stopScope scope) :=
  stopScope_along reactor scope (.refl _ fun _ => id) .trans
    (fun start effect _ => keeps_stop start effect) keeps_scopes

/-! ## New effects -/

theorem keeps_push (reactor : Reactor β) (body : β) (timing : Timing) :
    Keeps reactor
      { reactor with effects := reactor.effects.push ⟨body, timing, true, 0, []⟩ } := by
  have deps {effect : EffectId} {dep : DepId}
      (read : dep ∈ ({ reactor with
        effects := reactor.effects.push ⟨body, timing, true, 0, []⟩ } : Reactor β).depsOf effect) :
      effect ≠ reactor.effects.size ∧ dep ∈ reactor.depsOf effect := by
    unfold depsOf at read ⊢
    rw [Array.getElem?_push] at read
    split at read
    case isTrue => cases read
    case isFalse old => exact ⟨old, read⟩
  refine Kept.settles ⟨List.suffix_rfl, rfl, rfl, rfl, rfl⟩ rfl rfl fun more watched => ?_
  replace watched := watched_none_due.mp watched
  refine ⟨fun read => watched.mirrored (deps read).2, fun {effect dep} active read => ?_⟩
  obtain ⟨old, read⟩ := deps read
  refine watched.attended ?_ read
  unfold isActive at active ⊢
  rwa [Array.getElem?_push, if_neg old] at active

theorem keeps_addEffect (reactor : Reactor β) (body : β) (timing : Timing) (joins : Bool) :
    Keeps reactor (reactor.addEffect body timing joins).2 := by
  unfold addEffect
  dsimp only
  split
  · exact (keeps_push reactor body timing).trans (keeps_scopes _ _)
  · exact keeps_push reactor body timing

/-! ## Queues -/

/-- A change that is told makes every subscriber due, but the running effect. -/
theorem watched_told (dep : DepId) (watched : reactor.Watched more) :
    (reactor.note (.told dep reactor.activeEffect)).Watched fun effect =>
      effect ∈ reactor.subscribersOf dep ∧ some effect ≠ reactor.activeEffect ∨
        more effect := by
  refine ⟨watched.mirrored, fun {effect item} active read => ?_⟩
  have subscribed := watched.mirrored read
  rcases watched.attended active read with waits | waits | soon | fresh
  · exact .inl waits
  · exact .inr (.inl waits)
  · exact .inr (.inr (.inl (.inr soon)))
  · by_cases woken : item = dep ∧ some effect ≠ reactor.activeEffect
    · obtain ⟨rfl, other⟩ := woken
      exact .inr (.inr (.inl (.inl ⟨subscribed, other⟩)))
    · refine .inr (.inr (.inr (fresh.after fun running told => ?_)))
      injection told with same who
      have own : some effect = reactor.activeEffect :=
        Classical.not_not.mp fun other => woken ⟨same.symm, other⟩
      rw [← who, own]

theorem kept_enqueue (reactor : Reactor β) (effect : EffectId) :
    Kept reactor (reactor.enqueue effect) := by
  unfold enqueue
  split
  · exact ⟨List.suffix_rfl, rfl, rfl, rfl, rfl⟩
  · exact ⟨List.suffix_rfl, rfl, rfl, rfl, rfl⟩

theorem watched_enqueue (effect : EffectId)
    (watched : reactor.Watched fun other => other = effect ∨ more other) :
    (reactor.enqueue effect).Watched more := by
  unfold enqueue
  split
  · refine ⟨watched.mirrored, fun active read => ?_⟩
    rcases watched.attended active read with waits | waits | (now | soon) | fresh
    · exact .inl waits
    · exact .inr (.inl (mem_addNew.mpr (.inl waits)))
    · exact .inr (.inl (mem_addNew.mpr (.inr now)))
    · exact .inr (.inr (.inl soon))
    · exact .inr (.inr (.inr fresh))
  · refine ⟨watched.mirrored, fun active read => ?_⟩
    rcases watched.attended active read with waits | waits | (now | soon) | fresh
    · exact .inl (mem_addNew.mpr (.inl waits))
    · exact .inr (.inl waits)
    · exact .inl (mem_addNew.mpr (.inr now))
    · exact .inr (.inr (.inl soon))
    · exact .inr (.inr (.inr fresh))

theorem queues_of_not_pending (nothing : reactor.pending = false) :
    reactor.preQueue = [] ∧ reactor.postQueue = [] := by
  simpa [pending] using nothing

theorem pending_of_next?_none (none : reactor.next? = none) : reactor.pending = false := by
  unfold next? at none
  unfold pending
  split at none
  · cases none
  · cases none
  case h_3 first last => rw [first, last]; rfl

theorem kept_next? {effect : EffectId} (found : before.next? = some (effect, after)) :
    Kept before after := by
  unfold next? at found
  split at found
  case h_1 | h_2 =>
    cases found
    exact ⟨List.suffix_rfl, rfl, rfl, rfl, rfl⟩
  case h_3 => cases found

/-- Taking the next effect off the queues makes it due. -/
theorem watched_next? {effect : EffectId} (found : before.next? = some (effect, after))
    (watched : before.Watched more) :
    after.Watched fun other => other = effect ∨ more other := by
  unfold next? at found
  split at found
  case h_1 first rest queue =>
    cases found
    refine ⟨watched.mirrored, fun active read => ?_⟩
    rcases watched.attended active read with waits | waits | soon | fresh
    · rw [queue] at waits
      rcases List.mem_cons.mp waits with now | later
      · exact .inr (.inr (.inl (.inl now)))
      · exact .inl later
    · exact .inr (.inl waits)
    · exact .inr (.inr (.inl (.inr soon)))
    · exact .inr (.inr (.inr fresh))
  case h_2 first rest none queue =>
    cases found
    refine ⟨watched.mirrored, fun active read => ?_⟩
    rcases watched.attended active read with waits | waits | soon | fresh
    · exact .inl waits
    · rw [queue] at waits
      rcases List.mem_cons.mp waits with now | later
      · exact .inr (.inr (.inl (.inl now)))
      · exact .inr (.inl later)
    · exact .inr (.inr (.inl (.inr soon)))
    · exact .inr (.inr (.inr fresh))
  case h_3 => cases found

end Reactor

end ReactiveSchema
