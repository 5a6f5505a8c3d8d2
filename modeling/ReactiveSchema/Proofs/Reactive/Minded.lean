import ReactiveSchema.Proofs.Act.RespectPrograms
import ReactiveSchema.Proofs.Reactive.Telling
import ReactiveSchema.Proofs.Reactive.Wake

/-!
# Effects that are not forgotten

A fault may end a run, a flush or a batch at any point.  Effects are taken off the
queues one at a time, each right before its run, so whatever ends: what waited
still waits, or has begun to run, or runs no more.  While queued effects are put
off, be it by a batch or by a flush that is under way, a change that is told
queues all readers before any of them runs, and so none of them is forgotten.
-/

namespace ReactiveSchema

namespace Reactor

variable {β : Type} {before middle after reactor : Reactor β} {history : List Event}
  {event : Event} {effect other : EffectId} {dep : DepId}

/-- Something has happened since a point of history. -/
def Since (history : List Event) (reactor : Reactor β) (event : Event) : Prop :=
  ∃ newer, reactor.history = newer ++ history ∧ event ∈ newer

theorem Since.later (since : Since history before event)
    (older : before.history <:+ after.history) : Since history after event := by
  obtain ⟨newer, same, known⟩ := since
  obtain ⟨newest, same'⟩ := older
  refine ⟨newest ++ newer, ?_, List.mem_append_right _ known⟩
  rw [← same', same, List.append_assoc]

theorem Since.earlier (since : Since before.history after event)
    (older : history <:+ before.history) : Since history after event := by
  obtain ⟨newer, same, known⟩ := since
  obtain ⟨between, same'⟩ := older
  refine ⟨newer ++ between, ?_, List.mem_append_left _ known⟩
  rw [same, ← same', List.append_assoc]

/-- What has happened since a point of history, seen from a later point. -/
theorem Since.cases (since : Since before.history after event)
    (first : before.history <:+ middle.history) (second : middle.history <:+ after.history) :
    Since before.history middle event ∨ Since middle.history after event := by
  obtain ⟨newer, same, known⟩ := since
  obtain ⟨between, same'⟩ := first
  obtain ⟨newest, same''⟩ := second
  have split : newer = newest ++ between := by
    have whole : newer ++ before.history = newest ++ between ++ before.history := by
      rw [← same, ← same'', ← same', List.append_assoc]
    exact List.append_cancel_right whole
  rw [split] at known
  rcases List.mem_append.mp known with late | early
  · exact .inr ⟨newest, same''.symm, late⟩
  · exact .inl ⟨between, same'.symm, early⟩

theorem since_note (reactor : Reactor β) (event : Event) :
    Since reactor.history (reactor.note event) event :=
  ⟨[event], rfl, List.mem_singleton_self event⟩

theorem not_since (same : after.history = before.history) :
    ¬ Since before.history after event := by
  rintro ⟨newer, split, known⟩
  rw [same] at split
  rw [List.self_eq_append_left.mp split] at known
  cases known

theorem eq_of_since_note {added : Event} (since : Since reactor.history (reactor.note added) event) :
    event = added := by
  obtain ⟨newer, same, known⟩ := since
  have whole : newer ++ reactor.history = [added] ++ reactor.history := same.symm
  have only : newer = [added] := List.append_cancel_right whole
  rw [only] at known
  exact List.mem_singleton.mp known

/-- An effect waits, or has begun to run since a point of history, or runs no more. -/
def Minded (history : List Event) (reactor : Reactor β) (effect : EffectId) : Prop :=
  effect ∈ reactor.preQueue ∨ effect ∈ reactor.postQueue ∨
    Since history reactor (.began effect) ∨ reactor.isActive effect = false

theorem Minded.earlier (minded : Minded before.history after effect)
    (older : history <:+ before.history) : Minded history after effect :=
  minded.imp_right (Or.imp_right (Or.imp_left (·.earlier older)))

theorem Minded.note (minded : Minded history reactor effect) (event : Event) :
    Minded history (reactor.note event) effect :=
  minded.imp_right (Or.imp_right (Or.imp_left (·.later (List.suffix_cons _ _))))

theorem minded_of_since (begun : Since history reactor (.began effect)) :
    Minded history reactor effect :=
  .inr (.inr (.inl begun))

theorem minded_of_stopped (stopped : reactor.isActive effect = false) :
    Minded history reactor effect :=
  .inr (.inr (.inr stopped))

/-- Every effect that had read what was told to have changed is minded, but for the running one. -/
structure Heeds (before after : Reactor β) : Prop where
  minded {dep : DepId} {running : Option EffectId} {effect : EffectId} :
    Since before.history after (.told dep running) → effect < before.effects.size →
      effect ∈ before.subscribersOf dep → some effect ≠ before.activeEffect →
        Minded before.history after effect

theorem heeds_of_untold (untold : ∀ dep running, ¬ Since before.history after (.told dep running)) :
    Heeds before after :=
  ⟨fun told => absurd told (untold _ _)⟩

/-- No effect that waited or had read is forgotten, and none that was stopped is active again. -/
structure Minds (before after : Reactor β) : Prop extends Kept before after where
  size : before.effects.size ≤ after.effects.size
  stopped {effect : EffectId} : effect < before.effects.size →
    before.isActive effect = false → after.isActive effect = false
  waits {effect : EffectId} : effect < before.effects.size →
    effect ∈ before.preQueue ∨ effect ∈ before.postQueue → Minded before.history after effect
  reads {effect : EffectId} {dep : DepId} : effect < before.effects.size →
    effect ∈ before.subscribersOf dep →
      effect ∈ after.subscribersOf dep ∨ Minded before.history after effect
  heeds : before.idle = false → Heeds before after

theorem Minds.minded (minds : Minds before after) (known : effect < before.effects.size)
    (older : history <:+ before.history) (minded : Minded history before effect) :
    Minded history after effect := by
  rcases minded with waits | waits | begun | stopped
  · exact (minds.waits known (.inl waits)).earlier older
  · exact (minds.waits known (.inr waits)).earlier older
  · exact minded_of_since (begun.later minds.older)
  · exact minded_of_stopped (minds.stopped known stopped)

theorem Heeds.trans (first : Minds before middle) (heeds : Heeds before middle)
    (second : Minds middle after) (heeds' : Heeds middle after) : Heeds before after := by
  refine ⟨fun {dep running effect} told known reads apart => ?_⟩
  have known' := Nat.lt_of_lt_of_le known first.size
  rcases told.cases first.older second.older with early | late
  · exact second.minded known' first.older (heeds.minded early known reads apart)
  · rcases first.reads known reads with reads | minded
    · exact (heeds'.minded late known' reads (first.activeEffect ▸ apart)).earlier first.older
    · exact second.minded known' first.older minded

theorem Minds.refl (reactor : Reactor β) : Minds reactor reactor where
  toKept := .refl reactor
  size := Nat.le_refl _
  stopped _ := id
  waits _ waits := waits.imp_right .inl
  reads _ := .inl
  heeds _ := heeds_of_untold fun _ _ => not_since rfl

theorem Minds.trans (first : Minds before middle) (second : Minds middle after) :
    Minds before after where
  toKept := first.toKept.trans second.toKept
  size := Nat.le_trans first.size second.size
  stopped known := second.stopped (Nat.lt_of_lt_of_le known first.size) ∘ first.stopped known
  waits known waits :=
    second.minded (Nat.lt_of_lt_of_le known first.size) first.older (first.waits known waits)
  reads known reads := by
    have known' := Nat.lt_of_lt_of_le known first.size
    rcases first.reads known reads with reads | minded
    · exact (second.reads known' reads).imp_right (·.earlier first.older)
    · exact .inr (second.minded known' first.older minded)
  heeds busy :=
    Heeds.trans first (first.heeds busy) second (second.heeds (first.toKept.idle.trans busy))

/-- What tells nothing and takes nothing off the queues. -/
theorem Minds.of_untold (kept : Kept before after) (size : before.effects.size ≤ after.effects.size)
    (stopped : ∀ effect, effect < before.effects.size → before.isActive effect = false →
      after.isActive effect = false)
    (pre : ∀ effect ∈ before.preQueue, effect ∈ after.preQueue)
    (post : ∀ effect ∈ before.postQueue, effect ∈ after.postQueue)
    (reads : ∀ effect dep, effect < before.effects.size → effect ∈ before.subscribersOf dep →
      effect ∈ after.subscribersOf dep ∨ Minded before.history after effect)
    (untold : ∀ dep running, ¬ Since before.history after (.told dep running)) :
    Minds before after where
  toKept := kept
  size := size
  stopped := stopped _
  waits _ waits := waits.imp (pre _) (.inl ∘ post _)
  reads := reads _ _
  heeds _ := heeds_of_untold untold

/-! ## Reading -/

theorem isActive_of_effects (same : after.effects = before.effects) :
    after.isActive effect = before.isActive effect := by
  unfold isActive
  rw [same]

theorem minds_track (reactor : Reactor β) (dep : DepId) : Minds reactor (reactor.track dep) := by
  unfold track
  split
  case h_1 => exact .refl reactor
  case h_2 running _ =>
    split
    case isTrue active =>
      refine .of_untold ⟨⟨[_], rfl⟩, rfl, rfl, rfl, rfl⟩ ?_ ?_ (fun _ => id) (fun _ => id) ?_ ?_
      · exact Nat.le_of_eq (Array.size_modify ..).symm
      · exact fun effect _ stopped => isActive_subscribe.trans stopped
      · intro effect item _ reads
        refine .inl ?_
        change effect ∈ (reactor.subscribe running dep).subscribersOf item
        rw [subscribersOf_subscribe]
        split
        case isTrue same => exact mem_addNew.mpr (.inl (same ▸ reads))
        case isFalse => exact reads
      · exact fun item running told => nomatch eq_of_since_note told
    case isFalse => exact .refl reactor

theorem minds_trackAll (reactor : Reactor β) (deps : List DepId) :
    Minds reactor (reactor.trackAll deps) := by
  induction deps generalizing reactor with
  | nil => exact .refl reactor
  | cons dep rest ih => exact (minds_track reactor dep).trans (ih (reactor.track dep))

/-! ## Effects that come and go -/

theorem size_unsubscribe (reactor : Reactor β) (effect : EffectId) :
    (reactor.unsubscribe effect).effects.size = reactor.effects.size := by
  obtain ⟨subscribers, same⟩ := fields_dropAll effect (reactor.depsOf effect) reactor
  unfold unsubscribe
  rw [same]
  exact Array.size_modify ..

theorem since_beginRun (reactor : Reactor β) (effect : EffectId) :
    Since reactor.history (reactor.beginRun effect) (.began effect) := by
  obtain ⟨effects, subscribers, same⟩ := fields_unsubscribe reactor effect
  unfold beginRun
  rw [same]
  exact since_note _ _

theorem eq_of_since_beginRun (since : Since reactor.history (reactor.beginRun effect) event) :
    event = .began effect := by
  obtain ⟨effects, subscribers, same⟩ := fields_unsubscribe reactor effect
  unfold beginRun at since
  rw [same] at since
  exact eq_of_since_note since

theorem size_beginRun (reactor : Reactor β) (effect : EffectId) :
    (reactor.beginRun effect).effects.size = reactor.effects.size :=
  (Array.size_modify ..).trans (size_unsubscribe reactor effect)

theorem isActive_stop_self (reactor : Reactor β) (effect : EffectId) :
    (reactor.stop effect).isActive effect = false := by
  unfold stop
  split
  case isTrue =>
    unfold isActive
    rw [effects_getElem?_modifyEffect, if_pos rfl]
    cases (reactor.unsubscribe effect).effects[effect]? with
    | none => rfl
    | some cell => rfl
  case isFalse stopped => exact Bool.eq_false_iff.mpr stopped

theorem isActive_stop_of_ne (apart : other ≠ effect) :
    (reactor.stop effect).isActive other = reactor.isActive other := by
  unfold stop
  split
  case isTrue =>
    have same : (reactor.unsubscribe effect).isActive other = reactor.isActive other :=
      isActive_unsubscribe
    rw [← same]
    generalize reactor.unsubscribe effect = ended
    unfold isActive
    rw [effects_getElem?_modifyEffect, if_neg apart]
  case isFalse => rfl

theorem mem_subscribersOf_stop (apart : other ≠ effect) :
    other ∈ (reactor.stop effect).subscribersOf dep ↔ other ∈ reactor.subscribersOf dep := by
  unfold stop
  split
  case isTrue => exact mem_subscribersOf_unsubscribe apart
  case isFalse => exact Iff.rfl

theorem size_stop (reactor : Reactor β) (effect : EffectId) :
    (reactor.stop effect).effects.size = reactor.effects.size := by
  unfold stop
  split
  case isTrue => exact (Array.size_modify ..).trans (size_unsubscribe reactor effect)
  case isFalse => rfl

/-- Stopping an effect changes no more than the effects and who is subscribed. -/
theorem fields_stop (reactor : Reactor β) (effect : EffectId) :
    ∃ effects subscribers, reactor.stop effect = { reactor with effects, subscribers } := by
  unfold stop
  split
  case isTrue =>
    obtain ⟨effects, subscribers, same⟩ := fields_unsubscribe reactor effect
    rw [same]
    exact ⟨_, subscribers, rfl⟩
  case isFalse => exact ⟨_, _, rfl⟩

theorem minds_stop (reactor : Reactor β) (effect : EffectId) :
    Minds reactor (reactor.stop effect) := by
  have ended := isActive_stop_self reactor effect
  obtain ⟨effects, subscribers, same⟩ := fields_stop reactor effect
  refine .of_untold (keeps_stop reactor effect).toKept
    (Nat.le_of_eq (size_stop reactor effect).symm) ?_ (same ▸ fun _ => id) (same ▸ fun _ => id)
    ?_ fun _ _ => not_since (same ▸ rfl)
  · intro other _ stopped
    by_cases own : other = effect
    · exact own ▸ ended
    · exact (isActive_stop_of_ne own).trans stopped
  · intro other dep _ reads
    by_cases own : other = effect
    · exact .inr (minded_of_stopped (own ▸ ended))
    · exact .inl ((mem_subscribersOf_stop own).mpr reads)

theorem minds_scopes (reactor : Reactor β) (scopes : Array EffectScope) :
    Minds reactor { reactor with scopes } :=
  .of_untold (keeps_scopes reactor scopes).toKept (Nat.le_refl _) (fun _ _ => id) (fun _ => id)
    (fun _ => id) (fun _ _ _ => .inl) fun _ _ => not_since rfl

theorem minds_stopScope (reactor : Reactor β) (scope : EffectScopeId) :
    Minds reactor (reactor.stopScope scope) :=
  stopScope_along reactor scope .refl .trans (fun start effect _ => minds_stop start effect)
    minds_scopes

theorem minds_push (reactor : Reactor β) (body : β) (timing : Timing) :
    Minds reactor
      { reactor with effects := reactor.effects.push ⟨body, timing, true, 0, []⟩ } := by
  refine .of_untold (keeps_push reactor body timing).toKept ?_ ?_ (fun _ => id) (fun _ => id)
    (fun _ _ _ => .inl) fun _ _ => not_since rfl
  · rw [Array.size_push]
    exact Nat.le_succ _
  · intro effect known stopped
    unfold isActive at stopped ⊢
    rwa [Array.getElem?_push_lt known, ← Array.getElem?_eq_getElem known]

theorem minds_addEffect (reactor : Reactor β) (body : β) (timing : Timing) (joins : Bool) :
    Minds reactor (reactor.addEffect body timing joins).2 := by
  unfold addEffect
  dsimp only
  split
  · exact (minds_push reactor body timing).trans (minds_scopes _ _)
  · exact minds_push reactor body timing

/-! ## Queues -/

theorem history_enqueue (reactor : Reactor β) (effect : EffectId) :
    (reactor.enqueue effect).history = reactor.history := by
  unfold enqueue
  split <;> rfl

theorem minds_enqueue (reactor : Reactor β) (effect : EffectId) :
    Minds reactor (reactor.enqueue effect) := by
  obtain ⟨effects, subscribers⟩ := fields_enqueue reactor effect
  refine .of_untold (kept_enqueue reactor effect) (Nat.le_of_eq (congrArg _ effects.symm))
    (fun _ _ stopped => (isActive_of_effects effects).trans stopped) ?_ ?_ ?_ ?_
  · unfold enqueue
    split
    · exact fun _ => id
    · exact fun _ waits => mem_addNew.mpr (.inl waits)
  · unfold enqueue
    split
    · exact fun _ waits => mem_addNew.mpr (.inl waits)
    · exact fun _ => id
  · intro other dep _ reads
    unfold subscribersOf
    rw [subscribers]
    exact .inl reads
  · exact fun _ _ => not_since (history_enqueue reactor effect)

theorem waits_enqueue_self (reactor : Reactor β) (effect : EffectId) :
    effect ∈ (reactor.enqueue effect).preQueue ∨ effect ∈ (reactor.enqueue effect).postQueue := by
  unfold enqueue
  split
  · exact .inr (mem_addNew.mpr (.inr rfl))
  · exact .inl (mem_addNew.mpr (.inr rfl))

theorem fields_next? (found : before.next? = some (effect, after)) :
    after.history = before.history ∧ after.subscribers = before.subscribers := by
  unfold next? at found
  split at found
  case h_1 | h_2 =>
    cases found
    exact ⟨rfl, rfl⟩
  case h_3 => cases found

theorem minds_note (reactor : Reactor β) {event : Event}
    (harmless : ∀ dep running, event ≠ .told dep running) :
    Minds reactor (reactor.note event) :=
  .of_untold (kept_note reactor event) (Nat.le_refl _) (fun _ _ => id) (fun _ => id)
    (fun _ => id) (fun _ _ _ => .inl)
    fun dep running told => harmless dep running (eq_of_since_note told).symm

end Reactor

end ReactiveSchema
