import ReactiveSchema.Proofs.Reactive.Signals

/-!
# Kinds of effects

What an effect does and when it runs is settled when it is made, and each effect waits in
the queue of its timing.
-/

namespace ReactiveSchema

namespace Reactor

variable {β : Type} {before after reactor : Reactor β} {effect other : EffectId}

/-! ## What effects do, and when -/

/-- What an effect does, and when it runs. -/
def kindOf (reactor : Reactor β) (effect : EffectId) : Option (β × Timing) :=
  reactor.effects[effect]?.map fun cell => (cell.body, cell.timing)

theorem kindOf_of_found {cell : Effect β} (found : reactor.effects[effect]? = some cell) :
    reactor.kindOf effect = some (cell.body, cell.timing) := by
  unfold kindOf
  rw [found]
  rfl

theorem kindOf_of_size_le (missing : reactor.effects.size ≤ effect) :
    reactor.kindOf effect = none := by
  unfold kindOf
  rw [Array.getElem?_eq_none missing]
  rfl

theorem timingOf_eq (reactor : Reactor β) (effect : EffectId) :
    reactor.timingOf effect = ((reactor.kindOf effect).map (·.2)).getD .pre := by
  unfold timingOf kindOf
  rw [Option.map_map]
  rfl

theorem kindOf_of_effects (same : after.effects = before.effects) :
    after.kindOf effect = before.kindOf effect := by
  unfold kindOf
  rw [same]

theorem kindOf_modifyEffect {change : Effect β → Effect β}
    (same : ∀ cell, ((change cell).body, (change cell).timing) = (cell.body, cell.timing)) :
    (reactor.modifyEffect effect change).kindOf other = reactor.kindOf other := by
  unfold kindOf
  rw [effects_getElem?_modifyEffect]
  split
  · cases reactor.effects[other]? with
    | none => rfl
    | some cell => exact congrArg some (same cell)
  · rfl

theorem kindOf_subscribe (dep : DepId) :
    (reactor.subscribe effect dep).kindOf other = reactor.kindOf other := by
  unfold subscribe
  refine Eq.trans (kindOf_modifyEffect ?_) ?_
  · exact fun _ => rfl
  · rfl

theorem kindOf_dropAll (effect : EffectId) (deps : List DepId) (reactor : Reactor β) :
    (deps.foldl (dropSubscriber effect) reactor).kindOf other = reactor.kindOf other := by
  obtain ⟨subscribers, same⟩ := fields_dropAll effect deps reactor
  rw [same]
  rfl

theorem kindOf_unsubscribe : (reactor.unsubscribe effect).kindOf other = reactor.kindOf other := by
  unfold unsubscribe
  refine Eq.trans (kindOf_modifyEffect ?_) (kindOf_dropAll effect _ reactor)
  exact fun _ => rfl

theorem kindOf_beginRun : (reactor.beginRun effect).kindOf other = reactor.kindOf other := by
  have counted : ((reactor.unsubscribe effect).modifyEffect effect
      fun cell => { cell with runs := cell.runs + 1 }).kindOf other =
        (reactor.unsubscribe effect).kindOf other := by
    refine kindOf_modifyEffect ?_
    exact fun _ => rfl
  exact counted.trans kindOf_unsubscribe

theorem kindOf_stop : (reactor.stop effect).kindOf other = reactor.kindOf other := by
  unfold stop
  split
  · refine Eq.trans (kindOf_modifyEffect ?_) kindOf_unsubscribe
    exact fun _ => rfl
  · rfl

theorem kindOf_addEffect (reactor : Reactor β) (body : β) (timing : Timing) (joins : Bool) :
    (reactor.addEffect body timing joins).2.kindOf other =
      if other = reactor.effects.size then some (body, timing) else reactor.kindOf other := by
  obtain ⟨scopes, same⟩ := fields_addEffect reactor body timing joins
  rw [same]
  unfold kindOf
  dsimp only
  rw [Array.getElem?_push]
  split
  · rfl
  · rfl

theorem kindOf_signal (signal : Signal) :
    (reactor.signal signal).kindOf other = reactor.kindOf other := by
  cases signal with
  | read dep =>
      rcases track_cases reactor dep with same | ⟨running, -, same⟩
      · exact congrArg (kindOf · other) same
      · exact (congrArg (kindOf · other) same).trans (kindOf_subscribe dep)
  | told dep => exact kindOf_of_effects (fields_tell reactor dep).1

theorem kindOf_signalAll (reactor : Reactor β) (signals : List Signal) :
    (reactor.signalAll signals).kindOf other = reactor.kindOf other := by
  induction signals generalizing reactor with
  | nil => rfl
  | cons signal rest ih => exact (ih (reactor.signal signal)).trans (kindOf_signal signal)

/-! ## Queues in order -/

/-- Effects wait in the queue of their timing, and those that use values only once. -/
structure Sorted (reactor : Reactor β) : Prop where
  pre {effect : EffectId} : effect ∈ reactor.preQueue → reactor.timingOf effect = .pre
  post {effect : EffectId} : effect ∈ reactor.postQueue → reactor.timingOf effect = .post
  once : reactor.postQueue.Nodup

theorem nodup_addNew {items : List Nat} (once : items.Nodup) (item : Nat) :
    (addNew items item).Nodup := by
  unfold addNew
  split
  case isTrue => exact once
  case isFalse new =>
    have new : item ∉ items := fun known => new (List.contains_iff_mem.mpr known)
    exact List.nodup_append.mpr
      ⟨once, List.pairwise_singleton _ item, fun _ known _ same => by
        rw [List.mem_singleton.mp same]
        exact fun equal => new (equal ▸ known)⟩

theorem Sorted.enqueue (sorted : Sorted reactor) (effect : EffectId) :
    Sorted (reactor.enqueue effect) := by
  have timing (other : EffectId) :
      (reactor.enqueue effect).timingOf other = reactor.timingOf other := by
    unfold timingOf
    rw [(fields_enqueue reactor effect).1]
  constructor
  case pre =>
    intro other waits
    rw [timing]
    unfold Reactor.enqueue at waits
    split at waits
    case isTrue => exact sorted.pre waits
    case isFalse early =>
      rcases mem_addNew.mp waits with waits | rfl
      · exact sorted.pre waits
      · cases known : reactor.timingOf other with
        | pre => rfl
        | post => exact absurd known early
  case post =>
    intro other waits
    rw [timing]
    unfold Reactor.enqueue at waits
    split at waits
    case isTrue late =>
      rcases mem_addNew.mp waits with waits | rfl
      · exact sorted.post waits
      · exact late
    case isFalse => exact sorted.post waits
  case once =>
    unfold Reactor.enqueue
    split
    case isTrue => exact nodup_addNew sorted.once effect
    case isFalse => exact sorted.once

theorem Sorted.enqueueAll (sorted : Sorted reactor) (effects : List EffectId) :
    Sorted (effects.foldl Reactor.enqueue reactor) := by
  induction effects generalizing reactor with
  | nil => exact sorted
  | cons effect rest ih => exact ih (sorted.enqueue effect)

theorem Sorted.of_sublist (sorted : Sorted before)
    (preQueue : after.preQueue.Sublist before.preQueue)
    (postQueue : after.postQueue.Sublist before.postQueue)
    (timing : ∀ effect, after.timingOf effect = before.timingOf effect) : Sorted after where
  pre waits := (timing _).trans (sorted.pre (preQueue.subset waits))
  post waits := (timing _).trans (sorted.post (postQueue.subset waits))
  once := sorted.once.sublist postQueue

theorem Sorted.of_eq (sorted : Sorted before) (preQueue : after.preQueue = before.preQueue)
    (postQueue : after.postQueue = before.postQueue)
    (timing : ∀ effect, after.timingOf effect = before.timingOf effect) : Sorted after :=
  sorted.of_sublist (preQueue ▸ .refl _) (postQueue ▸ .refl _) timing

theorem Sorted.signal (sorted : Sorted reactor) (signal : Signal) :
    Sorted (reactor.signal signal) := by
  have timing (other : EffectId) :
      (reactor.signal signal).timingOf other = reactor.timingOf other := by
    rw [timingOf_eq, timingOf_eq, kindOf_signal]
  cases signal with
  | read dep =>
      rcases track_cases reactor dep with same | ⟨running, -, same⟩
      · exact sorted.of_eq (congrArg preQueue same) (congrArg postQueue same) timing
      · exact sorted.of_eq (congrArg preQueue same :) (congrArg postQueue same :) timing
  | told dep =>
      have noted : Sorted (reactor.note (.told dep reactor.activeEffect)) :=
        ⟨sorted.pre, sorted.post, sorted.once⟩
      exact noted.enqueueAll _

theorem Sorted.signalAll (sorted : Sorted reactor) (signals : List Signal) :
    Sorted (reactor.signalAll signals) := by
  induction signals generalizing reactor with
  | nil => exact sorted
  | cons signal rest ih => exact ih (sorted.signal signal)

end Reactor

end ReactiveSchema
