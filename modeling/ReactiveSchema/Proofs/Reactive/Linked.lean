import ReactiveSchema.Proofs.Act.Elementary
import ReactiveSchema.Proofs.Reactive.Kinds

/-!
# Subscriptions that are noted

Whoever is subscribed to tracked state is active, and has it among what it has read.  So it is
enough to end the subscriptions that an effect knows of, for it to be gone from all readers.
-/

namespace ReactiveSchema

namespace Reactor

variable {β : Type} {before after reactor : Reactor β} {effect other : EffectId} {dep item : DepId}

/-- Whoever is subscribed is active and has noted it. -/
structure Linked (reactor : Reactor β) : Prop where
  active {effect : EffectId} {dep : DepId} :
    effect ∈ reactor.subscribersOf dep → reactor.isActive effect = true
  noted {effect : EffectId} {dep : DepId} :
    effect ∈ reactor.subscribersOf dep → dep ∈ reactor.depsOf effect

theorem Linked.known (linked : reactor.Linked) (reads : effect ∈ reactor.subscribersOf dep) :
    effect < reactor.effects.size :=
  known_of_isActive (linked.active reads)

theorem Linked.of_eq (linked : before.Linked) (effects : after.effects = before.effects)
    (subscribers : after.subscribers = before.subscribers) : after.Linked := by
  have readers (dep : DepId) : after.subscribersOf dep = before.subscribersOf dep := by
    unfold subscribersOf
    rw [subscribers]
  constructor
  case active =>
    intro effect dep reads
    rw [isActive_of_effects effects]
    exact linked.active (readers dep ▸ reads)
  case noted =>
    intro effect dep reads
    unfold depsOf
    rw [effects]
    exact linked.noted (readers dep ▸ reads)

theorem Linked.subscribe (linked : reactor.Linked) (active : reactor.isActive effect = true)
    (dep : DepId) : (reactor.subscribe effect dep).Linked := by
  have known {other : EffectId} {item : DepId}
      (reads : other ∈ (reactor.subscribe effect dep).subscribersOf item) :
      other ∈ reactor.subscribersOf item ∨ other = effect ∧ item = dep := by
    rw [subscribersOf_subscribe] at reads
    split at reads
    case isTrue same => exact (mem_addNew.mp reads).imp (same ▸ ·) (⟨·, same⟩)
    case isFalse => exact .inl reads
  constructor
  case active =>
    intro other item reads
    rw [isActive_subscribe]
    rcases known reads with old | ⟨rfl, -⟩
    · exact linked.active old
    · exact active
  case noted =>
    intro other item reads
    by_cases own : other = effect
    · subst own
      rw [depsOf_subscribe_self active, mem_addNew]
      exact (known reads).imp linked.noted And.right
    · rw [depsOf_subscribe_of_ne own]
      exact linked.noted ((known reads).resolve_right fun new => own new.1)

theorem Linked.track (linked : reactor.Linked) (dep : DepId) : (reactor.track dep).Linked := by
  unfold Reactor.track
  split
  · exact linked
  · split
    case isTrue active => exact (linked.subscribe active dep).of_eq rfl rfl
    case isFalse => exact linked

theorem subscribersOf_dropAll (effect : EffectId) (deps : List DepId) :
    (deps.foldl (dropSubscriber effect) reactor).subscribersOf item =
      if item ∈ deps then (reactor.subscribersOf item).filter (· != effect)
      else reactor.subscribersOf item := by
  induction deps generalizing reactor with
  | nil => rw [if_neg List.not_mem_nil]; rfl
  | cons dep rest ih =>
      rw [List.foldl_cons, ih]
      unfold dropSubscriber
      rw [subscribersOf_setSubscribers]
      by_cases now : item = dep
      · simp [now]
      · simp [now]

/-- Who ends its subscriptions is gone from all readers. -/
theorem Linked.subscribersOf_unsubscribe (linked : reactor.Linked) (effect : EffectId)
    (dep : DepId) : (reactor.unsubscribe effect).subscribersOf dep =
      (reactor.subscribersOf dep).filter (· != effect) := by
  refine (subscribersOf_dropAll effect (reactor.depsOf effect)).trans ?_
  split
  case isTrue => rfl
  case isFalse unread =>
    refine (List.filter_eq_self.mpr fun other reads => ?_).symm
    exact bne_iff_ne.mpr fun own => unread (linked.noted (own ▸ reads))

/-- Once an effect has ended its subscriptions, no change of it matters to those who are left. -/
theorem Linked.unsubscribe (linked : reactor.Linked) (effect : EffectId)
    (change : Effect β → Effect β) :
    ((reactor.unsubscribe effect).modifyEffect effect change).Linked := by
  have others {other : EffectId} {dep : DepId} (reads : other ∈
      ((reactor.unsubscribe effect).modifyEffect effect change).subscribersOf dep) :
      other ∈ reactor.subscribersOf dep ∧ other ≠ effect := by
    change other ∈ (reactor.unsubscribe effect).subscribersOf dep at reads
    rw [linked.subscribersOf_unsubscribe] at reads
    obtain ⟨reads, apart⟩ := List.mem_filter.mp reads
    exact ⟨reads, bne_iff_ne.mp apart⟩
  constructor
  case active =>
    intro other dep reads
    obtain ⟨reads, apart⟩ := others reads
    have same : ((reactor.unsubscribe effect).modifyEffect effect change).isActive other =
        (reactor.unsubscribe effect).isActive other := by
      unfold isActive
      rw [found_modifyEffect change apart]
    rw [same, isActive_unsubscribe]
    exact linked.active reads
  case noted =>
    intro other dep reads
    obtain ⟨reads, apart⟩ := others reads
    rw [depsOf_modifyEffect_of_ne change apart, depsOf_unsubscribe_of_ne apart]
    exact linked.noted reads

theorem Linked.beginRun (linked : reactor.Linked) (effect : EffectId) :
    (reactor.beginRun effect).Linked := by
  have counted := linked.unsubscribe effect fun cell => { cell with runs := cell.runs + 1 }
  exact counted.of_eq rfl rfl

theorem Linked.stop (linked : reactor.Linked) (effect : EffectId) :
    (reactor.stop effect).Linked := by
  unfold Reactor.stop
  split
  · exact linked.unsubscribe effect _
  · exact linked

theorem Linked.stopScope (linked : reactor.Linked) (scope : EffectScopeId) :
    (reactor.stopScope scope).Linked :=
  stopScope_along (R := fun before after => before.Linked → after.Linked) reactor scope
    (fun _ => id) (fun first second => second ∘ first) (fun _ effect _ linked => linked.stop effect)
    (fun _ _ linked => linked.of_eq rfl rfl) linked

theorem Linked.addEffect (linked : reactor.Linked) (body : β) (timing : Timing) (joins : Bool) :
    (reactor.addEffect body timing joins).2.Linked := by
  obtain ⟨scopes, same⟩ := fields_addEffect reactor body timing joins
  have old {effect : EffectId} {dep : DepId}
      (reads : effect ∈ (reactor.addEffect body timing joins).2.subscribersOf dep) :
      effect ∈ reactor.subscribersOf dep := by
    rw [same] at reads
    exact reads
  constructor
  case active =>
    intro effect dep reads
    rw [isActive_addEffect, if_neg (Nat.ne_of_lt (linked.known (old reads)))]
    exact linked.active (old reads)
  case noted =>
    intro effect dep reads
    rw [same]
    unfold depsOf
    dsimp only
    rw [Array.getElem?_push, if_neg (Nat.ne_of_lt (linked.known (old reads)))]
    exact linked.noted (old reads)

theorem Linked.enqueue (linked : reactor.Linked) (effect : EffectId) :
    (reactor.enqueue effect).Linked :=
  linked.of_eq (fields_enqueue reactor effect).1 (fields_enqueue reactor effect).2

theorem Linked.next? {rest : Reactor Body} {reactor : Reactor Body} (linked : reactor.Linked)
    (found : reactor.next? = some (effect, rest)) : rest.Linked := by
  unfold Reactor.next? at found
  split at found
  case h_1 => cases found; exact linked.of_eq rfl rfl
  case h_2 => cases found; exact linked.of_eq rfl rfl
  case h_3 => cases found

theorem linked_empty : (empty : Reactor β).Linked where
  active reads := nomatch reads
  noted reads := nomatch reads

end Reactor

theorem elementary_linked :
    Elementary fun before after : Reactor Body => before.Linked → after.Linked where
  refl _ := id
  trans first second := second ∘ first
  setting _ _ _ _ _ linked := linked.of_eq rfl rfl
  scopes _ _ linked := linked.of_eq rfl rfl
  note _ _ linked := linked.of_eq rfl rfl
  track _ dep linked := linked.track dep
  enqueue _ effect linked := linked.enqueue effect
  next found linked := linked.next? found
  beginRun _ linked := linked.beginRun _
  addEffect _ body timing joins linked := linked.addEffect body timing joins
  stop _ effect linked := linked.stop effect

/-- Whatever program has run, subscriptions are noted by those who are subscribed. -/
theorem linked_steps (flushLimit nesting : Nat) (program : List Action) :
    (Session.steps (.bounded flushLimit nesting) program .empty).2.reactor.Linked :=
  (elementary_linked.respected flushLimit nesting).steps program .empty Reactor.linked_empty

end ReactiveSchema
