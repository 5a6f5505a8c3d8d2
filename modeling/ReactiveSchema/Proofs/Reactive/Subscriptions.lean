import ReactiveSchema.Reactive.Graph

/-!
# Subscriptions and what changes them

What each change of the graph of effects does to the subscriptions of every
effect, to the subscribers of every piece of tracked state, and to which
effects are active.
-/

namespace ReactiveSchema.Reactor

variable {β : Type} {reactor : Reactor β} {effect other : EffectId} {dep item : DepId}

theorem mem_addNew {items : List Nat} {item added : Nat} :
    item ∈ addNew items added ↔ item ∈ items ∨ item = added := by
  unfold addNew
  split
  case isTrue known =>
    constructor
    · exact .inl
    · rintro (old | rfl)
      · exact old
      · exact List.contains_iff_mem.mp known
  case isFalse => simp

/-! ## Effects -/

theorem effects_getElem?_modifyEffect (change : Effect β → Effect β) :
    (reactor.modifyEffect effect change).effects[other]? =
      if other = effect then reactor.effects[other]?.map change else reactor.effects[other]? := by
  simp only [modifyEffect, Array.getElem?_modify]
  split
  case isTrue same => rw [if_pos same.symm]
  case isFalse apart => rw [if_neg fun same => apart same.symm]

theorem found_modifyEffect (change : Effect β → Effect β) (apart : other ≠ effect) :
    (reactor.modifyEffect effect change).effects[other]? = reactor.effects[other]? := by
  rw [effects_getElem?_modifyEffect, if_neg apart]

theorem found_of_isActive (active : reactor.isActive effect = true) :
    ∃ cell, reactor.effects[effect]? = some cell ∧ cell.active = true := by
  unfold isActive at active
  cases found : reactor.effects[effect]? with
  | none =>
      rw [found] at active
      cases active
  | some cell =>
      rw [found] at active
      exact ⟨cell, rfl, active⟩

theorem found_of_stopped (known : effect < reactor.effects.size)
    (stopped : reactor.isActive effect = false) :
    ∃ cell, reactor.effects[effect]? = some cell ∧ cell.active = false := by
  have found := Array.getElem?_eq_getElem known
  unfold isActive at stopped
  rw [found] at stopped
  exact ⟨_, found, stopped⟩

theorem known_of_isActive (active : reactor.isActive effect = true) :
    effect < reactor.effects.size := by
  obtain ⟨cell, found, -⟩ := found_of_isActive active
  exact (Array.getElem?_eq_some_iff.mp found).1

theorem depsOf_modifyEffect_of_ne (change : Effect β → Effect β) (apart : other ≠ effect) :
    (reactor.modifyEffect effect change).depsOf other = reactor.depsOf other := by
  unfold depsOf
  rw [effects_getElem?_modifyEffect, if_neg apart]

theorem isActive_modifyEffect {change : Effect β → Effect β}
    (same : ∀ cell, (change cell).active = cell.active) :
    (reactor.modifyEffect effect change).isActive other = reactor.isActive other := by
  unfold isActive
  rw [effects_getElem?_modifyEffect]
  split
  · cases reactor.effects[other]? with
    | none => rfl
    | some cell => exact same cell
  · rfl

theorem depsOf_addDep (added : DepId)
    (present : reactor.isActive effect = true) :
    (reactor.modifyEffect effect fun cell =>
      { cell with deps := addNew cell.deps added }).depsOf effect =
        addNew (reactor.depsOf effect) added := by
  unfold isActive at present
  unfold depsOf
  rw [effects_getElem?_modifyEffect, if_pos rfl]
  cases found : reactor.effects[effect]? with
  | none => rw [found] at present; cases present
  | some cell => rfl

theorem depsOf_clearDeps :
    (reactor.modifyEffect effect fun cell => { cell with deps := [] }).depsOf effect = [] := by
  unfold depsOf
  rw [effects_getElem?_modifyEffect, if_pos rfl]
  cases reactor.effects[effect]? with
  | none => rfl
  | some cell => rfl

theorem depsOf_modifyEffect {change : Effect β → Effect β}
    (same : ∀ cell, (change cell).deps = cell.deps) :
    (reactor.modifyEffect effect change).depsOf other = reactor.depsOf other := by
  unfold depsOf
  rw [effects_getElem?_modifyEffect]
  split
  · cases reactor.effects[other]? with
    | none => rfl
    | some cell => exact same cell
  · rfl

/-! ## Subscribers -/

theorem subscribersOf_setSubscribers (subscribers : List EffectId) :
    (reactor.setSubscribers dep subscribers).subscribersOf item =
      if item = dep then subscribers else reactor.subscribersOf item := by
  simp only [setSubscribers, subscribersOf]
  rw [Array.getElem?_setIfInBounds]
  by_cases same : dep = item
  · subst same
    rw [if_pos rfl, if_pos rfl]
    have inside : dep < (reactor.subscribers ++
        Array.replicate (dep + 1 - reactor.subscribers.size) ([] : List EffectId)).size := by
      rw [Array.size_append, Array.size_replicate]
      exact Nat.sub_le_iff_le_add'.mp (Nat.le_refl _)
    rw [if_pos inside]
    rfl
  · rw [if_neg same, if_neg fun equal => same equal.symm, Array.getElem?_append]
    split
    · rfl
    · rename_i outside
      rw [Array.getElem?_replicate]
      have missing : reactor.subscribers[item]? = none :=
        Array.getElem?_eq_none (Nat.le_of_not_lt outside)
      rw [missing]
      split <;> rfl

theorem mem_subscribersOf_dropSubscriber {gone : EffectId} :
    other ∈ (dropSubscriber gone reactor dep).subscribersOf item ↔
      other ∈ reactor.subscribersOf item ∧ (item = dep → other ≠ gone) := by
  unfold dropSubscriber
  rw [subscribersOf_setSubscribers]
  split
  case isTrue same =>
    subst same
    simp
  case isFalse apart => simp [apart]

theorem mem_subscribersOf_dropAll {gone : EffectId} (apart : other ≠ gone)
    (deps : List DepId) :
    other ∈ (deps.foldl (dropSubscriber gone) reactor).subscribersOf item ↔
      other ∈ reactor.subscribersOf item := by
  induction deps generalizing reactor with
  | nil => exact Iff.rfl
  | cons dep rest ih =>
      rw [List.foldl_cons, ih, mem_subscribersOf_dropSubscriber]
      exact ⟨And.left, fun known => ⟨known, fun _ => apart⟩⟩

/-! ## Subscribing -/

theorem isActive_subscribe :
    (reactor.subscribe effect dep).isActive other = reactor.isActive other := by
  unfold subscribe
  refine Eq.trans (isActive_modifyEffect ?_) ?_
  · exact fun _ => rfl
  · rfl

theorem depsOf_subscribe_self (active : reactor.isActive effect = true) :
    (reactor.subscribe effect dep).depsOf effect = addNew (reactor.depsOf effect) dep := by
  unfold subscribe
  exact depsOf_addDep dep active

theorem depsOf_subscribe_of_ne (apart : other ≠ effect) :
    (reactor.subscribe effect dep).depsOf other = reactor.depsOf other := by
  unfold subscribe
  exact depsOf_modifyEffect_of_ne _ apart

theorem subscribersOf_subscribe :
    (reactor.subscribe effect dep).subscribersOf item =
      if item = dep then addNew (reactor.subscribersOf dep) effect
      else reactor.subscribersOf item := by
  unfold subscribe
  exact subscribersOf_setSubscribers _

/-! ## Ending subscriptions -/

theorem fields_dropAll (effect : EffectId) (deps : List DepId) (reactor : Reactor β) :
    ∃ subscribers, deps.foldl (dropSubscriber effect) reactor = { reactor with subscribers } := by
  induction deps generalizing reactor with
  | nil => exact ⟨reactor.subscribers, rfl⟩
  | cons dep rest ih =>
      obtain ⟨subscribers, same⟩ := ih (dropSubscriber effect reactor dep)
      exact ⟨subscribers, same⟩

theorem isActive_unsubscribe :
    (reactor.unsubscribe effect).isActive other = reactor.isActive other := by
  obtain ⟨subscribers, same⟩ := fields_dropAll effect (reactor.depsOf effect) reactor
  unfold unsubscribe
  rw [same]
  refine Eq.trans (isActive_modifyEffect ?_) ?_
  · exact fun _ => rfl
  · rfl

theorem depsOf_unsubscribe_self : (reactor.unsubscribe effect).depsOf effect = [] := by
  unfold unsubscribe
  exact depsOf_clearDeps

theorem depsOf_unsubscribe_of_ne (apart : other ≠ effect) :
    (reactor.unsubscribe effect).depsOf other = reactor.depsOf other := by
  obtain ⟨subscribers, same⟩ := fields_dropAll effect (reactor.depsOf effect) reactor
  unfold unsubscribe
  rw [same]
  exact depsOf_modifyEffect_of_ne _ apart

theorem mem_subscribersOf_unsubscribe (apart : other ≠ effect) :
    other ∈ (reactor.unsubscribe effect).subscribersOf item ↔
      other ∈ reactor.subscribersOf item := by
  unfold unsubscribe
  exact mem_subscribersOf_dropAll apart _

/-- Ending subscriptions changes no more than the two sides that they are kept on. -/
theorem fields_unsubscribe (reactor : Reactor β) (effect : EffectId) :
    ∃ effects subscribers, reactor.unsubscribe effect = { reactor with effects, subscribers } := by
  obtain ⟨subscribers, same⟩ := fields_dropAll effect (reactor.depsOf effect) reactor
  unfold unsubscribe
  rw [same]
  exact ⟨_, subscribers, rfl⟩

/-! ## Making effects -/

/-- A new effect is added to those there are, and may join a group. -/
theorem fields_addEffect (reactor : Reactor β) (body : β) (timing : Timing) (joins : Bool) :
    ∃ scopes, reactor.addEffect body timing joins = (reactor.effects.size,
      { reactor with effects := reactor.effects.push ⟨body, timing, true, 0, []⟩, scopes }) := by
  unfold addEffect
  dsimp only
  split
  · exact ⟨_, rfl⟩
  · exact ⟨_, rfl⟩

theorem fst_addEffect (reactor : Reactor β) (body : β) (timing : Timing) (joins : Bool) :
    (reactor.addEffect body timing joins).1 = reactor.effects.size := by
  obtain ⟨scopes, same⟩ := fields_addEffect reactor body timing joins
  rw [same]

theorem isActive_addEffect (reactor : Reactor β) (body : β) (timing : Timing) (joins : Bool) :
    (reactor.addEffect body timing joins).2.isActive other =
      if other = reactor.effects.size then true else reactor.isActive other := by
  obtain ⟨scopes, same⟩ := fields_addEffect reactor body timing joins
  rw [same]
  unfold isActive
  dsimp only
  rw [Array.getElem?_push]
  split
  · rfl
  · rfl

theorem found_addEffect (reactor : Reactor β) (body : β) (timing : Timing) (joins : Bool) :
    (reactor.addEffect body timing joins).2.effects[(reactor.addEffect body timing joins).1]? =
      some ⟨body, timing, true, 0, []⟩ := by
  obtain ⟨scopes, same⟩ := fields_addEffect reactor body timing joins
  rw [same]
  exact Array.getElem?_push_size

/-! ## Stopping a group -/

/-- What stopping and closing keep to, stopping the effects of a group one after another does. -/
theorem stopScope_along {R : Reactor β → Reactor β → Prop} (reactor : Reactor β)
    (group : EffectScopeId) (refl : ∀ reactor, R reactor reactor)
    (trans : ∀ {before middle after}, R before middle → R middle after → R before after)
    (stops : ∀ start, ∀ effect ∈ reactor.membersOf group, R start (start.stop effect))
    (closes : ∀ start scopes, R start { start with scopes }) :
    R reactor (reactor.stopScope group) := by
  have stopped (members : List EffectId) (start : Reactor β)
      (stops : ∀ start, ∀ effect ∈ members, R start (start.stop effect)) :
      R start (members.foldl stop start) := by
    induction members generalizing start with
    | nil => exact refl start
    | cons effect rest ih =>
        refine trans (stops start effect List.mem_cons_self) (ih _ fun start other known => ?_)
        exact stops start other (List.mem_cons_of_mem _ known)
  exact trans (stopped _ reactor stops) (closes _ _)

end ReactiveSchema.Reactor
