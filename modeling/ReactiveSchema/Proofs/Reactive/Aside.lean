import ReactiveSchema.Proofs.Reactive.Kinds

/-!
# Effects that come later

Effects may be made, run and stopped without anything happening to those that there were
before: these keep their subscriptions, and none of them is queued or runs.  What comes later
is subscribed to nothing but what it has read while it was active.
-/

namespace ReactiveSchema

namespace Reactor

variable {β : Type} {before middle after reactor : Reactor β} {effect other : EffectId}
  {dep item : DepId}

/-! ## Readers of a time -/

/-- The effects among some that there were before others were made. -/
def knownAmong (reactor : Reactor β) (effects : List EffectId) : List EffectId :=
  effects.filter (· < reactor.effects.size)

theorem knownAmong_addNew (new : before.effects.size ≤ effect) (effects : List EffectId) :
    before.knownAmong (addNew effects effect) = before.knownAmong effects := by
  have late : ¬ effect < before.effects.size := Nat.not_lt_of_le new
  unfold addNew
  split
  · rfl
  · simp [knownAmong, late]

theorem knownAmong_without (new : before.effects.size ≤ effect) (effects : List EffectId) :
    before.knownAmong (effects.filter (· != effect)) = before.knownAmong effects := by
  unfold knownAmong
  rw [List.filter_filter]
  refine List.filter_congr fun other _ => ?_
  by_cases known : other < before.effects.size
  · have apart : other ≠ effect := Nat.ne_of_lt (Nat.lt_of_lt_of_le known new)
    simp [known, apart]
  · simp [known]

theorem knownAmong_dropAll (new : before.effects.size ≤ effect) (deps : List DepId) :
    before.knownAmong ((deps.foldl (dropSubscriber effect) reactor).subscribersOf item) =
      before.knownAmong (reactor.subscribersOf item) := by
  induction deps generalizing reactor with
  | nil => rfl
  | cons dep rest ih =>
      refine ih.trans ?_
      unfold dropSubscriber
      rw [subscribersOf_setSubscribers]
      split
      case isTrue same => rw [same, knownAmong_without new]
      case isFalse => rfl

theorem knownAmong_knownAmong (grown : before.effects.size ≤ middle.effects.size)
    (effects : List EffectId) :
    before.knownAmong (middle.knownAmong effects) = before.knownAmong effects := by
  unfold knownAmong
  rw [List.filter_filter]
  refine List.filter_congr fun other _ => ?_
  by_cases known : other < before.effects.size
  · simp [known, Nat.lt_of_lt_of_le known grown]
  · simp [known]

theorem mem_dropAll {deps : List DepId}
    (reads : other ∈ (deps.foldl (dropSubscriber effect) reactor).subscribersOf dep) :
    other ∈ reactor.subscribersOf dep ∧ (dep ∈ deps → other ≠ effect) := by
  induction deps generalizing reactor with
  | nil => exact ⟨reads, fun known => absurd known List.not_mem_nil⟩
  | cons item rest ih =>
      obtain ⟨reads, apart⟩ := ih reads
      obtain ⟨reads, apart'⟩ := mem_subscribersOf_dropSubscriber.mp reads
      exact ⟨reads, fun known => (List.mem_cons.mp known).elim apart' apart⟩

/-! ## Aside of what there was -/

/--
Since some time, nothing has happened to the effects that there were then, and those that
wait came later.  Whatever came later is active and knows of it where it is subscribed.
-/
structure Aside (before after : Reactor β) : Prop where
  grown : before.effects.size ≤ after.effects.size
  old {effect : EffectId} : effect < before.effects.size →
    after.effects[effect]? = before.effects[effect]?
  readers (dep : DepId) :
    before.knownAmong (after.subscribersOf dep) = before.subscribersOf dep
  linked {effect : EffectId} {dep : DepId} : before.effects.size ≤ effect →
    effect ∈ after.subscribersOf dep →
      after.isActive effect = true ∧ dep ∈ after.depsOf effect
  preQueue {effect : EffectId} : effect ∈ after.preQueue → before.effects.size ≤ effect
  postQueue {effect : EffectId} : effect ∈ after.postQueue → before.effects.size ≤ effect

/-- An effect that came later, or none. -/
def IsNew (before : Reactor β) (running : Option EffectId) : Prop :=
  ∀ effect, running = some effect → before.effects.size ≤ effect

namespace Aside

theorem refl (known : ∀ effect dep, effect ∈ reactor.subscribersOf dep →
      effect < reactor.effects.size)
    (preQueue : reactor.preQueue = []) (postQueue : reactor.postQueue = []) :
    Aside reactor reactor where
  grown := Nat.le_refl _
  old _ := rfl
  readers dep := List.filter_eq_self.mpr fun effect reads => decide_eq_true (known effect dep reads)
  linked new reads := absurd (known _ _ reads) (Nat.not_lt_of_le new)
  preQueue waits := absurd (preQueue ▸ waits) List.not_mem_nil
  postQueue waits := absurd (postQueue ▸ waits) List.not_mem_nil

theorem trans (first : Aside before middle) (second : Aside middle after) : Aside before after where
  grown := Nat.le_trans first.grown second.grown
  old known := (second.old (Nat.lt_of_lt_of_le known first.grown)).trans (first.old known)
  readers dep := by
    rw [← knownAmong_knownAmong first.grown, second.readers, first.readers]
  linked {effect dep} new reads := by
    by_cases known : effect < middle.effects.size
    · have early : effect ∈ middle.subscribersOf dep := by
        rw [← second.readers]
        exact List.mem_filter.mpr ⟨reads, decide_eq_true known⟩
      unfold isActive depsOf
      rw [second.old known]
      exact first.linked new early
    · exact second.linked (Nat.le_of_not_lt known) reads
  preQueue waits := Nat.le_trans first.grown (second.preQueue waits)
  postQueue waits := Nat.le_trans first.grown (second.postQueue waits)

/-- What changes neither effects nor subscriptions, and queues only what came later. -/
theorem of_eq (aside : Aside before middle) (effects : after.effects = middle.effects)
    (subscribers : after.subscribers = middle.subscribers)
    (preQueue : ∀ effect ∈ after.preQueue,
      effect ∈ middle.preQueue ∨ before.effects.size ≤ effect)
    (postQueue : ∀ effect ∈ after.postQueue,
      effect ∈ middle.postQueue ∨ before.effects.size ≤ effect) : Aside before after := by
  have readers (dep : DepId) : after.subscribersOf dep = middle.subscribersOf dep := by
    unfold subscribersOf
    rw [subscribers]
  constructor
  case grown => exact effects ▸ aside.grown
  case old => exact fun known => effects ▸ aside.old known
  case readers => exact fun dep => readers dep ▸ aside.readers dep
  case linked =>
    intro effect dep new reads
    unfold isActive depsOf
    rw [effects]
    exact aside.linked new (readers dep ▸ reads)
  case preQueue => exact fun waits => (preQueue _ waits).elim aside.preQueue id
  case postQueue => exact fun waits => (postQueue _ waits).elim aside.postQueue id

theorem note (aside : Aside before after) (event : Event) : Aside before (after.note event) :=
  aside.of_eq rfl rfl (fun _ => .inl) (fun _ => .inl)

theorem enqueue (aside : Aside before after) (new : before.effects.size ≤ effect) :
    Aside before (after.enqueue effect) := by
  unfold Reactor.enqueue
  have late {queue : List EffectId} {other : EffectId} (waits : other ∈ addNew queue effect) :
      other ∈ queue ∨ before.effects.size ≤ other := by
    refine (mem_addNew.mp waits).imp_right ?_
    rintro rfl
    exact new
  split
  · exact aside.of_eq rfl rfl (fun _ => .inl) (fun _ => late)
  · exact aside.of_eq rfl rfl (fun _ => late) (fun _ => .inl)

/-! ## Reading -/

theorem subscribe (aside : Aside before after) (new : before.effects.size ≤ effect)
    (active : after.isActive effect = true) (dep : DepId) :
    Aside before (after.subscribe effect dep) where
  grown := by
    refine Nat.le_trans aside.grown (Nat.le_of_eq ?_)
    exact (Array.size_modify ..).symm
  old known := (found_modifyEffect _ (Nat.ne_of_lt (Nat.lt_of_lt_of_le known new))).trans
    (aside.old known)
  readers item := by
    rw [subscribersOf_subscribe]
    split
    case isTrue same => rw [knownAmong_addNew new, same, aside.readers]
    case isFalse => exact aside.readers item
  linked {other item} late reads := by
    rw [isActive_subscribe]
    rw [subscribersOf_subscribe] at reads
    have kept (reads : other ∈ after.subscribersOf item) (apart : other ≠ effect) :
        after.isActive other = true ∧ item ∈ (after.subscribe effect dep).depsOf other := by
      rw [depsOf_subscribe_of_ne apart]
      exact aside.linked late reads
    by_cases own : other = effect
    · subst own
      rw [depsOf_subscribe_self active]
      refine ⟨active, mem_addNew.mpr ?_⟩
      split at reads
      case isTrue same => exact .inr same
      case isFalse => exact .inl (aside.linked late reads).2
    · split at reads
      case isTrue same =>
        subst same
        exact kept ((mem_addNew.mp reads).resolve_right own) own
      case isFalse => exact kept reads own
  preQueue := aside.preQueue
  postQueue := aside.postQueue

theorem track (aside : Aside before after) (running : before.IsNew after.activeEffect)
    (dep : DepId) : Aside before (after.track dep) := by
  unfold Reactor.track
  split
  case h_1 => exact aside
  case h_2 effect known =>
    split
    case isTrue active => exact (aside.subscribe (running effect known) active dep).note _
    case isFalse => exact aside

theorem trackAll (aside : Aside before after) (running : before.IsNew after.activeEffect)
    (deps : List DepId) : Aside before (after.trackAll deps) := by
  induction deps generalizing after with
  | nil => exact aside
  | cons dep rest ih =>
      refine ih (aside.track running dep) ?_
      rw [(keeps_track after dep).activeEffect]
      exact running

/-! ## Running and stopping -/

/-- An effect that came later and is subscribed to nothing may change in any way. -/
theorem modifyEffect (aside : Aside before after) (new : before.effects.size ≤ effect)
    (unread : ∀ dep, effect ∉ after.subscribersOf dep) (change : Effect β → Effect β) :
    Aside before (after.modifyEffect effect change) where
  grown := by
    refine Nat.le_trans aside.grown (Nat.le_of_eq ?_)
    exact (Array.size_modify ..).symm
  old known := (found_modifyEffect _ (Nat.ne_of_lt (Nat.lt_of_lt_of_le known new))).trans
    (aside.old known)
  readers := aside.readers
  linked {other dep} late reads := by
    have apart : other ≠ effect := fun own => unread dep (own ▸ reads)
    unfold isActive depsOf
    rw [found_modifyEffect change apart]
    exact aside.linked late reads
  preQueue := aside.preQueue
  postQueue := aside.postQueue

theorem unsubscribe (aside : Aside before after) (new : before.effects.size ≤ effect) :
    Aside before (after.unsubscribe effect) ∧
      ∀ dep, effect ∉ (after.unsubscribe effect).subscribersOf dep := by
  obtain ⟨subscribers, same⟩ := fields_dropAll effect (after.depsOf effect) after
  have unread (dep : DepId) :
      effect ∉ ((after.depsOf effect).foldl (dropSubscriber effect) after).subscribersOf dep := by
    intro reads
    obtain ⟨reads, apart⟩ := mem_dropAll reads
    exact apart (aside.linked new reads).2 rfl
  have dropped : Aside before ((after.depsOf effect).foldl (dropSubscriber effect) after) := by
    constructor
    case grown => rw [same]; exact aside.grown
    case old => rw [same]; exact aside.old
    case readers => exact fun dep => (knownAmong_dropAll new _).trans (aside.readers dep)
    case linked =>
      intro other dep late reads
      have early := aside.linked late (mem_dropAll reads).1
      rw [same]
      exact early
    case preQueue => rw [same]; exact aside.preQueue
    case postQueue => rw [same]; exact aside.postQueue
  exact ⟨dropped.modifyEffect new unread _, unread⟩

theorem beginRun (aside : Aside before after) (new : before.effects.size ≤ effect) :
    Aside before (after.beginRun effect) := by
  obtain ⟨ended, unread⟩ := aside.unsubscribe new
  exact (ended.modifyEffect new unread _).note _

theorem stop (aside : Aside before after) (new : before.effects.size ≤ effect) :
    Aside before (after.stop effect) := by
  unfold Reactor.stop
  split
  · obtain ⟨ended, unread⟩ := aside.unsubscribe new
    exact ended.modifyEffect new unread _
  · exact aside

theorem addEffect (aside : Aside before after) (body : β) (timing : Timing) (joins : Bool) :
    Aside before (after.addEffect body timing joins).2 := by
  obtain ⟨scopes, same⟩ := fields_addEffect after body timing joins
  have kept {other : EffectId} (known : other < after.effects.size) :
      (after.effects.push ⟨body, timing, true, 0, []⟩)[other]? = after.effects[other]? := by
    rw [Array.getElem?_push, if_neg (Nat.ne_of_lt known)]
  rw [same]
  constructor
  case grown => exact Nat.le_trans aside.grown (Nat.le_of_lt (by simp))
  case old =>
    exact fun known => (kept (Nat.lt_of_lt_of_le known aside.grown)).trans (aside.old known)
  case readers => exact aside.readers
  case linked =>
    intro other dep late reads
    have early := aside.linked late reads
    unfold isActive depsOf
    dsimp only
    rw [kept (known_of_isActive early.1)]
    exact early
  case preQueue => exact aside.preQueue
  case postQueue => exact aside.postQueue

/-- The effects of a group are stopped. -/
theorem stopScope (aside : Aside before after) {scope : EffectScopeId}
    (new : ∀ effect ∈ after.membersOf scope, before.effects.size ≤ effect) :
    Aside before (after.stopScope scope) :=
  stopScope_along (R := fun middle after => Aside before middle → Aside before after) after scope
    (fun _ => id) (fun first second => second ∘ first)
    (fun _ effect known aside => aside.stop (new effect known))
    (fun _ _ aside => aside.of_eq rfl rfl (fun _ => .inl) fun _ => .inl) aside

/-- Where nothing that came later is active, the readers are those of before. -/
theorem subscribersOf_of_inactive (aside : Aside before after)
    (inactive : ∀ effect, before.effects.size ≤ effect → after.isActive effect = false)
    (dep : DepId) : after.subscribersOf dep = before.subscribersOf dep := by
  rw [← aside.readers]
  refine (List.filter_eq_self.mpr fun effect reads => decide_eq_true ?_).symm
  refine Nat.lt_of_not_le fun new => ?_
  have active := (aside.linked new reads).1
  rw [inactive effect new] at active
  cases active

end Aside

/-! ## Stopping a group -/

theorem isActive_stop_of_stopped (stopped : reactor.isActive effect = false) :
    (reactor.stop other).isActive effect = false := by
  by_cases own : effect = other
  · exact own ▸ isActive_stop_self reactor other
  · exact (isActive_stop_of_ne own).trans stopped

theorem isActive_stopAll_of_stopped (members : List EffectId)
    (stopped : reactor.isActive effect = false) :
    (members.foldl Reactor.stop reactor).isActive effect = false := by
  induction members generalizing reactor with
  | nil => exact stopped
  | cons other rest ih => exact ih (isActive_stop_of_stopped stopped)

theorem isActive_stopScope_of_stopped (scope : EffectScopeId)
    (stopped : reactor.isActive effect = false) :
    (reactor.stopScope scope).isActive effect = false :=
  isActive_stopAll_of_stopped _ stopped

theorem isActive_stopScope_of_mem {scope : EffectScopeId}
    (member : effect ∈ reactor.membersOf scope) :
    (reactor.stopScope scope).isActive effect = false := by
  have stopped (members : List EffectId) (start : Reactor β) (known : effect ∈ members) :
      (members.foldl Reactor.stop start).isActive effect = false := by
    induction members generalizing start with
    | nil => cases known
    | cons other rest ih =>
        rcases List.mem_cons.mp known with rfl | later
        · exact isActive_stopAll_of_stopped rest (isActive_stop_self start effect)
        · exact ih _ later
  exact stopped _ reactor member

theorem membersOf_stop (scope : EffectScopeId) :
    (reactor.stop effect).membersOf scope = reactor.membersOf scope := by
  obtain ⟨effects, subscribers, same⟩ := fields_stop reactor effect
  rw [same]
  rfl

theorem membersOf_addEffect (reactor : Reactor β) (body : β) (timing : Timing)
    (joins : Bool) (scope : EffectScopeId) :
    (reactor.addEffect body timing joins).2.membersOf scope = reactor.membersOf scope ∨
      (reactor.addEffect body timing joins).2.membersOf scope =
        reactor.membersOf scope ++ [reactor.effects.size] := by
  unfold addEffect membersOf
  dsimp only
  split
  case h_1 active _ =>
    dsimp only
    rw [Array.getElem?_modify]
    split
    case isTrue =>
      cases reactor.scopes[scope]? with
      | none => exact .inl rfl
      | some group =>
          rw [Option.map_some, Option.map_some, Option.map_some, Option.getD_some, Option.getD_some]
          split
          · exact .inr rfl
          · exact .inl rfl
    case isFalse => exact .inl rfl
  case h_2 => exact .inl rfl

/-! ## Steps that make no effect -/

/-- A step that makes no effect, and leaves those be that there were at some time. -/
structure Moves (start before after : Reactor β) : Prop where
  aside : start.Aside before → start.Aside after
  kinds (effect : EffectId) : after.kindOf effect = before.kindOf effect
  active (effect : EffectId) : after.isActive effect = before.isActive effect
  scopes : after.scopes = before.scopes
  activeEffect : after.activeEffect = before.activeEffect
  activeScope : after.activeScope = before.activeScope

namespace Moves

variable {start : Reactor β}

/-- What leaves effects and subscriptions as they are, and queues no more. -/
theorem of_eq (effects : after.effects = before.effects)
    (subscribers : after.subscribers = before.subscribers)
    (preQueue : ∀ effect ∈ after.preQueue, effect ∈ before.preQueue)
    (postQueue : ∀ effect ∈ after.postQueue, effect ∈ before.postQueue)
    (scopes : after.scopes = before.scopes)
    (activeEffect : after.activeEffect = before.activeEffect)
    (activeScope : after.activeScope = before.activeScope) : Moves start before after where
  aside aside := aside.of_eq effects subscribers (fun _ waits => .inl (preQueue _ waits))
    fun _ waits => .inl (postQueue _ waits)
  kinds _ := kindOf_of_effects effects
  active _ := isActive_of_effects effects
  scopes := scopes
  activeEffect := activeEffect
  activeScope := activeScope

theorem note (reactor : Reactor β) (event : Event) : Moves start reactor (reactor.note event) :=
  .of_eq rfl rfl (fun _ => id) (fun _ => id) rfl rfl rfl

theorem whileFlushing (reactor : Reactor β) (flushing : Bool) :
    Moves start reactor (reactor.whileFlushing flushing) :=
  .of_eq rfl rfl (fun _ => id) (fun _ => id) rfl rfl rfl

theorem deeper (reactor : Reactor β) : Moves start reactor reactor.deeper :=
  .of_eq rfl rfl (fun _ => id) (fun _ => id) rfl rfl rfl

theorem shallower (reactor : Reactor β) : Moves start reactor reactor.shallower :=
  .of_eq rfl rfl (fun _ => id) (fun _ => id) rfl rfl rfl

theorem enqueue (reactor : Reactor β) (new : start.effects.size ≤ effect) :
    Moves start reactor (reactor.enqueue effect) where
  aside aside := aside.enqueue new
  kinds _ := kindOf_of_effects (fields_enqueue reactor effect).1
  active _ := isActive_of_effects (fields_enqueue reactor effect).1
  scopes := by
    unfold Reactor.enqueue
    split <;> rfl
  activeEffect := (kept_enqueue reactor effect).activeEffect
  activeScope := (kept_enqueue reactor effect).activeScope

theorem isActive_trackAll (reactor : Reactor β) (deps : List DepId) :
    (reactor.trackAll deps).isActive effect = reactor.isActive effect := by
  induction deps generalizing reactor with
  | nil => rfl
  | cons dep rest ih =>
      refine (ih (reactor.track dep)).trans ?_
      rcases track_cases reactor dep with same | ⟨running, -, same⟩
      · rw [same]
      · rw [same]
        exact isActive_subscribe

theorem scopes_track (reactor : Reactor β) (dep : DepId) :
    (reactor.track dep).scopes = reactor.scopes := by
  rcases track_cases reactor dep with same | ⟨running, -, same⟩
  · exact (congrArg Reactor.scopes same :)
  · exact (congrArg Reactor.scopes same :)

theorem scopes_trackAll (reactor : Reactor β) (deps : List DepId) :
    (reactor.trackAll deps).scopes = reactor.scopes := by
  induction deps generalizing reactor with
  | nil => rfl
  | cons dep rest ih => exact (ih (reactor.track dep)).trans (scopes_track reactor dep)

theorem trackAll (reactor : Reactor β) (running : start.IsNew reactor.activeEffect)
    (deps : List DepId) : Moves start reactor (reactor.trackAll deps) where
  aside aside := aside.trackAll running deps
  kinds effect := by
    rw [trackAll_eq_signalAll, kindOf_signalAll]
  active _ := isActive_trackAll reactor deps
  scopes := scopes_trackAll reactor deps
  activeEffect := (keeps_trackAll reactor deps).activeEffect
  activeScope := (keeps_trackAll reactor deps).activeScope

theorem scopes_beginRun (reactor : Reactor β) (effect : EffectId) :
    (reactor.beginRun effect).scopes = reactor.scopes := by
  obtain ⟨effects, subscribers, same⟩ := fields_unsubscribe reactor effect
  unfold Reactor.beginRun
  rw [same]
  rfl

theorem beginRun (reactor : Reactor β) (new : start.effects.size ≤ effect) :
    Moves start reactor (reactor.beginRun effect) where
  aside aside := aside.beginRun new
  kinds _ := kindOf_beginRun
  active := (touches_beginRun reactor effect).active
  scopes := scopes_beginRun reactor effect
  activeEffect := (settles_beginRun reactor effect).activeEffect
  activeScope := (settles_beginRun reactor effect).activeScope

theorem next? {rest : Reactor β} (found : reactor.next? = some (effect, rest)) :
    Moves start reactor rest := by
  unfold Reactor.next? at found
  split at found
  case h_1 waits =>
    cases found
    exact .of_eq rfl rfl (fun _ later => waits ▸ List.mem_cons_of_mem _ later) (fun _ => id)
      rfl rfl rfl
  case h_2 waits =>
    cases found
    exact .of_eq rfl rfl (fun _ => id) (fun _ later => waits ▸ List.mem_cons_of_mem _ later)
      rfl rfl rfl
  case h_3 => cases found

end Moves

/-- Only what came later is next. -/
theorem Aside.next? {start rest : Reactor β} (aside : start.Aside reactor)
    (found : reactor.next? = some (effect, rest)) : start.effects.size ≤ effect := by
  unfold Reactor.next? at found
  split at found
  case h_1 waits =>
    cases found
    exact aside.preQueue (waits ▸ List.mem_cons_self)
  case h_2 waits =>
    cases found
    exact aside.postQueue (waits ▸ List.mem_cons_self)
  case h_3 => cases found

/-- An effect of before reads what it had read then. -/
theorem Aside.reads_iff {start : Reactor β} (aside : start.Aside reactor)
    (known : effect < start.effects.size) :
    effect ∈ reactor.subscribersOf dep ↔ effect ∈ start.subscribersOf dep := by
  rw [← aside.readers]
  exact ⟨fun reads => List.mem_filter.mpr ⟨reads, decide_eq_true known⟩,
    fun reads => (List.mem_filter.mp reads).1⟩

/-- Nobody of before reads what nobody had read then. -/
theorem Aside.new_of_unread {start : Reactor β} (aside : start.Aside reactor)
    (unread : start.subscribersOf dep = []) (reads : effect ∈ reactor.subscribersOf dep) :
    start.effects.size ≤ effect := by
  refine Nat.le_of_not_lt fun known => ?_
  have early : effect ∈ start.subscribersOf dep := (aside.reads_iff known).mp reads
  rw [unread] at early
  cases early

/-! ## Reactors where nothing waits -/

theorem size_track (reactor : Reactor β) (dep : DepId) :
    (reactor.track dep).effects.size = reactor.effects.size := by
  rcases track_cases reactor dep with same | ⟨running, -, same⟩
  · rw [same]
  · rw [same]
    exact Array.size_modify ..

theorem subscribersOf_track_of_ne (apart : item ≠ dep) :
    (reactor.track dep).subscribersOf item = reactor.subscribersOf item := by
  rcases track_cases reactor dep with same | ⟨running, -, same⟩
  · rw [same]
  · rw [same]
    refine Eq.trans subscribersOf_subscribe ?_
    rw [if_neg apart]

theorem mem_subscribersOf_of_beginRun
    (reads : other ∈ (reactor.beginRun effect).subscribersOf dep) :
    other ∈ reactor.subscribersOf dep :=
  (mem_dropAll reads).1

/-- No effect waits, and effects are subscribed to tracked state among so many pieces. -/
structure Settled (reactor : Reactor β) (count : Nat) : Prop where
  preQueue : reactor.preQueue = []
  postQueue : reactor.postQueue = []
  known {effect : EffectId} {dep : DepId} : effect ∈ reactor.subscribersOf dep →
    effect < reactor.effects.size ∧ dep < count

namespace Settled

variable {count : Nat}

theorem unread (settled : reactor.Settled count) (new : count ≤ dep) :
    reactor.subscribersOf dep = [] := by
  cases readers : reactor.subscribersOf dep with
  | nil => rfl
  | cons effect rest =>
      have reads : effect ∈ reactor.subscribersOf dep := readers ▸ List.mem_cons_self
      exact absurd (settled.known reads).2 (Nat.not_lt_of_le new)

theorem aside (settled : reactor.Settled count) : reactor.Aside reactor :=
  .refl (fun _ _ reads => (settled.known reads).1) settled.preQueue settled.postQueue

theorem weaken (settled : reactor.Settled count) {more : Nat} (grown : count ≤ more) :
    reactor.Settled more where
  preQueue := settled.preQueue
  postQueue := settled.postQueue
  known reads := (settled.known reads).imp_right (Nat.lt_of_lt_of_le · grown)

/-- The running effect reads what is tracked. -/
theorem track (settled : reactor.Settled count) (running : reactor.activeEffect = some effect)
    (known : effect < reactor.effects.size) (inside : dep < count) :
    (reactor.track dep).Settled count := by
  rcases track_cases reactor dep with same | ⟨_, active, same⟩
  · rw [same]
    exact settled
  · cases running.symm.trans active
    have size : (reactor.subscribe effect dep).effects.size = reactor.effects.size :=
      Array.size_modify ..
    rw [same]
    constructor
    case preQueue => exact settled.preQueue
    case postQueue => exact settled.postQueue
    case known =>
      intro other item reads
      have reads : other ∈ (reactor.subscribe effect dep).subscribersOf item := reads
      refine (?_ : other < (reactor.subscribe effect dep).effects.size ∧ item < count)
      rw [size]
      rw [subscribersOf_subscribe] at reads
      split at reads
      case isTrue own =>
        refine ⟨?_, own ▸ inside⟩
        rcases mem_addNew.mp reads with reads | rfl
        · exact (settled.known reads).1
        · exact known
      case isFalse => exact settled.known reads

theorem addEffect (settled : reactor.Settled count) (body : β) (timing : Timing) (joins : Bool) :
    (reactor.addEffect body timing joins).2.Settled count := by
  obtain ⟨scopes, same⟩ := fields_addEffect reactor body timing joins
  rw [same]
  refine ⟨settled.preQueue, settled.postQueue, fun reads => ?_⟩
  obtain ⟨known, inside⟩ := settled.known reads
  exact ⟨Nat.lt_of_lt_of_le known (by simp), inside⟩

theorem beginRun (settled : reactor.Settled count) (effect : EffectId) :
    (reactor.beginRun effect).Settled count where
  preQueue := (touches_beginRun reactor effect).preQueue.trans settled.preQueue
  postQueue := (touches_beginRun reactor effect).postQueue.trans settled.postQueue
  known reads := by
    rw [size_beginRun]
    exact settled.known (mem_subscribersOf_of_beginRun reads)

/-- Subscriptions among so many effects and pieces of tracked state. -/
theorem of_rows
    (preQueue : reactor.preQueue = []) (postQueue : reactor.postQueue = [])
    (rows : ∀ row ∈ reactor.subscribers.toList, ∀ effect ∈ row, effect < reactor.effects.size)
    (inside : reactor.subscribers.size ≤ count) : reactor.Settled count where
  preQueue := preQueue
  postQueue := postQueue
  known {effect dep} reads := by
    unfold subscribersOf at reads
    cases found : reactor.subscribers[dep]? with
    | none =>
        rw [found] at reads
        cases reads
    | some row =>
        rw [found] at reads
        obtain ⟨known, rfl⟩ := Array.getElem?_eq_some_iff.mp found
        exact ⟨rows _ (Array.getElem_mem_toList known) effect reads,
          Nat.lt_of_lt_of_le known inside⟩

end Settled

end Reactor

end ReactiveSchema
