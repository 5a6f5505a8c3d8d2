import Mathlib.Logic.Relation
import ReactiveSchema.Proofs.View.Unmount

/-!
# Subscriptions kept on both sides

A subscription is kept with the effect and with the state that it has read.  Whatever is done to
effects, and in whatever order, both sides tell the same.  An effect that was stopped is on
neither side, and where it still waits in a queue it is dropped without being run.
-/

namespace ReactiveSchema

namespace Reactor

variable {β : Type} {before after reactor : Reactor β} {effect other : EffectId} {dep : DepId}

/-! ## What effects have noted -/

/-- Effects are subscribed to whatever they have noted to have read. -/
structure Answered (reactor : Reactor β) : Prop where
  subscribed {effect : EffectId} {dep : DepId} :
    dep ∈ reactor.depsOf effect → effect ∈ reactor.subscribersOf dep

theorem Answered.of_eq (answered : before.Answered) (effects : after.effects = before.effects)
    (subscribers : after.subscribers = before.subscribers) : after.Answered := by
  constructor
  intro effect dep noted
  unfold depsOf at noted
  unfold subscribersOf
  rw [effects] at noted
  rw [subscribers]
  exact answered.subscribed noted

theorem Answered.subscribe (answered : reactor.Answered) (active : reactor.isActive effect = true)
    (dep : DepId) : (reactor.subscribe effect dep).Answered := by
  constructor
  intro other item noted
  have known : other ∈ reactor.subscribersOf item ∨ other = effect ∧ item = dep := by
    by_cases own : other = effect
    · subst own
      rw [depsOf_subscribe_self active, mem_addNew] at noted
      exact noted.imp answered.subscribed fun new => ⟨rfl, new⟩
    · rw [depsOf_subscribe_of_ne own] at noted
      exact .inl (answered.subscribed noted)
  rw [subscribersOf_subscribe]
  split
  case isTrue same =>
    subst same
    exact mem_addNew.mpr (known.imp_right And.left)
  case isFalse apart => exact known.resolve_right fun new => apart new.2

theorem Answered.track (answered : reactor.Answered) (dep : DepId) :
    (reactor.track dep).Answered := by
  unfold Reactor.track
  split
  · exact answered
  · split
    case isTrue active => exact (answered.subscribe active dep).of_eq rfl rfl
    case isFalse => exact answered

/-- Who has ended its subscriptions has noted nothing, and for the others all is as it was. -/
theorem Answered.unsubscribe (answered : reactor.Answered) (effect : EffectId)
    {change : Effect β → Effect β} (same : ∀ cell, (change cell).deps = cell.deps) :
    ((reactor.unsubscribe effect).modifyEffect effect change).Answered := by
  constructor
  intro other dep noted
  rw [depsOf_modifyEffect same] at noted
  change other ∈ (reactor.unsubscribe effect).subscribersOf dep
  by_cases own : other = effect
  · rw [own, depsOf_unsubscribe_self] at noted
    cases noted
  · rw [depsOf_unsubscribe_of_ne own] at noted
    exact (mem_subscribersOf_unsubscribe own).mpr (answered.subscribed noted)

theorem Answered.beginRun (answered : reactor.Answered) (effect : EffectId) :
    (reactor.beginRun effect).Answered := by
  have counted : ((reactor.unsubscribe effect).modifyEffect effect fun cell =>
      { cell with runs := cell.runs + 1 }).Answered := answered.unsubscribe effect fun _ => rfl
  exact counted.of_eq rfl rfl

theorem Answered.stop (answered : reactor.Answered) (effect : EffectId) :
    (reactor.stop effect).Answered := by
  unfold Reactor.stop
  split
  · exact answered.unsubscribe effect fun _ => rfl
  · exact answered

theorem depsOf_addEffect (reactor : Reactor β) (body : β) (timing : Timing) (joins : Bool) :
    (reactor.addEffect body timing joins).2.depsOf other = reactor.depsOf other := by
  obtain ⟨scopes, same⟩ := fields_addEffect reactor body timing joins
  rw [same]
  unfold depsOf
  dsimp only
  rw [Array.getElem?_push]
  split
  case isTrue new =>
    rw [new, Array.getElem?_eq_none (Nat.le_refl _)]
    rfl
  case isFalse => rfl

theorem Answered.addEffect (answered : reactor.Answered) (body : β) (timing : Timing)
    (joins : Bool) : (reactor.addEffect body timing joins).2.Answered := by
  constructor
  intro effect dep noted
  rw [depsOf_addEffect] at noted
  obtain ⟨scopes, same⟩ := fields_addEffect reactor body timing joins
  rw [same]
  exact answered.subscribed noted

theorem answered_empty : (empty : Reactor β).Answered where
  subscribed noted := nomatch noted

end Reactor

theorem elementary_answered :
    Elementary fun before after : Reactor Body => before.Answered → after.Answered where
  refl _ := id
  trans first second := second ∘ first
  setting _ _ _ _ _ answered := answered.of_eq rfl rfl
  scopes _ _ answered := answered.of_eq rfl rfl
  note _ _ answered := answered.of_eq rfl rfl
  track _ dep answered := answered.track dep
  enqueue reactor effect answered := by
    obtain ⟨effects, subscribers⟩ := Reactor.fields_enqueue reactor effect
    exact answered.of_eq effects subscribers
  next found answered :=
    answered.of_eq (Act.waits_next? found).2.2.2.2 (Reactor.fields_next? found).2
  beginRun _ answered := answered.beginRun _
  addEffect _ body timing joins answered := answered.addEffect body timing joins
  stop _ effect answered := answered.stop effect

/-! ## Reachable states -/

/-- The elementary changes of the effects, in the middle of a run or outside of all runs. -/
inductive Change : Reactor Body → Reactor Body → Prop where
  | setting (reactor : Reactor Body) (batchDepth : Nat) (flushing : Bool)
      (activeEffect : Option EffectId) (activeScope : Option EffectScopeId) :
      Change reactor { reactor with batchDepth, flushing, activeEffect, activeScope }
  | scopes (reactor : Reactor Body) (scopes : Array EffectScope) :
      Change reactor { reactor with scopes }
  | note (reactor : Reactor Body) (event : Event) : Change reactor (reactor.note event)
  | track (reactor : Reactor Body) (dep : DepId) : Change reactor (reactor.track dep)
  | enqueue (reactor : Reactor Body) (effect : EffectId) : Change reactor (reactor.enqueue effect)
  | next {reactor rest : Reactor Body} {effect : EffectId} :
      reactor.next? = some (effect, rest) → Change reactor rest
  | beginRun {reactor : Reactor Body} {effect : EffectId} :
      reactor.isActive effect = true → Change reactor (reactor.beginRun effect)
  | addEffect (reactor : Reactor Body) (body : Body) (timing : Timing) (joins : Bool) :
      Change reactor (reactor.addEffect body timing joins).2
  | stop (reactor : Reactor Body) (effect : EffectId) : Change reactor (reactor.stop effect)

/-- From one state of the effects, any number of elementary changes lead to another. -/
abbrev Changes : Reactor Body → Reactor Body → Prop :=
  Relation.ReflTransGen Change

theorem elementary_changes : Elementary Changes where
  refl _ := .refl
  trans := .trans
  setting reactor batchDepth flushing activeEffect activeScope :=
    .single (.setting reactor batchDepth flushing activeEffect activeScope)
  scopes reactor scopes := .single (.scopes reactor scopes)
  note reactor event := .single (.note reactor event)
  track reactor dep := .single (.track reactor dep)
  enqueue reactor effect := .single (.enqueue reactor effect)
  next found := .single (.next found)
  beginRun active := .single (.beginRun active)
  addEffect reactor body timing joins := .single (.addEffect reactor body timing joins)
  stop reactor effect := .single (.stop reactor effect)

theorem Elementary.change {S : Reactor Body → Reactor Body → Prop} (elementary : Elementary S)
    {before after : Reactor Body} (change : Change before after) : S before after := by
  cases change with
  | setting batchDepth flushing activeEffect activeScope =>
      exact elementary.setting before batchDepth flushing activeEffect activeScope
  | scopes scopes => exact elementary.scopes before scopes
  | note event => exact elementary.note before event
  | track dep => exact elementary.track before dep
  | enqueue effect => exact elementary.enqueue before effect
  | next found => exact elementary.next found
  | beginRun active => exact elementary.beginRun active
  | addEffect body timing joins => exact elementary.addEffect before body timing joins
  | stop effect => exact elementary.stop before effect

theorem Elementary.changes {S : Reactor Body → Reactor Body → Prop} (elementary : Elementary S)
    {before after : Reactor Body} (changes : Changes before after) : S before after := by
  induction changes with
  | refl => exact elementary.refl before
  | tail _ change ih => exact elementary.trans ih (elementary.change change)

/-- Whatever program has run, elementary changes have led to where it ends. -/
theorem reached_steps (flushLimit nesting : Nat) (program : List Action) :
    Changes .empty (Session.steps (.bounded flushLimit nesting) program .empty).2.reactor :=
  (elementary_changes.respected flushLimit nesting).steps program .empty

/-! ## Runs of queued effects -/

namespace Act

/-- Work the queues off, and list the effects that are run, the first one first. -/
def drainListing (runner : Runner) : Nat → World → (Except Fault Unit × World) × List EffectId
  | 0, world => ((.error .exhausted, world), [])
  | limit + 1, world =>
      match world.reactor.next? with
      | none => ((.ok (), world), [])
      | some (effect, rest) =>
          let taken := world.withReactor fun _ => rest
          if rest.isActive effect then
            match (runEffect runner effect).run taken with
            | (.error fault, after) => ((.error fault, after), [effect])
            | (.ok _, after) =>
                let (outcome, later) := drainListing runner limit after
                (outcome, effect :: later)
          else drainListing runner limit taken

theorem drainListing_fst (runner : Runner) (limit : Nat) (world : World) :
    (drainListing runner limit world).1 = (drain runner limit).run world := by
  induction limit generalizing world with
  | zero => rfl
  | succ limit ih =>
      unfold drainListing
      cases found : world.reactor.next? with
      | none => rw [run_drain_none runner limit found]
      | some entry =>
          rw [run_drain_next runner limit found]
          dsimp only
          split
          case isTrue =>
            rw [run_bind]
            rcases (runEffect runner entry.1).run (world.withReactor fun _ => entry.2) with
              ⟨fault | value, after⟩
            · rfl
            · exact ih after
          case isFalse => exact ih _

/-- A stopped effect is not run while the queues are worked off, though it waits in them. -/
theorem not_mem_drainListing {runner : Runner}
    (retires : ∀ other, Along (Elementary.InWorld Reactor.Retires) (runEffect runner other))
    (limit : Nat) {world : World} {effect : EffectId} {cell : Effect Body}
    (found : world.reactor.effects[effect]? = some cell) (stopped : cell.active = false) :
    effect ∉ (drainListing runner limit world).2 := by
  induction limit generalizing world with
  | zero => exact List.not_mem_nil
  | succ limit ih =>
      unfold drainListing
      cases next : world.reactor.next? with
      | none => exact List.not_mem_nil
      | some entry =>
          have still : entry.2.effects[effect]? = some cell :=
            (waits_next? next).2.2.2.2 ▸ found
          dsimp only
          split
          case isTrue active =>
            have apart : effect ≠ entry.1 := by
              rintro rfl
              obtain ⟨cell', found', active⟩ := Reactor.found_of_isActive active
              cases still.symm.trans found'
              exact Bool.false_ne_true (stopped.symm.trans active)
            have late := retires entry.1 (world.withReactor fun _ => entry.2) effect cell still
              stopped
            rcases ran : (runEffect runner entry.1).run (world.withReactor fun _ => entry.2) with
              ⟨fault | value, after⟩ <;> rw [ran] at late
            · exact fun same => apart (List.mem_singleton.mp same)
            · exact fun among => (List.mem_cons.mp among).elim apart (ih late)
          case isFalse => exact ih still

end Act

/--
In every state that elementary changes lead to, be it in the middle of a run, of a flush or of a
batch, an effect is among the subscribers of tracked state just when that state is among what
the effect has noted.  An effect that was stopped is subscribed to nothing; it stays as it is,
and however it waits in the queues, whoever works them off later does not run it.  Programs
change effects by nothing but elementary changes.
-/
theorem subscriptions_mirrored (flushLimit nesting : Nat) {reactor : Reactor Body}
    (reached : Changes .empty reactor) :
    (∀ effect dep, effect ∈ reactor.subscribersOf dep ↔ dep ∈ reactor.depsOf effect) ∧
      (∀ effect < reactor.effects.size, reactor.isActive effect = false →
        (∀ dep, effect ∉ reactor.subscribersOf dep) ∧
          ∀ later : World, Changes reactor later.reactor →
            Retired reactor later.reactor effect ∧
              ∀ limit,
                (Act.drainListing (.bounded flushLimit nesting) limit later).1 =
                    (Act.drain (.bounded flushLimit nesting) limit).run later ∧
                  effect ∉ (Act.drainListing (.bounded flushLimit nesting) limit later).2) ∧
        ∀ (world : World) (program : List Action), world.reactor = reactor →
          Changes reactor
            (Session.steps (.bounded flushLimit nesting) program world).2.reactor := by
  have linked {reactor : Reactor Body} (reached : Changes .empty reactor) : reactor.Linked :=
    elementary_linked.changes reached Reactor.linked_empty
  have answered := elementary_answered.changes reached Reactor.answered_empty
  refine ⟨fun effect dep => ⟨(linked reached).noted, answered.subscribed⟩, ?_, ?_⟩
  · intro effect known stopped
    have retired {later : Reactor Body} (changes : Changes reactor later) :
        Retired reactor later effect :=
      (elementary_retires.changes changes).retired (linked (reached.trans changes)) known stopped
    refine ⟨(retired .refl).unsubscribed, fun later changes => ⟨retired changes, ?_⟩⟩
    refine fun limit => ⟨Act.drainListing_fst _ limit later, ?_⟩
    obtain ⟨cell, found, off⟩ := Reactor.found_of_stopped known stopped
    have found := (retired changes).same.trans found
    exact Act.not_mem_drainListing
      (elementary_retires.respected flushLimit nesting).runEffect limit found off
  · rintro world program rfl
    exact (elementary_changes.respected flushLimit nesting).steps program world

/-- Two effects read a cell. -/
def bothReading : List Action :=
  [.assign "cell" (.operate .newRef [.literal (.int 1)]),
    .effect "first" .pre true [.operate .getRef [.named "cell"]],
    .effect "second" .pre true [.operate .getRef [.named "cell"]]]

def bothRead : World :=
  (Session.steps (.bounded 8 3) bothReading .empty).2

/-- Both effects wait to run again when the first of them is stopped. -/
def stoppedWaiting : World :=
  bothRead.withReactor fun reactor => ((reactor.enqueue 0).enqueue 1).stop 0

theorem subscriptions_mirrored_waiting :
    bothRead.reactor.subscribersOf 0 = [0, 1] ∧ stoppedWaiting.reactor.preQueue = [0, 1] ∧
      stoppedWaiting.reactor.subscribersOf 0 = [1] ∧ 0 ∈ stoppedWaiting.reactor.depsOf 1 ∧
        (∀ dep, 0 ∉ stoppedWaiting.reactor.subscribersOf dep) ∧
          (Act.drainListing (.bounded 8 3) 5 stoppedWaiting).2 = [1] ∧
            0 ∉ (Act.drainListing (.bounded 8 3) 5 stoppedWaiting).2 := by
  have read : Changes .empty bothRead.reactor := by
    unfold bothRead
    exact reached_steps 8 3 bothReading
  have waiting := (read.tail (.enqueue _ 0)).tail (.enqueue _ 1)
  have reached : Changes .empty stoppedWaiting.reactor := by
    rw [stoppedWaiting, World.withReactor_reactor]
    exact waiting.tail (Change.stop _ 0)
  obtain ⟨both, stopped, -⟩ := subscriptions_mirrored 8 3 reached
  have reader : stoppedWaiting.reactor.subscribersOf 0 = [1] := by decide +kernel
  obtain ⟨unsubscribed, later⟩ := stopped 0 (by decide +kernel) (by decide +kernel)
  obtain ⟨-, unrun⟩ := later stoppedWaiting .refl
  refine ⟨by decide +kernel, by decide +kernel, reader, ?_, unsubscribed, by decide +kernel,
    (unrun 5).2⟩
  exact (both 1 0).mp (reader ▸ List.mem_singleton_self 1)

end ReactiveSchema
