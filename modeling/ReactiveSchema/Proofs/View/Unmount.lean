import ReactiveSchema.Proofs.Reactive.Aside
import ReactiveSchema.Proofs.Reactive.Linked
import ReactiveSchema.Proofs.View.OneShot

/-!
# Unmounting is for good

An effect that has been stopped stays as it is, whatever happens: it neither runs nor reads
again.  So do the effects of a view that was unmounted.
-/

namespace ReactiveSchema

namespace Reactor

variable {β : Type} {before middle after reactor : Reactor β} {effect other : EffectId}

/-- From one time to another, effects that had been stopped stay as they were. -/
def Retires (before after : Reactor β) : Prop :=
  ∀ (effect : EffectId) (cell : Effect β),
    before.effects[effect]? = some cell → cell.active = false → after.effects[effect]? = some cell

theorem Retires.of_effects (same : after.effects = before.effects) : Retires before after :=
  fun _ _ found _ => same ▸ found

theorem Retires.trans (first : Retires before middle) (second : Retires middle after) :
    Retires before after :=
  fun effect cell found stopped => second effect cell (first effect cell found stopped) stopped

/-- A change of an active effect alone. -/
theorem retires_of_active (active : before.isActive effect = true)
    (others : ∀ other, other ≠ effect → after.effects[other]? = before.effects[other]?) :
    Retires before after := by
  intro other cell found stopped
  refine (others other ?_).trans found
  rintro rfl
  unfold isActive at active
  rw [found, Option.any_some, stopped] at active
  cases active

theorem found_unsubscribe (apart : other ≠ effect) :
    (reactor.unsubscribe effect).effects[other]? = reactor.effects[other]? := by
  obtain ⟨subscribers, same⟩ := fields_dropAll effect (reactor.depsOf effect) reactor
  refine (found_modifyEffect _ apart).trans ?_
  rw [same]

theorem retires_track (reactor : Reactor β) (dep : DepId) :
    Retires reactor (reactor.track dep) := by
  unfold Reactor.track
  split
  case h_1 => exact .of_effects rfl
  case h_2 running _ =>
    split
    case isTrue active => exact retires_of_active active fun _ apart => found_modifyEffect _ apart
    case isFalse => exact .of_effects rfl

theorem retires_stop (reactor : Reactor β) (effect : EffectId) :
    Retires reactor (reactor.stop effect) := by
  unfold Reactor.stop
  split
  case isTrue active =>
    refine retires_of_active active fun other apart => ?_
    exact (found_modifyEffect _ apart).trans (found_unsubscribe apart)
  case isFalse => exact .of_effects rfl

theorem retires_addEffect (reactor : Reactor β) (body : β) (timing : Timing) (joins : Bool) :
    Retires reactor (reactor.addEffect body timing joins).2 := by
  intro effect cell found _
  obtain ⟨scopes, same⟩ := fields_addEffect reactor body timing joins
  have known : effect < reactor.effects.size := (Array.getElem?_eq_some_iff.mp found).1
  rw [same]
  dsimp only
  rw [Array.getElem?_push, if_neg (Nat.ne_of_lt known)]
  exact found

end Reactor

theorem elementary_retires :
    Elementary fun before after : Reactor Body => Reactor.Retires before after where
  refl _ := .of_effects rfl
  trans := .trans
  setting _ _ _ _ _ := .of_effects rfl
  scopes _ _ := .of_effects rfl
  note _ _ := .of_effects rfl
  track := Reactor.retires_track
  enqueue reactor effect := .of_effects (Reactor.fields_enqueue reactor effect).1
  next found := .of_effects (Act.waits_next? found).2.2.2.2
  beginRun active := Reactor.retires_of_active active fun _ apart =>
    (Reactor.found_modifyEffect _ apart).trans (Reactor.found_unsubscribe apart)
  addEffect := Reactor.retires_addEffect
  stop := Reactor.retires_stop

/-! ## After unmounting -/

/-- The resolving effects of a view. -/
def View.resolversIn (view : View) (reactor : Reactor Body) : List EffectId :=
  (view.resolvers.map reactor.membersOf).getD []

/-- The effects of a view: those that compile and render it, and its resolving effects. -/
def World.effectsOf (world : World) (view : View) : List EffectId :=
  view.compileEffect :: view.renderEffect :: view.resolversIn world.reactor

/-- An effect neither runs nor reads any more: it stays as it was when it was stopped. -/
structure Retired (stopped reactor : Reactor Body) (effect : EffectId) : Prop where
  inactive : reactor.isActive effect = false
  same : reactor.effects[effect]? = stopped.effects[effect]?
  unsubscribed (dep : DepId) : effect ∉ reactor.subscribersOf dep

theorem Reactor.Retires.retired {stopped reactor : Reactor Body} {effect : EffectId}
    (retires : stopped.Retires reactor) (linked : reactor.Linked)
    (known : effect < stopped.effects.size) (inactive : stopped.isActive effect = false) :
    Retired stopped reactor effect := by
  obtain ⟨cell, found, off⟩ := Reactor.found_of_stopped known inactive
  have same := retires effect cell found off
  have still : reactor.isActive effect = false := by
    unfold Reactor.isActive
    rw [same]
    exact off
  refine ⟨still, same.trans found.symm, fun dep reads => ?_⟩
  cases still.symm.trans (linked.active reads)

theorem Reactor.size_stopScope (reactor : Reactor Body) (group : EffectScopeId) :
    (reactor.stopScope group).effects.size = reactor.effects.size :=
  stopScope_along (R := fun before after => after.effects.size = before.effects.size) reactor group
    (fun _ => rfl) (fun first second => second.trans first)
    (fun start effect _ => size_stop start effect) fun _ _ => rfl

theorem View.size_stopping (view : View) (reactor : Reactor Body) :
    (view.stopping reactor).effects.size = reactor.effects.size := by
  unfold View.stopping
  split
  · rfl
  · exact Reactor.size_stopScope reactor _

theorem View.isActive_stopping_of_stopped {view : View} {reactor : Reactor Body} {effect : EffectId}
    (stopped : reactor.isActive effect = false) :
    (view.stopping reactor).isActive effect = false := by
  unfold View.stopping
  split
  · exact stopped
  · exact Reactor.isActive_stopScope_of_stopped _ stopped

theorem View.isActive_stopping_of_mem {view : View} {reactor : Reactor Body} {effect : EffectId}
    (member : effect ∈ view.resolversIn reactor) :
    (view.stopping reactor).isActive effect = false := by
  unfold View.resolversIn at member
  unfold View.stopping
  cases group : view.resolvers with
  | none =>
      rw [group] at member
      cases member
  | some group' =>
      rw [group] at member
      exact Reactor.isActive_stopScope_of_mem member

/-- Unmounting stops all effects of a view. -/
theorem Act.isActive_unmount {world : World} {id : ViewId} {view : View} {effect : EffectId}
    (found : world.views[id]? = some view) (own : effect ∈ world.effectsOf view) :
    ((unmount id).run world).2.reactor.isActive effect = false := by
  rw [run_unmount found]
  refine (?_ : (view.stopping ((world.reactor.stop view.renderEffect).stop
    view.compileEffect)).isActive effect = false)
  unfold World.effectsOf at own
  rcases List.mem_cons.mp own with rfl | own
  · exact View.isActive_stopping_of_stopped (Reactor.isActive_stop_self _ _)
  · rcases List.mem_cons.mp own with rfl | member
    · refine View.isActive_stopping_of_stopped ?_
      exact Reactor.isActive_stop_of_stopped (Reactor.isActive_stop_self _ _)
    · refine View.isActive_stopping_of_mem ?_
      unfold View.resolversIn at member ⊢
      cases group : view.resolvers with
      | none => rwa [group] at member
      | some group' =>
          rw [group] at member
          refine (?_ : _ ∈ Reactor.membersOf _ group')
          rwa [Reactor.membersOf_stop, Reactor.membersOf_stop]

theorem Act.size_unmount {world : World} {id : ViewId} {view : View}
    (found : world.views[id]? = some view) :
    ((unmount id).run world).2.reactor.effects.size = world.reactor.effects.size := by
  rw [run_unmount found]
  refine (View.size_stopping view _).trans ?_
  exact (Reactor.size_stop _ _).trans (Reactor.size_stop _ _)

/--
Unmounting a view never fails, be it in the middle of a batch, of a flush or of a run of one of
its own effects.  From then on, whatever program runs, all effects of the view stay as they
are: none of them begins a run, and none is subscribed to anything.
-/
theorem unmounted_for_good {world : World} {id : ViewId} {view : View}
    (linked : world.reactor.Linked) (found : world.views[id]? = some view)
    (flushLimit nesting : Nat) (later : List Action) :
    ∃ unmounted, (Act.unmount id).run world = (.ok (), unmounted) ∧
      ∀ effect ∈ world.effectsOf view, effect < world.reactor.effects.size →
        Retired unmounted.reactor
          (Session.steps (.bounded flushLimit nesting) later unmounted).2.reactor effect := by
  have ran : (Act.unmount id).run world = (.ok (), ((Act.unmount id).run world).2) := by
    rw [Act.run_unmount found]
  refine ⟨_, ran, fun effect own known => ?_⟩
  have stopped := Act.isActive_unmount found own
  have known := Nat.lt_of_lt_of_eq known (Act.size_unmount found).symm
  have linked := (elementary_linked.respected flushLimit nesting).unmount id world linked
  have linked := (elementary_linked.respected flushLimit nesting).steps later _ linked
  have retires := (elementary_retires.respected flushLimit nesting).steps later
    ((Act.unmount id).run world).2
  exact retires.retired linked known stopped

/-- A view shows an item of live data. -/
def showing : List Action :=
  [.assign "data" (.operate .makeLive [.literal (.map [(.str "a", .int 1)])]),
    .mount "view" (.literal (.map [(.str "$el", .str "p"), (.str "children", .str "$a")]))
      (.named "data") (.literal .none) (.literal .none)]

def shownWorld : World :=
  (Session.steps (.bounded 8 3) showing .empty).2

/-- The item is written. -/
def rewriting : List Action :=
  [.operate .set [.named "data", .literal (.str "a"), .literal (.int 2)]]

theorem unmounted_for_good_rewriting :
    shownWorld.reactor.subscribersOf 6 = [1] ∧ shownWorld.reactor.subscribersOf 5 = [2] ∧
      ∃ unmounted, (Act.unmount 0).run shownWorld = (.ok (), unmounted) ∧
        ∀ effect ∈ [0, 2, 1], Retired unmounted.reactor
          (Session.steps (.bounded 8 3) rewriting unmounted).2.reactor effect := by
  have owned : shownWorld.views[0]?.map shownWorld.effectsOf = some [0, 2, 1] := by decide +kernel
  have known : ∀ effect ∈ [0, 2, 1], effect < shownWorld.reactor.effects.size := by decide +kernel
  have linked : shownWorld.reactor.Linked := by
    unfold shownWorld
    exact linked_steps 8 3 showing
  refine ⟨by decide +kernel, by decide +kernel, ?_⟩
  obtain ⟨view, found, same⟩ := Option.map_eq_some_iff.mp owned
  obtain ⟨unmounted, ran, retired⟩ := unmounted_for_good linked found 8 3 rewriting
  exact ⟨unmounted, ran, fun effect own => retired effect (same ▸ own) (known effect own)⟩

end ReactiveSchema
