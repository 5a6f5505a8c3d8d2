import Mathlib.Data.List.Nodup
import ReactiveSchema.Proofs.View.Unmount

/-!
# Who hears of a render pass

A registration of a listener is ended by its own closure, which takes away the first equal
listener that it finds.  As long as every registration has a listener of its own, what is left
are the registrations that were not ended, in their order; a pass that renders well tells them
one after another, until one of them fails.  Registrations of one listener are not told apart.
-/

namespace ReactiveSchema

/-! ## Dealings with listeners -/

/-- What was done about the listeners of a view. -/
inductive Dealing where
  /-- A listener was registered; the closure ends the registration. -/
  | subscribed (listener : ListenerId) (closure : Nat)
  /-- The closure of the registration of this number was called. -/
  | left (number : Nat)

/-- A registration, and whether its own closure was called. -/
structure Registration where
  listener : ListenerId
  closure : Nat
  ended : Bool

namespace Registration

/-- The registration once its closure was called. -/
def leave (registration : Registration) : Registration :=
  { registration with ended := true }

/-- The registrations that come of some dealings, the latest of which comes first. -/
def ofDealings : List Dealing → List Registration
  | [] => []
  | .subscribed listener closure :: earlier => ofDealings earlier ++ [⟨listener, closure, false⟩]
  | .left number :: earlier => (ofDealings earlier).modify number leave

/-- The listeners of the registrations that were not ended. -/
def surviving (registrations : List Registration) : List ListenerId :=
  (registrations.filter fun registration => !registration.ended).map (·.listener)

/-- The listeners that a view is left with: a call takes away the first equal one. -/
def heard : List Dealing → List ListenerId
  | [] => []
  | .subscribed listener _ :: earlier => heard earlier ++ [listener]
  | .left number :: earlier =>
      match (ofDealings earlier)[number]? with
      | some registration => (heard earlier).erase registration.listener
      | none => heard earlier

theorem surviving_append (registrations : List Registration) (listener : ListenerId)
    (closure : Nat) :
    surviving (registrations ++ [⟨listener, closure, false⟩]) =
      surviving registrations ++ [listener] := by
  simp [surviving]

theorem surviving_subset (registrations : List Registration) :
    surviving registrations ⊆ registrations.map (·.listener) :=
  List.map_subset _ List.filter_sublist.subset

theorem map_listener_modify (registrations : List Registration) (number : Nat) :
    (registrations.modify number leave).map (·.listener) = registrations.map (·.listener) := by
  induction registrations generalizing number with
  | nil => cases number <;> rfl
  | cons registration rest ih =>
      cases number with
      | zero => rfl
      | succ number => simp [ih]

/-- Among listeners of their own, a registration is ended by taking its listener away. -/
theorem erase_surviving {registrations : List Registration} {number : Nat}
    {registration : Registration} (found : registrations[number]? = some registration)
    (apart : (registrations.map (·.listener)).Nodup) :
    (surviving registrations).erase registration.listener =
      surviving (registrations.modify number leave) := by
  induction registrations generalizing number with
  | nil => cases found
  | cons first rest ih =>
      rw [List.map_cons, List.nodup_cons] at apart
      cases number with
      | zero =>
          cases found
          have gone : registration.listener ∉ surviving rest := fun left =>
            apart.1 (surviving_subset rest left)
          cases ended : registration.ended with
          | false => simp [surviving, leave, ended]
          | true => simpa [surviving, leave, ended] using List.erase_of_not_mem gone
      | succ number =>
          rw [List.getElem?_cons_succ] at found
          have other : first.listener ≠ registration.listener := by
            intro same
            exact apart.1 (same ▸ List.mem_map_of_mem (List.mem_of_getElem? found))
          have later := ih found apart.2
          unfold surviving at later ⊢
          cases ended : first.ended with
          | false => simp [ended, other, later]
          | true => simp [ended, later]

/-- Where every registration has a listener of its own, those that were not ended are left. -/
theorem heard_eq_surviving {dealings : List Dealing}
    (apart : ((ofDealings dealings).map (·.listener)).Nodup) :
    heard dealings = surviving (ofDealings dealings) := by
  induction dealings with
  | nil => rfl
  | cons dealing earlier ih =>
      cases dealing with
      | subscribed listener closure =>
          rw [ofDealings, List.map_append] at apart
          rw [heard, ofDealings, surviving_append, ih apart.of_append_left]
      | left number =>
          rw [ofDealings, map_listener_modify] at apart
          rw [heard, ofDealings]
          cases found : (ofDealings earlier)[number]? with
          | none =>
              dsimp only
              rw [List.modify_eq_self (List.getElem?_eq_none_iff.mp found), ih apart]
          | some registration =>
              dsimp only
              rw [ih apart, erase_surviving found apart]

/-- One listener is registered twice, and the first registration ended twice: both are gone. -/
example : heard [.left 0, .left 0, .subscribed 7 1, .subscribed 7 0] = [] ∧
    surviving (ofDealings [.left 0, .left 0, .subscribed 7 1, .subscribed 7 0]) = [7] := by
  decide

/-- Ending the second of two registrations of one listener ends the first instead. -/
example : heard [.left 2, .subscribed 7 2, .subscribed 8 1, .subscribed 7 0] = [8, 7] ∧
    surviving (ofDealings [.left 2, .subscribed 7 2, .subscribed 8 1, .subscribed 7 0]) =
      [7, 8] := by
  decide

end Registration

open Registration

variable {id : ViewId} {world after : World} {runner : Runner} {dealings : List Dealing}

/-- The listeners of a view, if it exists. -/
def World.listenersOf (world : World) (id : ViewId) : Option (List ListenerId) :=
  world.views[id]?.map (·.listeners)

/--
These dealings have been had with the listeners of a view, from a time when it had none.  In
between anything else may happen that leaves the list of its listeners as it is, and keeps the
closures that there are.
-/
inductive Dealt (id : ViewId) : List Dealing → World → Prop where
  | fresh {world : World} : world.listenersOf id = some [] → Dealt id [] world
  | subscribe {dealings : List Dealing} {world after : World} {listener : ListenerId}
      {closure : Nat} : Dealt id dealings world →
        (Act.subscribe id listener).run world = (.ok (.handle .closure closure), after) →
          Dealt id (.subscribed listener closure :: dealings) after
  | leave {dealings : List Dealing} {world after : World} {number : Nat}
      {registration : Registration} {result : Except Fault Value} : Dealt id dealings world →
        (ofDealings dealings)[number]? = some registration →
          (Act.callClosure registration.closure).run world = (result, after) →
            Dealt id (.left number :: dealings) after
  | otherwise {dealings : List Dealing} {world after : World} : Dealt id dealings world →
      after.listenersOf id = world.listenersOf id →
        (∀ (closure : Nat) (made : Closure), world.closures[closure]? = some made →
          after.closures[closure]? = some made) → Dealt id dealings after

namespace Act

theorem run_subscribe (id : ViewId) (listener : ListenerId) (world : World) :
    (subscribe id listener).run world =
      (.ok (.handle .closure world.closures.size),
        (world.withView id fun view => { view with listeners := view.listeners ++ [listener] })
          |>.withClosure (.unsubscribe id listener)) := rfl

theorem run_callClosure_unsubscribe {closure : Nat} {listener : ListenerId}
    (found : world.closures[closure]? = some (.unsubscribe id listener)) :
    (callClosure closure).run world =
      (.ok .none,
        world.withView id fun view => { view with listeners := view.listeners.erase listener }) := by
  unfold callClosure
  rw [run_bind, run_get]
  dsimp only
  rw [found]
  rfl

end Act

theorem World.listenersOf_withView {heard : List ListenerId}
    (known : world.listenersOf id = some heard) (change : View → View) {left : List ListenerId}
    (same : ∀ view, view.listeners = heard → (change view).listeners = left) :
    (world.withView id change).listenersOf id = some left := by
  obtain ⟨view, found, listeners⟩ := Option.map_eq_some_iff.mp known
  unfold listenersOf
  rw [Act.found_withView found, Option.map_some, same view listeners]

/-- What the closures of registrations do, and whom the view is left with. -/
structure Listening (id : ViewId) (dealings : List Dealing) (world : World) : Prop where
  listeners : world.listenersOf id = some (heard dealings)
  closures : ∀ registration ∈ ofDealings dealings,
    world.closures[registration.closure]? = some (.unsubscribe id registration.listener)

theorem Listening.subscribe (listening : Listening id dealings world) (listener : ListenerId) :
    Listening id (.subscribed listener world.closures.size :: dealings)
      ((world.withView id fun view => { view with listeners := view.listeners ++ [listener] })
        |>.withClosure (.unsubscribe id listener)) where
  listeners := World.listenersOf_withView listening.listeners _ fun view same => by
    rw [same]
    rfl
  closures registration known := by
    rw [ofDealings, List.mem_append, List.mem_singleton] at known
    rcases known with earlier | rfl
    · have found := listening.closures registration earlier
      have early : registration.closure < world.closures.size :=
        (Array.getElem?_eq_some_iff.mp found).1
      exact (Array.getElem?_push_lt early).trans ((Array.getElem?_eq_getElem early).symm.trans found)
    · exact Array.getElem?_push_size

theorem mem_modify_leave {registrations : List Registration} {number : Nat}
    {registration : Registration} (known : registration ∈ registrations.modify number leave) :
    ∃ earlier ∈ registrations, registration.listener = earlier.listener ∧
      registration.closure = earlier.closure := by
  obtain ⟨place, found⟩ := List.mem_iff_getElem?.mp known
  rw [List.getElem?_modify, Option.map_eq_map, Option.map_eq_some_iff] at found
  obtain ⟨earlier, there, rfl⟩ := found
  refine ⟨earlier, List.mem_of_getElem? there, ?_⟩
  split <;> exact ⟨rfl, rfl⟩

theorem Listening.leave {number : Nat} {registration : Registration}
    (listening : Listening id dealings world)
    (found : (ofDealings dealings)[number]? = some registration) :
    Listening id (.left number :: dealings) (world.withView id fun view =>
      { view with listeners := view.listeners.erase registration.listener }) where
  listeners := World.listenersOf_withView listening.listeners _ fun view same => by
    rw [same, heard, found]
  closures other known := by
    rw [ofDealings] at known
    obtain ⟨earlier, there, listener, closure⟩ := mem_modify_leave known
    rw [listener, closure]
    exact listening.closures earlier there

/-- Dealings leave a view with the listeners that they come to. -/
theorem Dealt.listening (dealt : Dealt id dealings world) : Listening id dealings world := by
  induction dealt with
  | fresh none => exact ⟨none, nofun⟩
  | subscribe _ ran ih =>
      rw [Act.run_subscribe] at ran
      cases ran
      exact ih.subscribe _
  | leave _ found ran ih =>
      rw [Act.run_callClosure_unsubscribe (ih.closures _ (List.mem_of_getElem? found))] at ran
      cases ran
      exact ih.leave found
  | otherwise _ same kept ih =>
      exact ⟨same.trans ih.listeners,
        fun registration known => kept _ _ (ih.closures registration known)⟩

theorem Dealt.subscribed (dealt : Dealt id dealings world) (listener : ListenerId) :
    Dealt id (.subscribed listener world.closures.size :: dealings)
      ((world.withView id fun view => { view with listeners := view.listeners ++ [listener] })
        |>.withClosure (.unsubscribe id listener)) :=
  .subscribe dealt (Act.run_subscribe id listener world)

theorem Dealt.left {registration : Registration} (dealt : Dealt id dealings world) (number : Nat)
    (found : (ofDealings dealings)[number]? = some registration) :
    Dealt id (.left number :: dealings) (world.withView id fun view =>
      { view with listeners := view.listeners.erase registration.listener }) :=
  .leave dealt found (Act.run_callClosure_unsubscribe
    (dealt.listening.closures _ (List.mem_of_getElem? found)))

/-! ## Telling listeners -/

/-- Listeners have been called with an output, one after another, and none has failed. -/
inductive Called (runner : Runner) (output : Value) : World → List ListenerId → World → Prop where
  | none (world : World) : Called runner output world [] world
  | one {world middle last : World} {listener : ListenerId} {rest : List ListenerId} :
      (Act.callListener runner listener output).run world = (.ok (), middle) →
        Called runner output middle rest last → Called runner output world (listener :: rest) last

/-- Listeners are told one after another, until one of them fails. -/
theorem Act.run_callListeners (runner : Runner) (output : Value) (listeners : List ListenerId)
    (world : World) :
    (∃ last, Called runner output world listeners last ∧
        (callListeners runner output listeners).run world = (.ok (), last)) ∨
      ∃ early listener late middle fault last, listeners = early ++ listener :: late ∧
        Called runner output world early middle ∧
          (callListener runner listener output).run middle = (.error fault, last) ∧
            (callListeners runner output listeners).run world = (.error fault, last) := by
  induction listeners generalizing world with
  | nil => exact .inl ⟨world, .none world, rfl⟩
  | cons listener rest ih =>
      unfold callListeners
      rw [run_bind]
      rcases ran : (callListener runner listener output).run world with
        ⟨fault | value, middle⟩
      · exact .inr ⟨[], listener, rest, world, fault, middle, rfl, .none world, ran, rfl⟩
      · rcases ih middle with ⟨last, called, ended⟩ |
          ⟨early, other, late, between, fault, last, rfl, called, failed, ended⟩
        · exact .inl ⟨last, .one ran called, ended⟩
        · exact .inr ⟨listener :: early, other, late, between, fault, last, rfl,
            .one ran called, failed, ended⟩

/-! ## A pass -/

namespace Act

/-- The output of one more pass of a view. -/
def evaluateRoot (id : ViewId) : Act Value := do
  let view ← viewAt id
  let root ← thunkOf (← observe (Observe.refGet view.root))
  observe (Observe.evaluatePass (← isChecked view) root.run)

/-- Take the output of a pass; the listeners that the view has then. -/
def showOutput (id : ViewId) (output : Value) : Act (List ListenerId) := do
  modifyView id fun view => { view with output, renderCount := view.renderCount + 1 }
  let view ← viewAt id
  observe (Observe.log ("DEBUG skema.view: Rendered schema view (pass " ++
    toString view.renderCount ++ ")"))
  return view.listeners

theorem renderView_eq (runner : Runner) (id : ViewId) :
    renderView runner id = (do
      let output ← evaluateRoot id
      let listeners ← showOutput id output
      untracked (callListeners runner output listeners)) := by
  unfold renderView evaluateRoot showOutput
  simp only [bind_assoc, pure_bind]

end Act

/-- Nothing is done about views, listeners and closures, and no listener is heard of. -/
structure World.Undisturbed (before after : World) : Prop where
  views : after.views = before.views
  listeners : after.listeners = before.listeners
  closures : after.closures = before.closures
  entries : after.entries = before.entries

theorem World.composable_undisturbed : Composable World.Undisturbed where
  refl _ := ⟨rfl, rfl, rfl, rfl⟩
  trans first second := ⟨second.views.trans first.views, second.listeners.trans first.listeners,
    second.closures.trans first.closures, second.entries.trans first.entries⟩

theorem Act.undisturbed_observe {α : Type} (look : Observe α) :
    Along World.Undisturbed (observe look) :=
  fun _ => ⟨rfl, rfl, rfl, rfl⟩

/-- While a view is evaluated, nothing is done about its listeners. -/
theorem Act.undisturbed_evaluateRoot (id : ViewId) : Along World.Undisturbed (evaluateRoot id) := by
  have path := World.composable_undisturbed
  refine path.bind (path.closed.viewAt id) fun view => ?_
  refine path.bind (undisturbed_observe _) fun closure => ?_
  refine path.bind (path.closed.thunkOf closure) fun root => ?_
  exact path.bind (path.closed.isChecked view) fun checked => undisturbed_observe _

/-- A view that has been evaluated shows the output, as one pass more. -/
theorem Act.run_showOutput {listeners : List ListenerId}
    (known : world.listenersOf id = some listeners) (output : Value) :
    ∃ shown, (showOutput id output).run world = (.ok listeners, shown) ∧
      World.Undisturbed (world.showing id output) shown := by
  obtain ⟨view, found, rfl⟩ := Option.map_eq_some_iff.mp known
  have changed := found_withView found fun view =>
    { view with output, renderCount := view.renderCount + 1 }
  unfold showOutput
  rw [run_bind_of_ok (run_modifyView _ _ _), run_bind_of_ok (run_viewAt changed)]
  exact ⟨_, rfl, ⟨rfl, rfl, rfl, rfl⟩⟩

theorem World.Undisturbed.dealt (undisturbed : World.Undisturbed world after)
    (dealt : Dealt id dealings world) : Dealt id dealings after := by
  refine .otherwise dealt ?_ fun closure made known => ?_
  · unfold World.listenersOf
    rw [undisturbed.views]
  · rwa [undisturbed.closures]

/-- What comes of rendering a view again that has these listeners. -/
inductive Rerendered (runner : Runner) (id : ViewId) (listeners : List ListenerId)
    (world : World) : Except Fault Unit × World → Prop where
  /-- The pass failed, and no listener was called. -/
  | failed {fault : Fault} {after : World} : World.Undisturbed world after →
      Rerendered runner id listeners world (.error fault, after)
  /-- The pass was shown, and every listener was called with its output, each in its turn. -/
  | told {output : Value} {evaluated shown last : World} : World.Undisturbed world evaluated →
      World.Undisturbed (evaluated.showing id output) shown →
        Called runner output (shown.withReactor (.asEffect none)) listeners last →
          Rerendered runner id listeners world
            (.ok (), last.withReactor (.asEffect shown.reactor.activeEffect))
  /-- The pass was shown, but a listener failed, and those after it were not called. -/
  | cut {output : Value} {evaluated shown middle last : World} {early late : List ListenerId}
      {listener : ListenerId} {fault : Fault} : World.Undisturbed world evaluated →
      World.Undisturbed (evaluated.showing id output) shown →
        listeners = early ++ listener :: late →
        Called runner output (shown.withReactor (.asEffect none)) early middle →
          (Act.callListener runner listener output).run middle = (.error fault, last) →
            Rerendered runner id listeners world
              (.error fault, last.withReactor (.asEffect shown.reactor.activeEffect))

theorem Act.rerendered_renderView {listeners : List ListenerId}
    (known : world.listenersOf id = some listeners) (runner : Runner) :
    Rerendered runner id listeners world ((renderView runner id).run world) := by
  have undisturbed := undisturbed_evaluateRoot id world
  rw [renderView_eq, run_bind]
  rcases ran : (evaluateRoot id).run world with ⟨fault | output, evaluated⟩ <;>
    rw [ran] at undisturbed
  · exact .failed undisturbed
  · have still : evaluated.listenersOf id = some listeners := by
      unfold World.listenersOf at known ⊢
      rwa [undisturbed.views]
    obtain ⟨shown, took, quiet⟩ := run_showOutput still output
    dsimp only
    rw [run_bind_of_ok took, untracked, run_withActiveEffect]
    rcases run_callListeners runner output listeners
      (shown.withReactor (.asEffect none)) with ⟨last, called, ended⟩ |
        ⟨early, listener, late, middle, fault, last, split, called, failed, ended⟩
    · rw [ended]
      exact .told undisturbed quiet called
    · rw [ended]
      exact .cut undisturbed quiet split called failed

/--
However listeners were registered with a view and registrations ended before it is rendered
again: a pass that renders well calls exactly the listeners that the dealings come to, each once,
with its output and in their order, until one of them fails.  Where no two registrations have the
same listener, these are the registrations whose own closures were not called, in the order in
which they were made.
-/
theorem rerender_calls_listeners (dealt : Dealt id dealings world) (runner : Runner) :
    Rerendered runner id (heard dealings) world ((Act.renderView runner id).run world) ∧
      (((ofDealings dealings).map (·.listener)).Nodup →
        heard dealings = surviving (ofDealings dealings)) :=
  ⟨Act.rerendered_renderView dealt.listening.listeners runner, heard_eq_surviving⟩

/-- A view that shows an item, and two listeners that note what they hear. -/
def noticedWorld : World :=
  { shownWorld with listeners := #[⟨"first", 0, []⟩, ⟨"second", 0, []⟩] }

/-- Both listeners are registered, and the first registration is ended twice. -/
theorem rerender_calls_listeners_leaving : ∃ first second world,
    Dealt 0 [.left 0, .left 0, .subscribed 1 second, .subscribed 0 first] world ∧
      Rerendered (.bounded 8 3) 0 [1] world ((Act.renderView (.bounded 8 3) 0).run world) ∧
        ((Act.renderView (.bounded 8 3) 0).run world).1.isOk = true := by
  have fresh : noticedWorld.listenersOf 0 = some [] := by decide +kernel
  have both := (Dealt.fresh fresh).subscribed 0 |>.subscribed 1
  have once := both.left 0 (by rfl)
  have twice := once.left 0 (by rfl)
  have rendered := rerender_calls_listeners twice (.bounded 8 3)
  exact ⟨_, _, _, twice, rendered.1, by decide +kernel⟩

end ReactiveSchema
